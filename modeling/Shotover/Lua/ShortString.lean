-- How Lua reads a list of short string literals: `'a','b',...`, the text that
-- `wrap_command` splices into `redis.call(...)`. Redis runs scripts in Lua 5.1, whose lexer
-- (`read_string` of `llex.c`) gives the states below. Lua is not part of the repository;
-- this is the reader that the EVAL script meets.
import Mathlib.Data.List.Basic

namespace shotover.lua

/-! ## The reader -/

/-- Where the reader stands: before a literal, inside one, after a backslash, inside `\ddd`, after
an escaped line break, after a closing quote, or stopped on an error. -/
inductive State where
  | expectString
  | body (del : UInt8)
  | escape (del : UInt8)
  | decimal (del : UInt8) (value : Nat) (digits : Nat)
  | newline (del : UInt8) (first : UInt8)
  | afterString
  | error
  deriving DecidableEq

structure Reader where
  state : State
  current : List UInt8
  strings : List (List UInt8)
  deriving DecidableEq

def quote : UInt8 := 39
def backslash : UInt8 := 92
def comma : UInt8 := 44

def isDigit (c : UInt8) : Bool := 48 ≤ c && c ≤ 57

def isLineBreak (c : UInt8) : Bool := c == 10 || c == 13

/-- The blanks that Lua skips between tokens. -/
def isSpace (c : UInt8) : Bool := c == 32 || (9 ≤ c && c ≤ 13)

/-- The byte that a one-letter escape stands for: `\a \b \f \n \r \t \v`. -/
def escapeByte (c : UInt8) : Option UInt8 :=
  [((97 : UInt8), (7 : UInt8)), (98, 8), (102, 12), (110, 10), (114, 13), (116, 9), (118, 11)].lookup c

/-- A byte in the body of a literal: the closing delimiter, a line break (an unfinished
string), a backslash, or a byte of the string. -/
def Reader.body (r : Reader) (del c : UInt8) : Reader :=
  if c = del then { state := .afterString, current := [], strings := r.strings ++ [r.current] }
  else if isLineBreak c then { r with state := .error }
  else if c = backslash then { r with state := .escape del }
  else { r with current := r.current ++ [c] }

def Reader.step (r : Reader) (c : UInt8) : Reader :=
  match r.state with
  | .expectString =>
    if c = quote ∨ c = 34 then { r with state := .body c, current := [] }
    else if isSpace c then r else { r with state := .error }
  | .body del => r.body del c
  | .escape del =>
    match escapeByte c with
    | some b => { r with state := .body del, current := r.current ++ [b] }
    | none =>
      if isLineBreak c then { r with state := .newline del c, current := r.current ++ [10] }
      else if isDigit c then { r with state := .decimal del (c - 48).toNat 1 }
      else { r with state := .body del, current := r.current ++ [c] }
  | .decimal del value digits =>
    if isDigit c ∧ digits < 3 then
      { r with state := .decimal del (10 * value + (c - 48).toNat) (digits + 1) }
    else if 255 < value then { r with state := .error }
    else { r with current := r.current ++ [value.toUInt8] }.body del c
  | .newline del first =>
    if isLineBreak c ∧ c ≠ first then { r with state := .body del } else r.body del c
  | .afterString =>
    if c = comma then { r with state := .expectString }
    else if isSpace c then r else { r with state := .error }
  | .error => r

def Reader.finish (r : Reader) : Option (List (List UInt8)) :=
  match r.state, r.strings with
  | .afterString, strings => some strings
  | .expectString, [] => some []
  | _, _ => none

/-- The string literals that Lua reads from the text, or `none` when the text is not a
comma-separated list of them. Comments between the literals are not read. -/
def readArgs (text : List UInt8) : Option (List (List UInt8)) :=
  (text.foldl Reader.step ⟨.expectString, [], []⟩).finish

/-! ## Literals that need no escape -/

def plain (c : UInt8) : Bool := c ≠ quote && c ≠ backslash && !isLineBreak c

/-- The argument between single quotes, as `wrap_command` writes it. -/
def quoted (a : List UInt8) : List UInt8 := [quote] ++ a ++ [quote]

theorem intercalate_cons_cons (sep a b : List UInt8) (rest : List (List UInt8)) :
    List.intercalate sep (a :: b :: rest) = a ++ sep ++ List.intercalate sep (b :: rest) := by
  simp [List.intercalate, List.intersperse_cons₂, List.append_assoc]

theorem foldl_body_plain (r : Reader) (a : List UInt8) (hr : r.state = .body quote)
    (ha : a.all plain) :
    a.foldl Reader.step r = { r with current := r.current ++ a } := by
  induction a generalizing r with
  | nil => simp
  | cons c a ih =>
    simp only [List.all_cons, Bool.and_eq_true] at ha
    have hc : (c ≠ quote ∧ c ≠ backslash) ∧ isLineBreak c = false := by
      simpa [plain] using ha.1
    rw [List.foldl_cons, ih _ (by simp [Reader.step, hr, Reader.body, hc]) ha.2]
    simp [Reader.step, hr, Reader.body, hc]

theorem foldl_quoted (r : Reader) (a : List UInt8) (hr : r.state = .expectString)
    (ha : a.all plain) :
    (quoted a).foldl Reader.step r = ⟨.afterString, [], r.strings ++ [a]⟩ := by
  simp only [quoted, List.foldl_append, List.foldl_cons, List.foldl_nil]
  rw [foldl_body_plain _ a (by simp [Reader.step, hr]) ha]
  simp [Reader.step, hr, Reader.body]

/-- The quoted arguments, joined by commas, are read as the arguments. -/
theorem foldl_quoted_args (r : Reader) (args : List (List UInt8)) (hr : r.state = .expectString)
    (hne : args ≠ []) (hargs : ∀ a ∈ args, a.all plain) :
    (List.intercalate [comma] (args.map quoted)).foldl Reader.step r =
      ⟨.afterString, [], r.strings ++ args⟩ := by
  induction args generalizing r with
  | nil => exact absurd rfl hne
  | cons a rest ih =>
    match rest, ih with
    | [], _ => simpa [List.intercalate] using foldl_quoted r a hr (hargs a (by simp))
    | b :: rest, ih =>
      rw [List.map_cons, List.map_cons, intercalate_cons_cons, List.foldl_append,
        List.foldl_append, foldl_quoted r a hr (hargs a (by simp)), ← List.map_cons,
        ih _ (by rfl) (by simp) (fun x hx => hargs x (List.mem_cons_of_mem a hx))]
      simp [Reader.step]

/-- Arguments with no quote, backslash or line break survive the quoting: Lua reads the
joined text as exactly those arguments. -/
theorem readArgs_quoted (args : List (List UInt8)) (hne : args ≠ [])
    (hargs : ∀ a ∈ args, a.all plain) :
    readArgs (List.intercalate [comma] (args.map quoted)) = some args := by
  rw [readArgs, foldl_quoted_args _ args rfl hne hargs]
  rfl

end shotover.lua
