-- The laws of `RedisTimestampTagger` (`timestamp_tagging.rs`): the EVAL script that it
-- wraps a command in, and which answers it unwraps. The flag `tagged_success` is folded
-- with `&&` from `false`, so only an EXEC in the batch makes it unwrap.
import Shotover.Message
import Shotover.Lua.ShortString
import Mathlib

namespace shotover.transforms.timestamp_tagging

open shotover.message shotover.lua

/-! ## Wrapping a command -/

structure RedisTimestampTagger where
  name : String

def RedisTimestampTagger.new : RedisTimestampTagger := ⟨"RedisTimestampTagger"⟩

def RedisTimestampTagger.get_name (self : RedisTimestampTagger) : String := self.name

def value_byte_string (string : List UInt8) : Value := .Bytes string

section wrap

-- The `Debug` form of a value, which `format!` writes for an argument that is not bytes.
variable (debug : Value → List UInt8)

/-- One argument in the script: a byte string between single quotes, as
`format!("'{}'", ..)` writes it with no escaping, or any other value in its `Debug` form. -/
def quoteArg : Value → List UInt8
  | .Bytes b => quoted b
  | v => debug v

/-- The arguments of the command, joined by commas: the text spliced into `redis.call(...)`. -/
def original_command (com : List Value) : List UInt8 :=
  List.intercalate (ascii ",") (com.map (quoteArg debug))

def script (com : List Value) : List UInt8 :=
  ascii "return \x7bredis.call(" ++ original_command debug com ++ ascii ")," ++
    ascii "redis.call('OBJECT', 'IDLETIME', KEYS[1])" ++ ascii "\x7d"

def wrap_command (qm : QueryMessage) : Except Error Value :=
  match qm.primary_key.lookup "key" with
  | some (.List keys) =>
    match keys.head?, qm.ast with
    | some first, some (.Commands (.List com)) =>
      .ok (.List [value_byte_string (ascii "EVAL"), value_byte_string (script debug com),
        value_byte_string (ascii "1"), first])
    | _, _ => .error (.msg "Could not build command from AST")
  | _ => .error (.msg "Could not build command from AST")

def try_tag_query_message (qm : QueryMessage) : QueryMessage × Bool :=
  match wrap_command debug qm with
  | .ok wrapped => ({ qm with ast := some (.Commands wrapped) }, true)
  | .error _ => (qm, false)

end wrap

/-! ## Unwrapping an answer -/

def isList : Value → Bool
  | .List _ => true
  | _ => false

/-- The loop over the answers of a transaction: each answer that is a pair pushes its
timestamp and its result, in the order of the answers; a list of another length is skipped. -/
def splitPairs : List Value → List Value × List Value
  | [] => ([], [])
  | .List [actual, timestamp] :: values =>
    (timestamp :: (splitPairs values).1, actual :: (splitPairs values).2)
  | _ :: values => splitPairs values

/-- The document of the timestamp of one command: `now - i` for an integer `i`
(`as_secs() as i64 - i`, which wraps as `i64` does in a release build), or the value. -/
def timestampOf (now : Nat) : Value → Value
  | .Integer i => .Document [("timestamp", .Integer (BitVec.ofNat 64 now - i))]
  | v => .Document [("timestamp", v)]

/-- `unwrap_response`, at the time `now`, in seconds since the epoch. -/
def unwrap_response (now : Nat) (qr : QueryResponse) : QueryResponse :=
  match qr.result with
  | some (.List values) =>
    if values.all isList && 1 < values.length then
      { qr with
        response_meta := some (.Document [("timestamp", .List (splitPairs values).1)])
        result := some (.List (splitPairs values).2) }
    else
      match values with
      | [actual, timestamp] =>
        { qr with response_meta := some (timestampOf now timestamp), result := some actual }
      | _ => qr
  | _ => qr

/-- The answer that the script gives for one wrapped command: the command's own result and the
idle time of its key. -/
def taggedAnswer (answer : Value × BitVec 64) : Value := .List [answer.1, .Integer answer.2]

theorem splitPairs_taggedAnswers (answers : List (Value × BitVec 64)) :
    splitPairs (answers.map taggedAnswer) =
      (answers.map fun a => .Integer a.2, answers.map Prod.fst) := by
  induction answers with
  | nil => rfl
  | cons a answers ih => simp only [List.map_cons, taggedAnswer, splitPairs, ih]

theorem ofNat_sub_eq_ofInt (now : Nat) (i : BitVec 64) :
    BitVec.ofNat 64 now - i = BitVec.ofInt 64 (now - i.toInt) := by
  apply BitVec.eq_of_toInt_eq
  rw [BitVec.toInt_sub, BitVec.toInt_ofNat, Int.bmod_sub_bmod_congr, BitVec.toInt_ofInt]

theorem toInt_ofInt_sub {now : Nat} {i : BitVec 64} (h0 : 0 ≤ i.toInt) (h1 : i.toInt ≤ now)
    (hnow : now < 2 ^ 63) : (BitVec.ofInt 64 (now - i.toInt)).toInt = now - i.toInt := by
  have hlt : (↑now - i.toInt) % ↑(2 ^ 64 : Nat) = ↑now - i.toInt :=
    Int.emod_eq_of_lt (by omega) (by omega)
  rw [BitVec.toInt_ofInt, Int.bmod_pos _ _ (by omega), hlt]

/-! ## The transform -/

section transform

variable (debug : Value → List UInt8) (now : Nat)

def tagMessage (message : Message) : Message :=
  match message.details with
  | .Query qm => { message with details := .Query (try_tag_query_message debug qm).1 }
  | _ => message

def isExecQuery (message : Message) : Bool :=
  match message.details with
  | .Query qm => qm.ast.any fun a => a.get_command == ascii "EXEC"
  | _ => false

/-- The loop of `transform` over the batch: the tagged batch, `tagged_success` and
`exec_block`. -/
def tagLoop : Messages → Bool → Bool → Messages × Bool × Bool
  | [], tagged_success, exec_block => ([], tagged_success, exec_block)
  | message :: messages, tagged_success, exec_block =>
    match message.details with
    | .Query qm =>
      let rest := tagLoop messages (tagged_success && (try_tag_query_message debug qm).2)
        (exec_block || isExecQuery message)
      ({ message with details := .Query (try_tag_query_message debug qm).1 } :: rest.1, rest.2)
    | _ =>
      let rest := tagLoop messages tagged_success exec_block
      (message :: rest.1, rest.2)

def unwrapMessage (message : Message) : Message :=
  match message.details with
  | .Response qr => { message with details := .Response (unwrap_response now qr), modified := true }
  | _ => message

def RedisTimestampTagger.transform (_self : RedisTimestampTagger) (messages : Messages)
    (call_next_transform : Messages → ChainResponse) : ChainResponse :=
  let loop := tagLoop debug messages false false
  match call_next_transform loop.1 with
  | .ok responses =>
    .ok (if loop.2.1 || loop.2.2 then responses.map (unwrapMessage now) else responses)
  | .error e => .error e

end transform

/-! ## The loop -/

section loop

variable {debug : Value → List UInt8} {now : Nat}

theorem tagLoop_messages (ms : Messages) (ts eb : Bool) :
    (tagLoop debug ms ts eb).1 = ms.map (tagMessage debug) := by
  induction ms generalizing ts eb with
  | nil => rfl
  | cons m ms ih =>
    simp only [tagLoop, List.map_cons, tagMessage]
    split <;> simp [ih]

/-- `tagged_success` starts `false`, and `false && _` stays `false`. -/
theorem tagLoop_tagged_success (ms : Messages) (eb : Bool) :
    (tagLoop debug ms false eb).2.1 = false := by
  induction ms generalizing eb with
  | nil => rfl
  | cons m ms ih =>
    simp only [tagLoop]
    split <;> simp [ih]

theorem tagLoop_exec_block (ms : Messages) (ts eb : Bool) :
    (tagLoop debug ms ts eb).2.2 = (eb || ms.any isExecQuery) := by
  induction ms generalizing ts eb with
  | nil => simp [tagLoop]
  | cons m ms ih =>
    simp only [tagLoop, List.any_cons]
    split
    · rw [ih, Bool.or_assoc]
    · have : isExecQuery m = false := by
        unfold isExecQuery
        split <;> simp_all
      rw [ih, this, Bool.false_or]

/-- The whole transform: the batch goes down with its queries tagged, and the answer comes
back unwrapped exactly when the batch holds an `EXEC`. -/
theorem transform_eq (self : RedisTimestampTagger) (ms : Messages) (next : Messages → ChainResponse) :
    self.transform debug now ms next =
      match next (ms.map (tagMessage debug)) with
      | .ok rs => .ok (if ms.any isExecQuery then rs.map (unwrapMessage now) else rs)
      | .error e => .error e := by
  simp [RedisTimestampTagger.transform, tagLoop_messages, tagLoop_tagged_success, tagLoop_exec_block]

end loop

/-! ## What Lua reads of the script -/

theorem original_command_bytes (debug : Value → List UInt8) (args : List (List UInt8)) :
    original_command debug (args.map .Bytes) = List.intercalate [comma] (args.map quoted) := by
  simp only [original_command, List.map_map]
  rfl

/-- Arguments with no quote, backslash or line break reach `redis.call` as they are. -/
theorem original_command_reads_back (debug : Value → List UInt8) (args : List (List UInt8))
    (hne : args ≠ []) (hargs : ∀ a ∈ args, a.all plain) :
    readArgs (original_command debug (args.map .Bytes)) = some args := by
  rw [original_command_bytes, readArgs_quoted args hne hargs]

/-! ## The laws -/

def query (args : List String) : Message :=
  ⟨.Query ⟨[], some (.Commands (.List (args.map fun a => .Bytes (ascii a))))⟩, false, .None⟩

def response (v : Value) : Message := ⟨.Response ⟨some v, none⟩, false, .None⟩

/-- The tagger decides once for the whole batch whether to unwrap: an answer comes back as it was,
or, whenever the batch holds an `EXEC`, with every response in it unwrapped. -/
theorem tagger_unwraps_whole_batch (self : RedisTimestampTagger) (debug : Value → List UInt8)
    (now : Nat) (ms : Messages) (next : Messages → ChainResponse) :
    (∀ e, next (ms.map (tagMessage debug)) = .error e →
      self.transform debug now ms next = .error e) ∧
    (∀ rs, next (ms.map (tagMessage debug)) = .ok rs →
      (self.transform debug now ms next = .ok rs ∨
        self.transform debug now ms next = .ok (rs.map (unwrapMessage now))) ∧
      (ms.any isExecQuery → self.transform debug now ms next = .ok (rs.map (unwrapMessage now)))) := by
  refine ⟨fun e he => by simp [transform_eq, he], fun rs hrs => ?_⟩
  simp only [transform_eq, hrs]
  exact ⟨by split <;> simp, fun h => by simp [h]⟩

/-- An `EXEC` in the batch makes the tagger unwrap the answer to an `LRANGE` that it did not
wrap: the pair `[a, b]` comes back as `a`. -/
theorem exec_unwraps_unwrapped_answer :
    (try_tag_query_message (fun _ => []) ⟨[], some (.Commands (.List
      [.Bytes (ascii "LRANGE"), .Bytes (ascii "l"), .Bytes (ascii "0"), .Bytes (ascii "1")]))⟩).2 =
        false ∧
    isExecQuery (query ["LRANGE", "l", "0", "1"]) = false ∧
    RedisTimestampTagger.new.transform (fun _ => []) 0 [query ["EXEC"], query ["LRANGE", "l", "0", "1"]]
        (fun _ => .ok [response (.List []), response (.List [.Bytes (ascii "a"), .Bytes (ascii "b")])]) =
      .ok [⟨.Response ⟨some (.List []), none⟩, true, .None⟩,
        ⟨.Response ⟨some (.Bytes (ascii "a")), some (.Document [("timestamp", .Bytes (ascii "b"))])⟩,
          true, .None⟩] :=
  ⟨rfl, rfl, rfl⟩

theorem tagger_exec_batch_unwrapped :
    [query ["EXEC"], query ["LRANGE", "l", "0", "1"]].any isExecQuery ∧
    RedisTimestampTagger.new.transform (fun _ => []) 0 [query ["EXEC"], query ["LRANGE", "l", "0", "1"]]
        (fun _ => .ok [response (.List []), response (.List [.Bytes (ascii "a"), .Bytes (ascii "b")])]) =
      .ok ([response (.List []), response (.List [.Bytes (ascii "a"), .Bytes (ascii "b")])].map
        (unwrapMessage 0)) :=
  ⟨rfl, ((tagger_unwraps_whole_batch RedisTimestampTagger.new (fun _ => []) 0
    [query ["EXEC"], query ["LRANGE", "l", "0", "1"]]
    (fun _ => .ok [response (.List []), response (.List [.Bytes (ascii "a"), .Bytes (ascii "b")])])).2
    _ rfl).2 rfl⟩

/-- A query with a key, whose arguments have no quote, backslash or line break, is wrapped,
and Lua reads the text spliced into `redis.call(...)` as exactly those arguments. -/
theorem wrap_command_keeps_plain_args (debug : Value → List UInt8) (qm : QueryMessage)
    (first : Value) (keys : List Value) (args : List (List UInt8))
    (hkey : qm.primary_key.lookup "key" = some (.List (first :: keys)))
    (hast : qm.ast = some (.Commands (.List (args.map .Bytes))))
    (hne : args ≠ []) (hargs : ∀ a ∈ args, a.all plain) :
    wrap_command debug qm =
      .ok (.List [value_byte_string (ascii "EVAL"), value_byte_string (script debug (args.map .Bytes)),
        value_byte_string (ascii "1"), first]) ∧
    readArgs (original_command debug (args.map .Bytes)) = some args :=
  ⟨by simp [wrap_command, hkey, hast], original_command_reads_back debug args hne hargs⟩

def setPlain : QueryMessage :=
  ⟨[("key", .List [.Bytes (ascii "k")])],
    some (.Commands (.List ([ascii "SET", ascii "k", ascii "v"].map .Bytes)))⟩

theorem wrap_command_set_plain :
    setPlain.primary_key.lookup "key" = some (.List [.Bytes (ascii "k")]) ∧
    setPlain.ast = some (.Commands (.List ([ascii "SET", ascii "k", ascii "v"].map .Bytes))) ∧
    [ascii "SET", ascii "k", ascii "v"] ≠ [] ∧ (∀ a ∈ [ascii "SET", ascii "k", ascii "v"], a.all plain) ∧
    (wrap_command (fun _ => []) setPlain =
      .ok (.List [value_byte_string (ascii "EVAL"),
        value_byte_string (script (fun _ => []) ([ascii "SET", ascii "k", ascii "v"].map .Bytes)),
        value_byte_string (ascii "1"), .Bytes (ascii "k")]) ∧
    readArgs (original_command (fun _ => []) ([ascii "SET", ascii "k", ascii "v"].map .Bytes)) =
      some [ascii "SET", ascii "k", ascii "v"]) :=
  ⟨rfl, rfl, by simp, by decide, wrap_command_keeps_plain_args (fun _ => []) setPlain (.Bytes (ascii "k")) []
    [ascii "SET", ascii "k", ascii "v"] rfl rfl (by simp) (by decide)⟩

/-- A `SET` whose value holds a backslash and an `n`: the key `k`, the value `a\nb`. -/
def setWithBackslash : QueryMessage :=
  ⟨[("key", .List [.Bytes (ascii "k")])],
    some (.Commands (.List [.Bytes (ascii "SET"), .Bytes (ascii "k"), .Bytes (ascii "a\\nb")]))⟩

/-- `wrap_command` quotes the arguments without escaping them, so Lua reads the backslash
and the `n` of the value as one line break: the script stores `a`, a newline and `b`. -/
theorem wrap_command_changes_escaped_value (debug : Value → List UInt8) :
    wrap_command debug setWithBackslash =
      .ok (.List [value_byte_string (ascii "EVAL"),
        value_byte_string (script debug [.Bytes (ascii "SET"), .Bytes (ascii "k"),
          .Bytes (ascii "a\\nb")]),
        value_byte_string (ascii "1"), .Bytes (ascii "k")]) ∧
    readArgs (original_command debug
        [.Bytes (ascii "SET"), .Bytes (ascii "k"), .Bytes (ascii "a\\nb")]) =
      some [ascii "SET", ascii "k", [97, 10, 98]] ∧
    [97, 10, 98] ≠ ascii "a\\nb" :=
  ⟨rfl, by
    rw [show [Value.Bytes (ascii "SET"), .Bytes (ascii "k"), .Bytes (ascii "a\\nb")] =
      [ascii "SET", ascii "k", ascii "a\\nb"].map Value.Bytes from rfl, original_command_bytes]
    decide, by decide⟩

/-- `unwrap_response` splits a transaction of two or more wrapped answers, and one answer `[r, t]`,
into the results and their idle times; a transaction of one is left as it is. -/
theorem unwrap_response_answers (now : Nat) (meta : Option Value) :
    (∀ answers : List (Value × BitVec 64), 2 ≤ answers.length →
      unwrap_response now ⟨some (.List (answers.map taggedAnswer)), meta⟩ =
        ⟨some (.List (answers.map Prod.fst)),
          some (.Document [("timestamp", .List (answers.map fun a => .Integer a.2))])⟩) ∧
    (∀ answer, unwrap_response now ⟨some (.List [taggedAnswer answer]), meta⟩ =
      ⟨some (.List [taggedAnswer answer]), meta⟩) ∧
    (∀ (r : Value) (t : BitVec 64), 0 ≤ t.toInt → t.toInt ≤ now →
      unwrap_response now ⟨some (.List [r, .Integer t]), meta⟩ =
        ⟨some r, some (.Document [("timestamp", .Integer (BitVec.ofInt 64 (now - t.toInt)))])⟩ ∧
      (now < 2 ^ 63 → (BitVec.ofInt 64 (now - t.toInt)).toInt = now - t.toInt)) := by
  refine ⟨fun answers hlen => ?_, fun _ => rfl, fun r t h0 h1 => ⟨?_, toInt_ofInt_sub h0 h1⟩⟩
  · have hall : (answers.map taggedAnswer).all isList = true :=
      List.all_eq_true.mpr fun v hv => by obtain ⟨a, -, rfl⟩ := List.mem_map.mp hv; rfl
    simp [unwrap_response, hall, splitPairs_taggedAnswers, show 1 < answers.length by omega]
  · simp [unwrap_response, isList, timestampOf, ofNat_sub_eq_ofInt]

theorem unwrap_response_exec_answers :
    unwrap_response 10 ⟨some (.List ([(.NULL, 3), (.Integer 1, 4)].map taggedAnswer)), none⟩ =
        ⟨some (.List [.NULL, .Integer 1]),
          some (.Document [("timestamp", .List [.Integer 3, .Integer 4])])⟩ ∧
      unwrap_response 10 ⟨some (.List [.NULL, .Integer 4]), none⟩ =
        ⟨some .NULL,
          some (.Document [("timestamp", .Integer (BitVec.ofInt 64 (10 - (4 : BitVec 64).toInt)))])⟩ :=
  ⟨(unwrap_response_answers 10 none).1 [(.NULL, 3), (.Integer 1, 4)] (by decide),
    ((unwrap_response_answers 10 none).2.2 .NULL 4 (by decide) (by decide)).1⟩

/-- A transaction of one command is not unwrapped: `[[r, t]]` does not become `[r]`. -/
theorem unwrap_response_keeps_single_answer :
    unwrap_response 0 ⟨some (.List [taggedAnswer (.NULL, 7)]), none⟩ =
        ⟨some (.List [taggedAnswer (.NULL, 7)]), none⟩ ∧
      some (Value.List [taggedAnswer (.NULL, 7)]) ≠ some (.List [.NULL]) :=
  ⟨rfl, by simp [taggedAnswer]⟩

end shotover.transforms.timestamp_tagging
