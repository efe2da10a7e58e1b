-- The data that a chain carries: the message of `message.rs` with the fields that the
-- transforms read, the RESP2 frames of `redis_protocol`, and the result of a chain.
-- `message.rs` itself is not among the sources, so its equality and its error responses
-- are parameters of the transforms; the versions here follow the spec, for the tests.

namespace shotover.message

/-! ## Bytes and errors -/

/-- The bytes of an ASCII text, as `b"..."` and `"...".to_string()` give them. -/
def ascii (s : String) : List UInt8 := s.toList.map Char.toUInt8

/-- An `anyhow::Error`: a message, or one with a line of `Context::context` around it. A Rust
panic unwinds the task; the model returns it as `panic`, so that a caller sees it. -/
inductive Error where
  | msg (text : String)
  | context (text : String) (source : Error)
  | panic (text : String)
  deriving DecidableEq, Repr

/-! ## Redis frames -/

/-- A RESP2 frame, `redis_protocol::resp2::prelude::Frame`. -/
inductive Frame where
  | SimpleString (s : String)
  | Error (s : String)
  | Integer (i : BitVec 64)
  | BulkString (b : List UInt8)
  | Array (frames : List Frame)
  | Null

/-- The wire frame of a message, `protocols::RawFrame`. No modelled function reads the
Cassandra frame, so it carries nothing here. -/
inductive RawFrame where
  | Cassandra
  | Redis (frame : Frame)
  | None

mutual
def Frame.beq : Frame → Frame → Bool
  | .SimpleString a, .SimpleString b => a == b
  | .Error a, .Error b => a == b
  | .Integer a, .Integer b => a == b
  | .BulkString a, .BulkString b => a == b
  | .Array as, .Array bs => Frame.beqList as bs
  | .Null, .Null => true
  | _, _ => false

def Frame.beqList : List Frame → List Frame → Bool
  | [], [] => true
  | a :: as, b :: bs => Frame.beq a b && Frame.beqList as bs
  | _, _ => false
end

def RawFrame.beq : RawFrame → RawFrame → Bool
  | .Cassandra, .Cassandra => true
  | .Redis a, .Redis b => a.beq b
  | .None, .None => true
  | _, _ => false

/-! ## Parsed messages -/

/-- A parsed value, `message::Value`. A `Document` is a `HashMap<String, Value>`, kept as
the list of its entries. -/
inductive Value where
  | NULL
  | Bytes (b : List UInt8)
  | Strings (s : String)
  | Integer (i : BitVec 64)
  | List (values : List Value)
  | Document (entries : List (String × Value))

inductive ASTHolder where
  | Commands (commands : Value)

/-- An assumption about `ASTHolder::get_command` of `message.rs`, which is not among the
sources: a command is named by its first argument, and `UNKNOWN` otherwise. -/
def ASTHolder.get_command : ASTHolder → List UInt8
  | .Commands (.List (.Bytes b :: _)) => b
  | _ => ascii "UNKNOWN"

structure QueryMessage where
  primary_key : List (String × Value)
  ast : Option ASTHolder

structure QueryResponse where
  result : Option Value
  response_meta : Option Value

inductive MessageDetails where
  | Query (qm : QueryMessage)
  | Response (qr : QueryResponse)
  | Unknown

/-- A message in flight: its parsed details, whether a transform changed them (the codec
then encodes the details again), and the frame it came in as. -/
structure Message where
  details : MessageDetails
  modified : Bool
  original : RawFrame

abbrev Messages := List Message

/-- What a chain, or a transform, gives back: `anyhow::Result<Messages>`. -/
abbrev ChainResponse := Except Error Messages

def messagesEq (eq : Message → Message → Bool) (a b : Messages) : Bool :=
  a.length == b.length && (a.zip b).all fun p => eq p.1 p.2

theorem messagesEq_cons (eq : Message → Message → Bool) (x y : Message) (a b : Messages) :
    messagesEq eq (x :: a) (y :: b) = (eq x y && messagesEq eq a b) := by
  simp only [messagesEq, List.length_cons, List.zip_cons_cons, List.all_cons]
  cases eq x y <;> simp

/-- `messagesEq` is `Vec::eq`: the same length, and `eq` at every index. -/
theorem messagesEq_iff (eq : Message → Message → Bool) (a b : Messages) :
    messagesEq eq a b = true ↔
      a.length = b.length ∧ ∀ i (ha : i < a.length) (hb : i < b.length), eq a[i] b[i] = true := by
  induction a generalizing b with
  | nil => cases b <;> simp [messagesEq]
  | cons x a ih =>
    cases b with
    | nil => simp [messagesEq]
    | cons y b =>
      rw [messagesEq_cons, Bool.and_eq_true, ih]
      constructor
      · rintro ⟨hxy, hlen, hall⟩
        refine ⟨by simp [hlen], fun i ha hb => ?_⟩
        cases i with
        | zero => exact hxy
        | succ i => exact hall i (Nat.lt_of_succ_lt_succ ha) (Nat.lt_of_succ_lt_succ hb)
      · rintro ⟨hlen, hall⟩
        exact ⟨hall 0 (Nat.succ_pos _) (Nat.succ_pos _), Nat.succ.inj hlen,
          fun i ha hb => hall (i + 1) (Nat.succ_lt_succ ha) (Nat.succ_lt_succ hb)⟩

theorem bind_eq_ok {ε α β : Type} {x : Except ε α} {f : α → Except ε β} {b : β} :
    x >>= f = .ok b ↔ ∃ a, x = .ok a ∧ f a = .ok b := by
  cases x <;> simp [bind, Except.bind]

@[simp] theorem error_bind {ε α β : Type} (e : ε) (f : α → Except ε β) :
    (Except.error e : Except ε α) >>= f = .error e := rfl

@[simp] theorem ok_bind {ε α β : Type} (a : α) (f : α → Except ε β) :
    (Except.ok a : Except ε α) >>= f = f a := rfl

@[simp] theorem pure_eq_ok {ε α : Type} (a : α) : (pure a : Except ε α) = .ok a := rfl

theorem bind_bind_error {ε α β γ : Type} {x : Except ε α} {y : Except ε β}
    {k : α → β → Except ε γ} {e : ε} (h : y = .error e) :
    ∃ e', (x >>= fun a => y >>= k a) = .error e' := by
  cases x with
  | error e' => exact ⟨e', rfl⟩
  | ok a => exact ⟨e, by simp [h]⟩

theorem map_eq_ok {ε α β : Type} {x : Except ε α} {f : α → β} {b : β} :
    f <$> x = .ok b ↔ ∃ a, x = .ok a ∧ f a = b := by
  cases x <;> simp [Functor.map, Except.map]

/-- Modelled from the spec: `Message`'s equality is not among the sources. It compares the
payload and ignores what is volatile; here, the frames. -/
def Message.eq (a b : Message) : Bool := a.original.beq b.original

/-- Modelled from the spec: `Message::to_error_response` is not among the sources. It gives
a protocol-appropriate error carrying the text; here, a Redis error frame. -/
def Message.to_error_response (m : Message) (error : String) : Message :=
  { m with original := .Redis (.Error error), modified := true }

end shotover.message
