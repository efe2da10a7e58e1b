-- The laws of `Tee` (`tee.rs`): what it returns to the client in each consistency mode,
-- whatever its side chains answer, and what its validation reports of its sub-chains.
import Shotover.Message

namespace shotover.transforms.tee

open shotover.message

/-! ## The builder -/

/-- What a `BufferedChain` (`chain.rs`) answers to a batch, with its response or only queued:
any answer it can give, a timeout or a full queue included, and no state kept between calls. -/
structure BufferedChain where
  process_request : Messages → Option UInt64 → ChainResponse
  process_request_no_return : Messages → Option UInt64 → Except Error Unit

inductive ConsistencyBehavior (TransformsConfig : Type) where
  | Ignore
  | FailOnMismatch
  | SubchainOnMismatch (chain : List TransformsConfig)

structure TeeConfig (TransformsConfig : Type) where
  behavior : Option (ConsistencyBehavior TransformsConfig)
  timeout_micros : Option UInt64
  chain : List TransformsConfig
  buffer_size : Option Nat

/-- `TeeBuilder`, over the builders of its sub-chains; `dropped_messages` counts
`tee_dropped_messages`. -/
structure TeeBuilder (TransformChainBuilder TransformsConfig : Type) where
  tx : TransformChainBuilder
  mismatch_chain : Option TransformChainBuilder
  buffer_size : Nat
  behavior : ConsistencyBehavior TransformsConfig
  timeout_micros : Option UInt64
  dropped_messages : Nat

structure Tee (TransformsConfig : Type) where
  tx : BufferedChain
  mismatch_chain : Option BufferedChain
  buffer_size : Nat
  behavior : ConsistencyBehavior TransformsConfig
  timeout_micros : Option UInt64
  dropped_messages : Nat

section builder

variable {TransformChainBuilder TransformsConfig : Type}

def TeeBuilder.new (tx : TransformChainBuilder) (mismatch_chain : Option TransformChainBuilder)
    (buffer_size : Nat) (behavior : ConsistencyBehavior TransformsConfig)
    (timeout_micros : Option UInt64) : TeeBuilder TransformChainBuilder TransformsConfig :=
  { tx, mismatch_chain, buffer_size, behavior, timeout_micros, dropped_messages := 0 }

def TeeBuilder.get_name (_ : TeeBuilder TransformChainBuilder TransformsConfig) : String := "Tee"

def TeeBuilder.is_terminating (_ : TeeBuilder TransformChainBuilder TransformsConfig) : Bool := false

/-- `TeeBuilder::validate`, with the validation of a chain builder (`chain.rs`) for a parameter. -/
def TeeBuilder.validate (validate : TransformChainBuilder → List String)
    (self : TeeBuilder TransformChainBuilder TransformsConfig) : List String :=
  match self.mismatch_chain with
  | some mismatch_chain =>
    let errors := (validate mismatch_chain).map fun x => "  " ++ x
    if errors.isEmpty then errors else (self.get_name ++ ":") :: errors
  | none => []

/-- `TeeConfig::get_builder`, with `build_chain_from_config` (not among the sources) for a
parameter. -/
def TeeConfig.get_builder
    (build_chain_from_config : String → List TransformsConfig → Except Error TransformChainBuilder)
    (self : TeeConfig TransformsConfig) :
    Except Error (TeeBuilder TransformChainBuilder TransformsConfig) := do
  let buffer_size := self.buffer_size.getD 5
  let mismatch_chain ← match self.behavior with
    | some (.SubchainOnMismatch mismatch_chain) =>
      some <$> build_chain_from_config "mismatch_chain" mismatch_chain
    | _ => pure none
  let tee_chain ← build_chain_from_config "tee_chain" self.chain
  pure (TeeBuilder.new tee_chain mismatch_chain buffer_size (self.behavior.getD .Ignore)
    self.timeout_micros)

/-- `TeeBuilder::build`, with `build_buffered` (not among the sources) for a parameter. -/
def TeeBuilder.build (build_buffered : TransformChainBuilder → Nat → BufferedChain)
    (self : TeeBuilder TransformChainBuilder TransformsConfig) : Tee TransformsConfig :=
  { tx := build_buffered self.tx self.buffer_size
    mismatch_chain := self.mismatch_chain.map fun x => build_buffered x self.buffer_size
    buffer_size := self.buffer_size
    behavior := self.behavior
    timeout_micros := self.timeout_micros
    dropped_messages := self.dropped_messages }

end builder

/-! ## The transform -/

def mismatchText : String :=
  "ERR The responses from the Tee subchain and down-chain did not match and behavior is set to fail on mismatch"

section transform

variable {TransformsConfig : Type}
variable (eq : Message → Message → Bool) (to_error_response : Message → String → Message)

/-- `Transform::transform` of the tee: the response, and the tee with its drop count. The two
submissions of `tokio::join!` do not see each other, so each is a function of the batch. -/
def Tee.transform (self : Tee TransformsConfig) (messages : Messages)
    (call_next_transform : Messages → ChainResponse) : ChainResponse × Tee TransformsConfig :=
  match self.behavior with
  | .Ignore =>
    let tee_result := self.tx.process_request_no_return messages self.timeout_micros
    let chain_result := call_next_transform messages
    match tee_result with
    | .error _ => (chain_result, { self with dropped_messages := self.dropped_messages + 1 })
    | .ok () => (chain_result, self)
  | .FailOnMismatch =>
    let tee_result := self.tx.process_request messages self.timeout_micros
    let chain_result := call_next_transform messages
    (do
      let tee_response ← tee_result
      let chain_response ← chain_result
      if !messagesEq eq chain_response tee_response then
        pure (chain_response.map fun message => to_error_response message mismatchText)
      else pure chain_response, self)
  | .SubchainOnMismatch _ =>
    let failed_message := messages
    let tee_result := self.tx.process_request messages self.timeout_micros
    let chain_result := call_next_transform messages
    (do
      let tee_response ← tee_result
      let chain_response ← chain_result
      if !messagesEq eq chain_response tee_response then
        match self.mismatch_chain with
        | some mismatch_chain =>
          let _ ← mismatch_chain.process_request failed_message none
          pure chain_response
        | none => pure chain_response
      else pure chain_response, self)

end transform

/-! ## What each mode returns -/

section modes

variable {TransformsConfig : Type} {eq : Message → Message → Bool}
variable {to_error_response : Message → String → Message}
variable (self : Tee TransformsConfig) (messages : Messages) (next : Messages → ChainResponse)

theorem transform_ignore (h : self.behavior = .Ignore) :
    (self.transform eq to_error_response messages next).1 = next messages := by
  simp only [Tee.transform, h]
  split <;> rfl

theorem transform_fail_on_mismatch (h : self.behavior = .FailOnMismatch) :
    (self.transform eq to_error_response messages next).1 =
      (self.tx.process_request messages self.timeout_micros >>= fun s =>
        next messages >>= fun m =>
          .ok (if messagesEq eq m s then m else m.map fun x => to_error_response x mismatchText)) := by
  simp only [Tee.transform, h]
  rcases self.tx.process_request messages self.timeout_micros with _ | s <;>
    rcases next messages with _ | m
  all_goals simp only [error_bind, ok_bind]
  split <;> simp_all

theorem transform_subchain_on_mismatch {chain : List TransformsConfig}
    (h : self.behavior = .SubchainOnMismatch chain) :
    (self.transform eq to_error_response messages next).1 =
      (self.tx.process_request messages self.timeout_micros >>= fun s =>
        next messages >>= fun m =>
          match messagesEq eq m s, self.mismatch_chain with
          | false, some mismatch_chain =>
            mismatch_chain.process_request messages none >>= fun _ => .ok m
          | _, _ => .ok m) := by
  simp only [Tee.transform, h]
  rcases self.tx.process_request messages self.timeout_micros with _ | s <;>
    rcases next messages with _ | m
  all_goals simp only [error_bind, ok_bind]
  rcases messagesEq eq m s <;> rcases self.mismatch_chain <;> rfl

theorem transform_subchain_eq_ok {chain : List TransformsConfig}
    (h : self.behavior = .SubchainOnMismatch chain) {out : Messages}
    (hout : (self.transform eq to_error_response messages next).1 = .ok out) :
    next messages = .ok out := by
  rw [transform_subchain_on_mismatch self messages next h] at hout
  obtain ⟨s, -, hs⟩ := bind_eq_ok.mp hout
  obtain ⟨m, hm, hk⟩ := bind_eq_ok.mp hs
  split at hk
  · obtain ⟨_, -, hk⟩ := bind_eq_ok.mp hk
    exact hm.trans hk
  · exact hm.trans hk

end modes

/-! ## The laws -/

def bulkMessage (s : String) : Message := ⟨.Unknown, false, .Redis (.BulkString (ascii s))⟩

def mismatchTee (mismatch_answer : ChainResponse) : Tee Unit :=
  { tx := ⟨fun _ _ => .ok [bulkMessage "foo"], fun _ _ => .ok ()⟩
    mismatch_chain := some ⟨fun _ _ => mismatch_answer, fun _ _ => .ok ()⟩
    buffer_size := 5
    behavior := .SubchainOnMismatch []
    timeout_micros := none
    dropped_messages := 0 }

/-- `SubchainOnMismatch` is not only observational: on a mismatch the client gets the down-chain's
answer or, when the mismatch chain fails, its error. -/
theorem subchain_on_mismatch_returns_mismatch_chain_error :
    ((mismatchTee (.ok [])).transform Message.eq Message.to_error_response [bulkMessage "GET"]
        (fun _ => .ok [bulkMessage "bar"])).1 = .ok [bulkMessage "bar"] ∧
    ((mismatchTee (.error (.msg "mismatch chain failed"))).transform Message.eq
        Message.to_error_response [bulkMessage "GET"] (fun _ => .ok [bulkMessage "bar"])).1 =
      .error (.msg "mismatch chain failed") :=
  ⟨rfl, rfl⟩

/-- `FailOnMismatch`: an error of either chain is returned, equal answers return the down-chain's,
and otherwise each of its messages becomes its error response, in place. -/
theorem fail_on_mismatch_reconciles {TransformsConfig : Type} (eq : Message → Message → Bool)
    (to_error_response : Message → String → Message) (self : Tee TransformsConfig)
    (messages : Messages) (next : Messages → ChainResponse)
    (h : self.behavior = .FailOnMismatch) :
    ((∃ e, self.tx.process_request messages self.timeout_micros = .error e) ∨
        (∃ e, next messages = .error e) →
      ∃ e, (self.transform eq to_error_response messages next).1 = .error e) ∧
    (∀ s m, self.tx.process_request messages self.timeout_micros = .ok s →
      next messages = .ok m → messagesEq eq m s →
        (self.transform eq to_error_response messages next).1 = .ok m) ∧
    (∀ s m, self.tx.process_request messages self.timeout_micros = .ok s →
      next messages = .ok m → messagesEq eq m s = false →
        (self.transform eq to_error_response messages next).1 =
          .ok (m.map fun x => to_error_response x mismatchText)) := by
  rw [transform_fail_on_mismatch self messages next h]
  refine ⟨?_, fun s m hs hm he => by simp [hs, hm, he], fun s m hs hm he => by simp [hs, hm, he]⟩
  rintro (⟨e, he⟩ | ⟨e, he⟩)
  · exact ⟨e, by simp [he]⟩
  · exact bind_bind_error he

theorem fail_on_mismatch_scenarios :
    let tee : Tee Unit := { mismatchTee (.ok []) with behavior := .FailOnMismatch }
    let same : Tee Unit := { tee with tx := ⟨fun _ _ => .ok [bulkMessage "bar"], fun _ _ => .ok ()⟩ }
    tee.behavior = .FailOnMismatch ∧
      (tee.transform Message.eq Message.to_error_response [bulkMessage "GET"]
        (fun _ => .ok [bulkMessage "bar"])).1 =
        .ok [(bulkMessage "bar").to_error_response mismatchText] ∧
      same.behavior = .FailOnMismatch ∧
      (same.transform Message.eq Message.to_error_response [bulkMessage "GET"]
        (fun _ => .ok [bulkMessage "bar"])).1 = .ok [bulkMessage "bar"] :=
  ⟨rfl, (fail_on_mismatch_reconciles Message.eq Message.to_error_response _ [bulkMessage "GET"]
      (fun _ => .ok [bulkMessage "bar"]) rfl).2.2 [bulkMessage "foo"] _ rfl rfl rfl, rfl,
    (fail_on_mismatch_reconciles Message.eq Message.to_error_response _ [bulkMessage "GET"]
      (fun _ => .ok [bulkMessage "bar"]) rfl).2.1 [bulkMessage "bar"] _ rfl rfl rfl⟩

/-- `TeeBuilder::validate` looks at the mismatch chain only: a builder without one is valid,
whatever the validation of its tee chain reports. -/
theorem tee_validate_skips_tee_chain {TransformChainBuilder TransformsConfig : Type}
    (validate : TransformChainBuilder → List String) (tx : TransformChainBuilder)
    (buffer_size : Nat) (behavior : ConsistencyBehavior TransformsConfig)
    (timeout_micros : Option UInt64) :
    (TeeBuilder.new tx none buffer_size behavior timeout_micros).validate validate = [] := rfl

/-- `test_validate_invalid_chain`, with the chain builders standing for their reports. -/
example : (TeeBuilder.new ["tee_chain:"] (some ["mismatch_chain:",
      "  Terminating transform \"NullSink\" is not last in chain. Terminating transform must be last in chain."])
      5 (ConsistencyBehavior.Ignore : ConsistencyBehavior Unit) none).validate id =
    ["Tee:", "  mismatch_chain:",
      "    Terminating transform \"NullSink\" is not last in chain. Terminating transform must be last in chain."] := by
  decide

end shotover.transforms.tee
