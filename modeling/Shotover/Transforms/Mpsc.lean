-- The task of `AsyncMpsc` (`mpsc.rs`). `test_tee_loop` spawns a task that takes the messages
-- from the channel in the order they were sent and hands each to `chain.process_request`. Its
-- `loop` has no `break`: once every sender is dropped and the channel is drained, `recv` gives
-- `None` at every turn, and the task turns for ever instead of returning. A turn stops at each
-- `.await` that is not ready: at `recv`, and at `process_request` until the chain answers.
import Mathlib.Logic.Relation

namespace shotover.transforms.mpsc

open Relation

/-! ## The channel and its task -/

/-- The capacity of the channel, `channel::<Message>(5)` in `AsyncMpsc::new`. -/
def capacity : Nat := 5

/-- An `AsyncMpsc` channel and the task on its receiver: `processed` are the messages handed to
`chain.process_request`, in order, and `busy` says that the task awaits the last of them. -/
structure Mpsc (Message : Type) where
  toSend : List Message
  senders : Nat
  queue : List Message
  processed : List Message
  busy : Bool
  returned : Bool

variable {Message : Type}

def Mpsc.new (toSend : List Message) : Mpsc Message := ⟨toSend, 1, [], [], false, false⟩

/-- `Receiver::recv` when it is ready: the oldest message, or `None` once the channel is empty and
closed. While it is not ready, `none`. -/
def recv : List Message → Nat → Option (Option Message × List Message)
  | m :: queue, _ => some (some m, queue)
  | [], 0 => some (none, [])
  | [], _ + 1 => none

inductive Turn (Message : Type) where
  | again (s : Mpsc Message)
  | exit (s : Mpsc Message)
  | wait

/-- One turn of the `loop` of `test_tee_loop`, by a task that no longer awaits the chain: `Some m`
is handed to `chain.process_request`, and `None` matches no branch, and there is no `break`. -/
def test_tee_loop_turn (s : Mpsc Message) : Turn Message :=
  if s.busy then .wait else
  match recv s.queue s.senders with
  | some (some m, queue) =>
    .again { s with queue := queue, processed := s.processed ++ [m], busy := true }
  | some (none, queue) => .again { s with queue := queue }
  | none => .wait

/-- The steps of the channel and its task, in any interleaving: a send when the channel has room,
a clone or a drop of a sender, a turn of the task's loop, and the chain's answer to the task. -/
inductive Step : Mpsc Message → Mpsc Message → Prop
  | send (s : Mpsc Message) (m : Message) (rest : List Message) :
      0 < s.senders → s.toSend = m :: rest → s.queue.length < capacity →
      Step s { s with toSend := rest, queue := s.queue ++ [m] }
  | clone (s : Mpsc Message) : 0 < s.senders → Step s { s with senders := s.senders + 1 }
  | drop (s : Mpsc Message) : 0 < s.senders → Step s { s with senders := s.senders - 1 }
  | turn (s s' : Mpsc Message) : s.returned = false → test_tee_loop_turn s = .again s' → Step s s'
  | answered (s : Mpsc Message) : s.busy = true → Step s { s with busy := false }
  | exit (s s' : Mpsc Message) : s.returned = false → test_tee_loop_turn s = .exit s' →
      Step s { s' with returned := true }

/-! ## One turn -/

/-- The loop has no `break`: no turn leaves it. -/
theorem test_tee_loop_turn_ne_exit (s s' : Mpsc Message) : test_tee_loop_turn s ≠ .exit s' := by
  unfold test_tee_loop_turn
  split
  · simp
  · split <;> simp

theorem test_tee_loop_turn_again {s s' : Mpsc Message} (h : test_tee_loop_turn s = .again s') :
    s.busy = false ∧
      ((∃ m queue, s.queue = m :: queue ∧
        s' = { s with queue := queue, processed := s.processed ++ [m], busy := true }) ∨
      (s.queue = [] ∧ s.senders = 0 ∧ s' = s)) := by
  obtain ⟨toSend, senders, queue, processed, busy, returned⟩ := s
  cases busy
  case true => simp [test_tee_loop_turn] at h
  case false =>
    refine ⟨rfl, ?_⟩
    rcases queue with _ | ⟨m, queue⟩
    · cases senders <;> simp [test_tee_loop_turn, recv] at h
      exact .inr ⟨rfl, rfl, h.symm⟩
    · simp only [test_tee_loop_turn, recv, Bool.false_eq_true, ite_false, Turn.again.injEq] at h
      exact .inl ⟨m, queue, rfl, h.symm⟩

/-! ## Every run -/

structure Inv (msgs : List Message) (s : Mpsc Message) : Prop where
  order : s.processed ++ s.queue ++ s.toSend = msgs
  bounded : s.queue.length ≤ capacity
  running : s.returned = false

theorem Inv.new (msgs : List Message) : Inv msgs (Mpsc.new msgs) :=
  ⟨by simp [Mpsc.new], by simp [Mpsc.new, capacity], rfl⟩

theorem step_inv {msgs : List Message} {s s' : Mpsc Message} (hs : Inv msgs s) (h : Step s s') :
    Inv msgs s' := by
  cases h with
  | send m rest _ hto hroom =>
    exact ⟨by simp [← hs.order, hto], by simp only [List.length_append, List.length_singleton]; omega,
      hs.running⟩
  | clone => exact ⟨hs.order, hs.bounded, hs.running⟩
  | drop => exact ⟨hs.order, hs.bounded, hs.running⟩
  | turn _ _ ht =>
    rcases (test_tee_loop_turn_again ht).2 with ⟨m, queue, hq, rfl⟩ | ⟨-, -, rfl⟩
    · have hb := hs.bounded
      rw [hq, List.length_cons] at hb
      exact ⟨by simp [← hs.order, hq], by dsimp only; omega, hs.running⟩
    · exact hs
  | answered => exact ⟨hs.order, hs.bounded, hs.running⟩
  | exit _ _ ht => exact absurd ht (test_tee_loop_turn_ne_exit _ _)

theorem reachable_inv {msgs : List Message} {s : Mpsc Message}
    (h : ReflTransGen Step (Mpsc.new msgs) s) : Inv msgs s := by
  induction h with
  | refl => exact Inv.new msgs
  | tail _ step ih => exact step_inv ih step

/-- With every sender dropped and a chain that answers, the task drains the channel in order. -/
theorem drain (s : Mpsc Message) (hrun : s.returned = false) (hsenders : s.senders = 0) :
    ReflTransGen Step s
      { s with queue := [], processed := s.processed ++ s.queue, busy := false } := by
  obtain ⟨toSend, senders, queue, processed, busy, returned⟩ := s
  simp only at hrun hsenders ⊢
  subst hrun hsenders
  -- the chain first answers the call that the task awaits, if any
  have hidle : ReflTransGen Step ⟨toSend, 0, queue, processed, busy, false⟩
      ⟨toSend, 0, queue, processed, false, false⟩ := by
    cases busy
    · exact .refl
    · exact .single (Step.answered _ rfl)
  refine hidle.trans ?_
  clear hidle
  induction queue generalizing processed with
  | nil => simpa using ReflTransGen.refl
  | cons m queue ih =>
    refine .head (Step.turn _ ⟨toSend, 0, queue, processed ++ [m], true, false⟩ rfl rfl)
      (.head (Step.answered _ rfl) ?_)
    simpa using ih (processed ++ [m])

theorem closed_step_iff {s s' : Mpsc Message} (hq : s.queue = []) (hsenders : s.senders = 0)
    (hidle : s.busy = false) (hrun : s.returned = false) : Step s s' ↔ s' = s := by
  constructor
  · intro h
    cases h with
    | send _ _ hpos => omega
    | clone hpos => omega
    | drop hpos => omega
    | turn _ _ ht =>
      rcases (test_tee_loop_turn_again ht).2 with ⟨m, queue, hq', -⟩ | ⟨-, -, rfl⟩
      · simp [hq] at hq'
      · rfl
    | answered hbusy => simp [hidle] at hbusy
    | exit _ _ ht => exact absurd ht (test_tee_loop_turn_ne_exit _ _)
  · intro h
    rw [h]
    obtain ⟨toSend, senders, queue, processed, busy, returned⟩ := s
    simp only at hq hsenders hidle
    subst hq hsenders hidle
    exact .turn _ _ hrun rfl

/-! ## The forwarder and the tee -/

/-- What both transforms do to the channel: `self.tx.clone().send(m).await` sends the next
message once the channel has room (`none` while it is full), through a clone it then drops. -/
def sendThroughClone (s : Mpsc Message) : Option (Mpsc Message) :=
  match s.toSend with
  | m :: rest =>
    if s.queue.length < capacity then some { s with toSend := rest, queue := s.queue ++ [m] }
    else none
  | [] => none

/-- `AsyncMpscForwarder::transform`: the message goes into the channel, and the answer is the
empty response. -/
def AsyncMpscForwarder.transform {Response : Type} (empty : Response) (s : Mpsc Message) :
    Option (Response × Mpsc Message) :=
  (sendThroughClone s).map fun s => (empty, s)

def AsyncMpscTee.transform {Response : Type} (call_next_transform : Response) (s : Mpsc Message) :
    Option (Response × Mpsc Message) :=
  (sendThroughClone s).map fun s => (call_next_transform, s)

section calls

variable {Response : Type} (empty call_next_transform : Response)

variable {empty call_next_transform}

end calls

/-- The task hands the messages to the chain once each, in send order, but never returns: once
all is sent and every sender dropped, it ends turning in place. -/
theorem test_tee_loop_never_returns (msgs : List Message) (s : Mpsc Message)
    (hs : ReflTransGen Step (Mpsc.new msgs) s) :
    s.processed ++ s.queue ++ s.toSend = msgs ∧ s.returned = false ∧
    (s.toSend = [] → s.senders = 0 →
      ∃ s', ReflTransGen Step s s' ∧ s'.processed = msgs ∧ s'.returned = false ∧
        ∀ s'', Step s' s'' ↔ s'' = s') := by
  have inv := reachable_inv hs
  refine ⟨inv.order, inv.running, fun hto hsenders =>
    ⟨_, drain s inv.running hsenders, ?_, inv.running,
      fun _ => closed_step_iff rfl hsenders rfl inv.running⟩⟩
  simpa [hto] using inv.order

theorem test_tee_loop_one_message :
    ReflTransGen Step (Mpsc.new [7]) ⟨[], 0, [7], [], false, false⟩ ∧
    (([] : List Nat) ++ [7] ++ [] = [7] ∧ false = false ∧
      (([] : List Nat) = [] → 0 = 0 →
        ∃ s', ReflTransGen Step ⟨[], 0, [7], [], false, false⟩ s' ∧ s'.processed = [7] ∧
          s'.returned = false ∧ ∀ s'', Step s' s'' ↔ s'' = s')) :=
  have hrun : ReflTransGen Step (Mpsc.new [7]) ⟨[], 0, [7], [], false, false⟩ :=
    .tail (.single (Step.send (Mpsc.new [7]) 7 [] (by decide) rfl (by decide)))
      (Step.drop ⟨[], 1, [7], [], false, false⟩ (by decide))
  ⟨hrun, test_tee_loop_never_returns [7] _ hrun⟩

end shotover.transforms.mpsc
