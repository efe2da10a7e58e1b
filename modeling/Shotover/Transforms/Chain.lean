-- A chain of the transforms modelled here in front of a sink, and what comes back through
-- it (spec 4.1, 4.2): one answer per request, in order, each the sink's answer with only
-- the stages' own per-message maps applied.
import Shotover.Transforms.RedisClusterPortsRewrite
import Shotover.Transforms.Tee
import Shotover.Transforms.TimestampTagging
import Mathlib.Data.List.Forall2
import Mathlib.Logic.Relation

namespace shotover.transforms.chain

open shotover.message
open shotover.transforms.redis_cluster_ports_rewrite
open shotover.transforms.tee
open shotover.transforms.timestamp_tagging

/-! ## The sampler -/

/-- `Sampler` (`sampler.rs`). Its sample chain (`chain.rs`) is what it answers to a batch; what
it keeps from one batch to the next is not modelled. -/
structure Sampler where
  name : String
  numerator : UInt32
  denominator : UInt32
  sample_chain : Messages → String → ChainResponse

/-- `Transform::transform` of the sampler, with `chance` the draw of `thread_rng_n`. An error of
the sample chain is only logged, but a panic in it unwinds through `tokio::join!`. -/
def Sampler.transform (self : Sampler) (chance : UInt32) (messages : Messages)
    (call_next_transform : Messages → ChainResponse) : ChainResponse :=
  if chance < self.numerator then
    let sample := self.sample_chain messages self.name
    let downstream := call_next_transform messages
    match sample with
    | .error (.panic text) => .error (.panic text)
    | _ => downstream
  else call_next_transform messages

theorem Sampler.transform_cases (self : Sampler) (chance : UInt32) (messages : Messages)
    (next : Messages → ChainResponse) :
    self.transform chance messages next = next messages ∨
      ∃ text, self.sample_chain messages self.name = .error (.panic text) ∧
        self.transform chance messages next = .error (.panic text) := by
  unfold Sampler.transform
  split
  · dsimp only
    split
    · exact .inr ⟨_, ‹_›, rfl⟩
    · exact .inl rfl
  · exact .inl rfl

/-- The non-terminating transforms of this development, as variants of `Transforms`. -/
inductive Transforms (TransformsConfig : Type) where
  | RedisClusterPortsRewrite (t : RedisClusterPortsRewrite)
  | RedisTimeStampTagger (t : RedisTimestampTagger)
  | Tee (t : Tee TransformsConfig)
  | Sampler (t : Sampler)

/-! ## From the configuration -/

structure RedisClusterPortsRewriteConfig where
  new_port : UInt16

/-- `TransformsFromConfig::get_source` of the ports rewrite. -/
def RedisClusterPortsRewriteConfig.get_source {TransformsConfig : Type}
    (self : RedisClusterPortsRewriteConfig) : Except Error (Transforms TransformsConfig) :=
  .ok (.RedisClusterPortsRewrite (RedisClusterPortsRewrite.mk self.new_port))

/-- `RedisTimestampTaggerConfig`, which has no field. -/
structure RedisTimestampTaggerConfig where

/-- `TransformsFromConfig::get_source` of the tagger. It builds the tagger under a name of its
own, spelt with a capital `S`, and not through `RedisTimestampTagger::new`. -/
def RedisTimestampTaggerConfig.get_source {TransformsConfig : Type}
    (_self : RedisTimestampTaggerConfig) : Except Error (Transforms TransformsConfig) :=
  .ok (.RedisTimeStampTagger ⟨"RedisTimeStampTagger"⟩)

/-- `Sampler::new`, with the empty chain `new_no_shared_state(vec![], "dummy")` (`chain.rs`)
for a parameter. -/
def Sampler.new (dummy : Messages → String → ChainResponse) : Sampler := ⟨"Sampler", 1, 100, dummy⟩

section run

variable {TransformsConfig : Type} (eq : Message → Message → Bool)
  (to_error_response : Message → String → Message) (debug : Value → List UInt8)
  (frameDebug : Frame → String) (now : Nat)

/-- `Transform::transform` on a variant, with `chance` the draw that a sampler makes. A
single pass is modelled: the tee's new drop count is not carried to a next call. -/
def Transforms.transform (t : Transforms TransformsConfig) (chance : UInt32)
    (messages : Messages) (call_next_transform : Messages → ChainResponse) : ChainResponse :=
  match t with
  | .RedisClusterPortsRewrite t => t.transform frameDebug messages call_next_transform
  | .RedisTimeStampTagger t => t.transform debug now messages call_next_transform
  | .Tee t => (t.transform eq to_error_response messages call_next_transform).1
  | .Sampler t => t.transform chance messages call_next_transform

/-- `TransformChain::process_request` (`chain.rs`), modelled from the spec: each stage's
`call_next_transform` runs the rest, and the sink answers past the last. -/
def process_request (sink : Messages → ChainResponse) :
    List (Transforms TransformsConfig) → List UInt32 → Messages → ChainResponse
  | [], _, messages => sink messages
  | t :: ts, chances, messages =>
    t.transform eq to_error_response debug frameDebug now (chances.headD 0) messages
      (process_request sink ts chances.tail)

def Transforms.forwarded (t : Transforms TransformsConfig) (messages : Messages) : Messages :=
  match t with
  | .RedisTimeStampTagger _ => messages.map (tagMessage debug)
  | _ => messages

def sinkBatch (ts : List (Transforms TransformsConfig)) (messages : Messages) : Messages :=
  ts.foldl (fun messages t => t.forwarded debug messages) messages

/-- What one stage may do to one answer: set the ports of an answer that `rewrite_port`
accepts, unwrap it with `unwrap_response`, or make it the error response of a mismatch. -/
inductive StageMap : Message → Message → Prop
  | rewritten (m : Message) (p : UInt16) (f : RawFrame) (debug : Frame → String) :
      rewrite_port debug m.original p = .ok f → StageMap m { m with original := f }
  | unwrapped (m : Message) : StageMap m (unwrapMessage now m)
  | errorResponse (m : Message) : StageMap m (to_error_response m mismatchText)

def Derived : Message → Message → Prop := Relation.ReflTransGen (StageMap to_error_response now)

end run

/-! ## One stage -/

section stage

variable {TransformsConfig : Type} {eq : Message → Message → Bool}
  {to_error_response : Message → String → Message} {debug : Value → List UInt8}
  {frameDebug : Frame → String} {now : Nat}

@[simp] theorem length_forwarded (t : Transforms TransformsConfig) (messages : Messages) :
    (t.forwarded debug messages).length = messages.length := by
  cases t <;> simp [Transforms.forwarded]

theorem length_sinkBatch (ts : List (Transforms TransformsConfig)) (messages : Messages) :
    (sinkBatch debug ts messages).length = messages.length := by
  induction ts generalizing messages with
  | nil => rfl
  | cons t ts ih => exact (ih _).trans (length_forwarded t messages)

theorem forall₂_derived_refl (l : Messages) : List.Forall₂ (Derived to_error_response now) l l :=
  List.forall₂_same.mpr fun _ _ => .refl

theorem forall₂_derived_ite (c : Bool) (g : Message → Message)
    (hg : ∀ m, StageMap to_error_response now m (g m)) (l : Messages) :
    List.Forall₂ (Derived to_error_response now) l (if c then l.map g else l) := by
  cases c
  · exact forall₂_derived_refl l
  · exact List.forall₂_map_right_iff.mpr (List.forall₂_same.mpr fun m _ => .single (hg m))

theorem forall₂_derived_trans {a b c : Messages} (hab : List.Forall₂ (Derived to_error_response now) a b)
    (hbc : List.Forall₂ (Derived to_error_response now) b c) :
    List.Forall₂ (Derived to_error_response now) a c := by
  induction hab generalizing c with
  | nil => exact hbc
  | cons hxy _ ih =>
    cases hbc with
    | cons hyz hbc => exact .cons (Relation.ReflTransGen.trans hxy hyz) (ih hbc)

theorem forall₂_mapIdx {R : Message → Message → Prop} (l : Messages)
    (f : Nat → Message → Message) (h : ∀ i m, l[i]? = some m → R m (f i m)) :
    List.Forall₂ R l (l.mapIdx f) := by
  induction l generalizing f with
  | nil => simp
  | cons a l ih =>
    rw [List.mapIdx_cons]
    exact .cons (h 0 a (by simp)) (ih _ fun i m hm => h (i + 1) m (by simpa using hm))

theorem ports_stage_eq_ok (t : RedisClusterPortsRewrite) (messages out : Messages)
    (next : Messages → ChainResponse) (h : t.transform frameDebug messages next = .ok out) :
    ∃ rs, next messages = .ok rs ∧ List.Forall₂ (Derived to_error_response now) rs out := by
  obtain ⟨rs, hrs, hall⟩ := bind_eq_ok.mp h
  obtain ⟨hacc, rfl⟩ := (rewriteAll_eq_ok _ rs out).mp hall
  refine ⟨rs, hrs, forall₂_mapIdx rs _ fun i m hm => ?_⟩
  split
  · obtain ⟨m', hm', ha⟩ := hacc i ‹_›
    rw [hm] at hm'
    cases hm'
    exact .single (.rewritten m t.new_port _ frameDebug ((rewrite_port_eq_ok _ _).mpr ⟨ha, rfl⟩))
  · exact .refl

theorem tee_stage_eq_ok (t : Tee TransformsConfig) (messages out : Messages)
    (next : Messages → ChainResponse)
    (h : (t.transform eq to_error_response messages next).1 = .ok out) :
    ∃ rs, next messages = .ok rs ∧ List.Forall₂ (Derived to_error_response now) rs out := by
  rcases hb : t.behavior with _ | _ | chain
  · rw [transform_ignore t messages next hb] at h
    exact ⟨out, h, forall₂_derived_refl out⟩
  · rw [transform_fail_on_mismatch t messages next hb] at h
    obtain ⟨s, -, hs⟩ := bind_eq_ok.mp h
    obtain ⟨m, hm, ⟨⟩⟩ := bind_eq_ok.mp hs
    refine ⟨m, hm, ?_⟩
    cases messagesEq eq m s
    · exact forall₂_derived_ite true _ (fun x => .errorResponse x) m
    · exact forall₂_derived_refl m
  · exact ⟨out, transform_subchain_eq_ok t messages next hb h, forall₂_derived_refl out⟩

/-- One stage: the rest of the chain answers the batch that the stage passes down, and the
stage's answer comes from that answer by stage maps, index by index. -/
theorem stage_eq_ok (t : Transforms TransformsConfig) (chance : UInt32) (messages out : Messages)
    (next : Messages → ChainResponse)
    (h : t.transform eq to_error_response debug frameDebug now chance messages next = .ok out) :
    ∃ rs, next (t.forwarded debug messages) = .ok rs ∧
      List.Forall₂ (Derived to_error_response now) rs out := by
  cases t with
  | RedisClusterPortsRewrite t => exact ports_stage_eq_ok t messages out next h
  | RedisTimeStampTagger t =>
    simp only [Transforms.transform, transform_eq] at h
    split at h
    · rename_i rs hrs
      cases h
      exact ⟨rs, hrs, forall₂_derived_ite _ _ (fun x => .unwrapped x) rs⟩
    · cases h
  | Tee t => exact tee_stage_eq_ok t messages out next h
  | Sampler t =>
    rcases t.transform_cases chance messages next with heq | ⟨text, -, hp⟩
    · exact ⟨out, heq ▸ h, forall₂_derived_refl out⟩
    · exact nomatch hp.symm.trans h

theorem tee_stage_eq_error (t : Tee TransformsConfig) (messages : Messages)
    (next : Messages → ChainResponse) {e : Error} (h : next messages = .error e) :
    ∃ e', (t.transform eq to_error_response messages next).1 = .error e' := by
  rcases hb : t.behavior with _ | _ | chain
  · exact ⟨e, (transform_ignore t messages next hb).trans h⟩
  · rw [transform_fail_on_mismatch t messages next hb]
    exact bind_bind_error h
  · rw [transform_subchain_on_mismatch t messages next hb]
    exact bind_bind_error h

theorem stage_eq_error (t : Transforms TransformsConfig) (chance : UInt32) (messages : Messages)
    (next : Messages → ChainResponse) {e : Error} (h : next (t.forwarded debug messages) = .error e) :
    ∃ e', t.transform eq to_error_response debug frameDebug now chance messages next = .error e' := by
  cases t with
  | RedisClusterPortsRewrite t =>
    simp only [Transforms.forwarded] at h
    exact ⟨e, by simp [Transforms.transform, RedisClusterPortsRewrite.transform, h]⟩
  | RedisTimeStampTagger t =>
    simp only [Transforms.forwarded] at h
    exact ⟨e, by simp [Transforms.transform, transform_eq, h]⟩
  | Tee t => exact tee_stage_eq_error t messages next h
  | Sampler t =>
    rcases t.transform_cases chance messages next with heq | ⟨text, -, hp⟩
    · exact ⟨e, heq.trans h⟩
    · exact ⟨.panic text, hp⟩

end stage

/-! ## The whole chain -/

section chain

variable {TransformsConfig : Type} (eq : Message → Message → Bool)
  (to_error_response : Message → String → Message) (debug : Value → List UInt8)
  (frameDebug : Frame → String) (now : Nat)

/-- A run through the chain: the sink answers the batch that reaches it, and the chain's
answer comes from the sink's answer by stage maps, index by index. -/
theorem process_request_eq_ok (sink : Messages → ChainResponse)
    (ts : List (Transforms TransformsConfig)) (chances : List UInt32) (messages out : Messages)
    (h : process_request eq to_error_response debug frameDebug now sink ts chances messages = .ok out) :
    ∃ rs, sink (sinkBatch debug ts messages) = .ok rs ∧
      List.Forall₂ (Derived to_error_response now) rs out := by
  induction ts generalizing chances messages out with
  | nil => exact ⟨out, h, forall₂_derived_refl out⟩
  | cons t ts ih =>
    obtain ⟨rs, hrs, hout⟩ := stage_eq_ok t _ messages out _ h
    obtain ⟨ss, hss, hrs⟩ := ih _ _ _ hrs
    exact ⟨ss, hss, forall₂_derived_trans hrs hout⟩

/-- One in, one out: in front of a sink that answers each request once, answer `i` of the chain
is the sink's answer `i` with only the stages' maps applied. -/
theorem chain_one_in_one_out (sink : Messages → ChainResponse)
    (hsink : ∀ ms rs, sink ms = .ok rs → rs.length = ms.length)
    (ts : List (Transforms TransformsConfig)) (chances : List UInt32) (reqs out : Messages)
    (h : process_request eq to_error_response debug frameDebug now sink ts chances reqs = .ok out) :
    out.length = reqs.length ∧
      ∃ rs, sink (sinkBatch debug ts reqs) = .ok rs ∧
        List.Forall₂ (Derived to_error_response now) rs out := by
  obtain ⟨rs, hrs, hout⟩ := process_request_eq_ok eq to_error_response debug frameDebug now sink ts chances reqs out h
  refine ⟨?_, rs, hrs, hout⟩
  calc out.length = rs.length := hout.length_eq.symm
    _ = (sinkBatch debug ts reqs).length := hsink _ _ hrs
    _ = reqs.length := length_sinkBatch ts reqs

def answerSlots (messages : Messages) : ChainResponse := .ok (messages.map fun _ => slotsAnswer)

def failingSampler : Sampler := ⟨"Sampler", 100, 100, fun _ _ => .error (.msg "sample chain failed")⟩

/-- A sampler, a tee in `Ignore` mode, the ports rewrite to 2004 and the tagger. -/
def slotsChain : List (Transforms Unit) :=
  [.Sampler failingSampler, .Tee { mismatchTee (.ok []) with behavior := .Ignore },
    .RedisClusterPortsRewrite ⟨2004⟩, .RedisTimeStampTagger RedisTimestampTagger.new]

theorem chain_scenario_slots :
    (∀ ms rs, answerSlots ms = .ok rs → rs.length = ms.length) ∧
    process_request Message.eq Message.to_error_response (fun _ => []) (fun _ => "") 0 answerSlots slotsChain [0]
        [slotsRequest] = .ok [withPorts 2004 slotsAnswer] ∧
    ([withPorts 2004 slotsAnswer].length = [slotsRequest].length ∧
      ∃ rs, answerSlots (sinkBatch (fun _ => []) slotsChain [slotsRequest]) = .ok rs ∧
        List.Forall₂ (Derived Message.to_error_response 0) rs [withPorts 2004 slotsAnswer]) :=
  have hsink : ∀ ms rs, answerSlots ms = .ok rs → rs.length = ms.length :=
    fun ms _ h => (Except.ok.inj h) ▸ List.length_map ms _
  have hrun : process_request Message.eq Message.to_error_response (fun _ => []) (fun _ => "") 0 answerSlots
      slotsChain [0] [slotsRequest] = .ok [withPorts 2004 slotsAnswer] := rfl
  ⟨hsink, hrun, chain_one_in_one_out Message.eq Message.to_error_response (fun _ => []) (fun _ => "") 0
    answerSlots hsink slotsChain [0] [slotsRequest] _ hrun⟩

/-- No stage turns a failure of the sink into an answer. -/
theorem chain_propagates_sink_error (sink : Messages → ChainResponse)
    (ts : List (Transforms TransformsConfig)) (chances : List UInt32) (reqs : Messages) (e : Error)
    (h : sink (sinkBatch debug ts reqs) = .error e) :
    ∃ e', process_request eq to_error_response debug frameDebug now sink ts chances reqs = .error e' := by
  induction ts generalizing chances reqs e with
  | nil => exact ⟨e, h⟩
  | cons t ts ih =>
    obtain ⟨e', he'⟩ := ih chances.tail (t.forwarded debug reqs) e h
    exact stage_eq_error t _ reqs _ he'

theorem chain_refused_connection :
    (fun _ => .error (.msg "connection refused") : Messages → ChainResponse)
        (sinkBatch (fun _ => []) slotsChain [slotsRequest]) = .error (.msg "connection refused") ∧
    ∃ e', process_request Message.eq Message.to_error_response (fun _ => []) (fun _ => "") 0
      (fun _ => .error (.msg "connection refused")) slotsChain [0] [slotsRequest] = .error e' :=
  ⟨rfl, chain_propagates_sink_error Message.eq Message.to_error_response (fun _ => []) (fun _ => "") 0
    (fun _ => .error (.msg "connection refused")) slotsChain [0] [slotsRequest] _ rfl⟩

end chain

end shotover.transforms.chain
