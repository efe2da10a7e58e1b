-- The laws of `RedisClusterPortsRewrite` (`redis_cluster_ports_rewrite.rs`): in the answer
-- to a CLUSTER SLOTS request the port of every node becomes the configured port, nothing
-- else in the answer changes, and the other answers of the batch pass through.
import Shotover.Message
import Mathlib.Data.List.Basic

namespace shotover.transforms.redis_cluster_ports_rewrite

open shotover.message

/-! ## The transform -/

structure RedisClusterPortsRewrite where
  new_port : UInt16

/-- The port as an integer frame: `new_port.into()`, a `u16` widened to `i64`. -/
def portFrame (new_port : UInt16) : Frame := .Integer (BitVec.ofNat 64 new_port.toNat)

section transform

-- The `Debug` form of a frame, which the two `bail!` messages end with.
variable (debug : Frame → String)

/-- The `match (index, &mut frame)` on one element of a slot entry. -/
def rewriteSlotElem (new_port : UInt16) : Nat → Frame → Except Error Frame
  | 0, frame => .ok frame
  | 1, frame => .ok frame
  | _, .Array (.BulkString ip :: .Integer _ :: rest) =>
    .ok (.Array (.BulkString ip :: portFrame new_port :: rest))
  | _, frame@(.Array _) => .error (.msg ("expected host-port in slot map but was: " ++ debug frame))
  | _, frame => .error (.msg ("unexpected value in slot map: " ++ debug frame))

/-- The loop over `slot.iter_mut().enumerate()`, from position `index` on. -/
def rewriteSlot (new_port : UInt16) (index : Nat) : List Frame → Except Error (List Frame)
  | [] => .ok []
  | frame :: slot => do
    let frame ← rewriteSlotElem debug new_port index frame
    let slot ← rewriteSlot new_port (index + 1) slot
    pure (frame :: slot)

/-- The `if let Frame::Array(slot) = elem` on one element of the answer. -/
def rewriteElem (new_port : UInt16) : Frame → Except Error Frame
  | .Array slot => Frame.Array <$> rewriteSlot debug new_port 0 slot
  | elem => .ok elem

def rewriteSlots (new_port : UInt16) : List Frame → Except Error (List Frame)
  | [] => .ok []
  | elem :: array => do
    let elem ← rewriteElem debug new_port elem
    let array ← rewriteSlots new_port array
    pure (elem :: array)

/-- Rewrites the ports of a response to a CLUSTER SLOTS message to `new_port`. -/
def rewrite_port (frame : RawFrame) (new_port : UInt16) : Except Error RawFrame :=
  match frame with
  | .Redis (.Array array) => (fun array => .Redis (.Array array)) <$> rewriteSlots debug new_port array
  | frame => .ok frame

def to_ascii_uppercase (b : List UInt8) : List UInt8 :=
  b.map fun c => if 97 ≤ c ∧ c ≤ 122 then c - 32 else c

/-- The upper-cased bulk strings at the front of an array, up to its first frame that is
not a bulk string: the `map`, `take_while` and `unwrap` of `is_cluster_slots`. -/
def bulkPrefix : List Frame → List (List UInt8)
  | .BulkString b :: frames => to_ascii_uppercase b :: bulkPrefix frames
  | _ => []

/-- Determines if the supplied Redis Frame is a `CLUSTER SLOTS` request. -/
def is_cluster_slots : RawFrame → Bool
  | .Redis (.Array array) => bulkPrefix array == [ascii "CLUSTER", ascii "SLOTS"]
  | _ => false

def cluster_slots_indices (messages : Messages) : List Nat :=
  (messages.enum.filter fun p => is_cluster_slots p.2.original).map Prod.fst

/-- The loop that rewrites, in place, the answer at each of the indices. -/
def rewriteAll (new_port : UInt16) : List Nat → Messages → ChainResponse
  | [], response => .ok response
  | i :: indices, response =>
    match response[i]? with
    | none => .error (.panic "index out of bounds")
    | some m =>
      match rewrite_port debug m.original new_port with
      | .error e => .error (.context "failed to rewrite CLUSTER SLOTS port" e)
      | .ok original => rewriteAll new_port indices (response.set i { m with original })

/-- `Transform::transform`; `call_next_transform` is the rest of the chain. -/
def RedisClusterPortsRewrite.transform (self : RedisClusterPortsRewrite) (messages : Messages)
    (call_next_transform : Messages → ChainResponse) : ChainResponse := do
  let response ← call_next_transform messages
  rewriteAll debug self.new_port (cluster_slots_indices messages) response

end transform

/-! ## What a CLUSTER SLOTS answer holds -/

/-- A node of a slot entry: an array that starts with a bulk string (the IP) and an
integer (the port). -/
def isNode : Frame → Bool
  | .Array (.BulkString _ :: .Integer _ :: _) => true
  | _ => false

def setPort (new_port : UInt16) : Frame → Frame
  | .Array (.BulkString ip :: .Integer _ :: rest) =>
    .Array (.BulkString ip :: portFrame new_port :: rest)
  | frame => frame

/-- An element of the answer that `rewrite_port` accepts: no array, or a slot entry whose
elements after the two slot bounds are nodes. -/
def slotAccepted : Frame → Bool
  | .Array slot => (slot.drop 2).all isNode
  | _ => true

def slotPorts (new_port : UInt16) : Frame → Frame
  | .Array slot => .Array (slot.take 2 ++ (slot.drop 2).map (setPort new_port))
  | elem => elem

/-- What `rewrite_port` accepts: a frame that is no Redis array, or one whose elements are
all accepted. -/
def Accepts : RawFrame → Bool
  | .Redis (.Array array) => array.all slotAccepted
  | _ => true

def portsSet (new_port : UInt16) : RawFrame → RawFrame
  | .Redis (.Array array) => .Redis (.Array (array.map (slotPorts new_port)))
  | frame => frame

def withPorts (new_port : UInt16) (m : Message) : Message :=
  { m with original := portsSet new_port m.original }

/-- The answer to one request of the batch, with its ports set when the request is a
CLUSTER SLOTS request. -/
def rewriteResponse (new_port : UInt16) (request response : Message) : Message :=
  if is_cluster_slots request.original then withPorts new_port response else response

/-! ## Recognising a CLUSTER SLOTS request -/

def isBulkString : Frame → Bool
  | .BulkString _ => true
  | _ => false

theorem bulkPrefix_eq_nil {frames : List Frame} :
    bulkPrefix frames = [] ↔ ∀ f ∈ frames.head?, isBulkString f = false := by
  rcases frames with _ | ⟨f, frames⟩
  · simp [bulkPrefix]
  · cases f <;> simp [bulkPrefix, isBulkString]

theorem bulkPrefix_eq_cons {frames : List Frame} {x : List UInt8} {xs : List (List UInt8)} :
    bulkPrefix frames = x :: xs ↔
      ∃ b rest, frames = .BulkString b :: rest ∧ to_ascii_uppercase b = x ∧ bulkPrefix rest = xs := by
  rcases frames with _ | ⟨f, frames⟩
  · simp [bulkPrefix]
  · cases f <;> simp [bulkPrefix, and_assoc]

theorem bulkPrefix_eq_cluster_slots {array : List Frame} :
    bulkPrefix array = [ascii "CLUSTER", ascii "SLOTS"] ↔
      ∃ a b rest, array = .BulkString a :: .BulkString b :: rest ∧
        to_ascii_uppercase a = ascii "CLUSTER" ∧ to_ascii_uppercase b = ascii "SLOTS" ∧
        ∀ g ∈ rest.head?, isBulkString g = false := by
  simp only [bulkPrefix_eq_cons, bulkPrefix_eq_nil]
  constructor
  · rintro ⟨a, _, rfl, ha, b, rest, rfl, hb, hrest⟩
    exact ⟨a, b, rest, rfl, ha, hb, hrest⟩
  · rintro ⟨a, b, rest, rfl, ha, hb, hrest⟩
    exact ⟨a, _, rfl, ha, b, rest, rfl, hb, hrest⟩

/-- `is_cluster_slots` reads only the bulk strings at the front of an array, up to its first frame
of another kind: they must be `CLUSTER` and `SLOTS`, in any case. -/
theorem is_cluster_slots_iff {f : RawFrame} :
    is_cluster_slots f ↔
      ∃ a b rest, f = .Redis (.Array (.BulkString a :: .BulkString b :: rest)) ∧
        to_ascii_uppercase a = ascii "CLUSTER" ∧ to_ascii_uppercase b = ascii "SLOTS" ∧
        ∀ g ∈ rest.head?, isBulkString g = false := by
  rcases f with _ | (_ | _ | _ | _ | array | _) | _ <;>
    simp [is_cluster_slots, bulkPrefix_eq_cluster_slots]

/-! ## One slot entry -/

variable {p : UInt16} {debug : Frame → String}

theorem isNode_iff {f : Frame} :
    isNode f ↔ ∃ ip i rest, f = .Array (.BulkString ip :: .Integer i :: rest) := by
  constructor
  · unfold isNode
    split
    · exact fun _ => ⟨_, _, _, rfl⟩
    · exact fun h => absurd h (by simp)
  · rintro ⟨ip, i, rest, rfl⟩
    rfl

theorem setPort_of_not_isNode {f : Frame} (h : ¬ isNode f) : setPort p f = f := by
  unfold setPort
  split
  · exact absurd (isNode_iff.mpr ⟨_, _, _, rfl⟩) h
  · rfl

theorem isNode_setPort {f : Frame} (h : isNode f) : isNode (setPort p f) := by
  obtain ⟨ip, i, rest, rfl⟩ := isNode_iff.mp h
  rfl

theorem setPort_setPort_of (q : UInt16) (f : Frame) : setPort p (setPort q f) = setPort p f := by
  by_cases h : isNode f
  · obtain ⟨ip, i, rest, rfl⟩ := isNode_iff.mp h
    rfl
  · rw [setPort_of_not_isNode h, setPort_of_not_isNode h]

theorem rewriteSlotElem_eq_ok {i : Nat} (hi : 2 ≤ i) {f g : Frame} :
    rewriteSlotElem debug p i f = .ok g ↔ isNode f ∧ setPort p f = g := by
  obtain ⟨i, rfl⟩ : ∃ k, i = k + 2 := ⟨i - 2, by omega⟩
  by_cases hn : isNode f
  · obtain ⟨ip, n, rest, rfl⟩ := isNode_iff.mp hn
    simp [rewriteSlotElem, setPort, hn]
  · simp only [hn, false_and, iff_false]
    unfold rewriteSlotElem
    split <;> simp_all [isNode]

theorem rewriteSlot_eq_ok {i : Nat} (hi : 2 ≤ i) (slot out : List Frame) :
    rewriteSlot debug p i slot = .ok out ↔ slot.all isNode ∧ slot.map (setPort p) = out := by
  induction slot generalizing i out with
  | nil => simp [rewriteSlot]
  | cons f slot ih =>
    simp only [rewriteSlot, bind_eq_ok, rewriteSlotElem_eq_ok hi, ih (by omega : 2 ≤ i + 1)]
    constructor
    · rintro ⟨g, ⟨hf, rfl⟩, gs, ⟨hs, rfl⟩, h⟩
      cases h
      simp [hf, hs]
    · rintro ⟨hall, rfl⟩
      simp only [List.all_cons, Bool.and_eq_true] at hall
      exact ⟨_, ⟨hall.1, rfl⟩, _, ⟨hall.2, rfl⟩, rfl⟩

theorem rewriteSlot_zero_eq_ok (slot out : List Frame) :
    rewriteSlot debug p 0 slot = .ok out ↔
      (slot.drop 2).all isNode ∧ slot.take 2 ++ (slot.drop 2).map (setPort p) = out := by
  match slot with
  | [] => simp [rewriteSlot]
  | [a] => simp [rewriteSlot, rewriteSlotElem]
  | a :: b :: slot =>
    simp [rewriteSlot, rewriteSlotElem, bind_eq_ok, rewriteSlot_eq_ok (le_refl 2), and_assoc]

theorem rewriteElem_eq_ok (elem g : Frame) :
    rewriteElem debug p elem = .ok g ↔ slotAccepted elem ∧ slotPorts p elem = g := by
  cases elem <;> simp [rewriteElem, slotAccepted, slotPorts, map_eq_ok, rewriteSlot_zero_eq_ok,
    and_assoc]

theorem rewriteSlots_eq_ok (array out : List Frame) :
    rewriteSlots debug p array = .ok out ↔ array.all slotAccepted ∧ array.map (slotPorts p) = out := by
  induction array generalizing out with
  | nil => simp [rewriteSlots]
  | cons elem array ih =>
    simp only [rewriteSlots, bind_eq_ok, rewriteElem_eq_ok, ih, pure_eq_ok, Except.ok.injEq]
    constructor
    · rintro ⟨g, ⟨he, rfl⟩, gs, ⟨hs, rfl⟩, rfl⟩
      simp [he, hs]
    · rintro ⟨hall, rfl⟩
      simp only [List.all_cons, Bool.and_eq_true] at hall
      exact ⟨_, ⟨hall.1, rfl⟩, _, ⟨hall.2, rfl⟩, rfl⟩

/-! ## One answer -/

/-- `rewrite_port` succeeds exactly on the frames it accepts, and then it sets the port of
every node and leaves everything else as it was. -/
theorem rewrite_port_eq_ok (f f' : RawFrame) :
    rewrite_port debug f p = .ok f' ↔ Accepts f ∧ portsSet p f = f' := by
  unfold rewrite_port
  split
  · simp only [map_eq_ok, rewriteSlots_eq_ok, Accepts, portsSet]
    constructor
    · rintro ⟨_, ⟨h, rfl⟩, rfl⟩
      exact ⟨h, rfl⟩
    · rintro ⟨h, rfl⟩
      exact ⟨_, ⟨h, rfl⟩, rfl⟩
  · rename_i h
    cases f with
    | Redis frame => cases frame <;> simp_all [Accepts, portsSet]
    | _ => simp [Accepts, portsSet]

@[simp] theorem isNode_comp_setPort : isNode ∘ setPort p = isNode := by
  funext f
  by_cases h : isNode f
  · simp [isNode_setPort h, h]
  · simp [setPort_of_not_isNode h]

theorem slotPorts_slotPorts_of (q : UInt16) (e : Frame) :
    slotPorts p (slotPorts q e) = slotPorts p e := by
  match e with
  | .Array [] | .Array [_] => rfl
  | .Array (_ :: _ :: slot) => simp [slotPorts, setPort_setPort_of]
  | .SimpleString _ | .Error _ | .Integer _ | .BulkString _ | .Null => rfl

@[simp] theorem slotAccepted_comp_slotPorts : slotAccepted ∘ slotPorts p = slotAccepted := by
  funext e
  match e with
  | .Array [] | .Array [_] => rfl
  | .Array (_ :: _ :: slot) => simp [slotPorts, slotAccepted]
  | .SimpleString _ | .Error _ | .Integer _ | .BulkString _ | .Null => rfl

theorem portsSet_portsSet_of (q : UInt16) (f : RawFrame) :
    portsSet p (portsSet q f) = portsSet p f := by
  rcases f with _ | (_ | _ | _ | _ | array | _) | _ <;> simp [portsSet, slotPorts_slotPorts_of]

@[simp] theorem Accepts_portsSet (f : RawFrame) : Accepts (portsSet p f) = Accepts f := by
  rcases f with _ | (_ | _ | _ | _ | array | _) | _ <;> simp [portsSet, Accepts]

/-! ## The batch -/

theorem withPorts_withPorts_of (q : UInt16) (m : Message) :
    withPorts p (withPorts q m) = withPorts p m := by
  simp [withPorts, portsSet_portsSet_of]

@[simp] theorem withPorts_withPorts (m : Message) : withPorts p (withPorts p m) = withPorts p m :=
  withPorts_withPorts_of p m

theorem mem_cluster_slots_indices {ms : Messages} {j : Nat} :
    j ∈ cluster_slots_indices ms ↔ ∃ m, ms[j]? = some m ∧ is_cluster_slots m.original := by
  simp [cluster_slots_indices, List.mem_enum_iff_getElem?]

theorem mapIdx_set_withPorts {r : Messages} {i : Nat} {m : Message} (hi : r[i]? = some m)
    (is : List Nat) :
    (r.set i (withPorts p m)).mapIdx (fun j x => if j ∈ is then withPorts p x else x) =
      r.mapIdx (fun j x => if j ∈ i :: is then withPorts p x else x) := by
  apply List.ext_getElem?
  intro n
  obtain ⟨hlt, hm⟩ := List.getElem?_eq_some_iff.mp hi
  by_cases h : i = n
  · subst h
    simp [List.getElem?_mapIdx, hi, hlt, hm]
  · simp [List.getElem?_mapIdx, List.getElem?_set, h, Ne.symm h]

theorem accepted_set {r : Messages} {i k : Nat} {m : Message} (hi : r[i]? = some m) :
    (∃ m', (r.set i (withPorts p m))[k]? = some m' ∧ Accepts m'.original) ↔
      ∃ m', r[k]? = some m' ∧ Accepts m'.original := by
  have hlt : i < r.length := (List.getElem?_eq_some_iff.mp hi).1
  by_cases h : i = k
  · subst h
    simp [hi, hlt, withPorts]
  · simp [List.getElem?_set, h]

/-- The loop rewrites the answers at the indices, and fails on the first it does not
accept. -/
theorem rewriteAll_eq_ok (is : List Nat) (r out : Messages) :
    rewriteAll debug p is r = .ok out ↔
      (∀ i ∈ is, ∃ m, r[i]? = some m ∧ Accepts m.original) ∧
      r.mapIdx (fun j m => if j ∈ is then withPorts p m else m) = out := by
  induction is generalizing r with
  | nil =>
    have : r.mapIdx (fun _ m => m) = r := List.ext_getElem? fun n => by simp [List.getElem?_mapIdx]
    simp [rewriteAll, this]
  | cons i is ih =>
    rcases hi : r[i]? with _ | m
    · simp [rewriteAll, hi]
    · by_cases ha : Accepts m.original
      · have hrp : rewrite_port debug m.original p = .ok (portsSet p m.original) :=
          (rewrite_port_eq_ok _ _).mpr ⟨ha, rfl⟩
        simp only [rewriteAll, hi, hrp, ih]
        rw [show { m with original := portsSet p m.original } = withPorts p m from rfl,
          mapIdx_set_withPorts hi]
        simp only [accepted_set hi, List.forall_mem_cons]
        simp [hi, ha]
      · obtain ⟨e, he⟩ : ∃ e, rewrite_port debug m.original p = .error e := by
          cases h : rewrite_port debug m.original p with
          | error e => exact ⟨e, rfl⟩
          | ok f => exact absurd ((rewrite_port_eq_ok _ _).mp h).1 ha
        simp [rewriteAll, hi, he, ha]

theorem accepted_mapIdx_withPorts {r : Messages} {is : List Nat} {i : Nat} :
    (∃ m, (r.mapIdx fun j m => if j ∈ is then withPorts p m else m)[i]? = some m ∧
        Accepts m.original) ↔
      ∃ m, r[i]? = some m ∧ Accepts m.original := by
  rw [List.getElem?_mapIdx]
  rcases r[i]? with _ | m
  · simp
  · by_cases h : i ∈ is <;> simp [h, withPorts]

theorem mapIdx_withPorts_withPorts (q : UInt16) (is : List Nat) (r : Messages) :
    ((r.mapIdx fun j m => if j ∈ is then withPorts q m else m).mapIdx
        fun j m => if j ∈ is then withPorts p m else m) =
      r.mapIdx fun j m => if j ∈ is then withPorts p m else m := by
  rw [List.mapIdx_mapIdx]
  congr 1
  funext j m
  by_cases h : j ∈ is <;> simp [h, withPorts_withPorts_of]

/-- A second loop over the same indices, with any port, overwrites the ports of the first. -/
theorem rewriteAll_rewriteAll (q : UInt16) (is : List Nat) (r out : Messages) :
    (rewriteAll debug q is r >>= rewriteAll debug p is) = .ok out ↔ rewriteAll debug p is r = .ok out := by
  simp only [bind_eq_ok, rewriteAll_eq_ok]
  constructor
  · rintro ⟨_, ⟨hacc, rfl⟩, -, rfl⟩
    exact ⟨hacc, (mapIdx_withPorts_withPorts q is r).symm⟩
  · rintro ⟨hacc, rfl⟩
    exact ⟨_, ⟨hacc, rfl⟩, fun i hi => accepted_mapIdx_withPorts.mpr (hacc i hi),
      mapIdx_withPorts_withPorts q is r⟩

/-- The loop panics at an index that has no answer, when every answer it meets is accepted. -/
theorem rewriteAll_panic (is : List Nat) (r : Messages)
    (hacc : ∀ i ∈ is, ∀ m, r[i]? = some m → Accepts m.original)
    (hmiss : ∃ i ∈ is, r[i]? = none) :
    rewriteAll debug p is r = .error (.panic "index out of bounds") := by
  induction is generalizing r with
  | nil => simp at hmiss
  | cons i is ih =>
    rcases hi : r[i]? with _ | m
    · simp [rewriteAll, hi]
    · have hrp : rewrite_port debug m.original p = .ok (portsSet p m.original) :=
        (rewrite_port_eq_ok _ _).mpr ⟨hacc i (List.mem_cons_self i is) m hi, rfl⟩
      have hlt : i < r.length := (List.getElem?_eq_some_iff.mp hi).1
      simp only [rewriteAll, hi, hrp]
      apply ih
      · intro j hj m' hm'
        by_cases h : i = j
        · subst h
          simp only [List.getElem?_set_self hlt, Option.some.injEq] at hm'
          subst hm'
          simpa using hacc i (List.mem_cons_self i is) m hi
        · rw [List.getElem?_set_ne h] at hm'
          exact hacc j (List.mem_cons_of_mem i hj) m' hm'
      · obtain ⟨j, hj, hjn⟩ := hmiss
        have hij : i ≠ j := by rintro rfl; simp [hi] at hjn
        exact ⟨j, (List.mem_cons.mp hj).resolve_left hij.symm, by rw [List.getElem?_set_ne hij, hjn]⟩

theorem mapIdx_eq_zipWith {reqs resps : Messages} (hlen : resps.length = reqs.length) :
    resps.mapIdx (fun j m => if j ∈ cluster_slots_indices reqs then withPorts p m else m) =
      List.zipWith (rewriteResponse p) reqs resps := by
  apply List.ext_getElem?
  intro n
  rw [List.getElem?_mapIdx, List.getElem?_zipWith]
  rcases hq : reqs[n]? with _ | q
  · have : resps[n]? = none := by
      rw [List.getElem?_eq_none_iff] at hq ⊢
      omega
    simp [this]
  · obtain ⟨hn, -⟩ := List.getElem?_eq_some_iff.mp hq
    obtain ⟨r, hr⟩ : ∃ r, resps[n]? = some r := ⟨resps[n], List.getElem?_eq_getElem (by omega)⟩
    simp [hr, rewriteResponse, mem_cluster_slots_indices, hq]

theorem indices_accepted_iff {reqs resps : Messages} (hlen : resps.length = reqs.length) :
    (∀ i ∈ cluster_slots_indices reqs, ∃ m, resps[i]? = some m ∧ Accepts m.original) ↔
      ∀ (i : Nat) (req resp : Message), reqs[i]? = some req → resps[i]? = some resp →
        is_cluster_slots req.original → Accepts resp.original := by
  simp only [mem_cluster_slots_indices]
  constructor
  · rintro h i req resp hq hr hc
    simpa [hr] using h i ⟨req, hq, hc⟩
  · rintro h i ⟨req, hq, hc⟩
    have hn : i < resps.length := hlen ▸ (List.getElem?_eq_some_iff.mp hq).1
    exact ⟨_, List.getElem?_eq_getElem hn, h i req _ hq (List.getElem?_eq_getElem hn) hc⟩

variable {reqs resps : Messages} {next : Messages → ChainResponse}

theorem transform_eq_ok (t : RedisClusterPortsRewrite) (hnext : next reqs = .ok resps)
    (hlen : resps.length = reqs.length) (out : Messages) :
    t.transform debug reqs next = .ok out ↔
      (∀ (i : Nat) (req resp : Message), reqs[i]? = some req → resps[i]? = some resp →
        is_cluster_slots req.original → Accepts resp.original) ∧
      List.zipWith (rewriteResponse t.new_port) reqs resps = out := by
  simp only [RedisClusterPortsRewrite.transform, hnext, ok_bind, rewriteAll_eq_ok,
    indices_accepted_iff hlen, mapIdx_eq_zipWith hlen]

theorem transform_error_iff (t : RedisClusterPortsRewrite) (hnext : next reqs = .ok resps)
    (hlen : resps.length = reqs.length) :
    (∃ e, t.transform debug reqs next = .error e) ↔
      ∃ (i : Nat) (req resp : Message), reqs[i]? = some req ∧ resps[i]? = some resp ∧
        is_cluster_slots req.original ∧ Accepts resp.original = false := by
  constructor
  · rintro ⟨e, he⟩
    by_contra hno
    simp only [not_exists, not_and, Bool.not_eq_false] at hno
    simp [(transform_eq_ok t hnext hlen _).mpr ⟨hno, rfl⟩] at he
  · rintro ⟨i, req, resp, hq, hr, hc, ha⟩
    cases h : t.transform debug reqs next with
    | error e => exact ⟨e, rfl⟩
    | ok out => simpa [ha] using ((transform_eq_ok t hnext hlen out).mp h).1 i req resp hq hr hc

/-! ## The laws -/

/-- Port rewrite, end to end: given one answer per request, the transform passes an error through,
fails exactly on an answer to CLUSTER SLOTS that is not accepted, and else rewrites those. -/
theorem ports_rewrite_end_to_end (debug : Frame → String) (t : RedisClusterPortsRewrite) (reqs resps : Messages)
    (next : Messages → ChainResponse) (hlen : resps.length = reqs.length) :
    (∀ f f' : RawFrame,
      rewrite_port debug f t.new_port = .ok f' ↔ Accepts f ∧ portsSet t.new_port f = f') ∧
    (∀ e, next reqs = .error e → t.transform debug reqs next = .error e) ∧
    (next reqs = .ok resps →
      ((∃ e, t.transform debug reqs next = .error e) ↔
        ∃ (i : Nat) (req resp : Message), reqs[i]? = some req ∧ resps[i]? = some resp ∧
          is_cluster_slots req.original ∧ Accepts resp.original = false) ∧
      ((∀ (i : Nat) (req resp : Message), reqs[i]? = some req → resps[i]? = some resp →
          is_cluster_slots req.original → Accepts resp.original) →
        t.transform debug reqs next = .ok (List.zipWith (rewriteResponse t.new_port) reqs resps))) :=
  ⟨fun _ _ => rewrite_port_eq_ok _ _,
    fun e he => by simp [RedisClusterPortsRewrite.transform, he],
    fun hnext => ⟨transform_error_iff t hnext hlen,
      fun hacc => (transform_eq_ok t hnext hlen _).mpr ⟨hacc, rfl⟩⟩⟩

/-- Two port rewrites stacked in a chain answer as the outer one alone; with one port for both, the
rewrite is idempotent. -/
theorem transform_stacked (debug : Frame → String) (t u : RedisClusterPortsRewrite) (reqs out : Messages)
    (next : Messages → ChainResponse) :
    t.transform debug reqs (fun ms => u.transform debug ms next) = .ok out ↔
      t.transform debug reqs next = .ok out := by
  simp only [RedisClusterPortsRewrite.transform]
  cases next reqs with
  | error e => simp
  | ok r => simpa using rewriteAll_rewriteAll u.new_port (cluster_slots_indices reqs) r out

def node (ip : String) (port : BitVec 64) (id : String) : Frame :=
  .Array [.BulkString (ascii ip), .Integer port, .BulkString (ascii id)]

/-- The CLUSTER SLOTS request of scenario S1, and the answer of `test_rewrite_port` with every
node at `port`. -/
def slotsRequest : Message :=
  ⟨.Unknown, false, .Redis (.Array [.BulkString (ascii "CLUSTER"), .BulkString (ascii "SLOTS")])⟩

def slotsAnswerAt (port : BitVec 64) : Message :=
  ⟨.Unknown, false, .Redis (.Array [
    .Array [.Integer 10923, .Integer 16383,
      node "192.168.80.6" port "3a7c357ed75d2aa01fca1e14ef3735a2b2b8ffac",
      node "192.168.80.3" port "77c01b0ddd8668fff05e3f6a8aaf5f3ccd454a79"],
    .Array [.Integer 5461, .Integer 10922,
      node "192.168.80.5" port "969c6215d064e68593d384541ceeb57e9520dbed",
      node "192.168.80.2" port "3929f69990a75be7b2d49594c57fe620862e6fd6"],
    .Array [.Integer 0, .Integer 5460,
      node "192.168.80.7" port "15d52a65d1fc7a53e34bf9193415aa39136882b2",
      node "192.168.80.4" port "cd023916a3528fae7e606a10d8289a665d6c47b0"]])⟩

def slotsAnswer : Message := slotsAnswerAt 6379

theorem ports_rewrite_scenario_s1 :
    [slotsAnswer].length = [slotsRequest].length ∧
      (RedisClusterPortsRewrite.mk 2004).transform (fun _ => "") [slotsRequest]
        (fun _ => .ok [slotsAnswer]) = .ok [slotsAnswerAt 2004] :=
  ⟨rfl, ((ports_rewrite_end_to_end (fun _ => "") ⟨2004⟩ [slotsRequest] [slotsAnswer] _ rfl).2.2
    rfl).2 fun i _ resp _ hr _ => by
      rcases i with _ | i <;> simp at hr
      subst hr
      rfl⟩

example : is_cluster_slots slotsRequest.original := by decide

/-- A `CLUSTER SLOTS` command as a client sends it: an array of exactly two bulk strings whose
upper-casings are `CLUSTER` and `SLOTS`. -/
def IsClusterSlotsCommand (f : RawFrame) : Prop :=
  ∃ a b, f = .Redis (.Array [.BulkString a, .BulkString b]) ∧
    to_ascii_uppercase a = ascii "CLUSTER" ∧ to_ascii_uppercase b = ascii "SLOTS"

/-- A frame is taken for `CLUSTER SLOTS` exactly when its bulk-string prefix is `CLUSTER SLOTS` and
is all of it or is followed by another kind of frame; on a client's command, that command. -/
theorem is_cluster_slots_reads_bulk_prefix :
    (∀ f : RawFrame, is_cluster_slots f ↔
      ∃ a b rest, f = .Redis (.Array (.BulkString a :: .BulkString b :: rest)) ∧
        to_ascii_uppercase a = ascii "CLUSTER" ∧ to_ascii_uppercase b = ascii "SLOTS" ∧
        ∀ g ∈ rest.head?, isBulkString g = false) ∧
    (∀ array : List Frame, (∀ g ∈ array, isBulkString g) →
      (is_cluster_slots (.Redis (.Array array)) ↔ IsClusterSlotsCommand (.Redis (.Array array)))) := by
  refine ⟨fun _ => is_cluster_slots_iff, fun array hbulk => is_cluster_slots_iff.trans ⟨?_, ?_⟩⟩
  · rintro ⟨a, b, rest, h, ha, hb, hrest⟩
    cases h
    rcases rest with _ | ⟨g, rest⟩
    · exact ⟨a, b, rfl, ha, hb⟩
    · have := hbulk g (by simp)
      simp [hrest g rfl] at this
  · rintro ⟨a, b, h, ha, hb⟩
    exact ⟨a, b, [], h, ha, hb, by simp⟩

theorem is_cluster_slots_request_s1 :
    (∀ g ∈ [Frame.BulkString (ascii "CLUSTER"), .BulkString (ascii "SLOTS")], isBulkString g) ∧
      (is_cluster_slots (.Redis (.Array [.BulkString (ascii "CLUSTER"), .BulkString (ascii "SLOTS")])) ↔
        IsClusterSlotsCommand (.Redis (.Array [.BulkString (ascii "CLUSTER"), .BulkString (ascii "SLOTS")]))) :=
  ⟨by decide, is_cluster_slots_reads_bulk_prefix.2 _ (by decide)⟩

/-- `CLUSTER SLOTS 0`, with an integer after the two bulk strings, is taken for CLUSTER SLOTS. -/
theorem cluster_slots_with_integer_argument :
    is_cluster_slots
        (.Redis (.Array [.BulkString (ascii "cluster"), .BulkString (ascii "slots"), .Integer 0])) ∧
      ¬ IsClusterSlotsCommand
        (.Redis (.Array [.BulkString (ascii "cluster"), .BulkString (ascii "slots"), .Integer 0])) :=
  ⟨by decide, by rintro ⟨a, b, h, -⟩; simp at h⟩

/-- The transform when the rest of the chain answers with any number of messages: a missing answer
to a CLUSTER SLOTS request is a panic, and answers past the batch are kept. -/
theorem transform_any_length (debug : Frame → String) (t : RedisClusterPortsRewrite) (reqs resps : Messages)
    (next : Messages → ChainResponse) (hnext : next reqs = .ok resps) :
    (∀ out, t.transform debug reqs next = .ok out ↔
      (∀ (i : Nat) (req : Message), reqs[i]? = some req → is_cluster_slots req.original →
        ∃ resp, resps[i]? = some resp ∧ Accepts resp.original) ∧
      resps.mapIdx (fun i resp =>
        if i ∈ cluster_slots_indices reqs then withPorts t.new_port resp else resp) = out) ∧
    ((∀ (i : Nat) (req resp : Message), reqs[i]? = some req → resps[i]? = some resp →
        is_cluster_slots req.original → Accepts resp.original) →
      (∃ (i : Nat) (req : Message), reqs[i]? = some req ∧ is_cluster_slots req.original ∧
        resps.length ≤ i) →
      t.transform debug reqs next = .error (.panic "index out of bounds")) := by
  refine ⟨fun out => ?_, fun hacc ⟨i, req, hq, hc, hi⟩ => ?_⟩
  · simp only [RedisClusterPortsRewrite.transform, hnext, ok_bind, rewriteAll_eq_ok,
      mem_cluster_slots_indices, forall_exists_index, and_imp]
  · simp only [RedisClusterPortsRewrite.transform, hnext, ok_bind]
    apply rewriteAll_panic
    · intro j hj m hm
      obtain ⟨req', hq', hc'⟩ := mem_cluster_slots_indices.mp hj
      exact hacc j req' m hq' hm hc'
    · exact ⟨i, mem_cluster_slots_indices.mpr ⟨req, hq, hc⟩, List.getElem?_eq_none hi⟩

theorem ports_rewrite_missing_answer :
    (RedisClusterPortsRewrite.mk 2004).transform (fun _ => "") [slotsRequest, slotsRequest]
      (fun _ => .ok [slotsAnswer]) = .error (.panic "index out of bounds") :=
  (transform_any_length (fun _ => "") ⟨2004⟩ [slotsRequest, slotsRequest] [slotsAnswer] _ rfl).2
    (fun i _ resp _ hr _ => by
      rcases i with _ | i <;> simp at hr
      subst hr
      decide)
    ⟨1, slotsRequest, rfl, by decide, by decide⟩

end shotover.transforms.redis_cluster_ports_rewrite
