-- The Kafka frame of `frame/kafka.rs`: a four-byte length, a header, and a body that is
-- parsed for two API keys and carried as bytes for every other one. `kafka_protocol`, whose
-- header and body codecs the frame calls, is not among the sources: its types and codecs
-- are parameters, with the laws that the round trips rest on.
import Shotover.Message
import Mathlib

namespace shotover.frame.kafka

open shotover.message

/-! ## Big-endian words -/

@[simp] theorem toNat_toUInt8 (n : Nat) : n.toUInt8.toNat = n % 256 := BitVec.toNat_ofNat n 8

theorem toUInt8_congr {a b : Nat} (h : a % 256 = b % 256) : a.toUInt8 = b.toUInt8 :=
  UInt8.eq_of_toBitVec_eq (BitVec.eq_of_toNat_eq (by simpa using h))

/-- The four bytes of a 32-bit word, most significant first. -/
def be32 (n : Nat) : List UInt8 :=
  [(n / 2 ^ 24).toUInt8, (n / 2 ^ 16).toUInt8, (n / 2 ^ 8).toUInt8, n.toUInt8]

/-- `i32::to_be_bytes`: the bytes of the bit pattern. -/
def i32_to_be_bytes (x : BitVec 32) : List UInt8 := be32 x.toNat

/-- The word at the front of the bytes, most significant byte first, and the bytes after it. -/
def readBe32 : List UInt8 → Option (Nat × List UInt8)
  | b0 :: b1 :: b2 :: b3 :: rest =>
    some (((b0.toNat * 256 + b1.toNat) * 256 + b2.toNat) * 256 + b3.toNat, rest)
  | _ => none

@[simp] theorem length_be32 (n : Nat) : (be32 n).length = 4 := rfl

theorem be32_mod (n : Nat) : be32 (n % 2 ^ 32) = be32 n := by
  simp only [be32, List.cons.injEq, and_true]
  refine ⟨toUInt8_congr ?_, toUInt8_congr ?_, toUInt8_congr ?_, toUInt8_congr ?_⟩ <;> omega

/-- `bytes_len as i32` and back to bytes: the low 32 bits of the length. -/
@[simp] theorem i32_to_be_bytes_ofNat (n : Nat) : i32_to_be_bytes (BitVec.ofNat 32 n) = be32 n := by
  rw [i32_to_be_bytes, BitVec.toNat_ofNat, be32_mod]

theorem readBe32_be32 (n : Nat) (rest : List UInt8) :
    readBe32 (be32 n ++ rest) = some (n % 2 ^ 32, rest) := by
  simp only [be32, List.cons_append, List.nil_append, readBe32, toNat_toUInt8, Option.some.injEq,
    Prod.mk.injEq, and_true]
  omega

/-! ## What the frame uses of `kafka_protocol` -/

/-- The types of `kafka_protocol` that a frame holds, and the codes of the variants of its
`ApiKey`, among which are `ProduceKey` (0) and `FindCoordinatorKey` (10). -/
structure Schema where
  RequestHeader : Type
  ResponseHeader : Type
  ProduceRequest : Type
  ProduceResponse : Type
  FindCoordinatorRequest : Type
  FindCoordinatorResponse : Type
  isApiKey : BitVec 16 → Bool
  produce_key : isApiKey 0 = true
  find_coordinator_key : isApiKey 10 = true

structure ApiKey (S : Schema) where
  code : BitVec 16
  isApiKey : S.isApiKey code = true
  deriving DecidableEq

def ApiKey.ProduceKey (S : Schema) : ApiKey S := ⟨0, S.produce_key⟩

def ApiKey.FindCoordinatorKey (S : Schema) : ApiKey S := ⟨10, S.find_coordinator_key⟩

def ApiKey.try_from (S : Schema) (code : BitVec 16) : Except Unit (ApiKey S) :=
  if h : S.isApiKey code then .ok ⟨code, h⟩ else .error ()

/-- An `Encodable` and `Decodable` type at a version: `encode` gives the bytes it appends, also
when it fails part way, and `decode` reads from the front; `type_name` is `std::any::type_name`. -/
structure Codec (T : Type) where
  type_name : String
  encode : T → BitVec 16 → List UInt8 × Except Error Unit
  decode : List UInt8 → BitVec 16 → Except Error (T × List UInt8)

/-- The codecs of the schema's types, and the two fields of `RequestHeader` that a frame reads. -/
structure Library (S : Schema) where
  request_api_key : S.RequestHeader → BitVec 16
  request_api_version : S.RequestHeader → BitVec 16
  RequestHeader : Codec S.RequestHeader
  ResponseHeader : Codec S.ResponseHeader
  ProduceRequest : Codec S.ProduceRequest
  ProduceResponse : Codec S.ProduceResponse
  FindCoordinatorRequest : Codec S.FindCoordinatorRequest
  FindCoordinatorResponse : Codec S.FindCoordinatorResponse

/-! ## The frame -/

/-- `RequestBody` and `ResponseBody`, which differ only in the types of the two bodies that
are parsed. -/
inductive Body (S : Schema) (P F : Type) where
  | Produce (x : P)
  | FindCoordinator (x : F)
  | Unknown (api_key : ApiKey S) (message : List UInt8)

abbrev RequestBody (S : Schema) := Body S S.ProduceRequest S.FindCoordinatorRequest

abbrev ResponseBody (S : Schema) := Body S S.ProduceResponse S.FindCoordinatorResponse

inductive KafkaFrame (S : Schema) where
  | Request (header : S.RequestHeader) (body : RequestBody S)
  | Response (version : BitVec 16) (header : S.ResponseHeader) (body : ResponseBody S)

/-- `codec::kafka::RequestHeader`: the key and version of the request that a response answers. -/
structure CodecRequestHeader (S : Schema) where
  api_key : ApiKey S
  version : BitVec 16

def REQUEST_HEADER_VERSION : BitVec 16 := 1

def RESPONSE_HEADER_VERSION : BitVec 16 := 0

/-- `decode` of `kafka.rs`: a body, with its type and version in the context of an error. -/
def decode {T : Type} (c : Codec T) (bytes : List UInt8) (version : BitVec 16) :
    Except Error (T × List UInt8) :=
  (c.decode bytes version).mapError
    (.context ("Failed to decode " ++ c.type_name ++ " v" ++ toString version.toInt ++ " body"))

section frame

variable {S : Schema} {P F : Type} (L : Library S)

/-- The `match` on the key in `parse_request` and `parse_response`: a Produce or a
FindCoordinator body is decoded at the version, any other is kept as its bytes. -/
def parseBody (produce : Codec P) (find_coordinator : Codec F) (api_key : ApiKey S)
    (version : BitVec 16) (bytes : List UInt8) : Except Error (Body S P F) :=
  if api_key = .ProduceKey S then (fun r => Body.Produce r.1) <$> decode produce bytes version
  else if api_key = .FindCoordinatorKey S then
    (fun r => Body.FindCoordinator r.1) <$> decode find_coordinator bytes version
  else pure (.Unknown api_key bytes)

def KafkaFrame.parse_request (bytes : List UInt8) : Except Error (KafkaFrame S) := do
  let (header, bytes) ← (L.RequestHeader.decode bytes REQUEST_HEADER_VERSION).mapError
    (.context "Failed to decode request header")
  let api_key ← (ApiKey.try_from S (L.request_api_key header)).mapError
    fun _ => .msg ("unknown api key " ++ toString (L.request_api_key header).toInt)
  let version := L.request_api_version header
  let body ← parseBody L.ProduceRequest L.FindCoordinatorRequest api_key version bytes
  pure (.Request header body)

def KafkaFrame.parse_response (bytes : List UInt8) (request_header : CodecRequestHeader S) :
    Except Error (KafkaFrame S) := do
  let (header, bytes) ← (L.ResponseHeader.decode bytes RESPONSE_HEADER_VERSION).mapError
    (.context "Failed to decode response header")
  let version := request_header.version
  let body ← parseBody L.ProduceResponse L.FindCoordinatorResponse request_header.api_key version bytes
  pure (.Response version header body)

/-- `KafkaFrame::from_bytes`. `split_to(4)` removes the length without reading it, and
panics on fewer than four bytes. -/
def KafkaFrame.from_bytes (bytes : List UInt8) (request_header : Option (CodecRequestHeader S)) :
    Except Error (KafkaFrame S) :=
  if bytes.length < 4 then .error (.panic "split_to out of bounds")
  else
    let bytes := bytes.drop 4
    match request_header with
    | some request_header => KafkaFrame.parse_response L bytes request_header
    | none => KafkaFrame.parse_request L bytes

/-- The `match` on the body in `encode`: a parsed body is encoded at the version, the bytes
of any other are appended as they are. -/
def writeBody (produce : Codec P) (find_coordinator : Codec F) (version : BitVec 16) :
    Body S P F → List UInt8 × Except Error Unit
  | .Produce x => produce.encode x version
  | .FindCoordinator x => find_coordinator.encode x version
  | .Unknown _ message => (message, .ok ())

def andThen : List UInt8 × Except Error Unit → List UInt8 × Except Error Unit →
    List UInt8 × Except Error Unit
  | (written, .error e), _ => (written, .error e)
  | (written, .ok ()), (more, result) => (written ++ more, result)

def writeMessage : KafkaFrame S → List UInt8 × Except Error Unit
  | .Request header body =>
    andThen (L.RequestHeader.encode header REQUEST_HEADER_VERSION)
      (writeBody L.ProduceRequest L.FindCoordinatorRequest (L.request_api_version header) body)
  | .Response version header body =>
    andThen (L.ResponseHeader.encode header RESPONSE_HEADER_VERSION)
      (writeBody L.ProduceResponse L.FindCoordinatorResponse version body)

/-- `bytes[start..stop].copy_from_slice(src)`; at its one call both sides have four bytes. -/
def copy_from_slice (bytes : List UInt8) (start stop : Nat) (src : List UInt8) : List UInt8 :=
  bytes.take start ++ src ++ bytes.drop stop

/-- `KafkaFrame::encode`: the buffer after the call, and the result. -/
def KafkaFrame.encode (self : KafkaFrame S) (bytes : List UInt8) : List UInt8 × Except Error Unit :=
  let length_start := bytes.length
  let bytes_start := length_start + 4
  let bytes := bytes ++ i32_to_be_bytes 0
  match writeMessage L self with
  | (written, .error e) => (bytes ++ written, .error e)
  | (written, .ok ()) =>
    let bytes := bytes ++ written
    let bytes_len := bytes.length - bytes_start
    (copy_from_slice bytes length_start bytes_start (i32_to_be_bytes (BitVec.ofNat 32 bytes_len)),
      .ok ())

def KafkaFrame.isUnknown : KafkaFrame S → Bool
  | .Request _ (.Unknown _ _) => true
  | .Response _ _ (.Unknown _ _) => true
  | _ => false

end frame

/-! ## What `encode` writes -/

section encode

variable {S : Schema} {L : Library S}

/-- `encode` appends the dummy length and the writes; when they succeed, the dummy becomes
the low 32 bits of their length. -/
theorem encode_eq (f : KafkaFrame S) (B : List UInt8) :
    f.encode L B =
      match writeMessage L f with
      | (written, .error e) => (B ++ be32 0 ++ written, .error e)
      | (written, .ok ()) =>
        (B ++ i32_to_be_bytes (BitVec.ofNat 32 written.length) ++ written, .ok ()) := by
  unfold KafkaFrame.encode
  rcases writeMessage L f with ⟨written, _ | ⟨⟩⟩
  · rfl
  · have : B.length + (4 + written.length) - (B.length + 4) = written.length := by omega
    simp [copy_from_slice, List.drop_append_eq_append_drop, List.drop_eq_nil_of_le, this]

theorem encode_eq_ok {f : KafkaFrame S} {B out : List UInt8} (h : f.encode L B = (out, .ok ())) :
    (writeMessage L f).2 = .ok () ∧
      out = B ++ be32 (writeMessage L f).1.length ++ (writeMessage L f).1 := by
  rw [encode_eq] at h
  rcases hw : writeMessage L f with ⟨written, _ | ⟨⟩⟩ <;> simp_all

theorem andThen_eq_ok {first second : List UInt8 × Except Error Unit}
    (h : (andThen first second).2 = .ok ()) :
    first.2 = .ok () ∧ second.2 = .ok () ∧ (andThen first second).1 = first.1 ++ second.1 := by
  obtain ⟨written, _ | ⟨⟩⟩ := first
  · cases h
  · exact ⟨rfl, h, rfl⟩

theorem andThen_of_ok {first : List UInt8 × Except Error Unit} (h : first.2 = .ok ())
    (second : List UInt8 × Except Error Unit) :
    andThen first second = (first.1 ++ second.1, second.2) := by
  obtain ⟨written, _ | ⟨⟩⟩ := first
  · cases h
  · rfl

end encode

/-! ## What `from_bytes` reads -/

section parse

variable {S : Schema} {P F : Type} {L : Library S}

theorem mapError_eq_ok {ε ε' α : Type} {r : Except ε α} {g : ε → ε'} {a : α} :
    r.mapError g = .ok a ↔ r = .ok a := by
  cases r <;> simp [Except.mapError]

theorem ApiKey.eq_iff {a b : ApiKey S} : a = b ↔ a.code = b.code := by
  cases a; cases b; simp

theorem from_bytes_be32 (n : Nat) (bytes : List UInt8)
    (request_header : Option (CodecRequestHeader S)) :
    KafkaFrame.from_bytes L (be32 n ++ bytes) request_header =
      match request_header with
      | some request_header => KafkaFrame.parse_response L bytes request_header
      | none => KafkaFrame.parse_request L bytes := by
  simp [KafkaFrame.from_bytes, be32]

theorem parse_request_eq_ok {bytes : List UInt8} {f : KafkaFrame S} :
    KafkaFrame.parse_request L bytes = .ok f ↔
      ∃ header rest, L.RequestHeader.decode bytes REQUEST_HEADER_VERSION = .ok (header, rest) ∧
        ∃ api_key, ApiKey.try_from S (L.request_api_key header) = .ok api_key ∧
          ∃ body, parseBody L.ProduceRequest L.FindCoordinatorRequest api_key
            (L.request_api_version header) rest = .ok body ∧ .Request header body = f := by
  simp only [KafkaFrame.parse_request, bind_eq_ok, mapError_eq_ok, pure_eq_ok, Except.ok.injEq, Prod.exists]

theorem parse_response_eq_ok {bytes : List UInt8} {request_header : CodecRequestHeader S}
    {f : KafkaFrame S} :
    KafkaFrame.parse_response L bytes request_header = .ok f ↔
      ∃ header rest, L.ResponseHeader.decode bytes RESPONSE_HEADER_VERSION = .ok (header, rest) ∧
        ∃ body, parseBody L.ProduceResponse L.FindCoordinatorResponse request_header.api_key
          request_header.version rest = .ok body ∧
          .Response request_header.version header body = f := by
  simp only [KafkaFrame.parse_response, bind_eq_ok, mapError_eq_ok, pure_eq_ok, Except.ok.injEq, Prod.exists]

theorem parseBody_eq_unknown {produce : Codec P} {find_coordinator : Codec F}
    {api_key k : ApiKey S} {version : BitVec 16} {bytes message : List UInt8}
    (h : parseBody produce find_coordinator api_key version bytes = .ok (.Unknown k message)) :
    k = api_key ∧ message = bytes := by
  unfold parseBody at h
  split at h
  · obtain ⟨_, -, ⟨⟩⟩ := map_eq_ok.mp h
  · split at h
    · obtain ⟨_, -, ⟨⟩⟩ := map_eq_ok.mp h
    · cases h
      exact ⟨rfl, rfl⟩

end parse

/-! ## The laws of `kafka_protocol` that the round trips rest on -/

section laws

variable {S : Schema} {P F T : Type}

/-- `decode` undoes a successful `encode` at the version it is given, and leaves what
follows. -/
def Codec.RoundTrips (c : Codec T) : Prop :=
  ∀ x version, (c.encode x version).2 = .ok () →
    ∀ rest, c.decode ((c.encode x version).1 ++ rest) version = .ok (x, rest)

/-- `encode` gives back the bytes that `decode` consumed. -/
def Codec.ReencodesConsumed (c : Codec T) : Prop :=
  ∀ bytes version x rest, c.decode bytes version = .ok (x, rest) →
    (c.encode x version).2 = .ok () ∧ (c.encode x version).1 ++ rest = bytes

structure Library.RoundTrips (L : Library S) : Prop where
  RequestHeader : L.RequestHeader.RoundTrips
  ResponseHeader : L.ResponseHeader.RoundTrips
  ProduceRequest : L.ProduceRequest.RoundTrips
  ProduceResponse : L.ProduceResponse.RoundTrips
  FindCoordinatorRequest : L.FindCoordinatorRequest.RoundTrips
  FindCoordinatorResponse : L.FindCoordinatorResponse.RoundTrips

structure Library.ReencodesConsumed (L : Library S) : Prop where
  RequestHeader : L.RequestHeader.ReencodesConsumed
  ResponseHeader : L.ResponseHeader.ReencodesConsumed
  ProduceRequest : L.ProduceRequest.ReencodesConsumed
  ProduceResponse : L.ProduceResponse.ReencodesConsumed
  FindCoordinatorRequest : L.FindCoordinatorRequest.ReencodesConsumed
  FindCoordinatorResponse : L.FindCoordinatorResponse.ReencodesConsumed

/-- The body agrees with the code of a key: a Produce body with `ProduceKey`, a FindCoordinator
body with `FindCoordinatorKey`, and a kept body with its own key, which is neither. -/
def Body.Agrees (code : BitVec 16) : Body S P F → Prop
  | .Produce _ => code = 0
  | .FindCoordinator _ => code = 10
  | .Unknown api_key _ => api_key.code = code ∧ code ≠ 0 ∧ code ≠ 10

/-- A frame agrees with the request header that `from_bytes` is given: a request with none, a
response with the header of the request it answers; and its body with that key. -/
def KafkaFrame.Agrees (L : Library S) : KafkaFrame S → Option (CodecRequestHeader S) → Prop
  | .Request header body, none => body.Agrees (L.request_api_key header)
  | .Response version _ body, some request_header =>
    request_header.version = version ∧ body.Agrees request_header.api_key.code
  | _, _ => False

theorem Body.Agrees.isApiKey {body : Body S P F} {code : BitVec 16} (h : body.Agrees code) :
    S.isApiKey code = true := by
  cases body with
  | Produce => exact (h : code = 0) ▸ S.produce_key
  | FindCoordinator => exact (h : code = 10) ▸ S.find_coordinator_key
  | Unknown api_key => exact h.1 ▸ api_key.isApiKey

/-- The bytes of a body that agrees with the key are read back as that body. -/
theorem parseBody_writeBody {produce : Codec P} {find_coordinator : Codec F}
    (hp : produce.RoundTrips) (hf : find_coordinator.RoundTrips) (api_key : ApiKey S)
    (version : BitVec 16) (body : Body S P F) (hagree : body.Agrees api_key.code)
    (hw : (writeBody produce find_coordinator version body).2 = .ok ()) :
    parseBody produce find_coordinator api_key version
      (writeBody produce find_coordinator version body).1 = .ok body := by
  have h0 : ApiKey.ProduceKey S ≠ .FindCoordinatorKey S := by
    simp [ApiKey.eq_iff, ApiKey.ProduceKey, ApiKey.FindCoordinatorKey]
  cases body with
  | Produce x =>
    obtain rfl : api_key = .ProduceKey S := ApiKey.eq_iff.mpr hagree
    have hd := hp x version hw []
    rw [List.append_nil] at hd
    simp only [parseBody, decode, writeBody, hd]
    rfl
  | FindCoordinator x =>
    obtain rfl : api_key = .FindCoordinatorKey S := ApiKey.eq_iff.mpr hagree
    have hd := hf x version hw []
    rw [List.append_nil] at hd
    simp only [parseBody, decode, writeBody, hd, h0.symm]
    rfl
  | Unknown k message =>
    obtain ⟨hk, hp0, hf10⟩ := hagree
    obtain rfl : k = api_key := ApiKey.eq_iff.mpr hk
    have h1 : k ≠ .ProduceKey S := fun h => hp0 (congrArg ApiKey.code h)
    have h2 : k ≠ .FindCoordinatorKey S := fun h => hf10 (congrArg ApiKey.code h)
    simp [parseBody, writeBody, h1, h2]

end laws

/-! ## A protocol of bytes, for the scenarios -/

/-- A protocol whose headers and bodies are bytes: a request header is its key and its version,
and its API keys are the codes below 68. -/
def byteSchema : Schema where
  RequestHeader := UInt8 × UInt8
  ResponseHeader := UInt8
  ProduceRequest := UInt8
  ProduceResponse := UInt8
  FindCoordinatorRequest := UInt8
  FindCoordinatorResponse := UInt8
  isApiKey code := code.toNat < 68
  produce_key := rfl
  find_coordinator_key := rfl

def byteCodec : Codec UInt8 where
  type_name := "u8"
  encode x _ := ([x], .ok ())
  decode bytes _ := match bytes with
    | x :: rest => .ok (x, rest)
    | [] => .error (.msg "no byte")

def pairCodec : Codec (UInt8 × UInt8) where
  type_name := "(u8, u8)"
  encode x _ := ([x.1, x.2], .ok ())
  decode bytes _ := match bytes with
    | a :: b :: rest => .ok ((a, b), rest)
    | _ => .error (.msg "no header")

def byteLibrary : Library byteSchema where
  request_api_key header := BitVec.ofNat 16 (header : UInt8 × UInt8).1.toNat
  request_api_version header := BitVec.ofNat 16 (header : UInt8 × UInt8).2.toNat
  RequestHeader := pairCodec
  ResponseHeader := byteCodec
  ProduceRequest := byteCodec
  ProduceResponse := byteCodec
  FindCoordinatorRequest := byteCodec
  FindCoordinatorResponse := byteCodec

theorem byteLibrary_roundTrips : byteLibrary.RoundTrips :=
  ⟨fun _ _ _ _ => rfl, fun _ _ _ _ => rfl, fun _ _ _ _ => rfl, fun _ _ _ _ => rfl,
    fun _ _ _ _ => rfl, fun _ _ _ _ => rfl⟩

theorem pairCodec_reencodesConsumed : pairCodec.ReencodesConsumed := by
  rintro (_ | ⟨a, _ | ⟨b, bytes⟩⟩) _ x rest h <;> simp [pairCodec] at h
  obtain ⟨rfl, rfl⟩ := h
  exact ⟨rfl, rfl⟩

theorem byteCodec_reencodesConsumed : byteCodec.ReencodesConsumed := by
  rintro (_ | ⟨a, bytes⟩) _ x rest h <;> simp [byteCodec] at h
  obtain ⟨rfl, rfl⟩ := h
  exact ⟨rfl, rfl⟩

/-! ## The round trips -/

section roundtrip

variable {S : Schema} (L : Library S)

/-- Decode undoes encode: a frame whose body agrees with its key, encoded with success after any
bytes, is read back by `from_bytes` from the bytes that `encode` appended. -/
theorem from_bytes_encode (hL : L.RoundTrips) (f : KafkaFrame S)
    (request_header : Option (CodecRequestHeader S)) (hagree : f.Agrees L request_header)
    (B b : List UInt8) (hok : f.encode L B = (B ++ b, .ok ())) :
    KafkaFrame.from_bytes L b request_header = .ok f := by
  obtain ⟨hw, hout⟩ := encode_eq_ok hok
  rw [List.append_assoc, List.append_cancel_left_eq] at hout
  subst hout
  rw [from_bytes_be32]
  match f, request_header, hagree with
  | .Request header body, none, hagree =>
    obtain ⟨hh, hb, hwrite⟩ := andThen_eq_ok hw
    simp only [writeMessage, hwrite, parse_request_eq_ok]
    refine ⟨header, _, hL.RequestHeader header _ hh _, ⟨_, hagree.isApiKey⟩, ?_, body,
      parseBody_writeBody hL.ProduceRequest hL.FindCoordinatorRequest _ _ body hagree hb, rfl⟩
    simp [ApiKey.try_from, hagree.isApiKey]
  | .Response version header body, some request_header, ⟨hv, hagree⟩ =>
    obtain ⟨hh, hb, hwrite⟩ := andThen_eq_ok hw
    subst hv
    simp only [writeMessage, hwrite, parse_response_eq_ok]
    exact ⟨header, _, hL.ResponseHeader header _ hh _, body,
      parseBody_writeBody hL.ProduceResponse hL.FindCoordinatorResponse _ _ body hagree hb, rfl⟩

theorem from_bytes_encode_produce :
    byteLibrary.RoundTrips ∧
      KafkaFrame.Agrees byteLibrary (.Request ((0 : UInt8), (2 : UInt8)) (.Produce (42 : UInt8))) none ∧
      (KafkaFrame.Request ((0 : UInt8), (2 : UInt8)) (.Produce (42 : UInt8)) : KafkaFrame byteSchema).encode
          byteLibrary [9] = ([9] ++ (be32 3 ++ [0, 2, 42]), .ok ()) ∧
      KafkaFrame.from_bytes byteLibrary (be32 3 ++ [0, 2, 42]) none =
        .ok (.Request ((0 : UInt8), (2 : UInt8)) (.Produce (42 : UInt8))) :=
  ⟨byteLibrary_roundTrips, rfl, rfl,
    from_bytes_encode byteLibrary byteLibrary_roundTrips
      (.Request ((0 : UInt8), (2 : UInt8)) (.Produce (42 : UInt8))) none rfl [9] _ rfl⟩

/-- Opaque pass-through is byte-exact: bytes that `from_bytes` reads as a kept body, under a length
word that is right, are encoded back to exactly those bytes. -/
theorem encode_from_bytes_unknown (hreq : L.RequestHeader.ReencodesConsumed)
    (hresp : L.ResponseHeader.ReencodesConsumed) (rest : List UInt8)
    (request_header : Option (CodecRequestHeader S)) (f : KafkaFrame S)
    (hf : KafkaFrame.from_bytes L (be32 rest.length ++ rest) request_header = .ok f)
    (hu : f.isUnknown) (B : List UInt8) :
    f.encode L B = (B ++ be32 rest.length ++ rest, .ok ()) := by
  cases request_header with
  | none =>
    simp only [from_bytes_be32] at hf
    obtain ⟨header, bytes, hh, api_key, -, body, hb, rfl⟩ := parse_request_eq_ok.mp hf
    cases body with
    | Unknown k message =>
      obtain ⟨rfl, rfl⟩ := parseBody_eq_unknown hb
      obtain ⟨hok, hbytes⟩ := hreq _ _ _ _ hh
      simp only [encode_eq, writeMessage, andThen_of_ok hok, writeBody, hbytes, i32_to_be_bytes_ofNat]
    | _ => simp [KafkaFrame.isUnknown] at hu
  | some request_header =>
    simp only [from_bytes_be32] at hf
    obtain ⟨header, bytes, hh, body, hb, rfl⟩ := parse_response_eq_ok.mp hf
    cases body with
    | Unknown k message =>
      obtain ⟨rfl, rfl⟩ := parseBody_eq_unknown hb
      obtain ⟨hok, hbytes⟩ := hresp _ _ _ _ hh
      simp only [encode_eq, writeMessage, andThen_of_ok hok, writeBody, hbytes, i32_to_be_bytes_ofNat]
    | _ => simp [KafkaFrame.isUnknown] at hu

theorem encode_from_bytes_answer_to_key_3 :
    byteLibrary.RequestHeader.ReencodesConsumed ∧ byteLibrary.ResponseHeader.ReencodesConsumed ∧
      KafkaFrame.from_bytes byteLibrary (be32 [5, 1, 2, 3].length ++ [5, 1, 2, 3]) (some ⟨⟨3, rfl⟩, 4⟩) =
        .ok (.Response 4 (5 : UInt8) (.Unknown ⟨3, rfl⟩ [1, 2, 3])) ∧
      (KafkaFrame.Response 4 (5 : UInt8) (.Unknown ⟨3, rfl⟩ [1, 2, 3]) : KafkaFrame byteSchema).isUnknown ∧
      (KafkaFrame.Response 4 (5 : UInt8) (.Unknown ⟨3, rfl⟩ [1, 2, 3]) : KafkaFrame byteSchema).encode
          byteLibrary [7] = ([7] ++ be32 [5, 1, 2, 3].length ++ [5, 1, 2, 3], .ok ()) :=
  ⟨pairCodec_reencodesConsumed, byteCodec_reencodesConsumed, rfl, rfl,
    encode_from_bytes_unknown byteLibrary pairCodec_reencodesConsumed byteCodec_reencodesConsumed
      [5, 1, 2, 3] (some ⟨⟨3, rfl⟩, 4⟩) (.Response 4 (5 : UInt8) (.Unknown ⟨3, rfl⟩ [1, 2, 3])) rfl rfl [7]⟩

/-- `bytes_len as i32` wraps. A request whose kept body has 2^31 bytes encodes with success,
and its length word `80 00 00 02`, the low 32 bits of 2^31 + 2, is the `i32` -2147483646. -/
theorem encode_wraps_length :
    (KafkaFrame.Request ((3 : UInt8), (0 : UInt8)) (.Unknown ⟨3, rfl⟩ (List.replicate (2 ^ 31) 0)) :
        KafkaFrame byteSchema).encode byteLibrary [] =
      ([128, 0, 0, 2] ++ ([3, 0] ++ List.replicate (2 ^ 31) 0), .ok ()) ∧
    readBe32 [128, 0, 0, 2] = some (2 ^ 31 + 2, []) ∧
    (BitVec.ofNat 32 (2 ^ 31 + 2)).toInt = -2147483646 := by
  refine ⟨?_, rfl, by decide⟩
  have hh : byteLibrary.RequestHeader.encode ((3 : UInt8), (0 : UInt8)) REQUEST_HEADER_VERSION =
      ([3, 0], .ok ()) := rfl
  simp only [encode_eq, writeMessage, hh, andThen, writeBody, i32_to_be_bytes_ofNat,
    List.length_append, List.length_replicate]
  rfl

end roundtrip

/-! ## Read, then written again -/

section reencode

variable {S : Schema} (L : Library S)

end reencode

/-! ## A stream of frames -/

section stream

variable {S : Schema} (L : Library S)

/-- Frames encoded in turn into one buffer, each with `?`. -/
def encodeAll : List (KafkaFrame S) → List UInt8 → List UInt8 × Except Error Unit
  | [], bytes => (bytes, .ok ())
  | f :: fs, bytes =>
    match f.encode L bytes with
    | (bytes, .ok ()) => encodeAll fs bytes
    | (bytes, .error e) => (bytes, .error e)

/-- The frames of a buffer, by their length words: a word, then that many bytes, for at most
`count` frames. -/
def splitFrames : Nat → List UInt8 → Option (List (List UInt8))
  | _, [] => some []
  | 0, _ :: _ => none
  | count + 1, bytes@(_ :: _) =>
    match readBe32 bytes with
    | some (n, rest) =>
      if n ≤ rest.length then (rest.take n :: ·) <$> splitFrames count (rest.drop n) else none
    | none => none

theorem splitFrames_be32 (count n : Nat) (rest : List UInt8) :
    splitFrames (count + 1) (be32 n ++ rest) =
      if n % 2 ^ 32 ≤ rest.length then (rest.take (n % 2 ^ 32) :: ·) <$> splitFrames count (rest.drop (n % 2 ^ 32))
      else none := by
  show (match readBe32 (be32 n ++ rest) with
    | some (n, rest) =>
      if n ≤ rest.length then (rest.take n :: ·) <$> splitFrames count (rest.drop n) else none
    | none => none) = _
  rw [readBe32_be32]

theorem splitFrames_flatten (ps : List (List UInt8)) (h : ∀ p ∈ ps, p.length < 2 ^ 32) :
    splitFrames ps.length (ps.map fun p => be32 p.length ++ p).flatten = some ps := by
  induction ps with
  | nil => rfl
  | cons p ps ih =>
    have hp : p.length % 2 ^ 32 = p.length := Nat.mod_eq_of_lt (h p (List.mem_cons_self p ps))
    have hps := ih fun q hq => h q (List.mem_cons_of_mem p hq)
    simp only [List.map_cons, List.flatten_cons, List.length_cons, List.append_assoc,
      splitFrames_be32, hp]
    simp [hps]

theorem encodeAll_eq_ok (fs : List (KafkaFrame S)) (B out : List UInt8)
    (h : encodeAll L fs B = (out, .ok ())) :
    out = B ++ (fs.map fun f => be32 (writeMessage L f).1.length ++ (writeMessage L f).1).flatten := by
  induction fs generalizing B with
  | nil => simpa [encodeAll] using h.symm
  | cons f fs ih =>
    simp only [encodeAll] at h
    rcases hf : f.encode L B with ⟨B', _ | ⟨⟩⟩ <;> rw [hf] at h
    · cases h
    · obtain ⟨-, rfl⟩ := encode_eq_ok hf
      simp [ih _ h]

/-- Frames encoded in turn into a buffer keep what it held and split back, by their length words,
into their serializations in order, when each takes at most `i32::MAX` bytes. -/
theorem encodeAll_splits (fs : List (KafkaFrame S)) (B out : List UInt8)
    (h : encodeAll L fs B = (out, .ok ()))
    (hsmall : ∀ f ∈ fs, (writeMessage L f).1.length < 2 ^ 31) :
    out.take B.length = B ∧
      splitFrames fs.length (out.drop B.length) = some (fs.map fun f => (writeMessage L f).1) := by
  rw [encodeAll_eq_ok L fs B out h]
  have := splitFrames_flatten (fs.map fun f => (writeMessage L f).1) (by
    simp only [List.mem_map, forall_exists_index, and_imp]
    rintro _ f hf rfl
    exact Nat.lt_trans (hsmall f hf) (by decide))
  simp only [List.map_map, List.length_map] at this
  simpa using this

def requestAndAnswer : List (KafkaFrame byteSchema) :=
  [.Request ((0 : UInt8), (2 : UInt8)) (.Produce (42 : UInt8)),
    .Response 4 (5 : UInt8) (.Unknown ⟨3, rfl⟩ [1, 2, 3])]

theorem encodeAll_request_and_answer :
    encodeAll byteLibrary requestAndAnswer [9] =
      ([9, 0, 0, 0, 3, 0, 2, 42, 0, 0, 0, 4, 5, 1, 2, 3], .ok ()) ∧
    (∀ f ∈ requestAndAnswer, (writeMessage byteLibrary f).1.length < 2 ^ 31) ∧
    (([9, 0, 0, 0, 3, 0, 2, 42, 0, 0, 0, 4, 5, 1, 2, 3] : List UInt8).take [9].length = [9] ∧
      splitFrames requestAndAnswer.length
          (([9, 0, 0, 0, 3, 0, 2, 42, 0, 0, 0, 4, 5, 1, 2, 3] : List UInt8).drop [9].length) =
        some (requestAndAnswer.map fun f => (writeMessage byteLibrary f).1)) :=
  ⟨rfl, by decide, encodeAll_splits byteLibrary requestAndAnswer [9] _ rfl (by decide)⟩

end stream

end shotover.frame.kafka
