-- The sink `KafkaDestination` (`kafka_destination.rs`): a query that has a namespaced primary
-- key and values goes to the topic `test_topic` as one record, the JSON of its values under
-- that key, and is answered with the empty response; any other message is answered with a
-- `RequestError`, and nothing is sent.
import Mathlib.Logic.Basic

namespace shotover.transforms.kafka_destination

/-! ## The sink -/

structure FutureRecord where
  topic : String
  payload : String
  key : String

/-- The sink, with the records that its producer has enqueued, oldest first. `producer.send`
enqueues the record when it is called; the future of its delivery is dropped unawaited. -/
structure KafkaDestination where
  sent : List FutureRecord

structure RequestError where

section transform

variable {Message QueryMessage Values Response : Type}
  (query : Message → Option QueryMessage)
  (get_namespaced_primary_key : QueryMessage → Option String)
  (query_values : QueryMessage → Option Values)
  (to_string : Values → Except Unit String) (empty : Response)

/-- `Transform::transform` of the sink. The message API (`crate::message`) and
`serde_json::to_string`, not among the sources, are parameters. -/
def KafkaDestination.transform (self : KafkaDestination) (message : Message) :
    Except RequestError Response × KafkaDestination :=
  match query message with
  | some qm =>
    match get_namespaced_primary_key qm with
    | some key =>
      match query_values qm with
      | some values =>
        match to_string values with
        | .ok payload => (.ok empty, { sent := self.sent ++ [⟨"test_topic", payload, key⟩] })
        | .error _ => (.error ⟨⟩, self)
      | none => (.error ⟨⟩, self)
    | none => (.error ⟨⟩, self)
  | none => (.error ⟨⟩, self)

variable {query get_namespaced_primary_key query_values to_string empty}

/-- A refused message leaves the sink as it was; an answered one is answered with the empty
response and enqueues exactly one record, to `test_topic`. -/
theorem transform_sent (self : KafkaDestination) (message : Message) :
    let r := self.transform query get_namespaced_primary_key query_values to_string empty message
    (∀ e, r.1 = .error e → r.2 = self) ∧
      ∀ response, r.1 = .ok response →
        response = empty ∧ ∃ payload key, r.2.sent = self.sent ++ [⟨"test_topic", payload, key⟩] := by
  unfold KafkaDestination.transform
  repeat' split
  · exact ⟨by simp, fun _ h => ⟨(Except.ok.inj h).symm, _, _, rfl⟩⟩
  -- every other branch refuses the message
  all_goals exact ⟨fun _ _ => rfl, by simp⟩

end transform

end shotover.transforms.kafka_destination
