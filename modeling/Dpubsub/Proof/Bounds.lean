import Dpubsub.Proof.Layout

/-!
# Where the serializers write
-/

namespace Dpubsub.Proof
open Dpubsub.Lib Dpubsub.Model Dpubsub.Spec

structure StaysInside (result : Int × Option Buffer) (bufferSize : Nat) : Prop where
  written_lt : ∀ buffer, result.2 = some buffer → ∀ i ∈ buffer.written, i < bufferSize
  result_le : 0 ≤ result.1 → result.1 ≤ bufferSize

theorem staysInside_refused {result : Int} (refused : result < 0) (bytes : Nat → UInt8)
    (bufferSize : Nat) : StaysInside (result, some (Buffer.fresh bytes)) bufferSize := by
  refine ⟨?_, fun ok => absurd refused (Int.not_lt.mpr ok)⟩
  rintro _ ⟨⟩ i member
  cases member

theorem staysInside_packet {bytes : Nat → UInt8} {p : List UInt8} {bufferSize : Nat}
    (positive : 0 < p.length) :
    StaysInside (intOfSize p.length, some ((Cursor.start (Buffer.fresh bytes)).append p).buffer)
      bufferSize ↔ p.length ≤ bufferSize := by
  constructor
  · intro inside
    have last := inside.written_lt _ rfl (p.length - 1)
      ((Cursor.mem_append_written _ _ _).mpr (Or.inr (by omega)))
    omega
  · intro le
    have atMost := intOfSize_le p.length
    refine ⟨?_, fun _ => by simp only; omega⟩
    rintro _ ⟨⟩ i member
    rcases (Cursor.mem_append_written _ _ _).mp member with old | new
    · cases old
    · omega

/-- The check of `serialize_publish` counts one byte for the fixed header, and so lets through
every packet that lacks room for its length field only. -/
theorem serializePublish_staysInside_iff (packetType : PacketTypeCode) (bytes : Nat → UInt8)
    (bufferSize : Nat) (size : bufferSize < 2 ^ 64) (topic message : CString) (messageId : UInt16)
    (qos retain dup : UInt8)
    (total : (packet (publishHeader packetType qos retain dup)
      (publishBody topic message messageId qos)).length < 2 ^ 31) :
    StaysInside (serializePublish packetType (some (Buffer.fresh bytes)) bufferSize (some topic)
        (some message) messageId qos retain dup) bufferSize ↔
      bufferSize < 1 + (publishBody topic message messageId qos).length ∨
        1 + (Varint.encode (publishBody topic message messageId qos).length).length +
          (publishBody topic message messageId qos).length ≤ bufferSize := by
  have bound : (publishBody topic message messageId qos).length < 2 ^ 32 := by
    rw [packet_length] at total
    omega
  by_cases small : bufferSize < 1 + (publishBody topic message messageId qos).length
  · rw [serializePublish_refuses _ _ _ _ _ _ _ _ _ (by omega) small]
    exact iff_of_true (staysInside_refused (by decide) bytes bufferSize) (Or.inl small)
  · rw [serializePublish_writes _ _ _ _ _ _ _ _ _ (by omega) size,
      staysInside_packet (by rw [packet_length]; omega), packet_length]
    exact ⟨Or.inr, fun h => h.resolve_left small⟩

theorem serializePublish_overruns :
    ¬StaysInside (serializePublish .publish (some (Buffer.fresh fun _ => 0)) 8
      (some ⟨[0x61, 0x2F, 0x62], by decide⟩) (some ⟨[0x68, 0x69], by decide⟩) 1 0 0 0) 8 := by
  intro inside
  have le := inside.result_le
  rw [serializePublish_writes _ _ _ _ _ _ _ _ _ (by decide) (by decide)] at le
  simp [packet, publishBody, field, Varint.encode_of_lt, intOfSize, intOf] at le

theorem serializePublish_staysInside_nine :
    StaysInside (serializePublish .publish (some (Buffer.fresh fun _ => 0)) 9
      (some ⟨[0x61, 0x2F, 0x62], by decide⟩) (some ⟨[0x68, 0x69], by decide⟩) 1 0 0 0) 9 := by
  have length : (Varint.encode 7).length = 1 := by rw [Varint.encode_of_lt (by omega)]; rfl
  refine (serializePublish_staysInside_iff .publish (fun _ => 0) 9 (by decide)
    ⟨[0x61, 0x2F, 0x62], by decide⟩ ⟨[0x68, 0x69], by decide⟩ 1 0 0 0 ?_).mpr (Or.inr ?_)
  · rw [packet_length]
    change 1 + (Varint.encode 7).length + 7 < 2 ^ 31
    rw [length]
    decide
  · change 1 + (Varint.encode 7).length + 7 ≤ 9
    rw [length]

theorem serializeTopicRequest_staysInside_iff (packetType : PacketTypeCode) (bytes : Nat → UInt8)
    (bufferSize : Nat) (topic : CString) (messageId : UInt16) (options : List UInt8)
    (bound : 5 + strlen topic + options.length < 2 ^ 64) :
    StaysInside (serializeTopicRequest packetType (some (Buffer.fresh bytes)) bufferSize (some topic)
        messageId options) bufferSize ↔ bufferSize ≠ 5 + strlen topic + options.length := by
  by_cases small : bufferSize < 5 + strlen topic + options.length
  · rw [serializeTopicRequest_refuses _ _ _ _ _ _ bound small]
    exact iff_of_true (staysInside_refused (by decide) bytes bufferSize) small.ne
  · have length := topicRequest_length packetType topic messageId options
    rw [serializeTopicRequest_writes _ _ _ _ _ _ bound (Nat.not_lt.mp small), ← length,
      staysInside_packet (by omega), length]
    omega

theorem requests_stayInside_iff (packetType : PacketTypeCode) (bytes : Nat → UInt8)
    (bufferSize : Nat) (topic : CString) (bound : 6 + strlen topic < 2 ^ 64) (messageId : UInt16)
    (qos : UInt8) :
    (StaysInside (serializeSubscribe packetType (some (Buffer.fresh bytes)) bufferSize (some topic)
        messageId qos) bufferSize ↔ bufferSize ≠ 6 + strlen topic) ∧
    (StaysInside (serializeUnsubscribe packetType (some (Buffer.fresh bytes)) bufferSize
        (some topic) messageId) bufferSize ↔ bufferSize ≠ 5 + strlen topic) := by
  have total : 5 + strlen topic + [qos].length = 6 + strlen topic := by
    rw [List.length_singleton]
    omega
  constructor
  · rw [serializeSubscribe, serializeTopicRequest_staysInside_iff _ _ _ _ _ _ (by omega), total]
  · rw [serializeUnsubscribe, serializeTopicRequest_staysInside_iff _ _ _ _ _ _ (by simp; omega)]
    rfl

theorem serializeSubscribe_overruns :
    ¬StaysInside (serializeSubscribe .subscribe (some (Buffer.fresh fun _ => 0)) 9
      (some ⟨[0x61, 0x2F, 0x62], by decide⟩) 1 0) 9 :=
  (serializeTopicRequest_staysInside_iff .subscribe (fun _ => 0) 9 ⟨[0x61, 0x2F, 0x62], by decide⟩ 1
    [0] (by decide)).not.mpr (by decide)

theorem requests_stayInside_ten :
    StaysInside (serializeSubscribe .subscribe (some (Buffer.fresh fun _ => 0)) 10
      (some ⟨[0x61, 0x2F, 0x62], by decide⟩) 1 0) 10 :=
  (requests_stayInside_iff .subscribe (fun _ => 0) 10 ⟨[0x61, 0x2F, 0x62], by decide⟩ (by decide) 1
    0).1.mpr (by decide)

end Dpubsub.Proof
