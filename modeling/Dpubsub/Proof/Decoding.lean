import Dpubsub.Proof.Layout
import Dpubsub.Spec.ControlPacket

/-!
# What a peer decodes from the packets of the serializers
-/

namespace Dpubsub.Proof
open Dpubsub.Lib Dpubsub.Model Dpubsub.Spec

/-- The QoS bits are not shifted to their place. QoS 1 sets the retain bit, and the message id
becomes the start of the payload; QoS 2 is seen as QoS 1. -/
def sentPublish (topic message : CString) (messageId : UInt16) (qos : QoS) (retain dup : Bool) :
    Publish :=
  match qos with
  | .atMostOnce => ⟨dup, .atMostOnce, retain, topic.bytes, 0, message.bytes⟩
  | .atLeastOnce =>
      ⟨dup, .atMostOnce, true, topic.bytes, 0, short messageId.toNat ++ message.bytes⟩
  | .exactlyOnce => ⟨dup, .atLeastOnce, retain, topic.bytes, messageId, message.bytes⟩

section Publish
variable (topic message : CString) (messageId : UInt16) (qos : QoS) (retain dup : Bool)

theorem sentPublish_first : publishHeader .publish qos.byte retain.toUInt8 dup.toUInt8 =
    (sentPublish topic message messageId qos retain dup).first := by
  cases qos <;> cases retain <;> cases dup <;> rfl

theorem sentPublish_body : publishBody topic message messageId qos.byte =
    (sentPublish topic message messageId qos retain dup).body := by
  cases qos with
  | atMostOnce => rfl
  | atLeastOnce =>
      change field topic.bytes ++ short messageId.toNat ++ message.bytes =
        field topic.bytes ++ [] ++ (short messageId.toNat ++ message.bytes)
      rw [List.append_nil, List.append_assoc]
  | exactlyOnce => rfl

theorem sentPublish_wellFormed (topicBound : strlen topic ≤ 65535) :
    (sentPublish topic message messageId qos retain dup).WellFormed := by
  have length : topic.bytes.length < 2 ^ 16 := Nat.lt_succ_of_le topicBound
  cases qos with
  | atMostOnce => exact ⟨length, fun _ => rfl⟩
  | atLeastOnce => exact ⟨length, fun _ => rfl⟩
  | exactlyOnce => exact ⟨length, nofun⟩

theorem sentPublish_encode : packet (publishHeader .publish qos.byte retain.toUInt8 dup.toUInt8)
    (publishBody topic message messageId qos.byte) =
    (sentPublish topic message messageId qos retain dup).encode := by
  rw [Publish.encode, ← sentPublish_first, ← sentPublish_body]

theorem sentPublish_body_length : (sentPublish topic message messageId qos retain dup).body.length =
    2 + strlen topic + strlen message + if qos = .atMostOnce then 0 else 2 := by
  rw [← sentPublish_body, publishBody_length]
  cases qos <;> rfl

variable {topic message messageId qos retain dup}

theorem serializePublish_sends
    (bound : (sentPublish topic message messageId qos retain dup).body.length ≤ 268435455)
    (bytes : Nat → UInt8) {bufferSize : Nat} (size : bufferSize < 2 ^ 64)
    (room : (sentPublish topic message messageId qos retain dup).encode.length ≤ bufferSize) :
    serializePublish .publish (some (Buffer.fresh bytes)) bufferSize (some topic) (some message)
      messageId qos.byte retain.toUInt8 dup.toUInt8 =
      (((sentPublish topic message messageId qos retain dup).encode.length : Int),
        some ((Cursor.start (Buffer.fresh bytes)).append
          (sentPublish topic message messageId qos retain dup).encode).buffer) := by
  have total := packet_length (sentPublish topic message messageId qos retain dup).first
    (sentPublish topic message messageId qos retain dup).body
  have digits := Varint.encode_length_le (k := 3)
    (n := (sentPublish topic message messageId qos retain dup).body.length) (by omega)
  rw [← Publish.encode] at total
  rw [← sentPublish_body topic message messageId qos retain dup] at bound total digits
  rw [serializePublish_writes _ _ _ _ _ _ _ _ _ (by omega) size, sentPublish_encode,
    intOfSize_of_lt (by omega)]

theorem sentPublish_decodes (topicBound : strlen topic ≤ 65535)
    (bound : (sentPublish topic message messageId qos retain dup).body.length ≤ 268435455) :
    decodePacket (sentPublish topic message messageId qos retain dup).encode =
      some (.publish (sentPublish topic message messageId qos retain dup), []) := by
  have decoded := decodePacket_encode
    (p := .publish (sentPublish topic message messageId qos retain dup))
    (sentPublish_wellFormed topic message messageId qos retain dup topicBound)
    (Nat.lt_of_le_of_lt bound (by decide)) []
  rwa [List.append_nil] at decoded

end Publish

theorem serializePublish_roundTrips (topic message : CString) (topicBound : strlen topic ≤ 65535)
    (bound : 2 + strlen topic + strlen message ≤ 268435455) (messageId : UInt16)
    (retain dup : Bool) (bytes : Nat → UInt8) (bufferSize : Nat) (size : bufferSize < 2 ^ 64)
    (room : 1 + (Varint.encode (2 + strlen topic + strlen message)).length +
      (2 + strlen topic + strlen message) ≤ bufferSize) :
    ∃ buffer, serializePublish .publish (some (Buffer.fresh bytes)) bufferSize (some topic)
        (some message) messageId 0 retain.toUInt8 dup.toUInt8 =
        (((1 + (Varint.encode (2 + strlen topic + strlen message)).length +
          (2 + strlen topic + strlen message) : Nat) : Int), some buffer) ∧
      decodePacket (buffer.slice (1 + (Varint.encode (2 + strlen topic + strlen message)).length +
          (2 + strlen topic + strlen message))) =
        some (.publish ⟨dup, .atMostOnce, retain, topic.bytes, 0, message.bytes⟩, []) := by
  have body := sentPublish_body_length topic message messageId .atMostOnce retain dup
  rw [if_pos rfl, Nat.add_zero] at body
  have total : (sentPublish topic message messageId .atMostOnce retain dup).encode.length = _ :=
    packet_length _ _
  rw [body] at total
  have sends := serializePublish_sends (body.le.trans bound) bytes size
    (total.le.trans room)
  rw [total] at sends
  refine ⟨_, sends, ?_⟩
  rw [← total, Cursor.append_slice]
  exact sentPublish_decodes topicBound (body.le.trans bound)

theorem serializePublish_roundTrips_two : ∃ buffer,
    serializePublish .publish (some (Buffer.fresh fun _ => 0)) 256 (some (CString.letters 1))
        (some (CString.letters 200)) 7 0 1 0 = (206, some buffer) ∧
      decodePacket (buffer.slice 206) =
        some (.publish ⟨false, .atMostOnce, true, [0x61], 0, List.replicate 200 0x61⟩, []) := by
  have digits : (Varint.encode (2 + strlen (CString.letters 1) +
      strlen (CString.letters 200))).length = 2 :=
    Varint.encode_length_eq_two (by simp) (by simp)
  have trip := serializePublish_roundTrips (CString.letters 1) (CString.letters 200) (by simp)
    (by simp) 7 true false (fun _ => 0) 256 (by decide) (by rw [digits]; simp)
  rw [digits] at trip
  simp only [CString.strlen_letters] at trip
  exact trip

def PublishRoundTrips (topic message : CString) (messageId : UInt16) (qos : QoS)
    (retain dup : Bool) (bytes : Nat → UInt8) (bufferSize : Nat) : Prop :=
  ∀ n buffer, serializePublish .publish (some (Buffer.fresh bytes)) bufferSize (some topic)
      (some message) messageId qos.byte retain.toUInt8 dup.toUInt8 = (n, some buffer) →
    ∃ rest, decodePacket (buffer.slice n.toNat) =
      some (.publish ⟨dup, qos, retain, topic.bytes, messageId, message.bytes⟩, rest)

theorem sentPublish_qos {topic message : CString} {messageId : UInt16} {qos : QoS}
    {retain dup : Bool} (acknowledged : qos ≠ .atMostOnce) :
    (sentPublish topic message messageId qos retain dup).qos ≠ qos := by
  cases qos with
  | atMostOnce => exact absurd rfl acknowledged
  | atLeastOnce => exact nofun
  | exactlyOnce => exact nofun

theorem publish_qos_lost {topic message : CString} {messageId : UInt16} {qos : QoS}
    {retain dup : Bool} (acknowledged : qos ≠ .atMostOnce) (topicBound : strlen topic ≤ 65535)
    (bound : (sentPublish topic message messageId qos retain dup).body.length ≤ 268435455)
    {bytes : Nat → UInt8} {bufferSize : Nat} (size : bufferSize < 2 ^ 64)
    (room : (sentPublish topic message messageId qos retain dup).encode.length ≤ bufferSize) :
    ¬PublishRoundTrips topic message messageId qos retain dup bytes bufferSize := by
  intro trips
  obtain ⟨rest, decoded⟩ := trips _ _ (serializePublish_sends bound bytes size room)
  rw [Int.toNat_natCast, Cursor.append_slice, sentPublish_decodes topicBound bound] at decoded
  rw [Option.some.injEq, Prod.mk.injEq, ControlPacket.publish.injEq] at decoded
  exact sentPublish_qos acknowledged (congrArg Publish.qos decoded.1)

theorem serializePublish_never_roundTrips (topic message : CString)
    (topicBound : strlen topic ≤ 65535) (messageId : UInt16) (qos : QoS)
    (acknowledged : qos ≠ .atMostOnce) (retain dup : Bool)
    (bound : 2 + strlen topic + strlen message + 2 ≤ 268435455) (bytes : Nat → UInt8)
    (bufferSize : Nat) (size : bufferSize < 2 ^ 64)
    (room : 1 + (Varint.encode (2 + strlen topic + strlen message + 2)).length +
      (2 + strlen topic + strlen message + 2) ≤ bufferSize) :
    ¬PublishRoundTrips topic message messageId qos retain dup bytes bufferSize := by
  have body := sentPublish_body_length topic message messageId qos retain dup
  rw [if_neg acknowledged] at body
  have total : (sentPublish topic message messageId qos retain dup).encode.length = _ :=
    packet_length _ _
  rw [body] at total
  exact publish_qos_lost acknowledged topicBound (body.le.trans bound) size (total.le.trans room)

theorem publish_once_lost : ¬PublishRoundTrips (CString.letters 1) (CString.letters 2) 7 .atLeastOnce
    false false (fun _ => 0) 256 := by
  have body := sentPublish_body_length (CString.letters 1) (CString.letters 2) 7 .atLeastOnce
    false false
  have total : (sentPublish (CString.letters 1) (CString.letters 2) 7 .atLeastOnce
      false false).encode.length = _ := packet_length _ _
  have seven : (sentPublish (CString.letters 1) (CString.letters 2) 7 .atLeastOnce
      false false).body.length = 7 := body
  rw [seven, Varint.encode_of_lt (by decide)] at total
  refine publish_qos_lost (by decide) (by simp) (by rw [seven]; decide) (by decide) ?_
  rw [total]
  decide

theorem publish_twice_lost : ¬PublishRoundTrips (CString.letters 1) (CString.letters 2) 7
    .exactlyOnce false false (fun _ => 0) 256 := by
  refine serializePublish_never_roundTrips (CString.letters 1) (CString.letters 2) (by simp) 7
    .exactlyOnce nofun false false (by simp) (fun _ => 0) 256 (by decide) ?_
  simp only [CString.strlen_letters]
  rw [Varint.encode_of_lt (by decide)]
  decide

def shortPacket (first : UInt8) (body : List UInt8) : List UInt8 :=
  first :: UInt8.ofNat body.length :: body

theorem shortPacket_length (first : UInt8) (body : List UInt8) :
    (shortPacket first body).length = 2 + body.length := by
  rw [shortPacket, List.length_cons, List.length_cons]
  omega

/-- The bytes of which the result is the number are one packet `p`, with nothing left over. -/
def RoundTrips (result : Int × Option Buffer) (p : ControlPacket) : Prop :=
  ∀ buffer, result.2 = some buffer → decodePacket (buffer.slice result.1.toNat) = some (p, [])

theorem shortPacket_decodes {p : ControlPacket} (ok : p.WellFormed) (small : p.body.length < 128) :
    decodePacket (shortPacket p.first p.body) = some (p, []) := by
  have decoded := decodePacket_encode ok (lt_trans small (by decide)) []
  rwa [List.append_nil, ControlPacket.encode, packet_of_short small] at decoded

theorem roundTrips_short_iff {p : ControlPacket} (ok : p.body.length < 128 → p.WellFormed)
    (bytes : Nat → UInt8) :
    (intOfSize (2 + p.body.length) < 0 ∨
      RoundTrips (intOfSize (2 + p.body.length), some ((Cursor.start (Buffer.fresh bytes)).append
        (shortPacket p.first p.body)).buffer) p) ↔
      p.body.length < 128 ∨ 2 ^ 31 ≤ (2 + p.body.length) % 2 ^ 32 := by
  have length := shortPacket_length p.first p.body
  by_cases wraps : 2 ^ 31 ≤ (2 + p.body.length) % 2 ^ 32
  · refine iff_of_true (Or.inl ?_) (Or.inr wraps)
    exact (intOfSize_neg_iff _).mpr wraps
  rw [intOfSize_neg_iff, or_iff_right wraps, or_iff_left wraps]
  have result : (intOfSize (2 + p.body.length)).toNat = (2 + p.body.length) % 2 ^ 32 := by
    rw [intOfSize_of_mod_lt (by omega), Int.toNat_natCast]
  generalize intOfSize (2 + p.body.length) = n at result ⊢
  constructor
  · intro trips
    have decoded := trips _ rfl
    rw [result] at decoded
    obtain ⟨atLeast, small⟩ := decodePacket_length decoded
    rw [Buffer.slice_length] at atLeast small
    exact small (Nat.mod_le _ _)
  · rintro small _ ⟨⟩
    rw [result, Nat.mod_eq_of_lt (by omega), ← length, Cursor.append_slice]
    exact shortPacket_decodes (ok small) small

section Requests
variable (topic : CString) (messageId : UInt16) (qos : QoS)

def subscribeRequest : ControlPacket := .subscribe messageId [(topic.bytes, qos)]

def unsubscribeRequest : ControlPacket := .unsubscribe messageId [topic.bytes]

theorem subscribeRequest_length :
    (subscribeRequest topic messageId qos).body.length = 5 + strlen topic := by
  simp only [subscribeRequest, ControlPacket.body, subscription, List.flatMap_singleton,
    List.length_append, short_length, field_length, List.length_singleton, strlen]
  omega

theorem unsubscribeRequest_length :
    (unsubscribeRequest topic messageId).body.length = 4 + strlen topic := by
  simp only [unsubscribeRequest, ControlPacket.body, List.flatMap_singleton, List.length_append,
    short_length, field_length, strlen]
  omega

theorem topicRequest_subscribe : topicRequest .subscribe topic messageId [qos.byte] =
    shortPacket (subscribeRequest topic messageId qos).first
      (subscribeRequest topic messageId qos).body := by
  have length : 4 + strlen topic + [qos.byte].length = 5 + strlen topic := by
    rw [List.length_singleton]
    omega
  rw [topicRequest, shortPacket, length, subscribeRequest_length]
  simp [subscribeRequest, ControlPacket.first, ControlPacket.body, subscription, toChar,
    PacketTypeCode.code]

theorem topicRequest_unsubscribe : topicRequest .unsubscribe topic messageId [] =
    shortPacket (unsubscribeRequest topic messageId).first
      (unsubscribeRequest topic messageId).body := by
  rw [topicRequest, shortPacket, unsubscribeRequest_length]
  simp [unsubscribeRequest, ControlPacket.first, ControlPacket.body, toChar, PacketTypeCode.code]

theorem topic_short {n : Nat} (small : n + strlen topic < 128) : topic.bytes.length < 2 ^ 16 := by
  unfold strlen at small
  omega

end Requests

section
variable (topic : CString) (messageId : UInt16) (bytes : Nat → UInt8) {bufferSize : Nat}

theorem topicRequest_roundTrips_iff {packetType : PacketTypeCode} {options : List UInt8}
    {p : ControlPacket} (same : topicRequest packetType topic messageId options =
      shortPacket p.first p.body) (ok : p.body.length < 128 → p.WellFormed)
    (size : bufferSize < 2 ^ 64) (room : 6 + strlen topic + options.length ≤ bufferSize) :
    (serializeTopicRequest packetType (some (Buffer.fresh bytes)) bufferSize (some topic) messageId
        options).1 < 0 ∨
      RoundTrips (serializeTopicRequest packetType (some (Buffer.fresh bytes)) bufferSize
        (some topic) messageId options) p ↔
      p.body.length ≤ 127 ∨ 2 ^ 31 ≤ (2 + p.body.length) % 2 ^ 32 := by
  have total : 6 + strlen topic + options.length = 2 + p.body.length := by
    rw [← topicRequest_length packetType topic messageId options, same, shortPacket_length]
  rw [serializeTopicRequest_writes _ _ _ _ _ _ (by omega) (by omega), total, same,
    roundTrips_short_iff ok bytes, Nat.lt_succ_iff]

theorem subscribe_roundTrips_iff (qos : QoS) (size : bufferSize < 2 ^ 64)
    (room : 7 + strlen topic ≤ bufferSize) :
    (serializeSubscribe .subscribe (some (Buffer.fresh bytes)) bufferSize (some topic) messageId
        qos.byte).1 < 0 ∨
      RoundTrips (serializeSubscribe .subscribe (some (Buffer.fresh bytes)) bufferSize
        (some topic) messageId qos.byte) (subscribeRequest topic messageId qos) ↔
      5 + strlen topic ≤ 127 ∨ 2 ^ 31 ≤ (7 + strlen topic) % 2 ^ 32 := by
  have length := subscribeRequest_length topic messageId qos
  have ok : (subscribeRequest topic messageId qos).body.length < 128 →
      (subscribeRequest topic messageId qos).WellFormed := by
    rw [length]
    intro small
    exact ⟨List.cons_ne_nil _ _, by simpa using topic_short topic small⟩
  have whole : 6 + strlen topic + [qos.byte].length ≤ bufferSize := by
    rw [List.length_singleton]
    omega
  rw [serializeSubscribe, topicRequest_roundTrips_iff topic messageId bytes
    (topicRequest_subscribe topic messageId qos) ok size whole, length, ← Nat.add_assoc]

theorem unsubscribe_roundTrips_iff (size : bufferSize < 2 ^ 64)
    (room : 6 + strlen topic ≤ bufferSize) :
    (serializeUnsubscribe .unsubscribe (some (Buffer.fresh bytes)) bufferSize (some topic)
        messageId).1 < 0 ∨
      RoundTrips (serializeUnsubscribe .unsubscribe (some (Buffer.fresh bytes)) bufferSize
        (some topic) messageId) (unsubscribeRequest topic messageId) ↔
      4 + strlen topic ≤ 127 ∨ 2 ^ 31 ≤ (6 + strlen topic) % 2 ^ 32 := by
  have length := unsubscribeRequest_length topic messageId
  have ok : (unsubscribeRequest topic messageId).body.length < 128 →
      (unsubscribeRequest topic messageId).WellFormed := by
    rw [length]
    intro small
    exact ⟨List.cons_ne_nil _ _, by simpa using topic_short topic small⟩
  rw [serializeUnsubscribe, topicRequest_roundTrips_iff topic messageId bytes
    (topicRequest_unsubscribe topic messageId) ok size room, length, ← Nat.add_assoc]

end

/-- The remaining length of both requests is one byte, whatever the topic. From 2^31 bytes on the
result may be negative although the packet has been written. -/
theorem requests_roundTrip_iff (topic : CString) (messageId : UInt16) (qos : QoS)
    (bytes : Nat → UInt8) (bufferSize : Nat) (size : bufferSize < 2 ^ 64) :
    (7 + strlen topic ≤ bufferSize →
      ((serializeSubscribe .subscribe (some (Buffer.fresh bytes)) bufferSize (some topic) messageId
          qos.byte).1 < 0 ∨
        RoundTrips (serializeSubscribe .subscribe (some (Buffer.fresh bytes)) bufferSize
          (some topic) messageId qos.byte) (.subscribe messageId [(topic.bytes, qos)]) ↔
        5 + strlen topic ≤ 127 ∨ 2 ^ 31 ≤ (7 + strlen topic) % 2 ^ 32)) ∧
    (6 + strlen topic ≤ bufferSize →
      ((serializeUnsubscribe .unsubscribe (some (Buffer.fresh bytes)) bufferSize (some topic)
          messageId).1 < 0 ∨
        RoundTrips (serializeUnsubscribe .unsubscribe (some (Buffer.fresh bytes)) bufferSize
          (some topic) messageId) (.unsubscribe messageId [topic.bytes]) ↔
        4 + strlen topic ≤ 127 ∨ 2 ^ 31 ≤ (6 + strlen topic) % 2 ^ 32)) :=
  ⟨subscribe_roundTrips_iff topic messageId bytes qos size,
    unsubscribe_roundTrips_iff topic messageId bytes size⟩

theorem subscribe_123_lost :
    ¬((serializeSubscribe .subscribe (some (Buffer.fresh fun _ => 0)) 256
        (some (CString.letters 123)) 1 QoS.atMostOnce.byte).1 < 0 ∨
      RoundTrips (serializeSubscribe .subscribe (some (Buffer.fresh fun _ => 0)) 256
        (some (CString.letters 123)) 1 QoS.atMostOnce.byte)
        (.subscribe 1 [(List.replicate 123 0x61, .atMostOnce)])) :=
  (subscribe_roundTrips_iff (CString.letters 123) 1 (fun _ => 0) .atMostOnce (by decide)
    (by simp)).not.mpr (by simp)

theorem requests_roundTrip_122 :
    ((serializeSubscribe .subscribe (some (Buffer.fresh fun _ => 0)) 256
        (some (CString.letters 122)) 1 QoS.atMostOnce.byte).1 < 0 ∨
      RoundTrips (serializeSubscribe .subscribe (some (Buffer.fresh fun _ => 0)) 256
        (some (CString.letters 122)) 1 QoS.atMostOnce.byte)
        (.subscribe 1 [(List.replicate 122 0x61, .atMostOnce)])) ∧
    ((serializeUnsubscribe .unsubscribe (some (Buffer.fresh fun _ => 0)) 256
        (some (CString.letters 122)) 1).1 < 0 ∨
      RoundTrips (serializeUnsubscribe .unsubscribe (some (Buffer.fresh fun _ => 0)) 256
        (some (CString.letters 122)) 1) (.unsubscribe 1 [List.replicate 122 0x61])) := by
  obtain ⟨subscribe, unsubscribe⟩ := requests_roundTrip_iff (CString.letters 122) 1 .atMostOnce
    (fun _ => 0) 256 (by decide)
  exact ⟨(subscribe (by simp)).mpr (Or.inl (by simp)), (unsubscribe (by simp)).mpr (Or.inl (by simp))⟩

section Connect
variable (clientId : CString) (keepAlive : UInt16)

def connectRequest : ControlPacket :=
  .connect ⟨[0x4D, 0x51, 0x54, 0x54], 4, 0, keepAlive, clientId.bytes, []⟩

theorem connectRequest_length :
    (connectRequest clientId keepAlive).body.length = 12 + strlen clientId := by
  simp only [connectRequest, ControlPacket.body, Connect.body, List.flatMap_nil, List.length_append,
    field_length, short_length, List.length_cons, List.length_nil, strlen]
  omega

theorem connectPacket_eq : connectPacket clientId keepAlive =
    shortPacket (connectRequest clientId keepAlive).first
      (connectRequest clientId keepAlive).body := by
  rw [shortPacket, connectRequest_length]
  simp [connectPacket, connectRequest, connectHeader, ControlPacket.first, ControlPacket.body,
    Connect.body]

end Connect

def ConnectRoundTrips (clientId : CString) (keepAlive : UInt16) (bytes : Nat → UInt8)
    (bufferSize : Nat) : Prop :=
  (serializeConnect .connect (some (Buffer.fresh bytes)) bufferSize (some clientId) keepAlive
      0x04).1 < 0 ∨
    (∀ buffer, (serializeConnect .connect (some (Buffer.fresh bytes)) bufferSize (some clientId)
      keepAlive 0x04).2 = some buffer → ∀ i ∈ buffer.written, i < bufferSize) ∧
    RoundTrips (serializeConnect .connect (some (Buffer.fresh bytes)) bufferSize (some clientId)
      keepAlive 0x04) (.connect ⟨[0x4D, 0x51, 0x54, 0x54], 4, 0, keepAlive, clientId.bytes, []⟩)

theorem connect_roundTrips_iff (clientId : CString) (keepAlive : UInt16) (bytes : Nat → UInt8)
    {bufferSize : Nat} (bound : 14 + strlen clientId < 2 ^ 64)
    (room : 14 + strlen clientId ≤ bufferSize) :
    ConnectRoundTrips clientId keepAlive bytes bufferSize ↔
      12 + strlen clientId ≤ 127 ∨ 2 ^ 31 ≤ (14 + strlen clientId) % 2 ^ 32 := by
  have length := connectRequest_length clientId keepAlive
  have total : 14 + strlen clientId = 2 + (connectRequest clientId keepAlive).body.length := by
    rw [length]
    omega
  have ok : (connectRequest clientId keepAlive).body.length < 128 →
      (connectRequest clientId keepAlive).WellFormed := by
    rw [length]
    intro small
    exact ⟨(by decide : 4 < 2 ^ 16), (by decide : validFlags 0 = true),
      topic_short clientId small, (by decide : 0 = otherFields 0), by simp⟩
  have inside : ∀ buffer, some ((Cursor.start (Buffer.fresh bytes)).append
      (shortPacket (connectRequest clientId keepAlive).first
        (connectRequest clientId keepAlive).body)).buffer = some buffer →
      ∀ i ∈ buffer.written, i < bufferSize := by
    rintro _ ⟨⟩ i member
    rw [Cursor.mem_append_written, shortPacket_length, length] at member
    rcases member with old | new
    · cases old
    · omega
  rw [ConnectRoundTrips, serializeConnect_writes _ _ _ _ bound room, total, connectPacket_eq,
    and_iff_right inside, ← connectRequest, roundTrips_short_iff ok bytes, length]
  omega

theorem serializeConnect_roundTrips_iff (clientId : CString) (bound : 14 + strlen clientId < 2 ^ 64)
    (keepAlive : UInt16) (bytes : Nat → UInt8) (bufferSize : Nat) :
    ConnectRoundTrips clientId keepAlive bytes bufferSize ↔
      bufferSize < 14 + strlen clientId ∨ 12 + strlen clientId ≤ 127 ∨
        2 ^ 31 ≤ (14 + strlen clientId) % 2 ^ 32 := by
  by_cases refused : bufferSize < 14 + strlen clientId
  · refine iff_of_true (Or.inl ?_) (Or.inl refused)
    rw [serializeConnect_refuses _ _ _ _ bound refused]
    exact (by decide : (-2 : Int) < 0)
  · rw [connect_roundTrips_iff clientId keepAlive bytes bound (Nat.not_lt.mp refused)]
    exact (or_iff_right refused).symm

theorem connect_116_lost : ¬ConnectRoundTrips (CString.letters 116) 60 (fun _ => 0) 256 :=
  (connect_roundTrips_iff (CString.letters 116) 60 (fun _ => 0) (by simp) (by simp)).not.mpr
    (by simp)

theorem connect_roundTrips_114 : ConnectRoundTrips (CString.letters 114) 60 (fun _ => 0) 128 :=
  (serializeConnect_roundTrips_iff (CString.letters 114) (by simp) 60 (fun _ => 0) 128).mpr
    (Or.inr (Or.inl (by simp)))

end Dpubsub.Proof
