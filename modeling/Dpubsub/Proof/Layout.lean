import Dpubsub.Model.Packets
import Dpubsub.Spec.Mqtt

/-!
# What the serializers lay down

Each serializer that succeeds has written one byte string from index 0 on, and returns its length.
-/

namespace Dpubsub.Proof
open Dpubsub.Lib Dpubsub.Model Dpubsub.Spec

theorem toChar_and_255 (n : Nat) : toChar (n &&& 0xFF) = UInt8.ofNat n := by
  unfold toChar
  rw [Nat.and_two_pow_sub_one_eq_mod n 8, ← UInt8.toNat_inj]
  simp

theorem pushShort_eq (out : Cursor) (value : Nat) :
    pushShort out value = out.append (short value) := by
  unfold pushShort short
  rw [toChar_and_255, toChar_and_255, Nat.shiftRight_eq_div_pow]
  rfl

theorem and_127 (n : Nat) : n &&& 0x7F = n % 128 := Nat.and_two_pow_sub_one_eq_mod n 7

theorem or_128 {n : Nat} (h : n < 128) : n ||| 0x80 = n + 128 := by
  rw [Nat.or_comm, ← Nat.two_pow_add_eq_or_of_lt (i := 7) h 1]
  omega

theorem encodeRemainingLengthFrom_fits (length : Nat) (buffer : Cursor) (index bufferSize : Nat)
    (fits : index + (Varint.encode length).length ≤ bufferSize) :
    encodeRemainingLengthFrom length buffer index bufferSize =
      (intOfSize (index + (Varint.encode length).length), buffer.append (Varint.encode length)) := by
  induction length using Nat.strongRecOn generalizing buffer index with
  | ind length ih =>
      have digits := Varint.encode_length_pos length
      have room : ¬index ≥ bufferSize := by omega
      have shift : length >>> 7 = length / 128 := Nat.shiftRight_eq_div_pow length 7
      rw [encodeRemainingLengthFrom]
      simp only [if_neg room, shift, and_127]
      by_cases last : length < 128
      · have done : ¬length / 128 > 0 := by omega
        have byte : length % 128 = length := Nat.mod_eq_of_lt last
        rw [if_neg done, if_neg done, byte, Varint.encode_of_lt last]
        rfl
      · have more : length / 128 > 0 := by omega
        rw [Varint.encode_of_ge (by omega), List.length_cons] at fits ⊢
        rw [if_pos more, if_pos more, or_128 (Nat.mod_lt _ (by omega)),
          ih (length / 128) (by omega) _ _ (by omega), Cursor.append_cons]
        congr 2
        omega

theorem digits_small {length : Nat} (size : length < 2 ^ 64) :
    (Varint.encode length).length < 2 ^ 31 := by
  have few : (Varint.encode length).length ≤ 9 + 1 :=
    Varint.encode_length_le (size.trans (by decide))
  omega

theorem encodeRemainingLength_room {length bufferSize : Nat} (positive : 0 < length)
    (large : 1 + length ≤ bufferSize) (size : bufferSize < 2 ^ 64) (out : Cursor) :
    encodeRemainingLength length out (sizeSub bufferSize 1) =
      (((Varint.encode length).length : Int), out.append (Varint.encode length)) := by
  have digits := Varint.encode_length_le_self positive
  have room : 0 + (Varint.encode length).length ≤ sizeSub bufferSize 1 := by
    rw [sizeSub_of_le (by omega) size]
    omega
  rw [encodeRemainingLength, encodeRemainingLengthFrom_fits _ _ _ _ room, Nat.zero_add,
    intOfSize_of_lt (digits_small (by omega))]

theorem encodeRemainingLengthFrom_full (length : Nat) (buffer : Cursor) (index bufferSize : Nat)
    (full : bufferSize < index + (Varint.encode length).length) :
    encodeRemainingLengthFrom length buffer index bufferSize =
      (-1, buffer.append ((Varint.encode length).take (bufferSize - index))) := by
  induction length using Nat.strongRecOn generalizing buffer index with
  | ind length ih =>
      have shift : length >>> 7 = length / 128 := Nat.shiftRight_eq_div_pow length 7
      rw [encodeRemainingLengthFrom]
      simp only [shift, and_127]
      by_cases room : index ≥ bufferSize
      · rw [if_pos room, Nat.sub_eq_zero_of_le room, List.take_zero, Cursor.append_nil]
      · have more : length / 128 > 0 := by
          by_contra last
          rw [Varint.encode_of_lt (by omega), List.length_singleton] at full
          omega
        have left : bufferSize - index = bufferSize - (index + 1) + 1 := by omega
        rw [Varint.encode_of_ge (by omega), List.length_cons] at full
        rw [if_neg room, if_pos more, if_pos more, or_128 (Nat.mod_lt _ (by omega)),
          ih (length / 128) (by omega) _ _ (by omega), Varint.encode_of_ge (n := length) (by omega),
          left, List.take_succ_cons, Cursor.append_cons]
        rfl

/-! ## PUBLISH -/

def publishHeader (packetType : PacketTypeCode) (qos retain dup : UInt8) : UInt8 :=
  toChar ((packetType.code <<< 4) ||| (dup.toNat <<< 3) ||| (qos.toNat &&& 0x03) |||
    (retain.toNat &&& 0x01))

def publishBody (topic message : CString) (messageId : UInt16) (qos : UInt8) : List UInt8 :=
  field topic.bytes ++ (if qos > 0 then short messageId.toNat else []) ++ message.bytes

theorem publishBody_length (topic message : CString) (messageId : UInt16) (qos : UInt8) :
    (publishBody topic message messageId qos).length =
      2 + strlen topic + strlen message + if qos > 0 then 2 else 0 := by
  unfold publishBody strlen
  split
  · simp
    omega
  · simp

section Publish
variable (packetType : PacketTypeCode) (buffer : Buffer) (bufferSize : Nat)
  (topic message : CString) (messageId : UInt16) (qos retain dup : UInt8)

theorem publish_remaining (bound : (publishBody topic message messageId qos).length < 2 ^ 64) :
    (if qos > 0 then sizeT (sizeT (2 + strlen topic + strlen message) + 2)
      else sizeT (2 + strlen topic + strlen message)) =
      (publishBody topic message messageId qos).length := by
  rw [publishBody_length] at bound ⊢
  split at bound <;> simp only [*, if_true, if_false]
  · rw [sizeT_of_lt (n := 2 + strlen topic + strlen message) (by omega), sizeT_of_lt (by omega)]
  · rw [sizeT_of_lt (by omega)]
    rfl

theorem serializePublish_refuses
    (bound : 1 + (publishBody topic message messageId qos).length < 2 ^ 64)
    (small : bufferSize < 1 + (publishBody topic message messageId qos).length) :
    serializePublish packetType (some buffer) bufferSize (some topic) (some message) messageId
      qos retain dup = (-2, some buffer) := by
  simp only [serializePublish,
    publish_remaining topic message messageId qos ((Nat.le_add_left _ 1).trans_lt bound)]
  rw [if_pos]
  rw [sizeT_of_lt bound]
  exact small

theorem serializePublish_writes
    (large : 1 + (publishBody topic message messageId qos).length ≤ bufferSize)
    (size : bufferSize < 2 ^ 64) :
    serializePublish packetType (some buffer) bufferSize (some topic) (some message) messageId
      qos retain dup =
      (intOfSize (packet (publishHeader packetType qos retain dup)
          (publishBody topic message messageId qos)).length,
        some ((Cursor.start buffer).append (packet (publishHeader packetType qos retain dup)
          (publishBody topic message messageId qos))).buffer) := by
  have positive : 0 < (publishBody topic message messageId qos).length := by
    rw [publishBody_length]
    omega
  have bound : (publishBody topic message messageId qos).length < 2 ^ 64 := by omega
  have accepted : ¬sizeT (1 + (publishBody topic message messageId qos).length) > bufferSize := by
    rw [sizeT_of_lt (by omega)]
    omega
  have nonneg : ¬((Varint.encode (publishBody topic message messageId qos).length).length : Int) <
      0 := Int.not_lt.mpr (Int.natCast_nonneg _)
  simp only [serializePublish, if_neg accepted,
    publish_remaining topic message messageId qos bound, Cursor.push_index, Cursor.start_index,
    Nat.zero_add, encodeRemainingLength_room positive large size]
  have laid : ∀ c : Cursor, ((if qos > 0 then
      pushShort ((pushShort c (strlen topic)).append topic.bytes) messageId.toNat
      else (pushShort c (strlen topic)).append topic.bytes).append message.bytes) =
      c.append (publishBody topic message messageId qos) := by
    intro c
    unfold publishBody field strlen
    split <;> simp [pushShort_eq]
  simp only [if_neg nonneg, laid]
  simp [publishHeader, packet, Cursor.push_eq_append]

end Publish

/-! ## CONNECT -/

/-- What the check of a version 5 packet counts and the packet does not have. -/
def connectExtra (version : UInt8) : Nat := if version = 0x05 then 2 else 0

def connectFlags (version : UInt8) : UInt8 := if version = 0x05 then 0x01 else 0x00

def connectHeader (keepAlive : UInt16) : List UInt8 :=
  field [0x4D, 0x51, 0x54, 0x54] ++ [0x04, 0x00] ++ short keepAlive.toNat

def connectPacket (clientId : CString) (keepAlive : UInt16) : List UInt8 :=
  0x10 :: UInt8.ofNat (12 + strlen clientId) :: (connectHeader keepAlive ++ field clientId.bytes)

def connectLayout (packetType : PacketTypeCode) (clientId : CString) (keepAlive : UInt16)
    (version : UInt8) : List UInt8 :=
  toChar (packetType.code <<< 4) ::
    UInt8.ofNat (12 + connectExtra version + strlen clientId) ::
      (field [0x4D, 0x51, 0x54, 0x54] ++ [version, connectFlags version] ++ short keepAlive.toNat ++
        field clientId.bytes)

theorem connectLayout_length (packetType : PacketTypeCode) (clientId : CString)
    (keepAlive : UInt16) (version : UInt8) :
    (connectLayout packetType clientId keepAlive version).length = 14 + strlen clientId := by
  simp only [connectLayout, List.length_cons, List.length_append, List.length_nil, field_length,
    short_length, strlen]
  omega

theorem connectPacket_length (clientId : CString) (keepAlive : UInt16) :
    (connectPacket clientId keepAlive).length = 14 + strlen clientId :=
  connectLayout_length .connect clientId keepAlive 0x04

section Connect
variable (packetType : PacketTypeCode) (buffer : Buffer) (bufferSize : Nat) (clientId : CString)
  (keepAlive : UInt16) (version : UInt8)

theorem connect_remaining (bound : 14 + connectExtra version + strlen clientId < 2 ^ 64) :
    sizeT ((if version = 0x05 then 10 + 2 else 10) + sizeT (2 + strlen clientId)) =
      12 + connectExtra version + strlen clientId := by
  unfold connectExtra at bound ⊢
  split at bound <;> simp only [*, if_true, if_false]
  · rw [sizeT_of_lt (n := 2 + strlen clientId) (by omega), sizeT_of_lt (by omega)]
    omega
  · rw [sizeT_of_lt (n := 2 + strlen clientId) (by omega), sizeT_of_lt (by omega)]
    omega

theorem connect_size (bound : 14 + connectExtra version + strlen clientId < 2 ^ 64) :
    sizeT (2 + (12 + connectExtra version + strlen clientId)) =
      14 + connectExtra version + strlen clientId := by
  rw [sizeT_of_lt (by omega)]
  omega

theorem serializeConnect_short (bound : 14 + connectExtra version + strlen clientId < 2 ^ 64)
    (small : bufferSize < 14 + connectExtra version + strlen clientId) :
    serializeConnect packetType (some buffer) bufferSize (some clientId) keepAlive version =
      (-2, some buffer) := by
  simp only [serializeConnect, Nat.reduceAdd]
  rw [connect_remaining clientId version bound, connect_size clientId version bound, if_pos small]

theorem serializeConnect_lays (bound : 14 + connectExtra version + strlen clientId < 2 ^ 64)
    (large : 14 + connectExtra version + strlen clientId ≤ bufferSize) :
    serializeConnect packetType (some buffer) bufferSize (some clientId) keepAlive version =
      (intOfSize (14 + strlen clientId), some ((Cursor.start buffer).append
        (connectLayout packetType clientId keepAlive version)).buffer) := by
  have length : (connectLayout packetType clientId keepAlive version).length =
      14 + strlen clientId := connectLayout_length packetType clientId keepAlive version
  have laid : ((pushShort (pushShort ((((((((Cursor.start buffer).push
      (toChar (packetType.code <<< 4))).push
      (toChar (12 + connectExtra version + strlen clientId))).push 0x00).push (toChar 4)).append
      [0x4D, 0x51, 0x54, 0x54]).push version).push (connectFlags version))
      keepAlive.toNat) (strlen clientId)).append clientId.bytes) =
      (Cursor.start buffer).append (connectLayout packetType clientId keepAlive version) := by
    simp only [pushShort_eq, Cursor.push_eq_append, Cursor.append_append]
    rfl
  simp only [serializeConnect, Nat.reduceAdd]
  rw [connect_remaining clientId version bound, connect_size clientId version bound,
    if_neg (Nat.not_lt.mpr large), ← connectFlags, laid, Cursor.append_index, Cursor.start_index,
    Nat.zero_add, length]

theorem serializeConnect_refuses (bound : 14 + strlen clientId < 2 ^ 64)
    (small : bufferSize < 14 + strlen clientId) :
    serializeConnect .connect (some buffer) bufferSize (some clientId) keepAlive 0x04 =
      (-2, some buffer) :=
  serializeConnect_short .connect buffer bufferSize clientId keepAlive 0x04 bound small

theorem serializeConnect_writes (bound : 14 + strlen clientId < 2 ^ 64)
    (large : 14 + strlen clientId ≤ bufferSize) :
    serializeConnect .connect (some buffer) bufferSize (some clientId) keepAlive 0x04 =
      (intOfSize (14 + strlen clientId),
        some ((Cursor.start buffer).append (connectPacket clientId keepAlive)).buffer) :=
  serializeConnect_lays .connect buffer bufferSize clientId keepAlive 0x04 bound large

end Connect

/-! ## DISCONNECT and PINGREQ -/

def headerOnly (packetType : PacketTypeCode) : List UInt8 := [toChar packetType.code, 0x00]

section HeaderOnly
variable (packetType : PacketTypeCode) (buffer : Buffer) (bufferSize : Nat)

/-- Both bytes are written although there is no room for them. -/
theorem serializeHeaderOnly_short (short : bufferSize < 2) :
    serializeHeaderOnly packetType (some buffer) bufferSize =
      (-2, some ((Cursor.start buffer).append (headerOnly packetType)).buffer) := by
  simp only [serializeHeaderOnly, Cursor.push_index, Cursor.start_index, Nat.zero_add]
  rw [if_pos short]
  rfl

theorem serializeHeaderOnly_lays (large : 2 ≤ bufferSize) :
    serializeHeaderOnly packetType (some buffer) bufferSize =
      (intOfSize (headerOnly packetType).length,
        some ((Cursor.start buffer).append (headerOnly packetType)).buffer) := by
  simp only [serializeHeaderOnly, Cursor.push_index, Cursor.start_index, Nat.zero_add]
  rw [if_neg (Nat.not_lt.mpr large)]
  rfl

end HeaderOnly

/-! ## SUBSCRIBE and UNSUBSCRIBE -/

def topicRequest (packetType : PacketTypeCode) (topic : CString) (messageId : UInt16)
    (options : List UInt8) : List UInt8 :=
  toChar ((packetType.code <<< 4) ||| 0x02) ::
    UInt8.ofNat (4 + strlen topic + options.length) ::
      (short messageId.toNat ++ field topic.bytes ++ options)

theorem topicRequest_length (packetType : PacketTypeCode) (topic : CString) (messageId : UInt16)
    (options : List UInt8) : (topicRequest packetType topic messageId options).length =
      6 + strlen topic + options.length := by
  simp only [topicRequest, List.length_cons, List.length_append, field_length, short_length, strlen]
  omega

section TopicRequest
variable (packetType : PacketTypeCode) (buffer : Buffer) (bufferSize : Nat) (topic : CString)
  (messageId : UInt16) (options : List UInt8)

theorem serializeTopicRequest_refuses (bound : 5 + strlen topic + options.length < 2 ^ 64)
    (small : bufferSize < 5 + strlen topic + options.length) :
    serializeTopicRequest packetType (some buffer) bufferSize (some topic) messageId options =
      (-2, some buffer) := by
  simp only [serializeTopicRequest]
  rw [sizeT_of_lt (n := 2 + 2 + strlen topic + options.length) (by omega),
    sizeT_of_lt (by omega), if_pos (by omega)]

theorem serializeTopicRequest_writes (bound : 5 + strlen topic + options.length < 2 ^ 64)
    (large : 5 + strlen topic + options.length ≤ bufferSize) :
    serializeTopicRequest packetType (some buffer) bufferSize (some topic) messageId options =
      (intOfSize (6 + strlen topic + options.length),
        some ((Cursor.start buffer).append
          (topicRequest packetType topic messageId options)).buffer) := by
  have laid : ((pushShort (pushShort (((Cursor.start buffer).push
      (toChar ((packetType.code <<< 4) ||| 0x02))).push
      (toChar (2 + 2 + strlen topic + options.length))) messageId.toNat)
      (strlen topic)).append topic.bytes).append options =
      (Cursor.start buffer).append (topicRequest packetType topic messageId options) := by
    simp only [pushShort_eq, Cursor.push_eq_append, Cursor.append_append]
    simp [topicRequest, field, strlen, toChar]
  simp only [serializeTopicRequest]
  rw [sizeT_of_lt (n := 2 + 2 + strlen topic + options.length) (by omega),
    sizeT_of_lt (by omega), if_neg (by omega), laid, Cursor.append_index, Cursor.start_index,
    Nat.zero_add, topicRequest_length]

theorem serializeUnsubscribe_refuses (bound : 5 + strlen topic < 2 ^ 64)
    (small : bufferSize < 5 + strlen topic) :
    serializeUnsubscribe packetType (some buffer) bufferSize (some topic) messageId =
      (-2, some buffer) :=
  serializeTopicRequest_refuses packetType buffer bufferSize topic messageId [] bound small

theorem serializeUnsubscribe_writes (bound : 5 + strlen topic < 2 ^ 64)
    (large : 5 + strlen topic ≤ bufferSize) :
    serializeUnsubscribe packetType (some buffer) bufferSize (some topic) messageId =
      (intOfSize (6 + strlen topic),
        some ((Cursor.start buffer).append (topicRequest packetType topic messageId [])).buffer) :=
  serializeTopicRequest_writes packetType buffer bufferSize topic messageId [] bound large

end TopicRequest
end Dpubsub.Proof
