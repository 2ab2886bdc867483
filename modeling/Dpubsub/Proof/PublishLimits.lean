import Dpubsub.Proof.Layout

/-!
# The limits of `serialize_publish`
-/

namespace Dpubsub.Proof
open Dpubsub.Lib Dpubsub.Model Dpubsub.Spec

def remainingLength (topic message : CString) (qos : UInt8) : Nat :=
  2 + strlen topic + strlen message + if qos > 0 then 2 else 0

structure ChecksOnce (bufferSize remaining : Nat) (result : Int) : Prop where
  -- one byte for each digit to the base 128
  encodes : 1 + remaining ≤ bufferSize → ∀ out : Cursor,
    (encodeRemainingLength remaining out (sizeSub bufferSize 1)).1 =
      (Nat.digits 128 remaining).length
  short : result = -2 ↔ bufferSize < 1 + remaining
  notLate : result ≠ -3
  -- `index`, which is returned as an `int`
  returned : 1 + remaining ≤ bufferSize →
    result = intOf (1 + (Nat.digits 128 remaining).length + remaining)
  exact : 1 + remaining ≤ bufferSize → 1 + (Nat.digits 128 remaining).length + remaining < 2 ^ 31 →
    result = 1 + (Nat.digits 128 remaining).length + remaining

section
variable {packetType : PacketTypeCode} {buffer : Buffer} {bufferSize : Nat}
  {topic message : CString} {messageId : UInt16} {qos retain dup : UInt8}

theorem remainingLength_pos : 0 < remainingLength topic message qos := by
  rw [remainingLength]
  omega

theorem serializePublish_short
    (short : bufferSize < 1 + remainingLength topic message qos)
    (memory : 1 + remainingLength topic message qos < 2 ^ 64) :
    serializePublish packetType (some buffer) bufferSize (some topic) (some message) messageId
      qos retain dup = (-2, some buffer) := by
  rw [remainingLength, ← publishBody_length topic message messageId] at short memory
  exact serializePublish_refuses _ _ _ _ _ _ _ _ _ memory short

theorem serializePublish_lays (large : 1 + remainingLength topic message qos ≤ bufferSize)
    (size : bufferSize < 2 ^ 64) :
    serializePublish packetType (some buffer) bufferSize (some topic) (some message) messageId
      qos retain dup =
      (intOfSize (1 + (Varint.encode (remainingLength topic message qos)).length +
          remainingLength topic message qos),
        some ((Cursor.start buffer).append (packet (publishHeader packetType qos retain dup)
          (publishBody topic message messageId qos))).buffer) := by
  have length : (publishBody topic message messageId qos).length =
      remainingLength topic message qos := publishBody_length topic message messageId qos
  rw [← length] at large ⊢
  rw [serializePublish_writes _ _ _ _ _ _ _ _ _ large size, packet_length]

theorem encodeRemainingLength_value (large : 1 + remainingLength topic message qos ≤ bufferSize)
    (size : bufferSize < 2 ^ 64) (out : Cursor) :
    (encodeRemainingLength (remainingLength topic message qos) out (sizeSub bufferSize 1)).1 =
      ((Varint.encode (remainingLength topic message qos)).length : Int) := by
  rw [encodeRemainingLength_room remainingLength_pos large size]

end

theorem serializePublish_checksOnce (packetType : PacketTypeCode) (buffer : Buffer)
    (bufferSize : Nat) (size : bufferSize < 2 ^ 31) (topic message : CString)
    (topicSize : strlen topic < 2 ^ 31) (messageSize : strlen message < 2 ^ 31)
    (messageId : UInt16) (qos retain dup : UInt8) :
    ChecksOnce bufferSize (remainingLength topic message qos)
      (serializePublish packetType (some buffer) bufferSize (some topic) (some message) messageId
        qos retain dup).1 := by
  have memory : 1 + remainingLength topic message qos < 2 ^ 64 := by
    rw [remainingLength]
    split <;> omega
  by_cases short : bufferSize < 1 + remainingLength topic message qos
  · rw [serializePublish_short short memory]
    exact ⟨fun large => absurd short (Nat.not_lt.mpr large), iff_of_true rfl short, by simp,
      fun large => absurd short (Nat.not_lt.mpr large),
      fun large => absurd short (Nat.not_lt.mpr large)⟩
  · have large := Nat.not_lt.mp short
    have few : (Varint.encode (remainingLength topic message qos)).length ≤ 4 + 1 :=
      Varint.encode_length_le (lt_trans (by omega : _ < 2 ^ 31) (by decide))
    have digits : (Varint.encode (remainingLength topic message qos)).length =
        (Nat.digits 128 (remainingLength topic message qos)).length :=
      Varint.encode_length_digits remainingLength_pos
    have size' : bufferSize < 2 ^ 64 := size.trans (by decide)
    rw [serializePublish_lays large size']
    dsimp only
    have notShort := intOfSize_ne_neg (n := 1 + (Varint.encode
      (remainingLength topic message qos)).length + remainingLength topic message qos) (k := 2)
      (by decide) (by omega)
    refine ⟨fun _ out => ?_, iff_of_false notShort short, ?_, fun _ => ?_, fun _ bound => ?_⟩
    · rw [encodeRemainingLength_value large size', digits]
    · exact intOfSize_ne_neg (k := 3) (by decide) (by omega)
    · rw [digits]
      exact congrArg intOf (by omega)
    · rw [← digits] at bound ⊢
      exact intOfSize_of_lt (by omega)

theorem serializePublish_checksOnce_nine :
    (serializePublish .publish (some (Buffer.fresh fun _ => 0)) 9 (some (CString.letters 3))
      (some (CString.letters 2)) 1 0 0 0).1 ≠ -3 :=
  (serializePublish_checksOnce .publish (Buffer.fresh fun _ => 0) 9 (by decide)
    (CString.letters 3) (CString.letters 2) (by decide) (by decide) 1 0 0 0).notLate

/-- The topic has a length of two bytes, and the packet one of at most four. -/
def Expressible (topic message : CString) (qos : UInt8) : Prop :=
  strlen topic ≤ 65535 ∧ remainingLength topic message qos ≤ 268435455

structure FieldLength (buffer : Buffer) (k : Nat) : Prop where
  positive : 0 < k
  continues : ∀ i < k, 128 ≤ (buffer.bytes (1 + i)).toNat ↔ i + 1 < k

structure EmitsLengths (topic : CString) (buffer : Buffer) : Prop where
  remaining : ∃ k ≤ 4, FieldLength buffer k
  topic : ∀ k, FieldLength buffer k →
    (buffer.bytes (1 + k)).toNat * 256 + (buffer.bytes (2 + k)).toNat = strlen topic

structure RefusesOversize (topic message : CString) (qos : UInt8)
    (result : Int × Option Buffer) : Prop where
  refused : ¬Expressible topic message qos → result.1 < 0
  emitted : ∀ buffer, result.2 = some buffer → buffer.written ≠ [] → EmitsLengths topic buffer

theorem FieldLength.unique {buffer : Buffer} {k k' : Nat} (first : FieldLength buffer k)
    (second : FieldLength buffer k') : k = k' := by
  have le : ∀ {k k'}, FieldLength buffer k → FieldLength buffer k' → k' ≤ k := by
    intro k k' first second
    by_contra less
    have positive := first.positive
    have ends := (first.continues (k - 1) (by omega)).not.mpr (by omega)
    exact ends ((second.continues (k - 1) (by omega)).mpr (by omega))
  exact Nat.le_antisymm (le second first) (le first second)

section
variable (buffer : Buffer) (first : UInt8) (body : List UInt8)

theorem packet_fieldLength : FieldLength ((Cursor.start buffer).append (packet first body)).buffer
    (Varint.encode body.length).length where
  positive := Varint.encode_length_pos _
  continues i inside := by
    have total := packet_length first body
    rw [Cursor.append_byte _ _ (by omega), Nat.add_comm, packet, List.getD_cons_succ,
      List.getD_append _ _ _ _ inside]
    exact Varint.encode_continues inside

theorem packet_byte {i : Nat} (inside : i < body.length) :
    ((Cursor.start buffer).append (packet first body)).buffer.bytes
      (1 + (Varint.encode body.length).length + i) = body.getD i 0 := by
  have total := packet_length first body
  have index : 1 + (Varint.encode body.length).length + i =
      (Varint.encode body.length).length + i + 1 := by omega
  rw [Cursor.append_byte _ _ (by omega), index, packet, List.getD_cons_succ,
    List.getD_append_right _ _ _ _ (Nat.le_add_right _ _), Nat.add_sub_cancel_left]

end

section
variable {buffer : Buffer} {first : UInt8} {topic message : CString} {messageId : UInt16}
  {qos : UInt8}

theorem emitted_topic : ∀ k, FieldLength ((Cursor.start buffer).append
      (packet first (publishBody topic message messageId qos))).buffer k →
    (((Cursor.start buffer).append
          (packet first (publishBody topic message messageId qos))).buffer.bytes (1 + k)).toNat *
        256 +
      (((Cursor.start buffer).append
          (packet first (publishBody topic message messageId qos))).buffer.bytes (2 + k)).toNat =
      strlen topic % 65536 := by
  intro k ends
  obtain rfl := ends.unique (packet_fieldLength buffer first _)
  have length := publishBody_length topic message messageId qos
  have high :=
    packet_byte buffer first (publishBody topic message messageId qos) (i := 0) (by omega)
  have low := packet_byte buffer first (publishBody topic message messageId qos) (i := 1) (by omega)
  have next : ∀ k, 2 + k = 1 + k + 1 := by omega
  rw [next, low, ← Nat.add_zero (1 + _), high]
  change (UInt8.ofNat (strlen topic / 256)).toNat * 256 + (UInt8.ofNat (strlen topic)).toNat = _
  simp only [UInt8.toNat_ofNat']
  omega

theorem emitsLengths_iff : EmitsLengths topic ((Cursor.start buffer).append
    (packet first (publishBody topic message messageId qos))).buffer ↔
      Expressible topic message qos := by
  have length : (publishBody topic message messageId qos).length =
      remainingLength topic message qos := publishBody_length topic message messageId qos
  have ends := packet_fieldLength buffer first (publishBody topic message messageId qos)
  have four := Varint.encode_length_le_iff (remainingLength topic message qos) 3
  rw [length] at ends
  constructor
  · intro emits
    obtain ⟨k, few, field⟩ := emits.remaining
    obtain rfl := field.unique ends
    have whole := (emitted_topic _ field).symm.trans (emits.topic _ field)
    have bound := four.mp few
    exact ⟨by omega, by omega⟩
  · rintro ⟨topicSize, size⟩
    refine ⟨⟨_, four.mpr (by omega), ends⟩, fun k field => ?_⟩
    rw [emitted_topic k field]
    omega

end

section
variable {packetType : PacketTypeCode} {bytes : Nat → UInt8} {bufferSize : Nat}
  {topic message : CString} {messageId : UInt16} {qos retain dup : UInt8}

theorem refusesOversize_iff (size : bufferSize < 2 ^ 64)
    (memory : 1 + remainingLength topic message qos < 2 ^ 64) :
    RefusesOversize topic message qos (serializePublish packetType (some (Buffer.fresh bytes))
        bufferSize (some topic) (some message) messageId qos retain dup) ↔
      Expressible topic message qos ∨ bufferSize < 1 + remainingLength topic message qos := by
  by_cases short : bufferSize < 1 + remainingLength topic message qos
  · rw [serializePublish_short short memory]
    refine iff_of_true ⟨fun _ => by simp, ?_⟩ (Or.inr short)
    rintro _ ⟨⟩ written
    exact absurd rfl written
  · rw [serializePublish_lays (Nat.not_lt.mp short) size, or_iff_left short]
    constructor
    · intro refuses
      refine emitsLengths_iff.mp (refuses.emitted _ rfl ?_)
      rw [Cursor.append_written]
      exact List.append_ne_nil_of_right_ne_nil _ (by simp [packet])
    · intro expressible
      refine ⟨fun not => absurd expressible not, ?_⟩
      rintro _ ⟨⟩ -
      exact emitsLengths_iff.mpr expressible

theorem refused_iff (size : bufferSize < 2 ^ 64)
    (memory : 1 + remainingLength topic message qos < 2 ^ 64) :
    (¬Expressible topic message qos → (serializePublish packetType (some (Buffer.fresh bytes))
        bufferSize (some topic) (some message) messageId qos retain dup).1 < 0) ↔
      Expressible topic message qos ∨ bufferSize < 1 + remainingLength topic message qos ∨
        2 ^ 31 ≤ (1 + (Varint.encode (remainingLength topic message qos)).length +
          remainingLength topic message qos) % 2 ^ 32 := by
  rw [← or_iff_not_imp_left]
  refine or_congr_right ?_
  by_cases short : bufferSize < 1 + remainingLength topic message qos
  · rw [serializePublish_short short memory]
    exact iff_of_true (by simp) (Or.inl short)
  · rw [serializePublish_lays (Nat.not_lt.mp short) size, or_iff_right short]
    dsimp only
    exact intOfSize_neg_iff _

end

/-- The only sizes that are looked at are those of the buffer: whatever fits is written, with the
lengths that do not fit their fields cut off or in a fifth byte. -/
theorem serializePublish_refusesOversize_iff (packetType : PacketTypeCode) (bytes : Nat → UInt8)
    (bufferSize : Nat) (size : bufferSize < 2 ^ 64) (topic message : CString) (messageId : UInt16)
    (qos retain dup : UInt8) (memory : 1 + remainingLength topic message qos < 2 ^ 64) :
    (RefusesOversize topic message qos (serializePublish packetType (some (Buffer.fresh bytes))
        bufferSize (some topic) (some message) messageId qos retain dup) ↔
      Expressible topic message qos ∨ bufferSize < 1 + remainingLength topic message qos) ∧
    ((¬Expressible topic message qos → (serializePublish packetType (some (Buffer.fresh bytes))
        bufferSize (some topic) (some message) messageId qos retain dup).1 < 0) ↔
      Expressible topic message qos ∨ bufferSize < 1 + remainingLength topic message qos ∨
        2 ^ 31 ≤ (1 + (Varint.encode (remainingLength topic message qos)).length +
          remainingLength topic message qos) % 2 ^ 32) :=
  ⟨refusesOversize_iff size memory, refused_iff size memory⟩

theorem serializePublish_truncates : ¬RefusesOversize (CString.letters 65536) (CString.letters 0) 0
    (serializePublish .publish (some (Buffer.fresh fun _ => 0)) 70000
      (some (CString.letters 65536)) (some (CString.letters 0)) 1 0 0 0) := by
  have length : remainingLength (CString.letters 65536) (CString.letters 0) 0 = 65538 := by
    rw [remainingLength, CString.strlen_letters, CString.strlen_letters]
    rfl
  rw [refusesOversize_iff (by decide) (by rw [length]; decide), length, Expressible,
    CString.strlen_letters]
  decide

theorem serializePublish_refusesOversize_ten :
    RefusesOversize (CString.letters 3) (CString.letters 2) 0
      (serializePublish .publish (some (Buffer.fresh fun _ => 0)) 10 (some (CString.letters 3))
        (some (CString.letters 2)) 1 0 0 0) :=
  (serializePublish_refusesOversize_iff .publish (fun _ => 0) 10 (by decide) (CString.letters 3)
    (CString.letters 2) 1 0 0 0 (by decide)).1.mpr (Or.inl (by unfold Expressible; decide))

end Dpubsub.Proof
