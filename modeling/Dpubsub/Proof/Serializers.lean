import Dpubsub.Model.Client
import Dpubsub.Proof.Layout

/-!
# The serializers as one family

What a serializer writes depends on its arguments only, and not on what the buffer holds.
-/

namespace Dpubsub.Proof
open Dpubsub.Lib Dpubsub.Model Dpubsub.Spec

/-- A call of a serializer, but for the packet type and the buffer. -/
inductive Serialization where
  | connect (clientId : Option CString) (keepAlive : UInt16) (version : UInt8)
  | publish (topic message : Option CString) (messageId : UInt16) (qos retain dup : UInt8)
  | subscribe (topic : Option CString) (messageId : UInt16) (qos : UInt8)
  | unsubscribe (topic : Option CString) (messageId : UInt16)
  | disconnect
  | pingreq

namespace Serialization

def run (packetType : PacketTypeCode) (bufferSize : Nat) (buffer : Option Buffer) :
    Serialization → Int × Option Buffer
  | connect clientId keepAlive version =>
      serializeConnect packetType buffer bufferSize clientId keepAlive version
  | publish topic message messageId qos retain dup =>
      serializePublish packetType buffer bufferSize topic message messageId qos retain dup
  | subscribe topic messageId qos =>
      serializeSubscribe packetType buffer bufferSize topic messageId qos
  | unsubscribe topic messageId =>
      serializeUnsubscribe packetType buffer bufferSize topic messageId
  | disconnect => serializeDisconnect packetType buffer bufferSize
  | pingreq => serializePingreq packetType buffer bufferSize

def bytes (packetType : PacketTypeCode) : Serialization → Option (List UInt8)
  | connect (some clientId) keepAlive version =>
      some (connectLayout packetType clientId keepAlive version)
  | publish (some topic) (some message) messageId qos retain dup =>
      some (packet (publishHeader packetType qos retain dup)
        (publishBody topic message messageId qos))
  | subscribe (some topic) messageId qos => some (topicRequest packetType topic messageId [qos])
  | unsubscribe (some topic) messageId => some (topicRequest packetType topic messageId [])
  | disconnect | pingreq => some (headerOnly packetType)
  | _ => none

def needed : Serialization → Nat
  | connect (some clientId) _ version => 14 + connectExtra version + strlen clientId
  | publish (some topic) (some message) messageId qos _ _ =>
      1 + (publishBody topic message messageId qos).length
  | subscribe (some topic) _ _ => 6 + strlen topic
  | unsubscribe (some topic) _ => 5 + strlen topic
  | disconnect | pingreq => 2
  | _ => 0

def checksLate : Serialization → Bool
  | disconnect | pingreq => true
  | _ => false

variable {s : Serialization} {packetType : PacketTypeCode} {bufferSize : Nat} {buffer : Buffer}
  {p : List UInt8}

theorem run_null (s : Serialization) (packetType : PacketTypeCode) (bufferSize : Nat) :
    s.run packetType bufferSize none = (-1, none) := by
  cases s <;> rfl

theorem run_missing (missing : s.bytes packetType = none) :
    s.run packetType bufferSize (some buffer) = (-1, some buffer) := by
  cases s with
  | connect clientId keepAlive version =>
      cases clientId with
      | none => rfl
      | some clientId => cases missing
  | publish topic message messageId qos retain dup =>
      cases topic with
      | none => rfl
      | some topic =>
          cases message with
          | none => rfl
          | some message => cases missing
  | subscribe topic messageId qos =>
      cases topic with
      | none => rfl
      | some topic => cases missing
  | unsubscribe topic messageId =>
      cases topic with
      | none => rfl
      | some topic => cases missing
  | disconnect => cases missing
  | pingreq => cases missing

inductive Given (packetType : PacketTypeCode) : Serialization → List UInt8 → Prop where
  | connect (clientId keepAlive version) :
      Given packetType (connect (some clientId) keepAlive version)
        (connectLayout packetType clientId keepAlive version)
  | publish (topic message messageId qos retain dup) :
      Given packetType (publish (some topic) (some message) messageId qos retain dup)
        (packet (publishHeader packetType qos retain dup) (publishBody topic message messageId qos))
  | subscribe (topic messageId qos) : Given packetType (subscribe (some topic) messageId qos)
      (topicRequest packetType topic messageId [qos])
  | unsubscribe (topic messageId) : Given packetType (unsubscribe (some topic) messageId)
      (topicRequest packetType topic messageId [])
  | disconnect : Given packetType disconnect (headerOnly packetType)
  | pingreq : Given packetType pingreq (headerOnly packetType)

theorem given_of_bytes (given : s.bytes packetType = some p) : Given packetType s p := by
  unfold bytes at given
  split at given <;> cases given <;> constructor

theorem subscribe_size (topic : CString) (qos : UInt8) :
    5 + strlen topic + [qos].length = 6 + strlen topic := by
  rw [List.length_singleton]
  omega

theorem run_short (given : Given packetType s p) (bound : s.needed < 2 ^ 64)
    (short : bufferSize < s.needed) : s.run packetType bufferSize (some buffer) =
      (-2, some (if s.checksLate then ((Cursor.start buffer).append p).buffer else buffer)) := by
  cases given with
  | connect clientId keepAlive version => exact serializeConnect_short _ _ _ _ _ _ bound short
  | publish topic message messageId qos retain dup =>
      exact serializePublish_refuses _ _ _ _ _ _ _ _ _ bound short
  | subscribe topic messageId qos =>
      have total := subscribe_size topic qos
      exact serializeTopicRequest_refuses _ _ _ _ _ _ (total ▸ bound) (total ▸ short)
  | unsubscribe topic messageId => exact serializeUnsubscribe_refuses _ _ _ _ _ bound short
  | disconnect => exact serializeHeaderOnly_short packetType buffer bufferSize short
  | pingreq => exact serializeHeaderOnly_short packetType buffer bufferSize short

theorem run_lays (given : Given packetType s p) (large : s.needed ≤ bufferSize)
    (size : bufferSize < 2 ^ 64) : s.run packetType bufferSize (some buffer) =
      (intOfSize p.length, some ((Cursor.start buffer).append p).buffer) := by
  cases given with
  | connect clientId keepAlive version =>
      rw [connectLayout_length]
      exact serializeConnect_lays _ _ _ _ _ _ (large.trans_lt size) large
  | publish topic message messageId qos retain dup =>
      exact serializePublish_writes _ _ _ _ _ _ _ _ _ large size
  | subscribe topic messageId qos =>
      have total := subscribe_size topic qos
      rw [topicRequest_length]
      exact serializeTopicRequest_writes _ _ _ _ _ _ (total ▸ large.trans_lt size) (total ▸ large)
  | unsubscribe topic messageId =>
      rw [topicRequest_length]
      exact serializeUnsubscribe_writes _ _ _ _ _ (large.trans_lt size) large
  | disconnect => exact serializeHeaderOnly_lays packetType buffer bufferSize large
  | pingreq => exact serializeHeaderOnly_lays packetType buffer bufferSize large

theorem needed_le (given : Given packetType s p) : s.needed ≤ p.length + 2 := by
  cases given with
  | connect clientId keepAlive version =>
      rw [connectLayout_length, needed, connectExtra]
      split <;> omega
  | publish topic message messageId qos retain dup =>
      rw [packet_length, needed]
      omega
  | subscribe topic messageId qos =>
      rw [topicRequest_length, needed]
      omega
  | unsubscribe topic messageId =>
      rw [topicRequest_length, needed]
      omega
  | disconnect => exact Nat.le_add_left _ _
  | pingreq => exact Nat.le_add_left _ _

structure SameBytes (before before' : Nat → UInt8) (r r' : Int × Option Buffer) : Prop where
  result : r'.1 = r.1
  same : ∀ i : Nat, i < r.1 → contents r.2 i = contents r'.2 i
  kept : ∀ i : Nat, r.1 ≤ i → contents r.2 i = before i
  kept' : ∀ i : Nat, r.1 ≤ i → contents r'.2 i = before' i

theorem sameBytes_append (before before' : Nat → UInt8) (p : List UInt8) :
    SameBytes before before'
      (p.length, some ((Cursor.start (Buffer.fresh before)).append p).buffer)
      (p.length, some ((Cursor.start (Buffer.fresh before')).append p).buffer) := by
  have outside : ∀ (before : Nat → UInt8) (i : Nat), (p.length : Int) ≤ i →
      ((Cursor.start (Buffer.fresh before)).append p).buffer.bytes i = before i := by
    intro before i after
    rw [Cursor.append_bytes, Cursor.start_index, if_pos (Nat.zero_le i), Nat.sub_zero,
      List.getD_eq_default _ _ (by omega)]
    rfl
  refine ⟨rfl, fun i inside => ?_, outside before, outside before'⟩
  change ((Cursor.start (Buffer.fresh before)).append p).buffer.bytes i =
    ((Cursor.start (Buffer.fresh before')).append p).buffer.bytes i
  have here : i < p.length := by omega
  rw [Cursor.append_byte _ _ here, Cursor.append_byte _ _ here]

end Serialization

open Serialization

theorem serialized_sameBytes (s : Serialization) (packetType : PacketTypeCode) (bufferSize : Nat)
    (size : bufferSize < 2 ^ 64) (short : ∀ p ∈ s.bytes packetType, p.length < 2 ^ 31)
    (before before' : Nat → UInt8)
    (positive : 0 < (s.run packetType bufferSize (some (Buffer.fresh before))).1) :
    SameBytes before before' (s.run packetType bufferSize (some (Buffer.fresh before)))
      (s.run packetType bufferSize (some (Buffer.fresh before'))) := by
  cases bytes : s.bytes packetType with
  | none =>
      rw [run_missing bytes] at positive
      exact absurd positive (by simp)
  | some p =>
      have given := given_of_bytes bytes
      have small : p.length < 2 ^ 31 := short p bytes
      have needed := needed_le given
      have large : s.needed ≤ bufferSize := by
        by_contra less
        rw [run_short given (by omega) (Nat.not_le.mp less)] at positive
        exact absurd positive (by simp)
      rw [run_lays given large size, run_lays given large size,
        intOfSize_of_lt small]
      exact sameBytes_append before before' p

theorem serialized_sameBytes_subscribe : SameBytes (fun _ => 0) (fun _ => 0xFF)
    ((Serialization.subscribe (some (CString.letters 3)) 1 0).run .subscribe 16
      (some (Buffer.fresh fun _ => 0)))
    ((Serialization.subscribe (some (CString.letters 3)) 1 0).run .subscribe 16
      (some (Buffer.fresh fun _ => 0xFF))) := by
  refine serialized_sameBytes (.subscribe (some (CString.letters 3)) 1 0) .subscribe 16 (by decide)
    ?_ (fun _ => 0) (fun _ => 0xFF) (by decide +kernel)
  rintro p ⟨⟩
  rw [topicRequest_length]
  decide

/-- What is to hold of a call: a negative result leaves the buffer as it was. -/
def RefusesUntouched (s : Serialization) (packetType : PacketTypeCode) (bufferSize : Nat)
    (buffer : Option Buffer) : Prop :=
  (s.run packetType bufferSize buffer).1 < 0 → (s.run packetType bufferSize buffer).2 = buffer

namespace Serialization

def strings : Serialization → List CString
  | connect clientId _ _ => clientId.toList
  | publish topic message _ _ _ _ => topic.toList ++ message.toList
  | subscribe topic _ _ => topic.toList
  | unsubscribe topic _ => topic.toList
  | disconnect | pingreq => []

/-- The call is refused before its first write, or the packet can be returned as an `int`. -/
def ChecksFirst (bufferSize : Nat) : Serialization → Prop
  | publish (some topic) (some message) messageId qos _ _ =>
      bufferSize < 1 + (publishBody topic message messageId qos).length ∨
        1 + (Varint.encode (publishBody topic message messageId qos).length).length +
          (publishBody topic message messageId qos).length < 2 ^ 31
  | subscribe (some topic) _ _ => bufferSize < 6 + strlen topic ∨ 7 + strlen topic < 2 ^ 31
  | unsubscribe (some topic) _ => bufferSize < 5 + strlen topic ∨ 6 + strlen topic < 2 ^ 31
  | disconnect | pingreq => 2 ≤ bufferSize
  | _ => True

variable {s : Serialization} {packetType : PacketTypeCode} {bufferSize : Nat} {buffer : Buffer}
  {p : List UInt8}

theorem append_ne (buffer : Buffer) (nonempty : p ≠ []) :
    ((Cursor.start buffer).append p).buffer ≠ buffer := by
  intro same
  have written := congrArg (List.length ∘ Buffer.written) same
  simp only [Function.comp_apply, Cursor.append_written, List.length_append, List.length_range',
    Cursor.start_buffer] at written
  exact nonempty (List.length_eq_zero_iff.mp (by omega))

theorem Given.ne_nil (given : Given packetType s p) : p ≠ [] := by
  cases given <;> exact List.cons_ne_nil _ _

theorem needed_lt (given : Given packetType s p)
    (small : ∀ string ∈ s.strings, strlen string < 2 ^ 31) : s.needed < 2 ^ 32 + 8 := by
  cases given with
  | connect clientId keepAlive version =>
      have id : strlen clientId < 2 ^ 31 := small clientId (by simp [strings])
      rw [needed, connectExtra]
      split <;> omega
  | publish topic message messageId qos retain dup =>
      have first : strlen topic < 2 ^ 31 := small topic (by simp [strings])
      have second : strlen message < 2 ^ 31 := small message (by simp [strings])
      rw [needed, publishBody_length]
      split <;> omega
  | subscribe topic messageId qos =>
      have first : strlen topic < 2 ^ 31 := small topic (by simp [strings])
      rw [needed]
      omega
  | unsubscribe topic messageId =>
      have first : strlen topic < 2 ^ 31 := small topic (by simp [strings])
      rw [needed]
      omega
  | disconnect => decide
  | pingreq => decide

theorem length_le (given : Given packetType s p) (small : s.needed < 2 ^ 31) :
    p.length ≤ s.needed + 5 := by
  cases given with
  | connect clientId keepAlive version =>
      rw [connectLayout_length, needed]
      omega
  | publish topic message messageId qos retain dup =>
      rw [needed] at small
      have few : (Varint.encode (publishBody topic message messageId qos).length).length ≤ 4 + 1 :=
        Varint.encode_length_le (lt_trans (by omega : _ < 2 ^ 31) (by decide))
      rw [packet_length, needed]
      omega
  | subscribe topic messageId qos =>
      rw [topicRequest_length, needed, List.length_singleton]
      omega
  | unsubscribe topic messageId =>
      rw [topicRequest_length, needed, List.length_nil]
      omega
  | disconnect => exact Nat.le_add_right 2 5
  | pingreq => exact Nat.le_add_right 2 5

theorem refusesUntouched_given (given : Given packetType s p) (size : bufferSize < 2 ^ 31)
    (bound : s.needed < 2 ^ 64) : RefusesUntouched s packetType bufferSize (some buffer) ↔
      if bufferSize < s.needed then s.checksLate = false else p.length < 2 ^ 31 := by
  have written : some ((Cursor.start buffer).append p).buffer ≠ some buffer := fun same =>
    append_ne buffer given.ne_nil (Option.some.inj same)
  unfold RefusesUntouched
  by_cases short : bufferSize < s.needed
  · have negative : (-2 : Int) < 0 := by decide
    rw [run_short given bound short, if_pos short]
    simp only [negative, true_imp_iff]
    cases s.checksLate with
    | true => exact iff_of_false written (by simp)
    | false => exact iff_of_true rfl rfl
  · have large := Nat.not_lt.mp short
    have atMost := length_le given (large.trans_lt size)
    rw [run_lays given large (by omega), if_neg short]
    simp only [written, imp_false]
    rw [intOfSize_neg_iff]
    omega

theorem checkedFirst_iff (bufferSize needed : Nat) (fits : Prop) :
    (if bufferSize < needed then false = false else fits) ↔ bufferSize < needed ∨ fits := by
  by_cases short : bufferSize < needed
  · rw [if_pos short]
    exact iff_of_true rfl (Or.inl short)
  · rw [if_neg short]
    exact (or_iff_right short).symm

theorem checkedLate_iff (bufferSize : Nat) :
    (if bufferSize < 2 then true = false else 2 < 2 ^ 31) ↔ 2 ≤ bufferSize := by
  by_cases short : bufferSize < 2
  · rw [if_pos short]
    exact iff_of_false (by decide) (by omega)
  · rw [if_neg short]
    exact iff_of_true (by decide) (by omega)

theorem checksFirst_iff (given : Given packetType s p) (size : bufferSize < 2 ^ 31) :
    (if bufferSize < s.needed then s.checksLate = false else p.length < 2 ^ 31) ↔
      s.ChecksFirst bufferSize := by
  cases given with
  | connect clientId keepAlive version =>
      refine iff_of_true ?_ trivial
      split
      · rfl
      · rename_i large
        rw [needed] at large
        rw [connectLayout_length]
        omega
  | publish topic message messageId qos retain dup =>
      rw [packet_length, needed, ChecksFirst]
      exact checkedFirst_iff bufferSize _ _
  | subscribe topic messageId qos =>
      rw [topicRequest_length, needed, ChecksFirst, List.length_singleton]
      refine (checkedFirst_iff bufferSize _ _).trans (or_congr_right ?_)
      omega
  | unsubscribe topic messageId =>
      rw [topicRequest_length, needed, ChecksFirst, List.length_nil]
      exact checkedFirst_iff bufferSize _ _
  | disconnect => exact checkedLate_iff bufferSize
  | pingreq => exact checkedLate_iff bufferSize

theorem checksFirst_of_missing (missing : s.bytes packetType = none) : s.ChecksFirst bufferSize := by
  unfold ChecksFirst
  split <;> trivial

end Serialization

theorem refusesUntouched_iff (s : Serialization) (packetType : PacketTypeCode) (bufferSize : Nat)
    (size : bufferSize < 2 ^ 31) (small : ∀ string ∈ s.strings, strlen string < 2 ^ 31)
    (buffer : Option Buffer) : RefusesUntouched s packetType bufferSize buffer ↔
      buffer = none ∨ s.ChecksFirst bufferSize := by
  cases buffer with
  | none =>
      refine iff_of_true (fun _ => ?_) (Or.inl rfl)
      rw [run_null]
  | some buffer =>
      rw [or_iff_right (Option.some_ne_none buffer)]
      cases bytes : s.bytes packetType with
      | none =>
          refine iff_of_true (fun _ => ?_) (checksFirst_of_missing bytes)
          rw [run_missing bytes]
      | some p =>
          have given := given_of_bytes bytes
          have bound := needed_lt given small
          exact (refusesUntouched_given given size (by omega)).trans (checksFirst_iff given size)

theorem refusesUntouched_connect : RefusesUntouched
    (.connect (some (CString.letters 3)) 60 0x04) .connect 16 (some (Buffer.fresh fun _ => 0)) :=
  (refusesUntouched_iff (.connect (some (CString.letters 3)) 60 0x04) .connect 16 (by decide)
    (by simp [Serialization.strings]) _).mpr (Or.inr trivial)

theorem serializeDisconnect_touches :
    ¬RefusesUntouched .disconnect .disconnect 1 (some (Buffer.fresh fun _ => 0)) := by
  intro untouched
  exact absurd ((refusesUntouched_given .disconnect (by decide) (by decide)).mp untouched)
    (by decide)

/-! ## CONNACK -/

def connackByte (sessionPresent : Bool) (returnCode : Fin 6) : UInt8 :=
  toChar ((sessionPresent.toUInt8.toNat <<< 1) ||| (returnCode.val &&& 0x0F))

section Connack
variable (packetType : PacketTypeCode) (buffer : Buffer) (sessionPresent : Bool) (returnCode : Fin 6)

theorem serializeConnack_lays {bufferSize : Nat} (large : 2 ≤ bufferSize) :
    serializeConnack packetType (some buffer) bufferSize sessionPresent.toUInt8
        (UInt8.ofNat returnCode) =
      (2, some ((Cursor.start buffer).append
        [toChar packetType.code, connackByte sessionPresent returnCode]).buffer) := by
  have valid : ¬UInt8.ofNat returnCode > 0x05 := by
    revert returnCode
    decide
  have code : (UInt8.ofNat returnCode).toNat = returnCode.val := by
    revert returnCode
    decide
  simp only [serializeConnack]
  rw [if_neg (Nat.not_lt.mpr large), if_neg valid, code]
  rfl

/-- No value of `packet_type_code_t` is the 0x20 that the comment asks for. -/
theorem serializeConnack_first : toChar packetType.code ≠ 0x20 := by
  cases packetType <;> decide

theorem connackByte_readable_iff :
    (∀ session code, connackByte session code = connackByte sessionPresent returnCode →
      session = sessionPresent ∧ code = returnCode) ↔
      4 ≤ returnCode.val ∨ sessionPresent = false ∧ returnCode.val ≤ 1 := by
  revert sessionPresent returnCode
  decide

end Connack

end Dpubsub.Proof
