import Dpubsub.Proof.Layout
import Dpubsub.Proof.HandlePublish
import Dpubsub.Spec.ControlPacket

/-!
# `handle_publish` against the wire format
-/

namespace Dpubsub.Proof
open Dpubsub.Lib Dpubsub.Model Dpubsub.Spec

section Short
variable {p : Publish}

theorem body_length (p : Publish) :
    p.body.length = 2 + p.topic.length + p.idField.length + p.payload.length := by
  simp only [Publish.body, List.length_append, field_length]

theorem encode_short (short : p.body.length < 128) : p.encode = p.first ::
    UInt8.ofNat p.body.length :: UInt8.ofNat (p.topic.length / 256) ::
      UInt8.ofNat p.topic.length :: (p.topic ++ (p.idField ++ p.payload)) := by
  rw [Publish.encode, packet_of_short short]
  simp [Publish.body, field, Spec.short]

theorem encode_length (short : p.body.length < 128) : p.encode.length = p.body.length + 2 := by
  rw [Publish.encode, packet_of_short short, List.length_cons, List.length_cons]

theorem encode_isPublish (p : Publish) : IsPublish p.encode := p.first_bits.1

theorem encode_qosOf (p : Publish) : qosOf p.encode = p.qos.value := p.first_bits.2.2.1

theorem encode_remaining (short : p.body.length < 128) :
    (byteAt p.encode 1).toNat = p.body.length := by
  rw [encode_short short]
  change (UInt8.ofNat p.body.length).toNat = _
  exact UInt8.toNat_ofNat_of_lt (by change _ < 256; omega)

theorem encode_topicLengthHigh (short : p.body.length < 128) : byteAt p.encode 2 = 0 := by
  have length := body_length p
  have zero : p.topic.length / 256 = 0 := by omega
  rw [encode_short short, zero]
  rfl

theorem encode_topicLengthOf (short : p.body.length < 128) :
    topicLengthOf p.encode = p.topic.length := by
  have length := body_length p
  have low : (UInt8.ofNat p.topic.length).toNat = p.topic.length :=
    UInt8.toNat_ofNat_of_lt (by change _ < 256; omega)
  have value : byteAt p.encode 3 = UInt8.ofNat p.topic.length := by
    rw [encode_short short]
    rfl
  rw [topicLengthOf, encode_topicLengthHigh short, value, shortOf_of_lt (by omega), low]
  simp

theorem idField_length (p : Publish) :
    p.idField.length = if p.qos.value > 0 then 2 else 0 := by
  unfold Publish.idField
  rcases p.qos <;> rfl

theorem encode_payloadStartOf (short : p.body.length < 128) :
    payloadStartOf p.encode = 4 + p.topic.length + p.idField.length := by
  rw [payloadStartOf, idLengthOf, encode_topicLengthOf short, encode_qosOf, idField_length]

theorem encode_inOrder (short : p.body.length < 128) : InOrder p.encode := by
  have length := body_length p
  refine ⟨?_, ?_, ?_⟩
  · rw [encode_length short]
    omega
  · rw [encode_payloadStartOf short, encode_remaining short]
    omega
  · rw [encode_remaining short, encode_length short]

theorem encode_topicOf (short : p.body.length < 128) : topicOf p.encode = p.topic := by
  rw [topicOf, encode_topicLengthOf short, encode_short short]
  simp

theorem encode_payloadOf (short : p.body.length < 128) : payloadOf p.encode = p.payload := by
  have length := body_length p
  have count : p.body.length + 2 - (4 + p.topic.length + p.idField.length) = p.payload.length := by
    omega
  have start : 4 + p.topic.length + p.idField.length =
      (p.topic ++ p.idField).length + 1 + 1 + 1 + 1 := by
    rw [List.length_append]
    omega
  rw [payloadOf, encode_payloadStartOf short, encode_remaining short, count, encode_short short,
    ← List.append_assoc, start]
  simp only [List.drop_succ_cons, List.drop_left, List.take_length]

end Short

def retainFlag (retain : Bool) : UInt8 := if retain then 1 else 0

def plainPublish (topic message : CString) (messageId : UInt16) (retain : Bool) : Publish :=
  ⟨false, .atMostOnce, retain, topic.bytes, messageId, message.bytes⟩

theorem plainPublish_encode (topic message : CString) (messageId : UInt16) (retain : Bool) :
    packet (publishHeader .publish 0 (retainFlag retain) 0)
      (publishBody topic message messageId 0) =
      (plainPublish topic message messageId retain).encode := by
  cases retain <;> rfl

theorem plainBody_length (topic message : CString) (messageId : UInt16) :
    (publishBody topic message messageId 0).length = 2 + strlen topic + strlen message :=
  publishBody_length topic message messageId 0

theorem plainPublish_body (topic message : CString) (messageId : UInt16) (retain : Bool) :
    (plainPublish topic message messageId retain).body = publishBody topic message messageId 0 := rfl

theorem encode_not_inOrder {p : Publish} (lower : 128 ≤ p.body.length)
    (upper : p.body.length < 128 ^ 2) : ¬InOrder p.encode := by
  have high : p.body.length / 128 < 128 := by omega
  have second : byteAt p.encode 2 = UInt8.ofNat (p.body.length / 128) := by
    rw [Publish.encode, packet, Varint.encode_of_ge lower, Varint.encode_of_lt high]
    rfl
  rw [inOrder_iff, second]
  rintro ⟨-, zero, -⟩
  have value : (UInt8.ofNat (p.body.length / 128)).toNat = p.body.length / 128 :=
    UInt8.toNat_ofNat_of_lt (lt_trans high (by decide))
  rw [zero, UInt8.toNat_zero] at value
  omega

/-- Given what `serialize_publish` wrote into 512 bytes, as one read of exactly these bytes,
`handle_publish` shows topic and message, sends nothing and returns 0. -/
def ShowsWhatWasSerialized (topic message : CString) (messageId : UInt16) (retain : UInt8)
    (bytes : Nat → UInt8) (fd : Int) (sends : List Int) (r : Receiver) : Prop :=
  ∀ n buffer, serializePublish .publish (some (Buffer.fresh bytes)) 512 (some topic)
      (some message) messageId 0 retain 0 = (n, some buffer) → 0 < n →
    recvResult fd 512 (.data (buffer.slice n.toNat)) = .data (buffer.slice n.toNat) →
    ∃ accesses, handlePublish fd (.data (buffer.slice n.toNat)) sends r =
      (.ret 0, { r with
        accesses := r.accesses ++ accesses
        shown := r.shown ++ [(topic.bytes, message.bytes)] })

section Serialized
variable (topic message : CString) (messageId : UInt16) (retain : Bool) (bytes : Nat → UInt8)
  (fd : Int) (sends : List Int) (r : Receiver)

theorem serializePublish_plain (bound : 2 + strlen topic + strlen message ≤ 511) :
    ∃ buffer : Buffer, serializePublish .publish (some (Buffer.fresh bytes)) 512 (some topic)
        (some message) messageId 0 (retainFlag retain) 0 =
        (((plainPublish topic message messageId retain).encode.length : Int), some buffer) ∧
      buffer.slice (plainPublish topic message messageId retain).encode.length =
        (plainPublish topic message messageId retain).encode := by
  have length := plainBody_length topic message messageId
  have digits := Varint.encode_length_le (k := 4) (n := 2 + strlen topic + strlen message)
    (lt_of_le_of_lt bound (by decide))
  have total := packet_length (publishHeader .publish 0 (retainFlag retain) 0)
    (publishBody topic message messageId 0)
  rw [length] at total
  refine ⟨_, ?_, Cursor.append_slice _ (Buffer.fresh bytes)⟩
  rw [serializePublish_writes _ _ _ _ _ _ _ _ _ (by omega) (by omega),
    intOfSize_of_lt (by omega), plainPublish_encode]

theorem shows_of_short (connected : 0 ≤ fd) (short : 2 + strlen topic + strlen message ≤ 127) :
    ShowsWhatWasSerialized topic message messageId (retainFlag retain) bytes fd sends r := by
  obtain ⟨buffer, written, slice⟩ :=
    serializePublish_plain topic message messageId retain bytes (by omega)
  intro n buffer' eq positive delivered
  rw [written, Prod.mk.injEq, Option.some.injEq] at eq
  obtain ⟨rfl, rfl⟩ := eq
  rw [Int.toNat_natCast, slice]
  have body : (plainPublish topic message messageId retain).body.length < 128 := by
    rw [body_length]
    change 2 + strlen topic + 0 + strlen message < 128
    omega
  have fits : (plainPublish topic message messageId retain).encode.length ≤ 512 := by
    rw [encode_length body]
    omega
  obtain ⟨accesses, -, handled⟩ := handlePublish_shows connected fits sends
    (encode_isPublish _) (encode_inOrder body) r
  refine ⟨accesses, ?_⟩
  rw [handled, answerPublish_silent]
  · rw [shownBy, decodedOf, encode_topicOf body, encode_payloadOf body]
    rfl
  · change qosOf _ ≠ 1
    rw [encode_qosOf]
    exact Nat.zero_ne_one

theorem plainPublish_two_bytes (lower : 128 ≤ 2 + strlen topic + strlen message)
    (upper : 2 + strlen topic + strlen message ≤ 511) :
    (plainPublish topic message messageId retain).encode.length =
      3 + (2 + strlen topic + strlen message) := by
  have digits := Varint.encode_length_eq_two lower (by omega)
  rw [Publish.encode, packet_length, plainPublish_body, plainBody_length, digits]

theorem not_shows_of_long (connected : 0 ≤ fd) (lower : 128 ≤ 2 + strlen topic + strlen message)
    (upper : 2 + strlen topic + strlen message ≤ 509) :
    ¬ShowsWhatWasSerialized topic message messageId (retainFlag retain) bytes fd sends r := by
  obtain ⟨buffer, written, slice⟩ :=
    serializePublish_plain topic message messageId retain bytes (by omega)
  have total := plainPublish_two_bytes topic message messageId retain lower (by omega)
  have open_ : ¬fd < 0 := by omega
  have nonempty : (plainPublish topic message messageId retain).encode ≠ [] :=
    List.length_pos_iff.mp (by omega)
  have whole : (plainPublish topic message messageId retain).encode.take 512 =
      (plainPublish topic message messageId retain).encode :=
    List.take_of_length_le (by omega)
  have delivers : recvResult fd 512 (.data (plainPublish topic message messageId retain).encode) =
      .data (plainPublish topic message messageId retain).encode := by
    simp only [recvResult, if_neg open_, whole, if_neg nonempty]
  have body := plainBody_length topic message messageId
  have misread : ¬InOrder (plainPublish topic message messageId retain).encode := by
    apply encode_not_inOrder
    · rw [plainPublish_body]
      omega
    · rw [plainPublish_body]
      omega
  intro shows
  obtain ⟨accesses, handled⟩ := shows _ buffer written (by omega) (by
    rwa [Int.toNat_natCast, slice])
  rw [Int.toNat_natCast, slice] at handled
  have faults := handlePublish_faults connected nonempty (by omega) sends (encode_isPublish _)
    misread r
  rw [handled] at faults
  cases faults.1

theorem shows_of_undeliverable (connected : 0 ≤ fd)
    (lower : 510 ≤ 2 + strlen topic + strlen message)
    (upper : 2 + strlen topic + strlen message ≤ 511) :
    ShowsWhatWasSerialized topic message messageId (retainFlag retain) bytes fd sends r := by
  obtain ⟨buffer, written, slice⟩ :=
    serializePublish_plain topic message messageId retain bytes upper
  have total := plainPublish_two_bytes topic message messageId retain (by omega) upper
  have open_ : ¬fd < 0 := by omega
  intro n buffer' eq positive one
  rw [written, Prod.mk.injEq, Option.some.injEq] at eq
  obtain ⟨rfl, rfl⟩ := eq
  rw [Int.toNat_natCast, slice, recvResult, if_neg open_] at one
  have cut : ((plainPublish topic message messageId retain).encode.take 512).length = 512 := by
    rw [List.length_take]
    omega
  split at one
  · cases one
  · rw [RecvAnswer.data.injEq] at one
    rw [one] at cut
    omega

theorem shows_of_refused (refused : 512 ≤ 2 + strlen topic + strlen message)
    (bound : 2 + strlen topic + strlen message < 2 ^ 32) :
    ShowsWhatWasSerialized topic message messageId (retainFlag retain) bytes fd sends r := by
  have body := plainBody_length topic message messageId
  intro n buffer eq positive
  rw [serializePublish_refuses _ _ _ _ _ _ _ _ _ (by omega) (by omega), Prod.mk.injEq] at eq
  omega

end Serialized

/-- Encoder and decoder agree as long as the remaining length takes one byte. From 510 on there is
nothing to agree about: the packet does not fit into one read, or is not made at all. -/
theorem showsWhatWasSerialized_iff (topic message : CString) (topicBound : strlen topic ≤ 255)
    (messageBound : strlen message ≤ 255) (messageId : UInt16) (retain : Bool)
    (bytes : Nat → UInt8) (fd : Int) (connected : 0 ≤ fd) (sends : List Int) (r : Receiver) :
    ShowsWhatWasSerialized topic message messageId (retainFlag retain) bytes fd sends r ↔
      2 + strlen topic + strlen message ≤ 127 ∨ 510 ≤ 2 + strlen topic + strlen message := by
  by_cases short : 2 + strlen topic + strlen message ≤ 127
  · exact iff_of_true (shows_of_short _ _ _ _ _ _ _ _ connected short) (Or.inl short)
  by_cases long : 2 + strlen topic + strlen message ≤ 509
  · exact iff_of_false (not_shows_of_long _ _ _ _ _ _ _ _ connected (by omega) long) (by omega)
  by_cases refused : 512 ≤ 2 + strlen topic + strlen message
  · exact iff_of_true (shows_of_refused _ _ _ _ _ _ _ _ refused (by omega)) (Or.inr (by omega))
  · exact iff_of_true (shows_of_undeliverable _ _ _ _ _ _ _ _ connected (by omega) (by omega))
      (Or.inr (by omega))

theorem not_shows_128 :
    ¬ShowsWhatWasSerialized (CString.letters 1) (CString.letters 125) 1 (retainFlag false)
      (fun _ => 0) 3 [] ⟨Net.empty, [], []⟩ :=
  not_shows_of_long _ _ _ _ _ _ _ _ (by decide) (by simp) (by simp)

theorem showsWhatWasSerialized_127 :
    ShowsWhatWasSerialized (CString.letters 1) (CString.letters 124) 1 (retainFlag false)
      (fun _ => 0) 3 [] ⟨Net.empty, [], []⟩ :=
  (showsWhatWasSerialized_iff (CString.letters 1) (CString.letters 124) (by simp) (by simp)
    1 false (fun _ => 0) 3 (by decide) [] ⟨Net.empty, [], []⟩).mpr (Or.inl (by simp))

end Dpubsub.Proof
