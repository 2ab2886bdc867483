import Dpubsub.Proof.Puback

/-!
# What `handle_publish` accepts

The converse of decoding well-formed packets: a read that is shown starts with a packet of the
format, unless its second byte is no length of one byte or its QoS bits are both set.
-/

namespace Dpubsub.Proof
open Dpubsub.Lib Dpubsub.Model Dpubsub.Spec

section Chunk
variable {chunk : List UInt8}

def remainingOf (chunk : List UInt8) : Nat := (byteAt chunk 1).toNat

def idBytesOf (chunk : List UInt8) : List UInt8 :=
  (chunk.drop (4 + topicLengthOf chunk)).take (idLengthOf chunk)

theorem cons_drop {n : Nat} (within : n < chunk.length) :
    chunk.drop n = byteAt chunk n :: chunk.drop (n + 1) := by
  rw [List.drop_eq_getElem_cons within]
  simp [byteAt, within]

theorem InOrder.topic_length (order : InOrder chunk) :
    (topicOf chunk).length = topicLengthOf chunk := by
  have payload := order.payload
  have whole := order.whole
  have start : payloadStartOf chunk = 4 + topicLengthOf chunk + idLengthOf chunk := rfl
  rw [topicOf, List.length_take, List.length_drop]
  omega

theorem InOrder.field_topic (order : InOrder chunk) :
    field (topicOf chunk) = byteAt chunk 2 :: byteAt chunk 3 :: topicOf chunk := by
  obtain ⟨-, -, low, -, -⟩ := inOrder_iff.mp order
  rw [field, order.topic_length, topicLengthOf, short_shortOf, if_pos low]
  rfl

theorem drop_take_add (bytes : List UInt8) (start m n : Nat) :
    (bytes.drop start).take (m + n) =
      (bytes.drop start).take m ++ (bytes.drop (start + m)).take n := by
  rw [List.take_add, List.drop_drop]

theorem InOrder.body_eq (order : InOrder chunk) : (chunk.drop 2).take (remainingOf chunk) =
    field (topicOf chunk) ++ (idBytesOf chunk ++ payloadOf chunk) := by
  have header := order.header
  have payload := order.payload
  have start : payloadStartOf chunk = 4 + topicLengthOf chunk + idLengthOf chunk := rfl
  have count : remainingOf chunk = 2 + (topicLengthOf chunk + (idLengthOf chunk +
      (remainingOf chunk + 2 - payloadStartOf chunk))) := by
    unfold remainingOf
    omega
  have header : (chunk.drop 2).take 2 = [byteAt chunk 2, byteAt chunk 3] := by
    rw [cons_drop (by omega : 2 < chunk.length), cons_drop (by omega : 2 + 1 < chunk.length)]
    rfl
  rw [order.field_topic, count, drop_take_add, drop_take_add, drop_take_add, header, ← start]
  rfl

def packetOf (chunk : List UInt8) (qos : QoS) : Publish where
  dup := (byteAt chunk 0).toNat / 8 % 2 = 1
  qos := qos
  retain := (byteAt chunk 0).toNat % 2 = 1
  topic := topicOf chunk
  packetId := if qos = .atMostOnce then 0 else
    UInt16.ofNat ((byteAt chunk (4 + topicLengthOf chunk)).toNat * 256 +
      (byteAt chunk (4 + topicLengthOf chunk + 1)).toNat)
  payload := payloadOf chunk

variable {qos : QoS}

theorem short_bytes (high low : UInt8) :
    Spec.short (UInt16.ofNat (high.toNat * 256 + low.toNat)).toNat = [high, low] := by
  have highBound := high.toNat_lt
  have lowBound := low.toNat_lt
  have value : (UInt16.ofNat (high.toNat * 256 + low.toNat)).toNat =
      high.toNat * 256 + low.toNat := UInt16.toNat_ofNat_of_lt (by change _ < 65536; omega)
  have first : (high.toNat * 256 + low.toNat) / 256 = high.toNat := by omega
  have second : UInt8.ofNat (high.toNat * 256 + low.toNat) = low := by
    rw [← UInt8.toNat_inj, UInt8.toNat_ofNat']
    omega
  rw [value, Spec.short, first, second, UInt8.ofNat_toNat]

theorem packetOf_idField (order : InOrder chunk) (bits : qosOf chunk = qos.value) :
    (packetOf chunk qos).idField = idBytesOf chunk := by
  have payload := order.payload
  have whole := order.whole
  have start : payloadStartOf chunk = 4 + topicLengthOf chunk + idLengthOf chunk := rfl
  rw [Publish.idField, idBytesOf]
  by_cases plain : qos = .atMostOnce
  · have none : idLengthOf chunk = 0 := by
      rw [idLengthOf, bits, plain]
      rfl
    rw [none, List.take_zero]
    exact if_pos plain
  · have two : idLengthOf chunk = 2 := by
      rw [idLengthOf, bits, if_pos]
      cases qos with
      | atMostOnce => exact absurd rfl plain
      | atLeastOnce => decide
      | exactlyOnce => decide
    have id : (packetOf chunk qos).packetId =
        UInt16.ofNat ((byteAt chunk (4 + topicLengthOf chunk)).toNat * 256 +
          (byteAt chunk (4 + topicLengthOf chunk + 1)).toNat) := if_neg plain
    have both : (chunk.drop (4 + topicLengthOf chunk)).take 2 =
        [byteAt chunk (4 + topicLengthOf chunk), byteAt chunk (4 + topicLengthOf chunk + 1)] := by
      rw [cons_drop (by omega : 4 + topicLengthOf chunk < chunk.length),
        cons_drop (by omega : 4 + topicLengthOf chunk + 1 < chunk.length)]
      rfl
    rw [two, both, id, short_bytes]
    exact if_neg plain

theorem packetOf_body (order : InOrder chunk) (bits : qosOf chunk = qos.value) :
    (packetOf chunk qos).body = (chunk.drop 2).take (remainingOf chunk) := by
  rw [order.body_eq, ← packetOf_idField order bits, ← List.append_assoc]
  rfl

theorem packetOf_first (publish : IsPublish chunk) (bits : qosOf chunk = qos.value) :
    (packetOf chunk qos).first = byteAt chunk 0 := by
  have bit : ∀ n : Nat, (decide (n % 2 = 1)).toNat = n % 2 := fun n => by
    rcases Nat.mod_two_eq_zero_or_one n with h | h <;> simp [h]
  have bound := (byteAt chunk 0).toNat_lt
  rw [← UInt8.toNat_inj, Publish.first_toNat]
  simp only [packetOf, bit]
  unfold IsPublish at publish
  unfold qosOf at bits
  omega

theorem packetOf_wellFormed (order : InOrder chunk) : (packetOf chunk qos).WellFormed := by
  obtain ⟨-, high, low, -, -⟩ := inOrder_iff.mp order
  refine ⟨?_, fun plain => if_pos plain⟩
  change (topicOf chunk).length < 2 ^ 16
  rw [order.topic_length, topicLengthOf, shortOf_of_lt low, high]
  change 0 * 256 + _ < 2 ^ 16
  omega

theorem packetOf_encode (publish : IsPublish chunk) (order : InOrder chunk)
    (bits : qosOf chunk = qos.value) (small : remainingOf chunk < 128) :
    (packetOf chunk qos).body.length < 128 ∧
      (packetOf chunk qos).encode ++ chunk.drop (remainingOf chunk + 2) = chunk := by
  have header := order.header
  have whole : remainingOf chunk + 2 ≤ chunk.length := order.whole
  have length : (packetOf chunk qos).body.length = remainingOf chunk := by
    rw [packetOf_body order bits, List.length_take, List.length_drop]
    omega
  have second : UInt8.ofNat (remainingOf chunk) = byteAt chunk 1 := UInt8.ofNat_toNat ..
  refine ⟨length.trans_lt small, ?_⟩
  rw [Publish.encode, packet_of_short (length.trans_lt small), length, second,
    packetOf_first publish bits, packetOf_body order bits, List.cons_append, List.cons_append,
    Nat.add_comm, ← List.drop_drop, List.take_append_drop,
    ← cons_drop (by omega : 0 + 1 < chunk.length), ← cons_drop (by omega : 0 < chunk.length)]
  rfl

end Chunk

theorem qos_of_bits {n : Nat} (two : n < 4) (both : n ≠ 3) : ∃ qos : QoS, n = qos.value := by
  obtain rfl | rfl | rfl : n = 0 ∨ n = 1 ∨ n = 2 := by omega
  · exact ⟨.atMostOnce, rfl⟩
  · exact ⟨.atLeastOnce, rfl⟩
  · exact ⟨.exactlyOnce, rfl⟩

section Read
variable {fd : Int} {chunk : List UInt8} {sends : List Int} {r : Receiver}

def Shows (fd : Int) (chunk : List UInt8) (sends : List Int) (r : Receiver)
    (shown : List UInt8 × List UInt8) : Prop :=
  ∃ r', handlePublish fd (.data chunk) sends r = (.ret 0, r') ∧ r'.shown = r.shown ++ [shown]

theorem shows_iff (connected : 0 ≤ fd) (nonempty : chunk ≠ []) (fits : chunk.length ≤ 512)
    (answered : Answered sends) (shown : List UInt8 × List UInt8) :
    Shows fd chunk sends r shown ↔
      (IsPublish chunk ∧ InOrder chunk) ∧ (topicOf chunk, payloadOf chunk) = shown := by
  by_cases handled : Handled chunk
  · obtain ⟨r', returns, after, -⟩ :=
      handlePublish_handles connected nonempty fits answered handled r
    have shows : Shows fd chunk sends r shown ↔ shownOf chunk = [shown] := by
      rw [Shows, returns]
      constructor
      · rintro ⟨_, ⟨⟩, more⟩
        exact List.append_cancel_left (after.symm.trans more)
      · intro same
        exact ⟨r', rfl, same ▸ after⟩
    rw [shows, shownOf]
    by_cases publish : IsPublish chunk
    · rw [if_pos publish, List.singleton_inj]
      exact (and_iff_right ⟨publish, handled publish⟩).symm
    · rw [if_neg publish]
      exact iff_of_false (List.cons_ne_nil _ _).symm fun both => publish both.1.1
  · unfold Handled at handled
    push Not at handled
    have faults := (handlePublish_faults connected nonempty fits sends handled.1 handled.2 r).1
    refine iff_of_false ?_ fun both => handled.2 both.1.2
    rintro ⟨r', returns, -⟩
    rw [returns] at faults
    cases faults

/-- A read is shown, as a packet with a length of one byte and with a QoS, exactly when it starts
with such a packet; what is shown is its topic and its payload. -/
theorem handlePublish_accepts_iff (fd : Int) (connected : 0 ≤ fd) (chunk : List UInt8)
    (nonempty : chunk ≠ []) (fits : chunk.length ≤ 512) (sends : List Int)
    (answered : Answered sends) (r : Receiver) (topic payload : List UInt8) :
    Shows fd chunk sends r (topic, payload) ∧ remainingOf chunk < 128 ∧ qosOf chunk ≠ 3 ↔
      ∃ (p : Publish) (rest : List UInt8), chunk = p.encode ++ rest ∧ p.WellFormed ∧
        p.body.length < 128 ∧ p.topic = topic ∧ p.payload = payload := by
  rw [shows_iff connected nonempty fits answered]
  constructor
  · rintro ⟨⟨⟨publish, order⟩, same⟩, small, both⟩
    obtain ⟨qos, bits⟩ := qos_of_bits (Nat.mod_lt _ (by decide)) both
    obtain ⟨short, bytes⟩ := packetOf_encode publish order bits small
    exact ⟨packetOf chunk qos, _, bytes.symm, packetOf_wellFormed order, short,
      congrArg Prod.fst same, congrArg Prod.snd same⟩
  · rintro ⟨p, rest, rfl, -, short, rfl, rfl⟩
    have order := encode_inOrder short
    have header := order.header
    have remaining : remainingOf (p.encode ++ rest) = p.body.length := by
      rw [remainingOf, byteAt_append_left rest (by omega), encode_remaining short]
    refine ⟨⟨⟨isPublish_append rest (encode_isPublish p) order, inOrder_append rest order⟩, ?_⟩,
      remaining.trans_lt short, ?_⟩
    · rw [topicOf_append rest order, payloadOf_append rest order, encode_topicOf short,
        encode_payloadOf short]
    · rw [qosOf_append rest order, encode_qosOf]
      cases p.qos <;> decide

end Read

theorem handlePublish_accepts_eight :
    ∃ (p : Publish) (rest : List UInt8),
      [0x30, 0x05, 0x00, 0x01, 0x61, 0x68, 0x69, 0x30] = p.encode ++ rest ∧ p.WellFormed ∧
        p.body.length < 128 ∧ p.topic = [0x61] ∧ p.payload = [0x68, 0x69] :=
  (handlePublish_accepts_iff 3 (by decide) [0x30, 0x05, 0x00, 0x01, 0x61, 0x68, 0x69, 0x30]
    (by decide) (by decide) [4, 4, 4, 4] ⟨by decide, by decide⟩ ⟨Net.empty, [], []⟩ [0x61]
    [0x68, 0x69]).mp ⟨(shows_iff (by decide) (by decide) (by decide) ⟨by decide, by decide⟩ _).mpr
      ⟨⟨by decide, inOrder_iff.mpr (by decide)⟩, by decide⟩, by decide, by decide⟩

end Dpubsub.Proof
