import Dpubsub.Model.Exchange
import Dpubsub.Proof.Segmentation

/-!
# What `handle_publish` answers to a short PUBLISH
-/

namespace Dpubsub.Proof
open Dpubsub.Lib Dpubsub.Model Dpubsub.Spec

section Append
variable {xs : List UInt8} (ys : List UInt8)

theorem qosOf_append (order : InOrder xs) : qosOf (xs ++ ys) = qosOf xs := by
  have header := order.header
  rw [qosOf, qosOf, byteAt_append_left ys (by omega)]

theorem topicLengthOf_append (order : InOrder xs) : topicLengthOf (xs ++ ys) = topicLengthOf xs := by
  have header := order.header
  rw [topicLengthOf, topicLengthOf, byteAt_append_left ys (by omega),
    byteAt_append_left ys (by omega)]

theorem payloadStartOf_append (order : InOrder xs) :
    payloadStartOf (xs ++ ys) = payloadStartOf xs := by
  rw [payloadStartOf, payloadStartOf, idLengthOf, idLengthOf, qosOf_append ys order,
    topicLengthOf_append ys order]

theorem inOrder_append (order : InOrder xs) : InOrder (xs ++ ys) := by
  have header := order.header
  have payload := order.payload
  have whole := order.whole
  have remaining : byteAt (xs ++ ys) 1 = byteAt xs 1 := byteAt_append_left ys (by omega)
  refine ⟨?_, ?_, ?_⟩
  · rw [List.length_append]
    omega
  · rwa [payloadStartOf_append ys order, remaining]
  · rw [remaining, List.length_append]
    omega

theorem isPublish_append (publish : IsPublish xs) (order : InOrder xs) : IsPublish (xs ++ ys) := by
  have header := order.header
  rwa [IsPublish, byteAt_append_left ys (by omega)]

theorem messageIdOf_append (order : InOrder xs) : messageIdOf (xs ++ ys) = messageIdOf xs := by
  have payload := order.payload
  have whole := order.whole
  rw [messageIdOf, messageIdOf, qosOf_append ys order, topicLengthOf_append ys order]
  split
  · have start : payloadStartOf xs = 4 + topicLengthOf xs + 2 := by
      rw [payloadStartOf, idLengthOf, if_pos ‹_›]
    rw [byteAt_append_left ys (by omega), byteAt_append_left ys (by omega)]
  · rfl

theorem topicOf_append (order : InOrder xs) : topicOf (xs ++ ys) = topicOf xs := by
  have payload := order.payload
  have whole := order.whole
  have start : payloadStartOf xs = 4 + topicLengthOf xs + idLengthOf xs := rfl
  rw [topicOf, topicOf, topicLengthOf_append ys order, List.drop_append_of_le_length order.header,
    List.take_append_of_le_length]
  rw [List.length_drop]
  omega

theorem payloadOf_append (order : InOrder xs) : payloadOf (xs ++ ys) = payloadOf xs := by
  have header := order.header
  have payload := order.payload
  have whole := order.whole
  rw [payloadOf, payloadOf, payloadStartOf_append ys order, byteAt_append_left ys (by omega),
    List.drop_append_of_le_length (by omega), List.take_append_of_le_length]
  rw [List.length_drop]
  omega

end Append

theorem idField_acknowledged {p : Publish} (once : p.qos = .atLeastOnce) :
    p.idField = Spec.short p.packetId.toNat := by
  rw [Publish.idField, once]
  rfl

theorem encode_messageIdOf {p : Publish} (once : p.qos = .atLeastOnce) (short : p.body.length < 128) :
    messageIdOf p.encode =
      shortOf (UInt8.ofNat (p.packetId.toNat / 256)) (UInt8.ofNat p.packetId.toNat) := by
  have bytes : ∀ i, byteAt p.encode (4 + p.topic.length + i) =
      byteAt (Spec.short p.packetId.toNat ++ p.payload) i := by
    intro i
    have start : 4 + p.topic.length + i = p.topic.length + i + 1 + 1 + 1 + 1 := by omega
    rw [encode_short short, idField_acknowledged once, start]
    simp [byteAt, List.getElem?_append_right]
  rw [messageIdOf, encode_qosOf, once,
    if_pos (by decide : QoS.atLeastOnce.value > 0), encode_topicLengthOf short]
  exact congrArg₂ shortOf (bytes 0) (bytes 1)

theorem pubackPacket_eq (id : Nat) : pubackPacket id = [0x40, 0x02] ++ Spec.short id := by
  rw [pubackPacket, toChar_and_255, toChar_and_255, Nat.shiftRight_eq_div_pow]
  rfl

theorem short_shortOf (high low : UInt8) :
    Spec.short (shortOf high low) = [if low.toNat < 128 then high else 0xFF, low] := by
  have highBound := high.toNat_lt
  have lowBound := low.toNat_lt
  have bytes : ∀ (n : Nat) (a : UInt8), n % 256 = a.toNat → UInt8.ofNat n = a := by
    intro n a eq
    rw [← UInt8.toNat_inj, UInt8.toNat_ofNat']
    exact eq
  by_cases small : low.toNat < 128
  · rw [if_pos small, shortOf_of_lt small, Spec.short, bytes _ high (by omega),
      bytes _ low (by omega)]
  · rw [if_neg small, shortOf_of_ge (Nat.le_of_not_lt small), Spec.short,
      bytes _ 0xFF (by change _ = 255; omega), bytes _ low (by omega)]

section Answer
variable {fd : Int} {p : Publish} {sends : List Int}

theorem replies_acknowledgedBy (whole : (sendLoop fd 4 0 sends).2 = .ret 0) (r : Receiver)
    (message : Decoded) : Exchange.replies (acknowledgedBy r fd message sends) =
      Exchange.replies r ++ [pubackPacket message.messageId] := by
  have all : acceptedBy (sendLoop fd 4 0 sends).1 = 4 :=
    (sendLoop_sent sends (Nat.zero_le 4) (by decide)).whole_iff.mp whole
  simp only [Exchange.replies, acknowledgedBy, Net.transfer, List.map_append, List.map_cons,
    List.map_nil]
  rw [delivered_eq _ fd _ sends (by decide), all]
  rfl

theorem handlePublish_acknowledges (connected : 0 ≤ fd) (once : p.qos = .atLeastOnce)
    (short : p.body.length < 128) (rest : List UInt8) (fits : (p.encode ++ rest).length ≤ 512)
    (r : Receiver) {id : Nat}
    (same : id = shortOf (UInt8.ofNat (p.packetId.toNat / 256)) (UInt8.ofNat p.packetId.toNat)) :
    sentPackets (handlePublish fd (.data (p.encode ++ rest)) sends r).2 =
        sentPackets r ++ [[0x40, 0x02] ++ Spec.short id] ∧
      (accepts 4 sends = true →
        Exchange.replies (handlePublish fd (.data (p.encode ++ rest)) sends r).2 =
          Exchange.replies r ++ [[0x40, 0x02] ++ Spec.short id]) := by
  have order := encode_inOrder short
  obtain ⟨accesses, -, shows⟩ := handlePublish_shows connected fits sends
    (isPublish_append rest (encode_isPublish p) order) (inOrder_append rest order) r
  have qos : (decodedOf (p.encode ++ rest)).qos = 1 := by
    rw [decodedOf, qosOf_append rest order, encode_qosOf, QoS.value_eq_one]
    exact once
  have packet : pubackPacket (decodedOf (p.encode ++ rest)).messageId =
      [0x40, 0x02] ++ Spec.short id := by
    rw [pubackPacket_eq, same, ← encode_messageIdOf once short, ← messageIdOf_append rest order]
    rfl
  rw [shows]
  refine ⟨?_, fun taken => ?_⟩
  · rw [sentPackets_answerPublish, if_pos qos, packet]
    rfl
  · have whole : (sendLoop fd 4 0 sends).2 = .ret 0 :=
      (sendLoop_whole_iff sends (by decide) (by decide)).mpr ⟨connected, taken⟩
    rw [answerPublish_acknowledges qos]
    exact (replies_acknowledgedBy whole _ _).trans (by rw [packet]; rfl)

end Answer

/-- The identifier of a PUBLISH comes back unless its low byte is negative as a `char`, when the high
byte of the answer is 0xFF. -/
theorem handlePublish_echoes_iff (p : Publish) (once : p.qos = .atLeastOnce)
    (short : p.body.length ≤ 127) (rest : List UInt8) (fits : (p.encode ++ rest).length ≤ 512)
    (fd : Int) (connected : 0 ≤ fd) (sends : List Int) (r : Receiver) :
    (sentPackets (handlePublish fd (.data (p.encode ++ rest)) sends r).2 =
        sentPackets r ++ [[0x40, 0x02] ++ p.idField] ↔
      p.packetId.toNat % 256 < 128 ∨ p.packetId.toNat / 256 = 255) ∧
    (accepts 4 sends = true →
      (Exchange.replies (handlePublish fd (.data (p.encode ++ rest)) sends r).2 =
          Exchange.replies r ++ [[0x40, 0x02] ++ p.idField] ↔
        p.packetId.toNat % 256 < 128 ∨ p.packetId.toNat / 256 = 255)) := by
  have low : (UInt8.ofNat p.packetId.toNat).toNat = p.packetId.toNat % 256 := UInt8.toNat_ofNat'
  have high : UInt8.ofNat (p.packetId.toNat / 256) = 0xFF ↔ p.packetId.toNat / 256 = 255 := by
    have bound := p.packetId.toNat_lt
    rw [← UInt8.toNat_inj, UInt8.toNat_ofNat']
    change p.packetId.toNat / 256 % 256 = 255 ↔ _
    omega
  have echoes : [0x40, 0x02] ++ Spec.short (shortOf (UInt8.ofNat (p.packetId.toNat / 256))
        (UInt8.ofNat p.packetId.toNat)) = [0x40, 0x02] ++ p.idField ↔
      p.packetId.toNat % 256 < 128 ∨ p.packetId.toNat / 256 = 255 := by
    rw [List.append_right_inj, idField_acknowledged once, short_shortOf, low, ← high]
    by_cases small : p.packetId.toNat % 256 < 128
    · rw [if_pos small]
      exact iff_of_true rfl (Or.inl small)
    · rw [if_neg small, or_iff_right small, Spec.short, List.cons.injEq]
      exact (and_iff_left rfl).trans eq_comm
  obtain ⟨given, taken⟩ := handlePublish_acknowledges connected once
    (Nat.lt_succ_of_le short) rest fits r rfl
  refine ⟨?_, fun whole => ?_⟩
  · rw [given, List.append_right_inj, List.singleton_inj]
    exact echoes
  · rw [taken whole, List.append_right_inj, List.singleton_inj]
    exact echoes

def withId (packetId : UInt16) : Publish :=
  ⟨false, .atLeastOnce, false, [0x61], packetId, [0x68, 0x69]⟩

theorem puback_of_128 : ¬sentPackets (handlePublish 3 (.data ((withId 128).encode ++ [])) [4]
    ⟨Net.empty, [], []⟩).2 = [[0x40, 0x02, 0x00, 0x80]] := by
  rw [(handlePublish_acknowledges (by decide) rfl (by decide) [] (by
    rw [List.append_nil, encode_length (by decide)]
    decide) _ rfl).1]
  decide +kernel

theorem puback_of_300 : Exchange.replies (handlePublish 3 (.data ((withId 300).encode ++ [])) [4]
    ⟨Net.empty, [], []⟩).2 =
      Exchange.replies ⟨Net.empty, [], []⟩ ++ [[0x40, 0x02] ++ (withId 300).idField] :=
  ((handlePublish_echoes_iff (withId 300) rfl (by decide) [] (by
    rw [List.append_nil, encode_length (by decide)]
    decide) 3 (by decide) [4] ⟨Net.empty, [], []⟩).2 (by decide)).mpr (Or.inl (by decide))

theorem handlePublish_decodes (p : Publish) (short : p.body.length ≤ 127) (fd : Int)
    (connected : 0 ≤ fd) (sends : List Int) (answered : p.qos = .atLeastOnce → Answered sends)
    (net : Net) :
    ∃ r, handlePublish fd (.data p.encode) sends ⟨net, [], []⟩ = (.ret 0, r) ∧
      r.shown = [(p.topic, p.payload)] ∧ SafeAccesses p.encode.length r.accesses ∧
      (p.qos = .atLeastOnce →
        ∃ high low, sentPackets r = sentPackets ⟨net, [], []⟩ ++ [[0x40, 0x02, high, low]] ∧
          (accepts 4 sends = true → Exchange.replies r =
            Exchange.replies ⟨net, [], []⟩ ++ [[0x40, 0x02, high, low]])) ∧
      (p.qos ≠ .atLeastOnce → r.net.transfers = net.transfers) := by
  have small : p.body.length < 128 := Nat.lt_succ_of_le short
  have fits : p.encode.length ≤ 512 := by
    rw [encode_length small]
    omega
  obtain ⟨accesses, ok, shows⟩ := handlePublish_shows connected fits sends (encode_isPublish p)
    (encode_inOrder small) ⟨net, [], []⟩
  have qos : (decodedOf p.encode).qos = p.qos.value := encode_qosOf p
  have topic : (decodedOf p.encode).topic = p.topic := encode_topicOf small
  have payload : (decodedOf p.encode).payload = p.payload := encode_payloadOf small
  have safe : SafeAccesses p.encode.length (answerPublish fd (decodedOf p.encode) sends
      (withAccesses ⟨net, [], []⟩ accesses)).2.accesses := by
    rw [safeAccesses_iff, answerPublish_accesses]
    simpa [withAccesses] using ok
  rw [shows]
  by_cases once : p.qos = .atLeastOnce
  · obtain ⟨r, answers, shown, sent⟩ := answerPublish_answers fd (answered once)
      (decodedOf p.encode) (withAccesses ⟨net, [], []⟩ accesses)
    rw [answers] at safe
    refine ⟨r, answers, ?_, safe, fun _ => ?_, fun other => absurd once other⟩
    · rw [shown, topic, payload]
      rfl
    · obtain ⟨given, taken⟩ := handlePublish_acknowledges connected once small []
        (by rwa [List.append_nil]) ⟨net, [], []⟩ rfl
      rw [List.append_nil, shows, answers] at given taken
      exact ⟨_, _, given, taken⟩
  · have silent : (decodedOf p.encode).qos ≠ 1 := fun one =>
      once (QoS.value_eq_one.mp (qos.symm.trans one))
    rw [answerPublish_silent silent] at safe ⊢
    refine ⟨_, rfl, ?_, safe, fun same => absurd same once, fun _ => rfl⟩
    rw [shownBy, topic, payload]
    rfl

theorem handlePublish_decodes_seven :
    ∃ r, handlePublish 3 (.data (withId 7).encode) [4, 4, 4, 4] ⟨Net.empty, [], []⟩ = (.ret 0, r) ∧
      r.shown = [([0x61], [0x68, 0x69])] ∧ SafeAccesses (withId 7).encode.length r.accesses ∧
      ∃ high low, Exchange.replies r = [[0x40, 0x02, high, low]] := by
  obtain ⟨r, returns, shown, safe, sent, -⟩ := handlePublish_decodes (withId 7) (by decide) 3
    (by decide) [4, 4, 4, 4] (fun _ => ⟨by decide, by decide⟩) Net.empty
  obtain ⟨high, low, -, taken⟩ := sent rfl
  exact ⟨r, returns, shown, safe, high, low, taken (by decide)⟩

end Dpubsub.Proof
