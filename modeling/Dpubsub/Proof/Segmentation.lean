import Dpubsub.Proof.RoundTrip
import Dpubsub.Proof.SendLoop

/-!
# `handle_publish` on a stream cut into reads

A read is handled on its own. When the reads show what the packets contain, the first read starts
at the first packet and so must end where that packet ends: a later read that starts inside a packet
can never make up for the bytes it has lost.
-/

namespace Dpubsub.Proof
open Dpubsub.Lib Dpubsub.Model Dpubsub.Spec

instance (chunk : List UInt8) : Decidable (IsPublish chunk) := inferInstanceAs (Decidable (_ = _))

def Handled (chunk : List UInt8) : Prop := IsPublish chunk → InOrder chunk

def shownOf (chunk : List UInt8) : List (List UInt8 × List UInt8) :=
  if IsPublish chunk then [(topicOf chunk, payloadOf chunk)] else []

def pubacksOf (chunk : List UInt8) : List (List UInt8) :=
  if IsPublish chunk ∧ qosOf chunk = 1 then [pubackPacket (messageIdOf chunk)] else []

def Answered (sends : List Int) : Prop := 4 ≤ sends.length ∧ ∀ answer ∈ sends, answer ≠ 0

def sentPackets (r : Receiver) : List (List UInt8) := r.net.transfers.map Transfer.packet

section Reads
variable {fd : Int} {chunk : List UInt8} {sends : List Int}

theorem sentPackets_answerPublish (fd : Int) (sends : List Int) (message : Decoded)
    (r : Receiver) :
    sentPackets (answerPublish fd message sends r).2 = sentPackets r ++
      if message.qos = 1 then [pubackPacket message.messageId] else [] := by
  by_cases once : message.qos = 1
  · rw [answerPublish_acknowledges once, if_pos once]
    simp only [sentPackets, acknowledgedBy, shownBy, Net.transfer, List.map_append, List.map_cons,
      List.map_nil]
    rfl
  · rw [answerPublish_silent once, if_neg once, List.append_nil]
    rfl

theorem answerPublish_answers (fd : Int) (answered : Answered sends) (message : Decoded)
    (r : Receiver) :
    ∃ r', answerPublish fd message sends r = (.ret 0, r') ∧
      r'.shown = r.shown ++ [(message.topic, message.payload)] ∧
      sentPackets r' = sentPackets r ++
        if message.qos = 1 then [pubackPacket message.messageId] else [] := by
  have packets := sentPackets_answerPublish fd sends message r
  by_cases once : message.qos = 1
  · have sent : Sent 4 (sendLoop fd 4 0 sends) :=
      sendLoop_sent sends (Nat.zero_le 4) (by decide)
    have returns : (sendLoop fd 4 0 sends).2 ≠ .pending :=
      sendLoop_returns sends (Nat.zero_le 4) (by decide) answered.2 answered.1
    rw [answerPublish_acknowledges once] at packets ⊢
    refine ⟨_, Prod.ext ?_ rfl, rfl, packets⟩
    generalize sendLoop fd 4 0 sends = result at sent returns
    cases sent with
    | whole calls all => rfl
    | cut calls part => rfl
    | waiting calls part => exact absurd rfl returns
  · rw [answerPublish_silent once] at packets ⊢
    exact ⟨_, rfl, rfl, packets⟩

theorem handlePublish_handles (connected : 0 ≤ fd) (nonempty : chunk ≠ [])
    (fits : chunk.length ≤ 512) (answered : Answered sends) (handled : Handled chunk)
    (r : Receiver) : ∃ r', handlePublish fd (.data chunk) sends r = (.ret 0, r') ∧
      r'.shown = r.shown ++ shownOf chunk ∧ sentPackets r' = sentPackets r ++ pubacksOf chunk := by
  by_cases publish : IsPublish chunk
  · obtain ⟨accesses, -, shows⟩ :=
      handlePublish_shows connected fits sends publish (handled publish) r
    obtain ⟨r', answers, shown, sent⟩ :=
      answerPublish_answers fd answered (decodedOf chunk) (withAccesses r accesses)
    refine ⟨r', shows.trans answers, ?_, ?_⟩
    · rw [shown, shownOf, if_pos publish]
      rfl
    · rw [sent, pubacksOf]
      simp only [publish, true_and]
      rfl
  · obtain ⟨accesses, -, ignored⟩ :=
      handlePublish_ignores connected nonempty fits sends publish r
    refine ⟨_, ignored, ?_, ?_⟩
    · simp [shownOf, publish, withAccesses]
    · simp [pubacksOf, publish, withAccesses, sentPackets]

structure Readable (read : List UInt8 × List Int) : Prop where
  nonempty : read.1 ≠ []
  fits : read.1.length ≤ 512
  answered : Answered read.2

variable {reads : List (List UInt8 × List Int)}

theorem pollPublish_returns (connected : 0 ≤ fd) (readable : ∀ read ∈ reads, Readable read)
    (handled : ∀ read ∈ reads, Handled read.1) (r : Receiver) :
    ∃ r', pollPublish fd reads r = (.ret (), r') ∧
      r'.shown = r.shown ++ (reads.map Prod.fst).flatMap shownOf ∧
      sentPackets r' = sentPackets r ++ (reads.map Prod.fst).flatMap pubacksOf := by
  induction reads generalizing r with
  | nil => exact ⟨r, rfl, by simp, by simp⟩
  | cons read reads ih =>
      have here := readable read (by simp)
      obtain ⟨r', first, shown, sent⟩ := handlePublish_handles connected here.nonempty here.fits
        here.answered (handled read (by simp)) r
      obtain ⟨r'', others, shown', sent'⟩ := ih (fun x hx => readable x (by simp [hx]))
        (fun x hx => handled x (by simp [hx])) r'
      refine ⟨r'', ?_, ?_, ?_⟩
      · rw [pollPublish, Prog.bind_ret first, if_neg (by decide)]
        exact others
      · rw [shown', shown, List.append_assoc, List.map_cons, List.flatMap_cons]
      · rw [sent', sent, List.append_assoc, List.map_cons, List.flatMap_cons]

theorem pollPublish_faults (connected : 0 ≤ fd) (readable : ∀ read ∈ reads, Readable read)
    (bad : ∃ read ∈ reads, ¬Handled read.1) (r : Receiver) :
    (pollPublish fd reads r).1 = .undefined := by
  induction reads generalizing r with
  | nil => simp at bad
  | cons read reads ih =>
      have here := readable read (by simp)
      by_cases handled : Handled read.1
      · obtain ⟨r', first, -⟩ := handlePublish_handles connected here.nonempty here.fits
          here.answered handled r
        rw [pollPublish, Prog.bind_ret first, if_neg (by decide)]
        apply ih fun x hx => readable x (by simp [hx])
        obtain ⟨x, member, notHandled⟩ := bad
        rcases List.mem_cons.mp member with rfl | later
        · exact absurd handled notHandled
        · exact ⟨x, later, notHandled⟩
      · unfold Handled at handled
        push Not at handled
        have faults := (handlePublish_faults connected here.nonempty here.fits read.2 handled.1
          handled.2 r).1
        rcases outcome : handlePublish fd (.data read.1) read.2 r with ⟨o, r'⟩
        rw [outcome] at faults
        obtain rfl : o = .undefined := faults
        rw [pollPublish, Prog.bind_undefined outcome]

end Reads

def stream (packets : List Publish) : List UInt8 := (packets.map Publish.encode).flatten

def contentsOf (p : Publish) : List UInt8 × List UInt8 := (p.topic, p.payload)

section Stream
variable {chunk : List UInt8} {chunks : List (List UInt8)} {p : Publish} {packets : List Publish}
  {d : Nat}

theorem stream_cons (p : Publish) (packets : List Publish) :
    stream (p :: packets) = p.encode ++ stream packets := rfl

theorem byteAt_append_left {xs : List UInt8} (ys : List UInt8) {i : Nat} (h : i < xs.length) :
    byteAt (xs ++ ys) i = byteAt xs i := List.getD_append _ _ _ _ h

theorem byteAt_drop (xs : List UInt8) (d i : Nat) : byteAt (xs.drop d) i = byteAt xs (d + i) := by
  simp [byteAt]

theorem shownOf_encode (short : p.body.length < 128) : shownOf p.encode = [contentsOf p] := by
  rw [shownOf, if_pos (encode_isPublish p), encode_topicOf short, encode_payloadOf short]
  rfl

theorem flatMap_shownOf (short : ∀ p ∈ packets, p.body.length < 128) :
    (packets.map Publish.encode).flatMap shownOf = packets.map contentsOf := by
  induction packets with
  | nil => rfl
  | cons p packets ih =>
      rw [List.map_cons, List.flatMap_cons, shownOf_encode (short p (by simp)),
        ih fun q hq => short q (by simp [hq])]
      rfl

theorem InOrder.length_shown (order : InOrder chunk) :
    4 + (topicOf chunk).length + (payloadOf chunk).length ≤ chunk.length := by
  have header := order.header
  have payload := order.payload
  have whole := order.whole
  have start : payloadStartOf chunk = 4 + topicLengthOf chunk + idLengthOf chunk := rfl
  rw [topicOf, payloadOf, List.length_take, List.length_take, List.length_drop, List.length_drop]
  omega

theorem encode_length_le (short : p.body.length < 128) :
    p.encode.length ≤ 6 + p.topic.length + p.payload.length := by
  have length := body_length p
  have id := idField_length p
  rw [encode_length short]
  split at id <;> omega

theorem four_le_encode_length (short : p.body.length < 128) : 4 ≤ p.encode.length := by
  have length := body_length p
  rw [encode_length short]
  omega

theorem three_le_of_inside (short : p.body.length < 128) (inside : 1 ≤ d) (rest : List UInt8)
    (cut : ∀ i < chunk.length, byteAt chunk i = byteAt (p.encode ++ rest) (d + i))
    (publish : IsPublish chunk) (order : InOrder chunk) : 3 ≤ d := by
  have header := order.header
  have long := four_le_encode_length short
  have zero : byteAt (p.encode ++ rest) 2 = 0 := by
    rw [byteAt_append_left _ (by omega), encode_topicLengthHigh short]
  by_contra before
  obtain rfl | rfl : d = 1 ∨ d = 2 := by omega
  · have empty : byteAt chunk 1 = 0 := (cut 1 (by omega)).trans zero
    have payload := order.payload
    have start : payloadStartOf chunk = 4 + topicLengthOf chunk + idLengthOf chunk := rfl
    rw [empty, UInt8.toNat_zero] at payload
    omega
  · have type : byteAt chunk 0 = 0 := (cut 0 (by omega)).trans zero
    rw [IsPublish, type] at publish
    exact absurd publish (by decide)

theorem passes_packet (short : p.body.length < 128) (inside : 1 ≤ d) {rest tail : List UInt8}
    (cut : chunk ++ tail = (p.encode ++ rest).drop d) (publish : IsPublish chunk)
    (order : InOrder chunk) (topic : topicOf chunk = p.topic)
    (payload : payloadOf chunk = p.payload) : p.encode.length < d + chunk.length := by
  have behind : 3 ≤ d := by
    apply three_le_of_inside short inside rest _ publish order
    intro i hi
    rw [← byteAt_drop, ← cut, byteAt_append_left _ hi]
  have room := order.length_shown
  have size := encode_length_le short
  rw [topic, payload] at room
  omega

theorem misaligned_shows_other (short : ∀ p ∈ packets, p.body.length < 128)
    (handled : ∀ c ∈ chunks, Handled c) (cut : chunks.flatten = (stream packets).drop d)
    (inside : 1 ≤ d) (within : d ≤ (stream packets).length) :
    chunks.flatMap shownOf ≠ packets.map contentsOf := by
  induction chunks generalizing packets d with
  | nil =>
      intro same
      have none : packets = [] := List.map_eq_nil_iff.mp same.symm
      rw [none] at within
      exact absurd (inside.trans within) (by decide)
  | cons c cs ih =>
      have length := congrArg List.length cut
      rw [List.flatten_cons, List.length_append, List.length_drop] at length
      have next : cs.flatten = (stream packets).drop (d + c.length) := by
        rw [← List.drop_drop, ← cut, List.flatten_cons, List.drop_left]
      by_cases publish : IsPublish c
      · cases packets with
        | nil => exact absurd (inside.trans within) (by decide)
        | cons p packets =>
            intro same
            rw [List.flatMap_cons, shownOf, if_pos publish, List.singleton_append, List.map_cons,
              List.cons.injEq] at same
            obtain ⟨shown, same⟩ := same
            have passes : p.encode.length < d + c.length :=
              passes_packet (short p (by simp)) inside cut publish (handled c (by simp) publish)
                (congrArg Prod.fst shown) (congrArg Prod.snd shown)
            have later : cs.flatten = (stream packets).drop (d + c.length - p.encode.length) := by
              rw [next, stream_cons, List.drop_append, List.drop_eq_nil_of_le passes.le,
                List.nil_append]
            rw [stream_cons, List.length_append] at length within
            exact ih (fun q hq => short q (by simp [hq])) (fun x hx => handled x (by simp [hx]))
              later (by omega) (by omega) same
      · rw [List.flatMap_cons, shownOf, if_neg publish, List.nil_append]
        exact ih short (fun x hx => handled x (by simp [hx])) next (by omega) (by omega)

theorem covers_first (short : p.body.length < 128) (nonempty : chunk ≠ [])
    (handled : Handled chunk) {rest tail : List UInt8} (cut : chunk ++ tail = p.encode ++ rest) :
    IsPublish chunk ∧ p.encode.length ≤ chunk.length := by
  have long := four_le_encode_length short
  have total := encode_length short
  have some : 0 < chunk.length := List.length_pos_iff.mpr nonempty
  have bytes : ∀ i < chunk.length, i < p.encode.length → byteAt chunk i = byteAt p.encode i := by
    intro i hc hp
    rw [← byteAt_append_left tail hc, cut, byteAt_append_left _ hp]
  have publish : IsPublish chunk := by
    rw [IsPublish, bytes 0 some (by omega)]
    exact encode_isPublish p
  have order := handled publish
  have header := order.header
  have whole := order.whole
  rw [bytes 1 (by omega) (by omega), encode_remaining short] at whole
  exact ⟨publish, by omega⟩

theorem aligned_of_shows (short : ∀ p ∈ packets, p.body.length < 128)
    (nonempty : ∀ c ∈ chunks, c ≠ []) (handled : ∀ c ∈ chunks, Handled c)
    (cut : chunks.flatten = stream packets)
    (same : chunks.flatMap shownOf = packets.map contentsOf) :
    chunks = packets.map Publish.encode := by
  induction packets generalizing chunks with
  | nil =>
      cases chunks with
      | nil => rfl
      | cons c cs => exact absurd (List.append_eq_nil_iff.mp cut).1 (nonempty c (by simp))
  | cons p packets ih =>
      have shortP := short p (by simp)
      have long := four_le_encode_length shortP
      have length := congrArg List.length cut
      rw [stream_cons, List.length_append] at length
      cases chunks with
      | nil =>
          rw [List.flatten_nil, List.length_nil] at length
          omega
      | cons c cs =>
          rw [stream_cons, List.flatten_cons] at cut
          rw [List.flatten_cons, List.length_append] at length
          obtain ⟨publish, covers⟩ :=
            covers_first shortP (nonempty c (by simp)) (handled c (by simp)) cut
          rw [List.flatMap_cons, shownOf, if_pos publish, List.singleton_append, List.map_cons,
            List.cons.injEq] at same
          rcases covers.eq_or_lt with exact | longer
          · obtain ⟨rfl, rest⟩ := List.append_inj cut exact.symm
            rw [List.map_cons, ih (fun q hq => short q (by simp [hq]))
              (fun x hx => nonempty x (by simp [hx])) (fun x hx => handled x (by simp [hx])) rest
              same.2]
          · have rest : cs.flatten = (stream packets).drop (c.length - p.encode.length) := by
              have dropped := congrArg (List.drop c.length) cut
              rwa [List.drop_left, List.drop_append, List.drop_eq_nil_of_le longer.le,
                List.nil_append] at dropped
            exact absurd same.2 (misaligned_shows_other (fun q hq => short q (by simp [hq]))
              (fun x hx => handled x (by simp [hx])) rest (by omega) (by omega))

end Stream

/-- The loop has gone through the reads, and has shown and sent what it does when each packet
arrives alone. -/
structure SameAsAlone (cut alone : Outcome Unit × Receiver) : Prop where
  returns : cut.1 = .ret ()
  shown : cut.2.shown = alone.2.shown
  pubacks : sentPackets cut.2 = sentPackets alone.2

section Reads
variable {packets : List Publish} {reads : List (List UInt8 × List Int)}

theorem encode_of_read (aligned : reads.map Prod.fst = packets.map Publish.encode)
    {read : List UInt8 × List Int} (member : read ∈ reads) : ∃ p ∈ packets, p.encode = read.1 := by
  have mapped : read.1 ∈ packets.map Publish.encode := aligned ▸ List.mem_map_of_mem member
  exact List.mem_map.mp mapped

theorem handled_of_aligned (short : ∀ p ∈ packets, p.body.length < 128)
    (aligned : reads.map Prod.fst = packets.map Publish.encode) : ∀ read ∈ reads, Handled read.1 := by
  intro read member
  obtain ⟨p, inPackets, bytes⟩ := encode_of_read aligned member
  rw [← bytes]
  exact fun _ => encode_inOrder (short p inPackets)

theorem readable_of_aligned (short : ∀ p ∈ packets, p.body.length < 128)
    (aligned : reads.map Prod.fst = packets.map Publish.encode)
    (answered : ∀ read ∈ reads, Answered read.2) : ∀ read ∈ reads, Readable read := by
  intro read member
  obtain ⟨p, inPackets, bytes⟩ := encode_of_read aligned member
  have length := encode_length (short p inPackets)
  have bound := short p inPackets
  refine ⟨?_, ?_, answered read member⟩
  · rw [← bytes]
    exact List.length_pos_iff.mp (by omega)
  · rw [← bytes]
    omega

theorem aligned_of_handled (short : ∀ p ∈ packets, p.body.length < 128)
    (readable : ∀ read ∈ reads, Readable read) (handled : ∀ read ∈ reads, Handled read.1)
    (cut : (reads.map Prod.fst).flatten = (packets.map Publish.encode).flatten)
    (same : (reads.map Prod.fst).flatMap shownOf = packets.map contentsOf) :
    reads.map Prod.fst = packets.map Publish.encode := by
  refine aligned_of_shows short ?_ ?_ cut same
  · intro c member
    obtain ⟨read, inReads, rfl⟩ := List.mem_map.mp member
    exact (readable read inReads).nonempty
  · intro c member
    obtain ⟨read, inReads, rfl⟩ := List.mem_map.mp member
    exact handled read inReads

end Reads

theorem sameAsAlone_iff (fd : Int) (connected : 0 ≤ fd) (packets : List Publish)
    (short : ∀ p ∈ packets, p.body.length ≤ 127) (reads alone : List (List UInt8 × List Int))
    (readable : ∀ read ∈ reads, Readable read)
    (cut : (reads.map Prod.fst).flatten = (packets.map Publish.encode).flatten)
    (each : alone.map Prod.fst = packets.map Publish.encode)
    (answered : ∀ read ∈ alone, Answered read.2) (r : Receiver) :
    SameAsAlone (pollPublish fd reads r) (pollPublish fd alone r) ↔
      reads.map Prod.fst = packets.map Publish.encode := by
  have shorter : ∀ p ∈ packets, p.body.length < 128 := fun p hp => Nat.lt_succ_of_le (short p hp)
  obtain ⟨rAlone, runAlone, shownAlone, sentAlone⟩ := pollPublish_returns connected
    (readable_of_aligned shorter each answered) (handled_of_aligned shorter each) r
  rw [each] at shownAlone sentAlone
  rw [runAlone]
  constructor
  · rintro ⟨returns, shown, -⟩
    have handled : ∀ read ∈ reads, Handled read.1 := by
      by_contra bad
      push Not at bad
      rw [pollPublish_faults connected readable bad r] at returns
      cases returns
    obtain ⟨r', run, shown', -⟩ := pollPublish_returns connected readable handled r
    rw [run] at shown
    have same : (reads.map Prod.fst).flatMap shownOf = packets.map contentsOf := by
      rw [shown', shownAlone, flatMap_shownOf shorter] at shown
      exact List.append_cancel_left shown
    exact aligned_of_handled shorter readable handled cut same
  · intro aligned
    obtain ⟨r', run, shown, sent⟩ := pollPublish_returns connected readable
      (handled_of_aligned shorter aligned) r
    rw [run]
    rw [aligned] at shown sent
    exact ⟨rfl, shown.trans shownAlone.symm, sent.trans sentAlone.symm⟩

def hello : Publish := ⟨false, .atMostOnce, false, [0x61], 0, [0x68, 0x69]⟩

def again : Publish := ⟨false, .atLeastOnce, false, [0x61], 7, [0x79]⟩

theorem hello_encode : hello.encode = [0x30, 0x05, 0x00, 0x01, 0x61, 0x68, 0x69] := by
  rw [encode_short (by decide)]
  rfl

theorem again_encode : again.encode = [0x32, 0x06, 0x00, 0x01, 0x61, 0x00, 0x07, 0x79] := by
  rw [encode_short (by decide)]
  rfl

theorem coalesced_loses :
    ¬SameAsAlone (pollPublish 3 [(hello.encode ++ again.encode, [4, 4, 4, 4])] ⟨Net.empty, [], []⟩)
      (pollPublish 3 [(hello.encode, [4, 4, 4, 4]), (again.encode, [4, 4, 4, 4])]
        ⟨Net.empty, [], []⟩) := by
  rw [hello_encode, again_encode]
  intro same
  exact absurd same.shown (by decide +kernel)

theorem sameAsAlone_hello_again :
    SameAsAlone (pollPublish 3 [(hello.encode, [4, 4, 4, 4]), (again.encode, [4, 4, 4, 4])]
        ⟨Net.empty, [], []⟩)
      (pollPublish 3 [(hello.encode, [4, 4, 4, 4]), (again.encode, [4, 4, 4, 4])]
        ⟨Net.empty, [], []⟩) := by
  refine (sameAsAlone_iff 3 (by decide) [hello, again] ?_ _ _ ?_ rfl rfl ?_ _).mpr rfl
  · simp only [List.forall_mem_cons, List.not_mem_nil, false_implies, implies_true, and_true]
    decide
  · simp only [List.forall_mem_cons, List.not_mem_nil, false_implies, implies_true, and_true,
      hello_encode, again_encode]
    exact ⟨⟨by decide, by decide, by decide, by decide⟩, ⟨by decide, by decide, by decide, by decide⟩⟩
  · simp only [List.forall_mem_cons, List.not_mem_nil, false_implies, implies_true, and_true]
    exact ⟨⟨by decide, by decide⟩, ⟨by decide, by decide⟩⟩

end Dpubsub.Proof
