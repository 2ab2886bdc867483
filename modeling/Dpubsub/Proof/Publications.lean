import Dpubsub.Proof.Dialogue
import Dpubsub.Proof.Segmentation

/-!
# From `client_publish` to `handle_publish`

What one client writes after its CONNECT is read by an application of another process that calls
`handle_publish` for one read after another, in reads that the network cuts at will.
-/

namespace Dpubsub.Proof
open Dpubsub.Lib Dpubsub.Model Dpubsub.Spec

section Stream
variable {fd : Int} {packets : List Publish} {reads : List (List UInt8 × List Int)}

def Silent (packets : List Publish) : Prop := ∀ p ∈ packets, p.qos = .atMostOnce

theorem pubacksOf_silent {p : Publish} (never : p.qos = .atMostOnce) : pubacksOf p.encode = [] := by
  have bits := p.first_bits
  have first : byteAt p.encode 0 = p.first := rfl
  have qos : qosOf p.encode = 0 := by
    rw [qosOf, first, bits.2.2.1, never]
    rfl
  rw [pubacksOf, if_neg fun both => absurd (qos.symm.trans both.2) (by decide)]

theorem flatMap_pubacksOf (silent : Silent packets) :
    (packets.map Publish.encode).flatMap pubacksOf = [] := by
  refine List.flatMap_eq_nil_iff.mpr fun chunk member => ?_
  obtain ⟨p, inPackets, rfl⟩ := List.mem_map.mp member
  exact pubacksOf_silent (silent p inPackets)

/-- Every packet is shown once and in order, and no reply is made. -/
structure ShowsAll (packets : List Publish) (r : Receiver) (result : Outcome Unit × Receiver) :
    Prop where
  returns : result.1 = .ret ()
  shown : result.2.shown = r.shown ++ packets.map contentsOf
  silent : sentPackets result.2 = sentPackets r

theorem showsAll_iff (connected : 0 ≤ fd) (short : ∀ p ∈ packets, p.body.length < 128)
    (silent : Silent packets) (readable : ∀ read ∈ reads, Readable read)
    (cut : (reads.map Prod.fst).flatten = (packets.map Publish.encode).flatten) (r : Receiver) :
    ShowsAll packets r (pollPublish fd reads r) ↔
      reads.map Prod.fst = packets.map Publish.encode := by
  constructor
  · intro shows
    have handled : ∀ read ∈ reads, Handled read.1 := by
      by_contra bad
      push Not at bad
      have faults := pollPublish_faults connected readable bad r
      rw [shows.returns] at faults
      cases faults
    obtain ⟨r', run, shown, -⟩ := pollPublish_returns connected readable handled r
    have same := shows.shown
    rw [run, shown] at same
    exact aligned_of_handled short readable handled cut (List.append_cancel_left same)
  · intro aligned
    obtain ⟨r', run, shown, sent⟩ := pollPublish_returns connected readable
      (handled_of_aligned short aligned) r
    rw [aligned, flatMap_shownOf short] at shown
    rw [aligned, flatMap_pubacksOf silent, List.append_nil] at sent
    rw [run]
    exact ⟨rfl, shown, sent⟩

end Stream

structure Publication where
  topic : CString
  message : CString
  messageId : UInt16
  retain : UInt8
  dup : UInt8
  stack : Nat → UInt8
  sends : List Int

namespace Publication

def call (p : Publication) : ClientCall :=
  .call (.clientPublish (some p.topic) (some p.message) p.messageId p.retain p.dup p.stack p.sends)

def packet (p : Publication) : Publish :=
  ⟨p.dup = 1, .atMostOnce, p.retain.toNat % 2 = 1, p.topic.bytes, 0, p.message.bytes⟩

def Short (p : Publication) : Prop := 2 + strlen p.topic + strlen p.message ≤ 127

theorem body_short {p : Publication} (short : p.Short) : p.packet.body.length < 128 := by
  have length := publishBody_length p.topic p.message 0 0
  rw [if_neg (by decide), Nat.add_zero] at length
  change (publishBody p.topic p.message 0 0).length < 128
  rw [length]
  exact Nat.lt_succ_of_le short

end Publication

def publishing (a : ConnectAnswers) (stack : Nat → UInt8) (sends : List Int)
    (published : List Publication) : List ClientCall :=
  .call (.clientConnect a stack sends) :: published.map Publication.call

section Publishing
variable {published : List Publication} {t : Talk} {k : Nat}

variable (published) in
theorem talk_publishes (latest : t.dialogue.opened = k + 1) :
    ((published.map Publication.call).foldl (fun t c => Talk.step c t) t).dialogue.on k =
      t.dialogue.on k ++ published.map fun p => .control (.publish p.packet) := by
  induction published generalizing t with
  | nil => exact (List.append_nil _).symm
  | cons p published ih =>
      have here : t.dialogue.opened - 1 = k := Nat.sub_eq_of_eq_add latest
      have said : (Talk.step p.call t).dialogue.on k =
          t.dialogue.on k ++ [.control (.publish p.packet)] := by
        change (t.dialogue.say _).on k = _
        rw [Dialogue.on_say, if_pos here]
        rfl
      rw [List.map_cons, List.foldl_cons, ih (t := Talk.step p.call t) latest, said,
        List.append_assoc]
      rfl

theorem publishing_stream {config : Config} {bufferSize : Nat} {before w : World}
    (created : Created config bufferSize before w) {a : ConnectAnswers} {stack : Nat → UInt8}
    {sends : List Int}
    (succeed : Prog.Meets ClientCall.exec Succeeds (publishing a stack sends published) w) :
    streamOn (Prog.run ClientCall.exec (publishing a stack sends published) w).net w.net.opened =
      (connectOf (Talk.of w).clientId (Talk.of w).keepAlive).encode ++
        (published.map fun p => p.packet.encode).flatten := by
  have simulates := run_simulates_talk created succeed
  have said := talk_publishes published
    (t := Talk.step (.call (.clientConnect a stack sends)) (Talk.of w)) (k := w.net.opened) rfl
  have first : (Talk.step (.call (.clientConnect a stack sends)) (Talk.of w)).dialogue.on
      w.net.opened = [connectOf (Talk.of w).clientId (Talk.of w).keepAlive] := by
    change ((Talk.of w).dialogue.connect _).on w.net.opened = _
    rw [Dialogue.on_connect]
    simp [Talk.of, Dialogue.start, Dialogue.on]
  rw [simulates.carries.stream, publishing, List.foldl_cons, said, first, List.flatMap_append,
    List.flatMap_singleton, List.flatMap_map]
  rfl

/-- The strings of an application hold no 0 byte, so that `printf` shows them as they were published. -/
theorem ShowsAll.printed {r : Receiver} {result : Outcome Unit × Receiver}
    (shows : ShowsAll (published.map Publication.packet) r result) :
    result.2.printed = r.printed ++ published.map fun p => (p.topic.bytes, p.message.bytes) := by
  rw [Receiver.printed, shows.shown, List.map_append, List.map_map, List.map_map]
  congr 1
  apply List.map_congr_left
  intro p _
  change (untilNul p.topic.bytes, untilNul p.message.bytes) = _
  rw [untilNul_string, untilNul_string]

theorem published_shown_iff (config : Config) (bufferSize : Nat) (before w : World)
    (created : Created config bufferSize before w) (a : ConnectAnswers) (stack : Nat → UInt8)
    (sends : List Int) (published : List Publication) (short : ∀ p ∈ published, p.Short)
    (succeed : Prog.Meets ClientCall.exec Succeeds (publishing a stack sends published) w)
    (fd : Int) (connected : 0 ≤ fd) (reads : List (List UInt8 × List Int))
    (readable : ∀ read ∈ reads, Readable read)
    (cut : streamOn (Prog.run ClientCall.exec (publishing a stack sends published) w).net
        w.net.opened =
      (connectOf (Talk.of w).clientId (Talk.of w).keepAlive).encode ++
        (reads.map Prod.fst).flatten) (r : Receiver) :
    (ShowsAll (published.map Publication.packet) r (pollPublish fd reads r) ↔
      reads.map Prod.fst = published.map fun p => p.packet.encode) ∧
    (ShowsAll (published.map Publication.packet) r (pollPublish fd reads r) →
      (pollPublish fd reads r).2.printed =
        r.printed ++ published.map fun p => (p.topic.bytes, p.message.bytes)) := by
  refine ⟨?_, ShowsAll.printed⟩
  rw [publishing_stream created succeed] at cut
  have bytes := List.append_cancel_left cut
  have encoded : (published.map Publication.packet).map Publish.encode =
      published.map fun p => p.packet.encode := List.map_map
  rw [← encoded] at bytes ⊢
  refine showsAll_iff connected (fun p member => ?_) (fun p member => ?_) readable bytes.symm r
  · obtain ⟨q, inPublished, rfl⟩ := List.mem_map.mp member
    exact Publication.body_short (short q inPublished)
  · obtain ⟨q, -, rfl⟩ := List.mem_map.mp member
    rfl

end Publishing

def hiThere : Publication := ⟨CString.letters 1, CString.letters 2, 1, 0, 0, fun _ => 0, [3, 4]⟩

theorem twice_succeeds : Prog.Meets ClientCall.exec Succeeds
    (publishing connectsTo3 (fun _ => 0) [100] [hiThere, hiThere]) sampleClient := by
  refine ⟨⟨sampleClient_connects, ⟨⟨[0x63], by decide⟩, ?_, ?_⟩, ?_⟩, fun _ _ =>
    ⟨⟨?_, ⟨_, _, rfl, rfl, ?_⟩, Or.inl rfl, ?_⟩, fun _ _ =>
      ⟨⟨?_, ⟨_, _, rfl, rfl, ?_⟩, Or.inl rfl, ?_⟩, fun _ _ => trivial⟩⟩⟩
  · decide +kernel
  · decide
  · decide +kernel
  · decide +kernel
  · simp [hiThere]
  · decide +kernel
  · decide +kernel
  · simp [hiThere]
  · decide +kernel

theorem published_shown_twice :
    (pollPublish 3 [(hiThere.packet.encode, [4, 4, 4, 4]), (hiThere.packet.encode, [4, 4, 4, 4])]
      ⟨Net.empty, [], []⟩).2.printed = [([0x61], [0x61, 0x61]), ([0x61], [0x61, 0x61])] := by
  have length : hiThere.packet.encode.length = 7 := by
    rw [encode_length (by decide)]
    decide
  have short : ∀ p ∈ [hiThere, hiThere], p.Short := by simp [Publication.Short, hiThere]
  have readable : ∀ read ∈ [(hiThere.packet.encode, [4, 4, 4, 4]),
      (hiThere.packet.encode, [(4 : Int), 4, 4, 4])], Readable read := by
    rintro read member
    rcases List.mem_pair.mp member with rfl | rfl <;>
      exact ⟨List.length_pos_iff.mp (by rw [length]; decide), by rw [length]; decide, by decide,
        by decide⟩
  obtain ⟨whole, printed⟩ := published_shown_iff sampleConfig 256 sampleWorld sampleClient
    sampleClient_created connectsTo3 (fun _ => 0) [100] [hiThere, hiThere] short twice_succeeds 3
    (by decide) _ readable (publishing_stream sampleClient_created twice_succeeds)
    ⟨Net.empty, [], []⟩
  exact printed (whole.mpr rfl)

end Dpubsub.Proof
