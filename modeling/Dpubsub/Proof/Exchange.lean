import Dpubsub.Model.Exchange
import Dpubsub.Proof.Puback

/-!
# At least once, between a broker and an application that polls

What the client has handled and what is on the way account for all that the broker has sent; the
replies say which identifiers come back, and in what order.
-/

namespace Dpubsub.Proof
open Dpubsub.Lib Dpubsub.Model Dpubsub.Spec

/-- The identifier in the reply to a message: a low byte that is negative as a `char` sets every bit
of the high byte. -/
def echo (id : UInt16) : UInt16 :=
  if id.toNat % 256 < 128 then id else UInt16.ofNat (0xFF00 + id.toNat % 256)

def puback (id : UInt16) : List UInt8 := [0x40, 0x02] ++ Spec.short id.toNat

theorem echo_toNat (id : UInt16) : (echo id).toNat =
    if id.toNat % 256 < 128 then id.toNat else 0xFF00 + id.toNat % 256 := by
  unfold echo
  split
  · rfl
  · rw [UInt16.toNat_ofNat']
    omega

theorem echo_echo (id : UInt16) : echo (echo id) = echo id := by
  rw [← UInt16.toNat_inj, echo_toNat, echo_toNat]
  split
  · rfl
  · rw [if_neg (by omega)]
    omega

theorem pubackId_puback (id : UInt16) : pubackId (puback id) = some id := by
  have bound := id.toNat_lt
  have value : (UInt8.ofNat (id.toNat / 256)).toNat * 256 + (UInt8.ofNat id.toNat).toNat =
      id.toNat := by
    rw [UInt8.toNat_ofNat', UInt8.toNat_ofNat']
    omega
  simp only [pubackId, puback, Spec.short, List.cons_append, List.nil_append, and_self, if_true]
  rw [value, UInt16.ofNat_toNat]

theorem filterMap_pubackId (ids : List UInt16) : (ids.map puback).filterMap pubackId = ids := by
  induction ids with
  | nil => rfl
  | cons id ids ih => rw [List.map_cons, List.filterMap_cons_some (pubackId_puback id), ih]

theorem pubackPacket_echo (id : UInt16) :
    pubackPacket (shortOf (UInt8.ofNat (id.toNat / 256)) (UInt8.ofNat id.toNat)) =
      puback (echo id) := by
  have bound := id.toNat_lt
  have low : (UInt8.ofNat id.toNat).toNat = id.toNat % 256 := UInt8.toNat_ofNat'
  rw [pubackPacket_eq, puback, short_shortOf, low, Spec.short, echo_toNat]
  by_cases small : id.toNat % 256 < 128
  · rw [if_pos small, if_pos small]
  · have high : (0xFF00 + id.toNat % 256) / 256 = 0xFF := by omega
    have same : UInt8.ofNat (0xFF00 + id.toNat % 256) = UInt8.ofNat id.toNat := by
      rw [← UInt8.toNat_inj, UInt8.toNat_ofNat', low]
      omega
    rw [if_neg small, if_neg small, high, same]
    rfl

namespace Exchange
open Dpubsub.Model.Exchange

variable {fd : Int} {sends : List Int} {p : Publish}

theorem idsOf_append (xs ys : List Publish) : idsOf (xs ++ ys) = idsOf xs ++ idsOf ys := by
  rw [idsOf, List.filter_append, List.map_append]
  rfl

theorem connected_of_whole (whole : (sendLoop fd 4 0 sends).2 = .ret 0) : 0 ≤ fd :=
  ((sendLoop_whole_iff sends (by decide) (by decide)).mp whole).1

theorem polled_publish (short : p.body.length < 128) (rest : List UInt8)
    (fits : (p.encode ++ rest).length ≤ 512) (whole : (sendLoop fd 4 0 sends).2 = .ret 0)
    (r : Receiver) : ∃ r', handlePublish fd (.data (p.encode ++ rest)) sends r = (.ret 0, r') ∧
      r'.shown = r.shown ++ [contentsOf p] ∧
      replies r' = replies r ++ (idsOf [p]).map (puback ∘ echo) := by
  have order := encode_inOrder short
  obtain ⟨accesses, -, shows⟩ := handlePublish_shows (connected_of_whole whole) fits sends
    (isPublish_append rest (encode_isPublish p) order) (inOrder_append rest order) r
  have contents : ((decodedOf (p.encode ++ rest)).topic, (decodedOf (p.encode ++ rest)).payload) =
      contentsOf p := by
    rw [decodedOf, topicOf_append rest order, payloadOf_append rest order, encode_topicOf short,
      encode_payloadOf short]
    rfl
  have qos : (decodedOf (p.encode ++ rest)).qos = 1 ↔ p.qos = .atLeastOnce := by
    rw [decodedOf, qosOf_append rest order, encode_qosOf, QoS.value_eq_one]
  by_cases once : p.qos = .atLeastOnce
  · have ids : idsOf [p] = [p.packetId] := by simp [idsOf, once]
    have id : (decodedOf (p.encode ++ rest)).messageId = messageIdOf (p.encode ++ rest) := rfl
    rw [answerPublish_acknowledges (qos.mpr once), whole] at shows
    refine ⟨_, shows, congrArg (fun shown => r.shown ++ [shown]) contents, ?_⟩
    rw [replies_acknowledgedBy whole, id, messageIdOf_append rest order,
      encode_messageIdOf once short, pubackPacket_echo, ids]
    rfl
  · have ids : idsOf [p] = [] := by simp [idsOf, once]
    rw [answerPublish_silent fun one => once (qos.mp one)] at shows
    refine ⟨_, shows, congrArg (fun shown => r.shown ++ [shown]) contents, ?_⟩
    rw [ids, List.map_nil, List.append_nil]
    rfl

theorem polled_front {packet : Inbound} (valid : packet.Valid) (rest : List UInt8)
    (fits : (packet.bytes ++ rest).length ≤ 512) (whole : (sendLoop fd 4 0 sends).2 = .ret 0)
    (r : Receiver) : ∃ r', handlePublish fd (.data (packet.bytes ++ rest)) sends r = (.ret 0, r') ∧
      r'.shown = r.shown ++ packet.published.map contentsOf ∧
      replies r' = replies r ++ (idsOf packet.published).map (puback ∘ echo) := by
  cases packet with
  | publish p => exact polled_publish valid rest fits whole r
  | other first tail =>
      obtain ⟨accesses, -, ignored⟩ := handlePublish_ignores (connected_of_whole whole)
        (List.cons_ne_nil _ _) fits sends valid r
      refine ⟨_, ignored, ?_, ?_⟩
      · simp [Inbound.published, withAccesses]
      · simp [Inbound.published, idsOf, withAccesses, replies]

def pending (s : Exchange) : List Publish := s.down.flatMap Inbound.published

/-- No packet has arrived together with the one before it. -/
def Alone : Event → Prop
  | .poll more _ => more = 0
  | _ => True

structure Books (r : Receiver) (s : Exchange) (handled : List Publish) : Prop where
  valid : ∀ packet ∈ s.down, packet.Valid
  taken_le : s.taken ≤ (replies s.receiver).length
  shown : s.receiver.shown = r.shown ++ handled.map contentsOf
  replied : s.acknowledged.map puback ++ s.up = ((idsOf handled).map echo).map puback

section Next
variable {s : Exchange} {r : Receiver} {handled : List Publish}

theorem poll_next {more : Nat} (can : Enabled fd s (.poll more sends))
    (valid : ∀ packet ∈ s.down, packet.Valid) : ∃ front rest, s.down = front :: rest ∧
      (s.polled fd (.data (s.chunk more)) sends).1 = .ret 0 ∧
      (next fd s (.poll more sends)).down = rest.drop more ∧
      (next fd s (.poll more sends)).receiver.shown =
        s.receiver.shown ++ front.published.map contentsOf ∧
      replies (next fd s (.poll more sends)).receiver =
        replies s.receiver ++ ((idsOf front.published).map echo).map puback := by
  obtain ⟨inside, fits, whole⟩ := can
  cases packets : s.down with
  | nil =>
      rw [packets] at inside
      exact absurd inside (Nat.not_lt_zero more)
  | cons front rest =>
      have chunk : s.chunk more = front.bytes ++ (rest.take more).flatMap Inbound.bytes := by
        rw [Exchange.chunk, packets]
        rfl
      rw [chunk] at fits
      obtain ⟨r', outcome, shown, replied⟩ := polled_front (valid front (by simp [packets]))
        _ fits whole s.receiver
      rw [← chunk] at outcome
      have polled : s.polled fd (.data (s.chunk more)) sends = (.ret 0, r') := outcome
      refine ⟨front, rest, rfl, congrArg Prod.fst polled, ?_, ?_, ?_⟩
      · change s.down.drop (more + 1) = _
        rw [packets, List.drop_succ_cons]
      · change (s.polled fd (.data (s.chunk more)) sends).2.shown = _
        rw [polled, shown]
      · change replies (s.polled fd (.data (s.chunk more)) sends).2 = _
        rw [polled, replied, List.map_map]

theorem idle_next {wouldBlock : Bool} (can : Enabled fd s (.idle wouldBlock)) :
    s.polled fd (.failed wouldBlock) [] = (.ret (if wouldBlock then 0 else -1), s.receiver) ∧
      next fd s (.idle wouldBlock) = s := by
  have open_ : ¬fd < 0 := not_lt.mpr can
  have failed : recvResult fd 512 (.failed wouldBlock) = .failed wouldBlock := by
    rw [recvResult, if_neg open_]
  have same : s.polled fd (.failed wouldBlock) [] =
      (.ret (if wouldBlock then 0 else -1), s.receiver) := by
    cases wouldBlock <;> simp [polled, handlePublish, receiveBytesFromServerStaticBuff, failed]
  refine ⟨same, ?_⟩
  change { s with receiver := (s.polled fd (.failed wouldBlock) []).2 } = s
  rw [same]

theorem acknowledge_next (fd : Int) (books : Books r s handled) (can : s.up ≠ []) : ∃ id,
    echo id = id ∧ s.up = puback id :: (next fd s .acknowledge).up ∧
      (next fd s .acknowledge).acknowledged = s.acknowledged ++ [id] ∧
      (next fd s .acknowledge).outstanding = s.outstanding.erase id ∧
      (next fd s .acknowledge).taken ≤ (replies s.receiver).length := by
  obtain ⟨packet, rest, up⟩ := List.exists_cons_of_ne_nil can
  have later : (next fd s .acknowledge).up = rest := by
    change (replies s.receiver).drop (s.taken + 1) = rest
    rw [← List.drop_drop]
    exact congrArg (List.drop 1) up
  have member : packet ∈ ((idsOf handled).map echo).map puback := by
    rw [← books.replied, up]
    exact List.mem_append_right _ List.mem_cons_self
  obtain ⟨id, echoed, rfl⟩ := List.mem_map.mp member
  obtain ⟨original, -, rfl⟩ := List.mem_map.mp echoed
  have ids : (s.up.take 1).filterMap pubackId = [echo original] := by
    rw [up, List.take_succ_cons, List.take_zero, List.filterMap_cons_some (pubackId_puback _)]
    rfl
  refine ⟨echo original, echo_echo original, later.symm ▸ up, ?_, ?_, ?_⟩
  · exact congrArg (s.acknowledged ++ ·) ids
  · change s.outstanding.diff ((s.up.take 1).filterMap pubackId) = _
    rw [ids, List.diff_cons, List.diff_nil]
  · have length := congrArg List.length up
    rw [Exchange.up, List.length_drop, List.length_cons] at length
    change s.taken + 1 ≤ _
    omega

end Next

/-- What is kept whatever the parties do; `alone` says that no packet is lost behind another one. -/
structure Accounted (alone : Prop) (r : Receiver) (s : Exchange) (handled : List Publish) : Prop
    extends Books r s handled where
  once : (handled ++ pending s).Sublist s.published
  all : alone → handled ++ pending s = s.published

structure Expected (alone : Prop) (s : Exchange) : Prop where
  nodup : s.outstanding.Nodup
  known : ∀ id ∈ s.outstanding, id ∈ idsOf s.published
  stuck : ∀ id ∈ idsOf s.published, echo id ≠ id → id ∈ s.outstanding
  awaited : alone → ∀ id ∈ s.outstanding, echo id = id →
    puback id ∈ s.up ∨ id ∈ idsOf (pending s)
  exact : alone → (∀ id ∈ idsOf s.published, echo id = id) →
    idsOf s.published = s.acknowledged ++ s.outstanding

section Runs
variable {alone : Prop} {s : Exchange} {r : Receiver} {handled : List Publish}

theorem accounted_initial (alone : Prop) (r : Receiver) : Accounted alone r (initial r) [] where
  valid := by simp [initial]
  taken_le := by simp [initial, replies]
  shown := by simp [initial]
  replied := by simp [initial, Exchange.up, replies, idsOf]
  once := List.Sublist.refl _
  all _ := rfl

theorem expected_initial (alone : Prop) (r : Receiver) : Expected alone (initial r) where
  nodup := List.nodup_nil
  known := by simp [initial]
  stuck := by simp [initial, idsOf]
  awaited := by simp [initial]
  exact _ _ := rfl

theorem pending_send (packet : Inbound) :
    pending (next fd s (.send packet)) = pending s ++ packet.published := by
  simp [pending, next]

theorem accounted_send {packet : Inbound} (can : Enabled fd s (.send packet))
    (accounted : Accounted alone r s handled) :
    Accounted alone r (next fd s (.send packet)) handled where
  valid := by
    intro x member
    rcases List.mem_append.mp member with old | new
    · exact accounted.valid x old
    · rw [List.mem_singleton.mp new]
      exact can.1
  taken_le := accounted.taken_le
  shown := accounted.shown
  replied := accounted.replied
  once := by
    rw [pending_send, ← List.append_assoc]
    exact accounted.once.append (List.Sublist.refl _)
  all given := by
    rw [pending_send, ← List.append_assoc, accounted.all given]
    rfl

theorem accounted_poll {more : Nat} (can : Enabled fd s (.poll more sends))
    (separate : alone → more = 0) (accounted : Accounted alone r s handled) :
    ∃ front, Accounted alone r (next fd s (.poll more sends)) (handled ++ front) := by
  obtain ⟨front, rest, packets, -, down, shown, replied⟩ := poll_next can accounted.valid
  have before : pending s = front.published ++ rest.flatMap Inbound.published := by
    rw [pending, packets, List.flatMap_cons]
  have after : pending (next fd s (.poll more sends)) =
      (rest.drop more).flatMap Inbound.published := by rw [pending, down]
  have once := accounted.once
  have all := accounted.all
  rw [before, ← List.append_assoc] at once all
  refine ⟨front.published, ⟨?_, ?_, ?_, ?_⟩, ?_, ?_⟩
  · intro x member
    rw [down] at member
    apply accounted.valid x
    rw [packets]
    exact List.mem_cons_of_mem _ (List.mem_of_mem_drop member)
  · rw [replied, List.length_append]
    exact accounted.taken_le.trans (Nat.le_add_right ..)
  · rw [shown, accounted.shown, List.append_assoc, List.map_append]
  · rw [Exchange.up, replied, idsOf_append, List.map_append, List.map_append, ← accounted.replied,
      List.append_assoc]
    congr 1
    exact List.drop_append_of_le_length accounted.taken_le
  · rw [after]
    have fewer := (List.drop_sublist more rest).flatMap Inbound.published
    exact ((List.Sublist.refl _).append fewer).trans once
  · intro given
    rw [after, separate given, List.drop_zero]
    exact all given

theorem accounted_acknowledge (can : s.up ≠ []) (accounted : Accounted alone r s handled) :
    Accounted alone r (next fd s .acknowledge) handled := by
  obtain ⟨id, -, up, acknowledged, -, taken⟩ :=
    acknowledge_next fd accounted.toBooks can
  refine ⟨⟨accounted.valid, taken, accounted.shown, ?_⟩, accounted.once, accounted.all⟩
  rw [acknowledged, ← accounted.replied, up, List.map_append, List.append_assoc]
  rfl

theorem idsOf_published_nodup (packet : Inbound) : (idsOf packet.published).Nodup := by
  cases packet with
  | other first rest => exact List.nodup_nil
  | publish p => by_cases once : p.qos = .atLeastOnce <;> simp [Inbound.published, idsOf, once]

theorem expected_send {packet : Inbound} (can : Enabled fd s (.send packet))
    (expected : Expected alone s) : Expected alone (next fd s (.send packet)) := by
  have published : idsOf (next fd s (.send packet)).published =
      idsOf s.published ++ idsOf packet.published := idsOf_append ..
  have outstanding : (next fd s (.send packet)).outstanding =
      s.outstanding ++ idsOf packet.published := rfl
  refine ⟨?_, ?_, ?_, ?_, ?_⟩
  · rw [outstanding]
    exact expected.nodup.append (idsOf_published_nodup packet) fun id old new => can.2 id new old
  · intro id member
    rw [published]
    exact List.mem_append.mpr ((List.mem_append.mp member).imp_left (expected.known id))
  · intro id member differs
    rw [published] at member
    exact List.mem_append.mpr ((List.mem_append.mp member).imp_left
      fun old => expected.stuck id old differs)
  · intro given id member same
    rw [pending_send, idsOf_append]
    rcases List.mem_append.mp member with old | new
    · exact (expected.awaited given id old same).imp_right (List.mem_append_left _)
    · exact Or.inr (List.mem_append_right _ new)
  · intro given echoed
    rw [published] at echoed ⊢
    rw [expected.exact given fun id member => echoed id (List.mem_append_left _ member),
      outstanding, List.append_assoc]
    rfl

theorem expected_poll {more : Nat} (can : Enabled fd s (.poll more sends))
    (separate : alone → more = 0) (accounted : Accounted alone r s handled)
    (expected : Expected alone s) : Expected alone (next fd s (.poll more sends)) := by
  obtain ⟨front, rest, packets, -, down, -, replied⟩ := poll_next can accounted.valid
  refine ⟨expected.nodup, expected.known, expected.stuck, ?_, expected.exact⟩
  intro given id member same
  have up : (next fd s (.poll more sends)).up =
      s.up ++ ((idsOf front.published).map echo).map puback := by
    rw [Exchange.up, replied]
    exact List.drop_append_of_le_length accounted.taken_le
  have before : pending s = front.published ++ pending (next fd s (.poll more sends)) := by
    rw [pending, pending, packets, down, separate given]
    rfl
  rw [up]
  rcases expected.awaited given id member same with replied | waiting
  · exact Or.inl (List.mem_append_left _ replied)
  · rw [before, idsOf_append] at waiting
    rcases List.mem_append.mp waiting with here | later
    · refine Or.inl (List.mem_append_right _ ?_)
      rw [← same]
      exact List.mem_map_of_mem (List.mem_map_of_mem here)
    · exact Or.inr later

theorem Books.came_back (books : Books r s handled) :
    s.acknowledged ++ s.up.filterMap pubackId = (idsOf handled).map echo := by
  have replied := congrArg (List.filterMap pubackId) books.replied
  rwa [List.filterMap_append, filterMap_pubackId, filterMap_pubackId] at replied

theorem map_echo {ids : List UInt16} (echoed : ∀ id ∈ ids, echo id = id) : ids.map echo = ids :=
  (List.map_congr_left echoed).trans (List.map_id ids)

theorem expected_acknowledge (can : s.up ≠ []) (accounted : Accounted alone r s handled)
    (expected : Expected alone s) : Expected alone (next fd s .acknowledge) := by
  obtain ⟨id, echoed, up, acknowledged, outstanding, -⟩ :=
    acknowledge_next fd accounted.toBooks can
  have fewer : ∀ x ∈ (next fd s .acknowledge).outstanding, x ≠ id ∧ x ∈ s.outstanding := by
    intro x member
    rw [outstanding] at member
    exact (expected.nodup.mem_erase_iff).mp member
  refine ⟨?_, ?_, ?_, ?_, ?_⟩
  · rw [outstanding]
    exact expected.nodup.erase id
  · intro x member
    exact expected.known x (fewer x member).2
  · intro x member differs
    rw [outstanding]
    refine (List.mem_erase_of_ne ?_).mpr (expected.stuck x member differs)
    rintro rfl
    exact differs echoed
  · intro given x member same
    rcases expected.awaited given x (fewer x member).2 same with replied | waiting
    · rw [up] at replied
      rcases List.mem_cons.mp replied with first | later
      · have equal := congrArg pubackId first
        rw [pubackId_puback, pubackId_puback] at equal
        exact absurd (Option.some.inj equal) (fewer x member).1
      · exact Or.inl later
    · exact Or.inr waiting
  · intro given all
    have handledIds : idsOf s.published = idsOf handled ++ idsOf (pending s) := by
      rw [← accounted.all given, idsOf_append]
    have echoes : (idsOf handled).map echo = idsOf handled := by
      refine map_echo fun x member => all x ?_
      change x ∈ idsOf s.published
      rw [handledIds]
      exact List.mem_append_left _ member
    have first : s.acknowledged ++ s.outstanding = s.acknowledged ++
        id :: ((next fd s .acknowledge).up.filterMap pubackId ++ idsOf (pending s)) := by
      rw [← expected.exact given all, handledIds, ← echoes, ← accounted.came_back, up,
        List.filterMap_cons_some (pubackId_puback id), List.append_assoc, List.cons_append]
    have waiting := List.append_cancel_left first
    rw [acknowledged, outstanding, waiting, List.erase_cons_head, List.append_assoc]
    exact (expected.exact given all).trans first

theorem exchange_step {e : Event} (can : Enabled fd s e) (separate : alone → Alone e)
    (kept : ∃ handled, Accounted alone r s handled ∧ Expected alone s) :
    ∃ handled, Accounted alone r (next fd s e) handled ∧ Expected alone (next fd s e) := by
  obtain ⟨handled, accounted, expected⟩ := kept
  cases e with
  | send packet => exact ⟨handled, accounted_send can accounted, expected_send can expected⟩
  | poll more sends =>
      obtain ⟨front, after⟩ := accounted_poll can separate accounted
      exact ⟨handled ++ front, after, expected_poll can separate accounted expected⟩
  | idle wouldBlock =>
      rw [(idle_next can).2]
      exact ⟨handled, accounted, expected⟩
  | acknowledge =>
      exact ⟨handled, accounted_acknowledge can accounted,
        expected_acknowledge can accounted expected⟩

end Runs

theorem exchange_kept {fd : Int} {r : Receiver} {events : List Event} {s : Exchange}
    (run : (system fd).Run (initial r) events s) :
    ∃ handled, Accounted (∀ e ∈ events, Alone e) r s handled ∧
      Expected (∀ e ∈ events, Alone e) s := by
  have separate : ∀ e ∈ events, (∀ e ∈ events, Alone e) → Alone e := fun e member all => all e member
  have restricted := System.run_restrict.mpr ⟨run, separate⟩
  apply restricted.keeps ⟨[], accounted_initial _ r, expected_initial _ r⟩
  intro s e kept can
  exact exchange_step can.1 can.2 kept

/-- The messages are shown in the order sent, none twice, and their identifiers come back in that
order. When no packet is lost behind another one, all of them are shown; once all replies have been
read, the broker waits for nothing but the identifiers that do not come back; and when there are none
of these, it has the acknowledgements in the order in which it has sent the messages. -/
structure Exchanged (alone : Prop) (r : Receiver) (s : Exchange) (handled : List Publish) : Prop where
  shown : s.receiver.shown = r.shown ++ handled.map contentsOf
  once : (handled ++ pending s).Sublist s.published
  cameBack : s.acknowledged ++ s.up.filterMap pubackId = (idsOf handled).map echo
  stuck : ∀ id ∈ idsOf s.published, echo id ≠ id → id ∈ s.outstanding
  all : alone → handled ++ pending s = s.published
  settled : alone → s.down = [] → s.up = [] →
    ∀ id, id ∈ s.outstanding ↔ id ∈ idsOf s.published ∧ echo id ≠ id
  exact : alone → (∀ id ∈ idsOf s.published, echo id = id) →
    idsOf s.published = s.acknowledged ++ s.outstanding

theorem exchanged_of_kept {alone : Prop} {r : Receiver} {s : Exchange} {handled : List Publish}
    (accounted : Accounted alone r s handled) (expected : Expected alone s) :
    Exchanged alone r s handled where
  shown := accounted.shown
  once := accounted.once
  cameBack := accounted.came_back
  stuck := expected.stuck
  all := accounted.all
  settled given down up id := by
    constructor
    · intro member
      refine ⟨expected.known id member, fun same => ?_⟩
      rcases expected.awaited given id member same with replied | waiting
      · rw [up] at replied
        cases replied
      · rw [pending, down] at waiting
        cases waiting
    · rintro ⟨sent, differs⟩
      exact expected.stuck id sent differs
  exact := expected.exact

theorem exchange_runs (fd : Int) (r : Receiver) (events : List Event) (s : Exchange)
    (run : (system fd).Run (initial r) events s) :
    (∃ handled, Exchanged (∀ e ∈ events, Alone e) r s handled) ∧
      (∀ more sends, Enabled fd s (.poll more sends) →
        (s.polled fd (.data (s.chunk more)) sends).1 = .ret 0) ∧
      ∀ wouldBlock, Enabled fd s (.idle wouldBlock) →
        s.polled fd (.failed wouldBlock) [] =
          (.ret (if wouldBlock then 0 else -1), s.receiver) := by
  obtain ⟨handled, accounted, expected⟩ := exchange_kept run
  refine ⟨⟨handled, exchanged_of_kept accounted expected⟩, fun more sends can => ?_,
    fun wouldBlock can => (idle_next can).1⟩
  obtain ⟨front, rest, -, returns, -⟩ := poll_next can accounted.valid
  exact returns

def afterPoll : Exchange :=
  next 3 (next 3 (initial ⟨Net.empty, [], []⟩) (.send (.publish (withId 128)))) (.poll 0 [4])

theorem exchange_128 : afterPoll.receiver.shown = [([0x61], [0x68, 0x69])] ∧
    128 ∈ afterPoll.outstanding := by
  have short : (withId 128).body.length < 128 := by decide
  have fits : ([(withId 128).encode].flatten).length ≤ 512 := by
    rw [List.flatten_singleton, encode_length short]
    exact Nat.le_of_lt_succ (Nat.add_lt_add_right short 2 |>.trans (by decide))
  have run : (system 3).Run (initial ⟨Net.empty, [], []⟩)
      [.send (.publish (withId 128)), .poll 0 [4]] afterPoll :=
    .cons ⟨short, by simp [initial]⟩ (.cons ⟨Nat.zero_lt_one, fits, by decide⟩ (.nil _))
  obtain ⟨⟨handled, exchanged⟩, -⟩ := exchange_runs 3 ⟨Net.empty, [], []⟩ _ _ run
  have all := exchanged.all (by simp [Alone])
  obtain rfl : handled = [withId 128] := (List.append_nil handled).symm.trans all
  exact ⟨exchanged.shown, exchanged.stuck 128 List.mem_cons_self (by decide)⟩

end Exchange
end Dpubsub.Proof
