import Dpubsub.Proof.Setters
import Dpubsub.Spec.Settings

/-!
# The settings that the getters show

Each setter that replaces strings makes one change to the settings, and leaves the blocks of the
client in order.
-/

namespace Dpubsub.Proof
open Dpubsub.Lib Dpubsub.Model Dpubsub.Spec

def shown (w : World) : Settings where
  clientId := w.heap.string? (getClientId w.client)
  ipBroker := w.heap.string? (getBrokerIp w.client)
  keepAlive := w.client.config.keepAlive
  portBroker := w.client.config.portBroker
  defaultQos := w.client.config.defaultQos
  bufferSize := getBufferSize w.client

/-- The blocks that are `mine` are those of the client, each of them once, but for a buffer that has
been freed and is still in its field. -/
structure Tidy (mine : Nat → Prop) (w : World) : Prop where
  owns : Owns mine w.heap
    [w.client.config.clientId, w.client.config.ipBroker, w.heap.liveOnly w.client.buffer]
  clientId : w.client.config.clientId ≠ none → w.heap.string? w.client.config.clientId ≠ none
  ipBroker : w.client.config.ipBroker ≠ none → w.heap.string? w.client.config.ipBroker ≠ none
  buffer_lt : ∀ b, w.client.buffer = some b → b < w.heap.next

/-- The call is defined, and what is shown after it is what was shown before, but for the change. -/
structure Ordered {α : Type} (mine : Nat → Prop) (w : World) (change : Option Change)
    (result : Outcome α × World) : Prop where
  defined : result.1 ≠ .undefined
  tidy : Tidy mine result.2
  shown : shown result.2 = (shown w).after change

section
variable {mine : Nat → Prop} {w w' : World} {change : Option Change}

theorem keeps_ordered {α : Type} {o : Outcome α} (tidy : Tidy mine w)
    (defined : o ≠ .undefined) (heap : w'.heap = w.heap) (same : fields w' = fields w)
    (shown' : shown w' = (shown w).after change) : Ordered mine w change (o, w') := by
  refine ⟨defined, ?_, shown'⟩
  simp only [fields, List.cons.injEq, and_true] at same
  obtain ⟨id, ip, buffer⟩ := same
  constructor
  · rw [id, ip, buffer, heap]
    exact tidy.owns
  · rw [id, heap]
    exact tidy.clientId
  · rw [ip, heap]
    exact tidy.ipBroker
  · rw [buffer, heap]
    exact tidy.buffer_lt

theorem ret_ordered {α : Type} {r : α} (tidy : Tidy mine w) (heap : w'.heap = w.heap)
    (same : fields w' = fields w) (shown' : shown w' = (shown w).after change) :
    Ordered mine w change (.ret r, w') := keeps_ordered tidy (by simp) heap same shown'

end

/-! ## `set_client_id` and `set_broker_ip` -/

section
variable {mine : Nat → Prop} {w : World} {p field : Ptr}

structure Replaced (mine : Nat → Prop) (w : World) (other : Ptr) (string : Option CString) (q : Ptr)
    (h' : Heap) : Prop where
  owns : Owns mine h' [q, other, h'.liveOnly w.client.buffer]
  string : h'.string? q = string
  readable : q ≠ none → h'.string? q ≠ none
  other : h'.string? other = w.heap.string? other
  buffer_lt : ∀ b, w.client.buffer = some b → b < h'.next

theorem replaceField_replaces {other : Ptr} (put : Ptr → Config → Config) (granted : Bool)
    (owns : Owns mine w.heap [field, other, w.heap.liveOnly w.client.buffer])
    (readable : other ≠ none → w.heap.string? other ≠ none)
    (old : ∀ b, w.client.buffer = some b → b < w.heap.next) (member : field ∈ fields w)
    (foreign : ForeignString w p) : ∃ r q h', replaceField field put p granted w =
        (.ret r, withHeap w h' (put q w.client.config)) ∧
      Replaced mine w other (if granted then w.heap.string? p else none) q h' := by
  obtain ⟨outside, s, given⟩ := foreign
  have ne : p ≠ field := by
    rintro rfl
    exact outside member
  have given' : (released w.heap field).string? p = some s :=
    (string?_released_of_ne ne).trans given
  obtain ⟨q, h', copies, -, copied⟩ := owns.released.copies given' granted
  have copies' : onHeap (strdup p granted) (withFreed w field) =
      (.ret q, { withFreed w field with heap := h' }) := onHeap_eq copies
  have buffer := copied.keptBut.liveOnly owns (by simp) old
  refine ⟨if q = none then -1 else 0, q, h', ?_, ?_, ?_, copied.readable, ?_, ?_⟩
  · rw [replaceField, Prog.bind_ret (freeField_live owns.first_live), Prog.bind_ret copies',
      setConfigField_bind, Prog.ite_apply]
    split <;> rfl
  · rw [buffer]
    exact copied.owns
  · rw [given]
    exact copied.string
  · exact copied.keptBut.owned owns List.mem_cons_self readable
  · have next := copied.next
    rw [released_next] at next
    exact fun b field => (old b field).trans_le next

theorem setClientId_ordered (granted : Bool) (tidy : Tidy mine w)
    (foreign : ForeignString w p) : Ordered mine w
      (some (.clientId (if granted then w.heap.string? p else none))) (setClientId p granted w) := by
  obtain ⟨r, q, h', call, replaced⟩ := replaceField_replaces
    (fun copy config => { config with clientId := copy }) granted tidy.owns tidy.ipBroker
    tidy.buffer_lt (by simp [fields]) foreign
  change Ordered mine w _ (replaceField w.client.config.clientId _ p granted w)
  rw [call]
  refine ⟨by simp, ⟨replaced.owns, replaced.readable, ?_, replaced.buffer_lt⟩, ?_⟩
  · intro present
    exact replaced.other.trans_ne (tidy.ipBroker present)
  · exact Settings.ext replaced.string replaced.other rfl rfl rfl rfl

theorem setBrokerIp_ordered (granted : Bool) (tidy : Tidy mine w)
    (foreign : ForeignString w p) : Ordered mine w
      (some (.ipBroker (if granted then w.heap.string? p else none))) (setBrokerIp p granted w) := by
  obtain ⟨r, q, h', call, replaced⟩ := replaceField_replaces
    (fun copy config => { config with ipBroker := copy }) granted
    (tidy.owns.perm (List.Perm.swap ..)) tidy.clientId tidy.buffer_lt (by simp [fields])
    foreign
  change Ordered mine w _ (replaceField w.client.config.ipBroker _ p granted w)
  rw [call]
  refine ⟨by simp, ⟨replaced.owns.perm (List.Perm.swap ..), ?_, replaced.readable,
    replaced.buffer_lt⟩, ?_⟩
  · intro present
    exact replaced.other.trans_ne (tidy.clientId present)
  · exact Settings.ext replaced.other replaced.string rfl rfl rfl rfl

end

/-! ## `set_config` -/

def CopyFails (config : Config) (grantsId grantsIp : Bool) : Prop :=
  config.clientId ≠ none ∧ grantsId = false ∨ config.ipBroker ≠ none ∧ grantsIp = false

instance (config : Config) (grantsId grantsIp : Bool) :
    Decidable (CopyFails config grantsId grantsIp) :=
  inferInstanceAs (Decidable (_ ∨ _))

section
variable {mine : Nat → Prop} {w : World} {ps : List Ptr} {p : Ptr} {config : Config}
  {grantsId grantsIp : Bool}

theorem copyField_copies (granted : Bool) (owns : Owns mine w.heap ps)
    (readable : p ≠ none → w.heap.string? p ≠ none) : ∃ q h',
    copyField p granted w = (.ret q, { w with heap := h' }) ∧
      (q = none ↔ p = none ∨ granted = false) ∧
      Copied mine w.heap ps (if granted then w.heap.string? p else none) q h' := by
  by_cases null : p = none
  · subst null
    refine ⟨none, w.heap, copyField_null granted w, by simp, ?_⟩
    have none : (if granted = true then w.heap.string? none else none) = none := ite_self _
    rw [none]
    exact owns.copiesNone
  · obtain ⟨s, string⟩ := Option.ne_none_iff_exists'.mp (readable null)
    obtain ⟨q, h', copies, refused, copied⟩ := owns.copies string granted
    refine ⟨q, h', ?_, ?_, ?_⟩
    · rw [copyField_given (readable null), onHeap_eq copies]
    · rw [refused]
      exact (or_iff_right null).symm
    · rw [string]
      exact copied

theorem Tidy.canFree (tidy : Tidy mine w) : CanFree w where
  clientId := tidy.owns.first_live
  ipBroker := tidy.owns.released.first_live

theorem ForeignField.freed (foreign : ForeignField w p) :
    (freedBoth w).heap.string? p = w.heap.string? p ∧
      (p ≠ none → (freedBoth w).heap.string? p ≠ none) := by
  rcases foreign with rfl | ⟨outside, s, string⟩
  · exact ⟨rfl, fun present => absurd rfl present⟩
  · have id : p ≠ w.client.config.clientId := by
      rintro rfl
      exact outside (by simp [fields])
    have ip : p ≠ w.client.config.ipBroker := by
      rintro rfl
      exact outside (by simp [fields])
    have same : (freedBoth w).heap.string? p = w.heap.string? p :=
      (string?_released_of_ne ip).trans (string?_released_of_ne id)
    refine ⟨same, fun _ => ?_⟩
    rw [same, string]
    exact Option.some_ne_none s

theorem freedBoth_liveOnly (tidy : Tidy mine w) :
    (freedBoth w).heap.liveOnly w.client.buffer = w.heap.liveOnly w.client.buffer := by
  have first := (keptBut_released w.heap w.client.config.clientId).liveOnly tidy.owns
    (by simp) tidy.buffer_lt
  have old : ∀ b, w.client.buffer = some b →
      b < (released w.heap w.client.config.clientId).next := by
    rw [released_next]
    exact tidy.buffer_lt
  have second := (keptBut_released (released w.heap w.client.config.clientId)
    w.client.config.ipBroker).liveOnly tidy.owns.released (by simp [first]) old
  exact second.trans first

structure Recopied (mine : Nat → Prop) (w : World) (q q' : Ptr) (h : Heap) : Prop where
  owns : Owns mine h [q, q', h.liveOnly w.client.buffer]
  first : q ≠ none → h.string? q ≠ none
  second : q' ≠ none → h.string? q' ≠ none
  next : w.heap.next ≤ h.next

theorem Recopied.tidy {q q' : Ptr} {h : Heap} (recopied : Recopied mine w q q' h)
    (tidy : Tidy mine w) {new : Config} (id : new.clientId = q) (ip : new.ipBroker = q') :
    Tidy mine (withHeap w h new) := by
  subst id ip
  exact ⟨recopied.owns, recopied.first, recopied.second,
    fun b here => (tidy.buffer_lt b here).trans_le recopied.next⟩

theorem copyConfig_first (tidy : Tidy mine w) (id : ForeignField w config.clientId)
    (grantsId : Bool) : ∃ q h,
    copyField config.clientId grantsId (freedBoth w) = (.ret q, { w with heap := h }) ∧
      (q = none ↔ config.clientId = none ∨ grantsId = false) ∧ Recopied mine w q none h ∧
      h.string? q = (if grantsId then w.heap.string? config.clientId else none) ∧
      ∀ p, ForeignField w p → h.string? p = w.heap.string? p ∧ (p ≠ none → h.string? p ≠ none) := by
  have owns : Owns mine (freedBoth w).heap [(freedBoth w).heap.liveOnly w.client.buffer] := by
    rw [freedBoth_liveOnly tidy]
    exact tidy.owns.released.released
  obtain ⟨q, h, copies, null, copied⟩ := copyField_copies grantsId owns id.freed.2
  have buffer : h.liveOnly w.client.buffer = (freedBoth w).heap.liveOnly w.client.buffer := by
    apply Heap.liveOnly_congr
    intro b here
    apply copied.same
    rw [freedBoth_next]
    exact tidy.buffer_lt b here
  refine ⟨q, h, copies, null, ⟨?_, copied.readable, fun present => absurd rfl present, ?_⟩, ?_, ?_⟩
  · rw [buffer]
    exact copied.owns.null.perm (List.Perm.swap ..)
  · exact (freedBoth_next w).symm.le.trans copied.next
  · rw [copied.string, id.freed.1]
  · intro p foreign
    obtain ⟨same, readable⟩ := foreign.freed
    rw [copied.kept readable, same]
    exact ⟨rfl, fun present => same ▸ readable present⟩

theorem copyConfig_second {q : Ptr} {h : Heap} (tidy : Tidy mine w)
    (first : Recopied mine w q none h) (readable : p ≠ none → h.string? p ≠ none) (granted : Bool)
    (w' : World) (here : w'.heap = h) : ∃ q' h',
      copyField p granted w' = (.ret q', { w' with heap := h' }) ∧
      (q' = none ↔ p = none ∨ granted = false) ∧ Recopied mine w q q' h' ∧
      h'.string? q = h.string? q ∧ h'.string? q' = if granted then h.string? p else none := by
  subst here
  have owns := (first.owns.perm (List.Perm.swap ..)).of_null
  obtain ⟨q', h', copies, null, copied⟩ := copyField_copies granted owns readable
  have kept := copied.kept first.first
  have buffer : h'.liveOnly w.client.buffer = w'.heap.liveOnly w.client.buffer := by
    apply Heap.liveOnly_congr
    intro b here
    exact copied.same b ((tidy.buffer_lt b here).trans_le first.next)
  refine ⟨q', h', copies, null, ⟨?_, ?_, copied.readable, first.next.trans copied.next⟩, kept,
    copied.string⟩
  · rw [buffer]
    exact copied.owns.perm (List.Perm.swap ..)
  · exact fun present => kept.trans_ne (first.first present)

theorem copied_string {h : Heap} {granted : Bool} (copied : ¬(p ≠ none ∧ granted = false)) :
    (if granted then h.string? p else none) = h.string? p := by
  cases granted with
  | true => rfl
  | false =>
      have null : p = none := by simpa using copied
      rw [null]
      rfl

theorem setConfig_ordered (tidy : Tidy mine w) (id : ForeignField w config.clientId)
    (ip : ForeignField w config.ipBroker) (alone : FailsAlone config grantsId grantsIp w) :
    Ordered mine w (some (if CopyFails config grantsId grantsIp then .noStrings
      else .all (w.heap.string? config.clientId) (w.heap.string? config.ipBroker)
        config.keepAlive config.portBroker config.defaultQos))
      (setConfig (some config) grantsId grantsIp w) := by
  obtain ⟨q, h, copies, null, first, string, rest⟩ := copyConfig_first tidy id grantsId
  unfold FailsAlone at alone
  rw [setConfig_begins tidy.canFree, copyConfig_eq, Prog.bind_ret copies, setConfigField_bind]
  dsimp only
  by_cases idFails : config.clientId.isSome ∧ q = none
  · have fails := (isSome_and_iff null).mp idFails
    obtain ⟨-, rfl⟩ := idFails
    have changes : CopyFails config grantsId grantsIp := Or.inl fails
    rw [if_pos fails] at alone
    rw [if_pos changes, if_pos ⟨Option.isSome_iff_ne_none.mpr fails.1, rfl⟩]
    refine ⟨by simp, first.tidy tidy rfl alone, ?_⟩
    refine Settings.ext rfl ?_ rfl rfl rfl rfl
    change h.string? w.client.config.ipBroker = none
    rw [alone]
    rfl
  · have copied := (isSome_and_iff null).not.mp idFails
    obtain ⟨q', h', copies', null', second, kept, string'⟩ := copyConfig_second tidy first
      (rest _ ip).2 grantsIp { w with
        heap := h, client := { w.client with config := { w.client.config with clientId := q } } } rfl
    rw [if_neg idFails, copyIp, Prog.bind_ret copies', setConfigField_bind]
    dsimp only
    rw [if_neg copied] at alone
    by_cases ipFails : config.ipBroker.isSome ∧ q' = none
    · have fails := (isSome_and_iff null').mp ipFails
      obtain ⟨-, rfl⟩ := ipFails
      obtain rfl : q = none := null.mpr (Or.inl (alone fails))
      have changes : CopyFails config grantsId grantsIp := Or.inr fails
      rw [if_pos changes, if_pos ⟨Option.isSome_iff_ne_none.mpr fails.1, rfl⟩]
      refine ⟨fun stuck => ?_, second.tidy tidy rfl rfl, rfl⟩
      cases stuck
    · have copied' := (isSome_and_iff null').not.mp ipFails
      have changes : ¬CopyFails config grantsId grantsIp := not_or.mpr ⟨copied, copied'⟩
      rw [if_neg changes, if_neg ipFails, setConfigField_bind]
      refine ⟨by simp, second.tidy tidy rfl rfl, ?_⟩
      refine Settings.ext ?_ ?_ rfl rfl rfl rfl
      · change h'.string? q = w.heap.string? config.clientId
        rw [kept, string]
        exact copied_string copied
      · change h'.string? q' = w.heap.string? config.ipBroker
        rw [string', (rest _ ip).1]
        exact copied_string copied'

end

end Dpubsub.Proof
