import Dpubsub.Proof.Connection
import Dpubsub.Proof.Created
import Dpubsub.Proof.ReceiveBuffer

/-!
# Who owns the blocks of a client
-/

namespace Dpubsub.Proof
open Dpubsub.Lib Dpubsub.Model

def fields (w : World) : List Ptr :=
  [w.client.config.clientId, w.client.config.ipBroker, w.client.buffer]

structure FieldsOwned (w : World) : Prop where
  live : ∀ a, some a ∈ fields w → w.heap.live a = true
  alone : (fields w).reduceOption.Nodup

structure OwnsFields (mine : Nat → Prop) (w : World) : Prop where
  owns : Owns mine w.heap (fields w)
  unconnected : w.client.socket = -1

def ForeignString (w : World) (p : Ptr) : Prop :=
  p ∉ fields w ∧ ∃ s, w.heap.string? p = some s

def withHeap (w : World) (h : Heap) (config : Config) : World :=
  { w with heap := h, client := { w.client with config := config } }

section
variable {mine : Nat → Prop} {w : World} {p : Ptr} {ps : List Ptr} {granted : Bool}

theorem freeField_ends (owns : Owns mine w.heap (p :: ps)) :
    ∃ h', Prog.when p.isSome (onHeap (free p)) w = (.ret (), { w with heap := h' }) ∧
      Owns mine h' ps ∧ Freed p w.heap h' :=
  ⟨released w.heap p, freeField_live owns.first_live, owns.released, freed_released w.heap p⟩

theorem strdup_ends {h : Heap} (granted : Bool) (owns : Owns mine h ps) (foreign : ForeignString w p)
    (same : ∀ a, some a ∉ fields w → w.heap.live a = true → h.blocks a = w.heap.blocks a) :
    ∃ q h', strdup p granted h = (.ret q, h') ∧ Owns mine h' (q :: ps) ∧
      (q = none ↔ granted = false) ∧ ∀ a, a ≠ h.next → h'.blocks a = h.blocks a := by
  obtain ⟨outside, s, readable⟩ := foreign
  have readable' : h.string? p = some s := by
    rw [← readable]
    have live := Heap.live_of_readable (readable.trans_ne (Option.some_ne_none s))
    exact Heap.string?_congr fun a here => same a (here ▸ outside) (live a here)
  obtain ⟨h', copies, owns', rest⟩ := owns.strdup readable' granted
  refine ⟨_, h', copies, owns', ?_, rest⟩
  cases granted <;> simp

def replaceField (field : Ptr) (put : Ptr → Config → Config) (p : Ptr) (granted : Bool) :
    Prog World Int := do
  Prog.when field.isSome (onHeap (free field))
  let copy ← onHeap (strdup p granted)
  setConfigField (put copy)
  if copy = none then return -1
  else return 0

theorem replaceField_ends {field : Ptr} (put : Ptr → Config → Config) (granted : Bool)
    (owns : Owns mine w.heap (field :: ps)) (owned : field ∈ fields w) (foreign : ForeignString w p) :
    ∃ r q h', replaceField field put p granted w =
      (.ret r, withHeap w h' (put q w.client.config)) ∧ Owns mine h' (q :: ps) := by
  obtain ⟨h, frees, owns, freed⟩ := freeField_ends owns
  obtain ⟨q, h', copies, owns', -⟩ := strdup_ends granted owns foreign
    fun a outside _ => freed.others a fun here => outside (here ▸ owned)
  refine ⟨if q = none then -1 else 0, q, h', ?_, owns'⟩
  rw [replaceField, Prog.bind_ret frees, Prog.bind_ret (onHeap_eq copies), setConfigField_bind,
    Prog.ite_apply]
  split <;> rfl

theorem setClientId_ends (granted : Bool) (owned : OwnsFields mine w) (foreign : ForeignString w p) :
    ∃ r w', setClientId p granted w = (.ret r, w') ∧ OwnsFields mine w' := by
  obtain ⟨r, q, h', call, owns⟩ :=
    replaceField_ends (fun copy config => { config with clientId := copy }) granted owned.owns
      List.mem_cons_self foreign
  exact ⟨r, _, call, owns, owned.unconnected⟩

theorem setBrokerIp_ends (granted : Bool) (owned : OwnsFields mine w) (foreign : ForeignString w p) :
    ∃ r w', setBrokerIp p granted w = (.ret r, w') ∧ OwnsFields mine w' := by
  obtain ⟨r, q, h', call, owns⟩ :=
    replaceField_ends (fun copy config => { config with ipBroker := copy }) granted
      (owned.owns.perm (List.Perm.swap ..)) (by simp [fields]) foreign
  exact ⟨r, _, call, owns.perm (List.Perm.swap ..), owned.unconnected⟩

def ForeignBlock (w : World) (p : Ptr) : Prop :=
  p ∉ fields w ∧ ∃ a, p = some a ∧ w.heap.live a = true

theorem setBuffer_ends (owned : OwnsFields mine w) (given : p = none ∨ ForeignBlock w p) :
    ∃ r w', setBuffer p w = (.ret r, w') ∧ OwnsFields mine w' := by
  have last : (fields w).Perm
      (w.client.buffer :: [w.client.config.clientId, w.client.config.ipBroker]) :=
    List.perm_append_singleton w.client.buffer [w.client.config.clientId, w.client.config.ipBroker]
  have first : (p :: [w.client.config.clientId, w.client.config.ipBroker]).Perm
      [w.client.config.clientId, w.client.config.ipBroker, p] :=
    (List.perm_append_singleton p [w.client.config.clientId, w.client.config.ipBroker]).symm
  obtain ⟨h, frees, owns, freed⟩ := freeField_ends (p := w.client.buffer) (owned.owns.perm last)
  refine ⟨0, { w with heap := h, client := { w.client with buffer := p } }, ?_, ?_,
    owned.unconnected⟩
  · change (Prog.when w.client.buffer.isSome (onHeap (free w.client.buffer)) >>= _) w = _
    rw [Prog.bind_ret frees]
    rfl
  · refine Owns.perm ?_ first
    rcases given with rfl | ⟨outside, a, rfl, live⟩
    · exact owns.null
    · refine owns.adopt ?_ ?_
      · have untouched := freed.others a fun here => outside (by simp [fields, here])
        rwa [Heap.live, untouched]
      · intro member
        exact outside (last.mem_iff.mpr (List.mem_cons_of_mem _ member))

def ForeignField (w : World) (p : Ptr) : Prop := p = none ∨ ForeignString w p

theorem copyField_ends (granted : Bool) (owns : Owns mine w.heap ps) {before : World}
    (given : ForeignField before p)
    (same : ∀ a, some a ∉ fields before → before.heap.live a = true →
      w.heap.blocks a = before.heap.blocks a) :
    ∃ q h', copyField p granted w = (.ret q, { w with heap := h' }) ∧ Owns mine h' (q :: ps) ∧
      (q = none ↔ p = none ∨ granted = false) ∧
      ∀ a, a ≠ w.heap.next → h'.blocks a = w.heap.blocks a := by
  rcases given with rfl | foreign
  · exact ⟨none, w.heap, rfl, owns.null, by simp, fun _ _ => rfl⟩
  · obtain ⟨q, h', copies, owns', null, rest⟩ := strdup_ends granted owns foreign same
    obtain ⟨-, s, readable⟩ := foreign
    cases p with
    | none => simp [Heap.string?] at readable
    | some a =>
        refine ⟨q, h', ?_, owns', by simpa using null, rest⟩
        rw [copyField, if_pos (Option.isSome_some ..), onHeap_eq copies]

def copyConfig (config : Config) (grantsId grantsIp : Bool) : Prog World Int := do
  let clientId ← copyField config.clientId grantsId
  setConfigField ({ · with clientId := clientId })
  if config.clientId.isSome ∧ clientId = none then return -1
  else do
    let ipBroker ← copyField config.ipBroker grantsIp
    setConfigField ({ · with ipBroker := ipBroker })
    if config.ipBroker.isSome ∧ ipBroker = none then do
      onHeap (free clientId)
      return -1
    else do
      setConfigField ({ · with
        keepAlive := config.keepAlive
        portBroker := config.portBroker
        defaultQos := config.defaultQos })
      return 0

variable {config : Config} {grantsId grantsIp : Bool}

theorem setConfig_eq : setConfig (some config) grantsId grantsIp w =
    (do
      Prog.when w.client.config.clientId.isSome (onHeap (free w.client.config.clientId))
      Prog.when w.client.config.ipBroker.isSome (onHeap (free w.client.config.ipBroker))
      copyConfig config grantsId grantsIp : Prog World Int) w := rfl

theorem setConfig_frees (config : Config) (grantsId grantsIp : Bool) (owned : OwnsFields mine w) :
    ∃ h, setConfig (some config) grantsId grantsIp w =
        copyConfig config grantsId grantsIp { w with heap := h } ∧
      Owns mine h [w.client.buffer] ∧ h.next = w.heap.next ∧
      (∀ a, some a ∉ fields w → h.blocks a = w.heap.blocks a) ∧
      ∀ a, w.client.config.ipBroker = some a → h.live a = false := by
  obtain ⟨h, freesId, owns, freedId⟩ := freeField_ends (p := w.client.config.clientId) owned.owns
  obtain ⟨h', freesIp, owns', freedIp⟩ :=
    freeField_ends (w := { w with heap := h }) (p := w.client.config.ipBroker) owns
  refine ⟨h', ?_, owns', freedIp.next.trans freedId.next, fun a outside => ?_, freedIp.gone⟩
  · rw [setConfig_eq, Prog.bind_ret freesId, Prog.bind_ret freesIp]
  · rw [freedIp.others a fun here => outside (by simp [fields, here])]
    exact freedId.others a fun here => outside (by simp [fields, here])

/-- How `set_config` may end; where a copy fails, one field keeps a freed block. -/
inductive ConfigEnds (mine : Nat → Prop) (w : World) (config : Config) (grantsId grantsIp : Bool) :
    Outcome Int × World → Prop where
  | idFails (h : Heap) (given : config.clientId ≠ none) (refused : grantsId = false)
      (owns : Owns mine h [w.client.buffer])
      (freed : ∀ a, w.client.config.ipBroker = some a → h.live a = false) :
      ConfigEnds mine w config grantsId grantsIp
        (.ret (-1), withHeap w h { w.client.config with clientId := none })
  | ipFails (h : Heap) (copy : Ptr) (copied : ¬(config.clientId ≠ none ∧ grantsId = false))
      (given : config.ipBroker ≠ none) (refused : grantsIp = false)
      (owns : Owns mine h [w.client.buffer]) (null : copy = none ↔ config.clientId = none)
      (freed : ∀ a, copy = some a → h.live a = false) :
      ConfigEnds mine w config grantsId grantsIp
        (.ret (-1), withHeap w h { w.client.config with clientId := copy, ipBroker := none })
  | copied (h : Heap) (new : Config) (id : ¬(config.clientId ≠ none ∧ grantsId = false))
      (ip : ¬(config.ipBroker ≠ none ∧ grantsIp = false))
      (owns : Owns mine h [new.clientId, new.ipBroker, w.client.buffer]) :
      ConfigEnds mine w config grantsId grantsIp (.ret 0, withHeap w h new)

theorem isSome_and_iff {copy : Ptr} (null : copy = none ↔ p = none ∨ granted = false) :
    p.isSome ∧ copy = none ↔ p ≠ none ∧ granted = false := by
  rw [null, Option.isSome_iff_ne_none]
  exact and_congr_right fun present => or_iff_right present

theorem setConfig_ends (grantsId grantsIp : Bool) (owned : OwnsFields mine w)
    (id : ForeignField w config.clientId) (ip : ForeignField w config.ipBroker) :
    ConfigEnds mine w config grantsId grantsIp
      (setConfig (some config) grantsId grantsIp w) := by
  obtain ⟨h, frees, owns, next, same, freed⟩ := setConfig_frees config grantsId grantsIp owned
  obtain ⟨copy, h', copies, owns', null, rest⟩ :=
    copyField_ends (w := { w with heap := h }) grantsId owns id fun a outside _ => same a outside
  have old : ∀ a, w.heap.live a = true → h'.blocks a = h.blocks a := fun a live =>
    rest a (next ▸ (Heap.lt_next_of_live live).ne)
  rw [frees, copyConfig, Prog.bind_ret copies, setConfigField_bind]
  dsimp only
  by_cases idFails : config.clientId.isSome ∧ copy = none
  · have fails := (isSome_and_iff null).mp idFails
    rw [if_pos idFails, idFails.2]
    rw [idFails.2] at owns'
    refine .idFails h' fails.1 fails.2 owns'.of_null fun a field => ?_
    rw [Heap.live, old a (owned.owns.live a (by simp [fields, field]))]
    exact freed a field
  · have copied := (isSome_and_iff null).not.mp idFails
    obtain ⟨copy', h'', copies', owns'', null', -⟩ :=
      copyField_ends (w := { w with
        heap := h', client := { w.client with config := { w.client.config with clientId := copy } } })
        grantsIp owns' ip fun a outside live => (old a live).trans (same a outside)
    rw [if_neg idFails, Prog.bind_ret copies', setConfigField_bind]
    dsimp only
    by_cases ipFails : config.ipBroker.isSome ∧ copy' = none
    · have fails := (isSome_and_iff null').mp ipFails
      rw [ipFails.2] at owns''
      obtain ⟨h3, frees', owns3, freed'⟩ := owns''.of_null.free
      rw [if_pos ipFails, ipFails.2, Prog.bind_ret (onHeap_eq frees')]
      refine .ipFails h3 copy copied fails.1 fails.2 owns3 ?_ freed'.gone
      rw [null]
      exact or_iff_left_of_imp fun refused => by_contra fun present => copied ⟨present, refused⟩
    · have copied' := (isSome_and_iff null').not.mp ipFails
      rw [if_neg ipFails, setConfigField_bind]
      exact .copied h'' _ copied copied' (owns''.perm (List.Perm.swap ..))

theorem freeAndReset_ends (owns : Owns mine w.heap (p :: ps)) (f : Config → Config) :
    ∃ w', Prog.when p.isSome (do
        onHeap (free p)
        setConfigField f) w = (.ret (), w') ∧ Owns mine w'.heap ps := by
  cases p with
  | none => exact ⟨w, rfl, owns.of_null⟩
  | some a =>
      obtain ⟨h, frees, owns', -⟩ := owns.free
      refine ⟨withHeap w h (f w.client.config), ?_, owns'⟩
      rw [Prog.when, if_pos (Option.isSome_some ..), Prog.bind_ret (onHeap_eq frees)]
      rfl

theorem destroyClient_ends (owned : OwnsFields mine w) (answer : CloseAnswer) :
    ∃ w', destroyClient answer w = (.ret 0, w') ∧ ∀ a, mine a → w'.heap.live a = false := by
  have last : (fields w).Perm
      (w.client.buffer :: [w.client.config.ipBroker, w.client.config.clientId]) :=
    (List.reverse_perm (fields w)).symm
  obtain ⟨h, frees, owns, -⟩ := (owned.owns.perm last).free
  obtain ⟨w', freesIp, ownsIp⟩ := freeAndReset_ends (w := { w with heap := h }) owns
    ({ · with ipBroker := none })
  obtain ⟨w'', freesId, ownsId⟩ := freeAndReset_ends ownsIp ({ · with clientId := none })
  refine ⟨w'', ?_, fun a isMine => ?_⟩
  · rw [destroyClient_eq, reset, if_neg (not_not.mpr owned.unconnected), freeBlocks,
      Prog.bind_ret (onHeap_eq frees), Prog.bind_ret freesIp, Prog.bind_ret freesId]
    rfl
  · by_contra live
    have member := ownsId.all a isMine (Bool.not_eq_false _ ▸ live)
    cases member

end

def GivesForeign : Call → World → Prop
  | .setClientId p _, w => ForeignString w p
  | .setBrokerIp p _, w => ForeignString w p
  | .setConfig config _ _, w =>
      ∀ c ∈ config, ForeignField w c.clientId ∧ ForeignField w c.ipBroker
  | .setBuffer p, w => p = none ∨ ForeignBlock w p
  | .receiveMessage .., _ => True
  | _, _ => False

/-- Where a copy fails in `set_config`, there is no other string to be lost. -/
def FailsAlone (config : Config) (grantsId grantsIp : Bool) (w : World) : Prop :=
  if config.clientId ≠ none ∧ grantsId = false then w.client.config.ipBroker = none
  else config.ipBroker ≠ none ∧ grantsIp = false → config.clientId = none

def CopiesSafely : Call → World → Prop
  | .setConfig (some config) grantsId grantsIp, w => FailsAlone config grantsId grantsIp w
  | _, _ => True

section
variable {mine : Nat → Prop} {w : World}

theorem setConfig_owns {config : Config} {grantsId grantsIp : Bool} (owned : OwnsFields mine w)
    (id : ForeignField w config.clientId) (ip : ForeignField w config.ipBroker)
    (safe : FailsAlone config grantsId grantsIp w) :
    ∃ r w', setConfig (some config) grantsId grantsIp w = (.ret r, w') ∧ OwnsFields mine w' := by
  have ends := setConfig_ends grantsId grantsIp owned id ip
  unfold FailsAlone at safe
  cases outcome : setConfig (some config) grantsId grantsIp w with
  | mk o w' =>
      rw [outcome] at ends
      cases ends with
      | idFails h given refused owns freed =>
          rw [if_pos ⟨given, refused⟩] at safe
          refine ⟨_, _, rfl, ⟨?_, owned.unconnected⟩⟩
          change Owns mine h [none, w.client.config.ipBroker, w.client.buffer]
          rw [safe]
          exact owns.null.null
      | ipFails h copy copied given refused owns null freed =>
          rw [if_neg copied] at safe
          refine ⟨_, _, rfl, ⟨?_, owned.unconnected⟩⟩
          change Owns mine h [copy, none, w.client.buffer]
          rw [null.mpr (safe ⟨given, refused⟩)]
          exact owns.null.null
      | copied h new id ip owns => exact ⟨_, _, rfl, ⟨owns, owned.unconnected⟩⟩

theorem setConfig_disowns {config : Config} {grantsId grantsIp : Bool} (owned : OwnsFields mine w)
    (id : ForeignField w config.clientId) (ip : ForeignField w config.ipBroker)
    (violated : ¬FailsAlone config grantsId grantsIp w) :
    ¬FieldsOwned (setConfig (some config) grantsId grantsIp w).2 := by
  have ends := setConfig_ends grantsId grantsIp owned id ip
  unfold FailsAlone at violated
  intro fieldsOwned
  cases outcome : setConfig (some config) grantsId grantsIp w with
  | mk o w' =>
      rw [outcome] at ends fieldsOwned
      cases ends with
      | idFails h given refused owns freed =>
          rw [if_pos ⟨given, refused⟩] at violated
          obtain ⟨a, field⟩ := Option.ne_none_iff_exists'.mp violated
          have live := fieldsOwned.live a (by simp [fields, withHeap, field])
          exact absurd live (by simpa [withHeap] using freed a field)
      | ipFails h copy copied given refused owns null freed =>
          rw [if_neg copied] at violated
          push Not at violated
          obtain ⟨a, field⟩ := Option.ne_none_iff_exists'.mp (null.not.mpr violated.2)
          have live := fieldsOwned.live a (by simp [fields, withHeap, field])
          exact absurd live (by simpa [withHeap] using freed a field)
      | copied h new id ip owns =>
          rw [if_neg id] at violated
          exact violated fun fails => absurd fails ip

theorem exec_owns (c : Call) (w : World) (gives : GivesForeign c w) (owned : OwnsFields mine w)
    (safe : CopiesSafely c w) :
    ∃ r w', c.exec w = (.ret r, w') ∧ OwnsFields mine w' := by
  cases c with
  | setClientId p granted =>
      obtain ⟨r, w', call, owned'⟩ := setClientId_ends granted owned gives
      exact ⟨_, w', returning_ret call, owned'⟩
  | setBrokerIp p granted =>
      obtain ⟨r, w', call, owned'⟩ := setBrokerIp_ends granted owned gives
      exact ⟨_, w', returning_ret call, owned'⟩
  | setConfig config grantsId grantsIp =>
      cases config with
      | none => exact ⟨_, w, returning_ret rfl, owned⟩
      | some config =>
          obtain ⟨id, ip⟩ := gives config rfl
          obtain ⟨r, w', call, owned'⟩ := setConfig_owns owned id ip safe
          exact ⟨_, w', returning_ret call, owned'⟩
  | setBuffer p =>
      obtain ⟨r, w', call, owned'⟩ := setBuffer_ends owned gives
      exact ⟨_, w', returning_ret call, owned'⟩
  | receiveMessage protocol granted answer =>
      have unread : w.client.socket < 0 := by rw [owned.unconnected]; decide
      exact ⟨_, w, returning_ret (receiveMessage_unread protocol granted answer (Or.inl unread)),
        owned⟩
  | _ => exact gives.elim

theorem exec_disowns (c : Call) (w : World) (gives : GivesForeign c w) (owned : OwnsFields mine w)
    (violated : ¬CopiesSafely c w) : ¬FieldsOwned (c.exec w).2 := by
  cases c with
  | setConfig config grantsId grantsIp =>
      rw [Call.exec, returning_snd]
      cases config with
      | none => exact absurd trivial violated
      | some config =>
          obtain ⟨id, ip⟩ := gives config rfl
          exact setConfig_disowns owned id ip violated
  | setClientId p granted => exact absurd trivial violated
  | setBrokerIp p granted => exact absurd trivial violated
  | setBuffer p => exact absurd trivial violated
  | receiveMessage protocol granted answer => exact absurd trivial violated
  | _ => exact gives.elim

end
structure HeapSound (config : Config) (bufferSize : Nat) (before w : World) (calls : List Call)
    (answer : CloseAnswer) : Prop where
  failed_create : ∀ grantsId grantsIp grantsBuffer failed,
    createClient (some config) bufferSize grantsId grantsIp grantsBuffer before =
      (.ret (-1), failed) → ∀ a, failed.heap.live a = before.heap.live a
  owned : Prog.Always Call.exec FieldsOwned calls w
  -- freeing or reading a freed block is undefined
  returns : Prog.Completes Call.exec (calls ++ [.destroyClient answer]) w
  allocated_freed : ∀ a, before.heap.next ≤ a →
    (Prog.run Call.exec (calls ++ [.destroyClient answer]) w).heap.live a = false
  owned_freed : ∀ pre, pre <+: calls → ∀ a, some a ∈ fields (Prog.run Call.exec pre w) →
    (Prog.run Call.exec (calls ++ [.destroyClient answer]) w).heap.live a = false

section
variable {mine : Nat → Prop} {w : World} {calls : List Call} {answer : CloseAnswer}

theorem run_owns (owned : OwnsFields mine w) (gives : Prog.Meets Call.exec GivesForeign calls w)
    (safe : Prog.Meets Call.exec CopiesSafely calls w) :
    Prog.Completes Call.exec calls w ∧ OwnsFields mine (Prog.run Call.exec calls w) :=
  Prog.run_returns owned (fun c w owned both => exec_owns c w both.1 owned both.2) (gives.and safe)

theorem destroy_returns (owned : OwnsFields mine w) (answer : CloseAnswer) :
    Prog.Completes Call.exec [.destroyClient answer] w ∧
      ∀ a, mine a → (Prog.run Call.exec [.destroyClient answer] w).heap.live a = false := by
  obtain ⟨w', call, freed⟩ := destroyClient_ends owned answer
  have ends : Call.exec (.destroyClient answer) w = (.ret (some 0), w') := returning_ret call
  rw [Prog.run_singleton, ends]
  exact ⟨⟨some 0, by rw [ends], trivial⟩, freed⟩

theorem run_frees (owned : OwnsFields mine w) (gives : Prog.Meets Call.exec GivesForeign calls w)
    (safe : Prog.Meets Call.exec CopiesSafely calls w) (answer : CloseAnswer) :
    Prog.Completes Call.exec (calls ++ [.destroyClient answer]) w ∧
      ∀ a, mine a →
        (Prog.run Call.exec (calls ++ [.destroyClient answer]) w).heap.live a = false := by
  obtain ⟨completes, owned'⟩ := run_owns owned gives safe
  obtain ⟨returns, freed⟩ := destroy_returns owned' answer
  rw [Prog.run_append completes]
  exact ⟨completes.append returns, freed⟩

theorem OwnsFields.also (owned : OwnsFields mine w) {a : Nat} (field : some a ∈ fields w) :
    OwnsFields (fun b => mine b ∨ b = a) w where
  owns :=
    { live := owned.owns.live
      alone := owned.owns.alone
      all := by
        rintro b (isMine | rfl) live
        · exact owned.owns.all b isMine live
        · exact field }
  unconnected := owned.unconnected

end

theorem created_owns {config : Config} {bufferSize : Nat} {before w : World}
    (created : Created config bufferSize before w) :
    OwnsFields (fun a => before.heap.next ≤ a) w := by
  obtain ⟨-, id, ip, rfl⟩ := created_cases created
  have none : Owns (fun a => before.heap.next ≤ a) before.heap [] := by
    refine ⟨nofun, List.nodup_nil, fun a isMine live => ?_⟩
    exact absurd (Heap.lt_next_of_live live) (Nat.not_lt.mpr isMine)
  have all := ((none.alloc (id.bytes ++ [0])).alloc (ip.bytes ++ [0])).alloc
    (List.replicate (bufferSizeOf bufferSize) 0)
  exact ⟨all.perm (List.reverse_perm _).symm, rfl⟩

theorem heapSound_iff (config : Config) (bufferSize : Nat) (before w : World)
    (created : Created config bufferSize before w) (calls : List Call)
    (gives : Prog.Meets Call.exec GivesForeign calls w) (answer : CloseAnswer) :
    HeapSound config bufferSize before w calls answer ↔
      Prog.Meets Call.exec CopiesSafely calls w := by
  have start := created_owns created
  have owned_iff := Prog.safe_iff_meets (P := FieldsOwned) start gives
    (fun _ owned => ⟨owned.owns.live, owned.owns.alone⟩)
    (fun c w gives owned safe => by
      obtain ⟨r, w', call, owned'⟩ := exec_owns c w gives owned safe
      rwa [call])
    (fun c w gives owned violated => exec_disowns c w gives owned violated)
  constructor
  · intro sound
    exact owned_iff.mp sound.owned
  · intro safe
    obtain ⟨returns, allocated⟩ := run_frees start gives safe answer
    refine ⟨?_, owned_iff.mpr safe, returns, allocated, ?_⟩
    · intro grantsId grantsIp grantsBuffer failed call
      have ends := createClient_ends config bufferSize grantsId grantsIp grantsBuffer before
      rw [call] at ends
      cases ends with
      | failed client h same => exact same
    · rintro pre ⟨rest, rfl⟩ a field
      obtain ⟨completes, owned⟩ := run_owns start
        (gives.of_prefix (List.prefix_append pre rest)) (safe.of_prefix (List.prefix_append pre rest))
      obtain ⟨-, freed⟩ := run_frees (owned.also field) (gives.of_append completes)
        (safe.of_append completes) answer
      rw [List.append_assoc, Prog.run_append completes]
      exact freed a (Or.inr rfl)

theorem setConfig_keeps_freed :
    ¬HeapSound sampleConfig 256 sampleWorld sampleClient
      [.setConfig (some sampleConfig) false true] .done := by
  intro sound
  have live := (sound.owned _ (List.prefix_refl _)).live 3
  exact absurd (live (by decide +kernel)) (by decide +kernel)

theorem heapSound_sample :
    HeapSound sampleConfig 256 sampleWorld sampleClient
      [.setClientId (some 1) false, .setConfig (some sampleConfig) true true] .done := by
  refine (heapSound_iff sampleConfig 256 sampleWorld sampleClient sampleClient_created
    [.setClientId (some 1) false, .setConfig (some sampleConfig) true true] ?_ .done).mpr ?_
  · refine ⟨⟨by decide +kernel, ⟨[0x31], by decide⟩, by decide +kernel⟩,
      fun _ _ => ⟨?_, fun _ _ => trivial⟩⟩
    rintro c ⟨⟩
    exact ⟨Or.inr ⟨by decide +kernel, ⟨[0x63], by decide⟩, by decide +kernel⟩,
      Or.inr ⟨by decide +kernel, ⟨[0x31], by decide⟩, by decide +kernel⟩⟩
  · refine ⟨trivial, fun _ _ => ⟨?_, fun _ _ => trivial⟩⟩
    change FailsAlone sampleConfig true true _
    unfold FailsAlone
    rw [if_neg (by decide)]
    exact fun fails => absurd fails.2 (by decide)

end Dpubsub.Proof
