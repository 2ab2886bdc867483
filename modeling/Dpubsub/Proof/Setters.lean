import Dpubsub.Proof.Ownership

/-!
# Setters that fail, and setters given what the getters return

The setters free a string before they copy the one that replaces it.
-/

namespace Dpubsub.Proof
open Dpubsub.Lib Dpubsub.Model

def Keeps (before after : Outcome (Option CString)) : Prop := ∀ s, before = .ret s → after = .ret s

section
variable {h : Heap} {p q : Ptr}

theorem stringArg_unreadable (given : p ≠ none) (unreadable : h.string? p = none) :
    (stringArg p h).1 = .undefined := by
  cases p with
  | none => exact absurd rfl given
  | some a => simp only [stringArg, unreadable]

theorem stringArg_congr {h' : Heap} (same : h'.string? p = h.string? p) :
    (stringArg p h').1 = (stringArg p h).1 := by
  cases p with
  | none => rfl
  | some a =>
      unfold stringArg
      simp only [same]
      cases h.string? (some a) <;> rfl

theorem keeps_null : Keeps (stringArg p h).1 (.ret none) ↔ h.string? p = none := by
  cases string : h.string? p with
  | some s =>
      rw [stringArg_readable string]
      exact iff_of_false (fun keeps => by cases keeps _ rfl) (by simp)
  | none =>
      refine iff_of_true (fun s read => ?_) rfl
      by_cases null : p = none
      · subst null
        cases read
        rfl
      · rw [stringArg_unreadable null string] at read
        cases read

theorem keeps_undefined :
    Keeps (stringArg p h).1 .undefined ↔ p ≠ none ∧ h.string? p = none := by
  constructor
  · intro keeps
    have notNull : p ≠ none := by
      rintro rfl
      cases keeps none rfl
    refine ⟨notNull, ?_⟩
    by_contra readable
    obtain ⟨s, string⟩ := Option.ne_none_iff_exists'.mp readable
    cases keeps (some s) (by rw [stringArg_readable string])
  · rintro ⟨notNull, unreadable⟩ s read
    rw [stringArg_unreadable notNull unreadable] at read
    cases read

theorem keeps_released (unreadable : h.string? p = none) (q : Ptr) :
    Keeps (stringArg q h).1 (stringArg q (released h p)).1 := by
  by_cases same : q = p
  · subst same
    rintro s read
    by_cases null : q = none
    · subst null
      exact read
    · rw [stringArg_unreadable null unreadable] at read
      cases read
  · rw [stringArg_congr (string?_released_of_ne same)]
    exact fun _ read => read

end

section
variable {w w' : World} {p copy : Ptr} {granted : Bool}

theorem onHeap_strdup_refused (readable : w.heap.string? p ≠ none) :
    onHeap (strdup p false) w = (.ret none, w) := by
  obtain ⟨s, string⟩ := Option.ne_none_iff_exists'.mp readable
  rw [onHeap, Prog.zoom_apply, strdup_refused string]

theorem onHeap_strdup_returns (call : onHeap (strdup p granted) w = (.ret copy, w')) :
    ∃ s, w.heap.string? p = some s ∧ copy = (if granted then some w.heap.next else none) ∧
      w' = { w with heap := if granted then w.heap.alloc (s.bytes ++ [0]) else w.heap } := by
  cases string : w.heap.string? p with
  | none =>
      rw [onHeap, Prog.zoom_apply, strdup_unreadable string] at call
      cases call
  | some s =>
      refine ⟨s, rfl, ?_⟩
      cases granted with
      | true =>
          rw [onHeap, Prog.zoom_apply, strdup_granted string] at call
          cases call
          exact ⟨rfl, rfl⟩
      | false =>
          rw [onHeap, Prog.zoom_apply, strdup_refused string] at call
          cases call
          exact ⟨rfl, rfl⟩

end

structure Unchanged (w w' : World) : Prop where
  clientId : Keeps (stringArg (getClientId w.client) w.heap).1
    (stringArg (getClientId w'.client) w'.heap).1
  brokerIp : Keeps (stringArg (getBrokerIp w.client) w.heap).1
    (stringArg (getBrokerIp w'.client) w'.heap).1
  keepAlive : getKeepAlive w'.client = getKeepAlive w.client
  port : getBrokerPort w'.client = getBrokerPort w.client
  qos : getQos w'.client = getQos w.client

def FailsAtomically (m : Prog World Int) (w : World) : Prop :=
  ∀ w', m w = (.ret (-1), w') → Unchanged w w'

/-- The copy fails after a string has been freed that could be read. -/
def LosesString (field p : Ptr) (granted : Bool) (w : World) : Prop :=
  granted = false ∧ w.heap.string? field ≠ none ∧ p ≠ field ∧ w.heap.string? p ≠ none

section
variable {w w' : World} {field p : Ptr} {put : Ptr → Config → Config} {granted : Bool}

def emptied (w : World) (field : Ptr) (put : Ptr → Config → Config) : World :=
  { withFreed w field with client := { w.client with config := put none w.client.config } }

theorem replaceField_fails (live : ∀ a, field = some a → w.heap.live a = true)
    (readable : (released w.heap field).string? p ≠ none) :
    replaceField field put p false w = (.ret (-1), emptied w field put) := by
  have refused : onHeap (strdup p false) (withFreed w field) = (.ret none, withFreed w field) :=
    onHeap_strdup_refused readable
  rw [replaceField, Prog.bind_ret (freeField_live live), Prog.bind_ret refused]
  rfl

theorem replaceField_returns (call : replaceField field put p granted w = (.ret (-1), w')) :
    granted = false ∧ (released w.heap field).string? p ≠ none ∧ w' = emptied w field put := by
  rw [replaceField, Prog.bind_eq_ret] at call
  obtain ⟨_, _, freed, call⟩ := call
  obtain ⟨live, rfl⟩ := freeField_iff.mp freed
  rw [Prog.bind_eq_ret] at call
  obtain ⟨copy, _, copied, call⟩ := call
  obtain ⟨s, string, rfl, rfl⟩ := onHeap_strdup_returns copied
  have readable : (released w.heap field).string? p ≠ none := by
    rw [show (released w.heap field).string? p = some s from string]
    exact Option.some_ne_none s
  rw [Prog.bind_eq_ret] at call
  obtain ⟨_, _, set, call⟩ := call
  cases granted with
  | true =>
      rw [if_pos rfl, if_neg (by simp)] at call
      cases call
  | false =>
      cases set
      cases call
      exact ⟨rfl, readable, rfl⟩

theorem replaceField_atomic_iff
    (unchanged : Unchanged w (emptied w field put) ↔ w.heap.string? field = none) :
    FailsAtomically (replaceField field put p granted) w ↔ ¬LosesString field p granted w := by
  constructor
  · rintro atomic ⟨rfl, readable, other, given⟩
    have fails : replaceField field put p false w = (.ret (-1), emptied w field put) :=
      replaceField_fails (Heap.live_of_readable readable) (string?_released.mpr ⟨other, given⟩)
    exact readable (unchanged.mp (atomic _ fails))
  · intro safe w' call
    obtain ⟨refused, given, rfl⟩ := replaceField_returns call
    obtain ⟨other, given⟩ := string?_released.mp given
    refine unchanged.mpr ?_
    by_contra readable
    exact safe ⟨refused, readable, other, given⟩

theorem setClientId_atomic_iff : FailsAtomically (setClientId p granted) w ↔
    ¬LosesString w.client.config.clientId p granted w := by
  have unchanged : Unchanged w (emptied w w.client.config.clientId
      fun copy config => { config with clientId := copy }) ↔
      w.heap.string? w.client.config.clientId = none := by
    refine ⟨fun same => keeps_null.mp same.clientId, fun unreadable => ?_⟩
    exact ⟨keeps_null.mpr unreadable, keeps_released unreadable _, rfl, rfl, rfl⟩
  exact replaceField_atomic_iff unchanged

theorem setBrokerIp_atomic_iff : FailsAtomically (setBrokerIp p granted) w ↔
    ¬LosesString w.client.config.ipBroker p granted w := by
  have unchanged : Unchanged w (emptied w w.client.config.ipBroker
      fun copy config => { config with ipBroker := copy }) ↔
      w.heap.string? w.client.config.ipBroker = none := by
    refine ⟨fun same => keeps_null.mp same.brokerIp, fun unreadable => ?_⟩
    exact ⟨keeps_released unreadable _, keeps_null.mpr unreadable, rfl, rfl, rfl⟩
  exact replaceField_atomic_iff unchanged

end

def freedBoth (w : World) : World :=
  withFreed (withFreed w w.client.config.clientId) w.client.config.ipBroker

structure CanFree (w : World) : Prop where
  clientId : ∀ a, w.client.config.clientId = some a → w.heap.live a = true
  ipBroker : ∀ a, w.client.config.ipBroker = some a →
    (released w.heap w.client.config.clientId).live a = true

def Copyable (w : World) (p : Ptr) : Prop :=
  p ≠ w.client.config.clientId ∧ p ≠ w.client.config.ipBroker ∧ w.heap.string? p ≠ none

def IdFails (config : Config) (grantsId : Bool) (w : World) : Prop :=
  Copyable w config.clientId ∧ grantsId = false

def IpFails (config : Config) (grantsId grantsIp : Bool) (w : World) : Prop :=
  (config.clientId = none ∨ Copyable w config.clientId ∧ grantsId = true) ∧
    -- a wild pointer may lead to where the id has just been copied
    (Copyable w config.ipBroker ∨ config.clientId ≠ none ∧ config.ipBroker = some w.heap.next) ∧
    grantsIp = false

/-- A copy fails, and there was a string, or there was no id and there is one now. -/
def LosesConfig (config : Config) (grantsId grantsIp : Bool) (w : World) : Prop :=
  CanFree w ∧
    (IdFails config grantsId w ∧ (w.heap.string? w.client.config.clientId ≠ none ∨
        w.heap.string? w.client.config.ipBroker ≠ none) ∨
      IpFails config grantsId grantsIp w ∧ (w.heap.string? w.client.config.clientId ≠ none ∨
        w.heap.string? w.client.config.ipBroker ≠ none ∨
        w.client.config.clientId = none ∧ config.clientId ≠ none))

section
variable {w w' : World} {p copy : Ptr} {h : Heap} {granted : Bool} {config : Config}
  {grantsId grantsIp : Bool}

theorem readable_freedBoth : (freedBoth w).heap.string? p ≠ none ↔ Copyable w p := by
  exact (string?_released.trans (and_congr_right fun _ => string?_released)).trans and_left_comm

theorem copyField_null (granted : Bool) (w : World) :
    copyField none granted w = (.ret none, w) := rfl

theorem copyField_given (given : w.heap.string? p ≠ none) (granted : Bool) :
    copyField p granted w = onHeap (strdup p granted) w := by
  rw [copyField, if_pos (Option.isSome_iff_ne_none.mpr (Heap.ne_none_of_readable given))]

theorem copyField_returns (call : copyField p granted w = (.ret copy, w')) :
    p = none ∧ copy = none ∧ w' = w ∨ w.heap.string? p ≠ none ∧ ∃ s : CString,
      copy = (if granted then some w.heap.next else none) ∧
      w' = { w with heap := if granted then w.heap.alloc (s.bytes ++ [0]) else w.heap } := by
  by_cases null : p = none
  · subst null
    cases call
    exact Or.inl ⟨rfl, rfl, rfl⟩
  · rw [copyField, if_pos (Option.isSome_iff_ne_none.mpr null)] at call
    obtain ⟨s, string, copied, after⟩ := onHeap_strdup_returns call
    refine Or.inr ⟨?_, s, copied, after⟩
    rw [string]
    exact Option.some_ne_none s

theorem setConfig_begins (frees : CanFree w) :
    setConfig (some config) grantsId grantsIp w =
      copyConfig config grantsId grantsIp (freedBoth w) := by
  rw [setConfig_eq, Prog.bind_ret (freeField_live frees.clientId),
    Prog.bind_ret (freeField_live frees.ipBroker)]
  rfl

theorem setConfig_canFree {r : Int}
    (call : setConfig (some config) grantsId grantsIp w = (.ret r, w')) : CanFree w := by
  rw [setConfig_eq, Prog.bind_eq_ret] at call
  obtain ⟨_, _, freedId, call⟩ := call
  obtain ⟨liveId, rfl⟩ := freeField_iff.mp freedId
  rw [Prog.bind_eq_ret] at call
  obtain ⟨_, _, freedIp, -⟩ := call
  exact ⟨liveId, (freeField_iff.mp freedIp).1⟩

def idFailed (w : World) : World :=
  withHeap w (freedBoth w).heap { w.client.config with clientId := none }

def ipFailed (w : World) (h : Heap) (copy : Ptr) : World :=
  withHeap w h { w.client.config with clientId := copy, ipBroker := none }

theorem setConfig_idFails (frees : CanFree w) (fails : IdFails config grantsId w) :
    setConfig (some config) grantsId grantsIp w = (.ret (-1), idFailed w) := by
  obtain ⟨copyable, rfl⟩ := fails
  have readable := readable_freedBoth.mpr copyable
  have given : config.clientId ≠ none := Heap.ne_none_of_readable readable
  have copies : copyField config.clientId false (freedBoth w) = (.ret none, freedBoth w) := by
    rw [copyField_given readable, onHeap_strdup_refused readable]
  rw [setConfig_begins frees, copyConfig, Prog.bind_ret copies, setConfigField_bind]
  dsimp only
  rw [if_pos ⟨Option.isSome_iff_ne_none.mpr given, rfl⟩]
  rfl

def copyIp (config : Config) (clientId : Ptr) (grantsIp : Bool) : Prog World Int := do
  let ipBroker ← copyField config.ipBroker grantsIp
  setConfigField ({ · with ipBroker := ipBroker })
  if config.ipBroker.isSome ∧ ipBroker = none then do
    onHeap (free clientId)
    return -1
  else do
    setConfigField ({ · with
      keepAlive := config.keepAlive
      portBroker := config.portBroker
      defaultQos := config.defaultQos })
    return 0

theorem copyConfig_eq : copyConfig config grantsId grantsIp w =
    (do
      let clientId ← copyField config.clientId grantsId
      setConfigField ({ · with clientId := clientId })
      if config.clientId.isSome ∧ clientId = none then return -1
      else copyIp config clientId grantsIp : Prog World Int) w := rfl

theorem copyIp_fails (readable : w.heap.string? config.ipBroker ≠ none)
    (live : ∀ a, copy = some a → w.heap.live a = true) : copyIp config copy false w =
      (.ret (-1), withHeap w (released w.heap copy) { w.client.config with ipBroker := none }) := by
  have given : config.ipBroker ≠ none := Heap.ne_none_of_readable readable
  have copies : copyField config.ipBroker false w = (.ret none, w) := by
    rw [copyField_given readable, onHeap_strdup_refused readable]
  rw [copyIp, Prog.bind_ret copies, setConfigField_bind]
  dsimp only
  rw [if_pos ⟨Option.isSome_iff_ne_none.mpr given, rfl⟩]
  exact Prog.bind_ret (onHeap_eq (free_iff.mpr ⟨live, rfl⟩))

theorem copyIp_returns (call : copyIp config copy grantsIp w = (.ret (-1), w')) :
    w.heap.string? config.ipBroker ≠ none ∧ grantsIp = false ∧
      w' = withHeap w (released w.heap copy) { w.client.config with ipBroker := none } := by
  rw [copyIp, Prog.bind_eq_ret] at call
  obtain ⟨_, _, copied, call⟩ := call
  rw [setConfigField_bind] at call
  dsimp only at call
  rcases copyField_returns copied with ⟨null, rfl, rfl⟩ | ⟨readable, s, rfl, rfl⟩
  · rw [null, if_neg (by simp)] at call
    cases call
  · cases grantsIp with
    | true =>
        rw [if_neg (by simp)] at call
        cases call
    | false =>
        have given : config.ipBroker ≠ none := Heap.ne_none_of_readable readable
        rw [if_pos ⟨Option.isSome_iff_ne_none.mpr given, rfl⟩, Prog.bind_eq_ret] at call
        obtain ⟨_, _, freed, call⟩ := call
        cases call
        obtain ⟨-, rfl⟩ := onHeap_free_iff.mp freed
        exact ⟨readable, rfl, rfl⟩

def IpFailed (config : Config) (w w' : World) : Prop := ∃ h copy, w' = ipFailed w h copy ∧
  (copy = none ↔ config.clientId = none) ∧ h.string? copy = none

theorem freedBoth_next (w : World) : (freedBoth w).heap.next = w.heap.next :=
  (released_next _ _).trans (released_next _ _)

theorem setConfig_ipFails (frees : CanFree w) (fails : IpFails config grantsId grantsIp w) :
    ∃ w', setConfig (some config) grantsId grantsIp w = (.ret (-1), w') ∧ IpFailed config w w' := by
  obtain ⟨id, ip, rfl⟩ := fails
  rw [setConfig_begins frees, copyConfig_eq]
  by_cases null : config.clientId = none
  · have copyable := ip.resolve_right fun wild => wild.1 null
    refine ⟨ipFailed w (freedBoth w).heap none, ?_, _, none, rfl, iff_of_true rfl null, rfl⟩
    rw [null, Prog.bind_ret (copyField_null grantsId (freedBoth w)), setConfigField_bind]
    dsimp only
    rw [if_neg (by simp)]
    exact copyIp_fails (readable_freedBoth.mpr copyable) (by simp)
  · obtain ⟨copyable, rfl⟩ := id.resolve_left null
    have readable := readable_freedBoth.mpr copyable
    obtain ⟨s, string⟩ := Option.ne_none_iff_exists'.mp readable
    have copies : copyField config.clientId true (freedBoth w) =
        (.ret (some (freedBoth w).heap.next),
          { freedBoth w with heap := (freedBoth w).heap.alloc (s.bytes ++ [0]) }) := by
      rw [copyField_given readable, onHeap_eq (strdup_granted string)]
    have ip' : ((freedBoth w).heap.alloc (s.bytes ++ [0])).string? config.ipBroker ≠ none := by
      rw [Heap.string?_alloc_readable, readable_freedBoth, freedBoth_next]
      exact ip.elim Or.inr fun wild => Or.inl wild.2
    have live : ∀ a, some (freedBoth w).heap.next = some a →
        ((freedBoth w).heap.alloc (s.bytes ++ [0])).live a = true := by
      rintro a ⟨⟩
      rw [Heap.live_alloc, decide_eq_true rfl, Bool.true_or]
    refine ⟨ipFailed w _ (some (freedBoth w).heap.next), ?_, _, _, rfl,
      iff_of_false (by simp) null,
      string?_released_self ((freedBoth w).heap.alloc (s.bytes ++ [0])) _⟩
    rw [Prog.bind_ret copies, setConfigField_bind]
    dsimp only
    rw [if_neg (by simp)]
    exact copyIp_fails ip' live

theorem setConfig_returns (call : setConfig (some config) grantsId grantsIp w = (.ret (-1), w')) :
    CanFree w ∧ (IdFails config grantsId w ∧ w' = idFailed w ∨
      IpFails config grantsId grantsIp w ∧ IpFailed config w w') := by
  have frees := setConfig_canFree call
  refine ⟨frees, ?_⟩
  rw [setConfig_begins frees, copyConfig_eq, Prog.bind_eq_ret] at call
  obtain ⟨_, _, copied, call⟩ := call
  rw [setConfigField_bind] at call
  dsimp only at call
  rcases copyField_returns copied with ⟨null, rfl, rfl⟩ | ⟨readable, s, rfl, rfl⟩
  · rw [if_neg (by simp [null])] at call
    obtain ⟨ip, refused, rfl⟩ := copyIp_returns call
    refine Or.inr ⟨⟨Or.inl null, Or.inl (readable_freedBoth.mp ip), refused⟩, _, none, rfl,
      iff_of_true rfl null, rfl⟩
  · have given : config.clientId ≠ none := Heap.ne_none_of_readable readable
    cases grantsId with
    | false =>
        rw [if_pos ⟨Option.isSome_iff_ne_none.mpr given, rfl⟩] at call
        cases call
        exact Or.inl ⟨⟨readable_freedBoth.mp readable, rfl⟩, rfl⟩
    | true =>
        rw [if_neg (by simp)] at call
        obtain ⟨ip, refused, rfl⟩ := copyIp_returns call
        refine Or.inr ⟨⟨Or.inr ⟨readable_freedBoth.mp readable, rfl⟩, ?_, refused⟩, _, _, rfl,
          iff_of_false (by simp) given, string?_released_self _ _⟩
        rcases Heap.string?_alloc_readable.mp ip with wild | copyable
        · exact Or.inr ⟨given, wild.trans (congrArg some (freedBoth_next w))⟩
        · exact Or.inl (readable_freedBoth.mp copyable)

theorem keeps_gone {h' : Heap} (gone : h'.string? p = none) :
    Keeps (stringArg p h).1 (stringArg p h').1 ↔ h.string? p = none := by
  by_cases null : p = none
  · subst null
    exact iff_of_true (fun _ read => read) rfl
  · rw [stringArg_unreadable null gone, keeps_undefined]
    exact and_iff_right null

theorem idFailed_unchanged_iff : Unchanged w (idFailed w) ↔
    w.heap.string? w.client.config.clientId = none ∧
      w.heap.string? w.client.config.ipBroker = none := by
  have gone : (freedBoth w).heap.string? w.client.config.ipBroker = none :=
    string?_released_self _ _
  constructor
  · exact fun same => ⟨keeps_null.mp same.clientId, (keeps_gone gone).mp same.brokerIp⟩
  · exact fun ⟨id, ip⟩ => ⟨keeps_null.mpr id, (keeps_gone gone).mpr ip, rfl, rfl, rfl⟩

theorem ipFailed_unchanged_iff (failed : IpFailed config w w') : Unchanged w w' ↔
    w.heap.string? w.client.config.clientId = none ∧
      w.heap.string? w.client.config.ipBroker = none ∧
      (w.client.config.clientId = none → config.clientId = none) := by
  obtain ⟨h, copy, rfl, null, gone⟩ := failed
  have id : Keeps (stringArg w.client.config.clientId w.heap).1 (stringArg copy h).1 ↔
      w.heap.string? w.client.config.clientId = none ∧
        (w.client.config.clientId = none → config.clientId = none) := by
    by_cases empty : copy = none
    · subst empty
      exact keeps_null.trans (and_iff_left fun _ => null.mp rfl).symm
    · rw [stringArg_unreadable empty gone, keeps_undefined, and_comm]
      exact and_congr_right fun _ => ⟨fun present here => absurd here present,
        fun absent here => empty (null.mpr (absent here))⟩
  constructor
  · intro same
    obtain ⟨unreadable, absent⟩ := id.mp same.clientId
    exact ⟨unreadable, keeps_null.mp same.brokerIp, absent⟩
  · rintro ⟨unreadable, ip, absent⟩
    exact ⟨id.mpr ⟨unreadable, absent⟩, keeps_null.mpr ip, rfl, rfl, rfl⟩

theorem setConfig_atomic_iff : FailsAtomically (setConfig (some config) grantsId grantsIp) w ↔
    ¬LosesConfig config grantsId grantsIp w := by
  constructor
  · rintro atomic ⟨frees, ⟨fails, lost⟩ | ⟨fails, lost⟩⟩
    · obtain ⟨id, ip⟩ := idFailed_unchanged_iff.mp (atomic _ (setConfig_idFails frees fails))
      exact lost.elim (fun some => some id) fun some => some ip
    · obtain ⟨w', call, failed⟩ := setConfig_ipFails frees fails
      obtain ⟨id, ip, absent⟩ := (ipFailed_unchanged_iff failed).mp (atomic w' call)
      rcases lost with some | some | ⟨none, new⟩
      · exact some id
      · exact some ip
      · exact new (absent none)
  · intro safe w' call
    obtain ⟨frees, ⟨fails, rfl⟩ | ⟨fails, failed⟩⟩ := setConfig_returns call
    · rw [idFailed_unchanged_iff]
      by_contra some
      exact safe ⟨frees, Or.inl ⟨fails, not_and_or.mp some⟩⟩
    · rw [ipFailed_unchanged_iff failed]
      by_contra lost
      refine safe ⟨frees, Or.inr ⟨fails, ?_⟩⟩
      rw [not_and_or, not_and_or, Classical.not_imp] at lost
      exact lost

end

theorem failed_setters_iff (w : World) (p : Ptr) (granted : Bool) (config : Option Config)
    (grantsId grantsIp : Bool) :
    (FailsAtomically (setClientId p granted) w ↔
      ¬LosesString w.client.config.clientId p granted w) ∧
    (FailsAtomically (setBrokerIp p granted) w ↔
      ¬LosesString w.client.config.ipBroker p granted w) ∧
    (FailsAtomically (setConfig config grantsId grantsIp) w ↔
      ∀ c ∈ config, ¬LosesConfig c grantsId grantsIp w) := by
  refine ⟨setClientId_atomic_iff, setBrokerIp_atomic_iff, ?_⟩
  cases config with
  | none =>
      refine iff_of_true (fun w' call => ?_) (by simp)
      cases call
      exact ⟨fun _ read => read, fun _ read => read, rfl, rfl, rfl⟩
  | some config => exact setConfig_atomic_iff.trans (by simp)

theorem setClientId_loses : ¬FailsAtomically (setClientId (some 1) false) sampleClient := by
  intro atomic
  refine setClientId_atomic_iff.mp atomic ⟨rfl, ?_, ?_, ?_⟩
  · decide +kernel
  · decide +kernel
  · decide +kernel

/-- What is to hold of a setter that is given what the getter of its field returns. -/
def WritesBack (m : Prog World Int) (w : World) : Prop :=
  ∃ r w', m w = (.ret r, w') ∧
    w'.heap.string? (getClientId w'.client) = w.heap.string? (getClientId w.client) ∧
    w'.heap.string? (getBrokerIp w'.client) = w.heap.string? (getBrokerIp w.client) ∧
    getBrokerPort w'.client = getBrokerPort w.client ∧
    getKeepAlive w'.client = getKeepAlive w.client ∧ getQos w'.client = getQos w.client ∧
    w'.client.config.callbacks = w.client.config.callbacks

section
variable {w : World} {field : Ptr} {put : Ptr → Config → Config} {granted : Bool}

theorem replaceField_self (readable : w.heap.string? field ≠ none) :
    replaceField field put field granted w = (.undefined, withFreed w field) := by
  have freed : onHeap (strdup field granted) (withFreed w field) =
      (.undefined, withFreed w field) :=
    onHeap_eq (strdup_unreadable (string?_released_self w.heap field) granted)
  rw [replaceField, Prog.bind_ret (freeField_live (Heap.live_of_readable readable)),
    Prog.bind_undefined freed]

theorem setConfig_self (readable : w.heap.string? w.client.config.clientId ≠ none)
    (grantsId grantsIp : Bool) (r : Int) (w' : World) :
    setConfig (some (getConfig w.client)) grantsId grantsIp w ≠ (.ret r, w') := by
  intro call
  have given : w.client.config.clientId ≠ none := Heap.ne_none_of_readable readable
  rw [setConfig_begins (setConfig_canFree call), copyConfig_eq, Prog.bind_eq_ret] at call
  obtain ⟨_, _, copied, -⟩ := call
  rcases copyField_returns copied with ⟨null, -⟩ | ⟨again, -⟩
  · exact given null
  · exact (readable_freedBoth.mp again).1 rfl

end

theorem write_back_never (w : World) (id : w.heap.string? w.client.config.clientId ≠ none)
    (ip : w.heap.string? w.client.config.ipBroker ≠ none) :
    ¬WritesBack (setConfig (some (getConfig w.client)) true true) w ∧
    ¬WritesBack (setClientId (getClientId w.client) true) w ∧
    ¬WritesBack (setBrokerIp (getBrokerIp w.client) true) w := by
  refine ⟨?_, ?_, ?_⟩
  · rintro ⟨r, w', call, -⟩
    exact setConfig_self id true true r w' call
  · rintro ⟨r, w', call, -⟩
    have stuck : setClientId (getClientId w.client) true w =
        (.undefined, withFreed w w.client.config.clientId) := replaceField_self id
    cases stuck.symm.trans call
  · rintro ⟨r, w', call, -⟩
    have stuck : setBrokerIp (getBrokerIp w.client) true w =
        (.undefined, withFreed w w.client.config.ipBroker) := replaceField_self ip
    cases stuck.symm.trans call

theorem write_back_never_sample :
    ¬WritesBack (setConfig (some (getConfig sampleClient.client)) true true) sampleClient ∧
    ¬WritesBack (setClientId (getClientId sampleClient.client) true) sampleClient ∧
    ¬WritesBack (setBrokerIp (getBrokerIp sampleClient.client) true) sampleClient :=
  write_back_never sampleClient (by decide +kernel) (by decide +kernel)

theorem setConfig_reads_freed :
    ¬WritesBack (setConfig (some (getConfig sampleClient.client)) true true) sampleClient := by
  rintro ⟨r, w', call, -⟩
  exact setConfig_self (by decide +kernel) true true r w' call

end Dpubsub.Proof
