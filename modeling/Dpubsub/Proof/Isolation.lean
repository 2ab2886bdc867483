import Dpubsub.Model.Process
import Dpubsub.Proof.Inward
import Dpubsub.Proof.Session

/-!
# Clients that leave each other alone

A descriptor that is given up may be handed out again, and to any client. As long as no client uses
its socket field after giving up the descriptor in it, no client gets at the connection of another.
-/

namespace Dpubsub.Proof
open Dpubsub.Lib Dpubsub.Model

def current (w : World) (k : Nat) : Prop := w.net.conns w.client.socket = some k

/-- The socket field is unset, or stands for a connection that is `own`. -/
def Stands (own : Nat → Prop) (w : World) : Prop :=
  w.client.socket < 0 ∨ ∃ k, current w k ∧ own k

def UsesSocket : ClientCall → World → Prop
  | .call (.clientConnect a _ _), w => ¬Connects a w
  | .call (.disconnectClient .tcp _), _ | .call (.destroyClient _), _ => True
  | .call (.receiveMessage .tcp _ _), _ | .call (.clientDisconnect ..), _ => True
  | .call (.clientPublish ..), _ | .call (.clientUnsubscribe ..), _ => True
  | .call (.clientPingreq ..), _ => True
  | _, _ => False

/-- Whether the socket field is known to be unset or the client's own after a call, when that was
`sound` before. -/
def soundAfter : ClientCall → World → Prop → Prop
  | .call (.connectClient .tcp a), w, sound | .call (.clientConnect a _ _), w, sound =>
      Connects a w ∨ sound
  | .call (.disconnectClient .tcp answer), w, sound =>
      sound ∧ (w.client.socket < 0 ∨ answer = .kept)
  | .call (.destroyClient _), _, _ => True
  | .setSocketFd fd, _, _ => fd < 0
  | _, _, sound => sound

structure Behaves (uses : Prop) (after : Prop → Prop) (w w' : World) : Prop where
  spares : Net.Spares (fun k => uses ∧ current w k) w.net w'.net
  stands : ∀ (own : Nat → Prop) (sound : Prop), (sound → Stands own w) → after sound →
    Stands (fun k => own k ∨ w.net.opened ≤ k) w'

section
variable {own : Nat → Prop} {uses : Prop} {w w' : World} {a : ConnectAnswers}
  {stack : Nat → UInt8} {sends : List Int} {answer answer' : CloseAnswer}

theorem Stands.stays (stands : Stands own w) (socket : w'.client.socket = w.client.socket)
    (conns : ∀ fd k, w.net.conns fd = some k → w'.net.conns fd = some k) :
    Stands (fun k => own k ∨ w.net.opened ≤ k) w' := by
  rcases stands with unset | ⟨k, now, mine⟩
  · exact Or.inl (socket.trans_lt unset)
  · refine Or.inr ⟨k, ?_, Or.inl mine⟩
    rw [current, socket]
    exact conns _ k now

theorem behaves_idle (net : w'.net = w.net) (socket : w'.client.socket = w.client.socket) :
    Behaves uses (fun sound => sound) w w' where
  spares := by
    rw [net]
    exact .refl _ _
  stands _ _ stands sound := (stands sound).stays socket fun fd k now => by rwa [net]

theorem behaves_inward {m : Prog World Int} (inward : Inward m) :
    Behaves uses (fun sound => sound) w (returning m w).2 := by
  have same : outside (m w).2 = outside w := inward w
  rw [returning_snd]
  exact behaves_idle (congrArg Prod.fst same) (congrArg (fun x => x.2.1) same)

theorem behaves_sends {data : Nat → UInt8} {length : Nat} {calls : List SendCall}
    (net : w'.net = w.net.transfer w.client.socket data length calls)
    (socket : w'.client.socket = w.client.socket) : Behaves True (fun sound => sound) w w' where
  spares := by
    rw [net]
    exact (Net.transfer_spares w.net w.client.socket data length calls).mono
      fun _ _ now => ⟨trivial, now⟩
  stands _ _ stands sound := (stands sound).stays socket fun fd k now => by
    rw [net]
    exact now

theorem connectClientTcp_unavailable (taken : ¬(0 ≤ a.socket ∧ w.net.held a.socket = false)) :
    connectClientTcp a w = (.ret (-1), w) := by
  have refuses : onNet (createConnectionToServer a (w.heap.string? w.client.config.ipBroker)
      w.client.config.portBroker) w = (.ret (-1), w) := by
    rw [onNet, Prog.zoom_apply, createConnectionToServer, Prog.bind_ret (socket_refuses taken),
      if_pos (by decide)]
    rfl
  rw [connectClientTcp_eq, Prog.bind_ret refuses, if_pos (by decide)]
  rfl

theorem connectClientTcp_spares (fails : ¬Connects a w) : ∃ o n,
    connectClientTcp a w = (o, { w with net := n }) ∧ Net.Spares (fun _ => False) w.net n := by
  by_cases available : 0 ≤ a.socket ∧ w.net.held a.socket = false
  · obtain ⟨o, n, ends, state⟩ := connectClientTcp_fails fails
    refine ⟨o, n, state, ?_⟩
    cases ends with
    | refused => exact .refl _ _
    | unreadable nonneg _ => exact Net.openConn_spares _ nonneg available.2
    | closed nonneg unused =>
        apply (Net.openConn_spares _ nonneg unused).trans (Net.closed_spares _ _ a.close)
        intro k old current
        rw [Net.openConn_conns_self] at current
        exact old.ne' (Option.some.inj current)
  · exact ⟨_, w.net, connectClientTcp_unavailable available, .refl _ _⟩

theorem connectClientTcp_behaves (a : ConnectAnswers) (w : World) :
    Behaves False (fun sound => Connects a w ∨ sound) w (connectClientTcp a w).2 := by
  by_cases connects : Connects a w
  · rw [connectClientTcp_connects connects]
    refine ⟨Net.openConn_spares _ connects.nonneg connects.unused, fun own sound _ _ => ?_⟩
    exact Or.inr ⟨w.net.opened, Net.openConn_conns_self _ _ connects.nonneg, Or.inr le_rfl⟩
  · obtain ⟨o, n, state, spares⟩ := connectClientTcp_spares connects
    rw [state]
    refine ⟨spares.mono fun _ _ => False.elim, fun own sound stands after => ?_⟩
    exact (stands (after.resolve_left connects)).stays rfl spares.conns_kept

theorem announce_behaves (stack : Nat → UInt8) (sends : List Int) (w : World) :
    Behaves True (fun sound => sound) w (announce stack sends w).2 := by
  obtain ⟨o, silent | ⟨data, length, sent⟩⟩ := announce_sends stack sends w
  · rw [silent]
    exact behaves_idle rfl rfl
  · rw [sent]
    exact behaves_sends rfl rfl

theorem clientConnect_behaves (a : ConnectAnswers) (stack : Nat → UInt8) (sends : List Int)
    (w : World) : Behaves (¬Connects a w) (fun sound => Connects a w ∨ sound) w
      (clientConnect a stack sends w).2 := by
  have first := connectClientTcp_behaves a w
  rw [clientConnect_eq]
  by_cases connects : Connects a w
  · rw [connectClientTcp_connects connects] at first
    rw [Prog.bind_ret (connectClientTcp_connects connects)]
    have then_ := announce_behaves stack sends
      (withSocket w (w.net.openConn a.socket connects.nonneg) a.socket)
    have onNew : current (withSocket w (w.net.openConn a.socket connects.nonneg) a.socket)
        w.net.opened := Net.openConn_conns_self _ _ connects.nonneg
    constructor
    · apply (first.spares.mono fun _ _ used => used.1.elim).trans then_.spares
      rintro k old ⟨-, now⟩
      exact absurd (Option.some.inj (onNew.symm.trans now)) old.ne'
    · intro own sound _ _
      have stands := then_.stands (fun k => w.net.opened ≤ k) True
        (fun _ => Or.inr ⟨_, onNew, le_rfl⟩) trivial
      exact stands.imp_right fun ⟨k, now, new⟩ =>
        ⟨k, now, Or.inr (new.elim id fun newer => (Nat.le_succ _).trans newer)⟩
  · obtain ⟨o, n, state, spares⟩ := connectClientTcp_spares connects
    have kept : ∀ k, k < w.net.opened → current { w with net := n } k → current w k :=
      fun k old now => (spares.conns k old not_false _).mp now
    have stopped : Behaves (¬Connects a w) (fun sound => Connects a w ∨ sound) w
        { w with net := n } := by
      refine ⟨spares.mono fun _ _ => False.elim, fun own sound stands after => ?_⟩
      exact (stands (after.resolve_left connects)).stays rfl spares.conns_kept
    cases o with
    | ret r =>
        rw [Prog.bind_ret state]
        have then_ := announce_behaves stack sends { w with net := n }
        constructor
        · apply (spares.mono fun _ _ => False.elim).trans then_.spares
          rintro k old ⟨-, now⟩
          exact ⟨connects, kept k old now⟩
        · intro own sound stands after
          have here := stopped.stands own sound stands after
          have there := then_.stands _ True (fun _ => here) trivial
          refine there.imp_right fun ⟨k, now, mine⟩ => ⟨k, now, ?_⟩
          exact mine.elim id fun newer => Or.inr (spares.opened.trans newer)
    | pending =>
        rw [Prog.bind_pending state]
        exact stopped
    | undefined =>
        rw [Prog.bind_undefined state]
        exact stopped

theorem disconnectClientTcp_behaves (answer : CloseAnswer) (w : World) :
    Behaves True (fun sound => sound ∧ (w.client.socket < 0 ∨ answer = .kept)) w
      (disconnectClientTcp answer w).2 := by
  by_cases unset : w.client.socket < 0
  · rw [disconnectClientTcp_refuses unset]
    exact ⟨.refl _ _, fun own sound stands after => (stands after.1).stays rfl fun _ _ => id⟩
  · obtain ⟨callbacks, closes⟩ := disconnectClientTcp_closes answer (Int.not_lt.mp unset)
    rw [closes]
    constructor
    · exact (Net.closed_spares w.net w.client.socket answer).mono fun _ _ now => ⟨trivial, now⟩
    · intro own sound stands after
      refine (stands after.1).stays rfl fun fd k now => ?_
      change (w.net.closed w.client.socket answer).conns fd = some k
      rwa [after.2.resolve_left unset, Net.closed_kept]

theorem drops {after : Prop → Prop} (spares : Net.Spares (current w) w.net w'.net)
    (unset : w'.client.socket = -1) : Behaves True after w w' where
  spares := spares.mono fun _ _ now => ⟨trivial, now⟩
  stands _ _ _ _ := Or.inl (by rw [unset]; decide)

theorem destroyClient_behaves (answer : CloseAnswer) (w : World) :
    Behaves True (fun _ => True) w (destroyClient answer w).2 := by
  apply drops
  · rw [destroyClient_net, reset]
    split
    · exact Net.closed_spares w.net w.client.socket answer
    · exact .refl _ _
  · exact destroyClient_socket w answer

theorem clientDisconnect_behaves (stack : Nat → UInt8) (sends : List Int)
    (answer answer' : CloseAnswer) (w : World) : Behaves True (fun sound => sound) w
      (clientDisconnect stack sends answer answer' w).2 := by
  by_cases whole : 0 ≤ w.client.socket ∧ accepts 2 sends = true
  · obtain ⟨net, socket⟩ := clientDisconnect_whole stack answer answer' whole.1 whole.2
    apply drops _ socket
    rw [net]
    have sent := Net.transfer_spares w.net w.client.socket (disconnectBytes stack) 2
      (sendLoop w.client.socket 2 0 sends).1
    have closed := sent.trans (Net.closed_spares _ w.client.socket answer) fun _ _ now => now
    apply closed.trans (Net.closed_spares _ w.client.socket answer')
    intro k _ now
    have before := Net.conns_of_closed _ _ answer now
    exact before
  · obtain ⟨o, -, cut⟩ := clientDisconnect_cut stack answer answer' whole
    rw [cut]
    exact behaves_sends rfl rfl

theorem client_behaves (c : ClientCall) (w : World) :
    Behaves (UsesSocket c w) (soundAfter c w) w (c.exec w).2 := by
  cases c with
  | call c =>
      rw [ClientCall.exec]
      cases c with
      | connectClient protocol a =>
          rw [Call.exec, returning_snd]
          cases protocol with
          | tcp => exact connectClientTcp_behaves a w
          | unknown => exact behaves_idle rfl rfl
      | disconnectClient protocol answer =>
          cases protocol with
          | tcp => exact disconnectClientTcp_behaves answer w
          | unknown => exact behaves_idle rfl rfl
      | destroyClient answer =>
          rw [Call.exec, returning_snd]
          exact destroyClient_behaves answer w
      | receiveMessage protocol granted answer =>
          have behaves : Behaves (UsesSocket (.call (.receiveMessage protocol granted answer)) w)
              (fun sound => sound) w (returning (receiveMessage protocol granted answer) w).2 :=
            behaves_inward (inward_receiveMessage protocol granted answer)
          cases protocol with
          | tcp => exact behaves
          | unknown => exact behaves
      | setClientId clientId granted => exact behaves_inward (inward_setClientId clientId granted)
      | setBrokerIp ip granted => exact behaves_inward (inward_setBrokerIp ip granted)
      | setConfig config grantsId grantsIp =>
          exact behaves_inward (inward_setConfig config grantsId grantsIp)
      | setBuffer buffer => exact behaves_inward (inward_setBuffer buffer)
      | setBufferSize bufferSize => exact behaves_idle rfl rfl
      | clientConnect a stack sends =>
          rw [Call.exec, returning_snd]
          exact clientConnect_behaves a stack sends w
      | clientDisconnect stack sends answer answer' =>
          exact clientDisconnect_behaves stack sends answer answer' w
      | clientPublish topic message messageId retain dup stack sends =>
          rw [Call.exec, returning_snd, clientPublish_state]
          obtain ⟨callbacks, state⟩ := publish_state topic message messageId retain dup stack sends w
          rw [state]
          exact behaves_sends rfl rfl
      | clientUnsubscribe topic messageId stack sends =>
          rw [Call.exec, returning_snd]
          obtain ⟨o, silent | ⟨data, length, sent⟩⟩ :=
            clientUnsubscribe_sends topic messageId stack sends w
          · rw [silent]
            exact behaves_idle rfl rfl
          · rw [sent]
            exact behaves_sends rfl rfl
      | clientPingreq stack sends =>
          rw [Call.exec, returning_snd, clientPingreq_silent]
          exact behaves_idle rfl rfl
  | setQos qos => exact behaves_idle rfl rfl
  | setKeepAlive keepAlive => exact behaves_idle rfl rfl
  | setBrokerPort port => exact behaves_idle rfl rfl
  | setSocketFd fd => exact ⟨.refl _ _, fun _ _ _ unset => Or.inl unset⟩

theorem createClient_net (config : Option Config) (bufferSize : Nat)
    (grantsId grantsIp grantsBuffer : Bool) :
    Prog.Frames World.net (createClient config bufferSize grantsId grantsIp grantsBuffer) := by
  have heap : ∀ {β : Type} (m : Prog Heap β), Prog.Frames World.net (onHeap m) :=
    fun m => Prog.Frames.zoom (fun _ _ => by rfl) m
  have set : ∀ f : Client → Client, Prog.Frames World.net (setClient f) :=
    fun f => Prog.Frames.modify fun _ => by rfl
  have gives : ∀ p : Ptr, Prog.Frames World.net (do onHeap (free p); return (-1 : Int)) :=
    fun p => (heap _).bind fun _ => Prog.Frames.pure _
  cases config with
  | none => exact Prog.Frames.pure _
  | some config =>
      rw [createClient_eq]
      refine (heap _).bind fun clientId => (set _).bind fun _ => (Prog.Frames.pure _).ite ?_
      refine (set _).bind fun _ => (heap _).bind fun ipBroker => (set _).bind fun _ =>
        (gives _).ite ?_
      refine (set _).bind fun _ => (set _).bind fun _ => (heap _).bind fun buffer =>
        (set _).bind fun _ => Prog.Frames.ite ((heap _).bind fun _ => gives _) ?_
      refine Prog.Frames.bind (fun _ => by rfl) fun defined => Prog.Frames.ite ?_ ?_
      · exact (heap _).bind fun _ => (heap _).bind fun _ => gives _
      · exact (set _).bind fun _ => Prog.Frames.pure _

theorem createClient_socket {config : Option Config} {bufferSize : Nat}
    {grantsId grantsIp grantsBuffer : Bool}
    (returns : (createClient config bufferSize grantsId grantsIp grantsBuffer w).1 = .ret 0) :
    (createClient config bufferSize grantsId grantsIp grantsBuffer w).2.client.socket = -1 := by
  cases config with
  | none => cases returns
  | some config =>
      have ends := createClient_ends config bufferSize grantsId grantsIp grantsBuffer w
      rcases outcome : createClient (some config) bufferSize grantsId grantsIp grantsBuffer w with
        ⟨o, w'⟩
      rw [outcome] at ends returns
      cases ends with
      | created id ip => rfl
      | failed client h same => cases returns
      | unreadable => cases returns

end

structure Custody (ι : Type) where
  owner : Nat → Option ι
  sound : ι → Prop

def Custody.start {ι : Type} : Custody ι := ⟨fun _ => none, fun _ => False⟩

def UsesOwn : ProcessCall → World → Prop
  | .createClient .., _ => False
  | .client c, w => UsesSocket c w

def soundThen : ProcessCall → World → Outcome (Option Int) → Prop → Prop
  | .createClient .., _, o, _ => o = .ret (some 0)
  | .client c, w, _, sound => soundAfter c w sound

theorem process_behaves (c : ProcessCall) (w : World) :
    Behaves (UsesOwn c w) (soundThen c w (c.exec w).1) w (c.exec w).2 := by
  cases c with
  | createClient config bufferSize grantsId grantsIp grantsBuffer =>
      have net := createClient_net config bufferSize grantsId grantsIp grantsBuffer w
      constructor
      · rw [ProcessCall.exec, returning_snd, net]
        exact .refl _ _
      · intro own sound _ created
        have returns : (createClient config bufferSize grantsId grantsIp grantsBuffer w).1 =
            .ret 0 := by
          change (returning _ w).1 = _ at created
          obtain ⟨r, returned⟩ := returning_fst created
          have same := returning_ret (Prod.ext returned rfl :
            createClient config bufferSize grantsId grantsIp grantsBuffer w = (.ret r, _))
          rw [same] at created
          cases created
          exact returned
        left
        rw [ProcessCall.exec, returning_snd, createClient_socket returns]
        decide
  | client c => exact client_behaves c w

section
variable {ι : Type} {c : ι × ProcessCall} {x : Process ι × Custody ι}

def Careful (c : ι × ProcessCall) (x : Process ι × Custody ι) : Prop :=
  UsesOwn c.2 (x.1.world c.1) → x.2.sound c.1

structure Fenced (x : Process ι × Custody ι) : Prop where
  owned_lt : ∀ k i, x.2.owner k = some i → k < x.1.net.opened
  stands : ∀ i, x.2.sound i → Stands (fun k => x.2.owner k = some i) (x.1.world i)

theorem fenced_start (p : Process ι) : Fenced (p, Custody.start) where
  owned_lt _ _ owned := by cases owned
  stands _ sound := sound.elim

theorem Fenced.own (fenced : Fenced x) (careful : Careful c x) {k : Nat}
    (used : UsesOwn c.2 (x.1.world c.1) ∧ current (x.1.world c.1) k) :
    x.2.owner k = some c.1 := by
  rcases fenced.stands c.1 (careful used.1) with unset | ⟨k', now, mine⟩
  · have none : x.1.net.conns (x.1.clients c.1).socket = none := x.1.net.conns_neg _ unset
    have now : x.1.net.conns (x.1.clients c.1).socket = some k := used.2
    rw [none] at now
    cases now
  · have same : k' = k := Option.some.inj (now.symm.trans used.2)
    rwa [← same]

variable [DecidableEq ι]

def Custody.note (c : ι × ProcessCall) (p : Process ι) (ended : Outcome (Option Int) × Process ι)
    (h : Custody ι) : Custody ι where
  owner k := if p.net.opened ≤ k ∧ k < ended.2.net.opened then some c.1 else h.owner k
  sound := Function.update h.sound c.1 (soundThen c.2 (p.world c.1) ended.1 (h.sound c.1))

theorem Fenced.spares (fenced : Fenced x) (careful : Careful c x) :
    Net.Spares (fun k => x.2.owner k = some c.1) x.1.net (Process.exec c x.1).2.net :=
  (process_behaves c.2 (x.1.world c.1)).spares.mono fun _ _ used => fenced.own careful used

theorem Fenced.step (c : ι × ProcessCall) (x : Process ι × Custody ι) (fenced : Fenced x)
    (careful : Careful c x) : Fenced (Prog.observed Process.exec Custody.note c x).2 := by
  have spares := fenced.spares careful
  have behaves := process_behaves c.2 (x.1.world c.1)
  -- what is older keeps its owner
  have older : ∀ k, k < x.1.net.opened →
      (Prog.observed Process.exec Custody.note c x).2.2.owner k = x.2.owner k := fun k old =>
    if_neg fun new => old.not_ge new.1
  constructor
  · intro k i owned
    by_cases new : x.1.net.opened ≤ k ∧ k < (Process.exec c x.1).2.net.opened
    · exact new.2
    · have before : x.2.owner k = some i := by
        rw [← owned]
        exact (if_neg new).symm
      exact (fenced.owned_lt k i before).trans_le spares.opened
  · intro i sound
    rcases eq_or_ne i c.1 with rfl | other
    · have sound' : soundThen c.2 (x.1.world c.1) (Process.exec c x.1).1 (x.2.sound c.1) := by
        change Function.update x.2.sound c.1 _ c.1 at sound
        rwa [Function.update_self] at sound
      have world : (Process.exec c x.1).2.world c.1 = (c.2.exec (x.1.world c.1)).2 := by
        simp [Process.exec, Prog.zoom_apply, Process.put, Process.world]
      have stands := behaves.stands _ _ (fenced.stands c.1) sound'
      rw [← world] at stands
      refine stands.imp_right fun ⟨k, now, mine⟩ => ⟨k, now, ?_⟩
      rcases mine with mine | new
      · rw [older k (fenced.owned_lt k c.1 mine)]
        exact mine
      · exact if_pos ⟨new, Net.conns_lt _ _ k now⟩
    · have sound' : x.2.sound i := by
        change Function.update x.2.sound c.1 _ i at sound
        rwa [Function.update_of_ne other] at sound
      have same : (Process.exec c x.1).2.clients i = x.1.clients i := Function.update_of_ne other _ _
      rcases fenced.stands i sound' with unset | ⟨k, now, mine⟩
      · refine Or.inl ?_
        change ((Process.exec c x.1).2.clients i).socket < 0
        rwa [same]
      · have old := fenced.owned_lt k i mine
        refine Or.inr ⟨k, ?_, (older k old).trans mine⟩
        change (Process.exec c x.1).2.net.conns ((Process.exec c x.1).2.clients i).socket = some k
        rw [same]
        refine (spares.conns k old ?_ _).mpr now
        intro theirs
        exact other (Option.some.inj (mine.symm.trans theirs))

/-- A call touches no connection but those of its client, and each socket field that is in order
stands for a connection of its client. -/
structure KeepsApart (c : ι × ProcessCall) (x : Process ι × Custody ι) : Prop where
  spares : Net.Spares (fun k => x.2.owner k = some c.1) x.1.net (Process.exec c x.1).2.net
  stands : ∀ i, x.2.sound i → Stands (fun k => x.2.owner k = some i) (x.1.world i)

theorem clients_apart (p : Process ι) (calls : List (ι × ProcessCall))
    (careful : Prog.Meets (Prog.observed Process.exec Custody.note) Careful calls
      (p, Custody.start)) :
    Prog.Meets (Prog.observed Process.exec Custody.note) KeepsApart calls (p, Custody.start) :=
  careful.imp (fenced_start p) Fenced.step fun _ _ fenced careful =>
    ⟨fenced.spares careful, fenced.stands⟩

end

def twoClients : Process Bool where
  clients _ := sampleWorld.client
  heap := sampleWorld.heap
  net := Net.empty
  callbacks := []
  recvs := []

def creates (i : Bool) : Bool × ProcessCall :=
  (i, .createClient (some sampleConfig) 256 true true true)

def connects (i : Bool) (a : ConnectAnswers) : Bool × ProcessCall :=
  (i, .client (.call (.clientConnect a (fun _ => 0) [100])))

def hangsUp (i : Bool) : Bool × ProcessCall := (i, .client (.call (.disconnectClient .tcp .done)))

def requests (i : Bool) : Bool × ProcessCall :=
  (i, .client (.call (.clientUnsubscribe (some (CString.letters 1)) 1 (fun _ => 0) [100])))

theorem clients_apart_same_descriptor :
    Prog.Meets (Prog.observed Process.exec Custody.note) KeepsApart
      [creates true, connects true connectsTo3, creates false, hangsUp true,
        connects false connectsTo3, requests false] (twoClients, Custody.start) := by
  apply clients_apart twoClients
  refine ⟨False.elim, fun _ _ => ⟨fun _ => ?_, fun _ _ => ⟨False.elim, fun _ _ => ⟨fun _ => ?_,
    fun _ _ => ⟨fun _ => ?_, fun _ _ => ⟨fun _ => ?_, fun _ _ => trivial⟩⟩⟩⟩⟩⟩
  · change _ = Outcome.ret (some 0)
    decide +kernel
  · refine Or.inr ?_
    change _ = Outcome.ret (some 0)
    decide +kernel
  · change _ = Outcome.ret (some 0)
    decide +kernel
  · refine Or.inr ?_
    change _ = Outcome.ret (some 0)
    decide +kernel

theorem hung_up_crosses :
    ¬Prog.Meets (Prog.observed Process.exec Custody.note) KeepsApart
      [creates true, connects true connectsTo3, creates false, hangsUp true,
        connects false connectsTo3, requests true] (twoClients, Custody.start) := by
  intro meets
  have last := ((((meets.2 (some 0) (by decide +kernel)).2 (some 0) (by decide +kernel)).2 (some 0)
    (by decide +kernel)).2 none (by decide +kernel)).2 (some 0) (by decide +kernel)
  have same := last.1.spares.log 1 (by decide +kernel) (by decide +kernel)
  have lengths := congrArg List.length same
  exact absurd lengths (by decide +kernel)

end Dpubsub.Proof
