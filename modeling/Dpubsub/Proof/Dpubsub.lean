import Dpubsub.Model.Dpubsub
import Dpubsub.Proof.ConnectReport
import Dpubsub.Proof.Isolation
import Dpubsub.Proof.Teardown

/-!
# Programs over the interface of the library

Only a `dpubsub_disconnect` whose DISCONNECT goes out whole gives anything back, and it has no value
of its own to return.
-/

namespace Dpubsub.Proof
open Dpubsub.Lib Dpubsub.Model

/-- The memory and the configuration are as before, and every open connection is still open. -/
structure Retains (w w' : World) : Prop where
  heap : w'.heap = w.heap
  buffer : w'.client.buffer = w.client.buffer
  config : w'.client.config = w.client.config
  conns : ∀ fd k, w.net.conns fd = some k → w'.net.conns fd = some k

section
variable {w w' w'' : World}

theorem Retains.refl (w : World) : Retains w w := ⟨rfl, rfl, rfl, fun _ _ => id⟩

theorem Retains.trans (first : Retains w w') (second : Retains w' w'') : Retains w w'' :=
  ⟨second.heap.trans first.heap, second.buffer.trans first.buffer,
    second.config.trans first.config, fun fd k now => second.conns fd k (first.conns fd k now)⟩

theorem retains_sentBy (fd : Int) (data : Nat → UInt8) (length : Nat) (sends : List Int) :
    Retains w (sentBy w fd data length sends) := ⟨rfl, rfl, rfl, fun _ _ => id⟩

theorem retains_connectClientTcp (a : ConnectAnswers) (w : World) :
    Retains w (connectClientTcp a w).2 := by
  by_cases connects : Connects a w
  · have spares : Net.Spares (fun _ => False) w.net (w.net.openConn a.socket connects.nonneg) :=
      Net.openConn_spares _ connects.nonneg connects.unused
    rw [connectClientTcp_connects connects]
    exact ⟨rfl, rfl, rfl, spares.conns_kept⟩
  · obtain ⟨o, n, state, spares⟩ := connectClientTcp_spares connects
    rw [state]
    exact ⟨rfl, rfl, rfl, spares.conns_kept⟩

theorem retains_clientConnect (a : ConnectAnswers) (stack : Nat → UInt8) (sends : List Int)
    (w : World) : Retains w (clientConnect a stack sends w).2 := by
  have first := retains_connectClientTcp a w
  have announced : ∀ w', Retains w' (announce stack sends w').2 := by
    intro w'
    obtain ⟨o, silent | ⟨data, length, sent⟩⟩ := announce_sends stack sends w'
    · rw [silent]
      exact Retains.refl w'
    · rw [sent]
      exact retains_sentBy w'.client.socket data length sends
  rw [clientConnect_eq]
  rcases outcome : connectClientTcp a w with ⟨o, w'⟩
  rw [outcome] at first
  cases o with
  | ret r =>
      rw [Prog.bind_ret outcome]
      exact first.trans (announced w')
  | pending =>
      rw [Prog.bind_pending outcome]
      exact first
  | undefined =>
      rw [Prog.bind_undefined outcome]
      exact first

theorem retains_clientUnsubscribe (topic : Option CString) (messageId : UInt16)
    (stack : Nat → UInt8) (sends : List Int) (w : World) :
    Retains w (clientUnsubscribe topic messageId stack sends w).2 := by
  obtain ⟨o, silent | ⟨data, length, sent⟩⟩ :=
    clientUnsubscribe_sends topic messageId stack sends w
  · rw [silent]
    exact Retains.refl w
  · rw [sent]
    exact retains_sentBy w.client.socket data length sends

theorem retains_clientPublish (topic message : Option CString) (messageId : UInt16)
    (retain dup : UInt8) (stack : Nat → UInt8) (sends : List Int) (w : World) :
    Retains w (clientPublish topic message messageId retain dup stack sends w).2 := by
  obtain ⟨callbacks, state⟩ := publish_state topic message messageId retain dup stack sends w
  rw [clientPublish_state, state]
  exact ⟨rfl, rfl, rfl, fun _ _ => id⟩

def HangsUp : DpubsubCall → World → Prop
  | .disconnect .tcp _ _ sends _ _, w => 0 ≤ w.client.socket ∧ accepts 2 sends = true
  | _, _ => False

theorem retains_dpubsubDisconnect {stack : Nat → UInt8} {sends : List Int} (missing : Int)
    (answer answer' : CloseAnswer) (cut : ¬(0 ≤ w.client.socket ∧ accepts 2 sends = true)) :
    Retains w (dpubsubDisconnect .tcp missing stack sends answer answer' w).2 := by
  dsimp only [dpubsubDisconnect]
  obtain ⟨o, failed | waits, cut⟩ := clientDisconnect_cut stack answer answer' cut
  · subst failed
    rw [Prog.bind_ret cut]
    exact retains_sentBy w.client.socket (disconnectBytes stack) 2 sends
  · subst waits
    rw [Prog.bind_pending cut]
    exact retains_sentBy w.client.socket (disconnectBytes stack) 2 sends

theorem dpubsubDisconnect_destroys {stack : Nat → UInt8} {sends : List Int}
    {answer answer' : CloseAnswer} {missing r : Int}
    (whole : 0 ≤ w.client.socket ∧ accepts 2 sends = true)
    (returns : (dpubsubDisconnect .tcp missing stack sends answer answer' w).1 = .ret r) :
    r = missing ∧ Destroyed w (dpubsubDisconnect .tcp missing stack sends answer answer' w).2 := by
  dsimp only [dpubsubDisconnect] at returns ⊢
  have falls : (clientDisconnect stack sends answer answer' w).1 = .ret none ∨
      (clientDisconnect stack sends answer answer' w).1 = .undefined :=
    clientDisconnect_falls whole.1 whole.2
  rcases outcome : clientDisconnect stack sends answer answer' w with ⟨o, w'⟩
  rw [outcome] at falls
  rcases falls with rfl | rfl
  · rw [Prog.bind_ret outcome] at returns ⊢
    cases returns
    exact ⟨rfl, clientDisconnect_returns outcome⟩
  · rw [Prog.bind_undefined outcome] at returns
    cases returns

theorem exec_retains {c : DpubsubCall} (goesOn : ¬HangsUp c w) : Retains w (c.exec w).2 := by
  cases c with
  | connect protocol missing a stack sends =>
      cases protocol with
      | tcp => exact retains_clientConnect a stack sends w
      | unknown => exact Retains.refl w
  | disconnect protocol missing stack sends answer answer' =>
      cases protocol with
      | tcp => exact retains_dpubsubDisconnect missing answer answer' goesOn
      | unknown => exact Retains.refl w
  | unsubscribe topic messageId stack sends =>
      exact retains_clientUnsubscribe topic messageId stack sends w
  | publish topic message messageId retain dup stack sends =>
      exact retains_clientPublish topic message messageId retain dup stack sends w
  | pingreq protocol missing stack sends =>
      cases protocol with
      | tcp =>
          rw [DpubsubCall.exec, dpubsubPingreq, clientPingreq_silent]
          exact Retains.refl w
      | unknown => exact Retains.refl w

theorem exec_destroys {c : DpubsubCall} {r : Int} (hangsUp : HangsUp c w)
    (returns : (c.exec w).1 = .ret r) : Destroyed w (c.exec w).2 := by
  unfold HangsUp at hangsUp
  split at hangsUp
  · exact (dpubsubDisconnect_destroys hangsUp returns).2
  · exact hangsUp.elim

end

theorem run_retains {calls : List DpubsubCall} {w : World}
    (goesOn : Prog.Meets DpubsubCall.exec (fun c w => ¬HangsUp c w) calls w) :
    Retains w (Prog.run DpubsubCall.exec calls w) :=
  Prog.run_keeps (Retains.refl w) (fun _ _ retained goesOn => retained.trans (exec_retains goesOn))
    goesOn

theorem run_unconfigured {calls : List DpubsubCall} {w : World}
    (completes : Prog.Completes DpubsubCall.exec calls w)
    (gone : w.client.config.clientId = none) :
    (Prog.run DpubsubCall.exec calls w).client.config.clientId = none := by
  induction calls generalizing w with
  | nil => exact gone
  | cons c calls ih =>
      obtain ⟨r, returns, rest⟩ := completes
      rw [Prog.run_cons_ret returns]
      apply ih rest
      by_cases hangsUp : HangsUp c w
      · exact (exec_destroys hangsUp returns).clientId
      · rw [(exec_retains hangsUp).config, gone]

theorem meets_of_configured {calls : List DpubsubCall} {w : World}
    (completes : Prog.Completes DpubsubCall.exec calls w)
    (configured : (Prog.run DpubsubCall.exec calls w).client.config.clientId ≠ none) :
    Prog.Meets DpubsubCall.exec (fun c w => ¬HangsUp c w) calls w := by
  induction calls generalizing w with
  | nil => trivial
  | cons c calls ih =>
      obtain ⟨r, returns, rest⟩ := completes
      rw [Prog.run_cons_ret returns] at configured
      refine ⟨fun hangsUp => ?_, fun _ _ => ih rest configured⟩
      exact configured (run_unconfigured rest (exec_destroys hangsUp returns).clientId)

/-- What a program holds at some moment it still holds later, unless a `dpubsub_disconnect` has got
its DISCONNECT out; that one destroys the client, and returns what happens to be there. -/
structure HoldsOn (calls : List DpubsubCall) (w : World) : Prop where
  retains : Retains w (Prog.run DpubsubCall.exec calls w) ↔
    Prog.Meets DpubsubCall.exec (fun c w => ¬HangsUp c w) calls w
  hangsUp : ∀ first last missing stack sends answer answer' s,
    calls = first ++ .disconnect .tcp missing stack sends answer answer' :: last →
    Prog.run DpubsubCall.exec first w = s → 0 ≤ s.client.socket ∧ accepts 2 sends = true →
      (dpubsubDisconnect .tcp missing stack sends answer answer' s).1 = .ret missing ∧
        Destroyed s (dpubsubDisconnect .tcp missing stack sends answer answer' s).2

theorem completed_program_retains (calls : List DpubsubCall) (w : World)
    (configured : w.client.config.clientId ≠ none)
    (completes : Prog.Completes DpubsubCall.exec calls w) : HoldsOn calls w where
  retains := by
    refine ⟨fun retained => ?_, run_retains⟩
    apply meets_of_configured completes
    rw [retained.config]
    exact configured
  hangsUp first last missing stack sends answer answer' s parts before whole := by
    subst parts before
    obtain ⟨-, r, returns, -⟩ := Prog.completes_append.mp completes
    obtain ⟨rfl, destroyed⟩ := dpubsubDisconnect_destroys whole returns
    exact ⟨returns, destroyed⟩

theorem completed_program_hangs_up : ¬Retains sampleClient (Prog.run DpubsubCall.exec
    [.connect .tcp 0 connectsTo3 (fun _ => 0) [100],
      .disconnect .tcp 7 (fun _ => 0) [1, -1] .done .done,
      .disconnect .tcp 7 (fun _ => 0) [1, 1] .done .done] sampleClient) := by
  have holds := completed_program_retains [.connect .tcp 0 connectsTo3 (fun _ => 0) [100],
    .disconnect .tcp 7 (fun _ => 0) [1, -1] .done .done,
    .disconnect .tcp 7 (fun _ => 0) [1, 1] .done .done] sampleClient (by decide +kernel)
    ⟨0, by decide +kernel, -1, by decide +kernel, 7, by decide +kernel, trivial⟩
  intro retained
  have meets := holds.retains.mp retained
  exact (meets.2 0 (by decide +kernel)).2 (-1) (by decide +kernel) |>.1
    ⟨by decide +kernel, by decide +kernel⟩

/-! ## The example program -/

section
variable {config : Config} {w : World} {id ip : CString}

theorem string?_alloc_old {h : Heap} {p : Ptr} {s : CString} (readable : h.string? p = some s)
    (bytes : List UInt8) : (h.alloc bytes).string? p = h.string? p := by
  have live := Heap.live_of_readable (readable.trans_ne (Option.some_ne_none s))
  apply Heap.string?_alloc_of_ne
  intro new
  have dead := Heap.live_next h
  rw [live _ new] at dead
  cases dead

theorem createClient_grants (bufferSize : Nat)
    (readableId : w.heap.string? config.clientId = some id)
    (readableIp : w.heap.string? config.ipBroker = some ip) :
    createClient (some config) bufferSize true true true w =
      (.ret 0, { w with
        client := newClient w.heap config bufferSize
        heap := allocated w.heap id ip bufferSize }) := by
  have readableIp' := (string?_alloc_old readableIp (id.bytes ++ [0])).trans readableIp
  rw [createClient_eq, Prog.bind_ret (onHeap_eq (strdup_granted readableId)), setConfigField_bind]
  dsimp only
  rw [if_neg (Option.some_ne_none _), createFromIp, setConfigField_bind,
    Prog.bind_ret (onHeap_eq (strdup_granted readableIp')), setConfigField_bind]
  dsimp only
  rw [if_neg (Option.some_ne_none _), setConfigField_bind, setClient_bind]
  dsimp only
  rw [Prog.bind_ret (onHeap_eq (malloc_granted _)), setClient_bind]
  dsimp only
  rw [if_neg (Option.some_ne_none _), Prog.bind_ret (defineDefaultCallback_eq _),
    if_neg (by decide)]
  rfl

theorem createClient_refused (bufferSize : Nat) {grantsId grantsIp grantsBuffer : Bool}
    (readableId : w.heap.string? config.clientId = some id)
    (readableIp : w.heap.string? config.ipBroker = some ip)
    (refused : ¬(grantsId = true ∧ grantsIp = true ∧ grantsBuffer = true)) :
    (createClient (some config) bufferSize grantsId grantsIp grantsBuffer w).1 = .ret (-1) := by
  rw [createClient_eq]
  cases grantsId with
  | false =>
      rw [Prog.bind_ret (onHeap_eq (strdup_refused readableId))]
      rfl
  | true =>
      have readableIp' := (string?_alloc_old readableIp (id.bytes ++ [0])).trans readableIp
      have idLive : (w.heap.alloc (id.bytes ++ [0])).live w.heap.next = true := by
        simp [Heap.live_alloc]
      rw [Prog.bind_ret (onHeap_eq (strdup_granted readableId)), setConfigField_bind]
      dsimp only
      rw [if_neg (Option.some_ne_none _), createFromIp, setConfigField_bind]
      cases grantsIp with
      | false =>
          rw [Prog.bind_ret (onHeap_eq (strdup_refused readableIp')), setConfigField_bind, if_pos rfl,
            Prog.bind_ret (onHeap_eq (free_live idLive))]
          rfl
      | true =>
          have noBuffer : grantsBuffer = false := by
            by_contra granted
            exact refused ⟨rfl, rfl, Bool.not_eq_false _ ▸ granted⟩
          have ipLive : ((w.heap.alloc (id.bytes ++ [0])).alloc (ip.bytes ++ [0])).live
              (w.heap.alloc (id.bytes ++ [0])).next = true := by
            simp [Heap.live_alloc]
          have same := release_alloc_live (w.heap.alloc (id.bytes ++ [0])) (ip.bytes ++ [0])
          rw [Prog.bind_ret (onHeap_eq (strdup_granted readableIp')), setConfigField_bind]
          dsimp only
          rw [if_neg (Option.some_ne_none _), setConfigField_bind, setClient_bind, noBuffer]
          dsimp only
          rw [Prog.bind_ret (onHeap_eq (malloc_refused _)), setClient_bind, if_pos rfl,
            Prog.bind_ret (onHeap_eq (free_live ipLive)),
            Prog.bind_ret (onHeap_eq (free_live ((same _).trans idLive)))]
          rfl

end

structure Granted (m : MainAnswers) (n : Net) : Prop where
  id : m.grantsId = true
  ip : m.grantsIp = true
  buffer : m.grantsBuffer = true
  nonneg : 0 ≤ m.connect.socket
  unused : n.held m.connect.socket = false
  inetPton : 0 < m.connect.inetPton
  connect : 0 ≤ m.connect.connect
  getsockname : m.connect.getsockname ≠ -1
  sends : accepts (14 + strlen mqttTcpClientId) m.connectSends = true

section
variable {config : Config} {clientId ipBroker : Ptr} {m : MainAnswers} {w : World}

def mainConfig (config : Config) (clientId ipBroker : Ptr) : Config :=
  { config with
    clientId := clientId, keepAlive := 60, ipBroker := ipBroker, portBroker := 1883, defaultQos := 0 }

theorem mqttTcpMain_eq : mqttTcpMain config clientId ipBroker m w =
    (do
      let configured ← createClient (some (mainConfig config clientId ipBroker)) 0
        m.grantsId m.grantsIp m.grantsBuffer
      if configured ≠ 0 then return 1
      else do
        let connected ← clientConnect m.connect m.connectStack m.connectSends
        if connected ≠ 0 then return 1
        else do
          let subscribed ← clientSubscribe (some mqttTcpTopic) 1 m.subscribeStack m.subscribeSends
          if subscribed ≠ 0 then return 1
          else return 0 : Prog World Int) w := rfl

def fresh (w : World) (config : Config) (id ip : CString) : World :=
  { w with client := newClient w.heap config 0, heap := allocated w.heap id ip 0 }

theorem allocated_id (h : Heap) (id ip : CString) (bufferSize : Nat) :
    (allocated h id ip bufferSize).string? (some h.next) = some id := by
  rw [allocated, Heap.string?_alloc_of_lt _ _ (Nat.lt_add_of_pos_right Nat.zero_lt_two),
    Heap.string?_alloc_of_lt _ _ (Nat.lt_succ_self _), Heap.string?_alloc_next]

theorem allocated_ip (h : Heap) (id ip : CString) (bufferSize : Nat) :
    (allocated h id ip bufferSize).string? (some (h.next + 1)) = some ip := by
  rw [allocated, Heap.string?_alloc_of_lt _ _ (Nat.lt_succ_self _)]
  exact Heap.string?_alloc_next _ ip

theorem fresh_clientId (w : World) (config : Config) (id ip : CString) :
    (fresh w config id ip).heap.string? (fresh w config id ip).client.config.clientId = some id :=
  allocated_id w.heap id ip 0

theorem fresh_ipBroker (w : World) (config : Config) (id ip : CString) :
    (fresh w config id ip).heap.string? (fresh w config id ip).client.config.ipBroker = some ip :=
  allocated_ip w.heap id ip 0

theorem fresh_connects_iff {a : ConnectAnswers} {id ip : CString} :
    Connects a (fresh w config id ip) ↔ (0 ≤ a.socket ∧ w.net.held a.socket = false) ∧
      0 < a.inetPton ∧ 0 ≤ a.connect ∧ a.getsockname ≠ -1 := by
  constructor
  · intro connects
    exact ⟨⟨connects.nonneg, connects.unused⟩, connects.inetPton, connects.connect,
      connects.getsockname⟩
  · intro given
    refine ⟨given.1.1, given.1.2, ?_, given.2.1, given.2.2.1, given.2.2.2⟩
    rw [fresh_ipBroker]
    exact Option.some_ne_none ip

theorem fresh_clientConnect (w : World) (config : Config) (a : ConnectAnswers)
    (stack : Nat → UInt8) (sends : List Int) (id ip : CString) (short : strlen id ≤ 114) :
    ((clientConnect a stack sends (fresh w config id ip)).1 = .ret 0 ↔
        Connects a (fresh w config id ip) ∧ accepts (14 + strlen id) sends = true) ∧
      (clientConnect a stack sends (fresh w config id ip)).1 ≠ .undefined := by
  have readable := fresh_clientId w config id ip
  have ready : Ready (fresh w config id ip) := by
    refine ⟨⟨id, readable, by omega⟩, ?_, Or.inl (show (-1 : Int) < 0 by decide)⟩
    rw [fresh_ipBroker]
    exact Option.some_ne_none ip
  have length : idLength (fresh w config id ip) = strlen id := by rw [idLength, readable]; rfl
  have defined : ∀ n fd, (announce stack sends (withSocket (fresh w config id ip) n fd)).1 ≠
      .undefined := by
    intro n fd
    have small : 14 + strlen id < 2 ^ 31 := by omega
    have sent : Sent (14 + strlen id) (sendLoop fd (14 + strlen id) 0 sends) :=
      sendLoop_sent sends (Nat.zero_le _) small
    have begins := announce_begins stack sends (w := withSocket (fresh w config id ip) n fd)
      readable short
    rw [begins]
    change reported (sendLoop fd (14 + strlen id) 0 sends).2 ≠ .undefined
    rcases outcome : sendLoop fd (14 + strlen id) 0 sends with ⟨calls, o⟩
    rw [outcome] at sent
    cases sent <;> simp [reported, Outcome.map]
  by_cases connects : Connects a (fresh w config id ip)
  · have opened := ready_opened (c := ⟨a, stack, sends⟩) ready connects
    have run := exec_connects (c := ⟨a, stack, sends⟩) connects
    change clientConnect a stack sends _ = _ at run
    rw [run]
    refine ⟨?_, defined _ _⟩
    rw [(announce_announced opened).whole]
    have same : idLength (withSocket (fresh w config id ip)
        ((fresh w config id ip).net.openConn a.socket connects.nonneg) a.socket) = strlen id := length
    rw [same]
    exact ⟨fun whole => ⟨connects, whole.2.2⟩, fun whole => ⟨connects.nonneg, short, whole.2⟩⟩
  · obtain ⟨n, run, same⟩ := exec_fails (c := ⟨a, stack, sends⟩) ready connects
    have unchanged := ready_failed ready same
    change clientConnect a stack sends _ = _ at run
    rw [run]
    refine ⟨iff_of_false ?_ fun both => connects both.1, defined n (-1)⟩
    rw [(announce_announced unchanged).whole]
    intro whole
    have unset : (0 : Int) ≤ -1 := whole.1
    exact absurd unset (by decide)

/-- The example fails or waits where the system refuses it something. Where the system does not, it
comes to use the value that `subscribe_topic` has not returned. -/
theorem mqttTcpMain_ends (config : Config) (clientId ipBroker : Ptr) (m : MainAnswers)
    (w : World) (readableId : w.heap.string? clientId = some mqttTcpClientId)
    (readableIp : w.heap.string? ipBroker = some mqttTcpIpBroker) :
    ((mqttTcpMain config clientId ipBroker m w).1 = .ret 1 ∨
        (mqttTcpMain config clientId ipBroker m w).1 = .pending ∨
        (mqttTcpMain config clientId ipBroker m w).1 = .undefined) ∧
      ((mqttTcpMain config clientId ipBroker m w).1 = .undefined ↔ Granted m w.net) := by
  rw [mqttTcpMain_eq]
  by_cases grants : m.grantsId = true ∧ m.grantsIp = true ∧ m.grantsBuffer = true
  · obtain ⟨id, ip, buffer⟩ := grants
    have created : createClient (some (mainConfig config clientId ipBroker)) 0 true true true w =
        (.ret 0, fresh w (mainConfig config clientId ipBroker) mqttTcpClientId mqttTcpIpBroker) :=
      createClient_grants 0 readableId readableIp
    obtain ⟨zero, defined⟩ := fresh_clientConnect w (mainConfig config clientId ipBroker) m.connect
      m.connectStack m.connectSends mqttTcpClientId mqttTcpIpBroker (by decide)
    have granted : Granted m w.net ↔ (clientConnect m.connect m.connectStack m.connectSends
        (fresh w (mainConfig config clientId ipBroker) mqttTcpClientId mqttTcpIpBroker)).1 =
          .ret 0 := by
      rw [zero, fresh_connects_iff]
      exact ⟨fun g => ⟨⟨⟨g.nonneg, g.unused⟩, g.inetPton, g.connect, g.getsockname⟩, g.sends⟩,
        fun g => ⟨id, ip, buffer, g.1.1.1, g.1.1.2, g.1.2.1, g.1.2.2.1, g.1.2.2.2, g.2⟩⟩
    rw [id, ip, buffer, Prog.bind_ret created, if_neg (by decide), granted]
    rcases outcome : clientConnect m.connect m.connectStack m.connectSends
      (fresh w (mainConfig config clientId ipBroker) mqttTcpClientId mqttTcpIpBroker) with ⟨o, w'⟩
    rw [outcome] at defined
    cases o with
    | ret r =>
        rw [Prog.bind_ret outcome]
        by_cases failed : r ≠ 0
        · rw [if_pos failed]
          exact ⟨.inl rfl, iff_of_false (by simp) (by simpa using failed)⟩
        · rw [if_neg failed, Prog.bind_undefined (clientSubscribe_eq ..), not_not.mp failed]
          exact ⟨.inr (.inr rfl), iff_of_true rfl rfl⟩
    | pending =>
        rw [Prog.bind_pending outcome]
        exact ⟨.inr (.inl rfl), iff_of_false (by simp) (by simp)⟩
    | undefined => exact absurd rfl defined
  · have refused : (createClient (some (mainConfig config clientId ipBroker)) 0 m.grantsId
        m.grantsIp m.grantsBuffer w).1 = .ret (-1) :=
      createClient_refused 0 readableId readableIp grants
    rcases outcome : createClient (some (mainConfig config clientId ipBroker)) 0 m.grantsId
      m.grantsIp m.grantsBuffer w with ⟨o, w'⟩
    rw [outcome] at refused
    subst refused
    rw [Prog.bind_ret outcome, if_pos (by decide)]
    exact ⟨.inl rfl, iff_of_false (by simp) fun g => grants ⟨g.id, g.ip, g.buffer⟩⟩

end

def literals : World := { sampleWorld with
  heap := (Heap.empty.alloc (mqttTcpClientId.bytes ++ [0])).alloc (mqttTcpIpBroker.bytes ++ [0]) }

def granting : MainAnswers where
  missing := 0
  grantsId := true
  grantsIp := true
  grantsBuffer := true
  connect := connectsTo3
  connectStack _ := 0
  connectSends := [20, 20]
  subscribeStack _ := 0
  subscribeSends := []

theorem mqttTcpMain_undefined :
    (mqttTcpMain sampleConfig (some 0) (some 1) granting literals).1 = .undefined :=
  (mqttTcpMain_ends sampleConfig (some 0) (some 1) granting literals (by decide +kernel)
    (by decide +kernel)).2.mpr ⟨rfl, rfl, rfl, by decide, by decide +kernel, by decide, by decide,
      by decide, by decide +kernel⟩

end Dpubsub.Proof
