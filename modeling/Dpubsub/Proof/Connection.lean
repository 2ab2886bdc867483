import Dpubsub.Model.ClientTcpApi
import Dpubsub.Proof.Layout
import Dpubsub.Proof.SendLoop

/-!
# What the calls do to the connection

Each call that opens or closes a socket, as one change of the descriptor table and of the socket
field. Later proofs use these lemmas and do not look into the calls again.
-/

namespace Dpubsub.Proof
open Dpubsub.Lib Dpubsub.Model

structure Connects (a : ConnectAnswers) (w : World) : Prop where
  nonneg : 0 ≤ a.socket
  unused : w.net.held a.socket = false
  address : w.heap.string? w.client.config.ipBroker ≠ none
  inetPton : 0 < a.inetPton
  connect : 0 ≤ a.connect
  getsockname : a.getsockname ≠ -1

inductive Unconnected (a : ConnectAnswers) (w : World) : Outcome Int × Net → Prop where
  | refused : Unconnected a w (.ret (-1), w.net)
  | unreadable (nonneg : 0 ≤ a.socket)
      (address : w.heap.string? w.client.config.ipBroker = none) :
      Unconnected a w (.undefined, w.net.openConn a.socket nonneg)
  | closed (nonneg : 0 ≤ a.socket) (unused : w.net.held a.socket = false) :
      Unconnected a w (.ret (-1), (w.net.openConn a.socket nonneg).closed a.socket a.close)

section
variable {a : ConnectAnswers} {w : World}

def withSocket (w : World) (n : Net) (fd : Int) : World :=
  { w with net := n, client := { w.client with socket := fd } }

theorem connectClientTcp_eq : connectClientTcp a w =
    (do
      let clientSocket ← onNet (createConnectionToServer a
        (w.heap.string? w.client.config.ipBroker) w.client.config.portBroker)
      if clientSocket < 0 then return -1
      else do
        setClient ({ · with socket := clientSocket })
        return 0 : Prog World Int) w := rfl

theorem createConnection_opens {addr : Option CString} {port : UInt16} {n : Net}
    (nonneg : 0 ≤ a.socket) (unused : n.held a.socket = false) :
    createConnectionToServer a addr port n =
      (if addr = none then Prog.stuck
      else if a.inetPton ≤ 0 ∨ a.connect < 0 ∨ a.getsockname = -1 then do
        let _ ← close a.socket a.close
        return -1
      else return a.socket : Prog Net Int) (n.openConn a.socket nonneg) := by
  rw [createConnectionToServer, Prog.bind_ret (socket_opens nonneg unused),
    if_neg (Int.not_lt.mpr nonneg)]
  by_cases readable : addr = none
  · rw [if_pos readable, if_pos readable]
  rw [if_neg readable, if_neg readable]
  by_cases inetPton : a.inetPton ≤ 0
  · rw [if_pos inetPton, if_pos (Or.inl inetPton)]
  rw [if_neg inetPton]
  by_cases connect : a.connect < 0
  · rw [if_pos connect, if_pos (Or.inr (Or.inl connect))]
  rw [if_neg connect]
  by_cases getsockname : a.getsockname = -1
  · rw [if_pos getsockname, if_pos (Or.inr (Or.inr getsockname))]
  · rw [if_neg getsockname, if_neg (by simp [inetPton, connect, getsockname])]

theorem connectClientTcp_connects (h : Connects a w) : connectClientTcp a w =
    (.ret 0, withSocket w (w.net.openConn a.socket h.nonneg) a.socket) := by
  have opens : onNet (createConnectionToServer a (w.heap.string? w.client.config.ipBroker)
      w.client.config.portBroker) w =
      (.ret a.socket, { w with net := w.net.openConn a.socket h.nonneg }) := by
    rw [onNet, Prog.zoom_apply, createConnection_opens h.nonneg h.unused, if_neg h.address, if_neg]
    · rfl
    · have inetPton := h.inetPton
      have connect := h.connect
      have getsockname := h.getsockname
      omega
  rw [connectClientTcp_eq, Prog.bind_ret opens, if_neg (Int.not_lt.mpr h.nonneg)]
  rfl

theorem connectClientTcp_fails (h : ¬Connects a w) :
    ∃ o n, Unconnected a w (o, n) ∧ connectClientTcp a w = (o, { w with net := n }) := by
  by_cases available : 0 ≤ a.socket ∧ w.net.held a.socket = false
  · obtain ⟨nonneg, unused⟩ := available
    rw [connectClientTcp_eq]
    by_cases address : w.heap.string? w.client.config.ipBroker = none
    · refine ⟨_, _, .unreadable nonneg address, ?_⟩
      apply Prog.bind_undefined
      rw [onNet, Prog.zoom_apply, createConnection_opens nonneg unused, if_pos address]
      rfl
    · refine ⟨_, _, .closed nonneg unused, ?_⟩
      have failed : a.inetPton ≤ 0 ∨ a.connect < 0 ∨ a.getsockname = -1 := by
        by_contra ok
        push Not at ok
        exact h ⟨nonneg, unused, address, ok.1, ok.2.1, ok.2.2⟩
      have closes : onNet (createConnectionToServer a (w.heap.string? w.client.config.ipBroker)
          w.client.config.portBroker) w =
          (.ret (-1), { w with net := (w.net.openConn a.socket nonneg).closed a.socket a.close }) := by
        rw [onNet, Prog.zoom_apply, createConnection_opens nonneg unused, if_neg address,
          if_pos failed, Prog.bind_ret (Net.close_eq ..)]
        rfl
      rw [Prog.bind_ret closes, if_pos (by decide)]
      rfl
  · refine ⟨_, _, .refused, ?_⟩
    have refuses : onNet (createConnectionToServer a (w.heap.string? w.client.config.ipBroker)
        w.client.config.portBroker) w = (.ret (-1), w) := by
      rw [onNet, Prog.zoom_apply, createConnectionToServer, Prog.bind_ret (socket_refuses available),
        if_pos (by decide)]
      rfl
    rw [connectClientTcp_eq, Prog.bind_ret refuses, if_pos (by decide)]
    rfl

end

theorem connectClient_state (protocol : Protocol) (a : ConnectAnswers) (w : World) :
    ∃ n fd, (connectClient protocol a w).2 = withSocket w n fd := by
  cases protocol with
  | unknown => exact ⟨w.net, w.client.socket, rfl⟩
  | tcp =>
      by_cases connects : Connects a w
      · exact ⟨_, _, congrArg Prod.snd (connectClientTcp_connects connects)⟩
      · obtain ⟨o, n, -, fails⟩ := connectClientTcp_fails connects
        exact ⟨n, w.client.socket, congrArg Prod.snd fails⟩

section
variable {w : World} {answer : CloseAnswer}

def hungUp (w : World) (answer : CloseAnswer) : World :=
  { w with net := w.net.closed w.client.socket answer }

theorem onNet_close : onNet (close w.client.socket answer) w =
    (.ret (if 0 ≤ w.client.socket ∧ answer = .done then 0 else -1), hungUp w answer) := by
  rw [onNet, Prog.zoom_apply, Net.close_eq]
  rfl

theorem onNet_closeConnection : onNet (closeConnectionClient w.client.socket answer) w =
    (.ret (if 0 ≤ w.client.socket ∧ answer = .done then 0 else -1), hungUp w answer) := by
  rw [onNet, Prog.zoom_apply, closeConnectionClient, Prog.bind_ret (Net.close_eq ..)]
  split <;> rfl

theorem disconnectClientTcp_refuses (h : w.client.socket < 0) :
    disconnectClientTcp answer w = (.ret (some (-1)), w) := by
  change (if w.client.socket < 0 then (return some (-1)) else _ : Prog World (Option Int)) w = _
  rw [if_pos h]
  rfl

theorem disconnectClientTcp_closes (answer : CloseAnswer) (connected : 0 ≤ w.client.socket) :
    ∃ callbacks, disconnectClientTcp answer w =
      (.ret (if answer = .done then none else some (-1)),
        { hungUp w answer with callbacks := callbacks }) := by
  have eq : disconnectClientTcp answer w =
      (do
        let closeConnection ← onNet (closeConnectionClient w.client.socket answer)
        if closeConnection < 0 then return some (-1)
        else do
          invoke w.client.config.callbacks.onDisconnect none
          return none : Prog World (Option Int)) w := by
    change (if w.client.socket < 0 then (return some (-1)) else _ : Prog World (Option Int)) w = _
    rw [if_neg (Int.not_lt.mpr connected)]
  rw [eq, Prog.bind_ret onNet_closeConnection]
  by_cases done : answer = .done
  · have closed : (if 0 ≤ w.client.socket ∧ answer = .done then (0 : Int) else -1) = 0 :=
      if_pos ⟨connected, done⟩
    rw [closed, if_neg (by decide), if_pos done]
    cases w.client.config.callbacks.onDisconnect with
    | none => exact ⟨w.callbacks, rfl⟩
    | some callback => exact ⟨_, rfl⟩
  · have kept : (if 0 ≤ w.client.socket ∧ answer = .done then (0 : Int) else -1) = -1 :=
      if_neg fun both => done both.2
    rw [kept, if_pos (by decide), if_neg done]
    exact ⟨w.callbacks, rfl⟩

end

section
variable {w : World} {answer : CloseAnswer}

def reset (w : World) (answer : CloseAnswer) : World :=
  if w.client.socket ≠ -1 then withSocket w (w.net.closed w.client.socket answer) (-1) else w

theorem reset_client (w : World) (answer : CloseAnswer) :
    (reset w answer).client = { w.client with socket := -1 } := by
  unfold reset
  split
  · rfl
  · have closed : w.client.socket = -1 := not_not.mp ‹_›
    rw [← closed]

def freeBlocks (client : Client) : Prog World Int := do
  onHeap (free client.buffer)
  Prog.when client.config.ipBroker.isSome do
    onHeap (free client.config.ipBroker)
    setConfigField ({ · with ipBroker := none })
  Prog.when client.config.clientId.isSome do
    onHeap (free client.config.clientId)
    setConfigField ({ · with clientId := none })
  return 0

theorem destroyClient_eq : destroyClient answer w = freeBlocks w.client (reset w answer) := by
  unfold reset
  by_cases open_ : w.client.socket ≠ -1
  · have closes : (do
          let _ ← onNet (close w.client.socket answer)
          setClient ({ · with socket := -1 }) : Prog World Unit) w =
        (.ret (), withSocket w (w.net.closed w.client.socket answer) (-1)) := by
      rw [Prog.bind_ret onNet_close]
      rfl
    rw [if_pos open_]
    change (Prog.when (w.client.socket ≠ -1) _ >>= fun _ => freeBlocks w.client) w = _
    rw [Prog.when, if_pos open_, Prog.bind_ret closes]
  · rw [if_neg open_]
    change (Prog.when (w.client.socket ≠ -1) _ >>= fun _ => freeBlocks w.client) w = _
    rw [Prog.when, if_neg open_]
    rfl

theorem freeBlocks_keeps (client : Client) (w : World) :
    Prog.Ends (freeBlocks client) w fun _ w' =>
      w'.net = w.net ∧ w'.client.socket = w.client.socket := by
  have heap : ∀ (m : Prog Heap Unit) (s : World), s.net = w.net ∧
      s.client.socket = w.client.socket → Prog.Ends (onHeap m) s fun _ w' =>
        w'.net = w.net ∧ w'.client.socket = w.client.socket := fun m s h => h
  have freed : ∀ (p : Ptr) (f : Config → Config) (s : World), s.net = w.net ∧
      s.client.socket = w.client.socket → Prog.Ends (Prog.when p.isSome do
        onHeap (free p)
        setConfigField f) s fun _ w' => w'.net = w.net ∧ w'.client.socket = w.client.socket := by
    intro p f s h
    refine Prog.Ends.ite (fun _ => ?_) (fun _ => h)
    exact (heap _ s h).bind_inv fun _ s' h' => h'
  refine (heap _ w ⟨rfl, rfl⟩).bind_inv fun _ s h => ?_
  refine (freed _ _ s h).bind_inv fun _ s' h' => ?_
  exact (freed _ _ s' h').bind_inv fun _ s'' h'' => h''

theorem destroyClient_net (w : World) (answer : CloseAnswer) :
    (destroyClient answer w).2.net = (reset w answer).net := by
  rw [destroyClient_eq]
  exact (freeBlocks_keeps w.client (reset w answer)).1

theorem destroyClient_socket (w : World) (answer : CloseAnswer) :
    (destroyClient answer w).2.client.socket = -1 := by
  rw [destroyClient_eq]
  exact (freeBlocks_keeps w.client (reset w answer)).2.trans
    (congrArg Client.socket (reset_client w answer))

end

section
variable {w : World} {a : ConnectAnswers} {stack : Nat → UInt8} {sends : List Int}
  {answer answer' : CloseAnswer}

def announce (stack : Nat → UInt8) (sends : List Int) : Prog World Int := do
  let client ← getClient
  let clientId ← onHeap (stringArg (getClientId client))
  let (serialized, buffer1) := serializeConnect .connect (some (Buffer.fresh stack)) 128 clientId
    client.config.keepAlive 0x04
  if serialized < 0 then return -1
  else do
    let sent ← onNet (sendBytesToServer (getSocketFd client) (contents buffer1)
      (sizeOfInt serialized) sends)
    if sent ≠ 0 then return -1
    else return 0

theorem clientConnect_eq : clientConnect a stack sends w =
    (connectClientTcp a >>= fun _ => announce stack sends) w := rfl

def disconnectBytes (stack : Nat → UInt8) : Nat → UInt8 :=
  contents (serializeDisconnect .disconnect (some (Buffer.fresh stack)) 2).2

theorem serializeHeaderOnly_eq (packetType : PacketTypeCode) (buffer : Buffer) :
    serializeHeaderOnly packetType (some buffer) 2 =
      (2, some ((Cursor.start buffer).append [toChar packetType.code, 0x00]).buffer) := by
  have two : intOfSize (headerOnly packetType).length = 2 := intOfSize_of_lt (n := 2) (by decide)
  rw [serializeHeaderOnly_lays packetType buffer 2 le_rfl, two]
  rfl

def hangUp (sent : Int) (answer answer' : CloseAnswer) : Prog World (Option Int) :=
  if sent ≠ 0 then return some (-1)
  else do
    let _ ← disconnectClient .tcp answer
    let _ ← destroyClient answer'
    return none

theorem clientDisconnect_eq : clientDisconnect stack sends answer answer' w =
    (onNet (sendBytesToServer w.client.socket (disconnectBytes stack) 2 sends) >>= fun sent =>
      hangUp sent answer answer') w := by
  have length : sizeOfInt 2 = 2 := by decide
  have nonneg : ¬(2 : Int) < 0 := by decide
  unfold clientDisconnect disconnectBytes serializeDisconnect
  simp only [serializeHeaderOnly_eq, if_neg nonneg, length]
  rfl

theorem clientDisconnect_cut (stack : Nat → UInt8) (answer answer' : CloseAnswer)
    (cut : ¬(0 ≤ w.client.socket ∧ accepts 2 sends = true)) :
    ∃ o, (o = .ret (some (-1)) ∨ o = .pending) ∧ clientDisconnect stack sends answer answer' w =
      (o, sentBy w w.client.socket (disconnectBytes stack) 2 sends) := by
  have sent : Sent 2 (sendLoop w.client.socket 2 0 sends) :=
    sendLoop_sent sends (Nat.zero_le 2) (by decide)
  have notWhole : (sendLoop w.client.socket 2 0 sends).2 ≠ .ret 0 := fun whole =>
    cut ((sendLoop_whole_iff sends Nat.zero_lt_two (by decide)).mp whole)
  rw [clientDisconnect_eq]
  rcases outcome : sendLoop w.client.socket 2 0 sends with ⟨calls, o⟩
  rw [outcome] at sent notWhole
  have second : (sendLoop w.client.socket 2 0 sends).2 = o := congrArg Prod.snd outcome
  cases sent with
  | whole _ all => exact absurd rfl notWhole
  | cut _ part =>
      refine ⟨.ret (some (-1)), Or.inl rfl, ?_⟩
      rw [Prog.bind_ret (onNet_sendBytesToServer second _ w), hangUp, if_pos (by decide)]
      rfl
  | waiting _ part =>
      exact ⟨.pending, Or.inr rfl, Prog.bind_pending (onNet_sendBytesToServer second _ w)⟩

/-- The DISCONNECT has gone out: the socket is closed by `disconnect_client`, which leaves it in its
field. -/
theorem clientDisconnect_destroys (stack : Nat → UInt8) (answer answer' : CloseAnswer)
    (connected : 0 ≤ w.client.socket) (whole : accepts 2 sends = true) :
    ∃ w', clientDisconnect stack sends answer answer' w =
        (destroyClient answer' >>= fun _ => pure none : Prog World (Option Int)) w' ∧
      w'.client = w.client ∧ w'.heap = w.heap ∧
      w'.net = (sentBy w w.client.socket (disconnectBytes stack) 2 sends).net.closed
        w.client.socket answer := by
  have second : (sendLoop w.client.socket 2 0 sends).2 = .ret 0 :=
    (sendLoop_whole_iff sends Nat.zero_lt_two (by decide)).mpr ⟨connected, whole⟩
  obtain ⟨callbacks, closes⟩ := disconnectClientTcp_closes answer
    (w := sentBy w w.client.socket (disconnectBytes stack) 2 sends) connected
  refine ⟨{ hungUp (sentBy w w.client.socket (disconnectBytes stack) 2 sends) answer with
    callbacks := callbacks }, ?_, rfl, rfl, rfl⟩
  rw [clientDisconnect_eq, Prog.bind_ret (onNet_sendBytesToServer second _ w), hangUp,
    if_neg (by decide), disconnectClient, Prog.bind_ret closes]

theorem clientDisconnect_whole (stack : Nat → UInt8) (answer answer' : CloseAnswer)
    (connected : 0 ≤ w.client.socket) (whole : accepts 2 sends = true) :
    (clientDisconnect stack sends answer answer' w).2.net =
        ((sentBy w w.client.socket (disconnectBytes stack) 2 sends).net.closed
          w.client.socket answer).closed w.client.socket answer' ∧
      (clientDisconnect stack sends answer answer' w).2.client.socket = -1 := by
  obtain ⟨w', disconnects, client, -, net⟩ :=
    clientDisconnect_destroys stack answer answer' connected whole
  have field : w'.client.socket = w.client.socket := congrArg Client.socket client
  have open_ : w'.client.socket ≠ -1 := by omega
  have destroyed := destroyClient_net w' answer'
  have socket := destroyClient_socket w' answer'
  rw [reset, if_pos open_, withSocket, field, net] at destroyed
  rw [disconnects]
  rcases outcome : destroyClient answer' w' with ⟨o, w''⟩
  rw [outcome] at destroyed socket
  cases o with
  | ret a => rw [Prog.bind_ret outcome]; exact ⟨destroyed, socket⟩
  | pending => rw [Prog.bind_pending outcome]; exact ⟨destroyed, socket⟩
  | undefined => rw [Prog.bind_undefined outcome]; exact ⟨destroyed, socket⟩

theorem announce_eq (stack : Nat → UInt8) (sends : List Int) (w : World) :
    announce stack sends w =
      (do
        let clientId ← onHeap (stringArg w.client.config.clientId)
        let (serialized, buffer1) := serializeConnect .connect (some (Buffer.fresh stack)) 128
          clientId w.client.config.keepAlive 0x04
        if serialized < 0 then return -1
        else do
          let sent ← onNet (sendBytesToServer w.client.socket (contents buffer1)
            (sizeOfInt serialized) sends)
          if sent ≠ 0 then return -1
          else return 0 : Prog World Int) w := rfl

theorem onHeap_stringArg (p : Ptr) (w : World) : ∃ o, onHeap (stringArg p) w = (o, w) := by
  have heap : (stringArg p w.heap).2 = w.heap := by
    unfold stringArg
    split <;> rfl
  exact ⟨_, by rw [onHeap, Prog.zoom_apply, heap]⟩

theorem announce_sends (stack : Nat → UInt8) (sends : List Int) (w : World) : ∃ o,
    announce stack sends w = (o, w) ∨
      ∃ data length, announce stack sends w = (o, sentBy w w.client.socket data length sends) := by
  obtain ⟨o, string⟩ := onHeap_stringArg w.client.config.clientId w
  rw [announce_eq]
  cases o with
  | ret clientId =>
      rw [Prog.bind_ret string]
      rcases serializeConnect .connect (some (Buffer.fresh stack)) 128 clientId
        w.client.config.keepAlive 0x04 with ⟨serialized, buffer1⟩
      by_cases refused : serialized < 0
      · refine ⟨.ret (-1), Or.inl ?_⟩
        simp only [if_pos refused]
        rfl
      · refine ⟨reported (sendLoop w.client.socket (sizeOfInt serialized) 0 sends).2,
          Or.inr ⟨contents buffer1, sizeOfInt serialized, ?_⟩⟩
        simp only [if_neg refused]
        exact sendReport_eq w.client.socket (contents buffer1) (sizeOfInt serialized) sends w
  | pending => exact ⟨.pending, Or.inl (Prog.bind_pending string)⟩
  | undefined => exact ⟨.undefined, Or.inl (Prog.bind_undefined string)⟩

def connectBytes (clientId : CString) (keepAlive : UInt16) (stack : Nat → UInt8) : Nat → UInt8 :=
  contents (some ((Cursor.start (Buffer.fresh stack)).append
    (connectPacket clientId keepAlive)).buffer)

theorem onHeap_clientId {clientId : CString}
    (readable : w.heap.string? w.client.config.clientId = some clientId) :
    onHeap (stringArg w.client.config.clientId) w = (.ret (some clientId), w) := by
  rw [onHeap, Prog.zoom_apply, stringArg_readable readable]

theorem announce_begins (stack : Nat → UInt8) (sends : List Int) {clientId : CString}
    (readable : w.heap.string? w.client.config.clientId = some clientId)
    (short : strlen clientId ≤ 114) :
    announce stack sends w = (reported (sendLoop w.client.socket (14 + strlen clientId) 0 sends).2,
      sentBy w w.client.socket (connectBytes clientId w.client.config.keepAlive stack)
        (14 + strlen clientId) sends) := by
  have nonneg : ¬intOfSize (14 + strlen clientId) < 0 := by
    rw [intOfSize_of_lt (by omega)]
    omega
  have length : sizeOfInt (intOfSize (14 + strlen clientId)) = 14 + strlen clientId := by
    rw [intOfSize_of_lt (by omega), sizeOfInt_natCast (by omega)]
  rw [announce_eq, Prog.bind_ret (onHeap_clientId readable)]
  simp only [serializeConnect_writes _ _ _ _ (show 14 + strlen clientId < 2 ^ 64 by omega)
    (show 14 + strlen clientId ≤ 128 by omega), if_neg nonneg, length]
  exact sendReport_eq w.client.socket _ (14 + strlen clientId) sends w

theorem announce_refuses (stack : Nat → UInt8) (sends : List Int) {clientId : CString}
    (readable : w.heap.string? w.client.config.clientId = some clientId)
    (long : 114 < strlen clientId) (bound : strlen clientId < 2 ^ 62) :
    announce stack sends w = (.ret (-1), w) := by
  have refused : (-2 : Int) < 0 := by decide
  rw [announce_eq, Prog.bind_ret (onHeap_clientId readable)]
  simp only [serializeConnect_refuses _ _ _ _ (show 14 + strlen clientId < 2 ^ 64 by omega)
    (show 128 < 14 + strlen clientId by omega), if_pos refused]
  rfl

theorem announce_silent (stack : Nat → UInt8) (sends : List Int)
    (long : ∀ clientId, w.heap.string? w.client.config.clientId = some clientId →
      114 < strlen clientId ∧ strlen clientId < 2 ^ 62) :
    ∃ o, announce stack sends w = (o, w) := by
  cases readable : w.heap.string? w.client.config.clientId with
  | some clientId =>
      obtain ⟨large, bound⟩ := long clientId readable
      exact ⟨_, announce_refuses stack sends readable large bound⟩
  | none =>
      rw [announce_eq]
      cases id : w.client.config.clientId with
      | none =>
          have null : onHeap (stringArg none) w = (.ret none, w) := rfl
          rw [Prog.bind_ret null]
          simp only [serializeConnect]
          exact ⟨_, rfl⟩
      | some a =>
          have dangling : onHeap (stringArg (some a)) w = (.undefined, w) := by
            rw [id] at readable
            rw [onHeap, Prog.zoom_apply]
            simp only [stringArg, readable]
          exact ⟨_, Prog.bind_undefined dangling⟩

end

theorem returning_snd (m : Prog World Int) (w : World) : (returning m w).2 = (m w).2 := by
  unfold returning
  rcases outcome : m w with ⟨o, w'⟩
  cases o with
  | ret a => rw [Prog.bind_ret outcome]; rfl
  | pending => rw [Prog.bind_pending outcome]
  | undefined => rw [Prog.bind_undefined outcome]

theorem returning_ret {m : Prog World Int} {w w' : World} {r : Int} (call : m w = (.ret r, w')) :
    returning m w = (.ret (some r), w') := Prog.bind_ret call

theorem returning_undefined {m : Prog World Int} {w w' : World} (call : m w = (.undefined, w')) :
    returning m w = (.undefined, w') := Prog.bind_undefined call

theorem returning_fst {m : Prog World Int} {w : World} {r : Option Int}
    (returns : (returning m w).1 = .ret r) : ∃ r', (m w).1 = .ret r' := by
  unfold returning at returns
  rcases outcome : m w with ⟨o, w'⟩
  cases o with
  | ret a => exact ⟨a, rfl⟩
  | pending =>
      rw [Prog.bind_pending outcome] at returns
      cases returns
  | undefined =>
      rw [Prog.bind_undefined outcome] at returns
      cases returns

end Dpubsub.Proof
