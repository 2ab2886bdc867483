import Dpubsub.Proof.Connection
import Dpubsub.Proof.ServerPrograms

/-!
# How the clients among the test programs end
-/

namespace Dpubsub.Proof
open Dpubsub.Lib Dpubsub.Model

structure Connected (a : ConnectAnswers) (n : Net) : Prop where
  nonneg : 0 ≤ a.socket
  unused : n.held a.socket = false
  inetPton : 0 < a.inetPton
  connect : 0 ≤ a.connect
  getsockname : a.getsockname ≠ -1

section Send
variable {a : ConnectAnswers} {n : Net} {before : Host}

theorem createConnection_connects (connected : Connected a n) (addr : CString) (port : UInt16) :
    createConnectionToServer a (some addr) port n =
      (.ret a.socket, n.openConn a.socket connected.nonneg) := by
  have inetPton := connected.inetPton
  have connect := connected.connect
  have getsockname := connected.getsockname
  rw [createConnection_opens connected.nonneg connected.unused, if_neg (by simp),
    if_neg (by omega)]
  rfl

theorem createConnection_fails (failed : ¬Connected a n) (addr : CString) (port : UInt16) :
    ∃ n', createConnectionToServer a (some addr) port n = (.ret (-1), n') ∧
      NothingLeft a.close n n' := by
  by_cases available : 0 ≤ a.socket ∧ n.held a.socket = false
  · obtain ⟨nonneg, unused⟩ := available
    have fails : a.inetPton ≤ 0 ∨ a.connect < 0 ∨ a.getsockname = -1 := by
      by_contra ok
      push Not at ok
      exact failed ⟨nonneg, unused, ok.1, ok.2.1, ok.2.2⟩
    refine ⟨_, ?_, nothingLeft_closed (Net.lends_openConn nonneg unused) a.close⟩
    rw [createConnection_opens nonneg unused, if_neg (by simp), if_pos fails,
      Prog.bind_ret (Net.close_eq ..)]
    rfl
  · refine ⟨n, ?_, nothingLeft_refl n a.close⟩
    rw [createConnectionToServer, Prog.bind_ret (socket_refuses available), if_pos (by decide)]
    rfl

theorem closeConnectionClient_eq (n : Net) (fd : Int) (answer : CloseAnswer) :
    ∃ r, closeConnectionClient fd answer n = (.ret r, n.closed fd answer) := by
  rw [closeConnectionClient, Prog.bind_ret (Net.close_eq ..)]
  split
  · exact ⟨0, rfl⟩
  · exact ⟨-1, rfl⟩

/-- A prefix of `data` has been delivered on the new connection, all of it when the send returned 0. -/
structure Delivers (before : Net) (fd : Int) (data : List UInt8) (sends : List Int) (after : Net) :
    Prop where
  sent : ∃ t, after.transfers = before.transfers ++ [t] ∧ t.conn = some before.opened ∧
    t.delivered <+: data ∧ (t.delivered = data ↔ (sendLoop fd data.length 0 sends).2 = .ret 0)

theorem Delivers.closed {fd fd' : Int} {data : List UInt8} {sends : List Int} {after : Net}
    (delivers : Delivers n fd data sends after) (answer : CloseAnswer) :
    Delivers n fd data sends (after.closed fd' answer) := by
  obtain ⟨t, sent, rest⟩ := delivers.sent
  exact ⟨t, (Net.closed_transfers ..).trans sent, rest⟩

theorem sendBytesToServer_sends (connected : Connected a n) (data : List UInt8)
    (small : data.length < 2 ^ 31) (sends : List Int) : ∃ n',
    sendBytesToServer a.socket (data.getD · 0) data.length sends
        (n.openConn a.socket connected.nonneg) = ((sendLoop a.socket data.length 0 sends).2, n') ∧
      n'.conns = (n.openConn a.socket connected.nonneg).conns ∧
      Delivers n a.socket data sends n' := by
  have sent : Sent data.length (sendLoop a.socket data.length 0 sends) :=
    sendLoop_sent sends (Nat.zero_le data.length) small
  refine ⟨_, rfl, rfl, ⟨⟨_, (data.getD · 0), data.length,
    (sendLoop a.socket data.length 0 sends).1⟩, rfl, ?_, ?_, ?_⟩⟩
  · exact Net.openConn_conns_self n a.socket connected.nonneg
  · rw [delivered_eq _ _ _ _ small]
    have part := range_map_prefix (data.getD · 0) sent.atMost
    rwa [map_getD_range] at part
  · rw [delivered_eq _ _ _ _ small, sent.whole_iff]
    constructor
    · intro same
      simpa using congrArg List.length same
    · intro all
      rw [all, map_getD_range]

/-! ## `send_data_to_server_test.c` -/

/-- How the test ends: it exits when it gets no memory or no connection, and else delivers a prefix of
its data, all of it when no `send` fails. It gives back what it has taken. -/
inductive SendTestEnds {α : Type} (done : α) (a : SendTestAnswers) (data : List UInt8)
    (before : Host) : Outcome (Option α) × Host → Prop where
  | exits {after} (failed : a.granted = false ∨ ¬Connected a.connect before.net)
      (silent : after.net.transfers = before.net.transfers)
      (givesBack : GivesBack (a.connect.close.releases = true) before after) :
      SendTestEnds done a data before (.ret none, after)
  | waits {after} (granted : a.granted = true) (connected : Connected a.connect before.net)
      (delivers : Delivers before.net a.connect.socket data a.sends after.net) :
      SendTestEnds done a data before (.pending, after)
  | returns {after} (granted : a.granted = true) (connected : Connected a.connect before.net)
      (delivers : Delivers before.net a.connect.socket data a.sends after.net)
      (givesBack : GivesBack (a.close.releases = true) before after) :
      SendTestEnds done a data before (.ret (some done), after)

theorem sendLoop_pends_or_returns (fd : Int) {dataLen : Nat} (small : dataLen < 2 ^ 31)
    (sends : List Int) : (sendLoop fd dataLen 0 sends).2 = .pending ∨
      ∃ r, (sendLoop fd dataLen 0 sends).2 = .ret r := by
  have sent : Sent dataLen (sendLoop fd dataLen 0 sends) :=
    sendLoop_sent sends (Nat.zero_le dataLen) small
  generalize sendLoop fd dataLen 0 sends = result at sent
  cases sent with
  | whole calls all => exact Or.inr ⟨0, rfl⟩
  | cut calls part => exact Or.inr ⟨-1, rfl⟩
  | waiting calls part => exact Or.inl rfl

theorem filled_whole (h : Heap) (bytes : List UInt8) :
    ((filled h bytes.length bytes).blocks h.next).getD [] = bytes := by
  rw [filled_block, Option.getD_some, List.drop_eq_nil_of_le (by simp), List.append_nil]

def prepared (h : Host) (dataSize : Nat) : Host :=
  setHeap h (filled h.heap dataSize (List.replicate dataSize 0x41))

theorem prepared_block (h : Host) (dataSize : Nat) :
    ((prepared h dataSize).heap.blocks h.heap.next).getD [] = List.replicate dataSize 0x41 := by
  have whole := filled_whole h.heap (List.replicate dataSize 0x41)
  rwa [List.length_replicate] at whole

theorem performanceTest_granted {a : SendTestAnswers} (granted : a.granted = true)
    (serverIp : CString) (serverPort : UInt16) (dataSize : Nat) :
    performanceTest serverIp serverPort dataSize a before = (do
      let sockfd ← Host.sockets (createConnectionToServer a.connect (some serverIp) serverPort)
      if sockfd < 0 then do
        Host.memory (free (some before.heap.next))
        return none
      else do
        let bytes ← Host.block before.heap.next
        let _ ← Host.sockets (sendBytesToServer sockfd (bytes.getD · 0) dataSize a.sends)
        let _ ← Host.sockets (closeConnectionClient sockfd a.close)
        Host.memory (free (some before.heap.next))
        return some () : Prog Host (Option Unit))
      (prepared before dataSize) := by
  rw [performanceTest, granted]
  exact (Prog.bind_ret (memory_eq before (malloc_granted dataSize))).trans (Prog.modify_bind _ _ _)

theorem performanceTest_ends (serverIp : CString) (serverPort : UInt16) (dataSize : Nat)
    (small : dataSize < 2 ^ 31) (a : SendTestAnswers) (before : Host) :
    SendTestEnds () a (List.replicate dataSize 0x41) before
      (performanceTest serverIp serverPort dataSize a before) := by
  cases granted : a.granted with
  | false =>
      rw [performanceTest, granted]
      exact .exits (Or.inl granted) rfl ⟨rfl, fun _ => rfl⟩
  | true =>
      obtain ⟨m, frees, same⟩ := free_filled before.heap dataSize (List.replicate dataSize 0x41)
      rw [performanceTest_granted granted]
      by_cases connected : Connected a.connect before.net
      · have connects := createConnection_connects connected serverIp serverPort
        have read : Host.block before.heap.next (setNet (prepared before dataSize)
            (before.net.openConn _ connected.nonneg)) = (.ret (List.replicate dataSize 0x41), _) :=
          congrArg (fun bytes => (Outcome.ret bytes, _)) (prepared_block before dataSize)
        obtain ⟨n, sends, conns, delivers⟩ := sendBytesToServer_sends connected
          (List.replicate dataSize 0x41) (by simpa using small) a.sends
        rw [Prog.bind_ret (sockets_eq (prepared before dataSize) connects),
          if_neg (Int.not_lt.mpr connected.nonneg), Prog.bind_ret read]
        rcases sendLoop_pends_or_returns a.connect.socket small a.sends with waits | ⟨r, returned⟩
        · rw [List.length_replicate, waits] at sends
          rw [Prog.bind_pending (sockets_setNet (prepared before dataSize) sends)]
          exact .waits granted connected delivers
        · rw [List.length_replicate, returned] at sends
          obtain ⟨r', closes⟩ := closeConnectionClient_eq n a.connect.socket a.close
          rw [Prog.bind_ret (sockets_setNet (prepared before dataSize) sends),
            Prog.bind_ret (sockets_setNet (prepared before dataSize) closes),
            Prog.bind_ret (memory_eq (setNet (prepared before dataSize) _) frees)]
          refine .returns granted connected (delivers.closed a.close) ⟨same, fun released => ?_⟩
          have lends := Net.lends_openConn connected.nonneg connected.unused
          exact lends.restores n a.close conns released
      · obtain ⟨n, fails, nothing⟩ := createConnection_fails connected serverIp serverPort
        rw [Prog.bind_ret (sockets_eq (prepared before dataSize) fails), if_pos (by decide),
          Prog.bind_ret (memory_eq (setNet (prepared before dataSize) n) frees)]
        exact .exits (Or.inr connected) nothing.transfers ⟨same, nothing.conns⟩

theorem sendTestMain_ends (a : SendTestAnswers) (before : Host) :
    SendTestEnds 0 a (List.replicate testDataSize 0x41) before (sendTestMain a before) := by
  have ends := performanceTest_ends serverIp 9595 testDataSize (by decide) a before
  rcases outcome : performanceTest serverIp 9595 testDataSize a before with ⟨o, after⟩
  rw [outcome] at ends
  cases ends with
  | exits failed silent givesBack =>
      rw [sendTestMain, Prog.bind_ret outcome]
      exact .exits failed silent givesBack
  | waits granted connected delivers =>
      rw [sendTestMain, Prog.bind_pending outcome]
      exact .waits granted connected delivers
  | returns granted connected delivers givesBack =>
      rw [sendTestMain, Prog.bind_ret outcome]
      exact .returns granted connected delivers givesBack

/-! ## `client.c` -/

/-- How `client.c` ends: it fails when there is no connection, and does not care what is delivered. -/
inductive ClientEnds (a : ClientAnswers) (before : Host) : Outcome Int × Host → Prop where
  | fails {net} (failed : ¬Connected a.connect before.net)
      (nothing : NothingLeft a.connect.close before.net net) :
      ClientEnds a before (.ret 1, setNet before net)
  | waits {net} (connected : Connected a.connect before.net)
      (delivers : Delivers before.net a.connect.socket helloServer.bytes a.sends net) :
      ClientEnds a before (.pending, setNet before net)
  | returns {net} (connected : Connected a.connect before.net)
      (delivers : Delivers before.net a.connect.socket helloServer.bytes a.sends net)
      (conns : a.close.releases = true → net.conns = before.net.conns) :
      ClientEnds a before (.ret 0, setNet before net)

theorem clientMain_ends (a : ClientAnswers) (before : Host) :
    ClientEnds a before (clientMain a before) := by
  by_cases connected : Connected a.connect before.net
  · have connects := createConnection_connects connected loopbackAddress 9090
    obtain ⟨n, sends, conns, delivers⟩ := sendBytesToServer_sends connected helloServer.bytes
      (by decide) a.sends
    have length : helloServer.bytes.length = strlen helloServer := rfl
    rw [length] at sends
    rw [clientMain, Prog.bind_ret (sockets_eq before connects),
      if_neg (Int.not_lt.mpr connected.nonneg)]
    rcases sendLoop_pends_or_returns a.connect.socket (by decide : strlen helloServer < 2 ^ 31)
      a.sends with waits | ⟨r, returned⟩
    · rw [waits] at sends
      rw [Prog.bind_pending (sockets_setNet before sends)]
      exact .waits connected delivers
    · rw [returned] at sends
      obtain ⟨r', closes⟩ := closeConnectionClient_eq n a.connect.socket a.close
      have lends := Net.lends_openConn connected.nonneg connected.unused
      rw [Prog.bind_ret (sockets_setNet before sends),
        Prog.bind_ret (sockets_setNet before closes)]
      exact .returns connected (delivers.closed a.close) (lends.restores n a.close conns)
  · obtain ⟨n, fails, nothing⟩ := createConnection_fails connected loopbackAddress 9090
    rw [clientMain, Prog.bind_ret (sockets_eq before fails), if_pos (by decide)]
    exact .fails connected nothing

end Send
end Dpubsub.Proof
