import Dpubsub.Model.TestPrograms
import Dpubsub.Proof.Collecting
import Dpubsub.Proof.SendLoop

/-!
# How the servers among the test programs end

Whatever the system answers, and with what they have taken from it by then. A descriptor that a call
opens is on loan; the program ends with the table it was given when it has closed what it borrowed.
-/

namespace Dpubsub.Proof
open Dpubsub.Lib Dpubsub.Model Dpubsub.Spec

structure Listens (a : ListenAnswers) (n : Net) : Prop where
  nonneg : 0 ≤ a.socket
  unused : n.held a.socket = false
  setsockopt : 0 ≤ a.setsockopt
  bind : 0 ≤ a.bind
  listen : 0 ≤ a.listen

/-- Nothing is left open: no data has been sent, and the table is as before when `close` releases. -/
structure NothingLeft (answer : CloseAnswer) (n n' : Net) : Prop where
  transfers : n'.transfers = n.transfers
  conns : answer.releases = true → n'.conns = n.conns

section Descriptors
variable {a : ListenAnswers} {n : Net} {sockfd answer : Int}

theorem nothingLeft_refl (n : Net) (answer : CloseAnswer) : NothingLeft answer n n := ⟨rfl, fun _ => rfl⟩

theorem nothingLeft_closed {fd : Int} {n' : Net} (lends : n.Lends fd n') (answer : CloseAnswer) :
    NothingLeft answer n (n'.closed fd answer) where
  transfers := by rw [Net.closed_transfers, lends.transfers]
  conns := lends.restores n' answer rfl

theorem createAndListenServer_eq (nonneg : 0 ≤ a.socket) (unused : n.held a.socket = false)
    (port : Int) : createAndListenServer a port n =
      (if a.setsockopt < 0 ∨ a.bind < 0 ∨ a.listen < 0 then do
        let _ ← close a.socket a.close
        return none
      else return some a.socket : Prog Net (Option Int)) (n.openConn a.socket nonneg) := by
  rw [createAndListenServer, Prog.bind_ret (socket_opens nonneg unused),
    if_neg (Int.not_lt.mpr nonneg)]
  by_cases setsockopt : a.setsockopt < 0
  · rw [if_pos setsockopt, if_pos (Or.inl setsockopt)]
  rw [if_neg setsockopt]
  by_cases bind : a.bind < 0
  · rw [if_pos bind, if_pos (Or.inr (Or.inl bind))]
  rw [if_neg bind]
  by_cases listen : a.listen < 0
  · rw [if_pos listen, if_pos (Or.inr (Or.inr listen))]
  · rw [if_neg listen, if_neg (by simp [setsockopt, bind, listen])]

theorem createAndListenServer_listens (listens : Listens a n) (port : Int) :
    createAndListenServer a port n = (.ret (some a.socket), n.openConn a.socket listens.nonneg) := by
  have setsockopt := listens.setsockopt
  have bind := listens.bind
  have listen := listens.listen
  rw [createAndListenServer_eq listens.nonneg listens.unused, if_neg (by omega)]
  rfl

theorem createAndListenServer_exits (refused : ¬Listens a n) (port : Int) :
    ∃ n', createAndListenServer a port n = (.ret none, n') ∧ NothingLeft a.close n n' := by
  by_cases available : 0 ≤ a.socket ∧ n.held a.socket = false
  · obtain ⟨nonneg, unused⟩ := available
    have failed : a.setsockopt < 0 ∨ a.bind < 0 ∨ a.listen < 0 := by
      by_contra ok
      push Not at ok
      exact refused ⟨nonneg, unused, ok.1, ok.2.1, ok.2.2⟩
    refine ⟨_, ?_, nothingLeft_closed (Net.lends_openConn nonneg unused) a.close⟩
    rw [createAndListenServer_eq nonneg unused, if_pos failed, Prog.bind_ret (Net.close_eq ..)]
    rfl
  · refine ⟨n, ?_, nothingLeft_refl n a.close⟩
    rw [createAndListenServer, Prog.bind_ret (socket_refuses available), if_pos (by decide)]
    rfl

structure Accepts (answer : Int) (n : Net) : Prop where
  nonneg : 0 ≤ answer
  unused : n.held answer = false

theorem acceptClient_accepts (listening : n.held sockfd = true) (accepts : Accepts answer n) :
    acceptClient sockfd answer n = (.ret answer, n.openConn answer accepts.nonneg) := by
  have accepted : accept sockfd answer n = (.ret answer, n.openConn answer accepts.nonneg) := by
    rw [accept, if_pos listening, socket_opens accepts.nonneg accepts.unused]
  rw [acceptClient, Prog.bind_ret accepted, if_neg (Int.not_lt.mpr accepts.nonneg)]
  rfl

theorem acceptClient_fails (refused : ¬Accepts answer n) (sockfd : Int) :
    acceptClient sockfd answer n = (.ret (-1), n) := by
  have failed : accept sockfd answer n = (.ret (-1), n) := by
    rw [accept]
    split
    · exact socket_refuses fun both => refused ⟨both.1, both.2⟩
    · rfl
  rw [acceptClient, Prog.bind_ret failed, if_pos (by decide)]
  rfl

theorem closeResource_eq (n : Net) (fd : Int) (answer : CloseAnswer) :
    ∃ r, closeResource fd answer n = (.ret r, n.closed fd answer) := by
  rw [closeResource, Prog.bind_ret (Net.close_eq ..)]
  split
  · exact ⟨0, rfl⟩
  · exact ⟨-1, rfl⟩

def setNet (h : Host) (n : Net) : Host := { h with net := n }

theorem sockets_eq {α : Type} {m : Prog Net α} {o : Outcome α} {n : Net} (h : Host)
    (outcome : m h.net = (o, n)) : Host.sockets m h = (o, setNet h n) := by
  rw [Host.sockets, Prog.zoom_apply, outcome]
  rfl

theorem sockets_setNet {α : Type} {m : Prog Net α} {o : Outcome α} {n n' : Net} (h : Host)
    (outcome : m n = (o, n')) : Host.sockets m (setNet h n) = (o, setNet h n') :=
  sockets_eq (setNet h n) outcome

theorem closes_both (sockfd connfd : Int) (closeConnection closeSocket : CloseAnswer) (h : Host) :
    (do
      let _ ← Host.sockets (closeConnectionServer connfd closeConnection)
      let _ ← Host.sockets (closeSocketServer sockfd closeSocket)
      return some 0 : Prog Host (Option Int)) h =
    (.ret (some 0), setNet h ((h.net.closed connfd closeConnection).closed sockfd closeSocket)) := by
  obtain ⟨r, first⟩ := closeResource_eq h.net connfd closeConnection
  obtain ⟨r', second⟩ := closeResource_eq (h.net.closed connfd closeConnection) sockfd closeSocket
  refine (Prog.bind_ret (sockets_eq h first)).trans ?_
  exact Prog.bind_ret (sockets_setNet h second)

end Descriptors

structure Reads (a : ServerAnswers) (n : Net) (bytes : List UInt8) : Prop where
  listens : Listens a.listen n
  accepts : Accepts a.accept (n.openConn a.listen.socket listens.nonneg)
  data : recvResult a.accept echoBufferSize a.recv = .data bytes

structure Echoed (before : Host) (bytes : List UInt8) (after : Host) : Prop where
  printed : after.printed = before.printed ++ [untilNul bytes]
  sent : ∃ t, after.net.transfers = before.net.transfers ++ [t] ∧
    t.conn = some (before.net.opened + 1) ∧ t.delivered <+: bytes
  heap : after.heap = before.heap

/-- How the program ends: it exits when it cannot listen; it is undefined when there is no connection,
nothing to read, or as much as the buffer holds; else it sends back what it has read. -/
inductive ServerEnds (a : ServerAnswers) (before : Host) : Outcome (Option Int) × Host → Prop where
  | exits {n} (refused : ¬Listens a.listen before.net)
      (nothing : NothingLeft a.listen.close before.net n) :
      ServerEnds a before (.ret none, setNet before n)
  | faults {after} (listens : Listens a.listen before.net)
      (bad : ∀ bytes, Reads a before.net bytes → echoBufferSize ≤ bytes.length) :
      ServerEnds a before (.undefined, after)
  | waits {after bytes} (reads : Reads a before.net bytes) (fits : bytes.length < echoBufferSize)
      (waiting : a.sends = []) (echoed : Echoed before bytes after) :
      ServerEnds a before (.pending, after)
  | returns {after bytes} (reads : Reads a before.net bytes) (fits : bytes.length < echoBufferSize)
      (sent : a.sends ≠ []) (echoed : Echoed before bytes after)
      (conns : a.closeConnection.releases = true → a.closeSocket.releases = true →
        after.net.conns = before.net.conns) :
      ServerEnds a before (.ret (some 0), after)

section Echo
variable {a : ServerAnswers} {before : Host} {bytes : List UInt8}

theorem receive_of_data {fd : Int} {size : Nat} {answer : RecvAnswer} (small : size < 2 ^ 31)
    (data : recvResult fd size answer = .data bytes) :
    receiveBytesFromClientStaticBuff fd size answer = (some (bytes.length : Int), bytes) := by
  obtain ⟨-, some, atMost⟩ := recvResult_length data
  have result : intOfSize bytes.length = bytes.length := intOfSize_of_lt (by omega)
  simp only [receiveBytesFromClientStaticBuff, data, result]
  rw [if_neg (by omega)]

theorem receive_of_no_data {fd : Int} {size : Nat} {answer : RecvAnswer}
    (nothing : ∀ bytes, recvResult fd size answer ≠ .data bytes) :
    receiveBytesFromClientStaticBuff fd size answer = (none, []) := by
  unfold receiveBytesFromClientStaticBuff
  cases received : recvResult fd size answer with
  | data bytes => exact absurd received (nothing bytes)
  | closed => rfl
  | failed wouldBlock => rfl

theorem map_getD_range (bytes : List UInt8) : (List.range bytes.length).map (bytes.getD · 0) = bytes := by
  apply List.ext_getElem
  · simp
  · intro i _ inside
    simp [inside]

theorem sendBytesToClient_sends (fd : Int) (bytes : List UInt8) (answers : List Int) (n : Net) :
    ∃ calls, sendBytesToClient fd (bytes.getD · 0) bytes.length answers n =
      (if answers = [] then .pending else .ret 0, n.transfer fd (bytes.getD · 0) bytes.length calls) ∧
      calls.flatMap (SendCall.taken (bytes.getD · 0)) <+: bytes := by
  cases answers with
  | nil => exact ⟨[], rfl, List.nil_prefix⟩
  | cons answer answers =>
      refine ⟨[⟨0, bytes.length, sendResult fd bytes.length answer⟩], rfl, ?_⟩
      have part := range_map_prefix (bytes.getD · 0) (sendResult_le fd bytes.length answer)
      rw [map_getD_range, List.range_eq_range'] at part
      simpa [SendCall.taken] using part

theorem serverRest_faults {sockfd connfd : Int}
    (bad : ∀ bytes, recvResult connfd echoBufferSize a.recv = .data bytes →
      echoBufferSize ≤ bytes.length) (h : Host) :
    (serverRest sockfd connfd a h).1 = .undefined := by
  by_cases some : ∃ bytes, recvResult connfd echoBufferSize a.recv = .data bytes
  · obtain ⟨bytes, data⟩ := some
    have positive : (bytes.length : Int) > 0 := Int.natCast_pos.mpr (recvResult_length data).2.1
    have stuck : Prog.when ((bytes.length : Int) > 0) (printReceived bytes) h = (.undefined, h) := by
      rw [Prog.when, if_pos positive, printReceived, if_neg (Nat.not_lt.mpr (bad bytes data))]
      rfl
    rw [serverRest, receive_of_data (by decide) data]
    exact congrArg Prod.fst (Prog.bind_undefined stuck)
  · push Not at some
    rw [serverRest, receive_of_no_data some]
    rfl

def printedBy (h : Host) (bytes : List UInt8) : Host :=
  { h with printed := h.printed ++ [untilNul bytes] }

theorem serverRest_echoes {connfd : Int}
    (data : recvResult connfd echoBufferSize a.recv = .data bytes)
    (fits : bytes.length < echoBufferSize) (sockfd : Int) (h : Host) : ∃ calls,
    calls.flatMap (SendCall.taken (bytes.getD · 0)) <+: bytes ∧ serverRest sockfd connfd a h =
      if a.sends = [] then (.pending, setNet (printedBy h bytes)
        (h.net.transfer connfd (bytes.getD · 0) bytes.length calls))
      else (.ret (some 0), setNet (printedBy h bytes)
        (((h.net.transfer connfd (bytes.getD · 0) bytes.length calls).closed connfd
          a.closeConnection).closed sockfd a.closeSocket)) := by
  have positive : (bytes.length : Int) > 0 := Int.natCast_pos.mpr (recvResult_length data).2.1
  have prints : Prog.when ((bytes.length : Int) > 0) (printReceived bytes) h =
      (.ret (), printedBy h bytes) := by
    rw [Prog.when, if_pos positive, printReceived, if_pos fits]
    rfl
  have bound : echoBufferSize < 2 ^ 64 := by decide
  have size : sizeOfInt bytes.length = bytes.length := sizeOfInt_natCast (fits.trans bound)
  obtain ⟨calls, outcome, part⟩ := sendBytesToClient_sends connfd bytes a.sends h.net
  refine ⟨calls, part, ?_⟩
  rw [serverRest, receive_of_data (by decide) data]
  refine (Prog.bind_ret prints).trans ?_
  rw [size]
  by_cases waiting : a.sends = []
  · rw [if_pos waiting] at outcome ⊢
    exact Prog.bind_pending (sockets_eq (printedBy h bytes) outcome)
  · rw [if_neg waiting] at outcome ⊢
    refine (Prog.bind_ret (sockets_eq (printedBy h bytes) outcome)).trans ?_
    exact closes_both sockfd connfd a.closeConnection a.closeSocket (setNet _ _)

theorem held_openConn_self (n : Net) {fd : Int} (nonneg : 0 ≤ fd) :
    (n.openConn fd nonneg).held fd = true := by
  rw [Net.held, Net.openConn_conns_self, Option.isSome_some]

theorem serverMain_accepts (listens : Listens a.listen before.net)
    (accepts : Accepts a.accept (before.net.openConn a.listen.socket listens.nonneg)) :
    serverMain a before = serverRest a.listen.socket a.accept a (setNet before
      ((before.net.openConn a.listen.socket listens.nonneg).openConn a.accept accepts.nonneg)) := by
  have listening := createAndListenServer_listens listens 9090
  have accepted := acceptClient_accepts (held_openConn_self before.net listens.nonneg) accepts
  refine (Prog.bind_ret (sockets_eq before listening)).trans ?_
  exact Prog.bind_ret (sockets_setNet before accepted)

theorem serverMain_alone (listens : Listens a.listen before.net)
    (alone : ¬Accepts a.accept (before.net.openConn a.listen.socket listens.nonneg)) :
    serverMain a before = serverRest a.listen.socket (-1) a
      (setNet before (before.net.openConn a.listen.socket listens.nonneg)) := by
  have listening := createAndListenServer_listens listens 9090
  have failed := acceptClient_fails alone a.listen.socket
  refine (Prog.bind_ret (sockets_eq before listening)).trans ?_
  exact Prog.bind_ret (sockets_setNet before failed)

theorem serverMain_faults (listens : Listens a.listen before.net)
    (bad : ∀ bytes, Reads a before.net bytes → echoBufferSize ≤ bytes.length) :
    (serverMain a before).1 = .undefined := by
  by_cases accepts : Accepts a.accept (before.net.openConn a.listen.socket listens.nonneg)
  · rw [serverMain_accepts listens accepts]
    apply serverRest_faults
    intro bytes data
    exact bad bytes ⟨listens, accepts, data⟩
  · rw [serverMain_alone listens accepts]
    apply serverRest_faults
    intro bytes data
    exact absurd (recvResult_length data).1 (by decide)

theorem serverMain_echoes (reads : Reads a before.net bytes) (fits : bytes.length < echoBufferSize) :
    ServerEnds a before (serverMain a before) := by
  obtain ⟨listens, accepts, data⟩ := id reads
  obtain ⟨calls, part, outcome⟩ := serverRest_echoes data fits a.listen.socket (setNet before
    ((before.net.openConn _ listens.nonneg).openConn _ accepts.nonneg))
  rw [serverMain_accepts listens accepts, outcome]
  have conn : (((before.net.openConn _ listens.nonneg).openConn _ accepts.nonneg).conns a.accept) =
      some (before.net.opened + 1) := Net.openConn_conns_self ..
  by_cases waiting : a.sends = []
  · rw [if_pos waiting]
    refine .waits reads fits waiting ⟨rfl, ?_, rfl⟩
    exact ⟨⟨_, (bytes.getD · 0), bytes.length, calls⟩, rfl, conn, part⟩
  · rw [if_neg waiting]
    refine .returns reads fits waiting ⟨rfl, ?_, rfl⟩ fun first second => ?_
    · refine ⟨⟨_, (bytes.getD · 0), bytes.length, calls⟩, ?_, conn, part⟩
      simp only [setNet, Net.closed_transfers]
      rfl
    · have listening := Net.lends_openConn listens.nonneg listens.unused
      have connected := Net.lends_openConn accepts.nonneg accepts.unused
      exact listening.restores _ _ (connected.restores _ _ rfl first) second

theorem serverMain_ends (a : ServerAnswers) (before : Host) :
    ServerEnds a before (serverMain a before) := by
  by_cases listens : Listens a.listen before.net
  · by_cases reads : ∃ bytes, Reads a before.net bytes ∧ bytes.length < echoBufferSize
    · obtain ⟨bytes, reads, fits⟩ := reads
      exact serverMain_echoes reads fits
    · push Not at reads
      have undefined := serverMain_faults listens reads
      rcases outcome : serverMain a before with ⟨o, after⟩
      rw [outcome] at undefined
      obtain rfl : o = .undefined := undefined
      exact .faults listens reads
  · obtain ⟨n, exits, nothing⟩ := createAndListenServer_exits listens 9090
    have main : serverMain a before = (.ret none, setNet before n) :=
      Prog.bind_ret (sockets_eq before exits)
    rw [main]
    exact .exits listens nothing

end Echo
structure GivesBack (released : Prop) (before after : Host) : Prop where
  heap : after.heap.blocks = before.heap.blocks
  conns : released → after.net.conns = before.net.conns

def setHeap (h : Host) (m : Heap) : Host := { h with heap := m }

theorem memory_eq {α : Type} {m : Prog Heap α} {o : Outcome α} {heap : Heap} (h : Host)
    (outcome : m h.heap = (o, heap)) : Host.memory m h = (o, setHeap h heap) := by
  rw [Host.memory, Prog.zoom_apply, outcome]
  rfl

def filled (h : Heap) (size : Nat) (bytes : List UInt8) : Heap :=
  (h.alloc (List.replicate size 0)).store h.next 0 bytes

theorem filled_block (h : Heap) (size : Nat) (bytes : List UInt8) :
    (filled h size bytes).blocks h.next =
      some (bytes ++ (List.replicate size 0).drop bytes.length) := by
  rw [filled, Heap.blocks_store (Heap.blocks_alloc_next ..), Nat.zero_add]
  rfl

theorem free_filled (h : Heap) (size : Nat) (bytes : List UInt8) :
    ∃ m, free (some h.next) (filled h size bytes) = (.ret (), m) ∧ m.blocks = h.blocks := by
  have live : (filled h size bytes).live h.next = true := by
    rw [Heap.live, filled_block, Option.isSome_some]
  refine ⟨_, free_live live, Heap.release_restores (h.unused _ le_rfl) fun b ne => ?_⟩
  exact (Function.update_of_ne ne _ _).trans (Function.update_of_ne ne _ _)

section Receive
variable {a : ReceiveTestAnswers} {before : Host}

def connfdOf (answer : Int) (n : Net) : Int :=
  if 0 ≤ answer ∧ n.held answer = false then answer else -1

theorem acceptClient_lends {n : Net} {sockfd : Int} (listening : n.held sockfd = true)
    (answer : Int) : ∃ n', acceptClient sockfd answer n = (.ret (connfdOf answer n), n') ∧
      n.Lends (connfdOf answer n) n' := by
  by_cases accepts : Accepts answer n
  · rw [connfdOf, if_pos ⟨accepts.nonneg, accepts.unused⟩]
    exact ⟨_, acceptClient_accepts listening accepts,
      Net.lends_openConn accepts.nonneg accepts.unused⟩
  · rw [connfdOf, if_neg fun both => accepts ⟨both.1, both.2⟩]
    exact ⟨n, acceptClient_fails accepts sockfd, Net.lends_negative (by decide)⟩

theorem performanceTestStatic_granted (connfd : Int) (size : Nat) (answer : RecvAnswer) (h : Host) :
    ∃ m, performanceTestStatic connfd size true answer h = (.ret (some ()), setHeap h m) ∧
      m.blocks = h.heap.blocks := by
  obtain ⟨m, frees, same⟩ := free_filled h.heap size
    (receiveBytesFromClientStaticBuff connfd size answer).2
  refine ⟨m, ?_, same⟩
  refine (Prog.bind_ret (memory_eq h (malloc_granted size))).trans ?_
  exact (Prog.modify_bind _ _ _).trans (Prog.bind_ret (memory_eq (setHeap h _) frees))

def dynamicOf (a : ReceiveTestAnswers) (n : Net) : Collected :=
  collectFrom (connfdOf a.accept n) a.grantsDynamic a.recvs

theorem collectFrom_negative {fd : Int} (negative : fd < 0) (granted : Bool)
    (answers : List (Bool × RecvAnswer)) : (collectFrom fd granted answers).bytes = [] := by
  cases granted with
  | false => rfl
  | true =>
      cases answers with
      | nil => rfl
      | cons head answers =>
          have room : ¬(spare < ([] : List UInt8).length ∧ head.1 = false) := by simp
          have fails : stopOf (recvResult fd chunkSize head.2) = some .failed := by
            rw [recvResult_negative negative]
            rfl
          rw [collectFrom, if_pos rfl, collect_stops room fails]

theorem dynamicOf_small
    (small : (collectFrom a.accept a.grantsDynamic a.recvs).bytes.length < 2 ^ 64 - chunkSize)
    (n : Net) : (dynamicOf a n).bytes.length < 2 ^ 64 - chunkSize := by
  unfold dynamicOf connfdOf
  split
  · exact small
  · rw [collectFrom_negative (by decide)]
    decide

/-- How the program ends. It gives back what it has taken but for the descriptors when it exits for
want of memory. -/
inductive ReceiveTestEnds (a : ReceiveTestAnswers) (before : Host) :
    Outcome (Option Int) × Host → Prop where
  | refused {n} (refused : ¬Listens a.listen before.net)
      (nothing : NothingLeft a.listen.close before.net n) :
      ReceiveTestEnds a before (.ret none, setNet before n)
  | exhausted {after} (listens : Listens a.listen before.net)
      (memory : a.grantsStatic = false ∨
        (dynamicOf a (before.net.openConn _ listens.nonneg)).stop = some .outOfMemory)
      (heap : after.heap.blocks = before.heap.blocks) :
      ReceiveTestEnds a before (.ret none, after)
  | waits {after} (listens : Listens a.listen before.net) (granted : a.grantsStatic = true)
      (going : (dynamicOf a (before.net.openConn _ listens.nonneg)).stop = none) :
      ReceiveTestEnds a before (.pending, after)
  | returns {after stop} (listens : Listens a.listen before.net) (granted : a.grantsStatic = true)
      (stops : (dynamicOf a (before.net.openConn _ listens.nonneg)).stop = some stop)
      (memory : stop ≠ .outOfMemory)
      (givesBack : GivesBack (a.closeConnection.releases = true ∧ a.closeSocket.releases = true)
        before after) :
      ReceiveTestEnds a before (.ret (some 0), after)

theorem receiveTestMain_listens (listens : Listens a.listen before.net) : ∃ n,
    (before.net.openConn _ listens.nonneg).Lends
      (connfdOf a.accept (before.net.openConn _ listens.nonneg)) n ∧
    receiveTestMain a before = receiveTestRest a.listen.socket
      (connfdOf a.accept (before.net.openConn _ listens.nonneg)) a (setNet before n) := by
  have listening := createAndListenServer_listens listens 9595
  obtain ⟨n, accepted, lends⟩ :=
    acceptClient_lends (held_openConn_self before.net listens.nonneg) a.accept
  refine ⟨n, lends, ?_⟩
  refine (Prog.bind_ret (sockets_eq before listening)).trans ?_
  exact Prog.bind_ret (sockets_setNet before accepted)

inductive RestEnds (sockfd connfd : Int) (a : ReceiveTestAnswers) (h : Host) :
    Collected → Outcome (Option Int) × Host → Prop where
  | waits {stream after} : RestEnds sockfd connfd a h ⟨stream, none⟩ (.pending, after)
  | exits {stream m} (heap : m.blocks = h.heap.blocks) :
      RestEnds sockfd connfd a h ⟨stream, some .outOfMemory⟩ (.ret none, setHeap h m)
  | returns {stream stop m} (memory : stop ≠ .outOfMemory) (heap : m.blocks = h.heap.blocks) :
      RestEnds sockfd connfd a h ⟨stream, some stop⟩ (.ret (some 0), setNet (setHeap h m)
        ((h.net.closed connfd a.closeConnection).closed sockfd a.closeSocket))

theorem receiveTestRest_ends {connfd : Int} (granted : a.grantsStatic = true)
    (small : (collectFrom connfd a.grantsDynamic a.recvs).bytes.length < 2 ^ 64 - chunkSize)
    (sockfd : Int) (h : Host) : RestEnds sockfd connfd a h
      (collectFrom connfd a.grantsDynamic a.recvs) (receiveTestRest sockfd connfd a h) := by
  obtain ⟨m, static, same⟩ := performanceTestStatic_granted connfd testDataSize a.recv h
  obtain ⟨⟨o, s⟩, dynamic, serves⟩ : ∃ r, performanceTestDynamic connfd a.grantsDynamic a.recvs
      (setHeap h m) = (r.1, setHeap h r.2.heap) ∧
      Serves m (collectFrom connfd a.grantsDynamic a.recvs) r :=
    ⟨_, rfl, receiveBytesWithDynamicBuffer_serves connfd a.grantsDynamic a.recvs small m⟩
  have rest : receiveTestRest sockfd connfd a h =
      receiveTestDynamic sockfd connfd a (setHeap h m) := by
    rw [receiveTestRest, granted]
    exact Prog.bind_ret static
  rw [rest, receiveTestDynamic]
  generalize collectFrom connfd a.grantsDynamic a.recvs = collected at serves
  cases serves with
  | waits collects =>
      rw [Prog.bind_pending dynamic]
      exact .waits
  | ends stop total heap =>
      have closes := closes_both sockfd connfd a.closeConnection a.closeSocket (setHeap h s.heap)
      rw [Prog.bind_ret dynamic]
      cases stop with
      | outOfMemory => exact .exits (heap.trans same)
      | hungUp =>
          simp only [ended, closes]
          exact .returns (by decide) (heap.trans same)
      | failed =>
          simp only [ended, closes]
          exact .returns (by decide) (heap.trans same)

theorem receiveTestMain_ends (a : ReceiveTestAnswers) (before : Host)
    (small : (collectFrom a.accept a.grantsDynamic a.recvs).bytes.length < 2 ^ 64 - chunkSize) :
    ReceiveTestEnds a before (receiveTestMain a before) := by
  by_cases listens : Listens a.listen before.net
  · obtain ⟨n, lends, main⟩ := receiveTestMain_listens listens
    rw [main]
    cases granted : a.grantsStatic with
    | false =>
        rw [receiveTestRest, granted]
        exact .exhausted listens (Or.inl granted) rfl
    | true =>
        have ends := receiveTestRest_ends granted (dynamicOf_small small
          (before.net.openConn _ listens.nonneg)) a.listen.socket (setNet before n)
        generalize receiveTestRest _ _ _ _ = result at ends ⊢
        generalize collected : collectFrom _ _ _ = c at ends
        have stops := congrArg Collected.stop collected
        cases ends with
        | waits => exact .waits listens granted stops
        | exits heap => exact .exhausted listens (Or.inr stops) heap
        | returns memory heap =>
            refine .returns listens granted stops memory ⟨heap, fun released => ?_⟩
            have listening := Net.lends_openConn listens.nonneg listens.unused
            exact listening.restores _ _ (lends.restores _ _ rfl released.1) released.2
  · obtain ⟨n, exits, nothing⟩ := createAndListenServer_exits listens 9595
    have main : receiveTestMain a before = (.ret none, setNet before n) :=
      Prog.bind_ret (sockets_eq before exits)
    rw [main]
    exact .refused listens nothing

def receiveTestAnswers : ReceiveTestAnswers :=
  ⟨⟨3, 0, 0, 0, .done⟩, 4, true, .data [1, 2], true, [(true, .data [3]), (true, .closed)], .done, .done⟩

theorem receiveTestAnswers_ends : ReceiveTestEnds receiveTestAnswers ⟨Net.empty, Heap.empty, []⟩
    (receiveTestMain receiveTestAnswers ⟨Net.empty, Heap.empty, []⟩) :=
  receiveTestMain_ends receiveTestAnswers ⟨Net.empty, Heap.empty, []⟩ (by decide)

end Receive

end Dpubsub.Proof
