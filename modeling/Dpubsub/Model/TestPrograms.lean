import Dpubsub.Model.TcpClient
import Dpubsub.Model.TcpServer

/-!
# The programs under `transport/tcp/tests`

A program that calls `exit` returns `none`. What they print about elapsed time is left out.
-/

namespace Dpubsub.Model
open Dpubsub.Lib

/-- A process, with the strings received from the network that it has printed. -/
structure Host where
  net : Net
  heap : Heap
  printed : List (List UInt8)

namespace Host

def sockets {α : Type} (m : Prog Net α) : Prog Host α :=
  Prog.zoom Host.net (fun h n => { h with net := n }) m

def memory {α : Type} (m : Prog Heap α) : Prog Host α :=
  Prog.zoom Host.heap (fun h m => { h with heap := m }) m

def block (p : Nat) : Prog Host (List UInt8) := fun h => (.ret ((h.heap.blocks p).getD []), h)

end Host

/-! ## `server.c` -/

structure ServerAnswers where
  listen : ListenAnswers
  accept : Int
  recv : RecvAnswer
  sends : List Int
  closeConnection : CloseAnswer
  closeSocket : CloseAnswer

/-- `char buffer[1024]` -/
def echoBufferSize : Nat := 1024

/-- `buffer[bytes_received] = '\0'`, and the `printf` of the string that this ends. -/
def printReceived (bytes : List UInt8) : Prog Host Unit :=
  if bytes.length < echoBufferSize then
    Prog.modify fun h => { h with printed := h.printed ++ [untilNul bytes] }
  else Prog.stuck

/-- The part of `main` after `accept_client`. -/
def serverRest (sockfd connfd : Int) (a : ServerAnswers) : Prog Host (Option Int) := do
  let (received, bytes) := receiveBytesFromClientStaticBuff connfd echoBufferSize a.recv
  match received with
  -- the missing value is compared with 0
  | none => Prog.stuck
  | some bytesReceived => do
      Prog.when (bytesReceived > 0) (printReceived bytes)
      let _ ← Host.sockets
        (sendBytesToClient connfd (bytes.getD · 0) (sizeOfInt bytesReceived) a.sends)
      let _ ← Host.sockets (closeConnectionServer connfd a.closeConnection)
      let _ ← Host.sockets (closeSocketServer sockfd a.closeSocket)
      return some 0

def serverMain (a : ServerAnswers) : Prog Host (Option Int) := do
  let listening ← Host.sockets (createAndListenServer a.listen 9090)
  match listening with
  | none => return none
  | some sockfd => do
      let connfd ← Host.sockets (acceptClient sockfd a.accept)
      serverRest sockfd connfd a

/-! ## `client.c` -/

structure ClientAnswers where
  connect : ConnectAnswers
  sends : List Int
  close : CloseAnswer

/-- `"127.0.0.1"` -/
def loopbackAddress : CString :=
  ⟨[0x31, 0x32, 0x37, 0x2E, 0x30, 0x2E, 0x30, 0x2E, 0x31], by decide⟩

/-- `"Hello, server!"` -/
def helloServer : CString :=
  ⟨[0x48, 0x65, 0x6C, 0x6C, 0x6F, 0x2C, 0x20, 0x73, 0x65, 0x72, 0x76, 0x65, 0x72, 0x21], by decide⟩

def clientMain (a : ClientAnswers) : Prog Host Int := do
  let clientSocket ← Host.sockets (createConnectionToServer a.connect (some loopbackAddress) 9090)
  if clientSocket < 0 then return 1
  else do
    let _ ← Host.sockets
      (sendBytesToServer clientSocket (helloServer.bytes.getD · 0) (strlen helloServer) a.sends)
    let _ ← Host.sockets (closeConnectionClient clientSocket a.close)
    return 0

/-! ## `recv_data_server_test.c` -/

structure ReceiveTestAnswers where
  listen : ListenAnswers
  accept : Int
  grantsStatic : Bool
  recv : RecvAnswer
  grantsDynamic : Bool
  recvs : List (Bool × RecvAnswer)
  closeConnection : CloseAnswer
  closeSocket : CloseAnswer

/-- `TEST_DATA_SIZE` -/
def testDataSize : Nat := 1024 * 1024

def performanceTestStatic (connfd : Int) (bufferSize : Nat) (granted : Bool)
    (answer : RecvAnswer) : Prog Host (Option Unit) := do
  let buffer ← Host.memory (malloc bufferSize granted)
  match buffer with
  | none => return none
  | some block => do
      -- nothing is done with the result
      let (_, bytes) := receiveBytesFromClientStaticBuff connfd bufferSize answer
      Prog.modify fun h => { h with heap := h.heap.store block 0 bytes }
      Host.memory (free buffer)
      return some ()

def performanceTestDynamic (connfd : Int) (granted : Bool) (answers : List (Bool × RecvAnswer)) :
    Prog Host (Option Unit) :=
  Prog.zoom (fun h => ⟨h.heap, none, 0, 0, []⟩) (fun h r => { h with heap := r.heap })
    (receiveBytesWithDynamicBuffer connfd granted answers)

/-- The part of `main` after the test of the static buffer. -/
def receiveTestDynamic (sockfd connfd : Int) (a : ReceiveTestAnswers) : Prog Host (Option Int) := do
  let dynamic ← performanceTestDynamic connfd a.grantsDynamic a.recvs
  match dynamic with
  | none => return none
  | some _ => do
      let _ ← Host.sockets (closeConnectionServer connfd a.closeConnection)
      let _ ← Host.sockets (closeSocketServer sockfd a.closeSocket)
      return some 0

/-- The part of `main` after `accept_client`. -/
def receiveTestRest (sockfd connfd : Int) (a : ReceiveTestAnswers) : Prog Host (Option Int) := do
  let static ← performanceTestStatic connfd testDataSize a.grantsStatic a.recv
  match static with
  | none => return none
  | some _ => receiveTestDynamic sockfd connfd a

def receiveTestMain (a : ReceiveTestAnswers) : Prog Host (Option Int) := do
  let listening ← Host.sockets (createAndListenServer a.listen 9595)
  match listening with
  | none => return none
  | some sockfd => do
      let connfd ← Host.sockets (acceptClient sockfd a.accept)
      receiveTestRest sockfd connfd a

/-! ## `send_data_to_server_test.c` -/

structure SendTestAnswers where
  granted : Bool
  connect : ConnectAnswers
  sends : List Int
  close : CloseAnswer

def performanceTest (serverIp : CString) (serverPort : UInt16) (dataSize : Nat)
    (a : SendTestAnswers) : Prog Host (Option Unit) := do
  let data ← Host.memory (malloc dataSize a.granted)
  match data with
  | none => return none
  | some block => do
      -- `memset(data, 'A', data_size)`
      Prog.modify fun h => { h with heap := h.heap.store block 0 (List.replicate dataSize 0x41) }
      let sockfd ← Host.sockets (createConnectionToServer a.connect (some serverIp) serverPort)
      if sockfd < 0 then do
        Host.memory (free data)
        return none
      else do
        let bytes ← Host.block block
        let _ ← Host.sockets (sendBytesToServer sockfd (bytes.getD · 0) dataSize a.sends)
        let _ ← Host.sockets (closeConnectionClient sockfd a.close)
        Host.memory (free data)
        return some ()

/-- `"172.18.0.1"` -/
def serverIp : CString :=
  ⟨[0x31, 0x37, 0x32, 0x2E, 0x31, 0x38, 0x2E, 0x30, 0x2E, 0x31], by decide⟩

def sendTestMain (a : SendTestAnswers) : Prog Host (Option Int) := do
  let tested ← performanceTest serverIp 9595 testDataSize a
  match tested with
  | none => return none
  | some _ => return some 0

end Dpubsub.Model
