import Dpubsub.Lib.Heap
import Dpubsub.Lib.Sockets

/-!
# The TCP client (`transport/tcp/tcp_client.c`)
-/

namespace Dpubsub.Model
open Dpubsub.Lib

structure ConnectAnswers where
  socket : Int
  inetPton : Int
  connect : Int
  getsockname : Int
  close : CloseAnswer
deriving DecidableEq, Repr

/-- `addr` is `none` where reading the address string is undefined. -/
def createConnectionToServer (a : ConnectAnswers) (addr : Option CString) (_port : UInt16) :
    Prog Net Int := do
  let sockfd ← socket a.socket
  if sockfd < 0 then return -1
  -- `inet_pton` is the first to read the address
  if addr = none then Prog.stuck
  else if a.inetPton ≤ 0 then do
    let _ ← close sockfd a.close
    return -1
  else if a.connect < 0 then do
    let _ ← close sockfd a.close
    return -1
  else if a.getsockname = -1 then do
    let _ ← close sockfd a.close
    return -1
  else return sockfd

/-- The loop of `send_bytes_to_server`, with the answers the system gives to its `send` calls.
When they run out, the call is still waiting inside `send`. -/
def sendLoop (sockfd : Int) (dataLen : Nat) : Nat → List Int → List SendCall × Outcome Int
  | total, answers =>
      if total < dataLen then
        match answers with
        | [] => ([], .pending)
        | answer :: answers =>
            let result := sendResult sockfd (dataLen - total) answer
            let bytesSent := intOf result
            let call := ⟨total, dataLen - total, result⟩
            if bytesSent < 0 then ([call], .ret (-1))
            else
              let (calls, outcome) :=
                sendLoop sockfd dataLen (sizeT (total + sizeOfInt bytesSent)) answers
              (call :: calls, outcome)
      else ([], .ret 0)
termination_by structural _ answers => answers

def sendBytesToServer (sockfd : Int) (data : Nat → UInt8) (dataLen : Nat) (answers : List Int) :
    Prog Net Int := fun n =>
  let (calls, outcome) := sendLoop sockfd dataLen 0 answers
  (outcome, n.transfer sockfd data dataLen calls)

/-- Returns with the bytes that `recv` stored from the start of the buffer on. -/
def receiveBytesFromServerStaticBuff (sockfd : Int) (bufferSize : Nat) (answer : RecvAnswer) :
    Int × List UInt8 :=
  match recvResult sockfd bufferSize answer with
  | .failed _ => (-1, [])
  | .closed => (0, [])
  | .data bytes => (intOfSize bytes.length, bytes)

def closeConnectionClient (sockfd : Int) (answer : CloseAnswer) : Prog Net Int := do
  let result ← close sockfd answer
  if result < 0 then return -1
  return 0

end Dpubsub.Model
