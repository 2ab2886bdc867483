import Dpubsub.Model.TcpClient

/-!
# Receiving PUBLISH packets (`handle_publish` in `packets.c`)

The accesses to the local arrays are logged, each before it is made. Using a byte of `buffer` that
`recv` has not stored is undefined, as is storing past the end of `topic` or `payload`.
-/

namespace Dpubsub.Model
open Dpubsub.Lib

inductive LocalArray where
  | topic
  | payload
deriving DecidableEq, Repr

inductive Access where
  | read (i : Nat)
  | store (array : LocalArray) (i : Nat)
  | subtract (a b : Nat)
deriving DecidableEq, Repr

structure Receiver where
  net : Net
  accesses : List Access
  shown : List (List UInt8 × List UInt8)

def logAccess (access : Access) : Prog Receiver Unit :=
  Prog.modify fun r => { r with accesses := r.accesses ++ [access] }

def readBuffer (buffer : List UInt8) (i : Nat) : Prog Receiver UInt8 := do
  logAccess (.read i)
  match buffer[i]? with
  | some byte => return byte
  | none => Prog.stuck

def storeLocal (array : LocalArray) (i : Nat) : Prog Receiver Unit := do
  logAccess (.store array i)
  if i < 256 then return ()
  else Prog.stuck

/-- `memcpy(array, buffer + source, count)` from index `i` on, with the bytes it copies. -/
def copyLocal (array : LocalArray) (buffer : List UInt8) (source i : Nat) :
    Nat → Prog Receiver (List UInt8)
  | 0 => return []
  | count + 1 => do
      let byte ← readBuffer buffer (source + i)
      storeLocal array i
      let rest ← copyLocal array buffer source (i + 1) count
      return byte :: rest

structure Decoded where
  qos : Nat
  messageId : Nat
  topic : List UInt8
  payload : List UInt8
deriving DecidableEq, Repr

def readMessageId (buffer : List UInt8) (qos payloadStart : Nat) : Prog Receiver (Nat × Nat) :=
  if qos > 0 then do
    let high ← readBuffer buffer payloadStart
    let low ← readBuffer buffer (payloadStart + 1)
    return (shortOf high low, payloadStart + 2)
  else return (0, payloadStart)

/-- The fields of a packet whose type has been checked. -/
def decodeFields (buffer : List UInt8) : Prog Receiver Decoded := do
  let remainingLength ← readBuffer buffer 1
  let flags ← readBuffer buffer 0
  let qos := ((promote flags &&& 0x06).sshiftRight 1).toNat
  let high ← readBuffer buffer 2
  let low ← readBuffer buffer 3
  let topicLength := shortOf high low
  let topic ← copyLocal .topic buffer 4 0 topicLength
  storeLocal .topic topicLength
  let (messageId, payloadStart) ← readMessageId buffer qos (4 + topicLength)
  logAccess (.subtract remainingLength.toNat (payloadStart - 2))
  let payloadLength := sizeSub remainingLength.toNat (payloadStart - 2)
  let payload ← copyLocal .payload buffer payloadStart 0 payloadLength
  storeLocal .payload payloadLength
  return ⟨qos, messageId, topic, payload⟩

/-- The part between `recv` and the reply; `none` for a packet of another type. -/
def decodePublish (buffer : List UInt8) : Prog Receiver (Option Decoded) := do
  let type ← readBuffer buffer 0
  if (promote type).sshiftRight 4 ≠ 3 then return none
  else do
    let decoded ← decodeFields buffer
    return some decoded

def pubackPacket (messageId : Nat) : List UInt8 :=
  [0x40, 0x02, toChar ((messageId >>> 8) &&& 0xFF), toChar (messageId &&& 0xFF)]

/-- Both arrays are given to one `printf`, and kept as they are before the 0 byte that is put behind
them. -/
def showMessage (message : Decoded) : Prog Receiver Unit :=
  Prog.modify fun r => { r with shown := r.shown ++ [(message.topic, message.payload)] }

/-- The texts that the `printf` calls show. -/
def Receiver.printed (r : Receiver) : List (List UInt8 × List UInt8) :=
  r.shown.map (Prod.map untilNul untilNul)

/-- What follows the decoding: the message is shown, and acknowledged for QoS 1. -/
def answerPublish (socketFd : Int) (message : Decoded) (sends : List Int) : Prog Receiver Int := do
  showMessage message
  if message.qos = 1 then do
    let puback := pubackPacket message.messageId
    let _ ← Prog.zoom Receiver.net (fun r n => { r with net := n })
      (sendBytesToServer socketFd (fun i => puback.getD i 0) puback.length sends)
    return 0
  else return 0

/-- `errno` is tested after `perror` has reported the failed read, which may have changed it: the
answer says what the test finds. -/
def handlePublish (socketFd : Int) (answer : RecvAnswer) (sends : List Int) :
    Prog Receiver Int := do
  let (receivedBytes, buffer) := receiveBytesFromServerStaticBuff socketFd 512 answer
  if receivedBytes = 0 then return -1
  else if receivedBytes < 0 then
    if recvResult socketFd 512 answer = .failed true then return 0
    else return -1
  else do
    let decoded ← decodePublish buffer
    match decoded with
    | none => return 0
    | some message => answerPublish socketFd message sends

/-- An application that calls `handle_publish` for each read, until a call fails. (The loop in
`client_test.c`, which is commented out, also ends after ten calls.) Each read comes with the answers to
the `send` calls of the reply. -/
def pollPublish (socketFd : Int) : List (List UInt8 × List Int) → Prog Receiver Unit
  | [] => return ()
  | (bytes, sends) :: reads => do
      let result ← handlePublish socketFd (.data bytes) sends
      if result < 0 then return ()
      else pollPublish socketFd reads

end Dpubsub.Model
