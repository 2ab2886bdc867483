import Dpubsub.Model.Client

/-!
# The API over TCP (`client_tcp_api.c`)

The initial contents of a function's local array are its argument `stack`.
-/

namespace Dpubsub.Model
open Dpubsub.Lib

def clientConnect (a : ConnectAnswers) (stack : Nat → UInt8) (sends : List Int) :
    Prog World Int := do
  -- the result of `connect_client` is not looked at
  let _ ← connectClient .tcp a
  let client ← getClient
  let clientId ← onHeap (stringArg (getClientId client))
  let (serialized, buffer1) := serializeConnect .connect (some (Buffer.fresh stack)) 128 clientId
    client.config.keepAlive 0x04
  if serialized < 0 then return -1
  else do
    let sent ← onNet (sendBytesToServer (getSocketFd client) (contents buffer1)
      (sizeOfInt serialized) sends)
    if sent ≠ 0 then return -1
    else return 0

def clientDisconnect (stack : Nat → UInt8) (sends : List Int) (answer answer' : CloseAnswer) :
    Prog World (Option Int) := do
  let client ← getClient
  let (disconnect, buffer) := serializeDisconnect .disconnect (some (Buffer.fresh stack)) 2
  if disconnect < 0 then return some (-1)
  else do
    let sent ← onNet (sendBytesToServer (getSocketFd client) (contents buffer)
      (sizeOfInt disconnect) sends)
    if sent ≠ 0 then return some (-1)
    else do
      let _ ← disconnectClient .tcp answer
      let _ ← destroyClient answer'
      return none

def clientSubscribe (topic : Option CString) (_messageId : UInt16) (stack : Nat → UInt8)
    (sends : List Int) : Prog World Int := do
  let subscribed ← subscribeTopic topic stack sends
  match subscribed with
  | none => Prog.stuck -- the value of a call that returned none is used
  | some result =>
      if result ≠ 0 then return -1
      else return 0

def clientUnsubscribe (topic : Option CString) (messageId : UInt16) (stack : Nat → UInt8)
    (sends : List Int) : Prog World Int := do
  let client ← getClient
  match topic with
  | none => Prog.stuck
  | some topic =>
      let topicLength := intOfSize (strlen topic)
      let bufferSizeUnsub := 2 + 2 + (2 + topicLength)
      -- signed overflow, and an array of a size that is not positive
      if bufferSizeUnsub ≤ 0 ∨ 2 ^ 31 ≤ bufferSizeUnsub then Prog.stuck
      else do
        let (unsubscribe, buffer) := serializeUnsubscribe .unsubscribe (some (Buffer.fresh stack))
          (sizeOfInt bufferSizeUnsub) (some topic) messageId
        if unsubscribe < 0 then return -1
        else do
          let sent ← onNet (sendBytesToServer (getSocketFd client) (contents buffer)
            (sizeOfInt unsubscribe) sends)
          if sent ≠ 0 then return -1
          else return 0

def clientPublish (topic message : Option CString) (messageId : UInt16) (retain dup : UInt8)
    (stack : Nat → UInt8) (sends : List Int) : Prog World Int := do
  let published ← publish topic message messageId retain dup stack sends
  if published ≠ 0 then return -1
  else return 0

def clientPingreq (stack : Nat → UInt8) (sends : List Int) : Prog World Int := do
  let client ← getClient
  let (createPacket, buffer) := serializePingreq .pingreq (some (Buffer.fresh stack)) 2
  if createPacket ≠ 0 then return -1
  else do
    let sent ← onNet (sendBytesToServer client.socket (contents buffer) 2 sends)
    if sent ≠ 0 then return -1
    else return 0

/-! ## Calls of the library -/

/-- A call of an application, with its arguments and everything the system answers during it. -/
inductive Call where
  | connectClient (protocol : Protocol) (a : ConnectAnswers)
  | disconnectClient (protocol : Protocol) (answer : CloseAnswer)
  | destroyClient (answer : CloseAnswer)
  | receiveMessage (protocol : Protocol) (granted : Bool) (answer : RecvAnswer)
  | setClientId (clientId : Ptr) (granted : Bool)
  | setBrokerIp (ip : Ptr) (granted : Bool)
  | setConfig (config : Option Config) (grantsId grantsIp : Bool)
  | setBuffer (buffer : Ptr)
  | setBufferSize (bufferSize : Nat)
  | clientConnect (a : ConnectAnswers) (stack : Nat → UInt8) (sends : List Int)
  | clientDisconnect (stack : Nat → UInt8) (sends : List Int) (answer answer' : CloseAnswer)
  | clientPublish (topic message : Option CString) (messageId : UInt16) (retain dup : UInt8)
      (stack : Nat → UInt8) (sends : List Int)
  | clientUnsubscribe (topic : Option CString) (messageId : UInt16) (stack : Nat → UInt8)
      (sends : List Int)
  | clientPingreq (stack : Nat → UInt8) (sends : List Int)

def returning (m : Prog World Int) : Prog World (Option Int) := do
  let result ← m
  return some result

def Call.exec : Call → Prog World (Option Int)
  | .connectClient protocol a => returning (Model.connectClient protocol a)
  | .disconnectClient protocol answer => Model.disconnectClient protocol answer
  | .destroyClient answer => returning (Model.destroyClient answer)
  | .receiveMessage protocol granted answer =>
      returning (Model.receiveMessage protocol granted answer)
  | .setClientId clientId granted => returning (Model.setClientId clientId granted)
  | .setBrokerIp ip granted => returning (Model.setBrokerIp ip granted)
  | .setConfig config grantsId grantsIp => returning (Model.setConfig config grantsId grantsIp)
  | .setBuffer buffer => returning (Model.setBuffer buffer)
  | .setBufferSize bufferSize => returning (Model.setBufferSize bufferSize)
  | .clientConnect a stack sends => returning (Model.clientConnect a stack sends)
  | .clientDisconnect stack sends answer answer' =>
      Model.clientDisconnect stack sends answer answer'
  | .clientPublish topic message messageId retain dup stack sends =>
      returning (Model.clientPublish topic message messageId retain dup stack sends)
  | .clientUnsubscribe topic messageId stack sends =>
      returning (Model.clientUnsubscribe topic messageId stack sends)
  | .clientPingreq stack sends => returning (Model.clientPingreq stack sends)

/-- The calls together with the setters that only store a value. -/
inductive ClientCall where
  | call (c : Call)
  | setQos (qos : UInt8)
  | setKeepAlive (keepAlive : UInt16)
  | setBrokerPort (port : UInt16)
  | setSocketFd (fd : Int)

def ClientCall.exec : ClientCall → Prog World (Option Int)
  | .call c => c.exec
  | .setQos qos => returning (Model.setQos qos)
  | .setKeepAlive keepAlive => returning (Model.setKeepAlive keepAlive)
  | .setBrokerPort port => returning (Model.setBrokerPort port)
  | .setSocketFd fd => returning (Model.setSocketFd fd)

/-- The calls together with the two that replace all callbacks at once. -/
inductive HookedCall where
  | client (c : ClientCall)
  | defineDefaultCallback
  | defineNullCb

def HookedCall.exec : HookedCall → Prog World (Option Int)
  | .client c => c.exec
  | .defineDefaultCallback => returning Model.defineDefaultCallback
  | .defineNullCb => returning Model.defineNullCb

/-- Nothing of this client has been opened, sent or called yet. -/
structure Untouched (w : World) : Prop where
  conns : ∀ fd, w.net.conns fd = none
  closes : w.net.closes = []
  transfers : w.net.transfers = []
  recvs : w.recvs = []

/-- `w` is as a successful `create_client` leaves it, in a process that may own any other blocks. -/
def Created (config : Config) (bufferSize : Nat) (before w : World) : Prop :=
  Untouched before ∧ ∃ grantsId grantsIp grantsBuffer,
    createClient (some config) bufferSize grantsId grantsIp grantsBuffer before = (.ret 0, w)

end Dpubsub.Model
