import Dpubsub.Model.World
import Dpubsub.Model.Packets
import Dpubsub.Model.TcpClient

/-!
# The client (`client.c`)

The functions are those of a non-NULL `client_t *`. What the system answers to the calls a
function makes is passed to it: whether an allocation is granted, and what the socket calls return.
A function that can reach its closing brace without a `return` has an `Option` result, `none` there.
-/

namespace Dpubsub.Model
open Dpubsub.Lib

/-- `INITIAL_BUFFER_SIZE` -/
def initialBufferSize : Nat := 1024

def defaultCallbacks : Callbacks where
  onSubscribe := some (.default .onSubscribe)
  onPublish := some (.default .onPublish)
  onDisconnect := some (.default .onDisconnect)
  onConnect := some (.default .onConnect)
  onUnsubscribe := some (.default .onUnsubscribe)
  onMessage := some (.default .onMessage)

def defineDefaultCallback : Prog World Int := do
  setConfigField ({ · with callbacks := defaultCallbacks })
  return 0

def nullCallbacks : Callbacks := ⟨none, none, none, none, none, none⟩

def defineNullCb : Prog World Int := do
  setConfigField ({ · with callbacks := nullCallbacks })
  return 0

def createClient (config : Option Config) (bufferSize : Nat)
    (grantsId grantsIp grantsBuffer : Bool) : Prog World Int :=
  match config with
  | none => return -1
  | some config => do
      let clientId ← onHeap (strdup config.clientId grantsId)
      setConfigField ({ · with clientId := clientId })
      if clientId = none then return -1
      else do
        setConfigField ({ · with keepAlive := config.keepAlive })
        let ipBroker ← onHeap (strdup config.ipBroker grantsIp)
        setConfigField ({ · with ipBroker := ipBroker })
        if ipBroker = none then do
          onHeap (free clientId)
          return -1
        else do
          setConfigField ({ · with portBroker := config.portBroker, defaultQos := config.defaultQos })
          let bufferSize := if bufferSize = 0 then initialBufferSize else bufferSize
          setClient ({ · with bufferSize := bufferSize })
          let buffer ← onHeap (malloc bufferSize grantsBuffer)
          setClient ({ · with buffer := buffer })
          if buffer = none then do
            onHeap (free ipBroker)
            onHeap (free clientId)
            return -1
          else do
            let defined ← defineDefaultCallback
            if defined ≠ 0 then do
              onHeap (free ipBroker)
              onHeap (free clientId)
              onHeap (free buffer)
              return -1
            else do
              setClient ({ · with socket := -1 })
              return 0

def destroyClient (answer : CloseAnswer) : Prog World Int := do
  let client ← getClient
  Prog.when (client.socket ≠ -1) do
    let _ ← onNet (close client.socket answer)
    setClient ({ · with socket := -1 })
  onHeap (free client.buffer)
  Prog.when client.config.ipBroker.isSome do
    onHeap (free client.config.ipBroker)
    setConfigField ({ · with ipBroker := none })
  Prog.when client.config.clientId.isSome do
    onHeap (free client.config.clientId)
    setConfigField ({ · with clientId := none })
  return 0

def connectClientTcp (a : ConnectAnswers) : Prog World Int := do
  let w ← Prog.get
  let clientSocket ← onNet (createConnectionToServer a (w.heap.string? w.client.config.ipBroker)
    w.client.config.portBroker)
  if clientSocket < 0 then return -1
  else do
    setClient ({ · with socket := clientSocket })
    return 0

def connectClient (protocol : Protocol) (a : ConnectAnswers) : Prog World Int :=
  match protocol with
  | .tcp => connectClientTcp a
  | .unknown => return -1

def disconnectClientTcp (answer : CloseAnswer) : Prog World (Option Int) := do
  let client ← getClient
  if client.socket < 0 then return some (-1)
  else do
    let closeConnection ← onNet (closeConnectionClient client.socket answer)
    if closeConnection < 0 then return some (-1)
    else do
      -- the socket field keeps the descriptor, and `msg` is never set
      invoke client.config.callbacks.onDisconnect none
      return none

def disconnectClient (protocol : Protocol) (answer : CloseAnswer) : Prog World (Option Int) :=
  match protocol with
  | .tcp => disconnectClientTcp answer
  | .unknown => return some (-1)

def receiveMessageTcp (granted : Bool) (answer : RecvAnswer) : Prog World Int := do
  let client ← getClient
  if client.socket < 0 then return -1
  else do
    Prog.when (client.bufferSize = 0) (setClient ({ · with bufferSize := initialBufferSize }))
    let client ← getClient
    Prog.when (client.buffer = none) do
      let buffer ← onHeap (malloc client.bufferSize granted)
      setClient ({ · with buffer := buffer })
    let w ← Prog.get
    match w.client.buffer with
    | none => return -1
    | some block =>
        Prog.modify fun w => { w with
          recvs := w.recvs ++ [⟨w.client.bufferSize, w.heap.capacity block⟩] }
        let (bytesReceived, bytes) :=
          receiveBytesFromServerStaticBuff w.client.socket w.client.bufferSize answer
        -- a freed block has capacity 0
        if w.heap.capacity block < bytes.length then Prog.stuck
        else do
          Prog.modify fun w => { w with heap := w.heap.overwrite block bytes }
          if bytesReceived < 0 then return -1
          else return bytesReceived

def receiveMessage (protocol : Protocol) (granted : Bool) (answer : RecvAnswer) :
    Prog World Int := do
  let client ← getClient
  if client.socket < 0 then return -1
  else
    match protocol with
    | .tcp => receiveMessageTcp granted answer
    | .unknown => return -1

/-- `sizeof(msg)`, of the pointer `msg` -/
def sizeOfMsg : Nat := 8

/-- `msg` is an address in `memory`, 0 for NULL. -/
def sendMessageTcp (memory : Memory) (msg : Nat) (sends : List Int) : Prog World Int := do
  let client ← getClient
  if msg = 0 then return -1
  else if client.socket < 0 then return -1
  else do
    let bytesSent ← onNet (sendBytesToServer client.socket (fun i => memory (msg + i)) sizeOfMsg
      sends)
    if bytesSent < 0 then return -1
    else return 0

def sendMessage (protocol : Protocol) (memory : Memory) (msg : Nat) (sends : List Int) :
    Prog World Int :=
  if msg = 0 then return -1
  else
    match protocol with
    | .tcp => sendMessageTcp memory msg sends
    | .unknown => return -1

/-- The memory, and a `message_t` in it. -/
structure OwnedMessage where
  heap : Heap
  topic : Ptr
  payload : Ptr

def onMessageHeap {α : Type} (m : Prog Heap α) : Prog OwnedMessage α :=
  Prog.zoom OwnedMessage.heap (fun s h => { s with heap := h }) m

/-- `msg` is not NULL. -/
def freeMessage : Prog OwnedMessage Int := do
  let msg ← Prog.get
  Prog.when msg.topic.isSome do
    onMessageHeap (free msg.topic)
    Prog.modify ({ · with topic := none })
  let msg ← Prog.get
  Prog.when msg.payload.isSome do
    onMessageHeap (free msg.payload)
    Prog.modify ({ · with payload := none })
  return 0

/-! ## Getters and setters -/

def setQos (qos : UInt8) : Prog World Int := do
  setConfigField ({ · with defaultQos := qos })
  return 0

def getQos (client : Client) : Int := client.config.defaultQos.toNat

def setKeepAlive (keepAlive : UInt16) : Prog World Int := do
  setConfigField ({ · with keepAlive := keepAlive })
  return 0

def getKeepAlive (client : Client) : Int := client.config.keepAlive.toNat

def setBrokerIp (ip : Ptr) (granted : Bool) : Prog World Int := do
  let client ← getClient
  Prog.when client.config.ipBroker.isSome (onHeap (free client.config.ipBroker))
  let copy ← onHeap (strdup ip granted)
  setConfigField ({ · with ipBroker := copy })
  if copy = none then return -1
  else return 0

def getBrokerIp (client : Client) : Ptr := client.config.ipBroker

def setBrokerPort (port : UInt16) : Prog World Int := do
  setConfigField ({ · with portBroker := port })
  return 0

def getBrokerPort (client : Client) : Int := client.config.portBroker.toNat

def setSocketFd (fd : Int) : Prog World Int := do
  setClient ({ · with socket := fd })
  return 0

def getSocketFd (client : Client) : Int := client.socket

def setClientId (clientId : Ptr) (granted : Bool) : Prog World Int := do
  let client ← getClient
  Prog.when client.config.clientId.isSome (onHeap (free client.config.clientId))
  let copy ← onHeap (strdup clientId granted)
  setConfigField ({ · with clientId := copy })
  if copy = none then return -1
  else return 0

def getClientId (client : Client) : Ptr := client.config.clientId

def setBufferSize (bufferSize : Nat) : Prog World Int := do
  setClient ({ · with bufferSize := bufferSize })
  return 0

def getBufferSize (client : Client) : Nat := client.bufferSize

def setBuffer (buffer : Ptr) : Prog World Int := do
  let client ← getClient
  Prog.when client.buffer.isSome (onHeap (free client.buffer))
  setClient ({ · with buffer := buffer })
  return 0

def copyField (p : Ptr) (granted : Bool) : Prog World Ptr :=
  if p.isSome then onHeap (strdup p granted) else pure none

def setConfig (config : Option Config) (grantsId grantsIp : Bool) : Prog World Int :=
  match config with
  | none => return -1
  | some config => do
      let client ← getClient
      Prog.when client.config.clientId.isSome (onHeap (free client.config.clientId))
      Prog.when client.config.ipBroker.isSome (onHeap (free client.config.ipBroker))
      let clientId ← copyField config.clientId grantsId
      setConfigField ({ · with clientId := clientId })
      if config.clientId.isSome ∧ clientId = none then return -1
      else do
        let ipBroker ← copyField config.ipBroker grantsIp
        setConfigField ({ · with ipBroker := ipBroker })
        if config.ipBroker.isSome ∧ ipBroker = none then do
          onHeap (free clientId)
          return -1
        else do
          setConfigField ({ · with
            keepAlive := config.keepAlive
            portBroker := config.portBroker
            defaultQos := config.defaultQos })
          return 0

def getConfig (client : Client) : Config := client.config

/-! ## Packets of a connected client -/

/-- The bytes in a local array after a serializer has been given it. -/
def contents (buffer : Option Buffer) : Nat → UInt8 := (buffer.map Buffer.bytes).getD fun _ => 0

/-- `stack` is what the uninitialised `buffer3` and the memory after it hold, and `msg` is read as
pointing to storage of its own. -/
def publish (topic message : Option CString) (messageId : UInt16) (retain dup : UInt8)
    (stack : Nat → UInt8) (sends : List Int) : Prog World Int := do
  let client ← getClient
  let msg : Message := ⟨topic, message, client.config.defaultQos, retain⟩
  let (createPacket, buffer3) := serializePublish .publish (some (Buffer.fresh stack)) 256
    msg.topic msg.payload messageId msg.qos retain dup
  let sent ← onNet (sendBytesToServer (getSocketFd client) (contents buffer3)
    (sizeOfInt createPacket) sends)
  if sent ≠ 0 then return -1
  else do
    invoke client.config.callbacks.onPublish (some msg)
    return 0

/-- The value of `protocol_t` for a protocol the code knows. -/
def protocolTcp : Nat := 0

def subscribeTopic (topic : Option CString) (stack : Nat → UInt8) (sends : List Int) :
    Prog World (Option Int) := do
  let client ← getClient
  -- the condition is the assignment `protocol = PROTOCOL_TCP`
  if protocolTcp ≠ 0 then do
    let qos := client.config.defaultQos
    let (createPacket, buffer) :=
      serializeSubscribe .subscribe (some (Buffer.fresh stack)) 256 topic 1 qos
    if createPacket < 0 then return some (-1)
    else do
      let sent ← onNet (sendBytesToServer (getSocketFd client) (contents buffer)
        (sizeOfInt createPacket) sends)
      if sent ≠ 0 then return some (-1)
      else do
        invoke client.config.callbacks.onSubscribe (some ⟨topic, none, qos, 0⟩)
        return some 0
  else return none

end Dpubsub.Model
