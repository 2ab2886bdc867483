import Dpubsub.Model.ClientTcpApi

/-!
# The interface of the library (`include/dpubsub.c`)

`dpubsub_protocol_t` has the values of `protocol_t`. `missing` is what a function happens to read
where it returns a variable that it has not set, or the value of a call that returned none.
-/

namespace Dpubsub.Model
open Dpubsub.Lib

def dpubsubConfig (config : Option Config) (bufferSize : Nat) (protocol : Protocol)
    (missing : Int) (grantsId grantsIp grantsBuffer : Bool) : Prog World Int :=
  match protocol with
  | .tcp => createClient config bufferSize grantsId grantsIp grantsBuffer
  | .unknown => return missing

/-- Returns what is left in `*config` with the result. -/
def dpubsubDefineConfigStruct (config : Option Config) (clientId : Ptr) (keepAlive : UInt16)
    (ipBroker : Ptr) (portBroker : UInt16) (defaultQos : UInt8) : Int × Option Config :=
  match config with
  | none => (-1, none)
  | some config => (0, some { config with
      clientId := clientId
      keepAlive := keepAlive
      ipBroker := ipBroker
      portBroker := portBroker
      defaultQos := defaultQos })

def dpubsubConnect (protocol : Protocol) (missing : Int) (a : ConnectAnswers)
    (stack : Nat → UInt8) (sends : List Int) : Prog World Int :=
  match protocol with
  | .tcp => clientConnect a stack sends
  | .unknown => return missing

def dpubsubDisconnect (protocol : Protocol) (missing : Int) (stack : Nat → UInt8)
    (sends : List Int) (answer answer' : CloseAnswer) : Prog World Int :=
  match protocol with
  | .tcp => do
      -- after `destroy_client`, `client_disconnect` ends without a value
      let disconnect ← clientDisconnect stack sends answer answer'
      return disconnect.getD missing
  | .unknown => return missing

def dpubsubSubscribe (topic : Option CString) (messageId : UInt16) (stack : Nat → UInt8)
    (sends : List Int) : Prog World Int := clientSubscribe topic messageId stack sends

def dpubsubUnsubscribe (topic : Option CString) (messageId : UInt16) (stack : Nat → UInt8)
    (sends : List Int) : Prog World Int := clientUnsubscribe topic messageId stack sends

def dpubsubPublish (topic message : Option CString) (messageId : UInt16) (retain dup : UInt8)
    (stack : Nat → UInt8) (sends : List Int) : Prog World Int :=
  clientPublish topic message messageId retain dup stack sends

def dpubsubPingreq (protocol : Protocol) (missing : Int) (stack : Nat → UInt8)
    (sends : List Int) : Prog World Int :=
  match protocol with
  | .tcp => clientPingreq stack sends
  | .unknown => return missing

/-- A call of an application that has been given its client by `dpubsub_config`, other than
`dpubsub_subscribe`, which sends nothing and goes on with a value that `subscribe_topic` never
returns. -/
inductive DpubsubCall where
  | connect (protocol : Protocol) (missing : Int) (a : ConnectAnswers) (stack : Nat → UInt8)
      (sends : List Int)
  | disconnect (protocol : Protocol) (missing : Int) (stack : Nat → UInt8) (sends : List Int)
      (answer answer' : CloseAnswer)
  | unsubscribe (topic : Option CString) (messageId : UInt16) (stack : Nat → UInt8)
      (sends : List Int)
  | publish (topic message : Option CString) (messageId : UInt16) (retain dup : UInt8)
      (stack : Nat → UInt8) (sends : List Int)
  | pingreq (protocol : Protocol) (missing : Int) (stack : Nat → UInt8) (sends : List Int)

def DpubsubCall.exec : DpubsubCall → Prog World Int
  | .connect protocol missing a stack sends => dpubsubConnect protocol missing a stack sends
  | .disconnect protocol missing stack sends answer answer' =>
      dpubsubDisconnect protocol missing stack sends answer answer'
  | .unsubscribe topic messageId stack sends => dpubsubUnsubscribe topic messageId stack sends
  | .publish topic message messageId retain dup stack sends =>
      dpubsubPublish topic message messageId retain dup stack sends
  | .pingreq protocol missing stack sends => dpubsubPingreq protocol missing stack sends

/-! ## The example (`examples/tcp/mqtt_tcp.c`) -/

/-- Everything that the system answers to the program, and what an unset variable would hold. -/
structure MainAnswers where
  missing : Int
  grantsId : Bool
  grantsIp : Bool
  grantsBuffer : Bool
  connect : ConnectAnswers
  connectStack : Nat → UInt8
  connectSends : List Int
  subscribeStack : Nat → UInt8
  subscribeSends : List Int

/-- `"mqtt_TCP_client"` -/
def mqttTcpClientId : CString :=
  ⟨[0x6D, 0x71, 0x74, 0x74, 0x5F, 0x54, 0x43, 0x50, 0x5F, 0x63, 0x6C, 0x69, 0x65, 0x6E, 0x74],
    by decide⟩

/-- `"35.172.255.228"` -/
def mqttTcpIpBroker : CString :=
  ⟨[0x33, 0x35, 0x2E, 0x31, 0x37, 0x32, 0x2E, 0x32, 0x35, 0x35, 0x2E, 0x32, 0x32, 0x38], by decide⟩

/-- `"dpubsub"` -/
def mqttTcpTopic : CString := ⟨[0x64, 0x70, 0x75, 0x62, 0x73, 0x75, 0x62], by decide⟩

/-- `config` is not initialised; `clientId` and `ipBroker` lead to the two literals. -/
def mqttTcpMain (config : Config) (clientId ipBroker : Ptr) (m : MainAnswers) :
    Prog World Int := do
  let (defined, config) := dpubsubDefineConfigStruct (some config) clientId 60 ipBroker 1883 0
  if defined ≠ 0 then return 1
  else do
    let configured ← dpubsubConfig config 0 .tcp m.missing m.grantsId m.grantsIp m.grantsBuffer
    if configured ≠ 0 then return 1
    else do
      let connected ← dpubsubConnect .tcp m.missing m.connect m.connectStack m.connectSends
      if connected ≠ 0 then return 1
      else do
        let subscribed ← dpubsubSubscribe (some mqttTcpTopic) 1 m.subscribeStack m.subscribeSends
        if subscribed ≠ 0 then return 1
        else return 0

end Dpubsub.Model
