import Dpubsub.Model.Dpubsub

/-!
# The test of the client (`tests/client_test.c`)

It shares the address of the broker and the topic with the example. The loop over `handle_publish` is
commented out.
-/

namespace Dpubsub.Model
open Dpubsub.Lib

/-- The packets of the test, in the order in which it sends them. -/
inductive TestPacket where
  | connect | publish | pingreq | subscribe | unsubscribe | disconnect
deriving DecidableEq

/-- Everything that the system answers to the program, what the array of each packet holds at first, and
what is read as the result of `disconnect_client` where it returns none. -/
structure ClientTestAnswers where
  missing : Int
  grantsId : Bool
  grantsIp : Bool
  grantsBuffer : Bool
  connect : ConnectAnswers
  stack : TestPacket → Nat → UInt8
  sends : TestPacket → List Int
  closeConnection : CloseAnswer
  closeClient : CloseAnswer

/-- `"davifurao"` -/
def clientTestId : CString :=
  ⟨[0x64, 0x61, 0x76, 0x69, 0x66, 0x75, 0x72, 0x61, 0x6F], by decide⟩

/-- `"opa1"` -/
def clientTestMessage : CString := ⟨[0x6F, 0x70, 0x61, 0x31], by decide⟩

/-- `send_bytes_to_server` with the result of a serializer; `rest` is what `main` does when it
returns 0. -/
def transmit (packet : Int × Option Buffer) (sends : List Int) (rest : Prog World Int) :
    Prog World Int := do
  let client ← getClient
  let sent ← onNet (sendBytesToServer (getSocketFd client) (contents packet.2)
    (sizeOfInt packet.1) sends)
  if sent ≠ 0 then return 1
  else rest

/-- The part of `main` after the packets. -/
def clientTestEnd (a : ClientTestAnswers) : Prog World Int := do
  -- after a successful `close`, `disconnect_client` ends without a value
  let disconnected ← disconnectClient .tcp a.closeConnection
  if disconnected.getD a.missing ≠ 0 then do
    let _ ← destroyClient a.closeClient
    return 1
  else do
    let destroyed ← destroyClient a.closeClient
    if destroyed ≠ 0 then return 1
    else return 0

/-- The packets. A negative result of a serializer is reported and sent as a length all the same. -/
def clientTestPackets (client : Client) (clientId : Option CString) (a : ClientTestAnswers) :
    Prog World Int :=
  transmit (serializeConnect .connect (some (Buffer.fresh (a.stack .connect))) 128 clientId
    client.config.keepAlive 0x04) (a.sends .connect) <|
  transmit (serializePublish .publish (some (Buffer.fresh (a.stack .publish))) 256
    (some mqttTcpTopic) (some clientTestMessage) 1 client.config.defaultQos 0 0)
    (a.sends .publish) <|
  transmit (serializePingreq .pingreq (some (Buffer.fresh (a.stack .pingreq))) 2)
    (a.sends .pingreq) <|
  transmit (serializeSubscribe .subscribe (some (Buffer.fresh (a.stack .subscribe))) 256
    (some mqttTcpTopic) 1 client.config.defaultQos) (a.sends .subscribe) <|
  transmit (serializeUnsubscribe .unsubscribe (some (Buffer.fresh (a.stack .unsubscribe)))
    (sizeOfInt (2 + 2 + (2 + intOfSize (strlen mqttTcpTopic)))) (some mqttTcpTopic) 1)
    (a.sends .unsubscribe) <|
  transmit (serializeDisconnect .disconnect (some (Buffer.fresh (a.stack .disconnect))) 2)
    (a.sends .disconnect) <|
  clientTestEnd a

/-- The part of `main` after `connect_client`. -/
def clientTestSession (a : ClientTestAnswers) : Prog World Int := do
  let client ← getClient
  let clientId ← onHeap (stringArg (getClientId client))
  clientTestPackets client clientId a

/-- The callbacks of `config` are not initialised; `clientId` and `ipBroker` lead to the two
literals. -/
def clientTestMain (config : Config) (clientId ipBroker : Ptr) (a : ClientTestAnswers) :
    Prog World Int := do
  let config := { config with
    clientId := clientId
    keepAlive := 60
    ipBroker := ipBroker
    portBroker := 1883
    defaultQos := 0 }
  let created ← createClient (some config) 0 a.grantsId a.grantsIp a.grantsBuffer
  if created ≠ 0 then return 1
  else do
    let connected ← connectClient .tcp a.connect
    if connected ≠ 0 then do
      let _ ← destroyClient a.closeClient
      return 1
    else clientTestSession a

end Dpubsub.Model
