import Dpubsub.Lib.Heap
import Dpubsub.Lib.Memory
import Dpubsub.Lib.Sockets

/-!
# The client and the system around it (`client.h`)

`CallbackType`, `Message`, `Config` and `Client` are `callback_type_t`, `message_t`,
`client_config_t` and `client_t`.
-/

namespace Dpubsub.Model
open Dpubsub.Lib

/-- `protocol_t`; any other value of the C type is `unknown`. -/
inductive Protocol where
  | tcp
  | unknown
deriving DecidableEq, Repr

inductive CallbackType where
  | onPublish | onSubscribe | onDisconnect | onConnect | onUnsubscribe | onMessage
deriving DecidableEq, Repr

/-- A function of the application or one of the defaults of `client.c`. -/
inductive Callback where
  | default (type : CallbackType)
  | user (function : Nat)
deriving DecidableEq, Repr

/-- `config_callbacks_t`, `none` for a NULL pointer. -/
structure Callbacks where
  onSubscribe : Option Callback
  onPublish : Option Callback
  onDisconnect : Option Callback
  onConnect : Option Callback
  onUnsubscribe : Option Callback
  onMessage : Option Callback
deriving DecidableEq, Repr

structure Message where
  topic : Option CString
  payload : Option CString
  qos : UInt8
  retain : UInt8
deriving DecidableEq

/-- The `message_t` at `msg` in memory, with the strings that its pointers lead to. -/
structure MessageAt (memory : Memory) (msg : Nat) (m : Message) : Prop where
  topic : memory.PointsTo (memory.word msg) m.topic
  payload : memory.PointsTo (memory.word (msg + 8)) m.payload
  qos : memory (msg + 16) = m.qos
  retain : memory (msg + 17) = m.retain

structure Config where
  clientId : Ptr
  keepAlive : UInt16
  ipBroker : Ptr
  portBroker : UInt16
  defaultQos : UInt8
  callbacks : Callbacks
deriving DecidableEq

structure Client where
  socket : Int
  buffer : Ptr
  bufferSize : Nat
  config : Config
deriving DecidableEq

/-- A call of a callback; `message` is `none` where the code passes an uninitialised pointer. -/
structure CallbackCall where
  callback : Callback
  message : Option Message
deriving DecidableEq

/-- A `recv` into the client's buffer: the length passed, and the capacity of the block. -/
structure RecvCall where
  length : Nat
  capacity : Nat
deriving DecidableEq, Repr

structure World where
  client : Client
  heap : Heap
  net : Net
  callbacks : List CallbackCall
  recvs : List RecvCall

def onNet {α : Type} (m : Prog Net α) : Prog World α :=
  Prog.zoom World.net (fun w n => { w with net := n }) m

def onHeap {α : Type} (m : Prog Heap α) : Prog World α :=
  Prog.zoom World.heap (fun w h => { w with heap := h }) m

def getClient : Prog World Client := fun w => (.ret w.client, w)

def setClient (f : Client → Client) : Prog World Unit :=
  Prog.modify fun w => { w with client := f w.client }

def setConfigField (f : Config → Config) : Prog World Unit :=
  setClient fun c => { c with config := f c.config }

/-- `if (callback) callback(message);` -/
def invoke (callback : Option Callback) (message : Option Message) : Prog World Unit :=
  match callback with
  | none => pure ()
  | some callback => Prog.modify fun w =>
      { w with callbacks := w.callbacks ++ [⟨callback, message⟩] }

end Dpubsub.Model
