import Dpubsub.Lib.CInt

/-!
# The settings of a client

What an application sets and reads back, without the memory in which it is kept.
-/

namespace Dpubsub.Spec
open Dpubsub.Lib

/-- A string is `none` while none is set. -/
@[ext] structure Settings where
  clientId : Option CString
  ipBroker : Option CString
  keepAlive : UInt16
  portBroker : UInt16
  defaultQos : UInt8
  bufferSize : Nat
deriving DecidableEq

inductive Change where
  | clientId (s : Option CString)
  | ipBroker (s : Option CString)
  | keepAlive (t : UInt16)
  | portBroker (port : UInt16)
  | defaultQos (qos : UInt8)
  | bufferSize (size : Nat)
  | noStrings
  | all (clientId ipBroker : Option CString) (keepAlive portBroker : UInt16) (defaultQos : UInt8)
deriving DecidableEq

def Settings.apply (s : Settings) : Change → Settings
  | .clientId id => { s with clientId := id }
  | .ipBroker ip => { s with ipBroker := ip }
  | .keepAlive t => { s with keepAlive := t }
  | .portBroker port => { s with portBroker := port }
  | .defaultQos qos => { s with defaultQos := qos }
  | .bufferSize size => { s with bufferSize := size }
  | .noStrings => { s with clientId := none, ipBroker := none }
  | .all id ip t port qos => ⟨id, ip, t, port, qos, s.bufferSize⟩

def Settings.after (s : Settings) (change : Option Change) : Settings := change.elim s s.apply

end Dpubsub.Spec
