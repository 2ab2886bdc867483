import Dpubsub.Model.ClientTcpApi

/-!
# Several clients in one process

Each function of `tests/api_test.c` makes a client of its own. The clients of a process share its
heap and its descriptors, and their calls are made one after the other.
-/

namespace Dpubsub.Model
open Dpubsub.Lib

structure Process (ι : Type) where
  clients : ι → Client
  heap : Heap
  net : Net
  callbacks : List CallbackCall
  recvs : List RecvCall

inductive ProcessCall where
  | createClient (config : Option Config) (bufferSize : Nat)
      (grantsId grantsIp grantsBuffer : Bool)
  | client (c : ClientCall)

def ProcessCall.exec : ProcessCall → Prog World (Option Int)
  | .createClient config bufferSize grantsId grantsIp grantsBuffer =>
      returning (Model.createClient config bufferSize grantsId grantsIp grantsBuffer)
  | .client c => c.exec

namespace Process
variable {ι : Type} [DecidableEq ι]

/-- What a call on client `i` works on. -/
def world (p : Process ι) (i : ι) : World := ⟨p.clients i, p.heap, p.net, p.callbacks, p.recvs⟩

def put (i : ι) (p : Process ι) (w : World) : Process ι :=
  ⟨Function.update p.clients i w.client, w.heap, w.net, w.callbacks, w.recvs⟩

def exec (c : ι × ProcessCall) : Prog (Process ι) (Option Int) :=
  Prog.zoom (Process.world · c.1) (put c.1) c.2.exec

end Process
end Dpubsub.Model
