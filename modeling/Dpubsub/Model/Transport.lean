import Dpubsub.Lib.Events
import Dpubsub.Model.TcpClient
import Dpubsub.Model.TcpServer

/-!
# One connection from end to end

The programs under `transport/tcp/tests`: a client in `send_bytes_to_server`, followed by
`close_connection_client`, and a server in `receive_bytes_with_dynamic_buffer`. Each party is where the
answers to its calls have brought it so far. The connection hands on in order what it has accepted,
and may fail on either side at any time.
-/

namespace Dpubsub.Model
open Dpubsub.Lib

/-- What is to be sent, the descriptors of the two parties, the heap of the server, and whether its
first `malloc` is granted. -/
structure Link where
  data : Nat → UInt8
  length : Nat
  sockfd : Int
  connfd : Int
  heap : Heap
  granted : Bool
  connected : 0 ≤ sockfd ∧ 0 ≤ connfd
  bound : length < 2 ^ 64 - chunkSize

structure Transport where
  sends : List Int
  hungUp : Bool
  inFlight : List UInt8
  recvs : List (Bool × RecvAnswer)

namespace Transport

inductive Event where
  | send (answer : Int)
  | hangUp
  | recv (granted : Bool) (answer : RecvAnswer)

def initial : Transport := ⟨[], false, [], []⟩

section
variable (link : Link) (t : Transport)

def client : List SendCall × Outcome Int := sendLoop link.sockfd link.length 0 t.sends

def server : Outcome (Option Unit) × Receiving :=
  receiveBytesWithDynamicBuffer link.connfd link.granted t.recvs ⟨link.heap, none, 0, 0, []⟩

def accepted : List UInt8 := (t.client link).1.flatMap (SendCall.taken link.data)

/-- What the system may answer to a `recv` of the server: the next bytes on the way, or the end of the
stream once the client has closed its side and nothing is on the way. -/
def Offers : RecvAnswer → Prop
  | .data bytes => bytes ≠ [] ∧ bytes <+: t.inFlight
  | .closed => t.hungUp = true ∧ t.inFlight = []
  | .failed _ => True

def Enabled : Event → Prop
  | .send answer => (t.client link).2 = .pending ∧ -1 ≤ answer ∧ answer < 2 ^ 31
  | .hangUp => t.hungUp = false ∧ ∃ result, (t.client link).2 = .ret result
  | .recv _ answer => (t.server link).1 = .pending ∧ t.Offers answer

def sent (answer : Int) : Transport := { t with sends := t.sends ++ [answer] }

def received (granted : Bool) (answer : RecvAnswer) : Transport :=
  { t with recvs := t.recvs ++ [(granted, answer)] }

def next : Event → Transport
  | .send answer => { t.sent answer with
      inFlight := t.inFlight ++
        ((t.sent answer).accepted link).drop (t.accepted link).length }
  | .hangUp => { t with hungUp := true }
  | .recv granted answer => { t.received granted answer with
      inFlight := t.inFlight.drop (((t.received granted answer).server link).2.totalBytesReceived -
        (t.server link).2.totalBytesReceived) }

end

def system (link : Link) : System Transport Event where
  enabled := Enabled link
  next := next link

end Transport
end Dpubsub.Model
