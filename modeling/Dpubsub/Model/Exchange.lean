import Dpubsub.Lib.Events
import Dpubsub.Model.HandlePublish
import Dpubsub.Spec.Mqtt

/-!
# A broker and an application that polls

The broker sends PUBLISH packets and others, and keeps the identifier of a QoS 1 message until it has
read a PUBACK with it. The client calls `handle_publish` for what `recv` gives it: one packet, or
several that have arrived together. A packet that `recv` takes apart, or a reply that goes out in
part, is not among the runs. The application may call again after a read that has failed.
-/

namespace Dpubsub.Model
open Dpubsub.Lib Dpubsub.Spec

inductive Inbound where
  | publish (p : Publish)
  | other (first : UInt8) (rest : List UInt8)

namespace Inbound

def bytes : Inbound → List UInt8
  | .publish p => p.encode
  | .other first rest => first :: rest

def published : Inbound → List Publish
  | .publish p => [p]
  | .other _ _ => []

/-- A PUBLISH has one byte of remaining length, the only form that `handle_publish` decodes. -/
def Valid : Inbound → Prop
  | .publish p => p.body.length < 128
  | .other first _ => first.toNat / 16 ≠ 3

end Inbound

/-- The identifier in a PUBACK. -/
def pubackId : List UInt8 → Option UInt16
  | [first, remaining, high, low] =>
      if first = 0x40 ∧ remaining = 0x02 then some (UInt16.ofNat (high.toNat * 256 + low.toNat))
      else none
  | _ => none

/-- The broker has sent `published`, waits for the acknowledgement of `outstanding`, and has read
`taken` replies, which acknowledged `acknowledged`; `down` is on the way to the client. -/
structure Exchange where
  published : List Publish
  outstanding : List UInt16
  acknowledged : List UInt16
  taken : Nat
  down : List Inbound
  receiver : Receiver

namespace Exchange

inductive Event where
  | send (packet : Inbound)
  | poll (more : Nat) (sends : List Int)
  | idle (wouldBlock : Bool)
  | acknowledge

def initial (r : Receiver) : Exchange := ⟨[], [], [], r.net.transfers.length, [], r⟩

/-- The identifiers of the messages that are to be acknowledged. -/
def idsOf (packets : List Publish) : List UInt16 :=
  (packets.filter fun p => p.qos = .atLeastOnce).map Publish.packetId

def replies (r : Receiver) : List (List UInt8) := r.net.transfers.map Transfer.delivered

section
variable (fd : Int) (s : Exchange)

/-- The replies that the broker has not read yet. -/
def up : List (List UInt8) := (replies s.receiver).drop s.taken

/-- What one `recv` takes off the connection: the first packet and `more` behind it. -/
def chunk (more : Nat) : List UInt8 := (s.down.take (more + 1)).flatMap Inbound.bytes

def polled (answer : RecvAnswer) (sends : List Int) : Outcome Int × Receiver :=
  handlePublish fd answer sends s.receiver

def Enabled : Event → Prop
  | .send packet => packet.Valid ∧ ∀ id ∈ idsOf packet.published, id ∉ s.outstanding
  | .poll more sends =>
      more < s.down.length ∧ (s.chunk more).length ≤ 512 ∧ (sendLoop fd 4 0 sends).2 = .ret 0
  | .idle _ => 0 ≤ fd
  | .acknowledge => s.up ≠ []

def next : Event → Exchange
  | .send packet => { s with
      published := s.published ++ packet.published
      outstanding := s.outstanding ++ idsOf packet.published
      down := s.down ++ [packet] }
  | .poll more sends => { s with
      down := s.down.drop (more + 1)
      receiver := (s.polled fd (.data (s.chunk more)) sends).2 }
  | .idle wouldBlock => { s with receiver := (s.polled fd (.failed wouldBlock) []).2 }
  | .acknowledge =>
      let ids := (s.up.take 1).filterMap pubackId
      { s with
        outstanding := s.outstanding.diff ids
        acknowledged := s.acknowledged ++ ids
        taken := s.taken + 1 }

end

def system (fd : Int) : System Exchange Event where
  enabled := Enabled fd
  next := next fd

end Exchange
end Dpubsub.Model
