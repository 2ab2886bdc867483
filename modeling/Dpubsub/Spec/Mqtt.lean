import Dpubsub.Lib.Varint

/-!
# MQTT 3.1.1 packets

The wire format of the protocol, independent of the code: a fixed header of a type byte and a
base-128 remaining length, then the body.
-/

namespace Dpubsub.Spec
open Dpubsub.Lib

def short (n : Nat) : List UInt8 := [UInt8.ofNat (n / 256), UInt8.ofNat n]

def field (bytes : List UInt8) : List UInt8 := short bytes.length ++ bytes

def packet (first : UInt8) (body : List UInt8) : List UInt8 :=
  first :: (Varint.encode body.length ++ body)

inductive QoS where
  | atMostOnce | atLeastOnce | exactlyOnce
deriving DecidableEq, Repr

def QoS.value : QoS → Nat
  | .atMostOnce => 0
  | .atLeastOnce => 1
  | .exactlyOnce => 2

structure Publish where
  dup : Bool
  qos : QoS
  retain : Bool
  topic : List UInt8
  packetId : UInt16
  payload : List UInt8
deriving DecidableEq

namespace Publish

def first (p : Publish) : UInt8 :=
  UInt8.ofNat (0x30 + p.dup.toNat * 8 + p.qos.value * 2 + p.retain.toNat)

/-- The packet identifier is there for QoS 1 and 2 only. -/
def idField (p : Publish) : List UInt8 :=
  if p.qos = .atMostOnce then [] else short p.packetId.toNat

def body (p : Publish) : List UInt8 := field p.topic ++ p.idField ++ p.payload

def encode (p : Publish) : List UInt8 := packet p.first p.body

end Publish

@[simp] theorem short_length (n : Nat) : (short n).length = 2 := rfl

@[simp] theorem field_length (bytes : List UInt8) : (field bytes).length = 2 + bytes.length := by
  simp [field]

theorem packet_length (first : UInt8) (body : List UInt8) :
    (packet first body).length = 1 + (Varint.encode body.length).length + body.length := by
  simp only [packet, List.length_cons, List.length_append]
  omega

theorem packet_of_short {first : UInt8} {body : List UInt8} (h : body.length < 128) :
    packet first body = first :: UInt8.ofNat body.length :: body := by
  rw [packet, Varint.encode_of_lt h]
  rfl

end Dpubsub.Spec
