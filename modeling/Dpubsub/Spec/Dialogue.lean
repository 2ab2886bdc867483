import Dpubsub.Spec.ControlPacket
import Dpubsub.Spec.Session

/-!
# What a client says on its connections

The packets of a client in the order in which it sends them, each with the number of its connection.
The peer has the bytes of one connection only, and reads them packet by packet.
-/

namespace Dpubsub.Spec
open Dpubsub.Lib

inductive ClientPacket where
  | control (p : ControlPacket)
  | disconnect
deriving DecidableEq

namespace ClientPacket

def encode : ClientPacket → List UInt8
  | .control p => p.encode
  | .disconnect => [0xE0, 0x00]

def WellFormed : ClientPacket → Prop
  | .control p => p.WellFormed ∧ p.body.length < 128 ^ 4
  | .disconnect => True

def begun : ClientPacket → Begun
  | .control (.connect _) => ⟨.connect, true⟩
  | .control _ => ⟨.other, true⟩
  | .disconnect => ⟨.disconnect, true⟩

theorem encode_ne_nil (p : ClientPacket) : p.encode ≠ [] := by
  cases p with
  | control p => exact List.cons_ne_nil _ _
  | disconnect => exact List.cons_ne_nil _ _

end ClientPacket

def takeClientPacket : Decoder UInt8 ClientPacket := fun input =>
  if input.take 2 = [0xE0, 0x00] then some (.disconnect, input.drop 2)
  else (decodePacket input).map fun (p, rest) => (.control p, rest)

def decodeStream (input : List UInt8) : Option (List ClientPacket) :=
  takeClientPacket.all input.length input

theorem controlPacket_first_ne (p : ControlPacket) : p.first ≠ 0xE0 := by
  cases p with
  | connect c => exact (by decide : (0x10 : UInt8) ≠ 0xE0)
  | subscribe packetId topics => exact (by decide : (0x82 : UInt8) ≠ 0xE0)
  | unsubscribe packetId topics => exact (by decide : (0xA2 : UInt8) ≠ 0xE0)
  | publish p =>
      intro same
      have type : p.first.toNat / 16 = 3 := p.first_bits.1
      rw [show p.first = 0xE0 from same] at type
      exact absurd type (by decide)

theorem takeClientPacket_encode (p : ClientPacket) (rest : List UInt8) (ok : p.WellFormed) :
    takeClientPacket (p.encode ++ rest) = some (p, rest) := by
  cases p with
  | disconnect => rfl
  | control p =>
      have other : (p.encode ++ rest).take 2 ≠ [0xE0, 0x00] := fun same =>
        controlPacket_first_ne p (List.head_eq_of_cons_eq same)
      change takeClientPacket (p.encode ++ rest) = _
      rw [takeClientPacket, if_neg other, decodePacket_encode ok.1 ok.2]
      rfl

theorem decodeStream_encode {packets : List ClientPacket} (ok : ∀ p ∈ packets, p.WellFormed) :
    decodeStream (packets.flatMap ClientPacket.encode) = some packets :=
  Decoder.all_flatMap takeClientPacket_encode ClientPacket.encode_ne_nil ok le_rfl

/-! ## Connections -/

/-- `opened` connections have been made, and each packet goes out on one of them. -/
structure Dialogue where
  opened : Nat
  said : List (Nat × ClientPacket)
deriving DecidableEq

namespace Dialogue

def start (opened : Nat) : Dialogue := ⟨opened, []⟩

/-- A packet on a new connection. -/
def connect (d : Dialogue) (p : ClientPacket) : Dialogue := ⟨d.opened + 1, d.said ++ [(d.opened, p)]⟩

/-- A packet on the latest connection. -/
def say (d : Dialogue) (p : ClientPacket) : Dialogue := ⟨d.opened, d.said ++ [(d.opened - 1, p)]⟩

def on (d : Dialogue) (k : Nat) : List ClientPacket :=
  d.said.filterMap fun e => if e.1 = k then some e.2 else none

def session (d : Dialogue) (k : Nat) : List Begun := (d.on k).map ClientPacket.begun

theorem on_append (said : List (Nat × ClientPacket)) (opened j k : Nat) (p : ClientPacket) :
    on ⟨opened, said ++ [(j, p)]⟩ k =
      on ⟨opened, said⟩ k ++ if j = k then [p] else [] := by
  rw [on, on, List.filterMap_append]
  congr 1
  by_cases same : j = k <;> simp [same]

theorem on_connect (d : Dialogue) (p : ClientPacket) (k : Nat) :
    (d.connect p).on k = d.on k ++ if d.opened = k then [p] else [] := on_append ..

theorem on_say (d : Dialogue) (p : ClientPacket) (k : Nat) :
    (d.say p).on k = d.on k ++ if d.opened - 1 = k then [p] else [] := on_append ..

end Dialogue

/-- Every packet is well formed and on one of the connections, and each connection carries a session. -/
structure Dialogue.Legal (d : Dialogue) : Prop where
  wellFormed : ∀ e ∈ d.said, e.2.WellFormed
  within : ∀ e ∈ d.said, e.1 < d.opened
  sessions : ∀ k, SessionSafe (d.session k)

namespace Dialogue
variable {d : Dialogue} {p : ClientPacket}

theorem session_append {q : List ClientPacket} {k : Nat} {d' : Dialogue}
    (on : d'.on k = d.on k ++ q) : d'.session k = d.session k ++ q.map ClientPacket.begun := by
  rw [session, on, List.map_append]
  rfl

theorem on_unopened (legal : d.Legal) : d.on d.opened = [] := by
  refine List.filterMap_eq_nil_iff.mpr fun e member => if_neg ?_
  exact (legal.within e member).ne

theorem legal_start (opened : Nat) : (start opened).Legal where
  wellFormed := nofun
  within := nofun
  sessions _ := sessionSafe_nil

theorem Legal.decodes (legal : d.Legal) (k : Nat) :
    decodeStream ((d.on k).flatMap ClientPacket.encode) = some (d.on k) := by
  refine decodeStream_encode fun p member => ?_
  obtain ⟨e, inSaid, found⟩ := List.mem_filterMap.mp member
  split at found
  · cases found
    exact legal.wellFormed e inSaid
  · cases found

theorem Legal.connect (legal : d.Legal) (ok : p.WellFormed) (kind : p.begun.kind = .connect) :
    (d.connect p).Legal where
  wellFormed e member := by
    rcases List.mem_append.mp member with old | new
    · exact legal.wellFormed e old
    · rw [List.mem_singleton.mp new]
      exact ok
  within e member := by
    rcases List.mem_append.mp member with old | new
    · exact (legal.within e old).trans (Nat.lt_succ_self _)
    · rw [List.mem_singleton.mp new]
      exact Nat.lt_succ_self _
  sessions k := by
    rw [session_append (on_connect d p k)]
    by_cases new : d.opened = k
    · subst new
      rw [if_pos rfl, List.map_singleton, sessionSafe_concat]
      refine ⟨legal.sessions _, ?_⟩
      rw [Admits, if_pos kind, session, on_unopened legal, List.map_nil]
    · rw [if_neg new, List.map_nil, List.append_nil]
      exact legal.sessions k

theorem Legal.say (legal : d.Legal) (ok : p.WellFormed) (kind : p.begun.kind ≠ .connect)
    (established : Established (d.session (d.opened - 1))) (some : 0 < d.opened) :
    (d.say p).Legal where
  wellFormed e member := by
    rcases List.mem_append.mp member with old | new
    · exact legal.wellFormed e old
    · rw [List.mem_singleton.mp new]
      exact ok
  within e member := by
    rcases List.mem_append.mp member with old | new
    · exact legal.within e old
    · rw [List.mem_singleton.mp new]
      exact Nat.sub_lt some Nat.zero_lt_one
  sessions k := by
    rw [session_append (on_say d p k)]
    by_cases current : d.opened - 1 = k
    · subst current
      rw [if_pos rfl, List.map_singleton, sessionSafe_concat, admits_other kind]
      exact ⟨legal.sessions _, established⟩
    · rw [if_neg current, List.map_nil, List.append_nil]
      exact legal.sessions k

theorem established_connect (legal : d.Legal) (going : p.begun = ⟨.connect, true⟩) :
    Established ((d.connect p).session ((d.connect p).opened - 1)) := by
  have here : (d.connect p).opened - 1 = d.opened := Nat.add_sub_cancel ..
  rw [here, session_append (on_connect d p d.opened), if_pos rfl, session, on_unopened legal]
  refine ⟨List.cons_ne_nil _ _, fun q member => ?_⟩
  rw [List.map_nil, List.nil_append, List.map_singleton, List.mem_singleton] at member
  rw [member, going]
  exact ⟨rfl, by decide⟩

theorem established_say (established : Established (d.session (d.opened - 1)))
    (going : p.begun = ⟨.other, true⟩) :
    Established ((d.say p).session ((d.say p).opened - 1)) := by
  have here : (d.say p).opened - 1 = d.opened - 1 := rfl
  rw [here, session_append (on_say d p (d.opened - 1)), if_pos rfl, List.map_singleton]
  refine ⟨by simp, fun q member => ?_⟩
  rcases List.mem_append.mp member with old | new
  · exact established.going q old
  · rw [List.mem_singleton.mp new, going]
    exact ⟨rfl, by decide⟩

end Dialogue
end Dpubsub.Spec
