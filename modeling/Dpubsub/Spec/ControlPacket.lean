import Dpubsub.Spec.Mqtt

/-!
# A reference decoder of MQTT 3.1.1

The packets with which a client connects, publishes, subscribes and unsubscribes. Strings are kept
as bytes: whether they are UTF-8 is not looked at.
-/

namespace Dpubsub.Spec
open Dpubsub.Lib

/-! ## Fields -/

def takeShort : Decoder UInt8 UInt16 := do
  let high ← Decoder.item
  let low ← Decoder.item
  return UInt16.ofNat (high.toNat * 256 + low.toNat)

def takeField : Decoder UInt8 (List UInt8) := do
  let length ← takeShort
  Decoder.count length.toNat

def QoS.ofNat? : Nat → Option QoS
  | 0 => some .atMostOnce
  | 1 => some .atLeastOnce
  | 2 => some .exactlyOnce
  | _ => none

def takeQoS : Decoder UInt8 QoS := do
  let byte ← Decoder.item
  match QoS.ofNat? byte.toNat with
  | some qos => return qos
  | none => Decoder.fail

def QoS.byte (qos : QoS) : UInt8 := UInt8.ofNat qos.value

theorem takeShort_reads : takeShort.Reads (fun n => short n.toNat) fun _ => True := by
  intro input n rest
  simp only [takeShort, Decoder.bind_eq_some]
  constructor
  · rintro ⟨high, _, read, low, _, read', done⟩
    obtain ⟨-, rfl⟩ := (Decoder.item_reads _ _ _).mp read
    obtain ⟨-, rfl⟩ := (Decoder.item_reads _ _ _).mp read'
    cases done
    have highBound := high.toNat_lt
    have lowBound := low.toNat_lt
    have value : (UInt16.ofNat (high.toNat * 256 + low.toNat)).toNat =
        high.toNat * 256 + low.toNat := UInt16.toNat_ofNat_of_lt (by change _ < 65536; omega)
    have first : (high.toNat * 256 + low.toNat) / 256 = high.toNat := by omega
    have second : UInt8.ofNat (high.toNat * 256 + low.toNat) = low := by
      rw [← UInt8.toNat_inj, UInt8.toNat_ofNat']
      omega
    rw [value, short, first, second, UInt8.ofNat_toNat]
    exact ⟨trivial, rfl⟩
  · rintro ⟨-, rfl⟩
    refine ⟨_, _, rfl, _, _, rfl, ?_⟩
    have bound := n.toNat_lt
    have value : (UInt8.ofNat (n.toNat / 256)).toNat * 256 + (UInt8.ofNat n.toNat).toNat =
        n.toNat := by
      rw [UInt8.toNat_ofNat', UInt8.toNat_ofNat']
      omega
    rw [value, UInt16.ofNat_toNat]
    rfl

theorem takeField_reads : takeField.Reads field fun bytes => bytes.length < 2 ^ 16 := by
  have small : ∀ bytes : List UInt8, bytes.length < 2 ^ 16 ↔
      bytes.length = (UInt16.ofNat bytes.length).toNat := by
    intro bytes
    rw [UInt16.toNat_ofNat']
    omega
  refine (takeShort_reads.bind (fun bytes => UInt16.ofNat bytes.length)
    (fun length => Decoder.count_reads length.toNat) ?_).congr (fun bytes => ?_) ?_
  · rintro length bytes eq
    rw [eq, UInt16.ofNat_toNat]
  · rw [small, true_and]
  · rintro bytes ⟨-, eq⟩
    rw [← eq]
    rfl

theorem takeQoS_reads : takeQoS.Reads (fun qos => [qos.byte]) fun _ => True := by
  intro input qos rest
  simp only [takeQoS, Decoder.bind_eq_some]
  constructor
  · rintro ⟨byte, _, read, found⟩
    obtain ⟨-, rfl⟩ := (Decoder.item_reads _ _ _).mp read
    refine ⟨trivial, ?_⟩
    rcases value : byte.toNat with _ | _ | _ | n
    all_goals rw [value] at found
    case succ.succ.succ => cases found
    all_goals
      cases found
      rw [← UInt8.ofNat_toNat (x := byte), value]
      rfl
  · rintro ⟨-, rfl⟩
    exact ⟨qos.byte, rest, rfl, by cases qos <;> rfl⟩

/-! ## Bodies -/

structure Connect where
  protocolName : List UInt8
  level : UInt8
  flags : UInt8
  keepAlive : UInt16
  clientId : List UInt8
  /-- Will topic and message, user name and password, those of them that the flags announce. -/
  others : List (List UInt8)
deriving DecidableEq

def otherFields (flags : UInt8) : Nat :=
  (if flags &&& 0x04 = 0 then 0 else 2) + (if flags &&& 0x80 = 0 then 0 else 1) +
    (if flags &&& 0x40 = 0 then 0 else 1)

/-- The reserved bit is clear, the will bits are clear without a will, and a password comes with a
user name. -/
def validFlags (flags : UInt8) : Bool :=
  flags &&& 0x01 = 0 && (flags &&& 0x04 ≠ 0 || flags &&& 0x38 = 0) && flags &&& 0x18 ≠ 0x18 &&
    (flags &&& 0x80 ≠ 0 || flags &&& 0x40 = 0)

structure Connect.WellFormed (c : Connect) : Prop where
  protocolName : c.protocolName.length < 2 ^ 16
  flags : validFlags c.flags = true
  clientId : c.clientId.length < 2 ^ 16
  count : c.others.length = otherFields c.flags
  others : ∀ bytes ∈ c.others, bytes.length < 2 ^ 16

def Connect.body (c : Connect) : List UInt8 :=
  field c.protocolName ++ [c.level, c.flags] ++ short c.keepAlive.toNat ++ field c.clientId ++
    c.others.flatMap field

def takeFlags : Decoder UInt8 UInt8 := do
  let flags ← Decoder.item
  if validFlags flags then return flags else Decoder.fail

def takeConnect : Decoder UInt8 Connect := do
  let protocolName ← takeField
  let level ← Decoder.item
  let flags ← takeFlags
  let keepAlive ← takeShort
  let clientId ← takeField
  let others ← takeField.times (otherFields flags)
  return ⟨protocolName, level, flags, keepAlive, clientId, others⟩

def takePacketId (qos : QoS) : Decoder UInt8 UInt16 :=
  if qos = .atMostOnce then return 0 else takeShort

def readPublish (first : UInt8) (body : List UInt8) : Option Publish := do
  let qos ← QoS.ofNat? (first.toNat / 2 % 4)
  let (topic, rest) ← takeField body
  let (packetId, payload) ← takePacketId qos rest
  return ⟨first.toNat / 8 % 2 = 1, qos, first.toNat % 2 = 1, topic, packetId, payload⟩

/-- A packet identifier and at least one value up to the end. -/
def readList {α : Type} (take : Decoder UInt8 α) (body : List UInt8) :
    Option (UInt16 × List α) := do
  let (packetId, rest) ← takeShort body
  let values ← take.all rest.length rest
  if values.isEmpty then none else return (packetId, values)

def takeSubscription : Decoder UInt8 (List UInt8 × QoS) := do
  let topic ← takeField
  let qos ← takeQoS
  return (topic, qos)

theorem takeFlags_reads : takeFlags.Reads (fun flags => [flags]) fun flags => validFlags flags := by
  intro input flags rest
  rw [takeFlags, Decoder.bind_eq_some]
  constructor
  · rintro ⟨byte, _, read, checked⟩
    obtain ⟨-, rfl⟩ := (Decoder.item_reads _ _ _).mp read
    split at checked
    · cases checked
      exact ⟨‹_›, rfl⟩
    · cases checked
  · rintro ⟨valid, rfl⟩
    refine ⟨flags, rest, rfl, ?_⟩
    rw [if_pos valid]
    rfl

theorem takeConnect_reads : takeConnect.Reads Connect.body Connect.WellFormed := by
  intro input c rest
  simp only [takeConnect, Decoder.bind_eq_some]
  constructor
  · rintro ⟨name, _, readName, level, _, readLevel, flags, _, readFlags, keepAlive, _, readKeepAlive,
      clientId, _, readId, others, _, readOthers, done⟩
    obtain ⟨nameOk, rfl⟩ := (takeField_reads _ _ _).mp readName
    obtain ⟨-, rfl⟩ := (Decoder.item_reads _ _ _).mp readLevel
    obtain ⟨flagsOk, rfl⟩ := (takeFlags_reads _ _ _).mp readFlags
    obtain ⟨-, rfl⟩ := (takeShort_reads _ _ _).mp readKeepAlive
    obtain ⟨idOk, rfl⟩ := (takeField_reads _ _ _).mp readId
    obtain ⟨⟨count, othersOk⟩, rfl⟩ := (takeField_reads.times _ _ _ _).mp readOthers
    cases done
    exact ⟨⟨nameOk, flagsOk, idOk, count, othersOk⟩, by simp [Connect.body]⟩
  · rintro ⟨ok, rfl⟩
    refine ⟨_, _, (takeField_reads _ _ _).mpr ⟨ok.protocolName, ?_⟩, _, _,
      (Decoder.item_reads _ _ _).mpr ⟨trivial, rfl⟩, _, _,
      (takeFlags_reads _ _ _).mpr ⟨ok.flags, rfl⟩, _, _,
      (takeShort_reads _ _ _).mpr ⟨trivial, rfl⟩, _, _,
      (takeField_reads _ _ _).mpr ⟨ok.clientId, rfl⟩, _, _,
      (takeField_reads.times _ _ _ _).mpr ⟨⟨ok.count, ok.others⟩, rfl⟩, rfl⟩
    simp [Connect.body]

theorem QoS.ofNat?_eq_some {n : Nat} {qos : QoS} : QoS.ofNat? n = some qos ↔ n = qos.value := by
  rcases n with _ | _ | _ | n <;> cases qos <;> simp [QoS.ofNat?, QoS.value]

theorem QoS.value_eq_one {qos : QoS} : qos.value = 1 ↔ qos = .atLeastOnce := by
  cases qos <;> simp [QoS.value]

def Publish.WellFormed (p : Publish) : Prop :=
  p.topic.length < 2 ^ 16 ∧ (p.qos = .atMostOnce → p.packetId = 0)

theorem Publish.first_toNat (p : Publish) :
    p.first.toNat = 0x30 + p.dup.toNat * 8 + p.qos.value * 2 + p.retain.toNat := by
  unfold Publish.first
  rcases p.dup <;> rcases p.qos <;> rcases p.retain <;> rfl

theorem Publish.first_bits (p : Publish) : p.first.toNat / 16 = 3 ∧
    p.first.toNat / 8 % 2 = p.dup.toNat ∧ p.first.toNat / 2 % 4 = p.qos.value ∧
      p.first.toNat % 2 = p.retain.toNat := by
  have first := p.first_toNat
  have atMost : p.qos.value ≤ 2 := by rcases p.qos <;> decide
  have dup := p.dup.toNat_le
  have retain := p.retain.toNat_le
  omega

theorem takePacketId_reads (qos : QoS) : (takePacketId qos).Reads
    (fun id => if qos = .atMostOnce then [] else short id.toNat)
    fun id => qos = .atMostOnce → id = 0 := by
  unfold takePacketId
  by_cases plain : qos = .atMostOnce
  · simp only [plain, forall_const]
    exact Decoder.pure_reads 0
  · simp only [plain, false_implies]
    exact takeShort_reads

theorem readPublish_iff {first : UInt8} {body : List UInt8} {p : Publish}
    (type : first.toNat / 16 = 3) :
    readPublish first body = some p ↔ p.WellFormed ∧ first = p.first ∧ body = p.body := by
  simp only [readPublish, Option.bind_eq_bind, Option.bind_eq_some_iff, Prod.exists,
    QoS.ofNat?_eq_some]
  constructor
  · rintro ⟨qos, qosBits, topic, rest, readTopic, packetId, payload, readId, done⟩
    obtain ⟨topicOk, rfl⟩ := (takeField_reads _ _ _).mp readTopic
    obtain ⟨idOk, rfl⟩ := (takePacketId_reads qos _ _ _).mp readId
    cases done
    refine ⟨⟨topicOk, idOk⟩, ?_, ?_⟩
    · rw [← UInt8.toNat_inj, Publish.first_toNat]
      have bit : ∀ n : Nat, (decide (n % 2 = 1)).toNat = n % 2 := fun n => by
        rcases Nat.mod_two_eq_zero_or_one n with h | h <;> simp [h]
      simp only [bit]
      omega
    · exact (List.append_assoc ..).symm
  · rintro ⟨⟨topicOk, plainId⟩, rfl, rfl⟩
    obtain ⟨-, dupBit, qosBits, retainBit⟩ := p.first_bits
    refine ⟨p.qos, qosBits, p.topic, p.idField ++ p.payload, (takeField_reads _ _ _).mpr
      ⟨topicOk, List.append_assoc ..⟩, p.packetId, p.payload,
      (takePacketId_reads _ _ _ _).mpr ⟨plainId, rfl⟩, ?_⟩
    have bit : ∀ b : Bool, decide (b.toNat = 1) = b := by decide
    simp only [dupBit, retainBit, bit]
    rfl

theorem readList_iff {α : Type} {take : Decoder UInt8 α} {encode : α → List UInt8}
    {valid : α → Prop} (reads : take.Reads encode valid) (nonempty : ∀ a, encode a ≠ [])
    {body : List UInt8} {packetId : UInt16} {values : List α} :
    readList take body = some (packetId, values) ↔
      (values ≠ [] ∧ ∀ a ∈ values, valid a) ∧
        body = short packetId.toNat ++ values.flatMap encode := by
  simp only [readList, Option.bind_eq_bind, Option.bind_eq_some_iff, Prod.exists]
  constructor
  · rintro ⟨id, rest, readId, list, readAll, done⟩
    obtain ⟨-, rfl⟩ := (takeShort_reads _ _ _).mp readId
    obtain ⟨ok, rfl⟩ := (reads.all nonempty le_rfl _).mp readAll
    by_cases empty : list.isEmpty = true
    · rw [if_pos empty] at done
      cases done
    · rw [if_neg empty] at done
      cases done
      exact ⟨⟨by simpa using empty, ok⟩, rfl⟩
  · rintro ⟨⟨some, ok⟩, rfl⟩
    refine ⟨packetId, _, (takeShort_reads _ _ _).mpr ⟨trivial, rfl⟩, values,
      (reads.all nonempty le_rfl _).mpr ⟨ok, rfl⟩, ?_⟩
    rw [if_neg (by simpa using some)]
    rfl

def subscription (topic : List UInt8 × QoS) : List UInt8 := field topic.1 ++ [topic.2.byte]

theorem takeSubscription_reads :
    takeSubscription.Reads subscription fun topic => topic.1.length < 2 ^ 16 := by
  intro input topic rest
  simp only [takeSubscription, Decoder.bind_eq_some]
  constructor
  · rintro ⟨name, _, readName, qos, _, readQoS, done⟩
    obtain ⟨ok, rfl⟩ := (takeField_reads _ _ _).mp readName
    obtain ⟨-, rfl⟩ := (takeQoS_reads _ _ _).mp readQoS
    cases done
    exact ⟨ok, (List.append_assoc ..).symm⟩
  · rintro ⟨ok, rfl⟩
    exact ⟨_, _, (takeField_reads _ _ _).mpr ⟨ok, List.append_assoc ..⟩, _, _,
      (takeQoS_reads _ _ _).mpr ⟨trivial, rfl⟩, rfl⟩

/-! ## Packets -/

inductive ControlPacket where
  | connect (c : Connect)
  | publish (p : Publish)
  | subscribe (packetId : UInt16) (topics : List (List UInt8 × QoS))
  | unsubscribe (packetId : UInt16) (topics : List (List UInt8))
deriving DecidableEq

namespace ControlPacket

/-- The flags of SUBSCRIBE and UNSUBSCRIBE are 0x2. -/
def first : ControlPacket → UInt8
  | .connect _ => 0x10
  | .publish p => p.first
  | .subscribe .. => 0x82
  | .unsubscribe .. => 0xA2

def body : ControlPacket → List UInt8
  | .connect c => c.body
  | .publish p => p.body
  | .subscribe packetId topics => short packetId.toNat ++ topics.flatMap subscription
  | .unsubscribe packetId topics => short packetId.toNat ++ topics.flatMap field

def WellFormed : ControlPacket → Prop
  | .connect c => c.WellFormed
  | .publish p => p.WellFormed
  | .subscribe _ topics => topics ≠ [] ∧ ∀ topic ∈ topics, topic.1.length < 2 ^ 16
  | .unsubscribe _ topics => topics ≠ [] ∧ ∀ topic ∈ topics, topic.length < 2 ^ 16

def encode (p : ControlPacket) : List UInt8 := packet p.first p.body

end ControlPacket

def readBody (first : UInt8) (body : List UInt8) : Option ControlPacket :=
  if first = 0x10 then (takeConnect.complete body).map .connect
  else if first = 0x82 then
    (readList takeSubscription body).map fun (packetId, topics) => .subscribe packetId topics
  else if first = 0xA2 then
    (readList takeField body).map fun (packetId, topics) => .unsubscribe packetId topics
  else if first.toNat / 16 = 3 then (readPublish first body).map .publish
  else none

def takePacket : Decoder UInt8 (UInt8 × List UInt8) := do
  let first ← Decoder.item
  let length ← Varint.decode 4
  let body ← Decoder.count length
  return (first, body)

def decodePacket : Decoder UInt8 ControlPacket := do
  let (first, body) ← takePacket
  match readBody first body with
  | some p => return p
  | none => Decoder.fail

theorem field_ne_nil (bytes : List UInt8) : field bytes ≠ [] := List.cons_ne_nil _ _

theorem subscription_ne_nil (topic : List UInt8 × QoS) : subscription topic ≠ [] :=
  List.cons_ne_nil _ _

theorem readBody_iff {first : UInt8} {body : List UInt8} {p : ControlPacket} :
    readBody first body = some p ↔ p.WellFormed ∧ first = p.first ∧ body = p.body := by
  constructor
  · intro read
    unfold readBody at read
    split_ifs at read with connect subscribe unsubscribe publish
    · obtain ⟨c, complete, rfl⟩ := Option.map_eq_some_iff.mp read
      obtain ⟨ok, rfl⟩ := (takeConnect_reads.complete _ _).mp complete
      exact ⟨ok, connect, rfl⟩
    · obtain ⟨⟨packetId, topics⟩, list, rfl⟩ := Option.map_eq_some_iff.mp read
      obtain ⟨ok, rfl⟩ := (readList_iff takeSubscription_reads subscription_ne_nil).mp list
      exact ⟨ok, subscribe, rfl⟩
    · obtain ⟨⟨packetId, topics⟩, list, rfl⟩ := Option.map_eq_some_iff.mp read
      obtain ⟨ok, rfl⟩ := (readList_iff takeField_reads field_ne_nil).mp list
      exact ⟨ok, unsubscribe, rfl⟩
    · obtain ⟨p, message, rfl⟩ := Option.map_eq_some_iff.mp read
      exact (readPublish_iff publish).mp message
  · rintro ⟨ok, rfl, rfl⟩
    cases p with
    | connect c =>
        rw [readBody, ControlPacket.first, if_pos rfl]
        exact Option.map_eq_some_iff.mpr ⟨c, (takeConnect_reads.complete _ _).mpr ⟨ok, rfl⟩, rfl⟩
    | subscribe packetId topics =>
        rw [readBody, ControlPacket.first, if_neg (by decide), if_pos rfl]
        exact Option.map_eq_some_iff.mpr ⟨(packetId, topics),
          (readList_iff takeSubscription_reads subscription_ne_nil).mpr ⟨ok, rfl⟩, rfl⟩
    | unsubscribe packetId topics =>
        rw [readBody, ControlPacket.first, if_neg (by decide), if_neg (by decide), if_pos rfl]
        exact Option.map_eq_some_iff.mpr ⟨(packetId, topics),
          (readList_iff takeField_reads field_ne_nil).mpr ⟨ok, rfl⟩, rfl⟩
    | publish p =>
        have type : p.first.toNat / 16 = 3 := p.first_bits.1
        have other : ∀ byte : UInt8, byte.toNat / 16 ≠ 3 → p.first ≠ byte := by
          rintro _ differs rfl
          exact differs type
        rw [readBody, ControlPacket.first, if_neg (other _ (by decide)),
          if_neg (other _ (by decide)), if_neg (other _ (by decide)), if_pos type]
        exact Option.map_eq_some_iff.mpr ⟨p, (readPublish_iff type).mpr ⟨ok, rfl, rfl⟩, rfl⟩

theorem takePacket_packet {first : UInt8} {body : List UInt8} (bound : body.length < 128 ^ 4)
    (rest : List UInt8) : takePacket (packet first body ++ rest) = some ((first, body), rest) := by
  simp only [takePacket, Decoder.bind_eq_some]
  refine ⟨first, Varint.encode body.length ++ (body ++ rest), ?_, body.length, body ++ rest,
    Varint.decode_encode (k := 3) bound _, body, rest,
    (Decoder.count_reads _ _ _ _).mpr ⟨rfl, rfl⟩, rfl⟩
  simp [packet, Decoder.item]

theorem takePacket_some {input rest body : List UInt8} {first : UInt8}
    (taken : takePacket input = some ((first, body), rest)) :
    ∃ digits, digits ≠ [] ∧ (digits.length = 1 → body.length < 128) ∧
      input = first :: (digits ++ (body ++ rest)) := by
  simp only [takePacket, Decoder.bind_eq_some] at taken
  obtain ⟨_, _, read, length, _, decoded, _, _, counted, done⟩ := taken
  obtain ⟨-, rfl⟩ := (Decoder.item_reads _ _ _).mp read
  obtain ⟨rfl, rfl⟩ := (Decoder.count_reads _ _ _ _).mp counted
  obtain ⟨digits, rfl, nonempty, small⟩ := Varint.decode_some decoded
  cases done
  exact ⟨digits, nonempty, small, rfl⟩

theorem decodePacket_eq_some {input rest : List UInt8} {p : ControlPacket} :
    decodePacket input = some (p, rest) ↔
      p.WellFormed ∧ takePacket input = some ((p.first, p.body), rest) := by
  rw [decodePacket, Decoder.bind_eq_some]
  constructor
  · rintro ⟨⟨first, body⟩, middle, taken, decoded⟩
    cases read : readBody first body with
    | none =>
        simp only [read] at decoded
        cases decoded
    | some q =>
        simp only [read] at decoded
        cases decoded
        obtain ⟨ok, rfl, rfl⟩ := readBody_iff.mp read
        exact ⟨ok, taken⟩
  · rintro ⟨ok, taken⟩
    refine ⟨_, _, taken, ?_⟩
    simp only [readBody_iff.mpr ⟨ok, rfl, rfl⟩]
    rfl

theorem decodePacket_encode {p : ControlPacket} (ok : p.WellFormed)
    (bound : p.body.length < 128 ^ 4) (rest : List UInt8) :
    decodePacket (p.encode ++ rest) = some (p, rest) :=
  decodePacket_eq_some.mpr ⟨ok, takePacket_packet bound rest⟩

/-- What is accepted has the type byte and the body of a well-formed packet; only its remaining
length may be written with more bytes than it needs. -/
theorem decodePacket_some {input rest : List UInt8} {p : ControlPacket}
    (decoded : decodePacket input = some (p, rest)) :
    p.WellFormed ∧ ∃ digits, digits ≠ [] ∧ (digits.length = 1 → p.body.length < 128) ∧
      input = p.first :: (digits ++ (p.body ++ rest)) := by
  obtain ⟨ok, taken⟩ := decodePacket_eq_some.mp decoded
  exact ⟨ok, takePacket_some taken⟩

/-- A packet that leaves nothing needs two bytes besides its body, and has no more of them only if
its length takes one byte. -/
theorem decodePacket_length {input : List UInt8} {p : ControlPacket}
    (decoded : decodePacket input = some (p, [])) : 2 + p.body.length ≤ input.length ∧
      (input.length ≤ 2 + p.body.length → p.body.length < 128) := by
  obtain ⟨-, digits, nonempty, small, rfl⟩ := decodePacket_some decoded
  have positive := List.length_pos_iff.mpr nonempty
  simp only [List.append_nil, List.length_cons, List.length_append]
  exact ⟨by omega, fun le => small (by omega)⟩

end Dpubsub.Spec
