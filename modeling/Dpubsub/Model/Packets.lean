import Dpubsub.Lib.CInt
import Dpubsub.Lib.Buffer

/-!
# The packet serializers (`packets.c`)

Each serializer takes the caller's buffer, `none` for a NULL pointer, and returns its result with
the buffer as it leaves it. `buffer_size` is what the caller says the buffer holds; the writes
themselves are not bounded by it.
-/

namespace Dpubsub.Model
open Dpubsub.Lib

/-- `packet_type_code_t` -/
inductive PacketTypeCode where
  | connect | connack | publish | puback | pubrec | pubrel | pubcomp | subscribe | suback
  | unsubscribe | unsuback | pingreq | pingresp | disconnect
deriving DecidableEq, Repr

def PacketTypeCode.code : PacketTypeCode → Nat
  | .connect => 0x01
  | .connack => 0x02
  | .publish => 0x03
  | .puback => 0x04
  | .pubrec => 0x05
  | .pubrel => 0x06
  | .pubcomp => 0x07
  | .subscribe => 0x08
  | .suback => 0x09
  | .unsubscribe => 0x0A
  | .unsuback => 0x0B
  | .pingreq => 0xC0
  | .pingresp => 0x0D
  | .disconnect => 0xE0

/-- `buffer[index++] = (value >> 8) & 0xFF; buffer[index++] = value & 0xFF;` -/
def pushShort (out : Cursor) (value : Nat) : Cursor :=
  (out.push (toChar ((value >>> 8) &&& 0xFF))).push (toChar (value &&& 0xFF))

def serializeConnect (packetType : PacketTypeCode) (buffer : Option Buffer) (bufferSize : Nat)
    (clientId : Option CString) (keepAlive : UInt16) (version : UInt8) : Int × Option Buffer :=
  match buffer, clientId with
  | some buffer, some clientId =>
      let clientIdLen := strlen clientId
      let protocolNameLen := 4
      let variableHeaderLen := 2 + protocolNameLen + 1 + 1 + 2
      let variableHeaderLen := if version = 0x05 then variableHeaderLen + 2 else variableHeaderLen
      let payloadLen := sizeT (2 + clientIdLen)
      let remainingLength := sizeT (variableHeaderLen + payloadLen)
      if sizeT (2 + remainingLength) > bufferSize then (-2, some buffer)
      else
        let out := Cursor.start buffer
        let out := out.push (toChar (packetType.code <<< 4))
        let out := out.push (toChar remainingLength)
        let out := out.push 0x00
        let out := out.push (toChar protocolNameLen)
        let out := out.append [0x4D, 0x51, 0x54, 0x54] -- "MQTT"
        let out := out.push version
        let connectFlags := if version = 0x05 then 0x01 else 0x00
        let out := out.push connectFlags
        let out := pushShort out keepAlive.toNat
        let out := pushShort out clientIdLen
        let out := out.append clientId.bytes
        (intOfSize out.index, some out.buffer)
  | buffer, _ => (-1, buffer)

def serializeConnack (packetType : PacketTypeCode) (buffer : Option Buffer) (bufferSize : Nat)
    (sessionPresent returnCode : UInt8) : Int × Option Buffer :=
  match buffer with
  | some buffer =>
      if bufferSize < 2 then (-1, some buffer)
      else if returnCode > 0x05 then (-2, some buffer)
      else
        let out := Cursor.start buffer
        let out := out.push (toChar packetType.code)
        let out := out.push (toChar ((sessionPresent.toNat <<< 1) ||| (returnCode.toNat &&& 0x0F)))
        (2, some out.buffer)
  | none => (-1, none)

/-- The loop of `encode_remaining_length`; `buffer` points to the next byte to write. -/
def encodeRemainingLengthFrom (length : Nat) (buffer : Cursor) (index bufferSize : Nat) :
    Int × Cursor :=
  let encodedByte := length &&& 0x7F
  let rest := length >>> 7
  let encodedByte := if rest > 0 then encodedByte ||| 0x80 else encodedByte
  if index ≥ bufferSize then (-1, buffer)
  else if rest > 0 then
    encodeRemainingLengthFrom rest (buffer.push (toChar encodedByte)) (index + 1) bufferSize
  else (intOfSize (index + 1), buffer.push (toChar encodedByte))
termination_by length
decreasing_by
  simp only [Nat.shiftRight_eq_div_pow] at *
  omega

def encodeRemainingLength (length : Nat) (buffer : Cursor) (bufferSize : Nat) : Int × Cursor :=
  encodeRemainingLengthFrom length buffer 0 bufferSize

def serializePublish (packetType : PacketTypeCode) (buffer : Option Buffer) (bufferSize : Nat)
    (topic message : Option CString) (messageId : UInt16) (qos retain dup : UInt8) :
    Int × Option Buffer :=
  match buffer, topic, message with
  | some buffer, some topic, some message =>
      let topicLen := strlen topic
      let messageLen := strlen message
      let remainingLength := sizeT (2 + topicLen + messageLen)
      let remainingLength := if qos > 0 then sizeT (remainingLength + 2) else remainingLength
      if sizeT (1 + remainingLength) > bufferSize then (-2, some buffer)
      else
        let out := Cursor.start buffer
        let out := out.push (toChar ((packetType.code <<< 4) ||| (dup.toNat <<< 3) |||
          (qos.toNat &&& 0x03) ||| (retain.toNat &&& 0x01)))
        let (encodedLength, out) :=
          encodeRemainingLength remainingLength out (sizeSub bufferSize out.index)
        if encodedLength < 0 then (-3, some out.buffer)
        else
          let out := pushShort out topicLen
          let out := out.append topic.bytes
          let out := if qos > 0 then pushShort out messageId.toNat else out
          let out := out.append message.bytes
          (intOfSize out.index, some out.buffer)
  | buffer, _, _ => (-1, buffer)

/-- A packet that is its fixed header only. The check comes after the writes. -/
def serializeHeaderOnly (packetType : PacketTypeCode) (buffer : Option Buffer) (bufferSize : Nat) :
    Int × Option Buffer :=
  match buffer with
  | some buffer =>
      let out := Cursor.start buffer
      let out := out.push (toChar packetType.code)
      let out := out.push 0x00
      if out.index > bufferSize then (-2, some out.buffer)
      else (intOfSize out.index, some out.buffer)
  | none => (-1, none)

def serializeDisconnect (packetType : PacketTypeCode) (buffer : Option Buffer) (bufferSize : Nat) :
    Int × Option Buffer := serializeHeaderOnly packetType buffer bufferSize

def serializePingreq (packetType : PacketTypeCode) (buffer : Option Buffer) (bufferSize : Nat) :
    Int × Option Buffer := serializeHeaderOnly packetType buffer bufferSize

/-- A message id and one topic, and the bytes `options` after it. -/
def serializeTopicRequest (packetType : PacketTypeCode) (buffer : Option Buffer) (bufferSize : Nat)
    (topic : Option CString) (messageId : UInt16) (options : List UInt8) : Int × Option Buffer :=
  match buffer, topic with
  | some buffer, some topic =>
      let topicLen := strlen topic
      let remainingLength := sizeT (2 + 2 + topicLen + options.length)
      if sizeT (1 + remainingLength) > bufferSize then (-2, some buffer)
      else
        let out := Cursor.start buffer
        let out := out.push (toChar ((packetType.code <<< 4) ||| 0x02))
        let out := out.push (toChar remainingLength)
        let out := pushShort out messageId.toNat
        let out := pushShort out topicLen
        let out := out.append topic.bytes
        let out := out.append options
        (intOfSize out.index, some out.buffer)
  | buffer, _ => (-1, buffer)

def serializeSubscribe (packetType : PacketTypeCode) (buffer : Option Buffer) (bufferSize : Nat)
    (topic : Option CString) (messageId : UInt16) (qos : UInt8) : Int × Option Buffer :=
  serializeTopicRequest packetType buffer bufferSize topic messageId [qos]

def serializeUnsubscribe (packetType : PacketTypeCode) (buffer : Option Buffer) (bufferSize : Nat)
    (topic : Option CString) (messageId : UInt16) : Int × Option Buffer :=
  serializeTopicRequest packetType buffer bufferSize topic messageId []

end Dpubsub.Model
