import Dpubsub.Lib.Heap
import Dpubsub.Lib.Sockets

/-!
# The TCP server (`transport/tcp/tcp_server.c`)

A function that calls `exit` returns `none`.
-/

namespace Dpubsub.Model
open Dpubsub.Lib

/-- `INITIAL_BUFFER_SIZE` of `tcp_server.h` -/
def serverInitialBufferSize : Nat := 1024

structure ListenAnswers where
  socket : Int
  setsockopt : Int
  bind : Int
  listen : Int
  close : CloseAnswer
deriving DecidableEq, Repr

def createAndListenServer (a : ListenAnswers) (_port : Int) : Prog Net (Option Int) := do
  let sockfd ← socket a.socket
  if sockfd < 0 then return none
  else if a.setsockopt < 0 then do
    let _ ← close sockfd a.close
    return none
  else if a.bind < 0 then do
    let _ ← close sockfd a.close
    return none
  else if a.listen < 0 then do
    let _ ← close sockfd a.close
    return none
  else return some sockfd

def acceptClient (sockfd answer : Int) : Prog Net Int := do
  let connfd ← accept sockfd answer
  if connfd < 0 then return -1
  else return connfd

/-- Returns the buffer and what is left in `*buffer_size`. -/
def manageBuffer (buffer : Ptr) (bufferSize requiredSize : Nat) (granted : Bool) :
    Prog Heap (Option (Ptr × Nat)) := do
  if requiredSize > bufferSize then do
    let newBuffer ← realloc buffer requiredSize granted
    if newBuffer = none then do
      free buffer
      return none
    else return some (newBuffer, requiredSize)
  else return some (buffer, bufferSize)

/-- A `recv` of a chunk: where it is to be stored, and how large the buffer is at that time. -/
structure ChunkRecv where
  total : Nat
  chunkSize : Nat
  bufferSize : Nat
  capacity : Nat
deriving DecidableEq, Repr

/-- The variables of `receive_bytes_with_dynamic_buffer`, with the calls of `recv` so far. -/
structure Receiving where
  heap : Heap
  buffer : Ptr
  bufferSize : Nat
  totalBytesReceived : Nat
  recvs : List ChunkRecv

def onReceivingHeap {α : Type} (m : Prog Heap α) : Prog Receiving α :=
  Prog.zoom Receiving.heap (fun s h => { s with heap := h }) m

/-- `recv(connfd, (char *)buffer + total_bytes_received, chunk_size, 0)` -/
def recvChunk (connfd : Int) (chunkSize : Nat) (answer : RecvAnswer) : Prog Receiving Int := do
  let s ← Prog.get
  match s.buffer with
  | none => Prog.stuck
  | some block =>
      let capacity := s.heap.capacity block
      Prog.modify fun s => { s with
        recvs := s.recvs ++ [⟨s.totalBytesReceived, chunkSize, s.bufferSize, capacity⟩] }
      match recvResult connfd chunkSize answer with
      | .failed _ => return -1
      | .closed => return 0
      | .data bytes =>
          if capacity < s.totalBytesReceived + bytes.length then Prog.stuck
          else do
            Prog.modify fun s => { s with
              heap := s.heap.store block s.totalBytesReceived bytes }
            return intOfSize bytes.length

def chunkSize : Nat := 512

/-- The loop, with what the system answers in each iteration to `realloc`, where it is called, and to
`recv`. When the answers run out, the next iteration has not begun. -/
def receiveLoop (connfd : Int) : List (Bool × RecvAnswer) → Prog Receiving (Option Unit)
  | [] => Prog.wait
  | (granted, answer) :: answers => do
      let s ← Prog.get
      let managed ← onReceivingHeap (manageBuffer s.buffer s.bufferSize
        (sizeT (s.totalBytesReceived + chunkSize)) granted)
      match managed with
      | none => return none
      | some (buffer, bufferSize) => do
          Prog.modify ({ · with buffer := buffer, bufferSize := bufferSize })
          let bytesReceived ← recvChunk connfd chunkSize answer
          if bytesReceived ≤ 0 then do
            onReceivingHeap (free buffer)
            return some ()
          else do
            Prog.modify fun s => { s with
              totalBytesReceived := sizeT (s.totalBytesReceived + sizeOfInt bytesReceived) }
            receiveLoop connfd answers

def receiveBytesWithDynamicBuffer (connfd : Int) (granted : Bool)
    (answers : List (Bool × RecvAnswer)) : Prog Receiving (Option Unit) := do
  let buffer ← onReceivingHeap (malloc serverInitialBufferSize granted)
  if buffer = none then return none
  else do
    Prog.modify ({ · with
      buffer := buffer, bufferSize := serverInitialBufferSize, totalBytesReceived := 0 })
    receiveLoop connfd answers

/-- The bytes that `recv` stored; `none` where the function ends without returning a value. -/
def receiveBytesFromClientStaticBuff (connfd : Int) (bufferSize : Nat) (answer : RecvAnswer) :
    Option Int × List UInt8 :=
  match recvResult connfd bufferSize answer with
  | .failed _ => (none, [])
  | .closed => (none, [])
  | .data bytes =>
      let bytesReceived := intOfSize bytes.length
      (if bytesReceived ≤ 0 then none else some bytesReceived, bytes)

/-- One `send`, whatever it takes. -/
def sendBytesToClient (connfd : Int) (buffer : Nat → UInt8) (bufferSize : Nat)
    (answers : List Int) : Prog Net Int := fun n =>
  match answers with
  | [] => (.pending, n.transfer connfd buffer bufferSize [])
  | answer :: _ =>
      let bytesSent := sendResult connfd bufferSize answer
      -- a negative result is reported by `perror` only
      (.ret 0, n.transfer connfd buffer bufferSize [⟨0, bufferSize, bytesSent⟩])

def closeResource (fd : Int) (answer : CloseAnswer) : Prog Net Int := do
  let result ← close fd answer
  if result < 0 then return -1
  else return 0

def closeConnectionServer (connfd : Int) (answer : CloseAnswer) : Prog Net Int :=
  closeResource connfd answer

def closeSocketServer (sockfd : Int) (answer : CloseAnswer) : Prog Net Int :=
  closeResource sockfd answer

end Dpubsub.Model
