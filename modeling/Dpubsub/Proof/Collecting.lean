import Dpubsub.Spec.Collect
import Dpubsub.Proof.DynamicBuffer

/-!
# The server's buffer against a plain collector

`receive_bytes_with_dynamic_buffer` collects the bytes of the connection whatever `realloc` and `recv`
answer. More memory is asked for once more than 512 bytes have come in, and when the function ends,
also by `exit`, the heap is as it was found.
-/

namespace Dpubsub.Proof
open Dpubsub.Lib Dpubsub.Model Dpubsub.Spec

def spare : Nat := serverInitialBufferSize - chunkSize

/-- The block of the server holds `stream`, and every other block is as in `h`. -/
structure Collects (h : Heap) (stream : List UInt8) (s : Receiving) (block : Nat)
    (bytes : List UInt8) : Prop where
  total : s.totalBytesReceived = stream.length
  buffer : s.buffer = some block
  content : s.heap.blocks block = some bytes
  inside : stream.length ≤ s.bufferSize
  fits : s.bufferSize ≤ bytes.length
  begins : bytes.take stream.length = stream
  others : ∀ a, a ≠ block → s.heap.blocks a = h.blocks a
  foreign : h.blocks block = none

structure Tight (stream : List UInt8) (s : Receiving) : Prop where
  initial : stream.length ≤ spare → s.bufferSize = serverInitialBufferSize
  later : spare < stream.length → s.bufferSize < stream.length + chunkSize

def ended : Stop → Option Unit
  | .hungUp => some ()
  | .failed => some ()
  | .outOfMemory => none

/-- The call has collected these bytes; it waits with them in its buffer, or has ended and has given
back what it took from the heap. -/
inductive Serves (before : Heap) : Collected → Outcome (Option Unit) × Receiving → Prop where
  | waits {stream s block bytes} (collects : Collects before stream s block bytes) :
      Serves before ⟨stream, none⟩ (.pending, s)
  | ends {stream s} (stop : Stop) (total : s.totalBytesReceived = stream.length)
      (heap : s.heap.blocks = before.blocks) : Serves before ⟨stream, some stop⟩ (.ret (ended stop), s)

section
variable {h : Heap} {connfd : Int} {answer : RecvAnswer} {answers : List (Bool × RecvAnswer)}
  {stream chunk bytes : List UInt8} {s : Receiving} {block : Nat} {granted : Bool}

theorem Collects.holding (collects : Collects h stream s block bytes) : Holding stream s where
  total := collects.total
  content := ⟨block, bytes, collects.buffer, collects.content, collects.inside, collects.fits,
    collects.begins⟩

theorem Collects.live (collects : Collects h stream s block bytes) : s.heap.live block = true := by
  rw [Heap.live, collects.content, Option.isSome_some]

theorem Collects.released (collects : Collects h stream s block bytes) :
    (s.heap.release block).blocks = h.blocks :=
  Heap.release_restores collects.foreign collects.others

theorem Collects.unused (collects : Collects h stream s block bytes) :
    h.blocks s.heap.next = none := by
  have none : s.heap.blocks s.heap.next = none := s.heap.unused _ le_rfl
  have ne : s.heap.next ≠ block := by
    intro same
    rw [same, collects.content] at none
    cases none
  rw [← collects.others _ ne, none]

theorem Tight.size (tight : Tight stream s) :
    max s.bufferSize (stream.length + chunkSize) =
      max serverInitialBufferSize (stream.length + chunkSize) := by
  have sizes : spare + chunkSize = serverInitialBufferSize := by decide
  by_cases few : stream.length ≤ spare
  · rw [tight.initial few]
  · have later := tight.later (Nat.not_le.mp few)
    omega

theorem tight_append (size : s.bufferSize =
      max serverInitialBufferSize (stream.length + chunkSize)) (some : 0 < chunk.length)
    (s' : Receiving) (same : s'.bufferSize = s.bufferSize) : Tight (stream ++ chunk) s' := by
  have sizes : spare + chunkSize = serverInitialBufferSize := by decide
  constructor
  · rw [List.length_append, same, size]
    omega
  · rw [List.length_append, same, size]
    omega

theorem receiveLoop_cons (connfd : Int) (granted : Bool) (answer : RecvAnswer)
    (answers : List (Bool × RecvAnswer)) (s : Receiving) :
    receiveLoop connfd ((granted, answer) :: answers) s = (do
      let managed ← onReceivingHeap (manageBuffer s.buffer s.bufferSize
        (sizeT (s.totalBytesReceived + chunkSize)) granted)
      match managed with
      | none => return none
      | some (buffer, bufferSize) => do
          Prog.modify ({ · with buffer := buffer, bufferSize := bufferSize })
          receiveInto connfd answer answers buffer : Prog Receiving (Option Unit)) s := by
  have state : Prog.get s = (.ret s, s) := rfl
  rw [receiveLoop, Prog.bind_ret state]
  rfl

theorem Collects.manages (collects : Collects h stream s block bytes)
    (small : stream.length + chunkSize < 2 ^ 64) {o : Option (Ptr × Nat)} {h' : Heap}
    (managed : manageBuffer (some block) s.bufferSize (stream.length + chunkSize) granted s.heap =
      (.ret o, h')) : onReceivingHeap (manageBuffer s.buffer s.bufferSize
        (sizeT (s.totalBytesReceived + chunkSize)) granted) s = (.ret o, { s with heap := h' }) := by
  rw [onReceivingHeap, Prog.zoom_apply, collects.total, sizeT_of_lt small, collects.buffer, managed]

theorem receiveLoop_exits (collects : Collects h stream s block bytes) (tight : Tight stream s)
    (small : stream.length + chunkSize < 2 ^ 64) (needs : spare < stream.length) :
    receiveLoop connfd ((false, answer) :: answers) s =
      (.ret none, { s with heap := s.heap.release block }) := by
  have refuses : realloc (some block) (stream.length + chunkSize) false s.heap =
      (.ret none, s.heap) := by
    simp [realloc, collects.content]
  have managed : manageBuffer (some block) s.bufferSize (stream.length + chunkSize) false s.heap =
      (.ret none, s.heap.release block) := by
    rw [manageBuffer, if_pos (tight.later needs), Prog.bind_ret refuses, if_pos rfl,
      Prog.bind_ret (free_live collects.live)]
    rfl
  rw [receiveLoop_cons, Prog.bind_ret (collects.manages small managed)]
  rfl

theorem receiveLoop_continues (collects : Collects h stream s block bytes)
    (tight : Tight stream s) (small : stream.length + chunkSize < 2 ^ 64)
    (room : ¬(spare < stream.length ∧ granted = false)) :
    ∃ s' block' bytes', Collects h stream s' block' bytes' ∧
      s'.bufferSize = max serverInitialBufferSize (stream.length + chunkSize) ∧
      ∀ connfd answer answers, receiveLoop connfd ((granted, answer) :: answers) s =
        receiveInto connfd answer answers s'.buffer s' := by
  by_cases needs : s.bufferSize < stream.length + chunkSize
  · have more : spare < stream.length := by
      by_contra few
      have sizes : spare + chunkSize = serverInitialBufferSize := by decide
      rw [tight.initial (Nat.not_lt.mp few)] at needs
      omega
    obtain rfl : granted = true := by
      by_contra refused
      exact room ⟨more, Bool.eq_false_of_not_eq_true refused⟩
    have managed : manageBuffer (some block) s.bufferSize (stream.length + chunkSize) true s.heap =
        (.ret (some (some s.heap.next, stream.length + chunkSize)),
          (s.heap.release block).alloc (resized bytes (stream.length + chunkSize))) := by
      rw [manageBuffer, if_pos needs, Prog.bind_ret (realloc_granted collects.content _)]
      rfl
    refine ⟨{ s with
        heap := (s.heap.release block).alloc (resized bytes (stream.length + chunkSize))
        buffer := some s.heap.next
        bufferSize := stream.length + chunkSize },
      s.heap.next, resized bytes (stream.length + chunkSize),
      ⟨collects.total, rfl, Heap.blocks_alloc_next _ _, Nat.le_add_right _ _,
        (resized_length _ _).ge, ?_, fun a ne => ?_, collects.unused⟩, ?_,
      fun connfd answer answers => ?_⟩
    · rw [resized_take bytes (collects.inside.trans collects.fits) (Nat.le_add_right _ _),
        collects.begins]
    · rw [← congrFun collects.released a]
      exact Function.update_of_ne ne _ _
    · rw [← tight.size, max_eq_right needs.le]
    · rw [receiveLoop_cons, Prog.bind_ret (collects.manages small managed)]
      rfl
  · have managed : manageBuffer (some block) s.bufferSize (stream.length + chunkSize) granted
        s.heap = (.ret (some (some block, s.bufferSize)), s.heap) := by
      rw [manageBuffer, if_neg needs]
      rfl
    refine ⟨s, block, bytes, collects, ?_, fun connfd answer answers => ?_⟩
    · rw [← tight.size, max_eq_left (Nat.not_lt.mp needs)]
    · rw [receiveLoop_cons, Prog.bind_ret (collects.manages small managed), collects.buffer]
      exact congrArg (receiveInto connfd answer answers (some block)) (by
        rw [← collects.buffer])

theorem chunkOf_data : chunkOf connfd answer = some chunk ↔
    recvResult connfd chunkSize answer = .data chunk := by
  constructor
  · exact recvResult_of_chunk
  · intro received
    rw [chunkOf, received]

theorem chunkOf_stops {stop : Stop}
    (stops : stopOf (recvResult connfd chunkSize answer) = some stop) :
    chunkOf connfd answer = none := by
  unfold chunkOf
  cases received : recvResult connfd chunkSize answer with
  | data bytes =>
      rw [received] at stops
      cases stops
  | closed => rfl
  | failed wouldBlock => rfl

theorem receiveInto_stores (collects : Collects h stream s block bytes)
    (size : s.bufferSize = max serverInitialBufferSize (stream.length + chunkSize))
    (small : stream.length + chunk.length < 2 ^ 64)
    (received : recvResult connfd chunkSize answer = .data chunk) :
    ∃ s' bytes', Collects h (stream ++ chunk) s' block bytes' ∧ Tight (stream ++ chunk) s' ∧
      ∀ answers, receiveInto connfd answer answers s.buffer s = receiveLoop connfd answers s' := by
  have data := chunkOf_data.mpr received
  obtain ⟨positive, atMost⟩ := chunk_length data
  have room : stream.length + chunkSize ≤ s.bufferSize := by omega
  have fits := collects.fits
  have call := recvChunk_data collects.buffer collects.content (by
    rw [collects.total]
    exact room.trans fits) data
  have counted : sizeT (s.totalBytesReceived + sizeOfInt chunk.length) =
      (stream ++ chunk).length := by
    rw [sizeOfInt_natCast (by omega), collects.total, List.length_append, sizeT_of_lt small]
  refine ⟨{ noted s block with
      heap := s.heap.store block stream.length chunk
      totalBytesReceived := (stream ++ chunk).length }, _,
    ⟨rfl, collects.buffer, Heap.blocks_store collects.content stream.length chunk, ?_, ?_, ?_,
      fun a ne => ?_, collects.foreign⟩, tight_append size positive _ rfl, fun answers => ?_⟩
  · rw [List.length_append]
    exact (Nat.add_le_add_left atMost _).trans room
  · change s.bufferSize ≤ _
    rw [List.length_append, List.length_append, List.length_take, List.length_drop]
    omega
  · rw [collects.begins, List.take_left]
  · rw [← collects.others a ne]
    exact Function.update_of_ne ne _ _
  · rw [receiveInto, Prog.bind_ret call, if_neg (by omega), Prog.modify_bind]
    change receiveLoop connfd answers { noted s block with
      heap := s.heap.store block s.totalBytesReceived chunk
      totalBytesReceived := sizeT (s.totalBytesReceived + sizeOfInt chunk.length) } = _
    rw [counted, collects.total]

theorem receiveInto_stops (collects : Collects h stream s block bytes) {stop : Stop}
    (stops : stopOf (recvResult connfd chunkSize answer) = some stop)
    (answers : List (Bool × RecvAnswer)) : receiveInto connfd answer answers s.buffer s =
      (.ret (some ()), { noted s block with heap := s.heap.release block }) := by
  obtain ⟨result, negative, received⟩ := recvChunk_end collects.buffer (chunkOf_stops stops)
  have live : (noted s block).heap.live block = true := collects.live
  have freed : onReceivingHeap (free (some block)) (noted s block) =
      (.ret (), { noted s block with heap := s.heap.release block }) := by
    rw [onReceivingHeap, Prog.zoom_apply, free_live live]
    rfl
  rw [receiveInto, Prog.bind_ret received, if_pos negative, collects.buffer, Prog.bind_ret freed]
  rfl

theorem receiveLoop_serves (connfd : Int) {answers : List (Bool × RecvAnswer)}
    (collects : Collects h stream s block bytes) (tight : Tight stream s)
    (small : (collect connfd chunkSize spare stream answers).bytes.length + chunkSize < 2 ^ 64) :
    Serves h (collect connfd chunkSize spare stream answers) (receiveLoop connfd answers s) := by
  induction answers generalizing stream s block bytes with
  | nil => exact .waits collects
  | cons a answers ih =>
      obtain ⟨granted, answer⟩ := a
      have now : stream.length + chunkSize < 2 ^ 64 :=
        (Nat.add_le_add_right (collect_grows ((granted, answer) :: answers)).length_le _).trans_lt
          small
      obtain ⟨needs, rfl⟩ | ⟨room, ⟨chunk, data⟩ | ⟨stop, stops⟩⟩ :=
        collect_cases connfd chunkSize spare stream granted answer
      · rw [collect_refused ⟨needs, rfl⟩, receiveLoop_exits collects tight now needs]
        exact .ends .outOfMemory collects.total collects.released
      · obtain ⟨s₁, block₁, bytes₁, collects, size, continues⟩ :=
          receiveLoop_continues collects tight now room
        have atMost : chunk.length ≤ chunkSize := (chunk_length (chunkOf_data.mpr data)).2
        obtain ⟨s₂, bytes₂, collects, tight, next⟩ :=
          receiveInto_stores collects size (by omega) data
        rw [collect_data room data] at small ⊢
        rw [continues, next]
        exact ih collects tight small
      · obtain ⟨s₁, block₁, bytes₁, collects, size, continues⟩ :=
          receiveLoop_continues collects tight now room
        rw [collect_stops room stops, continues, receiveInto_stops collects stops]
        have total : (noted s₁ block₁).totalBytesReceived = stream.length := collects.total
        cases stop with
        | hungUp => exact .ends .hungUp total collects.released
        | failed => exact .ends .failed total collects.released
        | outOfMemory =>
            cases received : recvResult connfd chunkSize answer <;> rw [received] at stops <;>
              cases stops

end

theorem served (connfd : Int) (answers : List (Bool × RecvAnswer))
    (small : (collect connfd chunkSize spare [] answers).bytes.length < 2 ^ 64 - chunkSize)
    (h : Heap) : Serves h (collect connfd chunkSize spare [] answers)
      (receiveBytesWithDynamicBuffer connfd true answers (beforeReceiving h)) := by
  refine receiveLoop_serves (s := ⟨h.alloc (List.replicate serverInitialBufferSize 0),
    some h.next, serverInitialBufferSize, 0, []⟩) connfd
    ⟨rfl, rfl, Heap.blocks_alloc_next _ _, Nat.zero_le _, (List.length_replicate ..).ge,
      List.take_zero, fun a ne => Function.update_of_ne ne _ _, h.unused _ le_rfl⟩
    ⟨fun _ => rfl, fun more => by cases more⟩ ?_
  have bound : chunkSize < 2 ^ 64 := by decide
  omega

def collectFrom (connfd : Int) (granted : Bool) (answers : List (Bool × RecvAnswer)) : Collected :=
  if granted then collect connfd chunkSize spare [] answers else ⟨[], some .outOfMemory⟩

theorem collectFrom_append {connfd : Int} {granted : Bool} {first : List (Bool × RecvAnswer)}
    (going : (collectFrom connfd granted first).stop = none) (last : List (Bool × RecvAnswer)) :
    collectFrom connfd granted (first ++ last) =
      collect connfd chunkSize spare (collectFrom connfd granted first).bytes last := by
  cases granted with
  | true => exact collect_append going last
  | false => cases going

theorem collectFrom_stop {connfd : Int} {granted : Bool} {answers : List (Bool × RecvAnswer)}
    {stop : Stop} (stops : (collectFrom connfd granted answers).stop = some stop) :
    stop = .hungUp ∨
    (stop = .failed ∧
      ∃ a ∈ answers, ∃ wouldBlock, recvResult connfd chunkSize a.2 = .failed wouldBlock) ∨
    stop = .outOfMemory ∧ (granted = false ∨ ∃ a ∈ answers, a.1 = false) := by
  cases granted with
  | true =>
      rcases collect_stop stops with hungUp | failed | ⟨refused, answer⟩
      · exact .inl hungUp
      · exact .inr (.inl failed)
      · exact .inr (.inr ⟨refused, .inr answer⟩)
  | false =>
      cases stops
      exact .inr (.inr ⟨rfl, .inl rfl⟩)

theorem receiveBytesWithDynamicBuffer_serves (connfd : Int) (granted : Bool)
    (answers : List (Bool × RecvAnswer))
    (small : (collectFrom connfd granted answers).bytes.length < 2 ^ 64 - chunkSize) (h : Heap) :
    Serves h (collectFrom connfd granted answers)
      (receiveBytesWithDynamicBuffer connfd granted answers (beforeReceiving h)) := by
  cases granted with
  | true => exact served connfd answers small h
  | false => exact .ends .outOfMemory rfl rfl

theorem serves_three_bytes : Serves Heap.empty ⟨[1, 2, 3], some .hungUp⟩
    (receiveBytesWithDynamicBuffer 5 true [(true, .data [1, 2]), (false, .data [3]), (true, .closed)]
      (beforeReceiving Heap.empty)) :=
  receiveBytesWithDynamicBuffer_serves 5 true
    [(true, .data [1, 2]), (false, .data [3]), (true, .closed)] (by decide) Heap.empty

end Dpubsub.Proof
