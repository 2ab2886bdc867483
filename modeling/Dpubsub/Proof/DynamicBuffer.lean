import Dpubsub.Model.TcpServer

/-!
# The growing buffer of the server

The buffer holds the bytes received so far, and every `recv` is given room for a whole chunk.
-/

namespace Dpubsub.Proof
open Dpubsub.Lib Dpubsub.Model

def chunkOf (connfd : Int) (answer : RecvAnswer) : Option (List UInt8) :=
  match recvResult connfd chunkSize answer with
  | .data bytes => some bytes
  | _ => none

def chunksOf (connfd : Int) : List (Bool × RecvAnswer) → List (List UInt8)
  | [] => []
  | (_, answer) :: answers =>
      match chunkOf connfd answer with
      | some chunk => chunk :: chunksOf connfd answers
      | none => []

section
variable {connfd : Int} {answer : RecvAnswer} {chunk : List UInt8}

theorem chunksOf_data (data : chunkOf connfd answer = some chunk) (granted : Bool)
    (answers : List (Bool × RecvAnswer)) :
    chunksOf connfd ((granted, answer) :: answers) = chunk :: chunksOf connfd answers := by
  rw [chunksOf, data]

theorem recvResult_of_chunk (data : chunkOf connfd answer = some chunk) :
    recvResult connfd chunkSize answer = .data chunk := by
  unfold chunkOf at data
  split at data
  · rename_i bytes received
    rw [received, Option.some.inj data]
  · cases data

theorem chunk_length (data : chunkOf connfd answer = some chunk) :
    0 < chunk.length ∧ chunk.length ≤ chunkSize := by
  have received := recvResult_of_chunk data
  unfold recvResult at received
  split at received
  · cases received
  · cases answer with
    | data bytes =>
        simp only at received
        split at received
        · cases received
        · rename_i some
          cases received
          exact ⟨List.length_pos_iff.mpr some, List.length_take_le _ _⟩
    | closed => cases received
    | failed wouldBlock => cases received

end

/-- The block holds `stream`, and is as large as `buffer_size` says. -/
structure Holding (stream : List UInt8) (s : Receiving) : Prop where
  total : s.totalBytesReceived = stream.length
  content : ∃ block bytes, s.buffer = some block ∧ s.heap.blocks block = some bytes ∧
    stream.length ≤ s.bufferSize ∧ s.bufferSize ≤ bytes.length ∧ bytes.take stream.length = stream

def sizes (s : Receiving) : List Nat := serverInitialBufferSize :: s.recvs.map (·.bufferSize)

/-- Every `recv` so far had room for its chunk, and the size of the buffer has never decreased. -/
structure Growing (s : Receiving) : Prop where
  fits : ∀ r ∈ s.recvs, r.chunkSize = 512 ∧ r.total + 512 ≤ r.bufferSize ∧
    r.bufferSize ≤ r.capacity
  grows : (sizes s ++ [s.bufferSize]).Pairwise (· ≤ ·)

theorem pairwise_raise {sizes : List Nat} {a b : Nat} (le : a ≤ b)
    (grows : (sizes ++ [a]).Pairwise (· ≤ ·)) : (sizes ++ [b]).Pairwise (· ≤ ·) := by
  obtain ⟨before, -, below⟩ := List.pairwise_append.mp grows
  refine List.pairwise_append.mpr ⟨before, List.pairwise_singleton _ _, fun x member y last => ?_⟩
  rw [List.mem_singleton.mp last]
  exact (below x member a List.mem_cons_self).trans le

theorem pairwise_repeat {sizes : List Nat} {a : Nat} (grows : (sizes ++ [a]).Pairwise (· ≤ ·)) :
    (sizes ++ [a] ++ [a]).Pairwise (· ≤ ·) := by
  obtain ⟨before, -, below⟩ := List.pairwise_append.mp grows
  refine List.pairwise_append.mpr ⟨grows, List.pairwise_singleton _ _, fun x member y last => ?_⟩
  rw [List.mem_singleton.mp last]
  rcases List.mem_append.mp member with old | new
  · exact below x old a List.mem_cons_self
  · exact (List.mem_singleton.mp new).le

section
variable {connfd : Int} {answer : RecvAnswer} {answers : List (Bool × RecvAnswer)}
  {stream chunk : List UInt8} {s : Receiving} {block : Nat} {bytes : List UInt8}

theorem manageBuffer_makesRoom {h : Heap} {size : Nat} (content : h.blocks block = some bytes)
    (fits : size ≤ bytes.length) (required : Nat) : ∃ h' block' new,
      manageBuffer (some block) size required true h =
        (.ret (some (some block', max size required)), h') ∧
      h'.blocks block' = some new ∧ max size required ≤ new.length ∧
      ∀ n ≤ size, new.take n = bytes.take n := by
  unfold manageBuffer
  by_cases expand : required > size
  · refine ⟨(h.release block).alloc (resized bytes required), h.next, _, ?_,
      Heap.blocks_alloc_next _ _, ?_, fun n le => ?_⟩
    · rw [if_pos expand, Prog.bind_ret (realloc_granted content required), max_eq_right expand.le]
      rfl
    · rw [resized_length, max_eq_right expand.le]
    · exact resized_take bytes (le.trans fits) (le.trans expand.le)
  · refine ⟨h, block, bytes, ?_, content, ?_, fun _ _ => rfl⟩
    · rw [if_neg expand, max_eq_left (Nat.not_lt.mp expand)]
      rfl
    · rwa [max_eq_left (Nat.not_lt.mp expand)]

def receiveInto (connfd : Int) (answer : RecvAnswer) (answers : List (Bool × RecvAnswer))
    (buffer : Ptr) : Prog Receiving (Option Unit) := do
  let bytesReceived ← recvChunk connfd chunkSize answer
  if bytesReceived ≤ 0 then do
    onReceivingHeap (free buffer)
    return some ()
  else do
    Prog.modify fun s => { s with
      totalBytesReceived := sizeT (s.totalBytesReceived + sizeOfInt bytesReceived) }
    receiveLoop connfd answers

theorem receiveLoop_managed (holding : Holding stream s) (growing : Growing s)
    (small : stream.length + 512 < 2 ^ 64) (connfd : Int) :
    ∃ s', Holding stream s' ∧ Growing s' ∧ stream.length + 512 ≤ s'.bufferSize ∧
      ∀ answer answers, receiveLoop connfd ((true, answer) :: answers) s =
        receiveInto connfd answer answers s'.buffer s' := by
  obtain ⟨total, block, bytes, buffer, content, inside, fits, begins⟩ := holding
  obtain ⟨h', block', new, managed, content', fits', kept⟩ :=
    manageBuffer_makesRoom content fits (stream.length + 512)
  refine ⟨{ s with heap := h', buffer := some block', bufferSize := max s.bufferSize _ },
    ⟨total, block', new, rfl, content', inside.trans (le_max_left _ _), fits', ?_⟩,
    ⟨growing.fits, pairwise_raise (le_max_left _ _) growing.grows⟩, le_max_right _ _,
    fun answer answers => ?_⟩
  · rw [kept _ inside, begins]
  · have first : onReceivingHeap (manageBuffer s.buffer s.bufferSize
        (sizeT (s.totalBytesReceived + chunkSize)) true) s =
        (.ret (some (some block', max s.bufferSize (stream.length + 512))),
          { s with heap := h' }) := by
      have required : sizeT (s.totalBytesReceived + chunkSize) = stream.length + 512 := by
        rw [total, chunkSize, sizeT_of_lt small]
      rw [onReceivingHeap, Prog.zoom_apply, required, buffer, managed]
    have state : Prog.get s = (.ret s, s) := rfl
    rw [receiveLoop, Prog.bind_ret state, Prog.bind_ret first]
    rfl

def noted (s : Receiving) (block : Nat) : Receiving :=
  { s with recvs := s.recvs ++
      [⟨s.totalBytesReceived, chunkSize, s.bufferSize, s.heap.capacity block⟩] }

theorem Growing.noted (growing : Growing s) (holding : Holding stream s)
    (room : stream.length + 512 ≤ s.bufferSize) (buffer : s.buffer = some block) :
    Growing (noted s block) := by
  obtain ⟨total, block', bytes, buffer', content, inside, fits, begins⟩ := holding
  obtain rfl : block = block' := Option.some.inj (buffer.symm.trans buffer')
  constructor
  · intro r member
    rcases List.mem_append.mp member with old | new
    · exact growing.fits r old
    · rw [List.mem_singleton] at new
      subst new
      refine ⟨rfl, ?_, ?_⟩
      · change s.totalBytesReceived + 512 ≤ s.bufferSize
        rwa [total]
      · change s.bufferSize ≤ s.heap.capacity block
        rwa [Heap.capacity, content]
  · have one : sizes (Proof.noted s block) = sizes s ++ [s.bufferSize] := by
      rw [sizes, sizes, Proof.noted, List.map_append, List.cons_append]
      rfl
    rw [one]
    exact pairwise_repeat growing.grows

theorem recvChunk_data (buffer : s.buffer = some block) (content : s.heap.blocks block = some bytes)
    (room : s.totalBytesReceived + 512 ≤ bytes.length) (data : chunkOf connfd answer = some chunk) :
    recvChunk connfd chunkSize answer s = (.ret chunk.length,
      { noted s block with heap := s.heap.store block s.totalBytesReceived chunk }) := by
  have state : Prog.get s = (.ret s, s) := rfl
  have atMost : chunk.length ≤ 512 := (chunk_length data).2
  have inside : ¬s.heap.capacity block < s.totalBytesReceived + chunk.length := by
    rw [Heap.capacity, content]
    simp only [Option.map_some, Option.getD_some]
    omega
  have result : intOfSize chunk.length = chunk.length := intOfSize_of_lt (by omega)
  rw [recvChunk, Prog.bind_ret state]
  simp only [buffer, recvResult_of_chunk data, if_neg inside, result]
  rfl

theorem recvChunk_end (buffer : s.buffer = some block) (stop : chunkOf connfd answer = none) :
    ∃ result ≤ 0, recvChunk connfd chunkSize answer s = (.ret result, noted s block) := by
  have state : Prog.get s = (.ret s, s) := rfl
  rw [recvChunk, Prog.bind_ret state]
  simp only [buffer]
  unfold chunkOf at stop
  cases received : recvResult connfd chunkSize answer with
  | data bytes =>
      rw [received] at stop
      cases stop
  | closed => exact ⟨0, le_rfl, rfl⟩
  | failed wouldBlock => exact ⟨-1, by decide, rfl⟩

theorem receiveInto_data (holding : Holding stream s) (growing : Growing s)
    (room : stream.length + 512 ≤ s.bufferSize) (small : stream.length + chunk.length < 2 ^ 64)
    (data : chunkOf connfd answer = some chunk) : ∃ s', Holding (stream ++ chunk) s' ∧ Growing s' ∧
      ∀ answers, receiveInto connfd answer answers s.buffer s = receiveLoop connfd answers s' := by
  obtain ⟨total, block, bytes, buffer, content, inside, fits, begins⟩ := id holding
  obtain ⟨positive, atMost⟩ := chunk_length data
  have atMost' : chunk.length ≤ 512 := atMost
  have received := recvChunk_data buffer content (by omega) data
  have counted : sizeT (s.totalBytesReceived + sizeOfInt chunk.length) =
      (stream ++ chunk).length := by
    rw [sizeOfInt_natCast (by omega), total, List.length_append, sizeT_of_lt small]
  have content' := Heap.blocks_store content stream.length chunk
  have after := growing.noted holding room buffer
  refine ⟨{ noted s block with
      heap := s.heap.store block stream.length chunk
      totalBytesReceived := (stream ++ chunk).length },
    ⟨rfl, block, _, buffer, content', ?_, ?_, ?_⟩, ⟨after.fits, after.grows⟩, fun answers => ?_⟩
  · rw [List.length_append]
    change stream.length + chunk.length ≤ s.bufferSize
    omega
  · change s.bufferSize ≤ _
    rw [List.length_append, List.length_append, List.length_take, List.length_drop]
    omega
  · rw [begins, List.take_left]
  · rw [receiveInto, Prog.bind_ret received, if_neg (by omega), Prog.modify_bind]
    change receiveLoop connfd answers { noted s block with
      heap := s.heap.store block s.totalBytesReceived chunk
      totalBytesReceived := sizeT (s.totalBytesReceived + sizeOfInt chunk.length) } = _
    rw [counted, total]

theorem receiveInto_end (holding : Holding stream s) (growing : Growing s)
    (room : stream.length + 512 ≤ s.bufferSize) (stop : chunkOf connfd answer = none) :
    ∃ s', Growing s' ∧
      ∀ answers, receiveInto connfd answer answers s.buffer s = (.ret (some ()), s') := by
  obtain ⟨-, block, bytes, buffer, content, -⟩ := id holding
  obtain ⟨result, negative, received⟩ := recvChunk_end buffer stop
  have after := growing.noted holding room buffer
  have live : s.heap.live block = true := by rw [Heap.live, content, Option.isSome_some]
  have freed : onReceivingHeap (free (some block)) (noted s block) =
      (.ret (), { noted s block with heap := s.heap.release block }) := by
    rw [onReceivingHeap, Prog.zoom_apply]
    change ((free (some block) s.heap).1, { noted s block with
      heap := (free (some block) s.heap).2 }) = _
    rw [free_live live]
  refine ⟨{ noted s block with heap := s.heap.release block }, ⟨after.fits, after.grows⟩,
    fun answers => ?_⟩
  rw [receiveInto, Prog.bind_ret received, if_pos negative, buffer, Prog.bind_ret freed]
  rfl

end

inductive Received (connfd : Int) (stream : List UInt8) (answers : List (Bool × RecvAnswer)) :
    Outcome (Option Unit) × Receiving → Prop where
  | going {s} (data : ∀ a ∈ answers, chunkOf connfd a.2 ≠ none)
      (holding : Holding (stream ++ (chunksOf connfd answers).flatten) s) :
      Received connfd stream answers (.pending, s)
  | ended {s a} (member : a ∈ answers) (stop : chunkOf connfd a.2 = none) :
      Received connfd stream answers (.ret (some ()), s)

theorem Received.cons {connfd : Int} {stream chunk : List UInt8} {granted : Bool}
    {answer : RecvAnswer} {answers : List (Bool × RecvAnswer)}
    {r : Outcome (Option Unit) × Receiving} (data : chunkOf connfd answer = some chunk)
    (rest : Received connfd (stream ++ chunk) answers r) :
    Received connfd stream ((granted, answer) :: answers) r := by
  cases rest with
  | going all holding =>
      refine .going (fun a member => ?_) ?_
      · rcases List.mem_cons.mp member with rfl | later
        · rw [data]
          exact Option.some_ne_none chunk
        · exact all a later
      · rwa [chunksOf_data data, List.flatten_cons, ← List.append_assoc]
  | ended member stop => exact .ended (List.mem_cons_of_mem _ member) stop

theorem receiveLoop_received (connfd : Int) {answers : List (Bool × RecvAnswer)}
    {stream : List UInt8} {s : Receiving} (grants : ∀ a ∈ answers, a.1 = true)
    (small : stream.length + (chunksOf connfd answers).flatten.length < 2 ^ 64 - 1 - 512)
    (holding : Holding stream s) (growing : Growing s) :
    Received connfd stream answers (receiveLoop connfd answers s) ∧
      Growing (receiveLoop connfd answers s).2 := by
  induction answers generalizing stream s with
  | nil =>
      refine ⟨.going (fun _ member => absurd member List.not_mem_nil) ?_, growing⟩
      rwa [chunksOf, List.flatten_nil, List.append_nil]
  | cons a answers ih =>
      obtain ⟨granted, answer⟩ := a
      obtain rfl : granted = true := grants _ List.mem_cons_self
      obtain ⟨s₁, holding, growing, room, managed⟩ :=
        receiveLoop_managed holding growing (by omega) connfd
      rw [managed]
      cases data : chunkOf connfd answer with
      | some chunk =>
          rw [chunksOf_data data, List.flatten_cons, List.length_append] at small
          obtain ⟨s₂, holding, growing, next⟩ :=
            receiveInto_data holding growing room (by omega) data
          rw [next]
          have left : (stream ++ chunk).length + (chunksOf connfd answers).flatten.length <
              2 ^ 64 - 1 - 512 := by
            rw [List.length_append]
            omega
          obtain ⟨received, growing⟩ :=
            ih (fun a later => grants a (List.mem_cons_of_mem _ later)) left holding growing
          exact ⟨received.cons data, growing⟩
      | none =>
          obtain ⟨s₂, growing, stopped⟩ := receiveInto_end holding growing room data
          rw [stopped]
          exact ⟨.ended List.mem_cons_self data, growing⟩

def beforeReceiving (h : Heap) : Receiving := ⟨h, none, 0, 0, []⟩

structure GrowsInBounds (connfd : Int) (granted : Bool) (answers : List (Bool × RecvAnswer))
    (r : Outcome (Option Unit) × Receiving) : Prop where
  fits : ∀ call ∈ r.2.recvs, call.chunkSize = 512 ∧ call.total + 512 ≤ call.bufferSize ∧
    call.bufferSize ≤ call.capacity
  grows : (sizes r.2).Pairwise (· ≤ ·)
  content : r.1 = .pending → Holding (chunksOf connfd answers).flatten r.2
  going : r.1 = .pending ↔ granted = true ∧ ∀ a ∈ answers, chunkOf connfd a.2 ≠ none
  ended : r.1 ≠ .pending → r.1 = .ret (if granted then some () else none)

theorem Received.inBounds {connfd : Int} {answers : List (Bool × RecvAnswer)}
    {r : Outcome (Option Unit) × Receiving} (received : Received connfd [] answers r)
    (growing : Growing r.2) : GrowsInBounds connfd true answers r where
  fits := growing.fits
  grows := (List.pairwise_append.mp growing.grows).1
  content waits := by
    cases received with
    | going data holding => exact holding
    | ended member stop => cases waits
  going := by
    cases received with
    | going data holding => exact iff_of_true rfl ⟨rfl, data⟩
    | ended member stop => exact iff_of_false (by simp) fun all => all.2 _ member stop
  ended stopped := by
    cases received with
    | going data holding => exact absurd rfl stopped
    | ended member stop => rfl

theorem receiveBytesWithDynamicBuffer_inBounds (connfd : Int) (granted : Bool)
    (answers : List (Bool × RecvAnswer)) (grants : ∀ a ∈ answers, a.1 = true)
    (small : (chunksOf connfd answers).flatten.length < 2 ^ 64 - 1 - 512) (h : Heap) :
    GrowsInBounds connfd granted answers
      (receiveBytesWithDynamicBuffer connfd granted answers (beforeReceiving h)) := by
  cases granted with
  | false =>
      have exits : receiveBytesWithDynamicBuffer connfd false answers (beforeReceiving h) =
          (.ret none, beforeReceiving h) := rfl
      rw [exits]
      exact ⟨fun _ member => absurd member List.not_mem_nil, List.pairwise_singleton _ _, by simp,
        by simp, fun _ => rfl⟩
  | true =>
      have starts : receiveBytesWithDynamicBuffer connfd true answers (beforeReceiving h) =
          receiveLoop connfd answers ⟨h.alloc (List.replicate serverInitialBufferSize 0),
            some h.next, serverInitialBufferSize, 0, []⟩ := rfl
      rw [starts]
      have holding : Holding [] ⟨h.alloc (List.replicate serverInitialBufferSize 0), some h.next,
          serverInitialBufferSize, 0, []⟩ :=
        ⟨rfl, h.next, _, rfl, Heap.blocks_alloc_next _ _, Nat.zero_le _,
          (List.length_replicate ..).ge, rfl⟩
      have growing : Growing ⟨h.alloc (List.replicate serverInitialBufferSize 0), some h.next,
          serverInitialBufferSize, 0, []⟩ :=
        ⟨fun _ member => absurd member List.not_mem_nil, by simp [sizes]⟩
      obtain ⟨received, growing⟩ := receiveLoop_received connfd grants (by
        rw [List.length_nil, Nat.zero_add]
        exact small) holding growing
      exact received.inBounds growing

def growingReads : List (Bool × RecvAnswer) :=
  [(true, .data (List.replicate 512 0x41)), (true, .data [0x42]), (true, .data [0x43, 0x44])]

theorem receiveBytesWithDynamicBuffer_holds :
    Holding (List.replicate 512 0x41 ++ [0x42, 0x43, 0x44])
      (receiveBytesWithDynamicBuffer 5 true growingReads (beforeReceiving Heap.empty)).2 ∧
    (receiveBytesWithDynamicBuffer 5 true growingReads (beforeReceiving Heap.empty)).2.bufferSize =
      1025 := by
  have inBounds := receiveBytesWithDynamicBuffer_inBounds 5 true growingReads (by decide)
    (by decide +kernel) Heap.empty
  refine ⟨?_, by decide +kernel⟩
  have chunks : (chunksOf 5 growingReads).flatten = List.replicate 512 0x41 ++ [0x42, 0x43, 0x44] := by
    decide +kernel
  rw [← chunks]
  exact inBounds.content (inBounds.going.mpr ⟨rfl, by decide +kernel⟩)

end Dpubsub.Proof
