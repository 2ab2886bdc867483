import Dpubsub.Proof.Connection
import Dpubsub.Proof.Created

/-!
# The capacity of the receive buffer
-/

namespace Dpubsub.Proof
open Dpubsub.Lib Dpubsub.Model

def RecvsFit (w : World) : Prop := ∀ r ∈ w.recvs, r.length ≤ r.capacity

/-- What the calls so far say about the buffer: the size set last, the block installed last and how
many bytes it holds. -/
structure Sizing where
  size : Nat
  block : Nat
  room : Nat

/-- `set_buffer` frees the block it replaces, so that installing a block twice in a row leaves
nothing of it. -/
def Sizing.note (capacity : Nat → Nat) : Call → Sizing → Sizing
  | .setBufferSize size, s => { s with size := size }
  | .setBuffer (some block), s =>
      { s with block := block, room := if block = s.block then 0 else capacity block }
  | _, s => s

section
variable {w : World}

def sized (w : World) : World :=
  { w with client := { w.client with bufferSize := bufferSizeOf w.client.bufferSize } }

def receiving (w : World) (block : Nat) : World :=
  { sized w with recvs := w.recvs ++ [⟨bufferSizeOf w.client.bufferSize, w.heap.capacity block⟩] }

theorem receivedBytes_length_le (fd : Int) (size : Nat) (answer : RecvAnswer) :
    (receiveBytesFromServerStaticBuff fd size answer).2.length ≤ size := by
  unfold receiveBytesFromServerStaticBuff recvResult
  by_cases failed : fd < 0
  · rw [if_pos failed]
    exact Nat.zero_le _
  · rw [if_neg failed]
    cases answer with
    | data bytes =>
        by_cases empty : bytes.take size = []
        · simp only [if_pos empty]
          exact Nat.zero_le _
        · simp only [if_neg empty, List.length_take]
          exact min_le_left _ _
    | closed => exact Nat.zero_le _
    | failed wouldBlock => exact Nat.zero_le _

def storeReceived (block : Nat) (answer : RecvAnswer) (w : World) : Prog World Int :=
  let received :=
    receiveBytesFromServerStaticBuff w.client.socket (bufferSizeOf w.client.bufferSize) answer
  if w.heap.capacity block < received.2.length then Prog.stuck
  else do
    Prog.modify fun w => { w with heap := w.heap.overwrite block received.2 }
    if received.1 < 0 then return -1
    else return received.1

def receiveSized (granted : Bool) (answer : RecvAnswer) : Prog World Int := do
  let client ← getClient
  Prog.when (client.buffer = none) do
    let buffer ← onHeap (malloc client.bufferSize granted)
    setClient ({ · with buffer := buffer })
  let w ← Prog.get
  match w.client.buffer with
  | none => return -1
  | some block =>
      Prog.modify fun w => { w with
        recvs := w.recvs ++ [⟨w.client.bufferSize, w.heap.capacity block⟩] }
      let (bytesReceived, bytes) :=
        receiveBytesFromServerStaticBuff w.client.socket w.client.bufferSize answer
      if w.heap.capacity block < bytes.length then Prog.stuck
      else do
        Prog.modify fun w => { w with heap := w.heap.overwrite block bytes }
        if bytesReceived < 0 then return -1
        else return bytesReceived

theorem receiveMessageTcp_eq (connected : 0 ≤ w.client.socket) (granted : Bool)
    (answer : RecvAnswer) :
    receiveMessageTcp granted answer w = receiveSized granted answer (sized w) := by
  have size : Prog.when (w.client.bufferSize = 0)
      (setClient ({ · with bufferSize := initialBufferSize })) w = (.ret (), sized w) := by
    unfold Prog.when sized bufferSizeOf
    split <;> rfl
  change (if w.client.socket < 0 then (return -1)
    else Prog.when (w.client.bufferSize = 0)
      (setClient ({ · with bufferSize := initialBufferSize })) >>= fun _ =>
        receiveSized granted answer : Prog World Int) w = _
  rw [if_neg (Int.not_lt.mpr connected), Prog.bind_ret size]

theorem receiveMessageTcp_reads {block : Nat} (connected : 0 ≤ w.client.socket)
    (buffer : w.client.buffer = some block) (granted : Bool) (answer : RecvAnswer) :
    receiveMessageTcp granted answer w = storeReceived block answer w (receiving w block) := by
  have allocated : Prog.when ((sized w).client.buffer = none) (do
      let buffer ← onHeap (malloc (sized w).client.bufferSize granted)
      setClient ({ · with buffer := buffer })) (sized w) = (.ret (), sized w) := by
    rw [Prog.when, if_neg]
    · rfl
    · change ¬w.client.buffer = none
      rw [buffer]
      exact Option.some_ne_none block
  rw [receiveMessageTcp_eq connected, receiveSized]
  change (Prog.when ((sized w).client.buffer = none) _ >>= _) (sized w) = _
  rw [Prog.bind_ret allocated]
  change (match w.client.buffer with
    | none => _
    | some block => _ : Prog World Int) (sized w) = _
  rw [buffer]
  rfl

theorem storeReceived_state (block : Nat) (answer : RecvAnswer) (w w' : World) :
    ∃ bytes, bytes.length ≤ bufferSizeOf w.client.bufferSize ∧
      (storeReceived block answer w w').2 = if w.heap.capacity block < bytes.length then w'
        else { w' with heap := w'.heap.overwrite block bytes } := by
  refine ⟨(receiveBytesFromServerStaticBuff w.client.socket (bufferSizeOf w.client.bufferSize)
    answer).2, receivedBytes_length_le .., ?_⟩
  unfold storeReceived
  split
  · rfl
  · rw [Prog.modify_bind, Prog.ite_apply]
    split <;> rfl

theorem receiveMessage_unread (protocol : Protocol) (granted : Bool) (answer : RecvAnswer)
    (unread : w.client.socket < 0 ∨ protocol = .unknown) :
    receiveMessage protocol granted answer w = (.ret (-1), w) := by
  change (if w.client.socket < 0 then (return -1) else _ : Prog World Int) w = _
  by_cases unconnected : w.client.socket < 0
  · rw [if_pos unconnected]
    rfl
  · obtain rfl := unread.resolve_left unconnected
    rw [if_neg unconnected]
    rfl

theorem receiveMessage_tcp (connected : 0 ≤ w.client.socket) (granted : Bool)
    (answer : RecvAnswer) :
    receiveMessage .tcp granted answer w = receiveMessageTcp granted answer w := by
  change (if w.client.socket < 0 then (return -1) else _ : Prog World Int) w = _
  rw [if_neg (Int.not_lt.mpr connected)]

theorem setBuffer_replaces {block : Nat} (buffer : w.client.buffer = some block)
    (live : w.heap.live block = true) (p : Ptr) : setBuffer p w = (.ret 0, { w with
      client := { w.client with buffer := p }
      heap := w.heap.release block }) := by
  have freed : Prog.when w.client.buffer.isSome (onHeap (free w.client.buffer)) w =
      (.ret (), { w with heap := w.heap.release block }) := by
    rw [buffer, Prog.when, if_pos (Option.isSome_some ..), onHeap_eq (free_live live)]
  change (Prog.when w.client.buffer.isSome (onHeap (free w.client.buffer)) >>= _) w = _
  rw [Prog.bind_ret freed]
  rfl

theorem setBuffer_stuck {block : Nat} (buffer : w.client.buffer = some block)
    (dead : w.heap.live block = false) (p : Ptr) : setBuffer p w = (.undefined, w) := by
  have freed : Prog.when w.client.buffer.isSome (onHeap (free w.client.buffer)) w =
      (.undefined, w) := by
    rw [buffer, Prog.when, if_pos (Option.isSome_some ..), onHeap_eq (free_dead dead)]
  change (Prog.when w.client.buffer.isSome (onHeap (free w.client.buffer)) >>= _) w = _
  rw [Prog.bind_undefined freed]

end

theorem bufferSizeOf_bufferSizeOf (size : Nat) :
    bufferSizeOf (bufferSizeOf size) = bufferSizeOf size := by
  unfold bufferSizeOf initialBufferSize
  split <;> simp_all

structure Sized (capacity : Nat → Nat) (x : World × Sizing) : Prop where
  fit : RecvsFit x.1
  block : x.1.client.buffer = some x.2.block
  room : x.2.room = x.1.heap.capacity x.2.block
  size : bufferSizeOf x.1.client.bufferSize = bufferSizeOf x.2.size
  capacities : ∀ a, x.1.heap.live a = true → x.1.heap.capacity a = capacity a

def UsesBuffer : Call → World → Prop
  | .setBuffer p, w => ∃ block, p = some block ∧ w.heap.live block = true
  | .setBufferSize _, _ | .connectClient .., _ | .receiveMessage .., _ => True
  | _, _ => False

def SizeFits : Call → World × Sizing → Prop
  | .receiveMessage .tcp _ _, (w, s) => 0 ≤ w.client.socket → bufferSizeOf s.size ≤ s.room
  | _, _ => True

section
variable {capacity : Nat → Nat} {w : World} {s : Sizing}

theorem Sized.setBuffer (sized : Sized capacity (w, s)) {block : Nat}
    (given : w.heap.live block = true) :
    Sized capacity (Prog.tracked Call.exec (Sizing.note capacity) (.setBuffer (some block))
      (w, s)).2 := by
  by_cases live : w.heap.live s.block = true
  · have replaced : Call.exec (.setBuffer (some block)) w = _ :=
      returning_ret (setBuffer_replaces sized.block live (some block))
    rw [Prog.tracked_ret replaced]
    refine ⟨sized.fit, rfl, ?_, sized.size, ?_⟩
    · change (if block = s.block then 0 else capacity block) =
        (w.heap.release s.block).capacity block
      rcases eq_or_ne block s.block with rfl | ne
      · rw [if_pos rfl, Heap.capacity_release_self]
      · rw [if_neg ne, Heap.capacity_release_of_ne _ ne, sized.capacities block given]
    · intro a still
      change (w.heap.release s.block).live a = true at still
      rw [Heap.live_release, Bool.and_eq_true, decide_eq_true_eq] at still
      change (w.heap.release s.block).capacity a = capacity a
      rw [Heap.capacity_release_of_ne _ still.1, sized.capacities a still.2]
  · have dead : w.heap.live s.block = false := Bool.not_eq_true _ ▸ live
    have stuck : Call.exec (.setBuffer (some block)) w = _ :=
      returning_undefined (setBuffer_stuck sized.block dead (some block))
    rw [Prog.tracked_undefined stuck]
    exact sized

theorem Sized.receives (sized : Sized capacity (w, s)) (connected : 0 ≤ w.client.socket)
    (fits : bufferSizeOf s.size ≤ s.room) (granted : Bool) (answer : RecvAnswer) :
    Sized capacity ((receiveMessage .tcp granted answer w).2, s) := by
  have room : bufferSizeOf w.client.bufferSize ≤ w.heap.capacity s.block := by
    rw [sized.size, ← sized.room]
    exact fits
  have fit : ∀ r ∈ w.recvs ++ [⟨bufferSizeOf w.client.bufferSize, w.heap.capacity s.block⟩],
      r.length ≤ r.capacity := by
    intro r member
    rcases List.mem_append.mp member with old | new
    · exact sized.fit r old
    · rw [List.mem_singleton.mp new]
      exact room
  have size : bufferSizeOf (bufferSizeOf w.client.bufferSize) = bufferSizeOf s.size :=
    (bufferSizeOf_bufferSizeOf _).trans sized.size
  obtain ⟨bytes, short, state⟩ := storeReceived_state s.block answer w (receiving w s.block)
  rw [receiveMessage_tcp connected, receiveMessageTcp_reads connected sized.block, state,
    if_neg (by omega)]
  have same : ∀ a, (w.heap.overwrite s.block bytes).capacity a = w.heap.capacity a :=
    fun a => Heap.capacity_overwrite _ _ _ (short.trans room)
  refine ⟨fit, sized.block, ?_, size, fun a live => ?_⟩
  · exact sized.room.trans (same s.block).symm
  · change (w.heap.overwrite s.block bytes).live a = true at live
    rw [Heap.live_overwrite] at live
    exact (same a).trans (sized.capacities a live)

theorem Sized.overruns (sized : Sized capacity (w, s)) (connected : 0 ≤ w.client.socket)
    (large : s.room < bufferSizeOf s.size) (granted : Bool) (answer : RecvAnswer) :
    ¬RecvsFit (receiveMessage .tcp granted answer w).2 := by
  obtain ⟨bytes, short, state⟩ := storeReceived_state s.block answer w (receiving w s.block)
  have logged : (receiveMessage .tcp granted answer w).2.recvs =
      w.recvs ++ [⟨bufferSizeOf w.client.bufferSize, w.heap.capacity s.block⟩] := by
    rw [receiveMessage_tcp connected, receiveMessageTcp_reads connected sized.block, state]
    split <;> rfl
  intro fit
  have last := fit ⟨bufferSizeOf w.client.bufferSize, w.heap.capacity s.block⟩ (by simp [logged])
  have size := sized.size
  have room := sized.room
  simp only at last size room
  omega

theorem Sized.step (c : Call) (x : World × Sizing) (uses : UsesBuffer c x.1)
    (sized : Sized capacity x) (fits : SizeFits c x) :
    Sized capacity (Prog.tracked Call.exec (Sizing.note capacity) c x).2 := by
  obtain ⟨w, s⟩ := x
  cases c with
  | setBuffer p =>
      obtain ⟨block, rfl, live⟩ := uses
      exact sized.setBuffer live
  | setBufferSize size => exact ⟨sized.fit, sized.block, sized.room, rfl, sized.capacities⟩
  | connectClient protocol a =>
      rw [Prog.tracked_idle rfl, Call.exec, returning_snd]
      obtain ⟨n, fd, state⟩ := connectClient_state protocol a w
      rw [state]
      exact ⟨sized.fit, sized.block, sized.room, sized.size, sized.capacities⟩
  | receiveMessage protocol granted answer =>
      rw [Prog.tracked_idle rfl, Call.exec, returning_snd]
      by_cases unread : w.client.socket < 0 ∨ protocol = .unknown
      · rw [receiveMessage_unread protocol granted answer unread]
        exact sized
      · push Not at unread
        cases protocol with
        | tcp => exact sized.receives unread.1 (fits unread.1) granted answer
        | unknown => exact absurd rfl unread.2
  | _ => exact uses.elim

theorem Sized.breaks (c : Call) (x : World × Sizing) (uses : UsesBuffer c x.1)
    (sized : Sized capacity x) (violated : ¬SizeFits c x) :
    ¬RecvsFit (Prog.tracked Call.exec (Sizing.note capacity) c x).2.1 := by
  obtain ⟨w, s⟩ := x
  cases c with
  | receiveMessage protocol granted answer =>
      rw [Prog.tracked_state, Call.exec, returning_snd]
      cases protocol with
      | tcp =>
          unfold SizeFits at violated
          push Not at violated
          exact sized.overruns violated.1 violated.2 granted answer
      | unknown => exact absurd trivial violated
  | setBuffer p => exact absurd trivial violated
  | setBufferSize size => exact absurd trivial violated
  | connectClient protocol a => exact absurd trivial violated
  | _ => exact uses.elim

end

def Sizing.initial (bufferSize : Nat) (w : World) : Sizing :=
  ⟨bufferSize, w.client.buffer.getD 0, bufferSizeOf bufferSize⟩

theorem created_sized {config : Config} {bufferSize : Nat} {before w : World}
    (created : Created config bufferSize before w) :
    Sized w.heap.capacity (w, Sizing.initial bufferSize w) := by
  obtain ⟨untouched, id, ip, rfl⟩ := created_cases created
  refine ⟨?_, rfl, ?_, bufferSizeOf_bufferSizeOf _, fun _ _ => rfl⟩
  · intro r member
    change r ∈ before.recvs at member
    rw [untouched.recvs] at member
    cases member
  · exact ((Heap.capacity_alloc_next _ _).trans (List.length_replicate ..)).symm

theorem recvsFit_iff (config : Config) (bufferSize : Nat) (before w : World)
    (created : Created config bufferSize before w) (calls : List Call)
    (use : Prog.Meets Call.exec UsesBuffer calls w) :
    Prog.Always Call.exec RecvsFit calls w ↔
      Prog.Meets (Prog.tracked Call.exec (Sizing.note w.heap.capacity)) SizeFits calls
        (w, Sizing.initial bufferSize w) := by
  rw [← Prog.safe_iff_meets (P := fun x => RecvsFit x.1) (created_sized created) (use.tracked _)
    (fun _ sized => sized.fit) Sized.step Sized.breaks]
  simp only [Prog.Always, Prog.run_tracked]

theorem recv_overruns : ¬Prog.Always Call.exec RecvsFit
    [.setBufferSize 4096, .connectClient .tcp connectsTo3, .receiveMessage .tcp true (.data [0x20])]
    sampleClient := by
  intro fit
  have last := fit _ (List.prefix_refl _)
  exact absurd last (by unfold RecvsFit; decide +kernel)

theorem recvsFit_smaller : Prog.Always Call.exec RecvsFit
    [.setBufferSize 100, .connectClient .tcp connectsTo3, .receiveMessage .tcp true (.data [0x20])]
    sampleClient :=
  (recvsFit_iff sampleConfig 256 sampleWorld sampleClient sampleClient_created
    [.setBufferSize 100, .connectClient .tcp connectsTo3, .receiveMessage .tcp true (.data [0x20])]
    ⟨trivial, fun _ _ => ⟨trivial, fun _ _ => ⟨trivial, fun _ _ => trivial⟩⟩⟩).mpr
    ⟨trivial, fun _ _ => ⟨trivial, fun _ _ => ⟨fun _ => by decide +kernel, fun _ _ => trivial⟩⟩⟩

end Dpubsub.Proof
