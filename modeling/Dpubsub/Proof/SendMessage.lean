import Dpubsub.Proof.Requests

/-!
# `send_message`

The length that is passed on is the size of the pointer `msg`, and a `message_t` begins with the
pointer to its topic. What goes out is the value of that pointer.
-/

namespace Dpubsub.Proof
open Dpubsub.Lib Dpubsub.Model

structure Sending where
  memory : Memory
  msg : Nat
  sends : List Int
  before : World

namespace Sending
variable (s s' : Sending)

def run : Outcome Int × World := sendMessage .tcp s.memory s.msg s.sends s.before

def wire : List UInt8 := deliveredSince s.before s.run.2

def Taken : Prop := s.msg ≠ 0 ∧ 0 ≤ s.before.client.socket ∧ accepts sizeOfMsg s.sends = true

variable {s s'}

theorem sent (s : Sending) :
    Sent sizeOfMsg (sendLoop s.before.client.socket sizeOfMsg 0 s.sends) :=
  sendLoop_sent s.sends (Nat.zero_le _) (by decide)

theorem whole_iff (s : Sending) :
    (sendLoop s.before.client.socket sizeOfMsg 0 s.sends).2 = .ret 0 ↔
      0 ≤ s.before.client.socket ∧ accepts sizeOfMsg s.sends = true :=
  sendLoop_whole_iff s.sends (by decide) (by decide)

theorem run_begins (present : s.msg ≠ 0) (connected : 0 ≤ s.before.client.socket) : s.run =
    (reported (sendLoop s.before.client.socket sizeOfMsg 0 s.sends).2,
      sentBy s.before s.before.client.socket (fun i => s.memory (s.msg + i)) sizeOfMsg s.sends) := by
  have sent := s.sent
  rw [run, sendMessage, if_neg present]
  simp only [sendMessageTcp]
  rw [getClient_bind, if_neg present, if_neg (Int.not_lt.mpr connected)]
  rcases outcome : sendLoop s.before.client.socket sizeOfMsg 0 s.sends with ⟨calls, o⟩
  rw [outcome] at sent
  have result := onNet_sendBytesToServer (congrArg Prod.snd outcome)
    (fun i => s.memory (s.msg + i)) s.before
  cases sent with
  | whole _ all => exact Prog.bind_ret result
  | cut _ part => exact Prog.bind_ret result
  | waiting _ part => exact Prog.bind_pending result

theorem run_refuses (refused : ¬(s.msg ≠ 0 ∧ 0 ≤ s.before.client.socket)) :
    s.run = (.ret (-1), s.before) := by
  rw [run, sendMessage]
  by_cases present : s.msg = 0
  · rw [if_pos present]
    rfl
  · have closed : s.before.client.socket < 0 := by
      by_contra connected
      exact refused ⟨present, Int.not_lt.mp connected⟩
    rw [if_neg present]
    simp only [sendMessageTcp]
    rw [getClient_bind, if_neg present, if_pos closed]
    rfl

theorem succeeds_iff : s.run.1 = .ret 0 ↔ s.Taken := by
  by_cases begins : s.msg ≠ 0 ∧ 0 ≤ s.before.client.socket
  · rw [run_begins begins.1 begins.2, reported_zero_iff, whole_iff]
    exact ⟨fun whole => ⟨begins.1, whole⟩, And.right⟩
  · rw [run_refuses begins]
    exact iff_of_false (by simp) fun taken => begins ⟨taken.1, taken.2.1⟩

theorem Taken.wire_eq (taken : s.Taken) : s.wire = s.memory.read s.msg sizeOfMsg := by
  obtain ⟨present, connected, accepted⟩ := taken
  have all := s.sent.whole_iff.mp (s.whole_iff.mpr ⟨connected, accepted⟩)
  rw [wire, run_begins present connected, deliveredSince_sentBy _ _ _ _ (by decide), all]
  rfl

theorem wire_inj (taken : s.Taken) (taken' : s'.Taken) :
    s.wire = s'.wire ↔ s.memory.word s.msg = s'.memory.word s'.msg := by
  rw [taken.wire_eq, taken'.wire_eq]
  exact Memory.word_inj.symm

/-- One of the pointers of the message is on the wire. -/
def Discloses (s : Sending) : Prop :=
  ∃ field, (field = 0 ∨ field = 8) ∧ s.memory.read (s.msg + field) 8 <:+: s.wire

theorem Taken.discloses (taken : s.Taken) : s.Discloses := by
  refine ⟨0, Or.inl rfl, ?_⟩
  rw [taken.wire_eq]
  exact List.infix_rfl

end Sending

structure FollowsContent (s s' : Sending) : Prop where
  equal : ∀ m, MessageAt s.memory s.msg m → MessageAt s'.memory s'.msg m → s.wire = s'.wire
  differ : ∀ m m', MessageAt s.memory s.msg m → MessageAt s'.memory s'.msg m' →
    m.payload ≠ m'.payload → s.wire ≠ s'.wire

/-- The bytes on the wire follow the contents of the messages, and are none of their pointers. -/
structure ContentOnly (s s' : Sending) : Prop extends FollowsContent s s' where
  closed : ¬s.Discloses ∧ ¬s'.Discloses

theorem messageAt_unique {memory : Memory} {msg : Nat} {m m' : Message}
    (first : MessageAt memory msg m) (second : MessageAt memory msg m') : m = m' := by
  have topic := first.topic.unique second.topic
  have payload := first.payload.unique second.payload
  cases m
  cases m'
  rw [Message.mk.injEq]
  exact ⟨topic, payload, first.qos.symm.trans second.qos, first.retain.symm.trans second.retain⟩

theorem followsContent_iff {s s' : Sending} {m m' : Message} (taken : s.Taken) (taken' : s'.Taken)
    (first : MessageAt s.memory s.msg m) (second : MessageAt s'.memory s'.msg m') :
    FollowsContent s s' ↔
      (m = m' → s.memory.word s.msg = s'.memory.word s'.msg) ∧
      (m.payload ≠ m'.payload → s.memory.word s.msg ≠ s'.memory.word s'.msg) := by
  have pointers := Sending.wire_inj taken taken'
  constructor
  · intro follows
    refine ⟨?_, fun other => pointers.not.mp (follows.differ m m' first second other)⟩
    rintro rfl
    exact pointers.mp (follows.equal m first second)
  · rintro ⟨equal, differ⟩
    refine ⟨fun n here there => pointers.mpr (equal ?_), fun n n' here there other => ?_⟩
    · rw [messageAt_unique first here, messageAt_unique second there]
    · rw [← messageAt_unique first here, ← messageAt_unique second there] at other
      exact pointers.not.mpr (differ other)

theorem sendMessage_contentOnly_iff (s s' : Sending) :
    ((s.run.1 = .ret 0 → s'.run.1 = .ret 0 → ContentOnly s s') ↔ ¬(s.Taken ∧ s'.Taken)) ∧
    (s.Taken ∧ s'.Taken →
      (s.wire = s'.wire ↔ s.memory.word s.msg = s'.memory.word s'.msg) ∧
      ∀ m m', MessageAt s.memory s.msg m → MessageAt s'.memory s'.msg m' →
        (FollowsContent s s' ↔
          (m = m' → s.memory.word s.msg = s'.memory.word s'.msg) ∧
          (m.payload ≠ m'.payload → s.memory.word s.msg ≠ s'.memory.word s'.msg))) := by
  rw [Sending.succeeds_iff, Sending.succeeds_iff]
  refine ⟨⟨fun content => ?_, fun vain => ?_⟩, fun both => ⟨?_, fun m m' first second => ?_⟩⟩
  · rintro ⟨taken, taken'⟩
    exact (content taken taken').closed.1 taken.discloses
  · intro taken taken'
    exact absurd ⟨taken, taken'⟩ vain
  · exact Sending.wire_inj both.1 both.2
  · exact followsContent_iff both.1 both.2 first second

def messageBytes (topic payload : UInt8) : List UInt8 :=
  [topic, 0, 0, 0, 0, 0, 0, 0, payload] ++ List.replicate 15 0

def board : Memory := fun a =>
  (List.replicate 8 0 ++ messageBytes 80 84 ++ messageBytes 82 84 ++ messageBytes 80 86 ++
    [0x61, 0, 0x61, 0, 0x61, 0, 0x62, 0]).getD a 0

def sendingAt (msg : Nat) : Sending := ⟨board, msg, [8], connectedWorld⟩

def letterMessage (payload : CString) : Message := ⟨some (CString.letters 1), some payload, 0, 0⟩

def letterB : CString := ⟨[0x62], by decide⟩

theorem board_first : MessageAt board 8 (letterMessage (CString.letters 1)) :=
  ⟨⟨by decide, rfl⟩, ⟨by decide, rfl⟩, rfl, rfl⟩

theorem board_again : MessageAt board 32 (letterMessage (CString.letters 1)) :=
  ⟨⟨by decide, rfl⟩, ⟨by decide, rfl⟩, rfl, rfl⟩

theorem board_other : MessageAt board 56 (letterMessage letterB) :=
  ⟨⟨by decide, rfl⟩, ⟨by decide, rfl⟩, rfl, rfl⟩

theorem sendingAt_taken {msg : Nat} (present : msg ≠ 0) : (sendingAt msg).Taken := by
  have connected : (0 : Int) ≤ 3 := by decide
  have accepted : accepts 8 [8] = true := by decide
  exact ⟨present, connected, accepted⟩

theorem sendMessage_discloses :
    (∀ msg ∈ [8, 32, 56], (sendingAt msg).run.1 = .ret 0 ∧ (sendingAt msg).Discloses) ∧
    (∃ m, MessageAt board 8 m ∧ MessageAt board 32 m ∧
      (sendingAt 8).wire ≠ (sendingAt 32).wire) ∧
    (∃ m m', MessageAt board 8 m ∧ MessageAt board 56 m' ∧ m.payload ≠ m'.payload ∧
      (sendingAt 8).wire = (sendingAt 56).wire) ∧
    ¬ContentOnly (sendingAt 8) (sendingAt 32) ∧ ¬ContentOnly (sendingAt 8) (sendingAt 56) := by
  have leaks : ∀ msg', ¬ContentOnly (sendingAt 8) (sendingAt msg') := fun _ content =>
    content.closed.1 (sendingAt_taken (by decide)).discloses
  refine ⟨fun msg member => ?_, ?_, ?_, leaks 32, leaks 56⟩
  · have present : msg ≠ 0 := by
      rintro rfl
      simp at member
    have taken := sendingAt_taken present
    exact ⟨Sending.succeeds_iff.mpr taken, taken.discloses⟩
  · exact ⟨_, board_first, board_again, by decide⟩
  · exact ⟨_, _, board_first, board_other, by decide, by decide⟩

end Dpubsub.Proof
