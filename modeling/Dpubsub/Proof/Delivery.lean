import Dpubsub.Model.TcpServer
import Dpubsub.Proof.SendLoop

/-!
# What the two send functions deliver
-/

namespace Dpubsub.Proof
open Dpubsub.Lib Dpubsub.Model

section
variable {fd : Int} {dataLen total : Nat} {answers : List Int}
  {result : List SendCall × Outcome Int}

theorem Sends.inside (sends : Sends fd dataLen total answers result) :
    ∀ c ∈ result.1, c.offset + c.requested = dataLen := by
  induction sends with
  | done answers => exact fun _ member => absurd member List.not_mem_nil
  | waits more => exact fun _ member => absurd member List.not_mem_nil
  | fails more error =>
      intro c member
      rw [List.mem_singleton] at member
      subst member
      exact Nat.add_sub_of_le more.le
  | takes more ok rest ih =>
      intro c member
      rcases List.mem_cons.mp member with rfl | later
      · exact Nat.add_sub_of_le more.le
      · exact ih c later

theorem Sends.failed_iff (sends : Sends fd dataLen total answers result) :
    (∃ c ∈ result.1, c.result = -1) ↔ result.2 = .ret (-1) := by
  induction sends with
  | done answers => simp
  | waits more => simp
  | fails more error => simp
  | @takes total answer answers r more ok rest ih =>
      rw [← ih, List.exists_mem_cons_iff]
      exact or_iff_right (by simp only; omega)

theorem Sends.few_calls (sends : Sends fd dataLen total answers result)
    (nonzero : ∀ answer ∈ answers, answer ≠ 0) : result.1.length ≤ dataLen - total := by
  induction sends with
  | done answers => exact Nat.zero_le _
  | waits more => exact Nat.zero_le _
  | fails more error => exact Nat.sub_pos_of_lt more
  | @takes total answer answers r more ok rest ih =>
      have some : answer ≠ 0 := nonzero answer List.mem_cons_self
      have fewer := ih fun a member => nonzero a (List.mem_cons_of_mem _ member)
      rw [List.length_cons]
      omega

theorem Sends.answered (sends : Sends fd dataLen total answers result) :
    List.Forall₂ (fun c answer => c.result = sendResult fd c.requested answer) result.1
      (answers.take result.1.length) := by
  induction sends with
  | done answers => exact .nil
  | waits more => exact .nil
  | fails more error => exact .cons (if_pos error).symm .nil
  | @takes total answer answers r more ok rest ih =>
      have result : ((min answer.toNat (dataLen - total) : Nat) : Int) =
          sendResult fd (dataLen - total) answer := by
        rw [sendResult, if_neg ok]
        omega
      exact .cons result ih

end

structure DeliversExactly (fd : Int) (answers : List Int) (t : Transfer) (o : Outcome Int) :
    Prop where
  answered : List.Forall₂ (fun c answer => c.result = sendResult fd c.requested answer) t.calls
    (answers.take t.calls.length)
  moments : ∀ calls, calls <+: t.calls → calls.flatMap (SendCall.taken t.data) <+: t.packet
  inside : ∀ c ∈ t.calls, c.offset + c.requested ≤ t.length
  whole : o = .ret 0 ↔ t.delivered = t.packet
  failed : o = .ret (-1) ↔ (∃ c ∈ t.calls, c.result = -1) ∧ t.delivered ≠ t.packet
  returns : o = .ret 0 ∨ o = .ret (-1) ∨ o = .pending
  ends : (∀ answer ∈ answers, answer ≠ 0) →
    t.calls.length ≤ t.length ∧ (t.length ≤ answers.length → o ≠ .pending)

theorem Sends.delivers {fd : Int} {length : Nat} {answers : List Int} {calls : List SendCall}
    {o : Outcome Int} (sends : Sends fd length 0 answers (calls, o)) (conn : Option Nat)
    (data : Nat → UInt8) : DeliversExactly fd answers ⟨conn, data, length, calls⟩ o := by
  have sent : Sent length (calls, o) := sends.sent
  have delivered : Transfer.delivered ⟨conn, data, length, calls⟩ =
      (List.range (acceptedBy calls)).map data := by
    rw [List.range_eq_range']
    exact sends.contiguous.delivers data
  have whole : o = .ret 0 ↔ Transfer.delivered ⟨conn, data, length, calls⟩ =
      Transfer.packet ⟨conn, data, length, calls⟩ := by
    rw [delivered, Transfer.packet, range_map_inj]
    exact sent.whole_iff
  refine ⟨sends.answered, fun pre shorter => ?_, fun c member => (sends.inside c member).le, whole,
    ?_, ?_, ?_⟩
  · have fewer : acceptedBy pre ≤ length := (acceptedBy_mono shorter).trans sent.atMost
    rw [(sends.contiguous.of_prefix shorter).delivers data, ← List.range_eq_range']
    exact range_map_prefix data fewer
  · rw [sends.failed_iff, ne_eq, ← whole]
    constructor
    · rintro rfl
      exact ⟨rfl, by simp⟩
    · exact And.left
  · cases sent with
    | whole _ _ => exact Or.inl rfl
    | cut _ _ => exact Or.inr (Or.inl rfl)
    | waiting _ _ => exact Or.inr (Or.inr rfl)
  · exact fun nonzero => ⟨sends.few_calls nonzero, fun enough => sends.returns nonzero enough⟩

/-- Whatever parts of the data the results of `send` take, the socket gets a prefix of it at every
moment, and the result tells whether that is all. -/
theorem sendBytesToServer_delivers (fd : Int) (data : Nat → UInt8) (length : Nat)
    (size : length < 2 ^ 64) (answers : List Int) (fits : ∀ answer ∈ answers, answer < 2 ^ 31)
    (n : Net) : ∃ t, (sendBytesToServer fd data length answers n).2.transfers = n.transfers ++ [t] ∧
      t.data = data ∧ t.length = length ∧
      DeliversExactly fd answers t (sendBytesToServer fd data length answers n).1 := by
  have sends : Sends fd length 0 answers (sendLoop fd length 0 answers) :=
    sendLoop_sends answers (Nat.zero_le length) size fun answer member => by
      have small := fits answer member
      omega
  exact ⟨_, rfl, rfl, rfl, sends.delivers (n.conns fd) data⟩

theorem sendBytesToServer_delivers_hello : ∃ t,
    (sendBytesToServer 3 (fun i => [0x68, 0x65, 0x6C, 0x6C, 0x6F].getD i 0) 5 [2, 0, 3]
      Net.empty).2.transfers = [t] ∧ t.length = 5 ∧ t.delivered = [0x68, 0x65, 0x6C, 0x6C, 0x6F] := by
  obtain ⟨t, sent, data, length, delivers⟩ := sendBytesToServer_delivers 3
    (fun i => [0x68, 0x65, 0x6C, 0x6C, 0x6F].getD i 0) 5 (by decide) [2, 0, 3] (by decide) Net.empty
  refine ⟨t, sent, length, ?_⟩
  rw [delivers.whole.mp (by decide +kernel), Transfer.packet, data, length]
  rfl

theorem flatMap_taken_length (data : Nat → UInt8) (calls : List SendCall) :
    (calls.flatMap (SendCall.taken data)).length = acceptedBy calls := by
  induction calls with
  | nil => rfl
  | cons call calls ih =>
      rw [List.flatMap_cons, List.length_append, ih, acceptedBy_cons, SendCall.taken,
        List.length_map, List.length_range']

theorem acceptedBy_pos_of_whole {fd : Int} {dataLen total : Nat} {answers : List Int}
    (more : total < dataLen) (size : dataLen < 2 ^ 64)
    (whole : (sendLoop fd dataLen total answers).2 = .ret 0) :
    0 < acceptedBy (sendLoop fd dataLen total answers).1 := by
  induction answers with
  | nil =>
      rw [sendLoop_waits more] at whole
      cases whole
  | cons answer answers ih =>
      by_cases none : sendResult fd (dataLen - total) answer = 0
      · -- nothing was taken, so the loop goes on from where it was
        rw [sendLoop_idles more (more.trans size) none] at whole ⊢
        rw [acceptedBy_cons]
        exact Nat.add_pos_right _ (ih whole)
      by_cases error : fd < 0 ∨ answer < 0
      · rw [sendLoop_fails more error] at whole
        cases whole
      · have some : 0 < sendResult fd (dataLen - total) answer := by
          unfold sendResult at none ⊢
          rw [if_neg error] at none ⊢
          omega
        unfold sendLoop at whole ⊢
        rw [if_pos more] at whole ⊢
        simp only at whole ⊢
        split at whole
        · cases whole
        · rw [if_neg ‹_›, acceptedBy_cons]
          simp only
          omega

def acceptedBytes (m : Prog Net Int) (n : Net) : List UInt8 :=
  ((m n).2.transfers.drop n.transfers.length).flatMap Transfer.delivered

theorem acceptedBytes_transfer {m : Prog Net Int} {n : Net} {fd : Int} {data : Nat → UInt8}
    {length : Nat} {calls : List SendCall} (after : (m n).2 = n.transfer fd data length calls) :
    acceptedBytes m n = calls.flatMap (SendCall.taken data) := by
  rw [acceptedBytes, after, Net.transfer, List.drop_left, List.flatMap_singleton]
  rfl

structure SendsAlike (fd : Int) (data : Nat → UInt8) (length : Nat) (answers : List Int)
    (n : Net) : Prop where
  accepted : acceptedBytes (sendBytesToClient fd data length answers) n =
    acceptedBytes (sendBytesToServer fd data length answers) n
  outcome : (sendBytesToClient fd data length answers n).1 =
    (sendBytesToServer fd data length answers n).1
  whole : (sendBytesToClient fd data length answers n).1 = .ret 0 →
    acceptedBytes (sendBytesToClient fd data length answers) n = (List.range length).map data

section
variable {fd : Int} {length : Nat} {answer : Int} {answers : List Int} {n : Net}

theorem sendBytesToServer_accepted (data : Nat → UInt8) :
    acceptedBytes (sendBytesToServer fd data length answers) n =
      (sendLoop fd length 0 answers).1.flatMap (SendCall.taken data) :=
  acceptedBytes_transfer rfl

theorem sendBytesToClient_accepted (data : Nat → UInt8) :
    acceptedBytes (sendBytesToClient fd data length (answer :: answers)) n =
      (List.range (sendResult fd length answer).toNat).map data := by
  rw [List.range_eq_range']
  exact (acceptedBytes_transfer rfl).trans (List.flatMap_singleton _ _)

theorem sendResult_whole_iff (some : length ≠ 0) :
    (sendResult fd length answer).toNat = length ↔ 0 ≤ fd ∧ (length : Int) ≤ answer := by
  unfold sendResult
  split <;> omega

theorem sendLoop_all (some : length ≠ 0) (bound : length < 2 ^ 31) (connected : 0 ≤ fd)
    (enough : (length : Int) ≤ answer) :
    sendLoop fd length 0 (answer :: answers) = ([⟨0, length, length⟩], .ret 0) := by
  have all : min answer.toNat (length - 0) = length := by omega
  rw [sendLoop_takes (by omega) (by omega) (by omega) (by omega), all,
    sendLoop_done (by omega), Nat.sub_zero]

theorem sendLoop_large (bound : 2 ^ 31 ≤ length) (size : length < 2 ^ 64)
    (taken : sendResult fd length answer = length)
    (whole : (sendLoop fd length 0 (answer :: answers)).2 = .ret 0) :
    length < acceptedBy (sendLoop fd length 0 (answer :: answers)).1 := by
  unfold sendLoop at whole ⊢
  rw [if_pos (by omega)] at whole ⊢
  simp only [Nat.sub_zero, taken, Nat.zero_add] at whole ⊢
  split at whole
  · cases whole
  · rename_i counted
    have less : intOf (length : Int) < 2 ^ 31 := by
      unfold intOf
      exact Int.bmod_lt (by decide)
    have short : sizeT (sizeOfInt (intOf (length : Int))) < length := by
      unfold sizeT sizeOfInt
      omega
    have again := acceptedBy_pos_of_whole short size whole
    rw [if_neg counted, acceptedBy_cons]
    simp only
    omega

end

/-- The two sides agree exactly when the first `send` takes the whole block, and it is one that the
client can count. -/
theorem sendsAlike_iff (fd : Int) (data : Nat → UInt8) (length : Nat) (size : length < 2 ^ 64)
    (answer : Int) (answers : List Int) (n : Net) :
    SendsAlike fd data length (answer :: answers) n ↔
      length = 0 ∨ 0 ≤ fd ∧ length < 2 ^ 31 ∧ (length : Int) ≤ answer := by
  constructor
  · intro alike
    by_cases empty : length = 0
    · exact Or.inl empty
    refine Or.inr ?_
    have all := alike.whole rfl
    rw [sendBytesToClient_accepted, range_map_inj] at all
    obtain ⟨connected, enough⟩ := (sendResult_whole_iff empty).mp all
    refine ⟨connected, ?_, enough⟩
    by_contra large
    have accepted := congrArg List.length alike.accepted
    rw [sendBytesToClient_accepted, sendBytesToServer_accepted, flatMap_taken_length,
      List.length_map, List.length_range, all] at accepted
    have more := sendLoop_large (Nat.not_lt.mp large) size (by omega) alike.outcome.symm
    exact more.ne accepted
  · intro condition
    by_cases empty : length = 0
    · subst empty
      have none : (sendResult fd 0 answer).toNat = 0 := by
        unfold sendResult
        split <;> omega
      have loop : sendLoop fd 0 0 (answer :: answers) = ([], .ret 0) := sendLoop_done le_rfl
      refine ⟨?_, (congrArg Prod.snd loop).symm, fun _ => ?_⟩
      · rw [sendBytesToClient_accepted, sendBytesToServer_accepted, loop, none]
        rfl
      · rw [sendBytesToClient_accepted, none]
    · obtain ⟨connected, bound, enough⟩ := condition.resolve_left empty
      have all := (sendResult_whole_iff empty).mpr ⟨connected, enough⟩
      have loop : sendLoop fd length 0 (answer :: answers) = ([⟨0, length, length⟩], .ret 0) :=
        sendLoop_all empty bound connected enough
      refine ⟨?_, (congrArg Prod.snd loop).symm, fun _ => ?_⟩
      · rw [sendBytesToClient_accepted, sendBytesToServer_accepted, loop, all, List.range_eq_range']
        exact (List.flatMap_singleton _ _).symm
      · rw [sendBytesToClient_accepted, all]

theorem sendsAlike_hello :
    SendsAlike 3 (fun i => [0x68, 0x65, 0x6C, 0x6C, 0x6F].getD i 0) 5 [5] Net.empty :=
  (sendsAlike_iff 3 _ 5 (by decide) 5 [] Net.empty).mpr
    (Or.inr ⟨by decide, by decide, by decide⟩)

theorem not_sendsAlike_hello :
    ¬SendsAlike 3 (fun i => [0x68, 0x65, 0x6C, 0x6C, 0x6F].getD i 0) 5 [3, 2] Net.empty := by
  intro alike
  have all := alike.whole rfl
  rw [sendBytesToClient_accepted] at all
  exact absurd all (by decide +kernel)

end Dpubsub.Proof
