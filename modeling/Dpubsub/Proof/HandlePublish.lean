import Dpubsub.Model.HandlePublish
import Dpubsub.Spec.Mqtt

/-!
# One read of `handle_publish`

`InOrder` says when the lengths in a received PUBLISH agree with each other and with the number of
bytes received. The decoder then takes out topic and payload, and in every other case it leaves
its arrays.
-/

namespace Dpubsub.Proof
open Dpubsub.Lib Dpubsub.Model

def AccessOk (received : Nat) : Access → Prop
  | .read i => i < received
  | .store _ i => i < 256
  | .subtract a b => b ≤ a

def withAccesses (r : Receiver) (accesses : List Access) : Receiver :=
  { r with accesses := r.accesses ++ accesses }

def Fetches {α : Type} (received : Nat) (m : Prog Receiver α) (a : α) : Prop :=
  ∀ r, ∃ accesses, (∀ access ∈ accesses, AccessOk received access) ∧
    m r = (.ret a, withAccesses r accesses)

def Faults {α : Type} (received : Nat) (m : Prog Receiver α) : Prop :=
  ∀ r, (m r).1 = .undefined ∧ ∃ access ∈ (m r).2.accesses, ¬AccessOk received access

section Rules
variable {α β : Type} {received : Nat} {m : Prog Receiver α} {f : α → Prog Receiver β} {a : α}
  {b : β}

theorem Fetches.pure (a : α) : Fetches received (pure a) a :=
  fun r => ⟨[], by simp, by simp [withAccesses]⟩

theorem Fetches.bind (first : Fetches received m a) (next : Fetches received (f a) b) :
    Fetches received (m >>= f) b := by
  intro r
  obtain ⟨xs, xsOk, hm⟩ := first r
  obtain ⟨ys, ysOk, hf⟩ := next (withAccesses r xs)
  refine ⟨xs ++ ys, ?_, ?_⟩
  · intro access member
    exact (List.mem_append.mp member).elim (xsOk access) (ysOk access)
  · rw [Prog.bind_ret hm, hf]
    simp [withAccesses]

theorem Faults.bind (h : Faults received m) : Faults received (m >>= f) := by
  intro r
  have here := h r
  rcases hm : m r with ⟨o, s⟩
  rw [hm] at here
  obtain ⟨rfl, bad⟩ := here
  rw [Prog.bind_undefined hm]
  exact ⟨rfl, bad⟩

theorem Faults.after (first : Fetches received m a) (h : Faults received (f a)) :
    Faults received (m >>= f) := by
  intro r
  obtain ⟨xs, -, hm⟩ := first r
  rw [Prog.bind_ret hm]
  exact h _

end Rules

def byteAt (buffer : List UInt8) (i : Nat) : UInt8 := buffer.getD i 0

section Arrays
variable {buffer : List UInt8} {array : LocalArray} {source i count received : Nat}

theorem readBuffer_fetches (h : i < buffer.length) :
    Fetches buffer.length (readBuffer buffer i) (byteAt buffer i) := by
  intro r
  refine ⟨[.read i], by simpa [AccessOk] using h, ?_⟩
  simp [readBuffer, logAccess, withAccesses, byteAt, h]

theorem readBuffer_faults (h : buffer.length ≤ i) : Faults buffer.length (readBuffer buffer i) := by
  intro r
  have none : buffer[i]? = none := List.getElem?_eq_none h
  simp only [readBuffer, logAccess, Prog.modify_bind, none, Prog.stuck_apply, true_and]
  exact ⟨.read i, by simp, by simp [AccessOk, h]⟩

theorem storeLocal_fetches (h : i < 256) : Fetches received (storeLocal array i) () := by
  intro r
  refine ⟨[.store array i], by simpa [AccessOk] using h, ?_⟩
  simp [storeLocal, logAccess, withAccesses, h]

theorem storeLocal_faults (h : 256 ≤ i) : Faults received (storeLocal array i) := by
  intro r
  have beyond : ¬i < 256 := by omega
  simp only [storeLocal, logAccess, Prog.modify_bind, if_neg beyond, Prog.stuck_apply, true_and]
  exact ⟨.store array i, by simp, by simp [AccessOk, h]⟩

theorem subtract_fetches {a b : Nat} (h : b ≤ a) :
    Fetches received (logAccess (.subtract a b)) () := by
  intro r
  exact ⟨[.subtract a b], by simpa [AccessOk] using h, rfl⟩

theorem Faults.logged {α : Type} {access : Access} {f : Unit → Prog Receiver α}
    (h : Faults received (f ())) : Faults received (logAccess access >>= f) := fun _ => h _

theorem copyLocal_fetches (inside : source + i + count ≤ buffer.length) (room : i + count ≤ 256) :
    Fetches buffer.length (copyLocal array buffer source i count)
      ((buffer.drop (source + i)).take count) := by
  induction count generalizing i with
  | zero => exact Fetches.pure []
  | succ count ih =>
      have here : source + i < buffer.length := by omega
      have value : (buffer.drop (source + i)).take (count + 1) =
          byteAt buffer (source + i) :: (buffer.drop (source + (i + 1))).take count := by
        rw [List.drop_eq_getElem_cons here]
        simp [byteAt, here, Nat.add_assoc]
      rw [copyLocal, value]
      exact (readBuffer_fetches here).bind ((storeLocal_fetches (by omega)).bind
        ((ih (by omega) (by omega)).bind (Fetches.pure _)))

theorem copyLocal_faults (bad : buffer.length < source + i + count ∨ 256 < i + count)
    (some : 0 < count) : Faults buffer.length (copyLocal array buffer source i count) := by
  induction count generalizing i with
  | zero => omega
  | succ count ih =>
      rw [copyLocal]
      by_cases here : source + i < buffer.length
      · refine Faults.after (readBuffer_fetches here) ?_
        by_cases room : i < 256
        · exact Faults.after (storeLocal_fetches room) (ih (by omega) (by omega)).bind
        · exact (storeLocal_faults (by omega)).bind
      · exact (readBuffer_faults (by omega)).bind

end Arrays

def IsPublish (buffer : List UInt8) : Prop := (byteAt buffer 0).toNat / 16 = 3

def qosOf (buffer : List UInt8) : Nat := (byteAt buffer 0).toNat / 2 % 4

def topicLengthOf (buffer : List UInt8) : Nat := shortOf (byteAt buffer 2) (byteAt buffer 3)

def idLengthOf (buffer : List UInt8) : Nat := if qosOf buffer > 0 then 2 else 0

def payloadStartOf (buffer : List UInt8) : Nat := 4 + topicLengthOf buffer + idLengthOf buffer

/-- The packet ends within the received bytes, and what precedes the payload ends within the
packet. -/
structure InOrder (buffer : List UInt8) : Prop where
  header : 4 ≤ buffer.length
  payload : payloadStartOf buffer ≤ (byteAt buffer 1).toNat + 2
  whole : (byteAt buffer 1).toNat + 2 ≤ buffer.length

def messageIdOf (buffer : List UInt8) : Nat :=
  if qosOf buffer > 0 then
    shortOf (byteAt buffer (4 + topicLengthOf buffer)) (byteAt buffer (4 + topicLengthOf buffer + 1))
  else 0

def topicOf (buffer : List UInt8) : List UInt8 := (buffer.drop 4).take (topicLengthOf buffer)

def payloadOf (buffer : List UInt8) : List UInt8 :=
  (buffer.drop (payloadStartOf buffer)).take ((byteAt buffer 1).toNat + 2 - payloadStartOf buffer)

def decodedOf (buffer : List UInt8) : Decoded :=
  ⟨qosOf buffer, messageIdOf buffer, topicOf buffer, payloadOf buffer⟩

variable {buffer : List UInt8}

theorem idLengthOf_le : idLengthOf buffer ≤ 2 := by
  unfold idLengthOf
  split <;> omega

theorem qos_bits (flags : UInt8) :
    ((promote flags &&& 0x06).sshiftRight 1).toNat = flags.toNat / 2 % 4 := by
  obtain ⟨bits⟩ := flags
  revert bits
  decide +kernel

theorem readMessageId_fetches (h : payloadStartOf buffer ≤ buffer.length) :
    Fetches buffer.length (readMessageId buffer (qosOf buffer) (4 + topicLengthOf buffer))
      (messageIdOf buffer, payloadStartOf buffer) := by
  unfold readMessageId messageIdOf
  unfold payloadStartOf idLengthOf at h ⊢
  by_cases positive : qosOf buffer > 0
  · simp only [if_pos positive] at h ⊢
    exact (readBuffer_fetches (by omega)).bind ((readBuffer_fetches (by omega)).bind (Fetches.pure _))
  · simp only [if_neg positive]
    exact Fetches.pure _

theorem readMessageId_faults (start : 4 + topicLengthOf buffer ≤ buffer.length)
    (h : buffer.length < payloadStartOf buffer) :
    Faults buffer.length (readMessageId buffer (qosOf buffer) (4 + topicLengthOf buffer)) := by
  unfold readMessageId
  unfold payloadStartOf idLengthOf at h
  by_cases positive : qosOf buffer > 0
  · rw [if_pos positive] at h ⊢
    by_cases first : 4 + topicLengthOf buffer < buffer.length
    · exact Faults.after (readBuffer_fetches first) (readBuffer_faults (by omega)).bind
    · exact (readBuffer_faults (by omega)).bind
  · rw [if_neg positive] at h
    omega

theorem decodePublish_ignores (some : buffer ≠ []) (other : ¬IsPublish buffer) :
    Fetches buffer.length (decodePublish buffer) none := by
  have first : 0 < buffer.length := List.length_pos_iff.mpr some
  have type : (promote (byteAt buffer 0)).sshiftRight 4 ≠ 3 := by
    rw [ne_eq, promote_sshiftRight]
    exact other
  refine (readBuffer_fetches first).bind ?_
  rw [if_pos type]
  exact Fetches.pure none

theorem qosOf_eq : ((promote (byteAt buffer 0) &&& 0x06).sshiftRight 1).toNat = qosOf buffer :=
  qos_bits _

theorem topicLengthOf_eq : shortOf (byteAt buffer 2) (byteAt buffer 3) = topicLengthOf buffer := rfl

theorem decodeFields_fetches (order : InOrder buffer) :
    Fetches buffer.length (decodeFields buffer) (decodedOf buffer) := by
  have header := order.header
  have payload := order.payload
  have whole := order.whole
  have small := (byteAt buffer 1).toNat_lt
  have start : payloadStartOf buffer = 4 + topicLengthOf buffer + idLengthOf buffer := rfl
  have payloadLength : sizeSub (byteAt buffer 1).toNat (payloadStartOf buffer - 2) =
      (byteAt buffer 1).toNat + 2 - payloadStartOf buffer := by
    rw [sizeSub_of_le (by omega) (by omega)]
    omega
  unfold decodeFields
  refine (readBuffer_fetches (by omega)).bind ((readBuffer_fetches (by omega)).bind ?_)
  refine (readBuffer_fetches (by omega)).bind ((readBuffer_fetches (by omega)).bind ?_)
  simp only [qosOf_eq, topicLengthOf_eq]
  refine (copyLocal_fetches (by omega) (by omega)).bind ?_
  refine (storeLocal_fetches (by omega)).bind ((readMessageId_fetches (by omega)).bind ?_)
  refine (subtract_fetches (by omega)).bind ?_
  simp only [payloadLength]
  refine (copyLocal_fetches (by omega) (by omega)).bind ?_
  exact (storeLocal_fetches (by omega)).bind (Fetches.pure _)

theorem decodeFields_faults (bad : ¬InOrder buffer) :
    Faults buffer.length (decodeFields buffer) := by
  have small := (byteAt buffer 1).toNat_lt
  have start : payloadStartOf buffer = 4 + topicLengthOf buffer + idLengthOf buffer := rfl
  unfold decodeFields
  by_cases header : 4 ≤ buffer.length
  · refine Faults.after (readBuffer_fetches (by omega)) ?_
    refine Faults.after (readBuffer_fetches (by omega)) ?_
    refine Faults.after (readBuffer_fetches (by omega)) ?_
    refine Faults.after (readBuffer_fetches (by omega)) ?_
    simp only [qosOf_eq, topicLengthOf_eq]
    by_cases topic : 4 + topicLengthOf buffer ≤ buffer.length ∧ topicLengthOf buffer ≤ 256
    · refine Faults.after (copyLocal_fetches (by omega) (by omega)) ?_
      by_cases terminator : topicLengthOf buffer < 256
      · refine Faults.after (storeLocal_fetches terminator) ?_
        by_cases id : payloadStartOf buffer ≤ buffer.length
        · refine Faults.after (readMessageId_fetches id) (Faults.logged ?_)
          have outside : buffer.length < payloadStartOf buffer + 0 +
                sizeSub (byteAt buffer 1).toNat (payloadStartOf buffer - 2) ∨
              256 < 0 + sizeSub (byteAt buffer 1).toNat (payloadStartOf buffer - 2) := by
            by_cases wraps : (byteAt buffer 1).toNat < payloadStartOf buffer - 2
            · have atMostTwo : idLengthOf buffer ≤ 2 := idLengthOf_le
              right
              unfold sizeSub
              omega
            · left
              rw [sizeSub_of_le (by omega) (by omega)]
              by_contra inside
              exact bad ⟨header, by omega, by omega⟩
          dsimp only
          exact (copyLocal_faults outside (by omega)).bind
        · exact (readMessageId_faults topic.1 (by omega)).bind
      · exact (storeLocal_faults (by omega)).bind
    · exact (copyLocal_faults (by omega) (by omega)).bind
  · by_cases one : 1 < buffer.length
    · refine Faults.after (readBuffer_fetches one) (Faults.after (readBuffer_fetches (by omega)) ?_)
      by_cases two : 2 < buffer.length
      · exact Faults.after (readBuffer_fetches two) (readBuffer_faults (by omega)).bind
      · exact (readBuffer_faults (by omega)).bind
    · exact (readBuffer_faults (by omega)).bind

theorem decodePublish_fetches (publish : IsPublish buffer) (order : InOrder buffer) :
    Fetches buffer.length (decodePublish buffer) (some (decodedOf buffer)) := by
  have header := order.header
  have type : ¬(promote (byteAt buffer 0)).sshiftRight 4 ≠ 3 := by
    rw [ne_eq, promote_sshiftRight, not_not]
    exact publish
  refine (readBuffer_fetches (by omega)).bind ?_
  rw [if_neg type]
  exact (decodeFields_fetches order).bind (Fetches.pure _)

theorem decodePublish_faults (some : buffer ≠ []) (publish : IsPublish buffer)
    (bad : ¬InOrder buffer) : Faults buffer.length (decodePublish buffer) := by
  have first : 0 < buffer.length := List.length_pos_iff.mpr some
  have type : ¬(promote (byteAt buffer 0)).sshiftRight 4 ≠ 3 := by
    rw [ne_eq, promote_sshiftRight, not_not]
    exact publish
  refine Faults.after (readBuffer_fetches first) ?_
  rw [if_neg type]
  exact (decodeFields_faults bad).bind

theorem receive_data {fd : Int} (connected : 0 ≤ fd) (nonempty : buffer ≠ [])
    (fits : buffer.length ≤ 512) : receiveBytesFromServerStaticBuff fd 512 (.data buffer) =
      ((buffer.length : Int), buffer) := by
  have open_ : ¬fd < 0 := by omega
  have whole : buffer.take 512 = buffer := List.take_of_length_le fits
  simp only [receiveBytesFromServerStaticBuff, recvResult, if_neg open_, whole, if_neg nonempty]
  rw [intOfSize_of_lt (by omega)]

theorem handlePublish_data {fd : Int} (connected : 0 ≤ fd) (nonempty : buffer ≠ [])
    (fits : buffer.length ≤ 512) (sends : List Int) :
    handlePublish fd (.data buffer) sends =
      (decodePublish buffer >>= fun decoded =>
        match decoded with
        | none => pure 0
        | some message => answerPublish fd message sends) := by
  have positive : 0 < buffer.length := List.length_pos_iff.mpr nonempty
  have notZero : ¬(buffer.length : Int) = 0 := by omega
  have notNegative : ¬(buffer.length : Int) < 0 := by omega
  rw [handlePublish, receive_data connected nonempty fits]
  exact (if_neg notZero).trans (if_neg notNegative)

def shownBy (r : Receiver) (message : Decoded) : Receiver :=
  { r with shown := r.shown ++ [(message.topic, message.payload)] }

theorem answerPublish_silent {message : Decoded} (other : message.qos ≠ 1) (fd : Int)
    (sends : List Int) (r : Receiver) :
    answerPublish fd message sends r = (.ret 0, shownBy r message) := by
  rw [answerPublish, showMessage, Prog.modify_bind, if_neg other]
  rfl

def pubackByte (message : Decoded) (i : Nat) : UInt8 := (pubackPacket message.messageId).getD i 0

def acknowledgedBy (r : Receiver) (fd : Int) (message : Decoded) (sends : List Int) : Receiver :=
  { r with net := r.net.transfer fd (pubackByte message) 4 (sendLoop fd 4 0 sends).1 }

theorem answerPublish_acknowledges {message : Decoded} (once : message.qos = 1) (fd : Int)
    (sends : List Int) (r : Receiver) :
    answerPublish fd message sends r = ((sendLoop fd 4 0 sends).2.map fun _ => 0,
      acknowledgedBy (shownBy r message) fd message sends) := by
  rw [answerPublish, showMessage, Prog.modify_bind, if_pos once]
  rcases outcome : sendLoop fd 4 0 sends with ⟨calls, result⟩
  have sent : Prog.zoom Receiver.net (fun r n => { r with net := n })
      (sendBytesToServer fd (pubackByte message) 4 sends)
      (shownBy r message) = (result, acknowledgedBy (shownBy r message) fd message sends) := by
    simp only [Prog.zoom, sendBytesToServer, acknowledgedBy, outcome, shownBy]
  cases result with
  | ret value => exact Prog.bind_ret sent
  | pending => exact Prog.bind_pending sent
  | undefined => exact Prog.bind_undefined sent

theorem answerPublish_accesses (fd : Int) (message : Decoded) (sends : List Int) (r : Receiver) :
    (answerPublish fd message sends r).2.accesses = r.accesses := by
  by_cases once : message.qos = 1
  · rw [answerPublish_acknowledges once]
    rfl
  · rw [answerPublish_silent once]
    rfl

theorem handlePublish_ignores {fd : Int} (connected : 0 ≤ fd) (nonempty : buffer ≠ [])
    (fits : buffer.length ≤ 512) (sends : List Int) (other : ¬IsPublish buffer) :
    Fetches buffer.length (handlePublish fd (.data buffer) sends) 0 := by
  rw [handlePublish_data connected nonempty fits]
  exact (decodePublish_ignores nonempty other).bind (Fetches.pure 0)

theorem handlePublish_faults {fd : Int} (connected : 0 ≤ fd) (nonempty : buffer ≠ [])
    (fits : buffer.length ≤ 512) (sends : List Int) (publish : IsPublish buffer)
    (bad : ¬InOrder buffer) : Faults buffer.length (handlePublish fd (.data buffer) sends) := by
  rw [handlePublish_data connected nonempty fits]
  exact (decodePublish_faults nonempty publish bad).bind

theorem handlePublish_shows {fd : Int} (connected : 0 ≤ fd) (fits : buffer.length ≤ 512)
    (sends : List Int) (publish : IsPublish buffer) (order : InOrder buffer) (r : Receiver) :
    ∃ accesses, (∀ access ∈ accesses, AccessOk buffer.length access) ∧
      handlePublish fd (.data buffer) sends r =
        answerPublish fd (decodedOf buffer) sends (withAccesses r accesses) := by
  have nonempty : buffer ≠ [] := by
    have := order.header
    rintro rfl
    simp at this
  obtain ⟨accesses, ok, decoded⟩ := decodePublish_fetches publish order r
  refine ⟨accesses, ok, ?_⟩
  rw [handlePublish_data connected nonempty fits, Prog.bind_ret decoded]

structure SafeAccesses (received : Nat) (accesses : List Access) : Prop where
  read_lt : ∀ i, .read i ∈ accesses → i < received
  store_lt : ∀ array i, .store array i ∈ accesses → i < 256
  noWrap : ∀ a b, .subtract a b ∈ accesses → b ≤ a

theorem safeAccesses_iff (received : Nat) (accesses : List Access) :
    SafeAccesses received accesses ↔ ∀ access ∈ accesses, AccessOk received access := by
  constructor
  · intro safe access member
    cases access with
    | read i => exact safe.read_lt i member
    | store array i => exact safe.store_lt array i member
    | subtract a b => exact safe.noWrap a b member
  · intro ok
    exact ⟨fun _ member => ok _ member, fun _ _ member => ok _ member,
      fun _ _ member => ok _ member⟩

theorem inOrder_iff : InOrder buffer ↔
    4 ≤ buffer.length ∧ byteAt buffer 2 = 0 ∧ (byteAt buffer 3).toNat < 128 ∧
      2 + (byteAt buffer 3).toNat + idLengthOf buffer ≤ (byteAt buffer 1).toNat ∧
      (byteAt buffer 1).toNat + 2 ≤ buffer.length := by
  have small := (byteAt buffer 1).toNat_lt
  have start : payloadStartOf buffer = 4 + topicLengthOf buffer + idLengthOf buffer := rfl
  constructor
  · rintro ⟨header, payload, whole⟩
    have low : (byteAt buffer 3).toNat < 128 := by
      by_contra high
      have huge : topicLengthOf buffer = 0xFF00 + (byteAt buffer 3).toNat :=
        shortOf_of_ge (Nat.le_of_not_lt high)
      omega
    have topic : topicLengthOf buffer = (byteAt buffer 2).toNat * 256 + (byteAt buffer 3).toNat :=
      shortOf_of_lt low
    have high : (byteAt buffer 2).toNat = 0 := by omega
    exact ⟨header, UInt8.toNat_inj.mp high, low, by omega, whole⟩
  · rintro ⟨header, high, low, payload, whole⟩
    have topic : topicLengthOf buffer = (byteAt buffer 3).toNat := by
      rw [topicLengthOf, shortOf_of_lt low, high]
      simp
    exact ⟨header, by omega, whole⟩

/-- A read is handled within bounds exactly when it is not taken for a PUBLISH, or when its topic
length is below 128 and topic, message id and remaining length fit into each other and into what
was received. -/
theorem handlePublish_safe_iff (fd : Int) (connected : 0 ≤ fd) (received : List UInt8)
    (nonempty : received ≠ []) (fits : received.length ≤ 512) (sends : List Int) (net : Net) :
    SafeAccesses received.length
        (handlePublish fd (.data received) sends ⟨net, [], []⟩).2.accesses ↔
      (byteAt received 0).toNat / 16 ≠ 3 ∨
        (4 ≤ received.length ∧ byteAt received 2 = 0 ∧ (byteAt received 3).toNat < 128 ∧
          2 + (byteAt received 3).toNat + (if (byteAt received 0).toNat / 2 % 4 > 0 then 2 else 0) ≤
            (byteAt received 1).toNat ∧
          (byteAt received 1).toNat + 2 ≤ received.length) := by
  rw [safeAccesses_iff]
  by_cases publish : IsPublish received
  · have condition : ((byteAt received 0).toNat / 16 ≠ 3 ∨ _) ↔ InOrder received :=
      (or_iff_right (not_not.mpr publish)).trans inOrder_iff.symm
    refine Iff.trans ?_ condition.symm
    constructor
    · intro safe
      by_contra bad
      obtain ⟨-, access, member, notOk⟩ :=
        handlePublish_faults connected nonempty fits sends publish bad ⟨net, [], []⟩
      exact notOk (safe access member)
    · intro order
      obtain ⟨accesses, ok, handled⟩ :=
        handlePublish_shows connected fits sends publish order ⟨net, [], []⟩
      rw [handled, answerPublish_accesses]
      simpa [withAccesses] using ok
  · refine iff_of_true ?_ (Or.inl publish)
    obtain ⟨accesses, ok, ignored⟩ :=
      handlePublish_ignores connected nonempty fits sends publish ⟨net, [], []⟩
    rw [ignored]
    simpa [withAccesses] using ok

theorem handlePublish_reads_beyond :
    ¬SafeAccesses 4 (handlePublish 3 (.data [0x30, 0x09, 0x00, 0x05]) []
      ⟨Net.empty, [], []⟩).2.accesses := by
  intro safe
  exact absurd (safe.read_lt 4 (by decide +kernel)) (by decide)

theorem handlePublish_safe_seven :
    SafeAccesses 7 (handlePublish 3 (.data [0x30, 0x05, 0x00, 0x01, 0x61, 0x68, 0x69]) []
      ⟨Net.empty, [], []⟩).2.accesses :=
  (handlePublish_safe_iff 3 (by decide) [0x30, 0x05, 0x00, 0x01, 0x61, 0x68, 0x69] (by decide)
    (by decide) [] Net.empty).mpr (Or.inr (by decide))

end Dpubsub.Proof
