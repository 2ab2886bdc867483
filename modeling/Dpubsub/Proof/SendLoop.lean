import Dpubsub.Lib.Buffer
import Dpubsub.Model.TcpClient
import Dpubsub.Model.World

/-!
# The loop of `send_bytes_to_server`
-/

namespace Dpubsub.Proof
open Dpubsub.Lib Dpubsub.Model

section
variable {fd : Int} {dataLen total : Nat} {answer : Int} {answers : List Int}

theorem sendLoop_done (done : dataLen ≤ total) : sendLoop fd dataLen total answers = ([], .ret 0) := by
  unfold sendLoop
  rw [if_neg (Nat.not_lt.mpr done)]

theorem sendLoop_waits (more : total < dataLen) :
    sendLoop fd dataLen total [] = ([], .pending) := by
  unfold sendLoop
  rw [if_pos more]

theorem sendLoop_fails (more : total < dataLen) (error : fd < 0 ∨ answer < 0) :
    sendLoop fd dataLen total (answer :: answers) =
      ([⟨total, dataLen - total, -1⟩], .ret (-1)) := by
  have result : sendResult fd (dataLen - total) answer = -1 := if_pos error
  unfold sendLoop
  rw [if_pos more]
  simp only [result]
  rfl

theorem sendLoop_idles (more : total < dataLen) (size : total < 2 ^ 64)
    (none : sendResult fd (dataLen - total) answer = 0) :
    sendLoop fd dataLen total (answer :: answers) =
      (⟨total, dataLen - total, 0⟩ :: (sendLoop fd dataLen total answers).1,
        (sendLoop fd dataLen total answers).2) := by
  have same : sizeT (total + sizeOfInt (intOf 0)) = total := sizeT_of_lt (by
    change total + 0 < 2 ^ 64
    exact size)
  have taken : ¬intOf 0 < 0 := by decide
  rw [sendLoop, if_pos more]
  simp only [none, if_neg taken, same]

theorem sendLoop_takes (more : total < dataLen) (size : dataLen < 2 ^ 64)
    (fits : min answer.toNat dataLen < 2 ^ 31) (ok : ¬(fd < 0 ∨ answer < 0)) :
    sendLoop fd dataLen total (answer :: answers) =
      (⟨total, dataLen - total, (min answer.toNat (dataLen - total) : Nat)⟩ ::
          (sendLoop fd dataLen (total + min answer.toNat (dataLen - total)) answers).1,
        (sendLoop fd dataLen (total + min answer.toNat (dataLen - total)) answers).2) := by
  have result : sendResult fd (dataLen - total) answer =
      (min answer.toNat (dataLen - total) : Nat) := by
    rw [sendResult, if_neg ok]
    omega
  have small : min answer.toNat (dataLen - total) < 2 ^ 31 := by omega
  have value : intOf (min answer.toNat (dataLen - total) : Nat) =
      (min answer.toNat (dataLen - total) : Nat) := intOfSize_of_lt small
  have taken : ¬((min answer.toNat (dataLen - total) : Nat) : Int) < 0 := by omega
  rw [sendLoop, if_pos more]
  simp only [result, value, if_neg taken]
  rw [sizeOfInt_natCast (by omega), sizeT_of_lt (by omega)]

end

/-- What the loop may do from `total` on when every result fits an `int`. -/
inductive Sends (fd : Int) (dataLen : Nat) :
    Nat → List Int → List SendCall × Outcome Int → Prop where
  | done (answers) : Sends fd dataLen dataLen answers ([], .ret 0)
  | waits {total} (more : total < dataLen) : Sends fd dataLen total [] ([], .pending)
  | fails {total answer answers} (more : total < dataLen) (error : fd < 0 ∨ answer < 0) :
      Sends fd dataLen total (answer :: answers) ([⟨total, dataLen - total, -1⟩], .ret (-1))
  | takes {total answer answers r} (more : total < dataLen) (ok : ¬(fd < 0 ∨ answer < 0))
      (rest : Sends fd dataLen (total + min answer.toNat (dataLen - total)) answers r) :
      Sends fd dataLen total (answer :: answers)
        (⟨total, dataLen - total, (min answer.toNat (dataLen - total) : Nat)⟩ :: r.1, r.2)

section
variable {fd : Int} {dataLen total : Nat}

theorem sendLoop_sends (answers : List Int) (within : total ≤ dataLen) (size : dataLen < 2 ^ 64)
    (fits : ∀ answer ∈ answers, min answer.toNat dataLen < 2 ^ 31) :
    Sends fd dataLen total answers (sendLoop fd dataLen total answers) := by
  induction answers generalizing total with
  | nil =>
      rcases within.eq_or_lt with rfl | more
      · rw [sendLoop_done le_rfl]
        exact .done []
      · rw [sendLoop_waits more]
        exact .waits more
  | cons answer answers ih =>
      rcases within.eq_or_lt with rfl | more
      · rw [sendLoop_done le_rfl]
        exact .done _
      by_cases error : fd < 0 ∨ answer < 0
      · rw [sendLoop_fails more error]
        exact .fails more error
      · rw [sendLoop_takes more size (fits answer List.mem_cons_self) error]
        have fewer : total + min answer.toNat (dataLen - total) ≤ dataLen := by omega
        exact .takes more error (ih fewer fun a member => fits a (List.mem_cons_of_mem _ member))

theorem sendLoop_short (answers : List Int) (within : total ≤ dataLen) (bound : dataLen < 2 ^ 31) :
    Sends fd dataLen total answers (sendLoop fd dataLen total answers) :=
  sendLoop_sends answers within (lt_trans bound (by decide)) fun _ _ =>
    (min_le_right _ _).trans_lt bound

end

theorem acceptedBy_sendLoop_pos {fd : Int} {dataLen : Nat} {answer : Int} (answers : List Int)
    (connected : 0 ≤ fd) (some : 0 < dataLen) (ok : 0 < answer) :
    0 < acceptedBy (sendLoop fd dataLen 0 (answer :: answers)).1 := by
  have result : 0 < (sendResult fd dataLen answer).toNat := by
    unfold sendResult
    rw [if_neg (by omega)]
    omega
  have first : ∃ calls, (sendLoop fd dataLen 0 (answer :: answers)).1 =
      ⟨0, dataLen - 0, sendResult fd (dataLen - 0) answer⟩ :: calls := by
    unfold sendLoop
    rw [if_pos some]
    simp only
    split
    · exact ⟨[], rfl⟩
    · exact ⟨_, rfl⟩
  obtain ⟨calls, first⟩ := first
  rw [first, acceptedBy_cons]
  exact Nat.add_pos_left result _

inductive Sent (rest : Nat) : List SendCall × Outcome Int → Prop where
  | whole (calls) (all : acceptedBy calls = rest) : Sent rest (calls, .ret 0)
  | cut (calls) (part : acceptedBy calls < rest) : Sent rest (calls, .ret (-1))
  | waiting (calls) (part : acceptedBy calls < rest) : Sent rest (calls, .pending)

theorem Sent.atMost {rest : Nat} {result : List SendCall × Outcome Int} (sent : Sent rest result) :
    acceptedBy result.1 ≤ rest := by
  cases sent with
  | whole calls all => exact all.le
  | cut calls part => exact part.le
  | waiting calls part => exact part.le

theorem Sent.whole_iff {rest : Nat} {result : List SendCall × Outcome Int}
    (sent : Sent rest result) : result.2 = .ret 0 ↔ acceptedBy result.1 = rest := by
  cases sent with
  | whole calls all => exact iff_of_true rfl all
  | cut calls part => exact iff_of_false (by simp) part.ne
  | waiting calls part => exact iff_of_false (by simp) part.ne

theorem Sent.cons {rest : Nat} (taken : Nat) (offset requested : Nat)
    {r : List SendCall × Outcome Int} (h : Sent rest r) :
    Sent (taken + rest) (⟨offset, requested, (taken : Int)⟩ :: r.1, r.2) := by
  have sum : ∀ calls, acceptedBy (⟨offset, requested, (taken : Int)⟩ :: calls) =
      taken + acceptedBy calls := fun calls => acceptedBy_cons _ calls
  cases h with
  | whole calls all => exact .whole _ (by rw [sum, all])
  | cut calls part => exact .cut _ (by rw [sum]; exact Nat.add_lt_add_left part taken)
  | waiting calls part => exact .waiting _ (by rw [sum]; exact Nat.add_lt_add_left part taken)

section
variable {fd : Int} {dataLen total : Nat} {answers : List Int}
  {result : List SendCall × Outcome Int}

theorem Sends.sent (sends : Sends fd dataLen total answers result) :
    Sent (dataLen - total) result := by
  induction sends with
  | done answers => exact .whole [] (Nat.sub_self _).symm
  | waits more => exact .waiting [] (Nat.sub_pos_of_lt more)
  | fails more error => exact .cut _ (Nat.sub_pos_of_lt more)
  | @takes total answer answers r more ok rest ih =>
      have split : min answer.toNat (dataLen - total) +
          (dataLen - (total + min answer.toNat (dataLen - total))) = dataLen - total := by omega
      have both := ih.cons (min answer.toNat (dataLen - total)) total (dataLen - total)
      rwa [split] at both

theorem Sends.returns (sends : Sends fd dataLen total answers result)
    (nonzero : ∀ answer ∈ answers, answer ≠ 0) (enough : dataLen - total ≤ answers.length) :
    result.2 ≠ .pending := by
  induction sends with
  | done answers => exact nofun
  | waits more =>
      have none := Nat.le_of_sub_eq_zero (Nat.le_zero.mp enough)
      omega
  | fails more error => exact nofun
  | @takes total answer answers r more ok rest ih =>
      have some : answer ≠ 0 := nonzero answer List.mem_cons_self
      rw [List.length_cons] at enough
      exact ih (fun a member => nonzero a (List.mem_cons_of_mem _ member)) (by omega)

theorem Sends.contiguous (sends : Sends fd dataLen total answers result) :
    Contiguous total result.1 := by
  induction sends with
  | done answers => trivial
  | waits more => trivial
  | fails more error => exact ⟨rfl, trivial⟩
  | takes more ok rest ih => exact ⟨rfl, ih⟩

theorem sendLoop_sent (answers : List Int) (within : total ≤ dataLen) (bound : dataLen < 2 ^ 31) :
    Sent (dataLen - total) (sendLoop fd dataLen total answers) :=
  (sendLoop_short answers within bound).sent

theorem sendLoop_returns (answers : List Int) (within : total ≤ dataLen) (bound : dataLen < 2 ^ 31)
    (nonzero : ∀ answer ∈ answers, answer ≠ 0) (enough : dataLen - total ≤ answers.length) :
    (sendLoop fd dataLen total answers).2 ≠ .pending :=
  (sendLoop_short answers within bound).returns nonzero enough

end

/-- The answers take `n` bytes before one of them fails. -/
def accepts : Nat → List Int → Bool
  | 0, _ => true
  | _ + 1, [] => false
  | n + 1, answer :: answers => decide (0 ≤ answer) && accepts (n + 1 - answer.toNat) answers

theorem accepts_zero (answers : List Int) : accepts 0 answers = true := by
  simp [accepts]

theorem accepts_nil {n : Nat} (more : 0 < n) : accepts n [] = false := by
  cases n with
  | zero => cases more
  | succ n => rfl

theorem accepts_cons {n : Nat} (more : 0 < n) (answer : Int) (answers : List Int) :
    accepts n (answer :: answers) = (decide (0 ≤ answer) && accepts (n - answer.toNat) answers) := by
  cases n with
  | zero => cases more
  | succ n => rfl

def refuses : Nat → List Int → Bool
  | 0, _ => false
  | _ + 1, [] => false
  | n + 1, answer :: answers => decide (answer < 0) || refuses (n + 1 - answer.toNat) answers

theorem refuses_zero (answers : List Int) : refuses 0 answers = false := by
  simp [refuses]

theorem refuses_nil (n : Nat) : refuses n [] = false := by
  cases n with
  | zero => rfl
  | succ n => rfl

theorem refuses_cons {n : Nat} (more : 0 < n) (answer : Int) (answers : List Int) :
    refuses n (answer :: answers) = (decide (answer < 0) || refuses (n - answer.toNat) answers) := by
  cases n with
  | zero => cases more
  | succ n => rfl

section
variable {fd : Int} {dataLen total : Nat} {answers : List Int}
  {result : List SendCall × Outcome Int}

theorem Sends.whole_iff (sends : Sends fd dataLen total answers result) (connected : 0 ≤ fd) :
    result.2 = .ret 0 ↔ accepts (dataLen - total) answers = true := by
  induction sends with
  | done answers =>
      rw [Nat.sub_self, accepts_zero]
      exact iff_of_true rfl rfl
  | waits more =>
      rw [accepts_nil (Nat.sub_pos_of_lt more)]
      exact iff_of_false nofun nofun
  | fails more error =>
      have failed := error.resolve_left (Int.not_lt.mpr connected)
      rw [accepts_cons (Nat.sub_pos_of_lt more), decide_eq_false (Int.not_le.mpr failed)]
      exact iff_of_false nofun nofun
  | @takes total answer answers r more ok rest ih =>
      have left : dataLen - (total + min answer.toNat (dataLen - total)) =
          dataLen - total - answer.toNat := by omega
      rw [ih, left, accepts_cons (Nat.sub_pos_of_lt more), decide_eq_true (by omega), Bool.true_and]

theorem Sends.cut_iff (sends : Sends fd dataLen total answers result) (connected : 0 ≤ fd) :
    result.2 = .ret (-1) ↔ refuses (dataLen - total) answers = true := by
  induction sends with
  | done answers =>
      rw [Nat.sub_self, refuses_zero]
      exact iff_of_false nofun nofun
  | waits more =>
      rw [refuses_nil]
      exact iff_of_false nofun nofun
  | fails more error =>
      have failed := error.resolve_left (Int.not_lt.mpr connected)
      rw [refuses_cons (Nat.sub_pos_of_lt more), decide_eq_true failed]
      exact iff_of_true rfl rfl
  | @takes total answer answers r more ok rest ih =>
      have left : dataLen - (total + min answer.toNat (dataLen - total)) =
          dataLen - total - answer.toNat := by omega
      rw [ih, left, refuses_cons (Nat.sub_pos_of_lt more), decide_eq_false (by omega),
        Bool.false_or]

theorem Sends.connected (sends : Sends fd dataLen total answers result) (more : total < dataLen)
    (whole : result.2 = .ret 0) : 0 ≤ fd := by
  cases sends with
  | done answers => omega
  | waits _ => cases whole
  | fails _ error => cases whole
  | takes _ ok rest => omega

theorem sendLoop_whole_iff (answers : List Int) (more : total < dataLen) (bound : dataLen < 2 ^ 31) :
    (sendLoop fd dataLen total answers).2 = .ret 0 ↔
      0 ≤ fd ∧ accepts (dataLen - total) answers = true := by
  have sends : Sends fd dataLen total answers (sendLoop fd dataLen total answers) :=
    sendLoop_short answers more.le bound
  constructor
  · intro whole
    have connected := sends.connected more whole
    exact ⟨connected, (sends.whole_iff connected).mp whole⟩
  · rintro ⟨connected, accepted⟩
    exact (sends.whole_iff connected).mpr accepted

theorem sendLoop_cut_iff (connected : 0 ≤ fd) (answers : List Int) (within : total ≤ dataLen)
    (bound : dataLen < 2 ^ 31) :
    (sendLoop fd dataLen total answers).2 = .ret (-1) ↔ refuses (dataLen - total) answers = true :=
  (sendLoop_short answers within bound).cut_iff connected

theorem sendLoop_delivers (data : Nat → UInt8) (answers : List Int) (within : total ≤ dataLen)
    (bound : dataLen < 2 ^ 31) :
    (sendLoop fd dataLen total answers).1.flatMap (SendCall.taken data) =
      (List.range' total (acceptedBy (sendLoop fd dataLen total answers).1)).map data :=
  (sendLoop_short answers within bound).contiguous.delivers data

end

theorem delivered_eq (conn : Option Nat) (fd : Int) (data : Nat → UInt8) {length : Nat}
    (sends : List Int) (bound : length < 2 ^ 31) :
    Transfer.delivered ⟨conn, data, length, (sendLoop fd length 0 sends).1⟩ =
      (List.range (acceptedBy (sendLoop fd length 0 sends).1)).map data := by
  rw [Transfer.delivered, sendLoop_delivers data sends (Nat.zero_le length) bound,
    List.range_eq_range']

def sentBy (w : World) (fd : Int) (data : Nat → UInt8) (length : Nat) (sends : List Int) : World :=
  { w with net := w.net.transfer fd data length (sendLoop fd length 0 sends).1 }

theorem onNet_sendBytesToServer {fd : Int} {length : Nat} {sends : List Int} {o : Outcome Int}
    (outcome : (sendLoop fd length 0 sends).2 = o) (data : Nat → UInt8) (w : World) :
    onNet (sendBytesToServer fd data length sends) w = (o, sentBy w fd data length sends) :=
  Prod.ext outcome rfl

def reported (outcome : Outcome Int) : Outcome Int :=
  outcome.map fun sent => if sent ≠ 0 then -1 else 0

theorem reported_zero_iff {o : Outcome Int} : reported o = .ret 0 ↔ o = .ret 0 := by
  cases o with
  | ret r => by_cases zero : r = 0 <;> simp [reported, Outcome.map, zero]
  | pending => simp [reported, Outcome.map]
  | undefined => simp [reported, Outcome.map]

theorem sendReport_eq (fd : Int) (data : Nat → UInt8) (length : Nat) (sends : List Int)
    (w : World) : (do
      let sent ← onNet (sendBytesToServer fd data length sends)
      if sent ≠ 0 then return -1
      else return 0 : Prog World Int) w =
      (reported (sendLoop fd length 0 sends).2, sentBy w fd data length sends) := by
  cases outcome : (sendLoop fd length 0 sends).2 with
  | ret sent =>
      rw [Prog.bind_ret (onNet_sendBytesToServer outcome data w), Prog.ite_apply]
      by_cases cut : sent ≠ 0
      · rw [if_pos cut, reported, Outcome.map, if_pos cut]
        rfl
      · rw [if_neg cut, reported, Outcome.map, if_neg cut]
        rfl
  | pending => exact Prog.bind_pending (onNet_sendBytesToServer outcome data w)
  | undefined => exact Prog.bind_undefined (onNet_sendBytesToServer outcome data w)

theorem reported_tells (fd : Int) {length : Nat} {sends : List Int} (bound : length < 2 ^ 31)
    (nonzero : ∀ answer ∈ sends, answer ≠ 0) (enough : length ≤ sends.length) :
    ∃ r, reported (sendLoop fd length 0 sends).2 = .ret r ∧ (r ≠ 0 → r = -1) ∧
      acceptedBy (sendLoop fd length 0 sends).1 ≤ length ∧
      (r = 0 ↔ acceptedBy (sendLoop fd length 0 sends).1 = length) := by
  have sent : Sent length (sendLoop fd length 0 sends) :=
    sendLoop_sent sends (Nat.zero_le length) bound
  have returns : (sendLoop fd length 0 sends).2 ≠ .pending :=
    sendLoop_returns sends (Nat.zero_le length) bound nonzero enough
  generalize sendLoop fd length 0 sends = result at sent returns ⊢
  cases sent with
  | whole calls all => exact ⟨0, rfl, absurd rfl, all.le, iff_of_true rfl all⟩
  | cut calls part => exact ⟨-1, rfl, fun _ => rfl, part.le, iff_of_false (by decide) part.ne⟩
  | waiting calls part => exact absurd rfl returns

theorem range_map_inj (data : Nat → UInt8) {k n : Nat} :
    (List.range k).map data = (List.range n).map data ↔ k = n := by
  constructor
  · intro same
    simpa using congrArg List.length same
  · rintro rfl
    rfl

end Dpubsub.Proof
