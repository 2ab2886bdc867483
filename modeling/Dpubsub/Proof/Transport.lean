import Dpubsub.Model.Transport
import Dpubsub.Proof.SendLoop
import Dpubsub.Proof.Collecting

/-!
# Both ends of a connection

However the two parties take turns, what the client's `send` calls have taken is what the server has
collected followed by what is on the way. Every event but a `send` that takes nothing either brings
bytes on or ends something, so that the length of the data bounds their number, and a run without
failures can only stop when the server has all of it.
-/

namespace Dpubsub.Proof
open Dpubsub.Lib Dpubsub.Model Dpubsub.Spec

section
variable {fd : Int} {dataLen total : Nat} {answer : Int} {answers : List Int}

def FitsInt (dataLen : Nat) (answers : List Int) : Prop :=
  ∀ answer ∈ answers, min answer.toNat dataLen < 2 ^ 31

theorem waits_more (waits : (sendLoop fd dataLen total answers).2 = .pending) : total < dataLen := by
  by_contra done
  rw [sendLoop_done (Nat.not_lt.mp done)] at waits
  cases waits

theorem sendLoop_concat (size : dataLen < 2 ^ 64) (fits : FitsInt dataLen answers)
    (waits : (sendLoop fd dataLen total answers).2 = .pending) (answer : Int) :
    total + acceptedBy (sendLoop fd dataLen total answers).1 < dataLen ∧
    acceptedBy (sendLoop fd dataLen total (answers ++ [answer])).1 =
      acceptedBy (sendLoop fd dataLen total answers).1 +
        acceptedBy (sendLoop fd dataLen
          (total + acceptedBy (sendLoop fd dataLen total answers).1) [answer]).1 ∧
    (sendLoop fd dataLen total (answers ++ [answer])).2 =
      (sendLoop fd dataLen (total + acceptedBy (sendLoop fd dataLen total answers).1) [answer]).2 := by
  have more := waits_more waits
  induction answers generalizing total with
  | nil =>
      have none : acceptedBy (sendLoop fd dataLen total []).1 = 0 := by
        rw [sendLoop_waits more]
        rfl
      rw [none, List.nil_append, Nat.add_zero, Nat.zero_add]
      exact ⟨more, rfl, rfl⟩
  | cons first answers ih =>
      have ok : ¬(fd < 0 ∨ first < 0) := by
        intro error
        rw [sendLoop_fails more error] at waits
        cases waits
      have fitsFirst := fits first List.mem_cons_self
      rw [sendLoop_takes more size fitsFirst ok] at waits ⊢
      rw [List.cons_append, sendLoop_takes more size fitsFirst ok]
      obtain ⟨left, taken, outcome⟩ :=
        ih (fun a member => fits a (List.mem_cons_of_mem _ member)) waits (waits_more waits)
      simp only [acceptedBy_cons, Int.toNat_natCast]
      rw [← Nat.add_assoc total, taken, Nat.add_assoc (min first.toNat (dataLen - total))]
      exact ⟨left, rfl, outcome⟩

end

section
variable (link : Link) (t : Transport)

def taken : Nat := acceptedBy (t.client link).1

def collected : Collected := collectFrom link.connfd link.granted t.recvs

/-- What was accepted is what the server has, and then what is on the way. -/
structure Books : Prop where
  fits : ∀ answer ∈ t.sends, answer < 2 ^ 31
  books : t.accepted link = (collected link t).bytes ++ t.inFlight
  sealed : t.hungUp = true → ∃ result, (t.client link).2 = .ret result
  drained : (collected link t).stop = some .hungUp → t.hungUp = true ∧ t.inFlight = []

end

section
variable {link : Link} {t : Transport}

theorem fitsInt_of_lt (length : Nat) {answers : List Int}
    (fits : ∀ answer ∈ answers, answer < 2 ^ 31) : FitsInt length answers := fun answer member => by
  have small := fits answer member
  omega

theorem client_sends (fits : ∀ answer ∈ t.sends, answer < 2 ^ 31) :
    Sends link.sockfd link.length 0 t.sends (t.client link) :=
  sendLoop_sends t.sends (Nat.zero_le _) (link.bound.trans_le (Nat.sub_le _ _))
    (fitsInt_of_lt _ fits)

theorem accepted_eq (fits : ∀ answer ∈ t.sends, answer < 2 ^ 31) :
    t.accepted link = (List.range (taken link t)).map link.data := by
  rw [Transport.accepted, (client_sends fits).contiguous.delivers, taken, List.range_eq_range']

theorem Books.taken_le (books : Books link t) : taken link t ≤ link.length :=
  (client_sends books.fits).sent.atMost

theorem Books.length_le (books : Books link t) :
    (collected link t).bytes.length + t.inFlight.length = taken link t := by
  have same := congrArg List.length books.books
  rw [accepted_eq books.fits, List.length_map, List.length_range, List.length_append] at same
  exact same.symm

theorem server_serves (small : (collected link t).bytes.length ≤ link.length) :
    Serves link.heap (collected link t) (t.server link) :=
  receiveBytesWithDynamicBuffer_serves link.connfd link.granted t.recvs (small.trans_lt link.bound)
    link.heap

theorem Serves.total {h : Heap} {c : Collected} {r : Outcome (Option Unit) × Receiving}
    (serves : Serves h c r) : r.2.totalBytesReceived = c.bytes.length := by
  cases serves with
  | waits collects => exact collects.total
  | ends stop total heap => exact total

theorem Serves.pending_iff {h : Heap} {c : Collected} {r : Outcome (Option Unit) × Receiving}
    (serves : Serves h c r) : r.1 = .pending ↔ c.stop = none := by
  cases serves with
  | waits collects => exact iff_of_true rfl rfl
  | ends stop total heap => exact iff_of_false nofun nofun

theorem Books.serves (books : Books link t) :
    Serves link.heap (collected link t) (t.server link) := by
  apply server_serves
  have length := books.length_le
  have bound := books.taken_le
  omega

theorem books_initial (link : Link) : Books link Transport.initial where
  fits := by simp [Transport.initial]
  books := by
    have none : (Transport.initial.client link).1 = [] := by
      change (sendLoop link.sockfd link.length 0 []).1 = []
      unfold sendLoop
      split <;> rfl
    rw [Transport.accepted, none]
    change [] = (collectFrom link.connfd link.granted []).bytes ++ []
    cases link.granted <;> rfl
  sealed := nofun
  drained stop := by
    change (collectFrom link.connfd link.granted []).stop = _ at stop
    cases granted : link.granted <;> rw [granted] at stop <;> cases stop

variable (link) in
theorem fits_concat (books : Books link t) {answer : Int} (legal : answer < 2 ^ 31) :
    ∀ a ∈ (t.sent answer).sends, a < 2 ^ 31 := by
  intro a member
  rcases List.mem_append.mp member with old | new
  · exact books.fits a old
  · rw [List.mem_singleton.mp new]
    exact legal

theorem Books.taken_sent (books : Books link t) (waits : (t.client link).2 = .pending)
    (answer : Int) : taken link t < link.length ∧
      taken link (t.sent answer) = taken link t +
        acceptedBy (sendLoop link.sockfd link.length (taken link t) [answer]).1 ∧
      ((t.sent answer).client link).2 =
        (sendLoop link.sockfd link.length (taken link t) [answer]).2 := by
  have concat := sendLoop_concat (link.bound.trans_le (Nat.sub_le _ _))
    (fitsInt_of_lt link.length books.fits) waits answer
  rwa [Nat.zero_add] at concat

theorem Books.send (books : Books link t) {answer : Int}
    (waits : (t.client link).2 = .pending) (legal : answer < 2 ^ 31) :
    Books link (t.next link (.send answer)) where
  fits := fits_concat link books legal
  books := by
    have grown : t.accepted link <+: (t.sent answer).accepted link := by
      rw [accepted_eq books.fits, accepted_eq (fits_concat link books legal),
        (books.taken_sent waits answer).2.1]
      exact range_map_prefix link.data (Nat.le_add_right _ _)
    change (t.sent answer).accepted link = (collected link t).bytes ++ (t.inFlight ++ _)
    rw [← List.append_assoc, ← books.books]
    exact (List.prefix_iff_eq_append.mp grown).symm
  sealed hungUp := by
    obtain ⟨result, returned⟩ := books.sealed hungUp
    cases waits.symm.trans returned
  drained stop := by
    obtain ⟨result, returned⟩ := books.sealed (books.drained stop).1
    cases waits.symm.trans returned

theorem Books.hangUp (books : Books link t) {result : Int} (returned : (t.client link).2 = .ret result) :
    Books link (t.next link .hangUp) where
  fits := books.fits
  books := books.books
  sealed _ := ⟨result, returned⟩
  drained stop := ⟨rfl, (books.drained stop).2⟩

inductive Read (link : Link) (t t' : Transport) : Prop where
  | chunk (chunk rest : List UInt8) (some : chunk ≠ []) (next : t.inFlight = chunk ++ rest)
      (more : collected link t' = ⟨(collected link t).bytes ++ chunk, none⟩)
      (left : t'.inFlight = rest)
  | stops (stop : Stop) (same : collected link t' = ⟨(collected link t).bytes, some stop⟩)
      (end_ : stop = .hungUp → t.hungUp = true ∧ t.inFlight = []) (left : t'.inFlight = t.inFlight)

theorem recvResult_offered {fd : Int} (connected : 0 ≤ fd) {answer : RecvAnswer}
    (offers : t.Offers answer) :
    (∃ chunk rest, chunk ≠ [] ∧ t.inFlight = chunk ++ rest ∧
      recvResult fd chunkSize answer = .data chunk) ∨
    recvResult fd chunkSize answer = .closed ∧ t.hungUp = true ∧ t.inFlight = [] ∨
    ∃ wouldBlock, recvResult fd chunkSize answer = .failed wouldBlock := by
  have open_ : ¬fd < 0 := by omega
  cases answer with
  | data bytes =>
      obtain ⟨some, rest, flight⟩ := offers
      have first : bytes.take chunkSize ≠ [] := by
        rw [Ne, List.take_eq_nil_iff]
        exact not_or.mpr ⟨by decide, some⟩
      refine .inl ⟨bytes.take chunkSize, bytes.drop chunkSize ++ rest, first, ?_, ?_⟩
      · rw [← List.append_assoc, List.take_append_drop, flight]
      · simp only [recvResult, if_neg open_, if_neg first]
  | closed => exact .inr (.inl ⟨by simp only [recvResult, if_neg open_], offers⟩)
  | failed wouldBlock => exact .inr (.inr ⟨wouldBlock, by simp only [recvResult, if_neg open_]⟩)

theorem collected_received (going : (collected link t).stop = none) (granted : Bool)
    (answer : RecvAnswer) : collected link (t.received granted answer) =
      collect link.connfd chunkSize spare (collected link t).bytes [(granted, answer)] :=
  collectFrom_append going _

theorem Books.reads (books : Books link t) (waits : (t.server link).1 = .pending)
    {answer : RecvAnswer} (offers : t.Offers answer) (granted : Bool) :
    Read link t (t.next link (.recv granted answer)) := by
  have going := books.serves.pending_iff.mp waits
  have length := books.length_le
  have bound := books.taken_le
  have collects := collected_received going granted answer
  have stopped : ∀ stop, collected link (t.received granted answer) =
      ⟨(collected link t).bytes, some stop⟩ →
      (t.next link (.recv granted answer)).inFlight = t.inFlight := by
    intro stop same
    have total : ((t.received granted answer).server link).2.totalBytesReceived =
        (collected link t).bytes.length := by
      rw [(server_serves (by rw [same]; simp only; omega)).total, same]
    change t.inFlight.drop _ = t.inFlight
    rw [total, books.serves.total, Nat.sub_self, List.drop_zero]
  obtain refused | ⟨room, -⟩ :=
    collect_cases link.connfd chunkSize spare (collected link t).bytes granted answer
  · rw [collect_refused refused] at collects
    exact .stops .outOfMemory collects (fun hung => by cases hung) (stopped _ collects)
  obtain ⟨chunk, rest, some, flight, received⟩ | ⟨received, closed⟩ | ⟨wouldBlock, received⟩ :=
    recvResult_offered link.connected.2 offers
  · rw [collect_data room received, collect] at collects
    refine .chunk chunk rest some flight collects ?_
    have total : ((t.received granted answer).server link).2.totalBytesReceived =
        (collected link t).bytes.length + chunk.length := by
      rw [(server_serves ?_).total, collects, List.length_append]
      rw [collects, List.length_append]
      rw [flight, List.length_append] at length
      omega
    change t.inFlight.drop _ = rest
    rw [total, books.serves.total, Nat.add_sub_cancel_left, flight, List.drop_left]
  · have hung : stopOf (recvResult link.connfd chunkSize answer) = some .hungUp := by
      rw [received]
      rfl
    rw [collect_stops room hung] at collects
    exact .stops .hungUp collects (fun _ => closed) (stopped _ collects)
  · have broken : stopOf (recvResult link.connfd chunkSize answer) = some .failed := by
      rw [received]
      rfl
    rw [collect_stops room broken] at collects
    exact .stops .failed collects (fun hung => by cases hung) (stopped _ collects)

theorem Books.recv (books : Books link t) (waits : (t.server link).1 = .pending)
    {answer : RecvAnswer} (offers : t.Offers answer) (granted : Bool) :
    Books link (t.next link (.recv granted answer)) where
  fits := books.fits
  books := by
    have before := books.books
    cases books.reads waits offers granted with
    | chunk chunk rest some next more left =>
        rw [more, left, List.append_assoc, ← next]
        exact before
    | stops stop same end_ left =>
        rw [same, left]
        exact before
  sealed := books.sealed
  drained stop := by
    cases books.reads waits offers granted with
    | chunk chunk rest some next more left =>
        rw [more] at stop
        cases stop
    | stops stop' same end_ left =>
        rw [same] at stop
        rw [left]
        exact end_ (Option.some.inj stop)

theorem Books.step (t : Transport) (e : Transport.Event) (books : Books link t)
    (can : (Transport.system link).enabled t e) : Books link ((Transport.system link).next t e) := by
  cases e with
  | send answer => exact books.send can.1 can.2.2
  | hangUp =>
      obtain ⟨-, result, returned⟩ := can
      exact books.hangUp returned
  | recv granted answer => exact books.recv can.1 can.2 granted

def left (link : Link) (t : Transport) : Nat :=
  2 * (link.length - taken link t) + t.inFlight.length + (if t.hungUp then 0 else 1) +
    (if (t.client link).2 = .pending then 1 else 0) +
    if (t.server link).1 = .pending then 1 else 0

theorem sendLoop_one {fd : Int} {length total : Nat} {answer : Int} (more : total < length)
    (bound : length < 2 ^ 64) (connected : 0 ≤ fd) (small : answer < 2 ^ 31) :
    acceptedBy (sendLoop fd length total [answer]).1 = 0 ∧
        ((sendLoop fd length total [answer]).2 = .ret (-1) ∨ answer = 0) ∨
      0 < acceptedBy (sendLoop fd length total [answer]).1 ∧ answer ≠ 0 ∧
        total + acceptedBy (sendLoop fd length total [answer]).1 ≤ length := by
  rcases Int.lt_or_le answer 0 with failed | ok
  · rw [sendLoop_fails more (.inr failed)]
    exact .inl ⟨rfl, .inl rfl⟩
  · have legal : ¬(fd < 0 ∨ answer < 0) := by omega
    have nothing : acceptedBy
        (sendLoop fd length (total + min answer.toNat (length - total)) []).1 = 0 := by
      unfold sendLoop
      split <;> rfl
    rw [sendLoop_takes more bound (by omega) legal]
    simp only [acceptedBy_cons, Int.toNat_natCast, nothing]
    omega

theorem waiting_le (c : Prop) [Decidable c] : (if c then 1 else 0) ≤ 1 := by
  split <;> decide

/-- A `send` that takes nothing without an error leaves everything as it is. -/
def moves : Transport.Event → Bool
  | .send answer => answer ≠ 0
  | .hangUp => true
  | .recv .. => true

theorem left_send (books : Books link t) {answer : Int} (waits : (t.client link).2 = .pending)
    (small : answer < 2 ^ 31) :
    left link (t.next link (.send answer)) ≤ left link t ∧
      (answer ≠ 0 → left link (t.next link (.send answer)) < left link t) := by
  obtain ⟨more, grown, outcome⟩ := books.taken_sent waits answer
  have before := books.length_le
  have after := (books.send waits small).length_le
  have same : collected link (t.next link (.send answer)) = collected link t := rfl
  have taken' : taken link (t.next link (.send answer)) = taken link (t.sent answer) := rfl
  have client' : (t.next link (.send answer)).client link = (t.sent answer).client link := rfl
  have server' : (t.next link (.send answer)).server link = t.server link := rfl
  have hungUp' : (t.next link (.send answer)).hungUp = t.hungUp := rfl
  have atMost := waiting_le (((t.sent answer).client link).2 = .pending)
  rw [same, taken'] at after
  unfold left
  rw [taken', client', server', hungUp', waits, if_pos rfl]
  rcases sendLoop_one more (link.bound.trans_le (Nat.sub_le _ _)) link.connected.1 small with
    ⟨none, cut | idle⟩ | ⟨some, positive, within⟩
  · have stopped : (Outcome.ret (-1) : Outcome Int) ≠ .pending := nofun
    rw [outcome, cut, if_neg stopped]
    omega
  · exact ⟨by omega, fun other => absurd idle other⟩
  · omega

theorem left_hangUp (open_ : t.hungUp = false) :
    left link (t.next link .hangUp) < left link t := by
  have taken' : taken link (t.next link .hangUp) = taken link t := rfl
  have client' : (t.next link .hangUp).client link = t.client link := rfl
  have server' : (t.next link .hangUp).server link = t.server link := rfl
  have inFlight' : (t.next link .hangUp).inFlight = t.inFlight := rfl
  have hungUp' : (t.next link .hangUp).hungUp = true := rfl
  unfold left
  rw [taken', client', server', inFlight', hungUp', open_, if_pos rfl, if_neg Bool.false_ne_true]
  omega

theorem left_recv (books : Books link t) (waits : (t.server link).1 = .pending)
    {answer : RecvAnswer} (offers : t.Offers answer) (granted : Bool) :
    left link (t.next link (.recv granted answer)) < left link t := by
  have taken' : taken link (t.next link (.recv granted answer)) = taken link t := rfl
  have client' : (t.next link (.recv granted answer)).client link = t.client link := rfl
  have hungUp' : (t.next link (.recv granted answer)).hungUp = t.hungUp := rfl
  unfold left
  rw [taken', client', hungUp', waits, if_pos rfl]
  cases books.reads waits offers granted with
  | chunk chunk rest some next more left =>
      have atMost := waiting_le (((t.next link (.recv granted answer)).server link).1 = .pending)
      have positive := List.length_pos_iff.mpr some
      rw [left, next, List.length_append]
      omega
  | stops stop same end_ left =>
      have stopped : ((t.next link (.recv granted answer)).server link).1 ≠ .pending := by
        intro pending
        have going := (books.recv waits offers granted).serves.pending_iff.mp pending
        rw [same] at going
        cases going
      rw [left, if_neg stopped]
      omega

theorem left_lowers (t : Transport) (e : Transport.Event) (books : Books link t)
    (can : (Transport.system link).enabled t e) :
    if moves e then left link ((Transport.system link).next t e) < left link t
      else left link ((Transport.system link).next t e) ≤ left link t := by
  cases e with
  | send answer =>
      obtain ⟨atMost, lowers⟩ := left_send books can.1 can.2.2
      split
      · exact lowers (of_decide_eq_true ‹_›)
      · exact atMost
  | hangUp => exact left_hangUp can.1
  | recv granted answer => exact left_recv books can.1 can.2 granted

theorem run_books {events : List Transport.Event}
    (run : (Transport.system link).Run Transport.initial events t) : Books link t :=
  run.keeps (books_initial link) Books.step

theorem answer_failed {fd : Int} (connected : 0 ≤ fd) {length : Nat} {answer : RecvAnswer}
    {wouldBlock : Bool} (failed : recvResult fd length answer = .failed wouldBlock) :
    answer = .failed wouldBlock := by
  have open_ : ¬fd < 0 := Int.not_lt.mpr connected
  unfold recvResult at failed
  rw [if_neg open_] at failed
  cases answer with
  | data bytes =>
      simp only at failed
      split at failed <;> cases failed
  | closed => cases failed
  | failed _ => exact failed

theorem Books.ended (books : Books link t) (returned : (t.server link).1 = .ret (some ()))
    (reads : ∀ r ∈ t.recvs, ∀ wouldBlock, r.2 ≠ .failed wouldBlock) :
    (collected link t).stop = some .hungUp := by
  have serves := books.serves
  cases stop : (collected link t).stop with
  | none =>
      rw [serves.pending_iff.mpr stop] at returned
      cases returned
  | some stop' =>
      rcases collectFrom_stop stop with rfl | ⟨rfl, r, member, wouldBlock, failed⟩ | ⟨rfl, -⟩
      · rfl
      · exact absurd (answer_failed link.connected.2 failed) (reads r member wouldBlock)
      · generalize collected link t = c at serves stop
        generalize t.server link = r at serves returned
        cases serves with
        | waits collects => cases stop
        | ends _ total heap =>
            cases stop
            cases returned

theorem Books.exited (books : Books link t) (exited : (t.server link).1 = .ret none) :
    link.granted = false ∨ ∃ r ∈ t.recvs, r.1 = false := by
  have serves := books.serves
  have stops : ∀ stop, (collected link t).stop = some stop → stop = .hungUp ∨ _ :=
    fun _ => collectFrom_stop
  generalize collected link t = c at serves stops
  generalize t.server link = r at serves exited
  cases serves with
  | waits collects => cases exited
  | ends stop total heap =>
      rcases stops stop rfl with rfl | ⟨rfl, -⟩ | ⟨-, refused⟩
      · cases exited
      · cases exited
      · exact refused

/-- Nothing is lost, repeated or put out of order. When the server sees the end of the stream there is
nothing left on the way; it exits only where it was refused memory, and may then leave bytes. -/
structure Agrees (link : Link) (t : Transport) : Prop where
  books : ∃ received, t.accepted link = received ++ t.inFlight ∧
    (t.server link).2.totalBytesReceived = received.length ∧
    ((t.server link).1 = .pending → Holding received (t.server link).2)
  begins : t.accepted link <+: (List.range link.length).map link.data
  whole : (t.client link).2 = .ret 0 ↔ t.accepted link = (List.range link.length).map link.data
  ends : (t.server link).1 = .ret (some ()) →
    (∀ r ∈ t.recvs, ∀ wouldBlock, r.2 ≠ .failed wouldBlock) → t.hungUp = true ∧ t.inFlight = []
  exits : (t.server link).1 = .ret none → link.granted = false ∨ ∃ r ∈ t.recvs, r.1 = false

theorem Books.agrees (books : Books link t) : Agrees link t where
  books := by
    refine ⟨(collected link t).bytes, books.books, books.serves.total, fun pending => ?_⟩
    have serves := books.serves
    generalize collected link t = c at serves ⊢
    generalize t.server link = r at serves pending ⊢
    cases serves with
    | waits collects => exact collects.holding
    | ends stop total heap => cases pending
  begins := by
    rw [accepted_eq books.fits]
    exact range_map_prefix link.data books.taken_le
  whole := by
    rw [accepted_eq books.fits, range_map_inj]
    exact (client_sends books.fits).sent.whole_iff
  ends returned reads := books.drained (books.ended returned reads)
  exits := books.exited

theorem transport_agrees (link : Link) (events : List Transport.Event) (t : Transport)
    (run : (Transport.system link).Run Transport.initial events t) : Agrees link t :=
  (run_books run).agrees

def Smooth : Transport.Event → Prop
  | .send answer => 0 < answer
  | .hangUp => True
  | .recv granted answer => granted = true ∧ ∀ wouldBlock, answer ≠ .failed wouldBlock

structure Unharmed (link : Link) (t : Transport) : Prop where
  books : Books link t
  sends : ∀ answer ∈ t.sends, 0 < answer
  recvs : ∀ r ∈ t.recvs, r.1 = true ∧ ∀ wouldBlock, r.2 ≠ .failed wouldBlock

theorem Unharmed.step (t : Transport) (e : Transport.Event) (unharmed : Unharmed link t)
    (can : ((Transport.system link).restrict Smooth).enabled t e) :
    Unharmed link (((Transport.system link).restrict Smooth).next t e) := by
  obtain ⟨can, smooth⟩ := can
  refine ⟨unharmed.books.step t e can, ?_, ?_⟩
  · cases e with
    | send answer =>
        intro a member
        rcases List.mem_append.mp member with old | new
        · exact unharmed.sends a old
        · rw [List.mem_singleton.mp new]
          exact smooth
    | hangUp => exact unharmed.sends
    | recv granted answer => exact unharmed.sends
  · cases e with
    | send answer => exact unharmed.recvs
    | hangUp => exact unharmed.recvs
    | recv granted answer =>
        intro r member
        rcases List.mem_append.mp member with old | new
        · exact unharmed.recvs r old
        · rw [List.mem_singleton.mp new]
          exact smooth

theorem refuses_of_nonneg {n : Nat} {answers : List Int} (all : ∀ answer ∈ answers, 0 < answer) :
    refuses n answers = false := by
  induction answers generalizing n with
  | nil => exact refuses_nil n
  | cons answer answers ih =>
      rcases Nat.eq_zero_or_pos n with rfl | more
      · exact refuses_zero _
      · have positive := all answer List.mem_cons_self
        rw [refuses_cons more, ih fun a member => all a (List.mem_cons_of_mem _ member),
          Bool.or_false]
        exact decide_eq_false (Int.not_lt.mpr positive.le)

structure Delivered (link : Link) (t : Transport) : Prop where
  client : (t.client link).2 = .ret 0
  hungUp : t.hungUp = true
  server : (t.server link).1 = .ret (some ())
  accepted : t.accepted link = (List.range link.length).map link.data
  total : (t.server link).2.totalBytesReceived = link.length

theorem Unharmed.client (unharmed : Unharmed link t)
    (halted : ((Transport.system link).restrict Smooth).Halted t) :
    (t.client link).2 = .ret 0 := by
  have sends : Sends link.sockfd link.length 0 t.sends (t.client link) :=
    client_sends unharmed.books.fits
  have uncut : (t.client link).2 ≠ .ret (-1) := by
    rw [Ne, sends.cut_iff link.connected.1, refuses_of_nonneg unharmed.sends]
    exact Bool.false_ne_true
  have moves : (t.client link).2 ≠ .pending := fun waits =>
    halted (.send 1) ⟨⟨waits, by decide, by decide⟩, by change (0 : Int) < 1; decide⟩
  have sent := sends.sent
  generalize t.client link = r at sent uncut moves ⊢
  cases sent with
  | whole calls all => rfl
  | cut calls part => exact absurd rfl uncut
  | waiting calls part => exact absurd rfl moves

theorem Unharmed.server (unharmed : Unharmed link t)
    (halted : ((Transport.system link).restrict Smooth).Halted t) (granted : link.granted = true)
    (hungUp : t.hungUp = true) :
    (t.server link).1 = .ret (some ()) := by
  have moves : (t.server link).1 ≠ .pending := by
    intro waits
    by_cases flight : t.inFlight = []
    · exact halted (.recv true .closed) ⟨⟨waits, hungUp, flight⟩, rfl, nofun⟩
    · exact halted (.recv true (.data t.inFlight))
        ⟨⟨waits, flight, List.prefix_refl _⟩, rfl, nofun⟩
  have serves := unharmed.books.serves
  have roomy : (collected link t).stop ≠ some .outOfMemory := by
    intro stop
    rcases collectFrom_stop stop with stop | ⟨stop, -⟩ | ⟨-, refused | ⟨r, member, refused⟩⟩
    · cases stop
    · cases stop
    · cases granted.symm.trans refused
    · rw [(unharmed.recvs r member).1] at refused
      cases refused
  generalize collected link t = c at serves roomy
  generalize t.server link = r at serves moves ⊢
  cases serves with
  | waits collects => exact absurd rfl moves
  | ends stop total heap =>
      cases stop with
      | hungUp => rfl
      | failed => rfl
      | outOfMemory => exact absurd rfl roomy

theorem Unharmed.delivered (unharmed : Unharmed link t)
    (halted : ((Transport.system link).restrict Smooth).Halted t) (granted : link.granted = true) :
    Delivered link t := by
  have client := unharmed.client halted
  have hungUp : t.hungUp = true := by
    by_contra open_
    exact halted .hangUp ⟨⟨Bool.eq_false_of_not_eq_true open_, _, client⟩, trivial⟩
  have server := unharmed.server halted granted hungUp
  have agrees := unharmed.books.agrees
  have accepted := agrees.whole.mp client
  obtain ⟨received, kept, total, -⟩ := agrees.books
  obtain ⟨-, empty⟩ := agrees.ends server fun r member => (unharmed.recvs r member).2
  refine ⟨client, hungUp, server, accepted, ?_⟩
  rw [empty, List.append_nil] at kept
  rw [total, ← kept, accepted, List.length_map, List.length_range]

/-- A run is short but for `send` calls that take nothing, and one without failures goes on until the
data has arrived. -/
structure Completes (link : Link) (events : List Transport.Event) (t : Transport) : Prop where
  bounded : events.countP moves ≤ 2 * link.length + 3
  halts : link.granted = true → (∀ e ∈ events, Smooth e) →
    ((Transport.system link).restrict Smooth).Halted t → Delivered link t
  continues : link.granted = true → (∀ e ∈ events, Smooth e) →
    ∃ more t', (Transport.system link).Run t more t' ∧ (∀ e ∈ more, Smooth e) ∧ Delivered link t'

theorem unharmed_of_run {events : List Transport.Event}
    (run : (Transport.system link).Run Transport.initial events t) (smooth : ∀ e ∈ events, Smooth e) :
    Unharmed link t :=
  (System.run_restrict.mpr ⟨run, smooth⟩).keeps ⟨books_initial link, nofun, nofun⟩ Unharmed.step

theorem moves_of_smooth {e : Transport.Event} (smooth : Smooth e) : moves e = true := by
  cases e with
  | send answer => exact decide_eq_true smooth.ne'
  | hangUp => rfl
  | recv granted answer => rfl

theorem transport_completes (link : Link) (events : List Transport.Event) (t : Transport)
    (run : (Transport.system link).Run Transport.initial events t) : Completes link events t where
  bounded := by
    have bounded := run.count_le moves (books_initial link) Books.step left_lowers
    have start : left link Transport.initial ≤ 2 * link.length + 3 := by
      have client := waiting_le ((Transport.initial.client link).2 = .pending)
      have server := waiting_le ((Transport.initial.server link).1 = .pending)
      change 2 * (link.length - _) + 0 + 1 + _ + _ ≤ _
      omega
    omega
  halts granted smooth halted := (unharmed_of_run run smooth).delivered halted granted
  continues granted smooth := by
    have unharmed := unharmed_of_run run smooth
    have lowers : ∀ t e, Unharmed link t → ((Transport.system link).restrict Smooth).enabled t e →
        left link (((Transport.system link).restrict Smooth).next t e) < left link t := by
      intro t e unharmed can
      have lower := left_lowers t e unharmed.books can.1
      rwa [if_pos (moves_of_smooth can.2)] at lower
    obtain ⟨more, t', rest, halted⟩ := System.exists_halted unharmed Unharmed.step lowers
    obtain ⟨run', smooth'⟩ := System.run_restrict.mp rest
    exact ⟨more, t', run', smooth', (rest.keeps unharmed Unharmed.step).delivered halted granted⟩

end

def threeBytes : Link := ⟨fun i => UInt8.ofNat (i + 1), 3, 4, 5, Heap.empty, true,
  by decide, by decide⟩

def turns : List Transport.Event :=
  [.send 2, .recv true (.data [1]), .send 0, .send 7, .hangUp, .recv true (.data [2, 3]), .recv true .closed]

theorem turns_run : (Transport.system threeBytes).Run Transport.initial turns
    (turns.foldl (Transport.system threeBytes).next Transport.initial) := by
  refine .cons ⟨by decide +kernel, by decide⟩ (.cons ⟨by decide +kernel, by decide, ⟨[2], ?_⟩⟩
    (.cons ⟨by decide +kernel, by decide⟩ (.cons ⟨by decide +kernel, by decide⟩
      (.cons ⟨rfl, 0, by decide +kernel⟩ (.cons ⟨by decide +kernel, by decide, ⟨[], ?_⟩⟩
        (.cons ⟨by decide +kernel, rfl, ?_⟩ (.nil _)))))))
  all_goals decide +kernel

theorem turns_agree : Agrees threeBytes
    (turns.foldl (Transport.system threeBytes).next Transport.initial) :=
  transport_agrees threeBytes turns _ turns_run

theorem turns_complete : Completes threeBytes turns
    (turns.foldl (Transport.system threeBytes).next Transport.initial) :=
  transport_completes threeBytes turns _ turns_run

end Dpubsub.Proof
