import Dpubsub.Proof.Connection
import Dpubsub.Proof.Created
import Dpubsub.Proof.Publish

/-!
# `client_subscribe`, `client_unsubscribe` and `client_pingreq`
-/

namespace Dpubsub.Proof
open Dpubsub.Lib Dpubsub.Model Dpubsub.Spec

def deliveredSince (before after : World) : List UInt8 :=
  (after.net.transfers.drop before.net.transfers.length).flatMap Transfer.delivered

theorem deliveredSince_sentBy (w : World) (fd : Int) (data : Nat → UInt8) {length : Nat}
    (sends : List Int) (bound : length < 2 ^ 31) :
    deliveredSince w (sentBy w fd data length sends) =
      (List.range (acceptedBy (sendLoop fd length 0 sends).1)).map data := by
  simp [deliveredSince, sentBy, Net.transfer, delivered_eq _ _ _ _ bound]

/-! ## `client_unsubscribe` -/

def unsubscribeSize (topic : CString) : Int := 2 + 2 + (2 + intOfSize (strlen topic))

def unsubscribeBytes (topic : CString) (messageId : UInt16) (stack : Nat → UInt8) : Nat → UInt8 :=
  contents (some ((Cursor.start (Buffer.fresh stack)).append
    (topicRequest .unsubscribe topic messageId [])).buffer)

section Unsubscribe
variable (stack : Nat → UInt8) (sends : List Int) (w : World)

theorem clientUnsubscribe_begins {topic : CString} (messageId : UInt16)
    (small : 6 + strlen topic < 2 ^ 31) : clientUnsubscribe (some topic) messageId stack sends w =
      (reported (sendLoop w.client.socket (6 + strlen topic) 0 sends).2, sentBy w w.client.socket
        (unsubscribeBytes topic messageId stack) (6 + strlen topic) sends) := by
  have value : unsubscribeSize topic = (6 + strlen topic : Nat) := by
    rw [unsubscribeSize, intOfSize_of_lt (by omega)]
    omega
  have array : ¬(unsubscribeSize topic ≤ 0 ∨ 2 ^ 31 ≤ unsubscribeSize topic) := by omega
  have large : 5 + strlen topic ≤ sizeOfInt (unsubscribeSize topic) := by
    rw [value, sizeOfInt_natCast (by omega)]
    omega
  have result : intOfSize (6 + strlen topic) = (6 + strlen topic : Nat) := intOfSize_of_lt small
  have nonneg : ¬((6 + strlen topic : Nat) : Int) < 0 := by omega
  have length : sizeOfInt ((6 + strlen topic : Nat) : Int) = 6 + strlen topic :=
    sizeOfInt_natCast (by omega)
  rw [clientUnsubscribe, getClient_bind]
  change (if unsubscribeSize topic ≤ 0 ∨ 2 ^ 31 ≤ unsubscribeSize topic then Prog.stuck
    else _) w = _
  rw [if_neg array, ← unsubscribeSize,
    serializeUnsubscribe_writes _ _ _ _ _ (by omega : 5 + strlen topic < 2 ^ 64) large, result]
  simp only [if_neg nonneg, length]
  exact sendReport_eq w.client.socket (unsubscribeBytes topic messageId stack) (6 + strlen topic)
    sends w

theorem clientUnsubscribe_silent {topic : Option CString} (messageId : UInt16)
    (large : ∀ t ∈ topic, 2 ^ 31 ≤ strlen t + 6 ∧ strlen t < 2 ^ 62) :
    ∃ o, clientUnsubscribe topic messageId stack sends w = (o, w) := by
  cases topic with
  | none => exact ⟨.undefined, rfl⟩
  | some topic =>
      obtain ⟨long, bound⟩ := large topic rfl
      rw [clientUnsubscribe, getClient_bind]
      change ∃ o, (if unsubscribeSize topic ≤ 0 ∨ 2 ^ 31 ≤ unsubscribeSize topic then Prog.stuck
        else _) w = _
      by_cases overflow : unsubscribeSize topic ≤ 0 ∨ 2 ^ 31 ≤ unsubscribeSize topic
      · rw [if_pos overflow]
        exact ⟨.undefined, rfl⟩
      · have wraps : 2 ^ 31 ≤ strlen topic := by
          by_contra short
          unfold unsubscribeSize at overflow
          rw [intOfSize_of_lt (by omega)] at overflow
          omega
        have less := intOfSize_of_ge wraps
        have small : sizeOfInt (unsubscribeSize topic) < 5 + strlen topic := by
          unfold sizeOfInt unsubscribeSize at *
          omega
        rw [if_neg overflow, ← unsubscribeSize,
          serializeUnsubscribe_refuses _ _ _ _ _ (by omega : 5 + strlen topic < 2 ^ 64) small]
        exact ⟨.ret (-1), rfl⟩

end Unsubscribe

/-- The array is filled exactly, and its bytes go out from the first on. The result tells whether all
of them did, which is up to the socket and the answers of the system alone. -/
theorem clientUnsubscribe_reports (topic : CString) (small : 6 + strlen topic ≤ 2 ^ 31 - 1)
    (messageId : UInt16) (stack : Nat → UInt8) (sends : List Int)
    (nonzero : ∀ answer ∈ sends, answer ≠ 0) (enough : 6 + strlen topic ≤ sends.length)
    (w : World) :
    ∃ buffer r w', serializeUnsubscribe .unsubscribe (some (Buffer.fresh stack)) (6 + strlen topic)
        (some topic) messageId = (((6 + strlen topic : Nat) : Int), some buffer) ∧
      (∀ i, i ∈ buffer.written ↔ i < 6 + strlen topic) ∧
      clientUnsubscribe (some topic) messageId stack sends w = (.ret r, w') ∧
      deliveredSince w w' <+: buffer.slice (6 + strlen topic) ∧
      (r = 0 ↔ deliveredSince w w' = buffer.slice (6 + strlen topic)) ∧ (r ≠ 0 → r = -1) ∧
      (r = 0 ↔ 0 ≤ w.client.socket ∧ accepts (6 + strlen topic) sends = true) := by
  have bound : 6 + strlen topic < 2 ^ 31 := by omega
  obtain ⟨r, report, negative, atMost, tells⟩ := reported_tells w.client.socket bound nonzero enough
  have begins := clientUnsubscribe_begins stack sends w messageId bound
  rw [report] at begins
  have delivered := deliveredSince_sentBy w w.client.socket (unsubscribeBytes topic messageId stack)
    sends bound
  refine ⟨((Cursor.start (Buffer.fresh stack)).append
    (topicRequest .unsubscribe topic messageId [])).buffer, r, _, ?_, fun i => ?_, begins, ?_, ?_,
    negative, ?_⟩
  · rw [serializeUnsubscribe_writes _ _ _ _ _ (by omega) (by omega), intOfSize_of_lt bound]
  · rw [Cursor.mem_append_written, topicRequest_length]
    simp [Buffer.fresh]
  · rw [delivered]
    exact range_map_prefix _ atMost
  · rw [delivered, tells]
    exact (range_map_inj _).symm
  · have sent : Sent (6 + strlen topic) (sendLoop w.client.socket (6 + strlen topic) 0 sends) :=
      sendLoop_sent sends (Nat.zero_le _) bound
    rw [tells, ← sent.whole_iff]
    exact sendLoop_whole_iff sends (by omega) bound

theorem clientUnsubscribe_reports_news :
    ∃ buffer w', serializeUnsubscribe .unsubscribe (some (Buffer.fresh fun _ => 0)) 10
        (some (CString.letters 4)) 9 = (10, some buffer) ∧
      (∀ i, i ∈ buffer.written ↔ i < 10) ∧
      clientUnsubscribe (some (CString.letters 4)) 9 (fun _ => 0) (List.replicate 10 3)
        connectedWorld = (.ret 0, w') ∧
      deliveredSince connectedWorld w' = buffer.slice 10 := by
  obtain ⟨buffer, r, w', packet, written, returns, -, whole, -, result⟩ :=
    clientUnsubscribe_reports (CString.letters 4) (by simp) 9 (fun _ => 0) (List.replicate 10 3)
      (fun answer member => by rw [List.eq_of_mem_replicate member]; decide) (by simp)
      connectedWorld
  obtain rfl := result.mpr ⟨by decide, by decide +kernel⟩
  exact ⟨buffer, w', packet, written, returns, whole.mp rfl⟩

/-! ## `client_subscribe` -/

/-- The branch of `subscribe_topic` is never taken: nothing is sent, no callback is called, and a
value that is not there is used. -/
theorem clientSubscribe_eq (topic : Option CString) (messageId : UInt16) (stack : Nat → UInt8)
    (sends : List Int) (w : World) :
    clientSubscribe topic messageId stack sends w = (.undefined, w) := by
  have none : subscribeTopic topic stack sends w = (.ret none, w) := by
    rw [subscribeTopic, getClient_bind, if_neg (by decide)]
    rfl
  rw [clientSubscribe, Prog.bind_ret none]
  rfl

structure Subscribes (topic : CString) (messageId : UInt16) (before : World)
    (result : Outcome Int × World) : Prop where
  returns : result.1 = .ret 0 ∨ result.1 = .ret (-1)
  whole : result.1 = .ret 0 ↔ deliveredSince before result.2 =
    topicRequest .subscribe topic messageId [before.client.config.defaultQos]
  called : result.1 = .ret 0 → calledSince before result.2 =
    before.client.config.callbacks.onSubscribe.toList.map fun c =>
      ⟨c, some ⟨some topic, none, before.client.config.defaultQos, 0⟩⟩
  silent : result.1 = .ret (-1) → calledSince before result.2 = []

theorem not_subscribes_undefined {topic : CString} {messageId : UInt16} {before after : World} :
    ¬Subscribes topic messageId before (.undefined, after) := by
  intro subscribes
  rcases subscribes.returns with h | h <;> cases h

theorem not_subscribes_silent {topic : CString} {messageId : UInt16} {w : World} :
    ¬Subscribes topic messageId w (.ret 0, w) := by
  intro subscribes
  have none : deliveredSince w w = [] := by simp [deliveredSince]
  have length := congrArg List.length (none.symm.trans (subscribes.whole.mp rfl))
  rw [topicRequest_length] at length
  simp at length

theorem clientSubscribe_never (topic : CString) (messageId : UInt16) (stack : Nat → UInt8)
    (sends : List Int) (w : World) :
    ¬Subscribes topic messageId w (clientSubscribe (some topic) messageId stack sends w) ∧
    ¬Subscribes topic messageId w
      (.ret 0, (clientSubscribe (some topic) messageId stack sends w).2) := by
  rw [clientSubscribe_eq]
  exact ⟨not_subscribes_undefined, not_subscribes_silent⟩

theorem not_subscribes_news : ¬Subscribes (CString.letters 4) 1 connectedWorld
    (clientSubscribe (some (CString.letters 4)) 1 (fun _ => 0) [100] connectedWorld) := by
  rw [clientSubscribe_eq]
  exact not_subscribes_undefined

/-! ## `client_pingreq` -/

theorem clientPingreq_silent (stack : Nat → UInt8) (sends : List Int) (w : World) :
    clientPingreq stack sends w = (.ret (-1), w) := by
  rw [clientPingreq, getClient_bind, serializePingreq, serializeHeaderOnly_eq]
  rfl

structure Pings (before : World) (result : Outcome Int × World) : Prop where
  given : ∃ t, result.2.net.transfers = before.net.transfers ++ [t] ∧
    t.conn = before.net.conns before.client.socket ∧ t.packet = [0xC0, 0x00]
  whole : result.1 = .ret 0 ↔ deliveredSince before result.2 = [0xC0, 0x00]
  returns : ∀ r, result.1 = .ret r → r = 0 ∨ r = -1

theorem not_pings_silent (r : Int) (w : World) : ¬Pings w (.ret r, w) := by
  intro pings
  obtain ⟨t, more, -, -⟩ := pings.given
  have length := congrArg List.length more
  rw [List.length_append, List.length_singleton] at length
  dsimp only at length
  omega

/-- Nothing is sent at all. What is returned is right where the socket would not have taken both
bytes. -/
theorem clientPingreq_never (stack : Nat → UInt8) (sends : List Int) (w : World) :
    ¬Pings w (clientPingreq stack sends w) ∧
    (((clientPingreq stack sends w).1 = .ret 0 ↔ 0 ≤ w.client.socket ∧ accepts 2 sends = true) ↔
      ¬(0 ≤ w.client.socket ∧ accepts 2 sends = true)) := by
  rw [clientPingreq_silent]
  have failed : (.ret (-1) : Outcome Int) ≠ .ret 0 := by simp
  exact ⟨not_pings_silent (-1) w, iff_false_left failed⟩

theorem not_pings_connected :
    ¬Pings connectedWorld (clientPingreq (fun _ => 0) [1, 1] connectedWorld) := by
  rw [clientPingreq_silent]
  exact not_pings_silent (-1) connectedWorld

end Dpubsub.Proof
