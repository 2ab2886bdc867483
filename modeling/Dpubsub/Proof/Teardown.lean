import Dpubsub.Proof.Connection
import Dpubsub.Proof.Created
import Dpubsub.Proof.Requests

/-!
# `destroy_client` and the ways to disconnect
-/

namespace Dpubsub.Proof
open Dpubsub.Lib Dpubsub.Model

section
variable {w w' : World} {answer : CloseAnswer}

theorem freeAndReset_returns {p : Ptr} {f : Config → Config}
    (call : Prog.when p.isSome (do
      onHeap (free p)
      setConfigField f) w = (.ret (), w')) :
    (∀ b, w.heap.live b = false → w'.heap.live b = false) ∧
      w'.client.socket = w.client.socket ∧ w'.client.buffer = w.client.buffer ∧
      w'.client.config = if p = none then w.client.config else f w.client.config := by
  unfold Prog.when at call
  cases p with
  | none =>
      cases call
      exact ⟨fun _ dead => dead, rfl, rfl, rfl⟩
  | some a =>
      rw [if_pos (Option.isSome_some ..), Prog.bind_eq_ret] at call
      obtain ⟨_, _, freed, set⟩ := call
      obtain ⟨-, rfl⟩ := onHeap_free_iff.mp freed
      cases set
      refine ⟨fun b dead => ?_, rfl, rfl, rfl⟩
      change (released w.heap (some a)).live b = false
      rw [live_released, dead, Bool.and_false]

structure Destroyed (w w' : World) : Prop where
  socket : w'.client.socket = -1
  buffer : w'.client.buffer = w.client.buffer
  ipBroker : w'.client.config.ipBroker = none
  clientId : w'.client.config.clientId = none
  freed : ∀ a, w.client.buffer = some a → w'.heap.live a = false

theorem destroyClient_returns {r : Int} (call : destroyClient answer w = (.ret r, w')) :
    Destroyed w w' := by
  rw [destroyClient_eq, freeBlocks, Prog.bind_eq_ret] at call
  obtain ⟨_, s, freedBuffer, call⟩ := call
  rw [Prog.bind_eq_ret] at call
  obtain ⟨_, s', freedIp, call⟩ := call
  rw [Prog.bind_eq_ret] at call
  obtain ⟨_, s'', freedId, call⟩ := call
  cases call
  obtain ⟨-, rfl⟩ := onHeap_free_iff.mp freedBuffer
  obtain ⟨dead, socket, buffer, config⟩ := freeAndReset_returns freedIp
  obtain ⟨dead', socket', buffer', config'⟩ := freeAndReset_returns freedId
  simp only [withFreed, reset_client] at socket buffer config
  have strings : w'.client.config.ipBroker = none ∧ w'.client.config.clientId = none := by
    rw [config', config]
    by_cases id : w.client.config.clientId = none <;>
      by_cases ip : w.client.config.ipBroker = none <;> simp [id, ip]
  refine ⟨socket'.trans socket, buffer'.trans buffer, strings.1, strings.2, fun a field => ?_⟩
  exact dead' a (dead a ((freed_released _ _).gone a field))

def StaysDestroyed (w : World) : Prop := ∀ answers : List CloseAnswer,
  Prog.Completes destroyClient answers w ∧ Prog.run destroyClient answers w = w

theorem destroyClient_idle (socket : w.client.socket = -1) (buffer : w.client.buffer = none)
    (ipBroker : w.client.config.ipBroker = none) (clientId : w.client.config.clientId = none) :
    destroyClient answer w = (.ret 0, w) := by
  rw [destroyClient_eq, reset, if_neg (not_not.mpr socket), freeBlocks, buffer, ipBroker, clientId]
  rfl

theorem destroyClient_again {a : Nat} (socket : w.client.socket = -1)
    (buffer : w.client.buffer = some a) (dead : w.heap.live a = false) :
    destroyClient answer w = (.undefined, w) := by
  have stuck : onHeap (free (some a)) w = (.undefined, w) := by
    rw [onHeap, Prog.zoom_apply, free_dead dead]
  rw [destroyClient_eq, reset, if_neg (not_not.mpr socket), freeBlocks, buffer,
    Prog.bind_undefined stuck]

theorem Destroyed.stays_iff (destroyed : Destroyed w w') :
    StaysDestroyed w' ↔ w.client.buffer = none := by
  rw [← destroyed.buffer]
  constructor
  · intro stays
    by_contra kept
    obtain ⟨a, buffer⟩ := Option.ne_none_iff_exists'.mp kept
    have dead := destroyed.freed a (destroyed.buffer.symm.trans buffer)
    obtain ⟨r, returns, -⟩ := (stays [.done]).1
    rw [destroyClient_again destroyed.socket buffer dead] at returns
    cases returns
  · intro buffer answers
    have idle : ∀ answer, destroyClient answer w' = (.ret 0, w') := fun answer =>
      destroyClient_idle destroyed.socket buffer destroyed.ipBroker destroyed.clientId
    induction answers with
    | nil => exact ⟨trivial, rfl⟩
    | cons answer answers ih =>
        have returns : (destroyClient answer w').1 = .ret 0 := congrArg Prod.fst (idle answer)
        rw [Prog.run_cons_ret returns, idle]
        refine ⟨⟨0, returns, ?_⟩, ih.2⟩
        rw [idle]
        exact ih.1

end

/-- The call has gone through `destroy_client`, and has returned in `w'`. -/
def TearsDown : ClientCall → World → World → Prop
  | .call (.destroyClient answer), w, w' => ∃ r, destroyClient answer w = (.ret r, w')
  | .call (.clientDisconnect stack sends answer answer'), w, w' =>
      clientDisconnect stack sends answer answer' w = (.ret none, w')
  | _, _, _ => False

theorem clientDisconnect_returns {w w' : World} {stack : Nat → UInt8} {sends : List Int}
    {answer answer' : CloseAnswer}
    (call : clientDisconnect stack sends answer answer' w = (.ret none, w')) : Destroyed w w' := by
  by_cases whole : 0 ≤ w.client.socket ∧ accepts 2 sends = true
  · obtain ⟨s, disconnects, client, -⟩ :=
      clientDisconnect_destroys stack answer answer' whole.1 whole.2
    rw [disconnects, Prog.bind_eq_ret] at call
    obtain ⟨_, _, destroyed, ends⟩ := call
    cases ends
    obtain ⟨socket, buffer, ipBroker, clientId, freed⟩ := destroyClient_returns destroyed
    rw [client] at buffer freed
    exact ⟨socket, buffer, ipBroker, clientId, freed⟩
  · obtain ⟨o, returned, cut⟩ := clientDisconnect_cut stack answer answer' whole
    rw [cut] at call
    cases call
    rcases returned with failed | waits
    · cases failed
    · cases waits

theorem TearsDown.destroyed {c : ClientCall} {w w' : World} (tears : TearsDown c w w') :
    Destroyed w w' := by
  unfold TearsDown at tears
  split at tears
  · obtain ⟨r, call⟩ := tears
    exact destroyClient_returns call
  · exact clientDisconnect_returns tears
  · exact tears.elim

theorem teardown_idempotent_iff (calls : List ClientCall) (w : World) (c : ClientCall) (w' : World)
    (tears : TearsDown c (Prog.run ClientCall.exec calls w) w') :
    StaysDestroyed w' ↔ (Prog.run ClientCall.exec calls w).client.buffer = none :=
  tears.destroyed.stays_iff

theorem teardown_idempotent_unbuffered : StaysDestroyed
    (destroyClient .done (Prog.run ClientCall.exec [.call (.setBuffer none)] sampleClient)).2 :=
  (teardown_idempotent_iff [.call (.setBuffer none)] sampleClient (.call (.destroyClient .done)) _
    ⟨0, Prod.ext (by decide +kernel) rfl⟩).mpr (by decide +kernel)

theorem destroyed_twice : ¬StaysDestroyed (destroyClient .done sampleClient).2 := by
  intro stays
  obtain ⟨r, returns, -⟩ := (stays [.done]).1
  have twice : (destroyClient .done (destroyClient .done sampleClient).2).1 = .undefined := by
    decide +kernel
  rw [twice] at returns
  cases returns

def ClientCall.connects : ClientCall → Bool
  | .call (.connectClient ..) | .call (.clientConnect ..) | .setSocketFd _ => true
  | _ => false

/-- What is to hold of `disconnect_client`, and of a later one that no reconnect precedes. -/
structure Disconnects (answer : CloseAnswer) (w : World) : Prop where
  result : (disconnectClient .tcp answer w).1 =
    .ret (some (if 0 ≤ w.client.socket ∧ answer = .done then 0 else -1))
  once : 0 ≤ w.client.socket → answer = .done → ∀ calls : List ClientCall,
    (∀ c ∈ calls, ClientCall.connects c = false) →
    Prog.Completes ClientCall.exec calls (disconnectClient .tcp answer w).2 → ∀ answer' w',
      Prog.run ClientCall.exec calls (disconnectClient .tcp answer w).2 = w' →
      disconnectClient .tcp answer' w' = (.ret (some (-1)), w')

/-- What is to hold of `client_disconnect`, unless it waits in `send`. -/
structure Leaves (stack : Nat → UInt8) (sends : List Int) (answer answer' : CloseAnswer)
    (w : World) : Prop where
  returns : (clientDisconnect stack sends answer answer' w).1 = .pending ∨
    (clientDisconnect stack sends answer answer' w).1 = .ret (some 0) ∨
    (clientDisconnect stack sends answer answer' w).1 = .ret (some (-1))
  zero : (clientDisconnect stack sends answer answer' w).1 = .ret (some 0) ↔
    deliveredSince w (clientDisconnect stack sends answer answer' w).2 = [0xE0, 0x00] ∧
      answer = .done

def ReportsDisconnect : ClientCall → World → Prop
  | .call (.disconnectClient .tcp answer), w => Disconnects answer w
  | .call (.clientDisconnect stack sends answer answer'), w => Leaves stack sends answer answer' w
  | _, _ => True

/-- The call does not get to where the code goes on without a `return`. -/
def StopsEarly : ClientCall → World → Prop
  | .call (.disconnectClient .tcp answer), w => ¬(0 ≤ w.client.socket ∧ answer = .done)
  | .call (.clientDisconnect _ sends _ _), w => ¬(0 ≤ w.client.socket ∧ accepts 2 sends = true)
  | _, _ => True

section
variable {w : World} {stack : Nat → UInt8} {sends : List Int} {answer answer' : CloseAnswer}

theorem disconnects_iff :
    Disconnects answer w ↔ ¬(0 ≤ w.client.socket ∧ answer = .done) := by
  constructor
  · rintro reports ⟨connected, rfl⟩
    obtain ⟨callbacks, closes⟩ := disconnectClientTcp_closes .done connected
    have result := reports.result
    rw [disconnectClient, closes, if_pos rfl] at result
    cases result
  · intro stops
    refine ⟨?_, fun connected done => absurd ⟨connected, done⟩ stops⟩
    rw [if_neg stops, disconnectClient]
    rcases lt_or_ge w.client.socket 0 with refused | connected
    · rw [disconnectClientTcp_refuses refused]
    · have failed : answer ≠ .done := fun done => stops ⟨connected, done⟩
      obtain ⟨callbacks, closes⟩ := disconnectClientTcp_closes answer connected
      rw [closes, if_neg failed]

theorem freeBlocks_not_pending (client : Client) (w : World) :
    Prog.Ends (freeBlocks client) w fun o _ => o ≠ .pending := by
  have freed : ∀ (p : Ptr) (s : World), Prog.Ends (onHeap (free p)) s fun o _ => o ≠ .pending := by
    intro p s
    change (free p s.heap).1 ≠ .pending
    cases p with
    | none => simp [free]
    | some a =>
        unfold free
        simp only
        split <;> simp
  have reset : ∀ (p : Ptr) (f : Config → Config) (s : World), Prog.Ends (Prog.when p.isSome do
      onHeap (free p)
      setConfigField f) s fun o _ => o ≠ .pending := by
    intro p f s
    refine Prog.Ends.ite (fun _ => ?_) fun _ => by simp [Prog.Ends]
    exact (freed p s).bind (fun _ _ _ => by simp [Prog.Ends, setConfigField, setClient])
      (fun _ h => absurd rfl h) fun _ _ => by simp
  refine (freed _ w).bind (fun _ s _ => ?_) (fun _ h => absurd rfl h) fun _ _ => by simp
  refine (reset _ _ s).bind (fun _ s' _ => ?_) (fun _ h => absurd rfl h) fun _ _ => by simp
  exact (reset _ _ s').bind (fun _ _ _ => by simp [Prog.Ends]) (fun _ h => absurd rfl h)
    fun _ _ => by simp

theorem disconnectBytes_range (stack : Nat → UInt8) :
    (List.range 2).map (disconnectBytes stack) = [0xE0, 0x00] := by
  rw [disconnectBytes, serializeDisconnect, serializeHeaderOnly_eq]
  exact Cursor.append_slice [0xE0, 0x00] (Buffer.fresh stack)

theorem clientDisconnect_falls (connected : 0 ≤ w.client.socket) (whole : accepts 2 sends = true) :
    (clientDisconnect stack sends answer answer' w).1 = .ret none ∨
      (clientDisconnect stack sends answer answer' w).1 = .undefined := by
  obtain ⟨s, disconnects, -⟩ := clientDisconnect_destroys stack answer answer' connected whole
  have ends := freeBlocks_not_pending s.client (reset s answer')
  rw [Prog.Ends, ← destroyClient_eq] at ends
  rw [disconnects]
  rcases outcome : destroyClient answer' s with ⟨o, s'⟩
  rw [outcome] at ends
  cases o with
  | ret r =>
      rw [Prog.bind_ret outcome]
      exact Or.inl rfl
  | pending => exact absurd rfl ends
  | undefined =>
      rw [Prog.bind_undefined outcome]
      exact Or.inr rfl

theorem leaves_iff : Leaves stack sends answer answer' w ↔
    ¬(0 ≤ w.client.socket ∧ accepts 2 sends = true) := by
  constructor
  · rintro leaves ⟨connected, whole⟩
    have returns := leaves.returns
    rcases clientDisconnect_falls connected whole with nothing | undefined
    · rw [nothing] at returns
      simp at returns
    · rw [undefined] at returns
      simp at returns
  · intro stops
    obtain ⟨o, outcome, cut⟩ := clientDisconnect_cut stack answer answer' stops
    have part :
        deliveredSince w (clientDisconnect stack sends answer answer' w).2 ≠ [0xE0, 0x00] := by
      rw [cut, deliveredSince_sentBy _ _ _ _ (by decide), ← disconnectBytes_range stack, ne_eq,
        range_map_inj]
      intro all
      have sent : Sent (2 - 0) (sendLoop w.client.socket 2 0 sends) :=
        sendLoop_sent sends (Nat.zero_le 2) (by decide)
      have whole := sent.whole_iff.mpr all
      exact stops ((sendLoop_whole_iff sends Nat.zero_lt_two (by decide)).mp whole)
    refine ⟨?_, iff_of_false ?_ fun both => part both.1⟩
    · rw [cut]
      exact outcome.elim (fun failed => Or.inr (Or.inr failed)) Or.inl
    · rw [cut]
      rintro rfl
      rcases outcome with failed | waits
      · cases failed
      · cases waits

theorem reportsDisconnect_iff (c : ClientCall) (w : World) :
    ReportsDisconnect c w ↔ StopsEarly c w := by
  cases c with
  | call c =>
      cases c with
      | disconnectClient protocol answer =>
          cases protocol with
          | tcp => exact disconnects_iff
          | unknown => exact Iff.rfl
      | clientDisconnect stack sends answer answer' => exact leaves_iff
      | _ => exact Iff.rfl
  | _ => exact Iff.rfl

end

theorem disconnecting_reports_iff (calls : List ClientCall) (w : World) :
    Prog.Meets ClientCall.exec ReportsDisconnect calls w ↔
      Prog.Meets ClientCall.exec StopsEarly calls w :=
  Prog.meets_congr (I := fun _ => True) trivial (fun c s _ => reportsDisconnect_iff c s)
    fun _ _ _ => trivial

theorem disconnect_returns_nothing : ¬Prog.Meets ClientCall.exec ReportsDisconnect
    [.call (.connectClient .tcp connectsTo3), .call (.disconnectClient .tcp .done)] sampleClient := by
  intro meets
  have second := (meets.2 (some 0) (by decide +kernel)).1
  exact (disconnects_iff.mp second) (by decide +kernel)

/-! ## `free_message` -/

structure Freeable (s : OwnedMessage) : Prop where
  topic : ∀ a, s.topic = some a → s.heap.live a = true
  payload : ∀ a, s.payload = some a → s.heap.live a = true ∧ s.topic ≠ some a

def freedMessage (s : OwnedMessage) : OwnedMessage :=
  ⟨released (released s.heap s.topic) s.payload, none, none⟩

section Message
variable {s : OwnedMessage} {p : Ptr}

theorem onMessageHeap_free (live : ∀ a, p = some a → s.heap.live a = true) :
    onMessageHeap (free p) s = (.ret (), { s with heap := released s.heap p }) := by
  rw [onMessageHeap, Prog.zoom_apply, free_iff.mpr ⟨live, rfl⟩]

theorem freeString (put : OwnedMessage → OwnedMessage)
    (live : ∀ a, p = some a → s.heap.live a = true) (idle : p = none → put s = s) :
    Prog.when p.isSome (do
      onMessageHeap (free p)
      Prog.modify put) s = (.ret (), put { s with heap := released s.heap p }) := by
  cases p with
  | none =>
      change _ = (_, put s)
      rw [idle rfl]
      rfl
  | some a =>
      rw [Prog.when, if_pos (Option.isSome_some ..), Prog.bind_ret (onMessageHeap_free live)]
      rfl

theorem freeString_stuck {a : Nat} (put : OwnedMessage → OwnedMessage)
    (dead : s.heap.live a = false) :
    Prog.when (some a).isSome (do
      onMessageHeap (free (some a))
      Prog.modify put) s = (.undefined, s) := by
  have stuck : onMessageHeap (free (some a)) s = (.undefined, s) := by
    rw [onMessageHeap, Prog.zoom_apply, free_dead dead]
  rw [Prog.when, if_pos (Option.isSome_some ..), Prog.bind_undefined stuck]

theorem freeMessage_eq : freeMessage s = (do
    Prog.when s.topic.isSome do
      onMessageHeap (free s.topic)
      Prog.modify ({ · with topic := none })
    let msg ← Prog.get
    Prog.when msg.payload.isSome do
      onMessageHeap (free msg.payload)
      Prog.modify ({ · with payload := none })
    return 0 : Prog OwnedMessage Int) s := rfl

theorem freeMessage_frees (freeable : Freeable s) : freeMessage s = (.ret 0, freedMessage s) := by
  have payload : ∀ a, s.payload = some a → (released s.heap s.topic).live a = true := by
    intro a here
    obtain ⟨live, other⟩ := freeable.payload a here
    rw [live_released, live, decide_eq_true other]
    rfl
  have first := freeString ({ · with topic := none }) freeable.topic fun null => by rw [← null]
  rw [freeMessage_eq, Prog.bind_ret first]
  refine (Prog.bind_ret (freeString ({ · with payload := none }) payload fun null => ?_)).trans rfl
  rw [← null]

theorem freeMessage_undefined (bad : ¬Freeable s) : (freeMessage s).1 = .undefined := by
  by_cases topic : ∀ a, s.topic = some a → s.heap.live a = true
  · have first := freeString ({ · with topic := none }) topic fun null => by rw [← null]
    have second : ∃ a, s.payload = some a ∧ (released s.heap s.topic).live a = false := by
      by_contra all
      push Not at all
      refine bad ⟨topic, fun a here => ?_⟩
      have live := Bool.of_not_eq_false (all a here)
      rw [live_released, Bool.and_eq_true, decide_eq_true_eq] at live
      exact ⟨live.2, live.1⟩
    obtain ⟨a, here, dead⟩ := second
    have stuck := freeString_stuck (s := ⟨released s.heap s.topic, none, s.payload⟩)
      ({ · with payload := none }) dead
    rw [← here] at stuck
    rw [freeMessage_eq, Prog.bind_ret first]
    exact congrArg Prod.fst (Prog.bind_undefined stuck)
  · push Not at topic
    obtain ⟨a, here, dead⟩ := topic
    rw [freeMessage_eq, here]
    exact congrArg Prod.fst (Prog.bind_undefined (freeString_stuck _ (Bool.of_not_eq_true dead)))

theorem freeMessage_defined_iff : (freeMessage s).1 ≠ .undefined ↔ Freeable s := by
  constructor
  · intro defined
    by_contra bad
    exact defined (freeMessage_undefined bad)
  · intro freeable
    rw [freeMessage_frees freeable]
    exact nofun

theorem freeMessage_again (s : OwnedMessage) :
    freeMessage (freedMessage s) = (.ret 0, freedMessage s) := freeMessage_frees ⟨nofun, nofun⟩

theorem freeMessage_owns {mine : Nat → Prop}
    (owns : Owns mine s.heap [s.topic, s.payload]) :
    Freeable s ∧ Owns mine (freedMessage s).heap [] := by
  refine ⟨⟨owns.first_live, fun a here => ?_⟩, owns.released.released⟩
  exact ⟨owns.live a (here ▸ by simp), fun same => owns.ne (b := a) (here ▸ by simp) same.symm⟩

end Message

end Dpubsub.Proof
