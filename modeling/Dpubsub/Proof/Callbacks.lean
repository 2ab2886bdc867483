import Dpubsub.Proof.Inward
import Dpubsub.Proof.Publications

/-!
# When the callbacks are called

Of the six callbacks of a client the library calls two: that for a publication, once for each call
of `client_publish` that succeeds, and that for the end of a connection.
-/

namespace Dpubsub.Proof
open Dpubsub.Lib Dpubsub.Model Dpubsub.Spec

def hooks (w : World) : List CallbackCall × Callbacks := (w.callbacks, w.client.config.callbacks)

def Quiet {α : Type} (m : Prog World α) : Prop := Prog.Frames hooks m

section
variable {α : Type}

theorem Inward.quiet {m : Prog World α} (inward : Inward m) : Quiet m :=
  Prog.Frames.comp inward fun x => (x.2.2.1, x.2.2.2)

theorem quiet_destroyClient (answer : CloseAnswer) : Quiet (destroyClient answer) := by
  intro w
  rw [destroyClient_eq, (inward_freeBlocks w.client).quiet (reset w answer), reset]
  split <;> rfl

theorem quiet_connectClient (protocol : Protocol) (a : ConnectAnswers) :
    Quiet (connectClient protocol a) := by
  intro w
  obtain ⟨n, fd, state⟩ := connectClient_state protocol a w
  rw [state]
  rfl

theorem quiet_announce (stack : Nat → UInt8) (sends : List Int) : Quiet (announce stack sends) := by
  intro w
  obtain ⟨o, same | ⟨data, length, sent⟩⟩ := announce_sends stack sends w
  · rw [same]
  · rw [sent]
    rfl

theorem quiet_clientConnect (a : ConnectAnswers) (stack : Nat → UInt8) (sends : List Int) :
    Quiet (clientConnect a stack sends) := by
  intro w
  rw [clientConnect_eq]
  exact Prog.Frames.bind (quiet_connectClient .tcp a) (fun _ => quiet_announce stack sends) w

theorem quiet_clientUnsubscribe (topic : Option CString) (messageId : UInt16)
    (stack : Nat → UInt8) (sends : List Int) :
    Quiet (clientUnsubscribe topic messageId stack sends) := by
  intro w
  obtain ⟨o, same | ⟨data, length, sent⟩⟩ := clientUnsubscribe_sends topic messageId stack sends w
  · rw [same]
  · rw [sent]
    rfl

end

def onDisconnectCalls (w : World) : List CallbackCall :=
  w.client.config.callbacks.onDisconnect.toList.map fun c => ⟨c, none⟩

/-- The calls of callbacks that a call of the library makes. -/
def heardOf (c : HookedCall) (w : World) : List CallbackCall :=
  match c with
  | .client (.call (.clientPublish topic message messageId retain dup stack sends)) =>
      if (clientPublish topic message messageId retain dup stack sends w).1 = .ret 0 then
        onPublishCalls topic message retain w
      else []
  | .client (.call (.disconnectClient .tcp answer)) =>
      if 0 ≤ w.client.socket ∧ answer = .done then onDisconnectCalls w else []
  | .client (.call (.clientDisconnect _ sends answer _)) =>
      if (0 ≤ w.client.socket ∧ accepts 2 sends = true) ∧ answer = .done then onDisconnectCalls w
      else []
  | _ => []

structure Hears (w w' : World) (events : List CallbackCall) : Prop where
  calls : w'.callbacks = w.callbacks ++ events
  kept : w'.client.config.callbacks = w.client.config.callbacks

theorem Hears.of_hooks {w w' : World} (same : hooks w' = hooks w) : Hears w w' [] :=
  ⟨(congrArg Prod.fst same).trans (List.append_nil _).symm, congrArg Prod.snd same⟩

theorem hears_calledBack {w w' : World} (same : hooks w' = hooks w) (callback : Option Callback)
    (message : Option Message) :
    Hears w (calledBack w' callback message) (callback.toList.map fun c => ⟨c, message⟩) := by
  have calls : w'.callbacks = w.callbacks := congrArg Prod.fst same
  have kept : w'.client.config.callbacks = w.client.config.callbacks := congrArg Prod.snd same
  cases callback with
  | none => exact ⟨calls.trans (List.append_nil _).symm, kept⟩
  | some callback =>
      refine ⟨?_, kept⟩
      change w'.callbacks ++ [⟨callback, message⟩] = _
      rw [calls]
      rfl

section
variable {w : World} {stack : Nat → UInt8} {sends : List Int}

theorem publish_hears (topic message : Option CString) (messageId : UInt16) (retain dup : UInt8) :
    Hears w (publish topic message messageId retain dup stack sends w).2
      (if (publish topic message messageId retain dup stack sends w).1 = .ret 0 then
        onPublishCalls topic message retain w else []) := by
  cases outcome : (sendLoop w.client.socket
    (sizeOfInt (serialized topic message messageId retain dup stack w).1) 0 sends).2 with
  | ret result =>
      rw [publish_eq, Prog.bind_ret (onNet_sendBytesToServer outcome _ w)]
      by_cases cut : result ≠ 0
      · rw [if_pos cut, if_neg (by simp)]
        exact Hears.of_hooks rfl
      · rw [if_neg cut, Prog.bind_ret (invoke_eq ..), Prog.pure_apply, if_pos rfl]
        exact hears_calledBack (by rfl) _ _
  | pending =>
      rw [publish_eq, Prog.bind_pending (onNet_sendBytesToServer outcome _ w), if_neg nofun]
      exact Hears.of_hooks rfl
  | undefined =>
      rw [publish_eq, Prog.bind_undefined (onNet_sendBytesToServer outcome _ w), if_neg nofun]
      exact Hears.of_hooks rfl

theorem clientPublish_zero_iff {topic message : Option CString} {messageId : UInt16}
    {retain dup : UInt8} :
    (clientPublish topic message messageId retain dup stack sends w).1 = .ret 0 ↔
      (publish topic message messageId retain dup stack sends w).1 = .ret 0 := by
  unfold clientPublish
  rcases outcome : publish topic message messageId retain dup stack sends w with ⟨o, w'⟩
  cases o with
  | ret result =>
      rw [Prog.bind_ret outcome]
      by_cases zero : result = 0
      · rw [zero]
        exact iff_of_true rfl rfl
      · rw [if_pos zero]
        exact iff_of_false nofun fun same => zero (Outcome.ret.inj same)
  | pending =>
      rw [Prog.bind_pending outcome]
  | undefined =>
      rw [Prog.bind_undefined outcome]

theorem disconnectClientTcp_hears (w : World) (answer : CloseAnswer) :
    Hears w (disconnectClientTcp answer w).2
      (if 0 ≤ w.client.socket ∧ answer = .done then onDisconnectCalls w else []) := by
  by_cases connected : 0 ≤ w.client.socket
  · have eq : disconnectClientTcp answer w =
        (do
          let closeConnection ← onNet (closeConnectionClient w.client.socket answer)
          if closeConnection < 0 then return some (-1)
          else do
            invoke w.client.config.callbacks.onDisconnect none
            return none : Prog World (Option Int)) w := by
      change (if w.client.socket < 0 then (return some (-1)) else _ : Prog World (Option Int)) w = _
      rw [if_neg (Int.not_lt.mpr connected)]
    rw [eq, Prog.bind_ret onNet_closeConnection]
    by_cases done : answer = .done
    · have both : 0 ≤ w.client.socket ∧ answer = .done := ⟨connected, done⟩
      rw [if_pos both, if_pos both, if_neg (by decide), Prog.bind_ret (invoke_eq ..)]
      exact hears_calledBack (by rfl) _ _
    · have notBoth : ¬(0 ≤ w.client.socket ∧ answer = .done) := fun both => done both.2
      rw [if_neg notBoth, if_neg notBoth, if_pos (by decide)]
      exact Hears.of_hooks rfl
  · rw [disconnectClientTcp_refuses (Int.not_le.mp connected), if_neg fun both => connected both.1]
    exact Hears.of_hooks rfl

theorem Hears.quietly {w w' w'' : World} {events : List CallbackCall} (hears : Hears w w' events)
    (same : hooks w'' = hooks w') : Hears w w'' events :=
  ⟨(congrArg Prod.fst same).trans hears.calls, (congrArg Prod.snd same).trans hears.kept⟩

theorem clientDisconnect_hears (answer answer' : CloseAnswer) :
    Hears w (clientDisconnect stack sends answer answer' w).2
      (if (0 ≤ w.client.socket ∧ accepts 2 sends = true) ∧ answer = .done then onDisconnectCalls w
        else []) := by
  by_cases whole : 0 ≤ w.client.socket ∧ accepts 2 sends = true
  · have sent : (sendLoop w.client.socket 2 0 sends).2 = .ret 0 :=
      (sendLoop_whole_iff sends Nat.zero_lt_two (by decide)).mpr whole
    have destroys : Quiet (destroyClient answer' >>= fun _ => pure (none : Option Int)) :=
      (quiet_destroyClient answer').bind fun _ => Prog.Frames.pure none
    have hears := disconnectClientTcp_hears
      (sentBy w w.client.socket (disconnectBytes stack) 2 sends) answer
    obtain ⟨callbacks, closes⟩ := disconnectClientTcp_closes
      (w := sentBy w w.client.socket (disconnectBytes stack) 2 sends) answer whole.1
    rw [clientDisconnect_eq, Prog.bind_ret (onNet_sendBytesToServer sent _ w), hangUp,
      if_neg (by decide), disconnectClient, Prog.bind_ret closes,
      if_congr (and_congr_left fun _ => iff_of_true whole whole.1) rfl rfl]
    rw [closes] at hears
    exact Hears.quietly ⟨hears.calls, hears.kept⟩ (destroys _)
  · obtain ⟨o, -, cut⟩ := clientDisconnect_cut stack answer answer' whole
    rw [cut, if_neg fun both => whole both.1]
    exact Hears.of_hooks rfl

end

theorem client_hears (c : ClientCall) (w : World) :
    Hears w (c.exec w).2 (heardOf (.client c) w) := by
  have quiet : ∀ {m : Prog World Int}, Quiet m → Hears w (returning m w).2 [] := fun frames =>
    Hears.of_hooks ((congrArg hooks (returning_snd _ w)).trans (frames w))
  cases c with
  | call c =>
      rw [ClientCall.exec]
      cases c with
      | connectClient protocol a => exact quiet (quiet_connectClient protocol a)
      | disconnectClient protocol answer =>
          cases protocol with
          | tcp => exact disconnectClientTcp_hears w answer
          | unknown => exact Hears.of_hooks rfl
      | destroyClient answer => exact quiet (quiet_destroyClient answer)
      | receiveMessage protocol granted answer =>
          exact quiet (inward_receiveMessage protocol granted answer).quiet
      | setClientId clientId granted => exact quiet (inward_setClientId clientId granted).quiet
      | setBrokerIp ip granted => exact quiet (inward_setBrokerIp ip granted).quiet
      | setConfig config grantsId grantsIp => exact quiet (inward_setConfig config grantsId grantsIp).quiet
      | setBuffer buffer => exact quiet (inward_setBuffer buffer).quiet
      | setBufferSize bufferSize => exact Hears.of_hooks rfl
      | clientConnect a stack sends => exact quiet (quiet_clientConnect a stack sends)
      | clientDisconnect stack sends answer answer' => exact clientDisconnect_hears answer answer'
      | clientPublish topic message messageId retain dup stack sends =>
          rw [Call.exec, returning_snd, clientPublish_state, heardOf,
            if_congr clientPublish_zero_iff rfl rfl]
          exact publish_hears topic message messageId retain dup
      | clientUnsubscribe topic messageId stack sends =>
          exact quiet (quiet_clientUnsubscribe topic messageId stack sends)
      | clientPingreq stack sends =>
          rw [Call.exec, returning_snd, clientPingreq_silent]
          exact Hears.of_hooks rfl
  | setQos qos => exact Hears.of_hooks rfl
  | setKeepAlive keepAlive => exact Hears.of_hooks rfl
  | setBrokerPort port => exact Hears.of_hooks rfl
  | setSocketFd fd => exact Hears.of_hooks rfl

def DefaultOrNull (w : World) : Prop :=
  w.client.config.callbacks = defaultCallbacks ∨ w.client.config.callbacks = nullCallbacks

theorem exec_callbacks (c : HookedCall) (w : World) :
    (c.exec w).2.callbacks = w.callbacks ++ heardOf c w := by
  cases c with
  | client c => exact (client_hears c w).calls
  | defineDefaultCallback => exact (List.append_nil _).symm
  | defineNullCb => exact (List.append_nil _).symm

theorem exec_defaultOrNull (c : HookedCall) (w : World) (hooked : DefaultOrNull w) :
    DefaultOrNull (c.exec w).2 := by
  cases c with
  | client c =>
      unfold DefaultOrNull
      rw [HookedCall.exec, (client_hears c w).kept]
      exact hooked
  | defineDefaultCallback => exact Or.inl rfl
  | defineNullCb => exact Or.inr rfl

/-- A publication that succeeded, with its message, or the end of a connection, with a pointer that
has not been set. -/
def Expected (e : CallbackCall) : Prop :=
  (∃ m, e = ⟨.default .onPublish, some m⟩) ∨ e = ⟨.default .onDisconnect, none⟩

theorem heardOf_expected {c : HookedCall} {w : World} (hooked : DefaultOrNull w)
    {e : CallbackCall} (member : e ∈ heardOf c w) : Expected e := by
  have publication : ∀ topic message retain, e ∈ onPublishCalls topic message retain w →
      Expected e := by
    intro topic message retain published
    obtain ⟨callback, set, rfl⟩ := List.mem_map.mp published
    rcases hooked with default | null
    · rw [default, Option.mem_toList] at set
      cases set
      exact Or.inl ⟨_, rfl⟩
    · rw [null] at set
      cases set
  have ending : e ∈ onDisconnectCalls w → Expected e := by
    intro ended
    obtain ⟨callback, set, rfl⟩ := List.mem_map.mp ended
    rcases hooked with default | null
    · rw [default, Option.mem_toList] at set
      cases set
      exact Or.inr rfl
    · rw [null] at set
      cases set
  unfold heardOf at member
  split at member
  · split at member
    · exact publication _ _ _ member
    · cases member
  · split at member
    · exact ending member
    · cases member
  · split at member
    · exact ending member
    · cases member
  · cases member

theorem callbacks_called (config : Config) (bufferSize : Nat) (before w : World)
    (created : Created config bufferSize before w) (calls : List HookedCall) :
    calledSince w (Prog.run HookedCall.exec calls w) =
        (Prog.reached HookedCall.exec calls w).flatMap (fun x => heardOf x.1 x.2) ∧
      ∀ e ∈ calledSince w (Prog.run HookedCall.exec calls w), Expected e := by
  have log : calledSince w (Prog.run HookedCall.exec calls w) =
      (Prog.reached HookedCall.exec calls w).flatMap fun x => heardOf x.1 x.2 := by
    rw [calledSince, Prog.run_logs exec_callbacks, List.drop_left]
  have hooked : DefaultOrNull w := by
    obtain ⟨-, id, ip, rfl⟩ := created_cases created
    exact Or.inl rfl
  refine ⟨log, fun e member => ?_⟩
  rw [log] at member
  obtain ⟨x, inRun, heard⟩ := List.mem_flatMap.mp member
  exact heardOf_expected (Prog.reached_keeps hooked exec_defaultOrNull x inRun) heard

def silencedRun : List HookedCall :=
  [.client (.call (.clientConnect connectsTo3 (fun _ => 0) [100])), .client hiThere.call,
    .defineNullCb, .client hiThere.call, .defineDefaultCallback,
    .client (.call (.clientDisconnect (fun _ => 0) [2] .done .done))]

theorem callbacks_called_silenced :
    calledSince sampleClient (Prog.run HookedCall.exec silencedRun sampleClient) =
      [⟨.default .onPublish, some ⟨some (CString.letters 1), some (CString.letters 2), 0, 0⟩⟩,
        ⟨.default .onDisconnect, none⟩] :=
  (callbacks_called sampleConfig 256 sampleWorld sampleClient sampleClient_created
    silencedRun).1.trans (by decide +kernel)

end Dpubsub.Proof
