import Dpubsub.Proof.Connection
import Dpubsub.Proof.Created
import Dpubsub.Proof.Requests

/-!
# Calls that stay inside the client

The setters, `receive_message` and the freeing of blocks leave the descriptors, the socket field
and the callbacks alone.
-/

namespace Dpubsub.Proof
open Dpubsub.Lib Dpubsub.Model

def outside (w : World) : Net × Int × List CallbackCall × Callbacks :=
  (w.net, w.client.socket, w.callbacks, w.client.config.callbacks)

def Inward {α : Type} (m : Prog World α) : Prop := Prog.Frames outside m

section
variable {α : Type}

theorem inward_onHeap (m : Prog Heap α) : Inward (onHeap m) := Prog.Frames.zoom (fun _ _ => by rfl) m

theorem inward_getClient : Inward getClient := fun _ => by rfl

theorem inward_setClient {f : Client → Client} (socket : ∀ c, (f c).socket = c.socket)
    (callbacks : ∀ c, (f c).config.callbacks = c.config.callbacks) : Inward (setClient f) := by
  intro w
  change (w.net, (f w.client).socket, w.callbacks, (f w.client).config.callbacks) = _
  rw [socket, callbacks]
  rfl

theorem inward_setConfigField {f : Config → Config} (callbacks : ∀ c, (f c).callbacks = c.callbacks) :
    Inward (setConfigField f) := inward_setClient (fun _ => by rfl) fun _ => callbacks _

theorem inward_freeField (p : Ptr) {f : Config → Config}
    (keeps : ∀ c, (f c).callbacks = c.callbacks) : Inward (Prog.when p.isSome do
      onHeap (free p)
      setConfigField f) :=
  ((inward_onHeap _).bind fun _ => inward_setConfigField keeps).when

theorem inward_freeBlocks (client : Client) : Inward (freeBlocks client) :=
  (inward_onHeap _).bind fun _ => (inward_freeField _ fun _ => by rfl).bind fun _ =>
    (inward_freeField _ fun _ => by rfl).bind fun _ => Prog.Frames.pure 0

theorem inward_replaceField (field : Ptr) (p : Ptr) (granted : Bool) {f : Ptr → Config → Config}
    (keeps : ∀ copy c, (f copy c).callbacks = c.callbacks) : Inward (do
      Prog.when field.isSome (onHeap (free field))
      let copy ← onHeap (strdup p granted)
      setConfigField (f copy)
      if copy = none then return (-1 : Int)
      else return 0) :=
  (inward_onHeap _).when.bind fun _ => (inward_onHeap _).bind fun copy =>
    (inward_setConfigField (keeps copy)).bind fun _ =>
      (Prog.Frames.pure _).ite (Prog.Frames.pure _)

theorem inward_setClientId (clientId : Ptr) (granted : Bool) : Inward (setClientId clientId granted) :=
  inward_getClient.bind fun _ => inward_replaceField _ clientId granted fun _ _ => by rfl

theorem inward_setBrokerIp (ip : Ptr) (granted : Bool) : Inward (setBrokerIp ip granted) :=
  inward_getClient.bind fun _ => inward_replaceField _ ip granted fun _ _ => by rfl

theorem inward_copyField (p : Ptr) (granted : Bool) : Inward (copyField p granted) :=
  (inward_onHeap _).ite (Prog.Frames.pure _)

theorem inward_setConfig (config : Option Config) (grantsId grantsIp : Bool) :
    Inward (setConfig config grantsId grantsIp) := by
  cases config with
  | none => exact Prog.Frames.pure _
  | some config =>
      refine inward_getClient.bind fun client => (inward_onHeap _).when.bind fun _ =>
        (inward_onHeap _).when.bind fun _ => (inward_copyField _ _).bind fun clientId =>
          (inward_setConfigField fun _ => by rfl).bind fun _ => (Prog.Frames.pure _).ite ?_
      refine (inward_copyField _ _).bind fun ipBroker =>
        (inward_setConfigField fun _ => by rfl).bind fun _ => Prog.Frames.ite ?_ ?_
      · exact (inward_onHeap _).bind fun _ => Prog.Frames.pure _
      · exact (inward_setConfigField fun _ => by rfl).bind fun _ => Prog.Frames.pure _

theorem inward_setBuffer (buffer : Ptr) : Inward (setBuffer buffer) :=
  inward_getClient.bind fun _ => (inward_onHeap _).when.bind fun _ =>
    (inward_setClient (fun _ => by rfl) fun _ => by rfl).bind fun _ => Prog.Frames.pure _

theorem inward_receiveMessageTcp (granted : Bool) (answer : RecvAnswer) :
    Inward (receiveMessageTcp granted answer) := by
  refine inward_getClient.bind fun client => (Prog.Frames.pure _).ite ?_
  refine (inward_setClient (fun _ => by rfl) fun _ => by rfl).when.bind fun _ =>
    inward_getClient.bind fun client => ?_
  have allocates : Inward (do
      let buffer ← onHeap (malloc client.bufferSize granted)
      setClient ({ · with buffer := buffer })) :=
    (inward_onHeap _).bind fun _ => inward_setClient (fun _ => by rfl) fun _ => by rfl
  refine allocates.when.bind fun _ => ?_
  refine Prog.Frames.get.bind fun w => ?_
  split
  · exact Prog.Frames.pure _
  · refine (Prog.Frames.modify fun _ => by rfl).bind fun _ => Prog.Frames.stuck.ite ?_
    exact (Prog.Frames.modify fun _ => by rfl).bind fun _ =>
      (Prog.Frames.pure _).ite (Prog.Frames.pure _)

theorem inward_receiveMessage (protocol : Protocol) (granted : Bool) (answer : RecvAnswer) :
    Inward (receiveMessage protocol granted answer) := by
  refine inward_getClient.bind fun client => (Prog.Frames.pure _).ite ?_
  cases protocol with
  | tcp => exact inward_receiveMessageTcp granted answer
  | unknown => exact Prog.Frames.pure _

end

theorem clientUnsubscribe_sends (topic : Option CString) (messageId : UInt16)
    (stack : Nat → UInt8) (sends : List Int) (w : World) : ∃ o,
    clientUnsubscribe topic messageId stack sends w = (o, w) ∨ ∃ data length,
      clientUnsubscribe topic messageId stack sends w =
        (o, sentBy w w.client.socket data length sends) := by
  cases topic with
  | none => exact ⟨.undefined, Or.inl rfl⟩
  | some topic =>
      rw [clientUnsubscribe, getClient_bind]
      change ∃ o, (if unsubscribeSize topic ≤ 0 ∨ 2 ^ 31 ≤ unsubscribeSize topic then Prog.stuck
        else _ : Prog World Int) w = (o, w) ∨ ∃ data length,
          (if unsubscribeSize topic ≤ 0 ∨ 2 ^ 31 ≤ unsubscribeSize topic then Prog.stuck
            else _ : Prog World Int) w = (o, sentBy w w.client.socket data length sends)
      by_cases overflow : unsubscribeSize topic ≤ 0 ∨ 2 ^ 31 ≤ unsubscribeSize topic
      · rw [if_pos overflow]
        exact ⟨.undefined, Or.inl rfl⟩
      · rw [if_neg overflow, ← unsubscribeSize]
        rcases serializeUnsubscribe .unsubscribe (some (Buffer.fresh stack))
          (sizeOfInt (unsubscribeSize topic)) (some topic) messageId with ⟨unsubscribe, buffer⟩
        by_cases refused : unsubscribe < 0
        · simp only [if_pos refused]
          exact ⟨.ret (-1), Or.inl rfl⟩
        · simp only [if_neg refused]
          exact ⟨_, Or.inr ⟨contents buffer, sizeOfInt unsubscribe,
            sendReport_eq w.client.socket (contents buffer) (sizeOfInt unsubscribe) sends w⟩⟩

end Dpubsub.Proof
