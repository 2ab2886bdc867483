import Dpubsub.Model.ClientTcpApi

/-!
# `create_client`
-/

namespace Dpubsub.Proof
open Dpubsub.Lib Dpubsub.Model

theorem onHeap_eq {α : Type} {m : Prog Heap α} {w : World} {o : Outcome α} {h : Heap}
    (call : m w.heap = (o, h)) : onHeap m w = (o, { w with heap := h }) := by
  rw [onHeap, Prog.zoom_apply, call]

def withFreed (w : World) (p : Ptr) : World := { w with heap := released w.heap p }

theorem onHeap_free_iff {p : Ptr} {w w' : World} : onHeap (free p) w = (.ret (), w') ↔
    (∀ a, p = some a → w.heap.live a = true) ∧ w' = withFreed w p := by
  constructor
  · intro call
    rw [onHeap, Prog.zoom_apply] at call
    obtain ⟨outcome, after⟩ := Prod.mk.inj call
    obtain ⟨live, freed⟩ := free_iff.mp (Prod.ext outcome rfl)
    exact ⟨live, after.symm.trans (congrArg (fun h => { w with heap := h }) freed)⟩
  · rintro ⟨live, rfl⟩
    exact onHeap_eq (free_iff.mpr ⟨live, rfl⟩)

theorem freeField_iff {p : Ptr} {w w' : World} :
    Prog.when p.isSome (onHeap (free p)) w = (.ret (), w') ↔
      (∀ a, p = some a → w.heap.live a = true) ∧ w' = withFreed w p := by
  rw [← onHeap_free_iff]
  cases p with
  | none => exact Iff.rfl
  | some a => rw [Prog.when, if_pos (Option.isSome_some ..)]

theorem freeField_live {p : Ptr} {w : World} (live : ∀ a, p = some a → w.heap.live a = true) :
    Prog.when p.isSome (onHeap (free p)) w = (.ret (), withFreed w p) :=
  freeField_iff.mpr ⟨live, rfl⟩

theorem setConfigField_bind {α : Type} (f : Config → Config) (k : Unit → Prog World α) (w : World) :
    (setConfigField f >>= k) w =
      k () { w with client := { w.client with config := f w.client.config } } := rfl

theorem getClient_bind {α : Type} (k : Client → Prog World α) (w : World) :
    (getClient >>= k) w = k w.client w := rfl

theorem setClient_bind {α : Type} (f : Client → Client) (k : Unit → Prog World α) (w : World) :
    (setClient f >>= k) w = k () { w with client := f w.client } := rfl

section
variable {config : Config} {bufferSize : Nat} {grantsId grantsIp grantsBuffer : Bool}
  {before : World}

def bufferSizeOf (bufferSize : Nat) : Nat := if bufferSize = 0 then initialBufferSize else bufferSize

def allocated (h : Heap) (id ip : CString) (bufferSize : Nat) : Heap :=
  ((h.alloc (id.bytes ++ [0])).alloc (ip.bytes ++ [0])).alloc
    (List.replicate (bufferSizeOf bufferSize) 0)

def newClient (h : Heap) (config : Config) (bufferSize : Nat) : Client where
  socket := -1
  buffer := some (h.next + 2)
  bufferSize := bufferSizeOf bufferSize
  config :=
    { clientId := some h.next
      keepAlive := config.keepAlive
      ipBroker := some (h.next + 1)
      portBroker := config.portBroker
      defaultQos := config.defaultQos
      callbacks := defaultCallbacks }

/-- How `create_client` may end: it gives back what it took, unless it succeeds. -/
inductive CreateEnds (config : Config) (bufferSize : Nat) (before : World) :
    Outcome Int × World → Prop where
  | created (id ip : CString) : CreateEnds config bufferSize before
      (.ret 0, { before with
        client := newClient before.heap config bufferSize
        heap := allocated before.heap id ip bufferSize })
  | failed (client : Client) (h : Heap) (same : ∀ a, h.live a = before.heap.live a) :
      CreateEnds config bufferSize before (.ret (-1), { before with client := client, heap := h })
  | unreadable (w : World) : CreateEnds config bufferSize before (.undefined, w)

def createFromIp (config : Config) (bufferSize : Nat) (grantsIp grantsBuffer : Bool)
    (clientId : Ptr) : Prog World Int := do
  setConfigField ({ · with keepAlive := config.keepAlive })
  let ipBroker ← onHeap (strdup config.ipBroker grantsIp)
  setConfigField ({ · with ipBroker := ipBroker })
  if ipBroker = none then do
    onHeap (free clientId)
    return -1
  else do
    setConfigField ({ · with portBroker := config.portBroker, defaultQos := config.defaultQos })
    setClient ({ · with bufferSize := bufferSizeOf bufferSize })
    let buffer ← onHeap (malloc (bufferSizeOf bufferSize) grantsBuffer)
    setClient ({ · with buffer := buffer })
    if buffer = none then do
      onHeap (free ipBroker)
      onHeap (free clientId)
      return -1
    else do
      let defined ← defineDefaultCallback
      if defined ≠ 0 then do
        onHeap (free ipBroker)
        onHeap (free clientId)
        onHeap (free buffer)
        return -1
      else do
        setClient ({ · with socket := -1 })
        return 0

theorem createClient_eq : createClient (some config) bufferSize grantsId grantsIp grantsBuffer =
    (do
      let clientId ← onHeap (strdup config.clientId grantsId)
      setConfigField ({ · with clientId := clientId })
      if clientId = none then return -1
      else createFromIp config bufferSize grantsIp grantsBuffer clientId : Prog World Int) := rfl

theorem release_alloc_live (h : Heap) (bytes : List UInt8) (a : Nat) :
    ((h.alloc bytes).release h.next).live a = h.live a := by
  rw [Heap.live_release, Heap.live_alloc]
  rcases eq_or_ne a h.next with rfl | ne
  · simp [Heap.live_next]
  · simp [ne]

theorem defineDefaultCallback_eq (w : World) : defineDefaultCallback w = (.ret 0, { w with
    client := { w.client with config := { w.client.config with callbacks := defaultCallbacks } } }) :=
  rfl

theorem createFromIp_ends (id : CString) (client : Client)
    (copied : client.config.clientId = some before.heap.next) :
    CreateEnds config bufferSize before
      (createFromIp config bufferSize grantsIp grantsBuffer (some before.heap.next)
        { before with client := client, heap := before.heap.alloc (id.bytes ++ [0]) }) := by
  have idLive : (before.heap.alloc (id.bytes ++ [0])).live before.heap.next = true := by
    simp [Heap.live_alloc]
  rw [createFromIp, setConfigField_bind]
  cases readable : (before.heap.alloc (id.bytes ++ [0])).string? config.ipBroker with
  | none =>
      rw [Prog.bind_undefined (onHeap_eq (strdup_unreadable readable grantsIp))]
      exact .unreadable _
  | some ip =>
      cases grantsIp with
      | false =>
          rw [Prog.bind_ret (onHeap_eq (strdup_refused readable)), setConfigField_bind, if_pos rfl,
            Prog.bind_ret (onHeap_eq (free_live idLive))]
          exact .failed _ _ (release_alloc_live _ _)
      | true =>
          rw [Prog.bind_ret (onHeap_eq (strdup_granted readable)), setConfigField_bind,
            if_neg (Option.some_ne_none _), setConfigField_bind, setClient_bind]
          dsimp only
          cases grantsBuffer with
          | false =>
              have ipLive : ((before.heap.alloc (id.bytes ++ [0])).alloc (ip.bytes ++ [0])).live
                  (before.heap.alloc (id.bytes ++ [0])).next = true := by
                simp [Heap.live_alloc]
              have same : ∀ a, (((before.heap.alloc (id.bytes ++ [0])).alloc
                  (ip.bytes ++ [0])).release (before.heap.alloc (id.bytes ++ [0])).next).live a =
                  (before.heap.alloc (id.bytes ++ [0])).live a := release_alloc_live _ _
              rw [Prog.bind_ret (onHeap_eq (malloc_refused _)), setClient_bind,
                if_pos rfl,
                Prog.bind_ret (onHeap_eq (free_live ipLive)),
                Prog.bind_ret (onHeap_eq (free_live ((same _).trans idLive)))]
              refine .failed _ _ fun a => ?_
              rw [Heap.live_release, same, ← Heap.live_release, release_alloc_live]
          | true =>
              rw [Prog.bind_ret (onHeap_eq (malloc_granted _)), setClient_bind,
                if_neg (Option.some_ne_none _), Prog.bind_ret (defineDefaultCallback_eq _),
                if_neg (by decide), setClient_bind]
              dsimp only
              rw [copied]
              exact .created id ip

theorem createClient_ends (config : Config) (bufferSize : Nat)
    (grantsId grantsIp grantsBuffer : Bool) (before : World) : CreateEnds config bufferSize before
    (createClient (some config) bufferSize grantsId grantsIp grantsBuffer before) := by
  rw [createClient_eq]
  cases readable : before.heap.string? config.clientId with
  | none =>
      rw [Prog.bind_undefined (onHeap_eq (strdup_unreadable readable grantsId))]
      exact .unreadable _
  | some id =>
      cases grantsId with
      | false =>
          rw [Prog.bind_ret (onHeap_eq (strdup_refused readable))]
          exact .failed _ _ fun _ => rfl
      | true =>
          rw [Prog.bind_ret (onHeap_eq (strdup_granted readable))]
          exact createFromIp_ends id _ rfl

theorem created_cases {w : World} (created : Created config bufferSize before w) :
    Untouched before ∧ ∃ id ip, w = { before with
      client := newClient before.heap config bufferSize
      heap := allocated before.heap id ip bufferSize } := by
  obtain ⟨untouched, grantsId, grantsIp, grantsBuffer, returns⟩ := created
  have ends := createClient_ends config bufferSize grantsId grantsIp grantsBuffer before
  rw [returns] at ends
  cases ends with
  | created id ip => exact ⟨untouched, id, ip, rfl⟩

end
def sampleWorld : World where
  client := ⟨0, none, 0, ⟨none, 0, none, 0, 0, ⟨none, none, none, none, none, none⟩⟩⟩
  heap := (Heap.empty.alloc [0x63, 0x00]).alloc [0x31, 0x00]
  net := Net.empty
  callbacks := []
  recvs := []

def sampleConfig : Config := ⟨some 0, 60, some 1, 1883, 0, defaultCallbacks⟩

def sampleClient : World := (createClient (some sampleConfig) 256 true true true sampleWorld).2

theorem sampleClient_created : Created sampleConfig 256 sampleWorld sampleClient :=
  ⟨⟨fun _ => rfl, rfl, rfl, rfl⟩, true, true, true, rfl⟩

def connectsTo3 : ConnectAnswers := ⟨3, 1, 0, 0, .done⟩

def connectsTo4 : ConnectAnswers := ⟨4, 1, 0, 0, .done⟩

end Dpubsub.Proof
