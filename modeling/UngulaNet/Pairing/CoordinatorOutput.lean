import UngulaNet.Foundation.Outputs
import UngulaNet.Comm.Frames
import UngulaNet.Pairing.Rendezvous

/-!
# What a coordinator says, and to whom

Abstractly a coordinator is a responder: a table of clients, a beacon timer and a channel.
It answers at most once to each thing that happens to it. By `coordinator_refines`
the frames a coordinator sends along any run, and the table it ends with, are those of the
responder.
-/

namespace UngulaNet.Pairing
open Comm Runs Slots
set_option autoImplicit false

abbrev ClientTable := Fin MAX_PAIRED_CLIENTS → Option ClientEntry

namespace ClientTable

/-- The slot for a request: the sender's own, or a free one, or one with the same id. -/
def slotFor (t : ClientTable) (mac : MacAddress) (deviceId : UInt8) :
    Option (Fin MAX_PAIRED_CLIENTS) :=
  (Fin.find? fun i => (t i).any fun e => e.1 == mac).or
    ((Fin.find? fun i => (t i).isNone).or
      (Fin.find? fun i => (t i).any fun e => e.2 == deviceId))

/-- The table with the client in it, if there is a slot for it. -/
def enter (t : ClientTable) (mac : MacAddress) (deviceId : UInt8) : Option ClientTable :=
  (t.slotFor mac deviceId).map fun i => Function.update t i (some (mac, deviceId))

def knows (t : ClientTable) (mac : MacAddress) : Bool :=
  (Fin.find? fun i => (t i).any fun e => e.1 == mac).isSome

end ClientTable

/-- What a received buffer or a call means to a coordinator. -/
inductive Inbound where
  | enable
  | disable
  | tick (nowMs : UInt32)
  | request (src : MacAddress) (deviceId : UInt8)
  | probe (src : MacAddress)
  | forgetAll
  | nothing

inductive Outbound where
  | beacon
  | confirm (accepted : Bool)
  | ack
  deriving DecidableEq

def Outbound.bytes (ch : UInt8) : Outbound → List UInt8
  | .beacon => (PairingBeacon.init ch).toBytes
  | .confirm accepted => (PairingConfirm.init accepted ch).toBytes
  | .ack => (ReconnectAck.init ch).toBytes

structure Responder where
  table : ClientTable
  enabled : Bool
  lastBeacon : UInt32

namespace Responder

def beaconDue (r : Responder) (nowMs : UInt32) : Bool :=
  r.enabled && decide (BEACON_INTERVAL_MS ≤ nowMs - r.lastBeacon)

def step (r : Responder) : Inbound → Responder
  | .enable => { r with enabled := true, lastBeacon := 0 }
  | .disable => { r with enabled := false }
  | .tick nowMs => if r.beaconDue nowMs then { r with lastBeacon := nowMs } else r
  | .request src deviceId => { r with table := (r.table.enter src deviceId).getD r.table }
  | .probe _ => r
  | .forgetAll => { r with table := fun _ => none }
  | .nothing => r

/-- What is said, and to whom. -/
def answers (r : Responder) : Inbound → List (MacAddress × Outbound)
  | .tick nowMs => if r.beaconDue nowMs then [(.broadcast, .beacon)] else []
  | .request src deviceId => [(src, .confirm (r.table.enter src deviceId).isSome)]
  | .probe src => if r.table.knows src then [(src, .ack)] else []
  | _ => []

end Responder

/-- The dispatcher takes the buffer for a reconnect probe. -/
def IsReconnectProbe (data : List UInt8) : Prop :=
  8 ≤ data.length ∧ (ReconnectProbe.ofBytes data).isValid = true

instance (data : List UInt8) : Decidable (IsReconnectProbe data) :=
  inferInstanceAs (Decidable (_ ∧ _))

theorem magic_of_isReconnectProbe {data : List UInt8} (h : IsReconnectProbe data) :
    data.take 4 = RECONNECT_MAGIC := by
  have hvalid := h.2
  simp only [ReconnectProbe.isValid, ReconnectProbe.ofBytes, beq_iff_eq] at hvalid
  exact hvalid

theorem not_isReconnectProbe_of_isRequest {data : List UInt8}
    (h : PairingCoordinator.IsRequest data) : ¬ IsReconnectProbe data := fun hp =>
  pairing_magic_ne_reconnect_magic
    ((PairingCoordinator.magic_of_isRequest h).symm.trans (magic_of_isReconnectProbe hp))

def CoordinatorOp.inbound : CoordinatorOp → Inbound
  | .loadPairedClients => .nothing
  | .enablePairing => .enable
  | .disablePairing => .disable
  | .loop nowMs => .tick nowMs
  | .handleReceived src data =>
    if IsReconnectProbe data then .probe src
    else if PairingCoordinator.IsRequest data then
      .request src (PairingRequest.ofBytes data).deviceId
    else .nothing
  | .onClientPaired => .nothing
  | .unpairAll => .forgetAll

theorem inbound_probe (src : MacAddress) {data : List UInt8} (h : IsReconnectProbe data) :
    (CoordinatorOp.handleReceived src data).inbound = .probe src := if_pos h

theorem inbound_request (src : MacAddress) {data : List UInt8}
    (h : PairingCoordinator.IsRequest data) : (CoordinatorOp.handleReceived src data).inbound =
      .request src (PairingRequest.ofBytes data).deviceId :=
  (if_neg (not_isReconnectProbe_of_isRequest h)).trans (if_pos h)

theorem inbound_other (src : MacAddress) {data : List UInt8} (hp : ¬ IsReconnectProbe data)
    (hr : ¬ PairingCoordinator.IsRequest data) :
    (CoordinatorOp.handleReceived src data).inbound = .nothing :=
  (if_neg hp).trans (if_neg hr)

namespace PairingCoordinator
variable {σ : Type} [ITransport σ]

/-- The coordinator after some frames from one sender. -/
def hearAll (c : PairingCoordinator σ) (src : MacAddress) (frames : List (List UInt8)) :
    PairingCoordinator σ :=
  frames.foldl (fun c data => (c.handleReceived src data).2) c

@[simp] theorem hearAll_nil (c : PairingCoordinator σ) (src : MacAddress) :
    c.hearAll src [] = c := rfl

@[simp] theorem hearAll_single (c : PairingCoordinator σ) (src : MacAddress) (data : List UInt8) :
    c.hearAll src [data] = (c.handleReceived src data).2 := rfl

theorem handleReceived_probe (c : PairingCoordinator σ) (src : MacAddress) {data : List UInt8}
    (h : IsReconnectProbe data) :
    c.handleReceived src data = (true, c.handleReconnectProbe src (.ofBytes data)) := by
  rw [handleReceived, if_neg (by have := h.1; omega), if_pos ⟨magic_of_isReconnectProbe h, h.2⟩]

theorem handleReceived_other (c : PairingCoordinator σ) (src : MacAddress) {data : List UInt8}
    (hp : ¬ IsReconnectProbe data) (hr : ¬ IsRequest data) :
    c.handleReceived src data = (false, c) := by
  unfold handleReceived
  split
  · rfl
  · rename_i hlen
    rw [if_neg (fun h => hp ⟨by omega, h.2⟩), if_neg (fun h => hr ⟨by omega, h.2⟩)]

omit [ITransport σ] in
theorem slotOf_table (c : PairingCoordinator σ) (mac : MacAddress) :
    c.slotOf mac = Fin.find? fun i => (c.table i).any fun e => e.1 == mac := by
  unfold slotOf
  congr 1
  funext i
  cases h : (c.clients i).active <;> simp [table, PairedClientInfo.entry, h]

omit [ITransport σ] in
theorem freeSlot_table (c : PairingCoordinator σ) :
    c.freeSlot = Fin.find? fun i => (c.table i).isNone := by
  unfold freeSlot
  congr 1
  funext i
  cases h : (c.clients i).active <;> simp [table, PairedClientInfo.entry, h]

omit [ITransport σ] in
theorem slotWithId_table (c : PairingCoordinator σ) (deviceId : UInt8) :
    c.slotWithId deviceId = Fin.find? fun i => (c.table i).any fun e => e.2 == deviceId := by
  unfold slotWithId
  congr 1
  funext i
  cases h : (c.clients i).active <;> simp [table, PairedClientInfo.entry, h]

omit [ITransport σ] in
theorem isPaired_eq_knows (c : PairingCoordinator σ) (mac : MacAddress) :
    c.isPaired mac = ClientTable.knows c.table mac := by
  rw [isPaired, slotOf_table]
  rfl

omit [ITransport σ] in
theorem slotFor_table (c : PairingCoordinator σ) (mac : MacAddress) (deviceId : UInt8) :
    ClientTable.slotFor c.table mac deviceId =
      (c.slotOf mac).or (c.freeSlot.or (c.slotWithId deviceId)) := by
  rw [slotOf_table, freeSlot_table, slotWithId_table]
  rfl

/-- Storing a client enters it into the table, and says whether there was a slot for it. -/
theorem storePairedClient_enter (c : PairingCoordinator σ) (mac : MacAddress)
    (deviceId : UInt8) : (c.storePairedClient mac deviceId).2.table =
        (ClientTable.enter c.table mac deviceId).getD c.table ∧
      (c.storePairedClient mac deviceId).1 = (ClientTable.enter c.table mac deviceId).isSome := by
  unfold ClientTable.enter
  rw [slotFor_table]
  rcases c.storePairedClient_cases mac deviceId with
    ⟨i, hm, hs⟩ | ⟨i, hm, hf, hs⟩ | ⟨i, hm, hf, hd, hs⟩ | ⟨hn, hs⟩
  · obtain ⟨hactive, hmac⟩ := slotOf_spec hm
    rw [hs, hm]
    refine ⟨?_, rfl⟩
    funext j
    refine (table_update j).trans ?_
    simp [PairedClientInfo.entry, hactive, hmac]
  · rw [hs, hm, hf]
    exact ⟨funext fun j => table_update j, rfl⟩
  · rw [hs, hm, hf, hd]
    exact ⟨funext fun j => table_update j, rfl⟩
  · have hm : c.slotOf mac = none := by
      cases hm : c.slotOf mac with
      | none => rfl
      | some i => exact absurd (Or.inl (by simp [isPaired, hm])) hn
    have hf : c.freeSlot = none := by
      cases hf : c.freeSlot with
      | none => rfl
      | some i => exact absurd (Or.inr (Or.inl ⟨i, freeSlot_spec hf⟩)) hn
    have hd : c.slotWithId deviceId = none := by
      cases hd : c.slotWithId deviceId with
      | none => rfl
      | some i => exact absurd (Or.inr (Or.inr ⟨i, slotWithId_spec hd⟩)) hn
    rw [hs, hm, hf, hd]
    exact ⟨rfl, rfl⟩

def responder (c : PairingCoordinator σ) : Responder :=
  { table := c.table, enabled := c.pairingEnabled, lastBeacon := c.lastBeaconMs }

end PairingCoordinator

/-- What a step does as seen from outside: the responder it makes of the coordinator, the
frames it sends, and that it leaves the radio on its channel. -/
structure Responds {σ : Type} [ITransport σ] (c c' : PairingCoordinator σ) (r : Responder)
    (answers : List (MacAddress × Outbound)) : Prop where
  responder : c'.responder = r
  calls : Transport.CallsOnly (fun _ => True) c.transport c'.transport
  frames : Transport.framesSince c.transport c'.transport =
    answers.map fun a => (a.1, a.2.bytes c.transport.getChannel)
  channel : c'.transport.getChannel = c.transport.getChannel

section Refinement
variable {σ : Type} [ITransport σ]
open PairingCoordinator Transport

theorem Responds.silent {c c' : PairingCoordinator σ} {r : Responder} (h : c'.responder = r)
    (ht : c'.transport = c.transport) : Responds c c' r [] := by
  refine ⟨h, CallsOnly.of_eq ht, ?_, by rw [ht]⟩
  rw [ht, framesSince_self]
  rfl

variable [ChannelFrame σ]

/-- An answer goes to one destination, which is made a peer for it. -/
theorem Responds.single {c c' : PairingCoordinator σ} {r : Responder} (h : c'.responder = r)
    {dst : MacAddress} {o : Outbound} (ht : c'.transport =
      (c.transport.addPeer dst 0).send dst (o.bytes c.transport.getChannel)) :
    Responds c c' r [(dst, o)] := by
  refine ⟨h, ?_, ?_, ?_⟩
  · rw [ht]
    exact (CallsOnly.snoc (calls_addPeer _ _ 0) trivial).trans
      (CallsOnly.snoc (calls_send _ _ _) trivial)
  · rw [ht]
    exact framesSince_addPeer_send _ _ 0 _
  · rw [ht, getChannel_send, getChannel_addPeer]

theorem loop_responds (c : PairingCoordinator σ) (nowMs : UInt32) :
    Responds c (c.loop nowMs) (c.responder.step (.tick nowMs))
      (c.responder.answers (.tick nowMs)) := by
  unfold PairingCoordinator.loop Responder.step Responder.answers Responder.beaconDue
  by_cases hon : c.pairingEnabled = true
  · by_cases hdue : nowMs - c.lastBeaconMs ≥ BEACON_INTERVAL_MS
    · simp only [hon, hdue, responder, Bool.not_true, Bool.false_eq_true, if_false, if_true,
        decide_true, Bool.and_self]
      exact Responds.single (o := .beacon) rfl rfl
    · simp only [hon, responder, Bool.not_true, Bool.false_eq_true, if_false, if_neg hdue,
        decide_eq_false (p := BEACON_INTERVAL_MS ≤ nowMs - c.lastBeaconMs) hdue, Bool.and_false]
      exact Responds.silent (by rw [responder, hon]) rfl
  · simp only [hon, responder, Bool.not_false, if_true, Bool.false_and, Bool.false_eq_true,
      if_false]
    exact Responds.silent (by simp [responder, hon]) rfl

theorem handleReconnectProbe_responds (c : PairingCoordinator σ) (src : MacAddress)
    (probe : ReconnectProbe) : Responds c (c.handleReconnectProbe src probe)
      (c.responder.step (.probe src)) (c.responder.answers (.probe src)) := by
  unfold handleReconnectProbe Responder.step Responder.answers
  rw [isPaired_eq_knows]
  dsimp only [responder]
  by_cases hknown : ClientTable.knows c.table src = true
  · simp only [hknown, Bool.not_true, Bool.false_eq_true, if_false, if_true]
    exact Responds.single (o := .ack) rfl rfl
  · simp only [hknown, Bool.not_false, if_true, Bool.false_eq_true, if_false]
    exact Responds.silent rfl rfl

theorem handlePairingRequest_responds (c : PairingCoordinator σ) (src : MacAddress)
    (req : PairingRequest) : Responds c (c.handlePairingRequest src req)
      (c.responder.step (.request src req.deviceId))
      (c.responder.answers (.request src req.deviceId)) := by
  obtain ⟨hclients, _, _, htransport⟩ := c.handlePairingRequest_fields src req
  obtain ⟨htable, hstored⟩ := c.storePairedClient_enter src req.deviceId
  have hsame := c.handlePairingRequest_sameBeacon src req
  have hchannel := c.storePairedClient_getChannel src req.deviceId
  have hevict := c.storePairedClient_calls src req.deviceId
  have hcalls := confirmRequest_calls (c.storePairedClient src req.deviceId).2
    (c.storePairedClient src req.deviceId).1 src
  have hafter : CallsOnly (fun _ => True) (c.storePairedClient src req.deviceId).2.transport
      ((c.storePairedClient src req.deviceId).2.confirmRequest
        (c.storePairedClient src req.deviceId).1 src) :=
    (callsOnly_iff hcalls).mpr fun _ _ => trivial
  refine ⟨?_, ?_, ?_, ?_⟩
  · unfold PairingCoordinator.responder Responder.step
    rw [hsame.pairingEnabled, hsame.lastBeaconMs]
    have : (c.handlePairingRequest src req).table =
        (c.storePairedClient src req.deviceId).2.table := by
      unfold table
      rw [hclients]
    rw [this, htable]
  · rw [htransport]
    exact (hevict.imp fun _ _ => trivial).trans hafter
  · rw [htransport, framesSince_trans (hevict.imp fun _ _ => trivial) hafter,
      framesSince_of_callsOnly (hevict.imp ?_), framesSince_eq hcalls]
    · rw [getChannel_addPeer, hchannel]
      simp only [Responder.answers, responder, ← hstored]
      rfl
    · rintro call ⟨m, rfl⟩
      rfl
  · rw [htransport, confirmRequest, getChannel_send, getChannel_addPeer, hchannel]

theorem handleReceived_responds (c : PairingCoordinator σ) (src : MacAddress)
    (data : List UInt8) : Responds c (c.handleReceived src data).2
      (c.responder.step (CoordinatorOp.handleReceived src data).inbound)
      (c.responder.answers (CoordinatorOp.handleReceived src data).inbound) := by
  by_cases hp : IsReconnectProbe data
  · rw [c.handleReceived_probe src hp, inbound_probe src hp]
    exact handleReconnectProbe_responds c src (.ofBytes data)
  by_cases hr : IsRequest data
  · rw [c.handleReceived_request src hr, inbound_request src hr]
    exact handlePairingRequest_responds c src (.ofBytes data)
  · rw [c.handleReceived_other src hp hr, inbound_other src hp hr]
    exact Responds.silent rfl rfl

theorem unpairAll_transport (c : PairingCoordinator σ) :
    CallsOnly (fun call => call.frame = none) c.transport c.unpairAll.transport ∧
      c.unpairAll.transport.getChannel = c.transport.getChannel := by
  refine sweep_invariant (fun c' : PairingCoordinator σ =>
    CallsOnly (fun call => call.frame = none) c.transport c'.transport ∧
      c'.transport.getChannel = c.transport.getChannel) ?_ ⟨CallsOnly.refl _, rfl⟩
  rintro i c' ⟨hcalls, hchannel⟩
  unfold unpairSlot
  dsimp only
  split
  · exact ⟨hcalls.trans (CallsOnly.snoc (calls_removePeer _ _) rfl),
      (getChannel_removePeer _ _).trans hchannel⟩
  · exact ⟨hcalls, hchannel⟩

theorem unpairAll_responds (c : PairingCoordinator σ) :
    Responds c c.unpairAll (c.responder.step .forgetAll) [] := by
  obtain ⟨hcalls, hchannel⟩ := unpairAll_transport c
  have hsame := c.unpairAll_sameBeacon
  refine ⟨?_, hcalls.imp fun _ _ => trivial, framesSince_of_callsOnly hcalls, hchannel⟩
  unfold PairingCoordinator.responder Responder.step
  rw [(unpairAll_tables c).1, hsame.pairingEnabled, hsame.lastBeaconMs]

theorem apply_responds (c : PairingCoordinator σ) {op : CoordinatorOp}
    (hop : op ≠ .loadPairedClients) : Responds c (op.apply c) (c.responder.step op.inbound)
      (c.responder.answers op.inbound) := by
  cases op with
  | loadPairedClients => exact absurd rfl hop
  | enablePairing => exact Responds.silent rfl rfl
  | disablePairing => exact Responds.silent rfl rfl
  | loop nowMs => exact loop_responds c nowMs
  | handleReceived src data => exact handleReceived_responds c src data
  | onClientPaired => exact Responds.silent rfl rfl
  | unpairAll => exact unpairAll_responds c

theorem loadPairedClients_transport (c : PairingCoordinator σ) :
    CallsOnly (fun call => call.frame = none) c.transport c.loadPairedClients.transport ∧
      c.loadPairedClients.transport.getChannel = c.transport.getChannel := by
  refine sweep_invariant (fun c' : PairingCoordinator σ =>
    CallsOnly (fun call => call.frame = none) c.transport c'.transport ∧
      c'.transport.getChannel = c.transport.getChannel) ?_ ⟨CallsOnly.refl _, rfl⟩
  rintro i c' ⟨hcalls, hchannel⟩
  rw [loadSlot_transport]
  cases stored c'.prefs i with
  | none => exact ⟨hcalls, hchannel⟩
  | some e =>
    exact ⟨hcalls.trans (CallsOnly.snoc (calls_addPeer _ _ 0) rfl),
      (getChannel_addPeer _ _ 0).trans hchannel⟩

/-- What a call does to the radio. The load, too, sends nothing and stays on the channel. -/
theorem apply_radio (c : PairingCoordinator σ) (op : CoordinatorOp) :
    CallsOnly (fun _ => True) c.transport (op.apply c).transport ∧
      framesSince c.transport (op.apply c).transport =
        (c.responder.answers op.inbound).map (fun a => (a.1, a.2.bytes c.transport.getChannel)) ∧
      (op.apply c).transport.getChannel = c.transport.getChannel := by
  by_cases hop : op = .loadPairedClients
  · obtain ⟨hcalls, hchannel⟩ := loadPairedClients_transport c
    rw [hop]
    exact ⟨hcalls.imp fun _ _ => trivial, framesSince_of_callsOnly hcalls, hchannel⟩
  · have hresponds := apply_responds c hop
    exact ⟨hresponds.calls, hresponds.frames, hresponds.channel⟩

/-- From any state, and through any calls and any traffic after the load: the coordinator's
table and beacon timer are those of the responder, its radio stays on its channel, and on
the air is what the responder answers, in that order. -/
theorem coordinator_refines (c : PairingCoordinator σ) (ops : List CoordinatorOp)
    (hops : ∀ op ∈ ops, op ≠ .loadPairedClients) :
    let c' := run CoordinatorOp.apply c ops
    let answers := outputs Responder.step Responder.answers c.responder
      (ops.map CoordinatorOp.inbound)
    c'.responder = run Responder.step c.responder (ops.map CoordinatorOp.inbound) ∧
      c'.transport.getChannel = c.transport.getChannel ∧
      c'.transport.frames = c.transport.frames ++
        answers.map fun a => (a.1, a.2.bytes c.transport.getChannel) := by
  intro c' answers
  let onChannel : PairingCoordinator σ → Prop := fun s =>
    s.transport.getChannel = c.transport.getChannel
  have hafter := @eachStep_of_forall _ _ (CoordinatorOp.apply (σ := σ)) _ _ hops c
  have keep : ∀ s (op : CoordinatorOp), onChannel s → op ≠ .loadPairedClients →
      onChannel (op.apply s) := fun s op hs hop => (apply_responds s hop).channel.trans hs
  have simulates : ∀ s (op : CoordinatorOp), onChannel s → op ≠ .loadPairedClients →
      (op.apply s).responder = s.responder.step op.inbound :=
    fun s op _ hop => (apply_responds s hop).responder
  refine ⟨run_simulates keep simulates rfl hafter, ?_, ?_⟩
  · exact (eachState_of_invariant onChannel rfl hafter keep).last
  · have hlog : c'.transport.frames = c.transport.frames ++ outputs CoordinatorOp.apply
        (fun s op => framesSince s.transport (op.apply s).transport) c ops := by
      refine log_run (fun s => s.transport.frames) keep ?_ rfl hafter
      intro s op _ hop
      obtain ⟨added, hadded, _⟩ := (apply_responds s hop).calls
      exact frames_eq hadded
    rw [hlog, outputs_map]
    congr 1
    refine outputs_simulate keep simulates ?_ rfl hafter
    intro s op hs hop
    rw [(apply_responds s hop).frames, hs]

end Refinement

section Example

/-- A beacon, a request with its confirm, a second beacon that is not due yet, and a probe. -/
def pairingTraffic : List CoordinatorOp :=
  [.enablePairing, .loop 1000, .handleReceived clientMac (PairingRequest.init 7).toBytes,
    .loop 1050, .handleReceived clientMac (ReconnectProbe.init 7).toBytes]

theorem pairingTraffic_answered :
    (run CoordinatorOp.apply pairingCoordinator pairingTraffic).transport.frames =
      [(.broadcast, (PairingBeacon.init 6).toBytes),
        (clientMac, (PairingConfirm.init true 6).toBytes),
        (clientMac, (ReconnectAck.init 6).toBytes)] := by
  have hframes := (coordinator_refines pairingCoordinator pairingTraffic (by
    intro op hop
    simp only [pairingTraffic, List.mem_cons, List.not_mem_nil, or_false] at hop
    rcases hop with rfl | rfl | rfl | rfl | rfl <;> simp)).2.2
  rw [hframes]
  decide

end Example
end UngulaNet.Pairing
