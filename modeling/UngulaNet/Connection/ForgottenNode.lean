import UngulaNet.Pairing.ClientOrigin
import UngulaNet.Connection.AckCausality

/-!
# A node that its coordinator has unpaired

`unpairAll` says nothing to the clients. A node that still has its pairing probes and scans
for a coordinator that does not answer it, and a reboot of either makes no difference: the
node loads the same pairing again. It asks for a new one only in a discovery, and starts
none while it is paired.
-/

namespace UngulaNet.Connection
open Comm Comm.Transport Pairing Runs Slots ConnectionManager
set_option autoImplicit false

section Coordinator
variable {σ : Type}

theorem isPaired_of_not_hasClient {c : PairingCoordinator σ} {mac : MacAddress}
    (h : ∀ deviceId, ¬ c.HasClient (mac, deviceId)) : c.isPaired mac = false := by
  rw [Bool.eq_false_iff]
  intro hpaired
  obtain ⟨i, hactive, hmac⟩ := PairingCoordinator.isPaired_iff.mp hpaired
  refine h (c.clients i).deviceId ⟨i, Or.inl ?_⟩
  rw [PairingCoordinator.table, PairedClientInfo.entry, if_pos hactive, hmac]

variable [ITransport σ]

theorem hearAll_stranger {c : PairingCoordinator σ} {src : MacAddress}
    (h : c.isPaired src = false) {frames : List (List UInt8)}
    (hframes : ∀ data ∈ frames, ¬ PairingCoordinator.IsRequest data) :
    c.hearAll src frames = c := by
  have hone : ∀ data, ¬ PairingCoordinator.IsRequest data →
      (c.handleReceived src data).2 = c := by
    intro data hdata
    rcases c.handleReceived_cases src data with ⟨hr, _⟩ | ⟨_, he⟩ | ⟨_, he⟩
    · exact absurd hr hdata
    · rw [he]
      simp [PairingCoordinator.handleReconnectProbe, h]
    · rw [he]
  induction frames with
  | nil => rfl
  | cons data frames ih =>
    rw [PairingCoordinator.hearAll, List.foldl_cons, hone data (hframes data List.mem_cons_self)]
    exact ih fun data' hdata' => hframes data' (List.mem_cons_of_mem data hdata')

end Coordinator

section Node
variable {τ : Type} [ITransport τ]

/-- The application's probe callback sends no pairing requests. -/
def AsksNothing (s : EspNowSessionProvider τ) : Prop :=
  ∀ cb, s.probeCb = some cb → ∀ mac t,
    CallsOnly (Sends fun data => ¬ PairingCoordinator.IsRequest data) t (cb mac t)

theorem probe_not_request (deviceId : UInt8) :
    ¬ PairingCoordinator.IsRequest (ReconnectProbe.init deviceId).toBytes :=
  fun hrequest => Bool.false_ne_true hrequest.2

theorem loopReacquisition_calls (P : List UInt8 → Prop) (s : EspNowSessionProvider τ)
    (hprobe : ∀ deviceId, P (ReconnectProbe.init deviceId).toBytes) (nowMs : UInt32) :
    CallsOnly (Sends P) s.transport (s.loopReacquisition nowMs).2.transport := by
  rcases loopReacquisition_quiet_or s nowMs with hsame | ⟨_, ch, hcalls⟩
  · rw [hsame]
    exact CallsOnly.refl _
  · exact (callsOnly_iff hcalls).mpr (by simp [Sends, hprobe])

/-- What a pass of its loop makes of a node that has a pairing and gets no ack. -/
structure Searched (n n' : Node τ) : Prop where
  calls : CallsOnly (Sends fun data => ¬ PairingCoordinator.IsRequest data) n.provider.transport
    n'.provider.transport
  pairing : ∃ t, n'.provider.pairing = { n.provider.pairing with transport := t }
  probeCb : n'.provider.probeCb = n.provider.probeCb
  noAck : n'.provider.reacquisitionDone = false
  state : n'.state ≠ .UNPAIRED_DISCOVERY
  connected : n'.state = .PAIRED_CONNECTED → n.state = .PAIRED_CONNECTED

theorem loop_searched {n : Node τ} (h : n.FlagAgrees) (hs : n.state ≠ .UNPAIRED_DISCOVERY)
    (hack : n.provider.reacquisitionDone = false) (hasks : AsksNothing n.provider)
    (nowMs : UInt32) : Searched n (n.loop nowMs) := by
  have hpairing := loop_pairing h hs nowMs
  have hstays : (n.loop nowMs).provider = n.provider →
      (n.loop nowMs).state ≠ .UNPAIRED_DISCOVERY →
      ((n.loop nowMs).state = .PAIRED_CONNECTED → n.state = .PAIRED_CONNECTED) →
      Searched n (n.loop nowMs) := by
    intro hprovider hstate hconnected
    refine ⟨?_, hpairing, ?_, ?_, hstate, hconnected⟩ <;> rw [hprovider]
    · exact CallsOnly.refl _
    · exact hack
  cases hstate : n.state with
  | UNPAIRED_DISCOVERY => exact absurd hstate hs
  | PAIRED_CONNECTED =>
    rcases loop_connected h hstate nowMs with ⟨_, he⟩ | ⟨_, he⟩ <;> rw [he] at hstays ⊢
    · exact hstays rfl hs (fun _ => hstate)
    · exact hstays rfl (by simp) (fun _ => hstate)
  | PAIRED_DEGRADED =>
    rcases loop_degraded h hstate nowMs with ⟨_, he⟩ | ⟨_, he⟩ <;> rw [he] at hstays ⊢
    · exact hstays rfl hs id
    · exact hstays rfl (by simp) (by simp)
  | REACQUIRING_STATIC =>
    have hcalls := sendProbe_calls hasks
    obtain ⟨_, hdone, _⟩ := n.provider.sendProbe_fields
    have hcb : n.provider.sendProbe.probeCb = n.provider.probeCb := by
      obtain ⟨t, ht⟩ := n.provider.sendProbe_eq
      rw [ht]
      rfl
    rcases loop_static h hstate nowMs with ⟨_, he⟩ | ⟨_, _, he⟩ | ⟨_, _, he⟩
    · rw [he] at hstays ⊢
      exact hstays rfl hs id
    · rw [he] at hpairing ⊢
      exact ⟨hcalls, hpairing, hcb, hdone.trans hack, hs, id⟩
    · rw [he] at hpairing ⊢
      exact ⟨hcalls, hpairing, hcb, rfl, by simp, by simp⟩
  | REACQUIRING_DYNAMIC =>
    have hcalls := loopReacquisition_calls (fun data => ¬ PairingCoordinator.IsRequest data)
      n.provider probe_not_request nowMs
    obtain ⟨_, hdone⟩ := n.provider.loopReacquisition_fields nowMs
    have hcb : (n.provider.loopReacquisition nowMs).2.probeCb = n.provider.probeCb := by
      obtain ⟨t, i, hi⟩ := n.provider.loopReacquisition_eq nowMs
      rw [hi]
      rfl
    rcases loop_dynamic h hstate nowMs with ⟨_, he⟩ | ⟨_, _, he⟩ | ⟨_, hyes, _⟩
    · rw [he] at hstays ⊢
      exact hstays rfl hs id
    · rw [he] at hpairing ⊢
      exact ⟨hcalls, hpairing, hcb, hdone.trans hack, hs, id⟩
    · exact absurd (hdone.symm.trans hyes) (by simp [hack])

/-- The node starts anew from its store, as it was set up before. -/
def Node.reboot (n : Node τ) (radio : Transport τ) (nowMs : UInt32) : Node τ :=
  .start (bootedClient radio n.provider.pairing.prefs n.provider.pairing.deviceId
    n.provider.pairing.scanChannels).loadStoredPairing.2 n.provider.probeCb n.config nowMs

theorem reboot_fields {n : Node τ}
    (h : (storedRecord n.provider.pairing.prefs).isSome = true) (radio : Transport τ)
    (nowMs : UInt32) :
    let n' := n.reboot radio nowMs
    n'.state = .PAIRED_DEGRADED ∧ n'.provider.pairing.isPaired = true ∧
      n'.provider.pairing.prefs = n.provider.pairing.prefs ∧
      n'.provider.reacquisitionDone = false ∧ n'.provider.probeCb = n.provider.probeCb := by
  intro n'
  obtain ⟨record, hrecord⟩ := Option.isSome_iff_exists.mp h
  let booted := bootedClient radio n.provider.pairing.prefs n.provider.pairing.deviceId
    n.provider.pairing.scanChannels
  have hload := PairingClient.loadStoredPairing_some (c := booted) hrecord
  have hpaired : booted.loadStoredPairing.2.isPaired = true := by
    rw [hload]
    rfl
  have hprefs : booted.loadStoredPairing.2.prefs = n.provider.pairing.prefs := by
    rw [hload]
    rfl
  have hstart : n' = _ := start_paired hpaired n.provider.probeCb n.config nowMs
  rw [hstart]
  exact ⟨rfl, hpaired, hprefs, rfl, rfl⟩

/-- A node that has its pairing, also in its store, and no ack to look at. -/
structure StillPaired (n : Node τ) : Prop where
  reached : ∃ pairing probeCb config nowMs before,
    n = run NodeEvent.apply (Node.start pairing probeCb config nowMs) before
  state : n.getState ≠ .UNPAIRED_DISCOVERY
  paired : n.provider.pairing.isPaired = true
  stored : (storedRecord n.provider.pairing.prefs).isSome = true
  noAck : n.provider.isReacquisitionComplete = false
  asks : AsksNothing n.provider

/-- What keeps a node where it is, across its boots: the stored record brings the pairing
back, and no ack takes the manager to PAIRED_CONNECTED. -/
structure HoldsPairing (n : Node τ) : Prop where
  node : NodeInv n
  state : n.state ≠ .UNPAIRED_DISCOVERY
  paired : n.provider.pairing.isPaired = true
  stored : (storedRecord n.provider.pairing.prefs).isSome = true
  noAck : n.provider.reacquisitionDone = false
  asks : AsksNothing n.provider

variable {n : Node τ}

theorem StillPaired.holds (h : StillPaired n) : HoldsPairing n := by
  obtain ⟨pairing, probeCb, config, nowMs, before, hrun⟩ := h.reached
  have hinv : NodeInv n :=
    hrun ▸ run_nodeInv (start_nodeInv pairing probeCb config nowMs) before
  exact ⟨hinv, h.state, h.paired, h.stored, h.noAck, h.asks⟩

theorem HoldsPairing.loop (h : HoldsPairing n) (nowMs : UInt32) : HoldsPairing (n.loop nowMs) ∧
    ((n.loop nowMs).isConnected = true → n.isConnected = true) := by
  have hsearched := loop_searched h.node.flag h.state h.noAck h.asks nowMs
  have hflag := flagAgrees_loop h.node.flag nowMs
  obtain ⟨t, hpairing⟩ := hsearched.pairing
  have hnode : NodeInv (n.loop nowMs) := ⟨hflag, loop_reacquiring h.node nowMs⟩
  refine ⟨⟨hnode, hsearched.state, ?_, ?_, hsearched.noAck, ?_⟩, ?_⟩
  · rw [hpairing]
    exact h.paired
  · rw [hpairing]
    exact h.stored
  · rw [AsksNothing, hsearched.probeCb]
    exact h.asks
  · exact fun hc => h.node.flag.connected.mpr (hsearched.connected (hflag.connected.mp hc))

theorem HoldsPairing.reboot (h : HoldsPairing n) (radio : Transport τ) (nowMs : UInt32) :
    HoldsPairing (n.reboot radio nowMs) ∧ (n.reboot radio nowMs).isConnected = false := by
  obtain ⟨hstate, hpaired, hprefs, hdone, hcb⟩ := reboot_fields h.stored radio nowMs
  have hinv : NodeInv (n.reboot radio nowMs) := start_nodeInv _ _ _ _
  refine ⟨⟨hinv, by simp [hstate], hpaired, hprefs ▸ h.stored, hdone, ?_⟩, ?_⟩
  · rw [AsksNothing, hcb]
    exact h.asks
  · exact Bool.eq_false_iff.mpr fun hc =>
      absurd (hstate.symm.trans (hinv.flag.connected.mp hc)) (by simp)

theorem HoldsPairing.hears (h : HoldsPairing n) (src : MacAddress) (data : List UInt8)
    (nowMs : UInt32) :
    NodeEvent.apply n (.pairing (.handleReceived src data nowMs)) = n := by
  have hstate : n.provider.pairing.state = .PAIRED := of_decide_eq_true h.paired
  rcases n.provider.pairing.handleReceived_cases src data nowMs with
    ⟨he, _⟩ | ⟨hs, _, _⟩ | ⟨hr, _, _⟩
  · rw [NodeEvent.apply, ClientOp.apply, he]
    rfl
  · exact absurd (hstate.symm.trans hs) (by simp)
  · exact absurd (hstate.symm.trans hr) (by simp)

end Node

section Net
variable {σ τ : Type} [ITransport σ] [ITransport τ]

/-- What may happen to the two after they have lost each other. -/
inductive LaterEvent (σ τ : Type) where
  | round (nowMs : UInt32)
  | coordinator (ev : BootEvent σ)
  | nodeBoot (radio : Transport τ) (nowMs : UInt32)
  | nodeHears (src : MacAddress) (data : List UInt8) (nowMs : UInt32)

omit [ITransport σ] [ITransport τ] in
/-- Nobody asks for a pairing in the node's name. -/
def LaterEvent.NoRequest (nodeAddr : MacAddress) : LaterEvent σ τ → Prop
  | .coordinator ev => ∀ deviceId, ¬ ev.Asks (nodeAddr, deviceId)
  | _ => True

namespace ReacqNet

def laterStep (coordAddr nodeAddr : MacAddress) (net : ReacqNet σ τ) :
    LaterEvent σ τ → ReacqNet σ τ
  | .round nowMs => net.round coordAddr nodeAddr nowMs
  | .coordinator ev => { net with coordinator := ev.apply net.coordinator }
  | .nodeBoot radio nowMs => { net with node := net.node.reboot radio nowMs }
  | .nodeHears src data nowMs =>
    { net with node := NodeEvent.apply net.node (.pairing (.handleReceived src data nowMs)) }

/-- The node holds on to its pairing, of which the coordinator knows nothing. -/
structure Forgotten (nodeAddr : MacAddress) (net : ReacqNet σ τ) : Prop where
  unknown : net.coordinator.isPaired nodeAddr = false
  paired : net.node.provider.pairing.isPaired = true
  state : net.node.getState ≠ .UNPAIRED_DISCOVERY

def NotBack (coordAddr nodeAddr : MacAddress) (net : ReacqNet σ τ) (ev : LaterEvent σ τ) :
    Prop :=
  (net.laterStep coordAddr nodeAddr ev).node.isConnected = true → net.node.isConnected = true

/-- What keeps the node forgotten, across the boots of both. -/
structure ForgottenInv (nodeAddr : MacAddress) (net : ReacqNet σ τ) : Prop where
  backed : net.coordinator.Backed
  unknown : ∀ deviceId, ¬ net.coordinator.HasClient (nodeAddr, deviceId)
  node : HoldsPairing net.node

variable {coordAddr nodeAddr : MacAddress} {net : ReacqNet σ τ}

omit [ITransport σ] [ITransport τ] in
theorem ForgottenInv.forgotten (h : ForgottenInv nodeAddr net) : Forgotten nodeAddr net :=
  ⟨isPaired_of_not_hasClient h.unknown, h.node.paired, h.node.state⟩

/-- The coordinator hears nothing it answers, so the pass of the node's loop is all there is
to the round. -/
theorem ForgottenInv.round (h : ForgottenInv nodeAddr net) (nowMs : UInt32) :
    net.round coordAddr nodeAddr nowMs = { net with node := net.node.loop nowMs } := by
  have hsearched := loop_searched h.node.node.flag h.node.state h.node.noAck h.node.asks nowMs
  have hsilent : net.coordinator.hearAll nodeAddr (framesFor coordAddr (framesSince
      net.node.provider.transport (net.node.loop nowMs).provider.transport)) =
      net.coordinator := by
    refine hearAll_stranger h.forgotten.unknown ?_
    intro data hdata
    obtain ⟨f, hf, rfl⟩ := List.mem_map.mp hdata
    exact framesSince_sends hsearched.calls (List.mem_filter.mp hf).1
  unfold ReacqNet.round
  dsimp only
  rw [hsilent, framesSince_self]
  split <;> rfl

theorem ForgottenInv.step (h : ForgottenInv nodeAddr net) {ev : LaterEvent σ τ}
    (hev : ev.NoRequest nodeAddr) : ForgottenInv nodeAddr (net.laterStep coordAddr nodeAddr ev) ∧
      NotBack coordAddr nodeAddr net ev := by
  cases ev with
  | round nowMs =>
    obtain ⟨hholds, hback⟩ := h.node.loop nowMs
    rw [NotBack, laterStep, h.round nowMs]
    exact ⟨⟨h.backed, h.unknown, hholds⟩, hback⟩
  | coordinator ev =>
    have hunknown : ∀ deviceId, ¬ (ev.apply net.coordinator).HasClient (nodeAddr, deviceId) := by
      intro deviceId hclient
      rcases hasClient_step h.backed ev hclient with hasks | ⟨hold, _⟩
      · exact hev deviceId hasks
      · exact h.unknown deviceId hold
    exact ⟨⟨bootEvent_backed net.coordinator ev h.backed, hunknown, h.node⟩, id⟩
  | nodeBoot radio nowMs =>
    obtain ⟨hholds, hconnected⟩ := h.node.reboot radio nowMs
    exact ⟨⟨h.backed, h.unknown, hholds⟩, fun hc =>
      absurd (hconnected.symm.trans hc) Bool.false_ne_true⟩
  | nodeHears src data nowMs =>
    rw [NotBack, laterStep, h.node.hears src data nowMs]
    exact ⟨h, id⟩

/-- `unpairAll` on a coordinator in any state it reaches, with a node in any state that still
has its pairing, and no pairing request in the node's name after it: over rounds of both
devices, boots of both, any calls on the coordinator and any pairing messages to the node, in
every state the node has its pairing and is unknown, and no step connects it. -/
theorem forgotten_node_stays_out (transport : Transport σ) (history : List (BootEvent σ))
    {n : Node τ} (hnode : StillPaired n) (later : List (LaterEvent σ τ))
    (hlater : ∀ ev ∈ later, ev.NoRequest nodeAddr) :
    let coordinator :=
      run BootEvent.apply (PairingCoordinator.new transport .empty).loadPairedClients history
    let net : ReacqNet σ τ := { coordinator := coordinator.unpairAll, node := n }
    EachState (laterStep coordAddr nodeAddr) (Forgotten nodeAddr) net later ∧
      EachStep (laterStep coordAddr nodeAddr) (NotBack coordAddr nodeAddr) net later := by
  intro coordinator net
  have hbacked : coordinator.Backed := (boots_backed transport history).last
  have hnet : ForgottenInv nodeAddr net :=
    ⟨bootEvent_backed coordinator (.op .unpairAll) hbacked,
      fun deviceId => PairingCoordinator.not_hasClient_unpairAll coordinator _, hnode.holds⟩
  have hsteps : EachStep (laterStep coordAddr nodeAddr) (fun _ ev => ev.NoRequest nodeAddr) net
      later := eachStep_of_forall hlater net
  have hkeep : ∀ (net : ReacqNet σ τ) (ev : LaterEvent σ τ), ForgottenInv nodeAddr net →
      ev.NoRequest nodeAddr → ForgottenInv nodeAddr (net.laterStep coordAddr nodeAddr ev) :=
    fun _ _ h hev => (h.step hev).1
  constructor
  · exact (eachState_of_invariant (ForgottenInv nodeAddr) hnet hsteps hkeep).imp
      fun _ h => h.forgotten
  · exact eachStep_of_invariant (ForgottenInv nodeAddr) hnet hsteps hkeep
      fun _ _ h hev => (h.step hev).2

end ReacqNet
end Net

section Example

def newcomerMac : MacAddress := ⟨[0x02, 0, 0, 0, 0, 0x0D], rfl⟩

/-- The node hears a beacon and a confirm, a newcomer asks for a pairing, the coordinator boots;
the node scans, boots and scans again. -/
def onItsOwn : List (LaterEvent (EspNowTransport SimRadio) (EspNowTransport SimRadio)) :=
  [.coordinator (.op .enablePairing), .nodeHears coordMac (PairingBeacon.init 6).toBytes 1000,
    .nodeHears coordMac (PairingConfirm.init true 6).toBytes 1010, .round 2200,
    .coordinator (.op (.handleReceived newcomerMac (PairingRequest.init 7).toBytes)), .round 2800,
    .coordinator (.boot (simTransport coordMac 6)), .round 3400, .round 4000, .round 4600,
    .nodeBoot (simTransport clientMac 1) 0, .round 4000, .round 4100, .round 4700, .round 5300]

theorem onItsOwn_stays_out :
    let net : ReacqNet (EspNowTransport SimRadio) (EspNowTransport SimRadio) :=
      { coordinator := (run BootEvent.apply (PairingCoordinator.new (simTransport coordMac 6)
          Preferences.empty).loadPairedClients [.op .enablePairing,
            .op (.handleReceived clientMac (PairingRequest.init 7).toBytes)]).unpairAll,
        node := run NodeEvent.apply (Node.start pairedClient none { staticMaxProbes := 1 } 0)
          [.call .onHeartbeatReceived 100] }
    EachState (ReacqNet.laterStep coordMac clientMac) (ReacqNet.Forgotten clientMac) net
        onItsOwn ∧
      EachStep (ReacqNet.laterStep coordMac clientMac) (ReacqNet.NotBack coordMac clientMac) net
        onItsOwn := by
  have hnode : StillPaired (run NodeEvent.apply
      (Node.start pairedClient none { staticMaxProbes := 1 } 0) [.call .onHeartbeatReceived 100]) :=
    ⟨⟨_, _, _, _, _, rfl⟩, by decide, by decide, by decide, by decide, fun _ h => nomatch h⟩
  have hlater : ∀ ev ∈ onItsOwn, ev.NoRequest clientMac := by
    simp [onItsOwn, LaterEvent.NoRequest, BootEvent.Asks, newcomerMac, clientMac]
  exact ReacqNet.forgotten_node_stays_out (simTransport coordMac 6) _ hnode onItsOwn hlater

end Example
end UngulaNet.Connection
