import UngulaNet.Pairing.StopScanning
import UngulaNet.Connection.NodeConsistency
import UngulaNet.Connection.PairingDurability

/-!
# A running node whose pairing is cleared

A manager starts a discovery in `begin` and never again. So a node whose pairing is cleared
while it runs is cut off: it neither scans nor probes, its radio is not touched, and no
message connects it. Only its next boot looks for a coordinator.
-/

namespace UngulaNet.Connection
open Comm Pairing Runs ConnectionManager
set_option autoImplicit false

section Idle
variable {σ : Type} [ITransport σ]

/-- What an idle client makes of everything but a new start. -/
theorem apply_idle {c : PairingClient σ} (hc : c.state = .IDLE) {op : ClientOp}
    (hop : NoRestart op) :
    (op.apply c).state = .IDLE ∧ (op.apply c).transport = c.transport := by
  have hscan : c.state ≠ .SCANNING := by simp [hc]
  have hresp : c.state ≠ .RESPONDING := by simp [hc]
  cases op with
  | loadStoredPairing => exact absurd hop id
  | setScanChannels s => exact ⟨hc, rfl⟩
  | startScanning => exact absurd hop id
  | stopScanning =>
    rcases c.stopScanning_cases with ⟨hs, _⟩ | ⟨_, he⟩
    · exact absurd hs hscan
    · rw [ClientOp.apply, he]
      exact ⟨hc, rfl⟩
  | loop nowMs =>
    rw [ClientOp.apply, PairingClient.loop_idle hscan hresp]
    exact ⟨hc, rfl⟩
  | handleReceived src data nowMs =>
    rcases c.handleReceived_cases src data nowMs with ⟨he, _⟩ | ⟨hs, _, _⟩ | ⟨hr, _, _⟩
    · rw [ClientOp.apply, he]
      exact ⟨hc, rfl⟩
    · exact absurd hs hscan
    · exact absurd hr hresp
  | onPaired => exact ⟨hc, rfl⟩
  | setPairedChannel ch =>
    rcases c.setPairedChannel_cases ch with ⟨_, he⟩ | ⟨_, _, he⟩ <;> rw [ClientOp.apply, he] <;>
      exact ⟨hc, rfl⟩
  | clearPairing => exact ⟨rfl, rfl⟩

end Idle

section Node
variable {σ : Type} [ITransport σ]

/-- The application starts no scan, loads no pairing and reports no success, and no ack
comes while the manager waits for one. -/
def Unaided (n : Node σ) : NodeEvent → Prop
  | .call .onReacquisitionSuccess _ => False
  | .call _ _ => True
  | .ack _ => n.getState ≠ .REACQUIRING_DYNAMIC
  | .pairing op => NoRestart op

instance (n : Node σ) : ∀ ev, Decidable (Unaided n ev)
  | .call .onReacquisitionSuccess _ => isFalse (fun h => h)
  | .call .loop _ | .call .onHeartbeatReceived _ | .call .onMessageReceived _ => isTrue trivial
  | .ack _ => inferInstanceAs (Decidable (_ ≠ _))
  | .pairing op => inferInstanceAs (Decidable (NoRestart op))

structure CutOff (radio : Transport σ) (n : Node σ) : Prop where
  notPaired : n.provider.pairing.isPaired = false
  notScanning : n.provider.pairing.isScanning = false
  radio : n.provider.transport = radio

def NotReconnected (n : Node σ) (ev : NodeEvent) : Prop :=
  (ev.apply n).isConnected = true → n.isConnected = true

/-- What keeps a node cut off: an idle client, no ack that the manager has not seen yet, and
no pairing in the store. -/
structure Cleared (radio : Transport σ) (n : Node σ) : Prop where
  node : NodeInv n
  idle : n.provider.pairing.state = .IDLE
  radio : n.provider.transport = radio
  noAck : n.provider.reacquisitionDone = false
  flag : storedFlag n.provider.pairing.prefs = 0

variable {radio : Transport σ} {n : Node σ}

omit [ITransport σ] in
theorem Cleared.cutOff (h : Cleared radio n) : CutOff radio n :=
  ⟨by simp [PairingClient.isPaired, h.idle], by simp [PairingClient.isScanning, h.idle], h.radio⟩

/-- Every way out of a stage of the manager asks for a pairing or for an ack, and so does
every use of the radio. -/
theorem Cleared.loop_fields (h : Cleared radio n) (nowMs : UInt32) :
    (n.loop nowMs).provider.pairing = n.provider.pairing ∧
      (n.loop nowMs).provider.reacquisitionDone = false ∧
      ((n.loop nowMs).state = .PAIRED_CONNECTED → n.state = .PAIRED_CONNECTED) := by
  have hpaired := h.cutOff.notPaired
  have hprobe : n.provider.sendProbe = n.provider := by
    simp [EspNowSessionProvider.sendProbe, hpaired]
  cases hs : n.state with
  | UNPAIRED_DISCOVERY =>
    have hloop : n.provider.pairing.loop nowMs = n.provider.pairing :=
      PairingClient.loop_idle (by simp [h.idle]) (by simp [h.idle]) nowMs
    rcases loop_unpaired h.node.flag hs nowMs with ⟨_, he⟩ | ⟨hdone, _⟩
    · rw [he]
      exact ⟨hloop, h.noAck, fun hc => absurd (hs.symm.trans hc) (by simp)⟩
    · have hdone' : (n.provider.pairing.loop nowMs).isPaired = true := hdone
      rw [hloop, hpaired] at hdone'
      exact absurd hdone' Bool.false_ne_true
  | PAIRED_CONNECTED =>
    rcases loop_connected h.node.flag hs nowMs with ⟨_, he⟩ | ⟨_, he⟩ <;> rw [he] <;>
      exact ⟨rfl, h.noAck, fun _ => rfl⟩
  | PAIRED_DEGRADED =>
    rcases loop_degraded h.node.flag hs nowMs with ⟨_, he⟩ | ⟨_, he⟩ <;> rw [he]
    · exact ⟨rfl, h.noAck, fun hc => absurd (hs.symm.trans hc) (by simp)⟩
    · exact ⟨rfl, h.noAck, fun hc => absurd hc (by simp)⟩
  | REACQUIRING_STATIC =>
    rcases loop_static h.node.flag hs nowMs with ⟨_, he⟩ | ⟨_, _, he⟩ | ⟨_, _, he⟩ <;> rw [he]
    · exact ⟨rfl, h.noAck, fun hc => absurd (hs.symm.trans hc) (by simp)⟩
    · refine ⟨congrArg EspNowSessionProvider.pairing hprobe, ?_,
        fun hc => absurd (hs.symm.trans hc) (by simp)⟩
      exact (congrArg EspNowSessionProvider.reacquisitionDone hprobe).trans h.noAck
    · have hbegun := congrArg (fun s => s.startReacquisition.pairing) hprobe
      exact ⟨hbegun, rfl, fun hc => absurd hc (by simp)⟩
  | REACQUIRING_DYNAMIC =>
    have hpass : (n.provider.loopReacquisition nowMs).2 = n.provider := by
      rw [EspNowSessionProvider.loopReacquisition_unpaired hpaired]
    rcases loop_dynamic h.node.flag hs nowMs with ⟨_, he⟩ | ⟨_, _, he⟩ | ⟨_, hdone, _⟩
    · rw [he]
      exact ⟨rfl, h.noAck, fun hc => absurd (hs.symm.trans hc) (by simp)⟩
    · rw [he]
      refine ⟨congrArg EspNowSessionProvider.pairing hpass, ?_,
        fun hc => absurd (hs.symm.trans hc) (by simp)⟩
      exact (congrArg EspNowSessionProvider.reacquisitionDone hpass).trans h.noAck
    · have hdone' : (n.provider.loopReacquisition nowMs).2.reacquisitionDone = true := hdone
      rw [hpass, h.noAck] at hdone'
      exact absurd hdone' Bool.false_ne_true

theorem Cleared.loop (h : Cleared radio n) (nowMs : UInt32) :
    Cleared radio (n.loop nowMs) ∧ NotReconnected n (.call .loop nowMs) := by
  obtain ⟨hpairing, hdone, hstate⟩ := h.loop_fields nowMs
  have hflag := flagAgrees_loop h.node.flag nowMs
  refine ⟨⟨⟨hflag, loop_reacquiring h.node nowMs⟩, ?_, ?_, hdone, ?_⟩, ?_⟩
  · rw [hpairing]
    exact h.idle
  · rw [EspNowSessionProvider.transport, hpairing]
    exact h.radio
  · rw [hpairing]
    exact h.flag
  · exact fun hc => h.node.flag.connected.mpr (hstate (hflag.connected.mp hc))

theorem Cleared.heartbeat (h : Cleared radio n) (nowMs : UInt32) :
    n.onHeartbeatReceived nowMs = n := by
  have hnone : ¬ n.Heeds := fun hheeds =>
    absurd (h.cutOff.notPaired.symm.trans hheeds.1) Bool.false_ne_true
  rcases onHeartbeatReceived_cases h.node.flag nowMs with ⟨_, he⟩ | ⟨hheeds, _⟩ | ⟨hheeds, _⟩
  · exact he
  · exact absurd hheeds hnone
  · exact absurd hheeds hnone

theorem Cleared.step (h : Cleared radio n) {ev : NodeEvent} (hev : Unaided n ev) :
    Cleared radio (ev.apply n) ∧ NotReconnected n ev := by
  cases ev with
  | call call nowMs =>
    cases call with
    | loop => exact h.loop nowMs
    | onHeartbeatReceived | onMessageReceived =>
      change Cleared radio (n.onHeartbeatReceived nowMs) ∧
        ((n.onHeartbeatReceived nowMs).isConnected = true → n.isConnected = true)
      rw [h.heartbeat nowMs]
      exact ⟨h, id⟩
    | onReacquisitionSuccess => exact absurd hev id
  | ack ack =>
    have hidle : n.provider.reacquiring = false :=
      Bool.eq_false_iff.mpr (h.node.not_reacquiring hev)
    have hsame : NodeEvent.apply n (.ack ack) = n := by
      rw [NodeEvent.apply, EspNowSessionProvider.onReconnectAck_idle hidle]
      rfl
    rw [NotReconnected, hsame]
    exact ⟨h, id⟩
  | pairing op =>
    have hop : NoRestart op := hev
    obtain ⟨hidle, hradio⟩ := apply_idle h.idle hop
    have hcompletes : ¬ Completes n.provider.pairing op := by
      cases op with
      | handleReceived _ _ _ => exact fun hc => absurd (h.idle.symm.trans hc.1) (by simp)
      | _ => exact id
    exact ⟨⟨apply_nodeInv h.node (.pairing op), hidle, hradio.trans h.radio, h.noAck,
      client_storedFlag h.flag hcompletes⟩, id⟩

theorem boot_discovers {prefs : Preferences} (h : storedFlag prefs = 0) (radio : Transport σ)
    (deviceId : UInt8) (scan : ScanChannels)
    (probeCb : Option (MacAddress → Transport σ → Transport σ)) (config : ConnectionConfig)
    (nowMs : UInt32) :
    let booted := Node.start (bootedClient radio prefs deviceId scan).loadStoredPairing.2 probeCb
      config nowMs
    booted.getState = .UNPAIRED_DISCOVERY ∧ booted.provider.pairing.isScanning = true := by
  intro booted
  have hload : (bootedClient radio prefs deviceId scan).loadStoredPairing.2 =
      bootedClient radio prefs deviceId scan :=
    (PairingClient.loadStoredPairing_none
      (c := bootedClient radio prefs deviceId scan) (storedRecord_none h)).2
  have hbegin := start_unpaired (p := bootedClient radio prefs deviceId scan) rfl probeCb config
    nowMs
  rw [← hload] at hbegin
  exact ⟨hbegin.1, by rw [hbegin.2]; rfl⟩

/-- From whatever state a running node's pairing is cleared, as long as no ack waits to be
seen by the manager and nobody restarts the pairing by hand: in every state from then on the
node neither scans nor touches its radio, no step connects it, and its next boot looks for a
coordinator. -/
theorem cleared_node_is_cut_off (pairing : PairingClient σ)
    (probeCb : Option (MacAddress → Transport σ → Transport σ)) (config : ConnectionConfig)
    (nowMs : UInt32) (before after : List NodeEvent) :
    let n := run NodeEvent.apply (Node.start pairing probeCb config nowMs) before
    let cleared := NodeEvent.apply n (.pairing .clearPairing)
    n.provider.isReacquisitionComplete = false →
    EachStep NodeEvent.apply Unaided cleared after →
    EachState NodeEvent.apply (CutOff n.provider.transport) cleared after ∧
      EachStep NodeEvent.apply NotReconnected cleared after ∧
      ∀ (radio : Transport σ) (deviceId : UInt8) (scan : ScanChannels)
        (probeCb : Option (MacAddress → Transport σ → Transport σ)) (config : ConnectionConfig)
        (nowMs : UInt32),
        let prefs := (run NodeEvent.apply cleared after).provider.pairing.prefs
        let booted := Node.start (bootedClient radio prefs deviceId scan).loadStoredPairing.2
          probeCb config nowMs
        booted.getState = .UNPAIRED_DISCOVERY ∧ booted.provider.pairing.isScanning = true := by
  intro n cleared hack hafter
  have hn : NodeInv n := run_nodeInv (start_nodeInv pairing probeCb config nowMs) before
  have hcleared : Cleared n.provider.transport cleared :=
    ⟨apply_nodeInv hn (.pairing .clearPairing), rfl, rfl, hack, clearPairing_storedFlag _⟩
  have hstates : EachState NodeEvent.apply (Cleared n.provider.transport) cleared after :=
    eachState_of_invariant _ hcleared hafter fun _ _ h hev => (h.step hev).1
  refine ⟨hstates.imp fun _ h => h.cutOff, ?_, ?_⟩
  · exact eachStep_of_invariant (Cleared n.provider.transport) hcleared hafter
      (fun _ _ h hev => (h.step hev).1) (fun _ _ h hev => (h.step hev).2)
  · exact fun radio deviceId scan probeCb config nowMs =>
      boot_discovers hstates.last.flag radio deviceId scan probeCb config nowMs

end Node

section Example

/-- A node that was connected and is cleared; what it hears of its coordinator later, also an
ack. -/
def clearedLater : List NodeEvent :=
  [.pairing (.handleReceived coordMac (PairingBeacon.init 6).toBytes 200),
    .call .onHeartbeatReceived 300, .call .loop 2200, .ack (.init 6), .call .loop 2800,
    .call .loop 2900, .call .onMessageReceived 3000, .call .loop 4000]

theorem clearedLater_cut_off :
    let n := run NodeEvent.apply (Node.start pairedClient none {} 0)
      [.call .onHeartbeatReceived 100]
    EachState NodeEvent.apply (CutOff n.provider.transport)
      (NodeEvent.apply n (.pairing .clearPairing)) clearedLater :=
  (cleared_node_is_cut_off pairedClient none {} 0 [.call .onHeartbeatReceived 100] clearedLater
    (by decide) (by decide)).1

end Example
end UngulaNet.Connection
