import UngulaNet.Pairing.MacsUnique
import UngulaNet.Connection.PairingDurability
import UngulaNet.Connection.RecoveryDeadline

/-!
# A pair that lost its power

Coordinator and node start anew from what their stores hold, the coordinator on any channel
of the node's scan. With policy DYNAMIC the node is connected, with a pairing that names that
channel, by a deadline counted from its `begin`; its radio may be on the next channel of the
scan. The boot grace period has no part in it: the static probes come at their own times.
-/

namespace UngulaNet.Connection
open Comm Comm.Transport Pairing Runs Slots WrapClock ConnectionManager
set_option autoImplicit false

/-- When a node that begins at `start` with a stored pairing is connected at the latest, with
the coordinator at place `i` of its scan. -/
def ConnectionConfig.restartDeadline (config : ConnectionConfig) (gap start i : Nat) : Nat :=
  start + config.degradedGracePeriodMs.toNat + config.laterProbesMs 0 +
    (config.probeBudget + 1) * gap + gap + config.scanPassesMs gap (i + 1)

section Coordinator
variable {σ : Type}

theorem storedMac_of_entry {p : Preferences} {i : Fin MAX_PAIRED_CLIENTS} {mac : MacAddress}
    (h : p.entry (macKey i) = some (.bytes mac.addr)) (hzero : mac.isZero = false) :
    storedMac p i = some mac := by
  have hread : p.getBytes (macKey i) MacAddress.ADDR_LEN = mac.addr := by
    simp [Preferences.getBytes, h, mac.addr_length, MacAddress.ADDR_LEN]
  have hfull : mac.addr.length = MacAddress.ADDR_LEN := mac.addr_length
  have hcopied : MacAddress.cleared.copyInto mac.addr = mac := by
    ext1
    exact MacAddress.copyInto_full .cleared hfull
  simp only [storedMac, stored, storedSlot, hread, hcopied]
  rw [if_pos ⟨hfull, hzero⟩, Option.map_some]

variable [ITransport σ]

theorem isPaired_load_new {c : PairingCoordinator σ} (h : c.Backed) {mac : MacAddress}
    (hzero : mac.isZero = false) (hknown : c.isPaired mac = true) (transport : Transport σ) :
    (PairingCoordinator.new transport c.prefs).loadPairedClients.isPaired mac = true := by
  obtain ⟨i, hclient⟩ := PairingCoordinator.isPaired_iff.mp hknown
  have hentry := h.active_entry i mac (PairingCoordinator.activeMac_eq_some.mpr hclient)
  refine PairingCoordinator.isPaired_iff.mpr ⟨i, PairingCoordinator.activeMac_eq_some.mp ?_⟩
  rw [PairingCoordinator.activeMac_load_new]
  exact storedMac_of_entry hentry hzero

end Coordinator

section Net
variable {σ τ : Type} [ITransport σ] [ITransport τ]

/-- The start of both devices: `loadPairedClients` here, `setScanChannels`,
`loadStoredPairing` and `begin` there. -/
def ReacqNet.restart (coordRadio : Transport σ) (coordPrefs : Preferences)
    (nodeRadio : Transport τ) (nodePrefs : Preferences) (deviceId : UInt8) (scan : ScanChannels)
    (probeCb : Option (MacAddress → Transport τ → Transport τ)) (config : ConnectionConfig)
    (nowMs : UInt32) : ReacqNet σ τ :=
  { coordinator := (PairingCoordinator.new coordRadio coordPrefs).loadPairedClients,
    node := .start (bootedClient nodeRadio nodePrefs deviceId scan).loadStoredPairing.2 probeCb
      config nowMs }

/-- A coordinator after any boots and calls, and a session provider after any operations of
its boot, that are paired with each other. -/
structure PairedUp (coordAddr nodeAddr : MacAddress) (scan : ScanChannels)
    (c : PairingCoordinator σ) (s : EspNowSessionProvider τ) : Prop where
  coordinator : ∃ transport history,
    c = run BootEvent.apply (PairingCoordinator.new transport .empty).loadPairedClients history
  node : ∃ transport prefs deviceId probeCb ops, (∀ op ∈ ops, KeepsList op) ∧
    s = runFromBoot transport prefs deviceId scan probeCb ops
  known : c.isPaired nodeAddr = true
  paired : s.pairing.isPaired = true
  mac : s.pairing.coordinatorMac = coordAddr

section PairedUp
variable {coordAddr nodeAddr : MacAddress} {scan : ScanChannels} {c : PairingCoordinator σ}
variable {s : EspNowSessionProvider τ}

theorem PairedUp.backed (h : PairedUp coordAddr nodeAddr scan c s) : c.Backed := by
  obtain ⟨transport, history, rfl⟩ := h.coordinator
  exact (boots_backed transport history).last

theorem PairedUp.loads (h : PairedUp coordAddr nodeAddr scan c s)
    (hcoord : coordAddr.isZero = false) (nodeRadio : Transport τ) (deviceId : UInt8) :
    let p := (bootedClient nodeRadio s.pairing.prefs deviceId scan).loadStoredPairing.2
    p.isPaired = true ∧ p.coordinatorMac = coordAddr ∧ p.scanChannels = scan := by
  have hrecord : RecordInv scan s := by
    obtain ⟨transport, prefs, deviceId, probeCb, ops, hops, rfl⟩ := h.node
    exact runFromBoot_recordInv transport prefs deviceId scan probeCb hops
  have hstored : storedRecord (bootedClient nodeRadio s.pairing.prefs deviceId scan).prefs =
      some ⟨coordAddr, storedChannel s.pairing.prefs⟩ := by
    have hmac := h.mac
    rw [← hmac] at hcoord ⊢
    exact (hrecord.record (of_decide_eq_true h.paired)).storedRecord hcoord
  rw [PairingClient.loadStoredPairing_some hstored]
  exact ⟨rfl, rfl, rfl⟩

end PairedUp

namespace ReacqNet
variable {coordAddr nodeAddr : MacAddress} {ch : UInt8} {net : ReacqNet σ τ}
variable {config : ConnectionConfig} {scan : ScanChannels} {gap start i : Nat}

theorem recovers_of_begin {p : PairingClient τ}
    {probeCb : Option (MacAddress → Transport τ → Transport τ)} (hp : p.isPaired = true)
    (hlap : start < 2 ^ 32) (h : Apart config coordAddr nodeAddr scan ch net)
    (hnode : net.node = .start p probeCb config (stamp start)) (gap i : Nat) :
    Recovers config coordAddr nodeAddr scan ch i net start ∧
      recoveryBound gap i net = config.restartDeadline gap start i := by
  rw [start_paired hp] at hnode
  have hstate : net.node.state = .PAIRED_DEGRADED := by rw [hnode]
  have hentered : net.node.stateEnteredMs.toNat = start := by
    rw [hnode]
    exact stamp_toNat_of_lt hlap
  constructor
  · exact .silent (probesSent net.node) h
      (.degraded ⟨h.node.flag, h.config⟩ hstate (by omega) (by omega) rfl)
  · rw [recoveryBound_silent (by simp [hstate]), scanBound, hstate, h.config, hentered]
    rfl

/-- Whatever the two have gone through, once they are paired they find each other again after
a power cut: from the two stores alone, on radios of which the coordinator's is at place `i`
of the node's scan, the node is connected to that coordinator by the deadline, with a pairing
that names the channel. -/
theorem pair_survives_power_cut [ChannelFrame σ] [ChannelFrame τ] [TunesValidChannels τ]
    {c : PairingCoordinator σ} {s : EspNowSessionProvider τ}
    (h : PairedUp coordAddr nodeAddr scan c s) (hcoord : coordAddr.isZero = false)
    (hnode : nodeAddr.isZero = false) (hpolicy : config.policy = .DYNAMIC) (hs : scan.Valid)
    (hi : i < scan.roundLength) (coordRadio : Transport σ)
    (hradio : coordRadio.getChannel = scan.channelAt i) (nodeRadio : Transport τ)
    (deviceId : UInt8) (probeCb : Option (MacAddress → Transport τ → Transport τ))
    (passes : List NetPass) (hsampled : Sampled gap start (passes.map NetPass.time)) :
    let net := restart coordRadio c.prefs nodeRadio s.pairing.prefs deviceId scan probeCb config
      (stamp start)
    EachStep (pass coordAddr nodeAddr) (PassOk config coordAddr nodeAddr) net passes →
    (∃ a ∈ passes, config.restartDeadline gap start i < a.time) →
    ∃ pre a post, passes = pre ++ a :: post ∧ a.time ≤ config.restartDeadline gap start i ∧
      Back coordAddr (scan.channelAt i) (run (pass coordAddr nodeAddr) net (pre ++ [a])) := by
  intro net hok hlate
  obtain ⟨hp, hmac, hscan⟩ := h.loads hcoord nodeRadio deviceId
  have hstart := start_paired hp probeCb config (stamp start)
  have hpairing : net.node.provider.pairing =
      (bootedClient nodeRadio s.pairing.prefs deviceId scan).loadStoredPairing.2 :=
    congrArg (fun n : Node τ => n.provider.pairing) hstart
  rw [← hpairing] at hmac hscan
  have hapart : Apart config coordAddr nodeAddr scan (scan.channelAt i) net :=
    ⟨start_nodeInv _ _ _ _, congrArg (fun n : Node τ => n.config) hstart, hpairing ▸ hp, hmac,
      hscan, isPaired_load_new h.backed hnode h.known coordRadio,
      (loadPairedClients_transport _).2.trans hradio⟩
  have hlap : start < 2 ^ 32 := by
    refine lt_of_late hok ?_ hlate
    unfold ConnectionConfig.restartDeadline
    omega
  obtain ⟨hrecovers, hbound⟩ := recovers_of_begin hp hlap hapart rfl gap i
  rw [← hbound] at hlate ⊢
  exact (recovery_approaches hpolicy hs hi rfl).reached hrecovers hsampled hok hlate

end ReacqNet
end Net

section Example

def knowingCoordinator : PairingCoordinator (EspNowTransport SimRadio) :=
  run BootEvent.apply
    (PairingCoordinator.new (simTransport coordMac 6) Preferences.empty).loadPairedClients
    [.op .enablePairing, .op (.handleReceived clientMac (PairingRequest.init 7).toBytes)]

def pairedProvider : EspNowSessionProvider (EspNowTransport SimRadio) :=
  runFromBoot (simTransport clientMac 1) Preferences.empty 7 freshClient.scanChannels none
    [.client .startScanning, .client (.handleReceived coordMac (PairingBeacon.init 6).toBytes 1000),
      .client (.handleReceived coordMac (PairingConfirm.init true 6).toBytes 1010)]

def secondPasses : List NetPass :=
  [1000, 2000, 3000, 4000, 5000, 6000, 7000, 8000, 9000].map (NetPass.mk [])

/-- The coordinator comes back on channel 11, the last of the scan. -/
theorem pair_back_on_other_channel :
    let net := ReacqNet.restart (simTransport coordMac 11) knowingCoordinator.prefs
      (simTransport clientMac 1) pairedProvider.pairing.prefs 7 freshClient.scanChannels none
      briefConfig (stamp 0)
    ∃ pre a post, secondPasses = pre ++ a :: post ∧
      a.time ≤ briefConfig.restartDeadline 1000 0 2 ∧ ReacqNet.Back coordMac
        (freshClient.scanChannels.channelAt 2)
        (run (ReacqNet.pass coordMac clientMac) net (pre ++ [a])) := by
  have hpaired : PairedUp coordMac clientMac freshClient.scanChannels knowingCoordinator
      pairedProvider :=
    ⟨⟨_, _, rfl⟩, ⟨_, _, _, _, _, by decide, rfl⟩, by decide, by decide, by decide⟩
  have hpasses : ∀ a ∈ secondPasses, a.ops = [] ∧
      a.time + briefConfig.staticProbeIntervalMs.toNat < 2 ^ 32 ∧
      a.time + briefConfig.dynamicProbeIntervalMs.toNat < 2 ^ 32 := by decide
  exact ReacqNet.pair_survives_power_cut hpaired (by decide) (by decide) rfl (by decide)
    (by decide) (simTransport coordMac 11) (by decide) (simTransport clientMac 1) 7 none
    secondPasses (by decide) (ReacqNet.passOk_of_idle hpasses _) (by decide)

end Example
end UngulaNet.Connection
