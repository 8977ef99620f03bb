import UngulaNet.Connection.NodeConsistency
import UngulaNet.Pairing.Discovery

/-!
# A new node is connected in time

The discovery of a client, inside a node that has no pairing: the manager starts it, gives
it its passes, and asks after each whether it is done. The frames that the node hears go to
the client. The node is connected by the first pass of its loop for which the client must
have found the coordinator.
-/

namespace UngulaNet.Connection
open Comm Pairing Runs WrapClock ConnectionManager DiscoveryNet
set_option autoImplicit false

structure NewNode (σ τ : Type) where
  coordinator : PairingCoordinator σ
  node : Node τ
  coordOffset : Nat
  nodeOffset : Nat
  sampled : Nat
  looped : Nat

section Net
variable {σ τ : Type} [ITransport σ] [ITransport τ]

theorem coordinatorLoop_rest (coordAddr clientAddr : MacAddress) (net : DiscoveryNet σ τ)
    (time : Nat) :
    let net' := net.apply coordAddr clientAddr (.coordinatorLoop time)
    net'.coordOffset = net.coordOffset ∧ net'.clientOffset = net.clientOffset ∧
      net'.looped = net.looped := by
  simp only [DiscoveryNet.apply, exchange]
  split <;> exact ⟨rfl, rfl, rfl⟩

namespace NewNode

/-- The coordinator and the client in the node. -/
def discovery (w : NewNode σ τ) : DiscoveryNet σ τ :=
  { coordinator := w.coordinator, client := w.node.provider.pairing,
    coordOffset := w.coordOffset, clientOffset := w.nodeOffset, sampled := w.sampled,
    looped := w.looped }

def apply (coordAddr nodeAddr : MacAddress) (w : NewNode σ τ) : DiscoveryEvent → NewNode σ τ
  | .coordinatorLoop time =>
    let net := w.discovery.apply coordAddr nodeAddr (.coordinatorLoop time)
    { w with
      coordinator := net.coordinator, sampled := net.sampled,
      node := w.node.setProvider { w.node.provider with pairing := net.client } }
  | .clientLoop time =>
    { w with node := w.node.loop (stamp (time + w.nodeOffset)), looped := time }

def OnTime (w : NewNode σ τ) (ev : DiscoveryEvent) : Prop := w.discovery.OnTime ev

instance (w : NewNode σ τ) (ev : DiscoveryEvent) : Decidable (w.OnTime ev) :=
  inferInstanceAs (Decidable (w.discovery.OnTime ev))

/-- The node begins without a pairing; the rest is as for the client alone. -/
structure Begins (s : ScanChannels) (nodeAddr : MacAddress) (ch deviceId : UInt8) (start : Nat)
    (w : NewNode σ τ) : Prop where
  node : ∃ (pairing : PairingClient τ) (probeCb : _) (config : ConnectionConfig) (nowMs : UInt32),
    pairing.isPaired = false ∧ pairing.scanChannels = s ∧ pairing.deviceId = deviceId ∧
      w.node = Node.start pairing probeCb config nowMs
  isOpen : Open nodeAddr ch deviceId w.coordinator
  enabled : w.coordinator.pairingEnabled = true
  beacon : ∃ beacon ≤ start, start < beacon + 100 ∧
    w.coordinator.lastBeaconMs = stamp (beacon + w.coordOffset)
  sampled : w.sampled = start
  looped : w.looped = start

/-- The node is connected since this pass of its loop, and paired with the coordinator. -/
structure Connected (coordAddr nodeAddr : MacAddress) (ch deviceId : UInt8) (w : NewNode σ τ) :
    Prop where
  connected : w.node.isConnected = true
  state : w.node.getState = .PAIRED_CONNECTED
  heard : w.node.lastHeardMs = stamp (w.looped + w.nodeOffset)
  joined : Joined coordAddr nodeAddr ch deviceId w.discovery

/-- The node is still looking, and not for too long. -/
structure Discovering (s : ScanChannels) (coordAddr nodeAddr : MacAddress) (ch deviceId : UInt8)
    (start i : Nat) (w : NewNode σ τ) : Prop where
  flag : w.node.FlagAgrees
  state : w.node.state = .UNPAIRED_DISCOVERY
  progress : Progress s coordAddr nodeAddr ch deviceId start w.discovery
  early : w.looped < start + 500 * (i + 1)

variable {s : ScanChannels} {coordAddr nodeAddr : MacAddress} {ch deviceId : UInt8}
variable {start i : Nat} {w : NewNode σ τ}

theorem discovery_coordinatorLoop (w : NewNode σ τ) (time : Nat) :
    (w.apply coordAddr nodeAddr (.coordinatorLoop time)).discovery =
      w.discovery.apply coordAddr nodeAddr (.coordinatorLoop time) := by
  have hrest := coordinatorLoop_rest coordAddr nodeAddr w.discovery time
  change DiscoveryNet.mk (w.discovery.apply coordAddr nodeAddr _).coordinator
    (w.discovery.apply coordAddr nodeAddr _).client w.discovery.coordOffset
    w.discovery.clientOffset (w.discovery.apply coordAddr nodeAddr _).sampled
    w.discovery.looped = _
  rw [← hrest.1, ← hrest.2.1, ← hrest.2.2]

/-- As long as the manager looks for a coordinator, its loop is that of the client. -/
theorem discovery_clientLoop (h : w.node.FlagAgrees) (hs : w.node.state = .UNPAIRED_DISCOVERY)
    (time : Nat) : (w.apply coordAddr nodeAddr (.clientLoop time)).discovery =
      w.discovery.apply coordAddr nodeAddr (.clientLoop time) := by
  rcases loop_unpaired h hs (stamp (time + w.nodeOffset)) with ⟨_, he⟩ | ⟨_, he⟩ <;>
    simp only [NewNode.apply, discovery, he] <;> rfl

theorem Begins.discovering [TunesValidChannels τ] (hs : s.Valid)
    (h : Begins s nodeAddr ch deviceId start w) :
    Discovering s coordAddr nodeAddr ch deviceId start i w := by
  obtain ⟨pairing, probeCb, config, nowMs, hunpaired, hscan, hdevice, hnode⟩ := h.node
  have hflag := (start_nodeInv pairing probeCb config nowMs).flag
  have hbegin : w.node.state = .UNPAIRED_DISCOVERY ∧
      w.node.provider.pairing = pairing.startScanning := by
    rw [hnode]
    exact start_unpaired hunpaired probeCb config nowMs
  have hstarts : Starts s nodeAddr ch deviceId start w.discovery :=
    ⟨⟨pairing, hscan, hdevice, hbegin.2⟩, h.isOpen, h.enabled, h.beacon, h.sampled, h.looped⟩
  have hlooped := h.looped
  exact ⟨hnode ▸ hflag, hbegin.1, hstarts.progress hs, by omega⟩

/-- A step of a node that looks for a coordinator connects it, or is one of its client. -/
theorem Discovering.step [ChannelFrame σ] [TunesValidChannels τ] (hs : s.Valid)
    (hcoordAddr : coordAddr.isZero = false) (hnodeAddr : nodeAddr.isZero = false)
    (hi : s.tuned i = ch) (h : Discovering s coordAddr nodeAddr ch deviceId start i w)
    {ev : DiscoveryEvent} (htime : w.OnTime ev) :
    Connected coordAddr nodeAddr ch deviceId (w.apply coordAddr nodeAddr ev) ∨
      Discovering s coordAddr nodeAddr ch deviceId start i (w.apply coordAddr nodeAddr ev) := by
  have hch : UsableChannel ch :=
    hi ▸ ScanChannels.channelAt_usable hs (Nat.mod_lt _ s.roundLength_pos)
  have hprogress := h.progress.apply hs hch hcoordAddr hnodeAddr htime
  cases ev with
  | coordinatorLoop time =>
    rw [← discovery_coordinatorLoop] at hprogress
    exact Or.inr ⟨h.flag.setProvider _, h.state, hprogress, h.early⟩
  | clientLoop time =>
    rw [← discovery_clientLoop h.flag h.state] at hprogress
    rcases loop_unpaired h.flag h.state (stamp (time + w.nodeOffset)) with
      ⟨hnot, he⟩ | ⟨hdone, he⟩
    · have hunpaired : (w.apply coordAddr nodeAddr (.clientLoop time)).discovery.client.state ≠
          .PAIRED := by
        simp only [NewNode.apply, discovery, he]
        exact of_decide_eq_false hnot
      rcases hprogress.joined_or hi with hjoined | ⟨_, hearly⟩
      · exact absurd hjoined.state hunpaired
      · refine Or.inr ⟨?_, ?_, hprogress, hearly⟩ <;> simp only [NewNode.apply, he]
        · exact ⟨h.flag.began, h.flag.connected⟩
        · exact h.state
    · have hpaired : (w.apply coordAddr nodeAddr (.clientLoop time)).discovery.client.state =
          .PAIRED := by
        simp only [NewNode.apply, discovery, he]
        exact of_decide_eq_true hdone
      rcases hprogress.joined_or hi with hjoined | ⟨hscanning, _⟩
      · refine Or.inl ⟨?_, ?_, ?_, hjoined⟩ <;> simp only [NewNode.apply, he] <;> rfl
      · exact absurd (hpaired.symm.trans hscanning) (by decide)

/-- Through any run on time, a node that begins without a pairing is connected by the first
pass of its loop `500 * (i + 1)` ms after the start or later, paired with the coordinator on
both sides, if the coordinator's channel is at place `i` of the scan. -/
theorem new_node_connects [ChannelFrame σ] [TunesValidChannels τ] (hs : s.Valid)
    (hcoordAddr : coordAddr.isZero = false) (hnodeAddr : nodeAddr.isZero = false)
    (hi : s.tuned i = ch) (h : Begins s nodeAddr ch deviceId start w)
    (evs : List DiscoveryEvent) (hevs : EachStep (apply coordAddr nodeAddr) OnTime w evs) :
    (∃ pre ev post, evs = pre ++ ev :: post ∧ Connected coordAddr nodeAddr ch deviceId
        (run (apply coordAddr nodeAddr) w (pre ++ [ev]))) ∨
      ((run (apply coordAddr nodeAddr) w evs).node.getState = .UNPAIRED_DISCOVERY ∧
        (run (apply coordAddr nodeAddr) w evs).looped < start + 500 * (i + 1)) :=
  (reached_or_kept (Discovering s coordAddr nodeAddr ch deviceId start i) _ (h.discovering hs)
    hevs fun _ _ hw htime => hw.step hs hcoordAddr hnodeAddr hi htime).imp_right
      fun hlast => ⟨hlast.state, hlast.early⟩

end NewNode
end Net

section Example

/-- The coordinator and the client of the discovery, with a manager. -/
def newNode : NewNode (EspNowTransport SimRadio) (EspNowTransport SimRadio) :=
  { coordinator := discoveryNet.coordinator,
    node := Node.start freshClient none {} (stamp 6000),
    coordOffset := 0, nodeOffset := 5000, sampled := 1000, looped := 1000 }

theorem newNode_connects : ∃ pre ev post, discoveryEvents = pre ++ ev :: post ∧
    NewNode.Connected coordMac clientMac 6 7
      (run (NewNode.apply coordMac clientMac) newNode (pre ++ [ev])) := by
  have hbegins : NewNode.Begins sparseScan clientMac 6 7 1000 newNode :=
    ⟨⟨freshClient, none, {}, stamp 6000, by decide, rfl, rfl, rfl⟩, discoveryNet_open,
      by decide, ⟨1000, by decide, by decide, by decide⟩, rfl, rfl⟩
  have hplace : sparseScan.tuned 1 = 6 := by decide
  have hcoord : coordMac.isZero = false := by decide
  rcases NewNode.new_node_connects (by decide) hcoord (by decide) hplace hbegins
    discoveryEvents (by decide) with hconnected | ⟨_, hlate⟩
  · exact hconnected
  · exact absurd hlate (by decide)

end Example
end UngulaNet.Connection
