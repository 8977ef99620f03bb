import UngulaNet.Pairing.CoordinatorOutput
import UngulaNet.Connection.PairingDurability
import UngulaNet.Connection.ReacquireChannel

/-!
# A lost coordinator is found again

A scanning node and its coordinator as one system. Frames are heard by a radio that is on
the channel they are sent on. While the coordinator stays on a channel of the node's scan
list and keeps the node in its table, the node is connected again after at most `2 * n` due
passes of its loop, with a pairing that names the coordinator's channel. The pass that
connects it probes first, so its radio may be on the next channel of the scan by then.
-/

namespace UngulaNet.Connection
open Comm Comm.Transport Pairing Runs RoundRobin
set_option autoImplicit false

structure ReacqNet (σ τ : Type) where
  coordinator : PairingCoordinator σ
  node : Node τ

/-- One `round` is a pass of the node's main loop, with the frames that it puts on the air
and the answers to them. Anything may happen to the coordinator in between. -/
inductive ReacqEvent where
  | round (nowMs : UInt32)
  | heartbeat (nowMs : UInt32)
  | coordinator (op : CoordinatorOp)

/-- The receive handler hands on what is an ack by its size and its magic. -/
def IsReconnectAck (data : List UInt8) : Prop :=
  ReconnectAck.size ≤ data.length ∧ (ReconnectAck.ofBytes data).isValid = true

instance (data : List UInt8) : Decidable (IsReconnectAck data) :=
  inferInstanceAs (Decidable (_ ∧ _))

section Net
variable {σ τ : Type} [ITransport σ] [ITransport τ]

def Node.hear (n : Node τ) (data : List UInt8) : Node τ :=
  if IsReconnectAck data then NodeEvent.apply n (.ack (.ofBytes data)) else n

namespace ReacqNet

def round (coordAddr nodeAddr : MacAddress) (net : ReacqNet σ τ) (nowMs : UInt32) :
    ReacqNet σ τ :=
  let node := net.node.loop nowMs
  if node.provider.transport.getChannel = net.coordinator.transport.getChannel then
    let probes := framesFor coordAddr
      (framesSince net.node.provider.transport node.provider.transport)
    let coordinator := net.coordinator.hearAll nodeAddr probes
    let answers := framesFor nodeAddr (framesSince net.coordinator.transport coordinator.transport)
    { coordinator := coordinator, node := answers.foldl Node.hear node }
  else { net with node := node }

def apply (coordAddr nodeAddr : MacAddress) (net : ReacqNet σ τ) : ReacqEvent → ReacqNet σ τ
  | .round nowMs => net.round coordAddr nodeAddr nowMs
  | .heartbeat nowMs => { net with node := net.node.onHeartbeatReceived nowMs }
  | .coordinator op => { net with coordinator := op.apply net.coordinator }

/-- The node keeps its place in the table. -/
def Keeps (nodeAddr : MacAddress) (net : ReacqNet σ τ) : ReacqEvent → Prop
  | .coordinator op => (op.apply net.coordinator).isPaired nodeAddr = true
  | _ => True

def Due (net : ReacqNet σ τ) : ReacqEvent → Prop
  | .round nowMs => ¬ nowMs < net.node.nextProbeMs
  | _ => False

instance (net : ReacqNet σ τ) : ∀ ev, Decidable (net.Due ev)
  | .round _ => inferInstanceAs (Decidable (¬ _))
  | .heartbeat _ | .coordinator _ => isFalse (fun h => h)

/-- The rounds of a run in which the node's loop has something to do. -/
def dueRounds (coordAddr nodeAddr : MacAddress) : ReacqNet σ τ → List ReacqEvent → Nat
  | _, [] => 0
  | net, ev :: evs =>
    (if net.Due ev then 1 else 0) +
      dueRounds coordAddr nodeAddr (net.apply coordAddr nodeAddr ev) evs

/-- The node scans for the coordinator it is paired with, which knows it and is on a
channel of the scan, and no accepted ack waits for it to look. -/
structure Lost (coordAddr nodeAddr : MacAddress) (ch : UInt8) (net : ReacqNet σ τ) : Prop where
  node : NodeInv net.node
  state : net.node.state = .REACQUIRING_DYNAMIC
  noAck : net.node.provider.reacquisitionDone = false
  paired : net.node.provider.pairing.isPaired = true
  mac : net.node.provider.pairing.coordinatorMac = coordAddr
  valid : net.node.provider.pairing.scanChannels.Valid
  listed : ∃ i < net.node.provider.pairing.scanChannels.roundLength,
    net.node.provider.pairing.scanChannels.channelAt i = ch
  known : net.coordinator.isPaired nodeAddr = true
  channel : net.coordinator.transport.getChannel = ch

/-- The node is connected, and its pairing names the coordinator and its channel, in memory
and in the store. Nothing is said of its radio. -/
structure Back (coordAddr : MacAddress) (ch : UInt8) (net : ReacqNet σ τ) : Prop where
  connected : net.node.isConnected = true
  state : net.node.getState = .PAIRED_CONNECTED
  mac : net.node.provider.pairing.coordinatorMac = coordAddr
  paired : net.node.provider.pairing.pairedChannel = ch
  stored : storedChannel net.node.provider.pairing.prefs = ch

end ReacqNet
end Net

section Probe
variable {σ τ : Type} [ITransport σ] [ITransport τ]

theorem isReconnectProbe_init (deviceId : UInt8) :
    IsReconnectProbe (ReconnectProbe.init deviceId).toBytes := ⟨Nat.le_refl 8, rfl⟩

theorem isReconnectAck_init (ch : UInt8) : IsReconnectAck (ReconnectAck.init ch).toBytes :=
  ⟨Nat.le_refl 8, rfl⟩

/-- A probe of a client in the table is answered to its sender, and changes no table. -/
theorem probe_answered [ChannelFrame σ] {c : PairingCoordinator σ} {nodeAddr : MacAddress}
    (hknown : c.isPaired nodeAddr = true) (deviceId : UInt8) :
    let c' := c.hearAll nodeAddr [(ReconnectProbe.init deviceId).toBytes]
    framesFor nodeAddr (framesSince c.transport c'.transport) =
        [(ReconnectAck.init c.transport.getChannel).toBytes] ∧
      c'.isPaired nodeAddr = true ∧ c'.transport.getChannel = c.transport.getChannel := by
  have hresponds := handleReceived_responds c nodeAddr (ReconnectProbe.init deviceId).toBytes
  rw [inbound_probe nodeAddr (isReconnectProbe_init deviceId)] at hresponds
  have hknows := hknown
  rw [PairingCoordinator.isPaired_eq_knows] at hknows
  refine ⟨?_, ?_, by rw [PairingCoordinator.hearAll_single, hresponds.channel]⟩
  · have hframes := hresponds.frames
    simp only [Responder.answers, PairingCoordinator.responder, hknows, if_true,
      List.map_cons, List.map_nil, Outbound.bytes] at hframes
    rw [PairingCoordinator.hearAll_single, hframes]
    exact framesFor_single nodeAddr _
  · have htable := congrArg Responder.table hresponds.responder
    simp only [Responder.step, PairingCoordinator.responder] at htable
    rw [PairingCoordinator.hearAll_single, PairingCoordinator.isPaired_eq_knows, htable]
    exact hknows

theorem hear_idle {n : Node τ} (h : n.provider.reacquiring = false) (data : List UInt8) :
    n.hear data = n := by
  unfold Node.hear
  split
  · rw [NodeEvent.apply, EspNowSessionProvider.onReconnectAck_idle h]
    rfl
  · rfl

theorem hearAll_idle {n : Node τ} (h : n.provider.reacquiring = false)
    (frames : List (List UInt8)) : frames.foldl Node.hear n = n := by
  induction frames with
  | nil => rfl
  | cons data frames ih => rw [List.foldl_cons, hear_idle h, ih]

end Probe

namespace ReacqNet
variable {σ τ : Type} [ITransport σ] [ITransport τ]

/-- The node has sent `k` probes since its scan index was 0, and none was answered. `p` is
its pairing client when the search was first looked at. -/
structure Seeking (nodeAddr : MacAddress) (ch : UInt8) (p : PairingClient τ) (k : Nat)
    (net : ReacqNet σ τ) : Prop where
  flag : net.node.FlagAgrees
  state : net.node.state = .REACQUIRING_DYNAMIC
  noAck : net.node.provider.reacquisitionDone = false
  scanning : Scanning p k net.node.provider
  known : net.coordinator.isPaired nodeAddr = true
  channel : net.coordinator.transport.getChannel = ch

/-- An ack was accepted, and the node has not looked at it yet. -/
structure Answered (coordAddr : MacAddress) (ch : UInt8) (net : ReacqNet σ τ) : Prop where
  flag : net.node.FlagAgrees
  state : net.node.state = .REACQUIRING_DYNAMIC
  done : net.node.provider.reacquisitionDone = true
  mac : net.node.provider.pairing.coordinatorMac = coordAddr
  paired : net.node.provider.pairing.pairedChannel = ch
  stored : storedChannel net.node.provider.pairing.prefs = ch

variable {coordAddr nodeAddr : MacAddress} {ch : UInt8} {p : PairingClient τ} {k : Nat}
  {net : ReacqNet σ τ}

theorem round_early {nowMs : UInt32} (h : net.node.loop nowMs = net.node) :
    net.round coordAddr nodeAddr nowMs = net := by
  unfold round
  simp only [h, framesSince_self, framesFor_nil, PairingCoordinator.hearAll_nil,
    List.foldl_nil]
  split <;> rfl

omit [ITransport σ] in
theorem answered_hear [ChannelFrame τ] [TunesValidChannels τ] (c : PairingCoordinator σ)
    {n : Node τ} (hflag : n.FlagAgrees) (hstate : n.state = .REACQUIRING_DYNAMIC)
    (hreacq : n.provider.reacquiring = true)
    (hmac : n.provider.pairing.coordinatorMac = coordAddr) (hch : UsableChannel ch) :
    Answered coordAddr ch { coordinator := c, node := n.hear (ReconnectAck.init ch).toBytes } := by
  have hhear : n.hear (ReconnectAck.init ch).toBytes =
      n.setProvider (n.provider.onReconnectAck (ReconnectAck.init ch)).2 :=
    if_pos (isReconnectAck_init ch)
  have hacked : (ReconnectAck.init ch).channel = ch := rfl
  obtain ⟨_, hack, hon⟩ := onReconnectAck_onChannel hreacq (hacked.symm ▸ hch)
  refine ⟨?_, ?_, ?_, ?_, ?_, ?_⟩ <;> rw [hhear]
  · exact hflag.setProvider _
  · exact hstate
  · exact hack
  · change (n.provider.onReconnectAck (ReconnectAck.init ch)).2.pairing.coordinatorMac = _
    rw [EspNowSessionProvider.onReconnectAck_accepts hreacq]
    exact (PairingClient.setPairedChannel_coordinatorMac _ _).trans hmac
  · exact hon.paired
  · exact hon.stored

/-- A due pass probes the next channel of the round. If the coordinator is there, its ack is
back before the node looks again; otherwise the search goes on. -/
theorem Seeking.round_due [ChannelFrame σ] [ChannelFrame τ] [TunesValidChannels τ]
    (h : Seeking nodeAddr ch p k net) (hmac : p.coordinatorMac = coordAddr)
    (hvalid : p.scanChannels.Valid) (hch : UsableChannel ch) {nowMs : UInt32}
    (hdue : ¬ nowMs < net.node.nextProbeMs) :
    (p.scanChannels.channelAt (slot 256 p.scanChannels.roundLength k) = ch ∧
        Answered coordAddr ch (net.round coordAddr nodeAddr nowMs)) ∨
      (p.scanChannels.channelAt (slot 256 p.scanChannels.roundLength k) ≠ ch ∧
        Seeking nodeAddr ch p (k + 1) (net.round coordAddr nodeAddr nowMs)) := by
  obtain ⟨hprobes, hcalls, hnext⟩ := h.scanning.probe nowMs
  have hreacq := h.scanning.reacquiring
  have hscan : net.node.provider.pairing.scanChannels.Valid := by
    rw [h.scanning.pairing]
    exact hvalid
  -- what the loop makes of the node
  have hdone := (EspNowSessionProvider.loopReacquisition_fields net.node.provider nowMs).2
  obtain ⟨node', hloop, hprovider, hflag, hstate⟩ : ∃ node' : Node τ,
      net.node.loop nowMs = node' ∧ node'.provider = loopStep net.node.provider nowMs ∧
      node'.FlagAgrees ∧ node'.state = .REACQUIRING_DYNAMIC := by
    rcases ConnectionManager.loop_dynamic h.flag h.state nowMs with
      ⟨hearly, _⟩ | ⟨_, _, he⟩ | ⟨_, hcomplete, _⟩
    · exact absurd hearly hdue
    · exact ⟨_, he, rfl, ⟨h.flag.began, h.flag.connected⟩, h.state⟩
    · exact absurd (hcomplete.symm.trans (hdone.trans h.noAck)) (by decide)
  have hradio : node'.provider.transport.getChannel =
      p.scanChannels.channelAt (slot 256 p.scanChannels.roundLength k) := by
    rw [hprovider, ← h.scanning.place]
    refine (loopReacquisition_getChannel hreacq h.scanning.paired hscan nowMs).trans ?_
    rw [scanChannel_eq, h.scanning.pairing]
  have hframes : framesFor coordAddr
      (framesSince net.node.provider.transport node'.provider.transport) =
        [(ReconnectProbe.init p.deviceId).toBytes] := by
    rw [hprovider, framesSince_eq hcalls, ← hmac]
    exact framesFor_single p.coordinatorMac _
  by_cases hmeets : p.scanChannels.channelAt (slot 256 p.scanChannels.roundLength k) = ch
  · refine Or.inl ⟨hmeets, ?_⟩
    obtain ⟨hanswers, _, _⟩ := probe_answered h.known p.deviceId
    have hround : (net.round coordAddr nodeAddr nowMs).node =
        node'.hear (ReconnectAck.init ch).toBytes := by
      unfold ReacqNet.round
      simp only [hloop, hradio, hmeets, h.channel, if_true, hframes]
      rw [hanswers, h.channel, List.foldl_cons, List.foldl_nil]
    have hreacq' : node'.provider.reacquiring = true := by
      rw [hprovider]
      exact hnext.reacquiring
    have hmac' : node'.provider.pairing.coordinatorMac = coordAddr := by
      rw [hprovider, hnext.pairing]
      exact hmac
    have hacked := answered_hear net.coordinator hflag hstate hreacq' hmac' hch
    rw [← hround] at hacked
    exact ⟨hacked.flag, hacked.state, hacked.done, hacked.mac, hacked.paired, hacked.stored⟩
  · refine Or.inr ⟨hmeets, ?_⟩
    have hround : net.round coordAddr nodeAddr nowMs = { net with node := node' } := by
      unfold ReacqNet.round
      simp only [hloop, hradio, h.channel, if_neg hmeets]
    rw [hround]
    refine ⟨hflag, hstate, ?_, ?_, h.known, h.channel⟩
    · rw [hprovider]
      exact hdone.trans h.noAck
    · rw [hprovider]
      exact hnext

/-- While it scans, the node takes no notice of heartbeats, and the loop waits for its
time. -/
theorem idle_step {ev : ReacqEvent} (hflag : net.node.FlagAgrees)
    (hstate : net.node.state = .REACQUIRING_DYNAMIC) (hdue : ¬ net.Due ev) :
    (net.apply coordAddr nodeAddr ev).node = net.node ∧
      ((net.apply coordAddr nodeAddr ev).coordinator = net.coordinator ∨
        ∃ op, ev = .coordinator op) := by
  cases ev with
  | round nowMs =>
    have hearly : nowMs < net.node.nextProbeMs := not_not.mp hdue
    have hloop : net.node.loop nowMs = net.node := by
      rcases ConnectionManager.loop_dynamic hflag hstate nowMs with
        ⟨_, he⟩ | ⟨hlate, _, _⟩ | ⟨hlate, _, _⟩
      · exact he
      · exact absurd hearly hlate
      · exact absurd hearly hlate
    rw [apply, round_early hloop]
    exact ⟨rfl, Or.inl rfl⟩
  | heartbeat nowMs =>
    refine ⟨?_, Or.inl rfl⟩
    rcases ConnectionManager.onHeartbeatReceived_cases hflag nowMs with
      ⟨_, he⟩ | ⟨hheeds, _, _⟩ | ⟨hheeds, _, _⟩
    · exact he
    · exact absurd hstate hheeds.2
    · exact absurd hstate hheeds.2
  | coordinator op => exact ⟨rfl, Or.inr ⟨op, rfl⟩⟩

theorem Answered.idle (h : Answered coordAddr ch net) {ev : ReacqEvent} (hdue : ¬ net.Due ev) :
    Answered coordAddr ch (net.apply coordAddr nodeAddr ev) := by
  have hnode := (@idle_step _ _ _ _ coordAddr nodeAddr net ev h.flag h.state hdue).1
  constructor <;> rw [hnode]
  · exact h.flag
  · exact h.state
  · exact h.done
  · exact h.mac
  · exact h.paired
  · exact h.stored

theorem Seeking.idle [ChannelFrame σ] (h : Seeking nodeAddr ch p k net) {ev : ReacqEvent}
    (hdue : ¬ net.Due ev) (hkeeps : net.Keeps nodeAddr ev) :
    Seeking nodeAddr ch p k (net.apply coordAddr nodeAddr ev) := by
  obtain ⟨hnode, hcoord⟩ := @idle_step _ _ _ _ coordAddr nodeAddr net ev h.flag h.state hdue
  constructor
  · rw [hnode]
    exact h.flag
  · rw [hnode]
    exact h.state
  · rw [hnode]
    exact h.noAck
  · rw [hnode]
    exact h.scanning
  · rcases hcoord with he | ⟨op, rfl⟩
    · rw [he]
      exact h.known
    · exact hkeeps
  · rcases hcoord with he | ⟨op, rfl⟩
    · rw [he]
      exact h.channel
    · exact (apply_radio net.coordinator op).2.2.trans h.channel

/-- The next due pass looks at the ack. It probes once more before it does, and whatever
comes of that is not waited for. -/
theorem Answered.round_due (h : Answered coordAddr ch net) {nowMs : UInt32}
    (hdue : ¬ nowMs < net.node.nextProbeMs) :
    Back coordAddr ch (net.round coordAddr nodeAddr nowMs) := by
  obtain ⟨_, hdone⟩ := EspNowSessionProvider.loopReacquisition_fields net.node.provider nowMs
  obtain ⟨hpaired, hprefs, _⟩ := loopReacquisition_pairing net.node.provider nowMs
  obtain ⟨t, i, hloop⟩ := net.node.provider.loopReacquisition_eq nowMs
  have hback : Back coordAddr ch { net with node := net.node.loop nowMs } ∧
      (net.node.loop nowMs).provider.reacquiring = false := by
    rcases ConnectionManager.loop_dynamic h.flag h.state nowMs with
      ⟨hearly, _⟩ | ⟨_, hnot, _⟩ | ⟨_, _, he⟩
    · exact absurd hearly hdue
    · exact absurd ((hdone.trans h.done).symm.trans hnot) (by decide)
    · rw [he]
      refine ⟨⟨rfl, rfl, ?_, hpaired.trans h.paired, ?_⟩, rfl⟩
      · change (net.node.provider.loopReacquisition nowMs).2.pairing.coordinatorMac = coordAddr
        rw [hloop]
        exact h.mac
      · exact (congrArg storedChannel hprefs).trans h.stored
  obtain ⟨hback, hidle⟩ := hback
  unfold ReacqNet.round
  dsimp only
  split
  · rw [hearAll_idle hidle]
    exact ⟨hback.connected, hback.state, hback.mac, hback.paired, hback.stored⟩
  · exact hback

theorem Answered.exists_back : ∀ {evs : List ReacqEvent} {net : ReacqNet σ τ},
    Answered coordAddr ch net → 1 ≤ dueRounds coordAddr nodeAddr net evs →
    ∃ pre post, evs = pre ++ post ∧
      Back coordAddr ch (run (apply coordAddr nodeAddr) net pre) := by
  intro evs
  induction evs with
  | nil =>
    intro net _ hdue
    exact absurd hdue (by simp [dueRounds])
  | cons ev evs ih =>
    intro net h hdue
    by_cases hev : net.Due ev
    · cases ev with
      | round nowMs => exact ⟨[.round nowMs], evs, rfl, h.round_due hev⟩
      | heartbeat nowMs => exact absurd hev id
      | coordinator op => exact absurd hev id
    · rw [dueRounds, if_neg hev, Nat.zero_add] at hdue
      obtain ⟨pre, post, heq, hback⟩ := ih (h.idle hev) hdue
      exact ⟨ev :: pre, post, by rw [heq]; rfl, hback⟩

/-- The search ends at the turn of the coordinator's channel, if not before. -/
theorem Seeking.exists_back [ChannelFrame σ] [ChannelFrame τ] [TunesValidChannels τ]
    (hmac : p.coordinatorMac = coordAddr) (hvalid : p.scanChannels.Valid)
    (hch : UsableChannel ch) {turn : Nat}
    (hturn : p.scanChannels.channelAt (slot 256 p.scanChannels.roundLength turn) = ch) :
    ∀ {evs : List ReacqEvent} {net : ReacqNet σ τ} {k : Nat}, Seeking nodeAddr ch p k net →
      k ≤ turn → turn - k + 2 ≤ dueRounds coordAddr nodeAddr net evs →
      EachStep (apply coordAddr nodeAddr) (Keeps nodeAddr) net evs →
      ∃ pre post, evs = pre ++ post ∧
        Back coordAddr ch (run (apply coordAddr nodeAddr) net pre) := by
  intro evs
  induction evs with
  | nil =>
    intro net k _ _ hdue _
    exact absurd hdue (by simp [dueRounds])
  | cons ev evs ih =>
    intro net k h hle hdue hkeeps
    by_cases hev : net.Due ev
    · rw [dueRounds, if_pos hev] at hdue
      cases ev with
      | heartbeat nowMs => exact absurd hev id
      | coordinator op => exact absurd hev id
      | round nowMs =>
        change turn - k + 2 ≤
          1 + dueRounds coordAddr nodeAddr (net.round coordAddr nodeAddr nowMs) evs at hdue
        rcases h.round_due hmac hvalid hch hev with ⟨_, hfound⟩ | ⟨hmiss, hnext⟩
        · have hone :
              1 ≤ dueRounds coordAddr nodeAddr (net.round coordAddr nodeAddr nowMs) evs := by omega
          obtain ⟨pre, post, heq, hback⟩ := hfound.exists_back hone
          exact ⟨.round nowMs :: pre, post, by rw [heq]; rfl, hback⟩
        · have hne : k ≠ turn := by
            rintro rfl
            exact hmiss hturn
          obtain ⟨pre, post, heq, hback⟩ := ih hnext (by omega) (by omega) hkeeps.2
          exact ⟨.round nowMs :: pre, post, by rw [heq]; rfl, hback⟩
    · rw [dueRounds, if_neg hev, Nat.zero_add] at hdue
      obtain ⟨pre, post, heq, hback⟩ := ih (h.idle hev hkeeps.1) hle hdue hkeeps.2
      exact ⟨ev :: pre, post, by rw [heq]; rfl, hback⟩

/-- A node that scans for its coordinator, wherever in the round its scan stands, is
connected again within `2 * n` due passes of its loop, with a pairing that names the
coordinator's channel. -/
theorem lost_node_comes_back [ChannelFrame σ] [ChannelFrame τ] [TunesValidChannels τ]
    {net : ReacqNet σ τ} (h : Lost coordAddr nodeAddr ch net) (evs : List ReacqEvent)
    (hkeeps : EachStep (apply coordAddr nodeAddr) (Keeps nodeAddr) net evs)
    (hdue : 2 * net.node.provider.pairing.scanChannels.roundLength ≤
      dueRounds coordAddr nodeAddr net evs) :
    ∃ pre post, evs = pre ++ post ∧
      Back coordAddr ch (run (apply coordAddr nodeAddr) net pre) := by
  let s := net.node.provider
  have hpos := s.pairing.scanChannels.roundLength_pos
  have hlt := s.pairing.scanChannels.roundLength_lt
  obtain ⟨i, hi, hat⟩ := h.listed
  have hch : UsableChannel ch := hat ▸ ScanChannels.channelAt_usable h.valid hi
  obtain ⟨turn, hfrom, hto, hslot⟩ := exists_turn hpos hlt.le s.scanIndex.toNat hi
  have hseeking : Seeking nodeAddr ch s.pairing s.scanIndex.toNat net :=
    ⟨h.node.flag, h.state, h.noAck,
      ⟨h.node.reacquiring.mpr h.state, h.paired, rfl,
        (Nat.mod_eq_of_lt s.scanIndex.toNat_lt).symm⟩, h.known, h.channel⟩
  refine hseeking.exists_back h.mac h.valid hch (by rw [hslot]; exact hat) hfrom ?_ hkeeps
  change 2 * s.pairing.scanChannels.roundLength ≤ _ at hdue
  omega

end ReacqNet

section Example

/-- The scanning node of the examples after its first probe, on channel 1; the coordinator
has moved to channel 11. -/
def lostNet : ReacqNet (EspNowTransport SimRadio) (EspNowTransport SimRadio) :=
  { coordinator := ((PairingCoordinator.new (simTransport coordMac 11)
      Preferences.empty).storePairedClient clientMac 7).2,
    node := run NodeEvent.apply scanningNode.node firstScanProbe }

def searchRounds : List ReacqEvent :=
  [1020, 1100, 1520, 2020, 2520, 3020, 3520].map .round

theorem lostNet_comes_back : ∃ pre post, searchRounds = pre ++ post ∧
    ReacqNet.Back coordMac 11 (run (ReacqNet.apply coordMac clientMac) lostNet pre) := by
  have hnode : NodeInv lostNet.node :=
    run_nodeInv (start_nodeInv pairedClient none { staticMaxProbes := 1 } 0) firstScanProbe
  refine ReacqNet.lost_node_comes_back ⟨hnode, by decide, by decide, by decide, by decide,
    by decide, ⟨2, by decide, by decide⟩, by decide, by decide⟩ searchRounds ?_ (by decide)
  exact ⟨trivial, trivial, trivial, trivial, trivial, trivial, trivial, trivial⟩

end Example
end UngulaNet.Connection
