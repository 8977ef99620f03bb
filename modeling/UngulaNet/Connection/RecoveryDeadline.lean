import UngulaNet.Connection.SilenceDeadline
import UngulaNet.Connection.AckCausality

/-!
# A coordinator that moves is found in time

The coordinator of a connected node goes to another channel. The node hears nothing more,
sends its static probes, and scans. With policy DYNAMIC it is connected again, with a pairing
that names the new channel, by a deadline that the configuration, the pace of its main loop
and the place of that channel in its scan give, whatever else the coordinator does in the
meantime. The radio may be one channel further in the scan by then.
-/

namespace UngulaNet.Connection
open Comm Comm.Transport Pairing Runs RoundRobin WrapClock ConnectionManager
set_option autoImplicit false

/-- `k` probes of a scan: each is due an interval after the one before, and the pass of the
loop that sends it may be `gap` late. -/
def ConnectionConfig.scanPassesMs (config : ConnectionConfig) (gap k : Nat) : Nat :=
  k * (config.dynamicProbeIntervalMs.toNat + gap)

/-- When a node that was last heard at `heard` is connected again at the latest, with the
coordinator at place `i` of its scan. -/
def ConnectionConfig.recoveryDeadline (config : ConnectionConfig) (gap heard i : Nat) : Nat :=
  config.scanDeadline gap heard + gap + config.scanPassesMs gap (i + 1)

theorem Silent.waiting {S : Type} {config : ConnectionConfig} {sent last : Nat}
    {m : ConnectionManager S} (h : Silent config sent m last) :
    m.state ≠ .UNPAIRED_DISCOVERY ∧ m.state ≠ .REACQUIRING_DYNAMIC := by
  cases h with
  | connected _ state | degraded _ state | probing _ state => simp [state]

section Coordinator
variable {σ : Type} [ITransport σ]

theorem knows_update (t : ClientTable) (i : Fin MAX_PAIRED_CLIENTS) (mac : MacAddress)
    (deviceId : UInt8) :
    ClientTable.knows (Function.update t i (some (mac, deviceId))) mac = true := by
  rw [ClientTable.knows, Fin.isSome_find?_iff]
  exact ⟨i, by simp⟩

/-- Whoever asks for it does not lose its own place by it. -/
theorem knows_step {r : Responder} {src : MacAddress} (h : r.table.knows src = true)
    (data : List UInt8) :
    (r.step (CoordinatorOp.handleReceived src data).inbound).table.knows src = true := by
  by_cases hp : IsReconnectProbe data
  · rw [inbound_probe src hp]
    exact h
  by_cases hr : PairingCoordinator.IsRequest data
  · rw [inbound_request src hr]
    simp only [Responder.step, ClientTable.enter]
    cases ClientTable.slotFor r.table src (PairingRequest.ofBytes data).deviceId with
    | none => exact h
    | some i => exact knows_update r.table i src _
  · rw [inbound_other src hp hr]
    exact h

/-- What frames from `src` may make of a coordinator: acks for the channel it stays on, and
`src` stays in its table. -/
structure Heard (src : MacAddress) (c c' : PairingCoordinator σ) : Prop where
  calls : CallsOnly (fun _ => True) c.transport c'.transport
  acks : ∀ f ∈ framesSince c.transport c'.transport, IsReconnectAck f.2 →
    f.2 = (ReconnectAck.init c.transport.getChannel).toBytes
  known : c.isPaired src = true → c'.isPaired src = true
  channel : c'.transport.getChannel = c.transport.getChannel

theorem Heard.refl (src : MacAddress) (c : PairingCoordinator σ) : Heard src c c := by
  refine ⟨CallsOnly.refl _, ?_, id, rfl⟩
  intro f hf
  rw [framesSince_self] at hf
  exact absurd hf List.not_mem_nil

theorem Heard.trans {src : MacAddress} {c c' c'' : PairingCoordinator σ} (h : Heard src c c')
    (h' : Heard src c' c'') : Heard src c c'' := by
  refine ⟨h.calls.trans h'.calls, ?_, h'.known ∘ h.known, h'.channel.trans h.channel⟩
  intro f hf hack
  rw [framesSince_trans h.calls h'.calls, List.mem_append] at hf
  rcases hf with hf | hf
  · exact h.acks f hf hack
  · rw [← h.channel]
    exact h'.acks f hf hack

theorem handleReceived_heard [ChannelFrame σ] (c : PairingCoordinator σ) (src : MacAddress)
    (data : List UInt8) : Heard src c (c.handleReceived src data).2 := by
  have hresponds := handleReceived_responds c src data
  refine ⟨hresponds.calls, ?_, ?_, hresponds.channel⟩
  · intro f hf hack
    have hop : f ∈ framesSince c.transport
        (CoordinatorOp.apply c (.handleReceived src data)).transport := hf
    obtain ⟨_, _, _, _, hdata⟩ := ack_sent hop hack
    exact hdata
  · intro hknown
    rw [PairingCoordinator.isPaired_eq_knows] at hknown ⊢
    have htable : (c.handleReceived src data).2.table =
        (c.responder.step (CoordinatorOp.handleReceived src data).inbound).table :=
      congrArg Responder.table hresponds.responder
    rw [htable]
    exact knows_step (r := c.responder) hknown data

theorem hearAll_heard [ChannelFrame σ] (c : PairingCoordinator σ) (src : MacAddress)
    (frames : List (List UInt8)) : Heard src c (c.hearAll src frames) := by
  induction frames generalizing c with
  | nil => exact Heard.refl src c
  | cons data frames ih => exact (handleReceived_heard c src data).trans (ih _)

end Coordinator

section Node
variable {τ : Type} [ITransport τ]

theorem hear_setProvider (n : Node τ) (data : List UInt8) :
    ∃ s, n.hear data = n.setProvider s := by
  unfold Node.hear
  split
  · exact ⟨_, rfl⟩
  · exact ⟨n.provider, rfl⟩

theorem hearAll_setProvider (n : Node τ) (frames : List (List UInt8)) :
    ∃ s, frames.foldl Node.hear n = n.setProvider s := by
  induction frames generalizing n with
  | nil => exact ⟨n.provider, rfl⟩
  | cons data frames ih =>
    obtain ⟨s, hs⟩ := hear_setProvider n data
    obtain ⟨s', hs'⟩ := ih (n.hear data)
    exact ⟨s', by rw [List.foldl_cons, hs', hs]; rfl⟩

theorem hear_reacquiring (n : Node τ) (data : List UInt8) :
    (n.hear data).provider.reacquiring = n.provider.reacquiring := by
  unfold Node.hear
  split
  · exact onReconnectAck_reacquiring n.provider _
  · rfl

theorem loop_starts_scan {n : Node τ} (h : n.FlagAgrees) (hs : n.state ≠ .REACQUIRING_DYNAMIC)
    {nowMs : UInt32} (hscan : (n.loop nowMs).state = .REACQUIRING_DYNAMIC) :
    (n.loop nowMs).provider.reacquisitionDone = false ∧ (n.loop nowMs).provider.scanIndex = 0 ∧
      (n.loop nowMs).nextProbeMs = nowMs := by
  cases hstate : n.state with
  | REACQUIRING_DYNAMIC => exact absurd hstate hs
  | UNPAIRED_DISCOVERY =>
    rcases loop_unpaired h hstate nowMs with ⟨_, he⟩ | ⟨_, he⟩ <;> rw [he] at hscan
    · exact absurd hscan hs
    · exact ConnMgrState.noConfusion hscan
  | PAIRED_CONNECTED =>
    rcases loop_connected h hstate nowMs with ⟨_, he⟩ | ⟨_, he⟩ <;> rw [he] at hscan
    · exact absurd hscan hs
    · exact ConnMgrState.noConfusion hscan
  | PAIRED_DEGRADED =>
    rcases loop_degraded h hstate nowMs with ⟨_, he⟩ | ⟨_, he⟩ <;> rw [he] at hscan
    · exact absurd hscan hs
    · exact ConnMgrState.noConfusion hscan
  | REACQUIRING_STATIC =>
    rcases loop_static h hstate nowMs with ⟨_, he⟩ | ⟨_, _, he⟩ | ⟨_, _, he⟩
    · rw [he] at hscan
      exact absurd hscan hs
    · rw [he] at hscan
      exact absurd hscan hs
    · rw [he]
      exact ⟨rfl, rfl, rfl⟩

theorem loop_nextPass {n : Node τ} (h : n.FlagAgrees) (hs : n.state = .REACQUIRING_DYNAMIC)
    {nowMs : UInt32} (hdue : ¬ nowMs < n.nextProbeMs) :
    (n.loop nowMs).nextProbeMs = nowMs + n.config.dynamicProbeIntervalMs := by
  rcases loop_dynamic h hs nowMs with ⟨hearly, _⟩ | ⟨_, _, he⟩ | ⟨_, _, he⟩
  · exact absurd hearly hdue
  · rw [he]
  · rw [he]

end Node

section Net
variable {σ τ : Type} [ITransport σ] [ITransport τ]

/-- A pass of the node's main loop, after what the coordinator has done since the pass before. -/
structure NetPass where
  ops : List CoordinatorOp
  time : Nat

def NetPass.events (a : NetPass) : List ReacqEvent :=
  a.ops.map .coordinator ++ [.round (stamp a.time)]

namespace ReacqNet
variable {coordAddr nodeAddr : MacAddress} {ch : UInt8} {net : ReacqNet σ τ}

def pass (coordAddr nodeAddr : MacAddress) (net : ReacqNet σ τ) (a : NetPass) : ReacqNet σ τ :=
  run (apply coordAddr nodeAddr) net a.events

/-- What the frames of a round are to the two: the coordinator hears the node, and what the
node hears of acks is the coordinator's channel. -/
theorem round_heard [ChannelFrame σ] (coordAddr nodeAddr : MacAddress) (net : ReacqNet σ τ)
    (nowMs : UInt32) :
    Heard nodeAddr net.coordinator (net.round coordAddr nodeAddr nowMs).coordinator ∧
      ∃ frames : List (List UInt8), (net.round coordAddr nodeAddr nowMs).node =
          frames.foldl Node.hear (net.node.loop nowMs) ∧
        ∀ data ∈ frames, IsReconnectAck data →
          data = (ReconnectAck.init net.coordinator.transport.getChannel).toBytes := by
  unfold round
  dsimp only
  split
  · have hheard := hearAll_heard net.coordinator nodeAddr (framesFor coordAddr
      (framesSince net.node.provider.transport (net.node.loop nowMs).provider.transport))
    refine ⟨hheard, _, rfl, ?_⟩
    intro data hdata hack
    obtain ⟨f, hf, rfl⟩ := List.mem_map.mp hdata
    exact hheard.acks f (List.mem_filter.mp hf).1 hack
  · exact ⟨Heard.refl nodeAddr net.coordinator, [], rfl, fun data hdata => nomatch hdata⟩

omit [ITransport σ] in
/-- What a scanning node makes of frames with no acks but for one channel. -/
theorem hearAll_scanning [ChannelFrame τ] [TunesValidChannels τ] (c : PairingCoordinator σ)
    (hch : UsableChannel ch) {frames : List (List UInt8)}
    (hframes : ∀ data ∈ frames, IsReconnectAck data → data = (ReconnectAck.init ch).toBytes)
    {n : Node τ} (hflag : n.FlagAgrees) (hstate : n.state = .REACQUIRING_DYNAMIC)
    (hreacq : n.provider.reacquiring = true)
    (hmac : n.provider.pairing.coordinatorMac = coordAddr) :
    frames.foldl Node.hear n = n ∨
      Answered coordAddr ch { coordinator := c, node := frames.foldl Node.hear n } := by
  induction frames generalizing n with
  | nil => exact Or.inl rfl
  | cons data frames ih =>
    have hrest := fun data' hdata' => hframes data' (List.mem_cons_of_mem data hdata')
    rw [List.foldl_cons]
    by_cases hack : IsReconnectAck data
    · have hanswered := answered_hear c hflag hstate hreacq hmac hch
      rw [← hframes data List.mem_cons_self hack] at hanswered
      refine Or.inr ?_
      rcases ih hrest hanswered.flag hanswered.state ((hear_reacquiring n data).trans hreacq)
        hanswered.mac with hsame | hmore
      · rw [hsame]
        exact hanswered
      · exact hmore
    · have hsame : n.hear data = n := if_neg hack
      rw [hsame]
      exact ih hrest hflag hstate hreacq hmac

/-- The node keeps its pairing, and the coordinator the node. -/
structure Apart (config : ConnectionConfig) (coordAddr nodeAddr : MacAddress) (s : ScanChannels)
    (ch : UInt8) (net : ReacqNet σ τ) : Prop where
  node : NodeInv net.node
  config : net.node.config = config
  paired : net.node.provider.pairing.isPaired = true
  mac : net.node.provider.pairing.coordinatorMac = coordAddr
  scan : net.node.provider.pairing.scanChannels = s
  known : net.coordinator.isPaired nodeAddr = true
  channel : net.coordinator.transport.getChannel = ch

/-- A scan that has not passed over place `i`, or has found the coordinator. -/
inductive Searches (coordAddr nodeAddr : MacAddress) (s : ScanChannels) (ch : UInt8) (i : Nat)
    (net : ReacqNet σ τ) : Prop where
  | seeking (p : PairingClient τ) (k : Nat) (seeking : Seeking nodeAddr ch p k net)
      (mac : p.coordinatorMac = coordAddr) (scan : p.scanChannels = s) (place : k ≤ i)
  | answered (answered : Answered coordAddr ch net)

/-- The node after a pass of its loop at `last`, on the way back to the coordinator. -/
inductive Recovers (config : ConnectionConfig) (coordAddr nodeAddr : MacAddress)
    (s : ScanChannels) (ch : UInt8) (i : Nat) (net : ReacqNet σ τ) (last : Nat) : Prop where
  | silent (sent : Nat) (apart : Apart config coordAddr nodeAddr s ch net)
      (silent : Silent config sent net.node last)
  | scanning (searches : Searches coordAddr nodeAddr s ch i net)
      (config : net.node.config = config) (waits : last ≤ net.node.nextProbeMs.toNat)

/-- The latest time at which the node is back, by what it does now. -/
def recoveryBound (gap i : Nat) (net : ReacqNet σ τ) : Nat :=
  if net.node.state = .REACQUIRING_DYNAMIC then
    net.node.nextProbeMs.toNat + gap + if net.node.provider.reacquisitionDone then 0
      else net.node.config.scanPassesMs gap (i + 1 - net.node.provider.scanIndex.toNat)
  else scanBound gap net.node + gap + net.node.config.scanPassesMs gap (i + 1)

variable {config : ConnectionConfig} {s : ScanChannels} {gap i last t : Nat}

omit [ITransport τ] in
theorem Searches.state (h : Searches coordAddr nodeAddr s ch i net) :
    net.node.state = .REACQUIRING_DYNAMIC := by
  cases h with
  | seeking p k seeking => exact seeking.state
  | answered answered => exact answered.state

omit [ITransport τ] in
theorem recoveryBound_seeking {p : PairingClient τ} {k : Nat} (h : Seeking nodeAddr ch p k net)
    (hk : k < 256) : recoveryBound gap i net =
      net.node.nextProbeMs.toNat + gap + net.node.config.scanPassesMs gap (i + 1 - k) := by
  rw [recoveryBound, if_pos h.state, h.noAck, h.scanning.index, Nat.mod_eq_of_lt hk]
  rfl

omit [ITransport σ] [ITransport τ] in
theorem recoveryBound_answered (h : Answered coordAddr ch net) :
    recoveryBound gap i net = net.node.nextProbeMs.toNat + gap := by
  rw [recoveryBound, if_pos h.state, h.done]
  rfl

omit [ITransport σ] [ITransport τ] in
theorem recoveryBound_silent (h : net.node.state ≠ .REACQUIRING_DYNAMIC) :
    recoveryBound gap i net =
      scanBound gap net.node + gap + net.node.config.scanPassesMs gap (i + 1) := if_neg h

theorem scanPassesMs_succ (config : ConnectionConfig) (gap k : Nat) :
    config.scanPassesMs gap (k + 1) =
      config.scanPassesMs gap k + config.dynamicProbeIntervalMs.toNat + gap := by
  unfold ConnectionConfig.scanPassesMs
  rw [Nat.succ_mul, Nat.add_assoc]

omit [ITransport τ] in
theorem Recovers.room (h : Recovers config coordAddr nodeAddr s ch i net last) :
    last + gap ≤ recoveryBound gap i net := by
  cases h with
  | silent sent _ silent =>
    have hroom : last + gap ≤ scanBound gap net.node := Silent.room silent
    rw [recoveryBound_silent (silent.waiting).2]
    omega
  | scanning searches _ waits =>
    rw [recoveryBound, if_pos searches.state]
    omega

/-- What the coordinator does in the meantime is nothing to the node. -/
theorem Recovers.coordinator [ChannelFrame σ]
    (h : Recovers config coordAddr nodeAddr s ch i net last) {op : CoordinatorOp}
    (hkeeps : net.Keeps nodeAddr (.coordinator op)) :
    Recovers config coordAddr nodeAddr s ch i (net.apply coordAddr nodeAddr (.coordinator op))
      last := by
  have hdue : ¬ net.Due (.coordinator op) := id
  cases h with
  | silent sent apart silent =>
    have hchannel := (apply_radio net.coordinator op).2.2.trans apart.channel
    exact .silent sent ⟨apart.node, apart.config, apart.paired, apart.mac, apart.scan, hkeeps,
      hchannel⟩ silent
  | scanning searches config waits =>
    refine .scanning ?_ config waits
    cases searches with
    | seeking p k seeking mac scan place =>
      exact .seeking p k (seeking.idle hdue hkeeps) mac scan place
    | answered answered => exact .answered (answered.idle hdue)

theorem Recovers.ops [ChannelFrame σ] (h : Recovers config coordAddr nodeAddr s ch i net last)
    {ops : List CoordinatorOp} (hkeeps : EachStep (apply coordAddr nodeAddr) (Keeps nodeAddr) net
      (ops.map .coordinator)) :
    let net' := run (apply coordAddr nodeAddr) net (ops.map .coordinator)
    Recovers config coordAddr nodeAddr s ch i net' last ∧ net'.node = net.node := by
  induction ops generalizing net with
  | nil => exact ⟨h, rfl⟩
  | cons op ops ih => exact ih (h.coordinator hkeeps.1) hkeeps.2

theorem round_fields [ChannelFrame σ] (coordAddr nodeAddr : MacAddress) (net : ReacqNet σ τ)
    (nowMs : UInt32) :
    (net.round coordAddr nodeAddr nowMs).node.nextProbeMs = (net.node.loop nowMs).nextProbeMs ∧
      (net.round coordAddr nodeAddr nowMs).node.config = (net.node.loop nowMs).config := by
  obtain ⟨_, frames, hnode, _⟩ := round_heard coordAddr nodeAddr net nowMs
  obtain ⟨provider, hset⟩ := hearAll_setProvider (net.node.loop nowMs) frames
  rw [hnode, hset]
  exact ⟨rfl, rfl⟩

theorem Apart.loop (h : Apart config coordAddr nodeAddr s ch net)
    (hunpaired : net.node.state ≠ .UNPAIRED_DISCOVERY) (nowMs : UInt32) :
    Apart config coordAddr nodeAddr s ch { net with node := net.node.loop nowMs } := by
  have hflag := h.node.flag
  obtain ⟨transport, hpairing⟩ := loop_pairing hflag hunpaired nowMs
  refine ⟨⟨flagAgrees_loop hflag nowMs, loop_reacquiring h.node nowMs⟩,
    (config_loop hflag nowMs).trans h.config, ?_, ?_, ?_, h.known, h.channel⟩ <;>
    dsimp only <;> rw [hpairing]
  · exact h.paired
  · exact h.mac
  · exact h.scan

/-- The scan starts with the last static probe, and an ack of that probe may be there
already. -/
theorem Apart.round_scans [ChannelFrame σ] [ChannelFrame τ] [TunesValidChannels τ]
    (h : Apart config coordAddr nodeAddr s ch net)
    (hunpaired : net.node.state ≠ .UNPAIRED_DISCOVERY)
    (hdynamic : net.node.state ≠ .REACQUIRING_DYNAMIC) (hch : UsableChannel ch)
    (ht : t < 2 ^ 32) (hscan : (net.node.loop (stamp t)).state = .REACQUIRING_DYNAMIC) :
    let net' := net.round coordAddr nodeAddr (stamp t)
    Recovers config coordAddr nodeAddr s ch i net' t ∧
      recoveryBound gap i net' ≤ t + gap + config.scanPassesMs gap (i + 1) := by
  intro net'
  have hloop := h.loop hunpaired (stamp t)
  obtain ⟨transport, hpairing⟩ := loop_pairing h.node.flag hunpaired (stamp t)
  obtain ⟨hdone, hindex, hnext⟩ := loop_starts_scan h.node.flag hdynamic hscan
  obtain ⟨hheard, frames, hnode, hacks⟩ := round_heard coordAddr nodeAddr net (stamp t)
  obtain ⟨hnext', hconfig'⟩ := round_fields coordAddr nodeAddr net (stamp t)
  have hreacq := hloop.node.reacquiring.mpr hscan
  have hconfig : net'.node.config = config := hconfig'.trans hloop.config
  have hnow : net'.node.nextProbeMs.toNat = t := by
    rw [hnext', hnext]
    exact stamp_toNat_of_lt ht
  rw [h.channel] at hacks
  rcases hearAll_scanning net'.coordinator hch hacks hloop.node.flag hscan hreacq hloop.mac with
    hsame | hanswered
  · have hseeking : Seeking nodeAddr ch net.node.provider.pairing 0 net' := by
      refine ⟨?_, ?_, ?_, ?_, hheard.known h.known, hheard.channel.trans h.channel⟩ <;>
        rw [hnode, hsame]
      · exact hloop.node.flag
      · exact hscan
      · exact hdone
      · refine ⟨hreacq, hloop.paired, ?_, by rw [hindex]; rfl⟩
        rw [EspNowSessionProvider.transport, hpairing]
    refine ⟨.scanning (.seeking _ 0 hseeking h.mac h.scan (Nat.zero_le i)) hconfig hnow.ge, ?_⟩
    rw [recoveryBound_seeking hseeking (by decide), hnow, hconfig]
    exact Nat.le_refl _
  · have hanswered' : Answered coordAddr ch net' := by rwa [← hnode] at hanswered
    refine ⟨.scanning (.answered hanswered') hconfig hnow.ge, ?_⟩
    rw [recoveryBound_answered hanswered', hnow]
    omega

theorem Apart.round [ChannelFrame σ] [ChannelFrame τ] [TunesValidChannels τ] {sent : Nat}
    (h : Apart config coordAddr nodeAddr s ch net) (hsilent : Silent config sent net.node last)
    (hpolicy : config.policy = .DYNAMIC) (hch : UsableChannel ch)
    (ht : t + config.staticProbeIntervalMs.toNat < 2 ^ 32) (hle : last ≤ t)
    (hgap : t ≤ last + gap) :
    let net' := net.round coordAddr nodeAddr (stamp t)
    Recovers config coordAddr nodeAddr s ch i net' t ∧
      recoveryBound gap i net' ≤ recoveryBound gap i net := by
  intro net'
  obtain ⟨hunpaired, hdynamic⟩ := hsilent.waiting
  rw [recoveryBound_silent hdynamic, h.config]
  rcases (silent_approaches hpolicy gap sent).step net.node last t hsilent ht hle hgap with
    hbegun | ⟨hstill, hbound⟩
  · have hscans : Recovers config coordAddr nodeAddr s ch i net' t ∧
        recoveryBound gap i net' ≤ t + gap + config.scanPassesMs gap (i + 1) :=
      h.round_scans hunpaired hdynamic hch (by omega) hbegun.state
    have hroom : last + gap ≤ scanBound gap net.node := hsilent.room
    exact ⟨hscans.1, by omega⟩
  · have hloop := h.loop hunpaired (stamp t)
    obtain ⟨hheard, frames, hnode, _⟩ := round_heard coordAddr nodeAddr net (stamp t)
    have hidle : (net.node.loop (stamp t)).provider.reacquiring = false :=
      Bool.eq_false_iff.mpr (hloop.node.not_reacquiring hstill.waiting.2)
    have hsame : net'.node = net.node.loop (stamp t) := hnode.trans (hearAll_idle hidle frames)
    have hapart : Apart config coordAddr nodeAddr s ch net' := by
      refine ⟨?_, ?_, ?_, ?_, ?_, hheard.known h.known, hheard.channel.trans h.channel⟩ <;>
        rw [hsame]
      · exact hloop.node
      · exact hloop.config
      · exact hloop.paired
      · exact hloop.mac
      · exact hloop.scan
    rw [← hsame] at hstill hbound
    refine ⟨.silent sent hapart hstill, ?_⟩
    rw [recoveryBound_silent hstill.waiting.2, hapart.config]
    omega

/-- A pass of the scan is not due, probes the next channel, or looks at the ack. -/
theorem Searches.round [ChannelFrame σ] [ChannelFrame τ] [TunesValidChannels τ]
    (h : Searches coordAddr nodeAddr s ch i net) (hwaits : last ≤ net.node.nextProbeMs.toNat)
    (hs : s.Valid) (hi : i < s.roundLength) (hplace : s.channelAt i = ch)
    (ht : t + net.node.config.dynamicProbeIntervalMs.toNat < 2 ^ 32) (hgap : t ≤ last + gap) :
    let net' := net.round coordAddr nodeAddr (stamp t)
    Back coordAddr ch net' ∨ (Searches coordAddr nodeAddr s ch i net' ∧
      net'.node.config = net.node.config ∧ t ≤ net'.node.nextProbeMs.toNat ∧
      recoveryBound gap i net' ≤ recoveryBound gap i net) := by
  intro net'
  have hflag : net.node.FlagAgrees := by
    cases h with
    | seeking _ _ seeking => exact seeking.flag
    | answered answered => exact answered.flag
  have hnow : (stamp t).toNat = t := stamp_toNat_of_lt (by omega)
  by_cases hearly : stamp t < net.node.nextProbeMs
  · have hidle : ¬ net.Due (.round (stamp t)) := not_not_intro hearly
    have hnode : net'.node = net.node := (idle_step hflag h.state hidle).1
    have hsearches : Searches coordAddr nodeAddr s ch i net' := by
      cases h with
      | seeking p k seeking mac scan place =>
        exact .seeking p k (seeking.idle hidle trivial) mac scan place
      | answered answered => exact .answered (answered.idle hidle)
    rw [UInt32.lt_iff_toNat_lt, hnow] at hearly
    refine Or.inr ⟨hsearches, by rw [hnode], by rw [hnode]; exact hearly.le, ?_⟩
    rw [recoveryBound, recoveryBound, hnode]
  · obtain ⟨hnext', hconfig'⟩ := round_fields coordAddr nodeAddr net (stamp t)
    rw [config_loop hflag] at hconfig'
    rw [loop_nextPass hflag h.state hearly] at hnext'
    have hnext : net'.node.nextProbeMs.toNat =
        t + net.node.config.dynamicProbeIntervalMs.toNat := by
      rw [hnext']
      exact stamp_add_toNat ht
    have hwaits' : t ≤ net'.node.nextProbeMs.toNat := by omega
    cases h with
    | answered answered => exact Or.inl (answered.round_due hearly)
    | seeking p k seeking mac scan place =>
      have hlong : s.roundLength < 256 := s.roundLength_lt
      have hch : UsableChannel ch := hplace ▸ ScanChannels.channelAt_usable hs hi
      -- what is left of the scan is this pass and those after it
      have hleft : net.node.config.scanPassesMs gap (i + 1 - k) =
          net.node.config.scanPassesMs gap (i - k) +
            net.node.config.dynamicProbeIntervalMs.toNat + gap := by
        rw [Nat.succ_sub place, scanPassesMs_succ]
      rw [recoveryBound_seeking seeking (by omega)]
      rcases seeking.round_due mac (scan ▸ hs) hch hearly with ⟨_, hfound⟩ | ⟨hmiss, hon⟩
      · refine Or.inr ⟨.answered hfound, hconfig', hwaits', ?_⟩
        rw [recoveryBound_answered hfound, hnext]
        omega
      · have hne : k ≠ i := by
          rintro rfl
          refine hmiss ?_
          rw [scan, slot, Nat.mod_eq_of_lt (hi.trans hlong), Nat.mod_eq_of_lt hi]
          exact hplace
        refine Or.inr ⟨.seeking p (k + 1) hon mac scan (by omega), hconfig', hwaits', ?_⟩
        rw [recoveryBound_seeking hon (by omega), hnext, hconfig', Nat.succ_sub_succ]
        omega

/-- The coordinator keeps the node between two passes, and the clock does not wrap. -/
def PassOk (config : ConnectionConfig) (coordAddr nodeAddr : MacAddress) (net : ReacqNet σ τ)
    (a : NetPass) : Prop :=
  EachStep (apply coordAddr nodeAddr) (Keeps nodeAddr) net (a.ops.map .coordinator) ∧
    a.time + config.staticProbeIntervalMs.toNat < 2 ^ 32 ∧
    a.time + config.dynamicProbeIntervalMs.toNat < 2 ^ 32

theorem passOk_of_idle {passes : List NetPass} (h : ∀ a ∈ passes, a.ops = [] ∧
    a.time + config.staticProbeIntervalMs.toNat < 2 ^ 32 ∧
    a.time + config.dynamicProbeIntervalMs.toNat < 2 ^ 32) (net : ReacqNet σ τ) :
    EachStep (pass coordAddr nodeAddr) (PassOk config coordAddr nodeAddr) net passes := by
  refine (eachStep_of_forall h net).imp ?_
  rintro net a ⟨hops, hstatic, hdynamic⟩
  exact ⟨by rw [hops]; trivial, hstatic, hdynamic⟩

/-- What comes before a pass does not wrap either. -/
theorem lt_of_late {passes : List NetPass} {time deadline : Nat}
    (hok : EachStep (pass coordAddr nodeAddr) (PassOk config coordAddr nodeAddr) net passes)
    (hle : time ≤ deadline) (hlate : ∃ a ∈ passes, deadline < a.time) : time < 2 ^ 32 := by
  obtain ⟨a, ha, hlt⟩ := hlate
  obtain ⟨before, after, heq⟩ := List.append_of_mem ha
  obtain ⟨_, htime, _⟩ := eachStep_iff.mp hok before a after heq
  omega

theorem recovery_approaches [ChannelFrame σ] [ChannelFrame τ] [TunesValidChannels τ]
    (hpolicy : config.policy = .DYNAMIC) (hs : s.Valid) (hi : i < s.roundLength)
    (hplace : s.channelAt i = ch) :
    Approaches (pass (σ := σ) (τ := τ) coordAddr nodeAddr) NetPass.time gap
      (PassOk config coordAddr nodeAddr) (Recovers config coordAddr nodeAddr s ch i)
      (Back coordAddr ch) (recoveryBound gap i) where
  room _ _ h := h.room
  step net last a h hok hle hgap := by
    obtain ⟨hkeeps, hstatic, hdynamic⟩ := hok
    obtain ⟨hops, hnode⟩ := h.ops hkeeps
    have hbound : recoveryBound gap i (run (apply coordAddr nodeAddr) net
        (a.ops.map .coordinator)) = recoveryBound gap i net := by
      rw [recoveryBound, recoveryBound, hnode]
    have hch : UsableChannel ch := hplace ▸ ScanChannels.channelAt_usable hs hi
    rw [pass, NetPass.events, run_append, ← hbound]
    cases hops with
    | silent sent apart silent =>
      exact Or.inr (apart.round silent hpolicy hch hstatic hle hgap)
    | scanning searches config waits =>
      rcases searches.round waits hs hi hplace (by rwa [config]) hgap with
        hback | ⟨hnext, hconfig, hwaits, hless⟩
      · exact Or.inl hback
      · exact Or.inr ⟨.scanning hnext (hconfig.trans config) hwaits, hless⟩

/-- However the coordinator moves: if it is silent from `heard` on, which is not 0, keeps the
node in its table and its radio on channel `ch`, which is at place `i` of the node's scan, and
the node's loop comes around every `gap` milliseconds, then the node is connected again by the
deadline, with a pairing that names `ch`. -/
theorem recovers_by_deadline [ChannelFrame σ] [ChannelFrame τ] [TunesValidChannels τ]
    (hpolicy : config.policy = .DYNAMIC) (hs : s.Valid) (hi : i < s.roundLength)
    (hplace : s.channelAt i = ch) (h : Apart config coordAddr nodeAddr s ch net)
    (hstate : net.node.state = .PAIRED_CONNECTED) {heard : Nat} (hpos : 0 < heard)
    (hheard : net.node.lastHeardMs = stamp heard) (passes : List NetPass)
    (hsampled : Sampled gap heard (passes.map NetPass.time))
    (hok : EachStep (pass coordAddr nodeAddr) (PassOk config coordAddr nodeAddr) net passes)
    (hlate : ∃ a ∈ passes, config.recoveryDeadline gap heard i < a.time) :
    ∃ pre a post, passes = pre ++ a :: post ∧ a.time ≤ config.recoveryDeadline gap heard i ∧
      Back coordAddr ch (run (pass coordAddr nodeAddr) net (pre ++ [a])) := by
  have hnow : net.node.lastHeardMs.toNat = heard := by
    rw [hheard]
    refine stamp_toNat_of_lt (lt_of_late hok ?_ hlate)
    unfold ConnectionConfig.recoveryDeadline ConnectionConfig.scanDeadline
    omega
  have hbound : recoveryBound gap i net = config.recoveryDeadline gap heard i := by
    rw [recoveryBound_silent (by simp [hstate]), scanBound, hstate, h.config, hnow]
    rfl
  have hstart : Recovers config coordAddr nodeAddr s ch i net heard :=
    .silent (probesSent net.node) h
      (.connected ⟨h.node.flag, h.config⟩ hstate (by omega) (by omega) (by omega) rfl)
  rw [← hbound] at hlate ⊢
  exact (recovery_approaches hpolicy hs hi hplace).reached hstart hsampled hok hlate

end ReacqNet
end Net

section Example

/-- The node was heard by a coordinator on channel 6, which is on channel 11 from then on. -/
def silentNet : ReacqNet (EspNowTransport SimRadio) (EspNowTransport SimRadio) :=
  { coordinator := ((PairingCoordinator.new (simTransport coordMac 11)
      Preferences.empty).storePairedClient clientMac 7).2,
    node := run NodeEvent.apply (Node.start pairedClient none briefConfig 0)
      [.call .onHeartbeatReceived 100] }

def laterPasses : List NetPass :=
  [2100, 3100, 4100, 5100, 6100, 7100, 8100, 9100, 10100, 11100, 12100].map (NetPass.mk [])

/-- The coordinator opens its pairing and loads its clients anew in the meantime. -/
def silentPasses : List NetPass := ⟨[.enablePairing, .loadPairedClients], 1100⟩ :: laterPasses

theorem silentNet_recovers : ∃ pre a post, silentPasses = pre ++ a :: post ∧
    a.time ≤ briefConfig.recoveryDeadline 1000 100 2 ∧
    ReacqNet.Back coordMac 11 (run (ReacqNet.pass coordMac clientMac) silentNet (pre ++ [a])) := by
  have hnode : NodeInv silentNet.node :=
    run_nodeInv (start_nodeInv pairedClient none briefConfig 0) _
  have hapart : ReacqNet.Apart briefConfig coordMac clientMac pairedClient.scanChannels 11
      silentNet := ⟨hnode, rfl, by decide, by decide, rfl, by decide, by decide⟩
  have hlater : ∀ a ∈ laterPasses, a.ops = [] ∧
      a.time + briefConfig.staticProbeIntervalMs.toNat < 2 ^ 32 ∧
      a.time + briefConfig.dynamicProbeIntervalMs.toNat < 2 ^ 32 := by decide
  have hok : EachStep (ReacqNet.pass coordMac clientMac)
      (ReacqNet.PassOk briefConfig coordMac clientMac) silentNet silentPasses := by
    have hkeeps : EachStep (ReacqNet.apply coordMac clientMac) (ReacqNet.Keeps clientMac)
        silentNet [.coordinator .enablePairing, .coordinator .loadPairedClients] :=
      ⟨rfl, rfl, trivial⟩
    exact ⟨⟨hkeeps, by decide, by decide⟩, ReacqNet.passOk_of_idle hlater _⟩
  exact ReacqNet.recovers_by_deadline rfl (by decide) (by decide) (by decide) hapart (by decide)
    (by decide) (by decide) silentPasses (by decide) hok (by decide)

end Example
end UngulaNet.Connection
