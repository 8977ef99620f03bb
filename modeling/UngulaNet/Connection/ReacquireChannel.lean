import UngulaNet.Connection.NodeConsistency
import UngulaNet.Connection.ScanFairness

/-!
# The channel after a reacquisition

An accepted ack tunes the radio to the coordinator's channel. The next `loop` that is
due still sends one more scan probe, on the next channel of the scan, before it looks at
the ack; so the reacquisition ends on the scan's channel. The two agree exactly when
that last scan channel happens to be the coordinator's.
-/

namespace UngulaNet.Connection
open Comm Pairing Runs
set_option autoImplicit false

section Scan
variable {σ : Type}

theorem scanChannel_usable {s : EspNowSessionProvider σ}
    (h : s.pairing.scanChannels.Valid) : UsableChannel s.scanChannel := by
  rw [scanChannel_eq]
  exact ScanChannels.channelAt_usable h (scanPlace_lt s)

variable [ITransport σ]

theorem loopReacquisition_getChannel [ChannelFrame σ] [TunesValidChannels σ]
    {s : EspNowSessionProvider σ} (hr : s.reacquiring = true) (hp : s.pairing.isPaired = true)
    (hscan : s.pairing.scanChannels.Valid) (nowMs : UInt32) :
    (s.loopReacquisition nowMs).2.transport.getChannel = s.scanChannel := by
  obtain ⟨h1, h13⟩ := scanChannel_usable hscan
  rw [EspNowSessionProvider.loopReacquisition_probes hr hp]
  change (((s.transport.setChannel s.scanChannel).addPeer _ 0).send _ _).getChannel = _
  rw [Transport.getChannel_send, Transport.getChannel_addPeer]
  exact Transport.getChannel_setChannel _ h1 h13

theorem loopReacquisition_pairing (s : EspNowSessionProvider σ) (nowMs : UInt32) :
    (s.loopReacquisition nowMs).2.pairing.pairedChannel = s.pairing.pairedChannel ∧
      (s.loopReacquisition nowMs).2.pairing.prefs = s.pairing.prefs ∧
      (s.loopReacquisition nowMs).2.pairing.scanChannels = s.pairing.scanChannels := by
  obtain ⟨t, i, he⟩ := s.loopReacquisition_eq nowMs
  rw [he]
  exact ⟨rfl, rfl, rfl⟩

theorem sendProbe_scanChannels (s : EspNowSessionProvider σ) :
    s.sendProbe.pairing.scanChannels = s.pairing.scanChannels := by
  obtain ⟨t, he⟩ := s.sendProbe_eq
  rw [he]
  rfl

end Scan

structure OnChannel {σ : Type} [ITransport σ] (s : EspNowSessionProvider σ) (ch : UInt8) :
    Prop where
  radio : s.transport.getChannel = ch
  paired : s.pairing.pairedChannel = ch
  stored : s.pairing.prefs.getUInt8 PREF_KEY_PAIRED_CHANNEL 0 = ch

/-- A node, and the channel of the last ack accepted in the present reacquisition. -/
structure ReacqNode (σ : Type) where
  node : Node σ
  lastAck : Option UInt8 := none

section Run
variable {σ : Type} [ITransport σ]
open ConnectionManager

namespace ReacqNode

def apply (w : ReacqNode σ) (ev : NodeEvent) : ReacqNode σ :=
  { node := ev.apply w.node,
    lastAck :=
      match ev with
      | .call _ _ =>
        if w.node.state = .REACQUIRING_DYNAMIC ∧
            (ev.apply w.node).state = .REACQUIRING_DYNAMIC then w.lastAck else none
      | .ack a => if (w.node.provider.onReconnectAck a).1 then some a.channel else w.lastAck
      | .pairing _ => w.lastAck }

/-- Acks carry a channel of the radio. The application changes the pairing only while no
accepted ack waits for the next `loop`, and its scan lists are valid. -/
def Admissible (w : ReacqNode σ) : NodeEvent → Prop
  | .call _ _ => True
  | .ack a => UsableChannel a.channel
  | .pairing op => w.lastAck = none ∧ ValidLists op

instance (w : ReacqNode σ) : ∀ ev, Decidable (w.Admissible ev)
  | .call _ _ => isTrue trivial
  | .ack a => inferInstanceAs (Decidable (UsableChannel a.channel))
  | .pairing _ => inferInstanceAs (Decidable (_ ∧ _))

/-- A reacquisition in which an ack was accepted ends on the channel of that ack. -/
def ChannelLaw (w : ReacqNode σ) : NodeEvent → Prop
  | .call c nowMs => ∀ ch, w.lastAck = some ch → w.node.getState = .REACQUIRING_DYNAMIC →
      (c.apply w.node nowMs).getState = .PAIRED_CONNECTED →
        OnChannel (c.apply w.node nowMs).provider ch
  | _ => True

/-- The `loop` that is due after an accepted ack would scan the channel of the ack. -/
def ScanMeetsAck (w : ReacqNode σ) : NodeEvent → Prop
  | .call .loop nowMs => ∀ ch, w.lastAck = some ch → ¬ nowMs < w.node.nextProbeMs →
      w.node.provider.hasPairing = true → w.node.provider.scanChannel = ch
  | _ => True

/-- While an accepted ack waits, the node is reacquiring and sits on its channel. -/
structure AckInv (w : ReacqNode σ) : Prop where
  node : NodeInv w.node
  scan : w.node.provider.pairing.scanChannels.Valid
  waiting : ∀ ch, w.lastAck = some ch → w.node.state = .REACQUIRING_DYNAMIC ∧
    w.node.provider.reacquisitionDone = true ∧ OnChannel w.node.provider ch

end ReacqNode
open ReacqNode

theorem call_scanChannels {n : Node σ} (h : n.FlagAgrees) (call : ManagerCall)
    (nowMs : UInt32) : (call.apply n nowMs).provider.pairing.scanChannels =
      n.provider.pairing.scanChannels := by
  by_cases hcall : call = .loop
  · subst hcall
    rw [ManagerCall.apply]
    cases hs : n.state with
    | UNPAIRED_DISCOVERY =>
      have hkeep := n.provider.pairing.loop_scanChannels nowMs
      rcases loop_unpaired h hs nowMs with ⟨_, he⟩ | ⟨_, he⟩ <;> rw [he] <;> exact hkeep
    | PAIRED_CONNECTED =>
      rcases loop_connected h hs nowMs with ⟨_, he⟩ | ⟨_, he⟩ <;> rw [he]
      rfl
    | PAIRED_DEGRADED =>
      rcases loop_degraded h hs nowMs with ⟨_, he⟩ | ⟨_, he⟩ <;> rw [he]
      rfl
    | REACQUIRING_STATIC =>
      have hkeep := sendProbe_scanChannels n.provider
      rcases loop_static h hs nowMs with ⟨_, he⟩ | ⟨_, _, he⟩ | ⟨_, _, he⟩ <;> rw [he]
      · exact hkeep
      · exact hkeep
    | REACQUIRING_DYNAMIC =>
      have hkeep := (loopReacquisition_pairing n.provider nowMs).2.2
      rcases loop_dynamic h hs nowMs with ⟨_, he⟩ | ⟨_, _, he⟩ | ⟨_, _, he⟩ <;> rw [he]
      · exact hkeep
      · exact hkeep
  · rcases apply_cases h hcall nowMs with he | ⟨_, he⟩ | he <;> rw [he] <;> rfl

theorem call_waiting {n : Node σ} (h : n.FlagAgrees) (hs : n.state = .REACQUIRING_DYNAMIC)
    (hdone : n.provider.reacquisitionDone = true) (call : ManagerCall) (nowMs : UInt32) :
    (call.apply n nowMs = n ∧ (call = .loop → nowMs < n.nextProbeMs)) ∨
      (call.apply n nowMs = n.recovered n.session.resetReacquisition nowMs ∧ call ≠ .loop) ∨
      (call = .loop ∧ ¬ nowMs < n.nextProbeMs ∧ n.loop nowMs =
        { n.recovered (n.session.loopReacquisition nowMs).resetReacquisition nowMs with
          nextProbeMs := nowMs + n.config.dynamicProbeIntervalMs }) := by
  by_cases hcall : call = .loop
  · subst hcall
    have hkeep := (EspNowSessionProvider.loopReacquisition_fields n.provider nowMs).2.trans hdone
    rcases loop_dynamic h hs nowMs with ⟨hn, he⟩ | ⟨_, hnot, _⟩ | ⟨hn, _, he⟩
    · exact Or.inl ⟨he, fun _ => hn⟩
    · exact absurd (hkeep.symm.trans hnot) (by decide)
    · exact Or.inr (Or.inr ⟨rfl, hn, he⟩)
  · rcases apply_cases h hcall nowMs with he | ⟨hc, _⟩ | he
    · exact Or.inr (Or.inl ⟨he, hcall⟩)
    · exact absurd (hs.symm.trans hc) (by decide)
    · exact Or.inl ⟨he, fun hloop => absurd hloop hcall⟩

variable [ChannelFrame σ] [TunesValidChannels σ]

theorem onReconnectAck_onChannel {s : EspNowSessionProvider σ} (hr : s.reacquiring = true)
    {ack : ReconnectAck} (hch : UsableChannel ack.channel) :
    (s.onReconnectAck ack).1 = true ∧ (s.onReconnectAck ack).2.reacquisitionDone = true ∧
      OnChannel (s.onReconnectAck ack).2 ack.channel := by
  have hradio := Transport.getChannel_setChannel s.transport hch.1 hch.2
  rw [EspNowSessionProvider.onReconnectAck_accepts hr, s.pairing.setPairedChannel_usable hch]
  refine ⟨rfl, rfl, (Transport.getChannel_addPeer _ _ _).trans hradio, rfl, ?_⟩
  rw [Preferences.getUInt8_putUInt8, if_pos rfl]

omit [ChannelFrame σ] [TunesValidChannels σ] in
theorem onReconnectAck_scanChannels (s : EspNowSessionProvider σ) (ack : ReconnectAck) :
    (s.onReconnectAck ack).2.pairing.scanChannels = s.pairing.scanChannels := by
  cases hr : s.reacquiring with
  | false => rw [EspNowSessionProvider.onReconnectAck_idle hr]
  | true =>
    rw [EspNowSessionProvider.onReconnectAck_accepts hr]
    exact PairingClient.setPairedChannel_scanChannels _ ack.channel

theorem apply_ackInv {w : ReacqNode σ} (h : AckInv w) {ev : NodeEvent}
    (hev : w.Admissible ev) : AckInv (w.apply ev) := by
  refine ⟨apply_nodeInv h.node ev, ?_, ?_⟩
  · cases ev with
    | call c nowMs =>
      rw [ReacqNode.apply, NodeEvent.apply, call_scanChannels h.node.flag]
      exact h.scan
    | ack a =>
      change (w.node.provider.onReconnectAck a).2.pairing.scanChannels.Valid
      rw [onReconnectAck_scanChannels]
      exact h.scan
    | pairing op =>
      exact apply_validList h.scan hev.2
  · intro ch hch
    cases ev with
    | call c nowMs =>
      simp only [ReacqNode.apply, Option.ite_none_right_eq_some] at hch
      obtain ⟨⟨_, hstays⟩, hack⟩ := hch
      obtain ⟨hs, hdone, hon⟩ := h.waiting ch hack
      rw [NodeEvent.apply] at hstays
      rcases call_waiting h.node.flag hs hdone c nowMs with ⟨he, _⟩ | ⟨he, _⟩ | ⟨rfl, _, he⟩
      · rw [ReacqNode.apply, NodeEvent.apply, he]
        exact ⟨hs, hdone, hon⟩
      · simp [he, recovered] at hstays
      · simp [ManagerCall.apply, he, recovered] at hstays
    | ack a =>
      simp only [ReacqNode.apply] at hch
      by_cases hr : w.node.provider.reacquiring = true
      · obtain ⟨htrue, hdone, hon⟩ := onReconnectAck_onChannel hr hev
        rw [htrue] at hch
        obtain rfl : a.channel = ch := Option.some.inj hch
        exact ⟨h.node.reacquiring.mp hr, hdone, hon⟩
      · have hidle := EspNowSessionProvider.onReconnectAck_idle (by simpa using hr) a
        rw [hidle] at hch
        exact absurd (h.node.reacquiring.mpr (h.waiting ch hch).1) hr
    | pairing op =>
      have hnone : w.lastAck = none := hev.1
      simp [ReacqNode.apply, hnone] at hch

/-- The one probe too many, in the state the node is left in. -/
theorem loopReacquisition_onChannel_iff {s : EspNowSessionProvider σ} {ch : UInt8}
    (hr : s.reacquiring = true) (hscan : s.pairing.scanChannels.Valid) (hon : OnChannel s ch)
    (nowMs : UInt32) :
    OnChannel (s.loopReacquisition nowMs).2.resetReacquisition ch ↔
      (s.hasPairing = true → s.scanChannel = ch) := by
  by_cases hp : s.pairing.isPaired = true
  · have hradio := loopReacquisition_getChannel hr hp hscan nowMs
    obtain ⟨hpaired, hprefs, _⟩ := loopReacquisition_pairing s nowMs
    constructor
    · intro h _
      exact hradio.symm.trans h.radio
    · intro h
      refine ⟨hradio.trans (h hp), hpaired.trans hon.paired, ?_⟩
      change (s.loopReacquisition nowMs).2.pairing.prefs.getUInt8 PREF_KEY_PAIRED_CHANNEL 0 = ch
      rw [hprefs]
      exact hon.stored
  · rw [EspNowSessionProvider.loopReacquisition_unpaired (Bool.eq_false_iff.mpr hp)]
    exact iff_of_true ⟨hon.radio, hon.paired, hon.stored⟩ (fun h => absurd h hp)

theorem channel_step {w : ReacqNode σ} (h : AckInv w) (ev : NodeEvent) :
    w.ChannelLaw ev ↔ w.ScanMeetsAck ev := by
  cases ev with
  | ack a => exact Iff.rfl
  | pairing op => exact Iff.rfl
  | call c nowMs =>
    cases hack : w.lastAck with
    | none =>
      refine iff_of_true (fun ch hch => ?_) ?_
      · simp [hack] at hch
      · cases c <;> simp [ScanMeetsAck, hack]
    | some ch =>
      obtain ⟨hs, hdone, hon⟩ := h.waiting ch hack
      have hr := h.node.reacquiring.mpr hs
      rcases call_waiting h.node.flag hs hdone c nowMs with
        ⟨he, hearly⟩ | ⟨he, hcall⟩ | ⟨rfl, hn, he⟩
      · -- the node waits
        refine iff_of_true (fun _ _ _ hc => ?_) ?_
        · rw [he] at hc
          exact absurd (hs.symm.trans hc) (by decide)
        · cases c with
          | loop => exact fun _ _ hlate => absurd (hearly rfl) hlate
          | _ => exact trivial
      · -- the coordinator was reported found: nothing moved since the ack
        refine iff_of_true (fun ch' hch _ _ => ?_) ?_
        · obtain rfl : ch = ch' := Option.some.inj (hack.symm.trans hch)
          rw [he]
          exact ⟨hon.radio, hon.paired, hon.stored⟩
        · cases c with
          | loop => exact absurd rfl hcall
          | _ => exact trivial
      · have hprobe := loopReacquisition_onChannel_iff hr h.scan hon nowMs
        constructor
        · intro hlaw ch' hch _ hp
          obtain rfl : ch = ch' := Option.some.inj (hack.symm.trans hch)
          have hafter := hlaw ch hack hs (by rw [ManagerCall.apply, he]; rfl)
          rw [ManagerCall.apply, he] at hafter
          exact hprobe.mp hafter hp
        · intro hmeets ch' hch _ _
          obtain rfl : ch = ch' := Option.some.inj (hack.symm.trans hch)
          rw [ManagerCall.apply, he]
          exact hprobe.mpr fun hp => hmeets ch hack hn hp

omit [ChannelFrame σ] [TunesValidChannels σ] in
theorem start_ackInv {pairing : PairingClient σ} (hscan : pairing.scanChannels.Valid)
    (probeCb : Option (MacAddress → Transport σ → Transport σ)) (config : ConnectionConfig)
    (nowMs : UInt32) : AckInv { node := Node.start pairing probeCb config nowMs } := by
  refine ⟨start_nodeInv pairing probeCb config nowMs, ?_, by simp⟩
  unfold Node.start
  rcases begin_cases (ConnectionManager.new
    { provider := EspNowSessionProvider.new pairing probeCb } config) nowMs with ⟨_, he⟩ | ⟨_, he⟩
  · rw [he]
    exact hscan
  · rw [he]
    exact hscan

/-- Along every run, each reacquisition in which an ack was accepted ends on the ack's
channel if and only if every due `loop` that finds an ack waiting would scan just that
channel. -/
theorem reacquired_channel_iff {pairing : PairingClient σ}
    (hscan : pairing.scanChannels.Valid)
    (probeCb : Option (MacAddress → Transport σ → Transport σ)) (config : ConnectionConfig)
    (nowMs : UInt32) (evs : List NodeEvent)
    (hevs : EachStep ReacqNode.apply Admissible
      { node := Node.start pairing probeCb config nowMs } evs) :
    EachStep ReacqNode.apply ChannelLaw { node := Node.start pairing probeCb config nowMs } evs ↔
      EachStep ReacqNode.apply ScanMeetsAck
        { node := Node.start pairing probeCb config nowMs } evs :=
  eachStep_congr AckInv (start_ackInv hscan probeCb config nowMs) hevs
    (fun _ _ h hev => apply_ackInv h hev) (fun _ ev h _ => channel_step h ev)

end Run

section Example

/-- The paired client of the examples, with a single static probe before the scan. -/
def scanningNode : ReacqNode (EspNowTransport SimRadio) :=
  { node := Node.start pairedClient none { staticMaxProbes := 1 } 0 }

/-- Into REACQUIRING_DYNAMIC, with one probe sent on channel 1. -/
def firstScanProbe : List NodeEvent := [.call .loop 500, .call .loop 510, .call .loop 520]

theorem reacquired_channel_reported :
    EachStep ReacqNode.apply ReacqNode.ChannelLaw scanningNode
      (firstScanProbe ++ [.ack (.init 1), .call .onReacquisitionSuccess 530]) := by
  refine (reacquired_channel_iff (by decide) none { staticMaxProbes := 1 } 0 _ ?_).mpr ?_
  · decide
  · refine ⟨?_, ?_, ?_, trivial, trivial, trivial⟩ <;> intro ch hch
    · exact absurd hch.symm (Option.some_ne_none ch)
    · exact absurd hch.symm (Option.some_ne_none ch)
    · exact absurd hch.symm (Option.some_ne_none ch)

/-- The coordinator acks on channel 1; the next `loop` moves the radio to channel 6 and
reports the node connected. -/
theorem reacquired_on_wrong_channel :
    EachStep ReacqNode.apply ReacqNode.Admissible scanningNode
        (firstScanProbe ++ [.ack (.init 1), .call .loop 1020]) ∧
      ¬ EachStep ReacqNode.apply ReacqNode.ChannelLaw scanningNode
        (firstScanProbe ++ [.ack (.init 1), .call .loop 1020]) := by
  refine ⟨by decide, ?_⟩
  intro h
  have hon := h.2.2.2.2.1 1 (by decide) (by decide) (by decide)
  exact absurd hon.radio (by decide)

end Example
end UngulaNet.Connection
