import UngulaNet.Foundation.Runs
import UngulaNet.Foundation.SampledTimer
import UngulaNet.Foundation.WrapClock
import UngulaNet.Pairing.ClientTable
import UngulaNet.Pairing.ClientSteps

/-!
# Where the scan meets the beacons

The beacons of a coordinator that is looped often enough are a sampled timer. A client
stays on a channel for a full dwell before its scan moves on. The dwell is longer than two
beacons can be apart, so a scan that passes the coordinator's channel hears a beacon. The
two clocks need not agree.
-/

namespace UngulaNet.Pairing
open Comm Runs Slots Timers WrapClock
set_option autoImplicit false

structure TimedOp (α : Type) where
  op : α
  time : Nat

section Beacons
variable {σ : Type}

/-- A coordinator whose clock is `offset` ahead of true time, with its loop calls and the
beacons they broadcast. -/
structure WatchedCoordinator (σ : Type) where
  coordinator : PairingCoordinator σ
  offset : Nat
  beacons : SampledTimer := {}

/-- The loop is called in order, at most 100 ms apart, with the reading of the clock, and
pairing is left enabled. -/
def OnSchedule (w : WatchedCoordinator σ) (ev : TimedOp CoordinatorOp) : Prop :=
  match ev.op with
  | .loop nowMs => nowMs = stamp (ev.time + w.offset) ∧ w.beacons.InTime 100 ev.time
  | .enablePairing | .disablePairing => False
  | _ => True

instance (w : WatchedCoordinator σ) : ∀ ev, Decidable (OnSchedule w ev)
  | ⟨.loop _, _⟩ => inferInstanceAs (Decidable (_ ∧ _))
  | ⟨.enablePairing, _⟩ | ⟨.disablePairing, _⟩ => isFalse (fun h => h)
  | ⟨.loadPairedClients, _⟩ | ⟨.handleReceived _ _, _⟩ | ⟨.onClientPaired, _⟩
  | ⟨.unpairAll, _⟩ => isTrue trivial

structure SameBeacon (c c' : PairingCoordinator σ) : Prop where
  pairingEnabled : c'.pairingEnabled = c.pairingEnabled
  lastBeaconMs : c'.lastBeaconMs = c.lastBeaconMs

theorem SameBeacon.refl (c : PairingCoordinator σ) : SameBeacon c c := ⟨rfl, rfl⟩

theorem SameBeacon.trans {c c' c'' : PairingCoordinator σ} (h : SameBeacon c c')
    (h' : SameBeacon c' c'') : SameBeacon c c'' :=
  ⟨h'.pairingEnabled.trans h.pairingEnabled, h'.lastBeaconMs.trans h.lastBeaconMs⟩

/-- The beacons so far are a sampled timer, and `lastBeaconMs` is the reading of the clock
at the last of them. -/
structure BeaconInv (w : WatchedCoordinator σ) : Prop where
  enabled : w.coordinator.pairingEnabled = true
  stamped : ∀ last, w.beacons.fired.getLast? = some last →
    w.coordinator.lastBeaconMs = stamp (last + w.offset)
  paced : Paced 100 100 w.beacons

theorem enablePairing_beaconInv (c : PairingCoordinator σ) (offset : Nat) :
    BeaconInv { coordinator := c.enablePairing, offset := offset } := by
  refine ⟨rfl, ?_, paced_new 100 100⟩
  intro last hlast
  simp at hlast

theorem BeaconInv.of_sameBeacon {w : WatchedCoordinator σ} (h : BeaconInv w)
    {c : PairingCoordinator σ} (hsame : SameBeacon w.coordinator c) :
    BeaconInv { w with coordinator := c } :=
  ⟨hsame.pairingEnabled.trans h.enabled,
    fun last hlast => hsame.lastBeaconMs.trans (h.stamped last hlast), h.paced⟩

/-- The comparison of the code, in true time. -/
theorem BeaconInv.due_iff {w : WatchedCoordinator σ} (h : BeaconInv w) {last time : Nat}
    (hlast : w.beacons.fired.getLast? = some last) (ht : w.beacons.InTime 100 time) :
    BEACON_INTERVAL_MS ≤ stamp (time + w.offset) - w.coordinator.lastBeaconMs ↔
      last + 100 ≤ time := by
  obtain ⟨hle, hlt⟩ := h.paced.elapsed ht hlast
  have helapsed : (stamp (time + w.offset) - stamp (last + w.offset)).toNat = time - last := by
    rw [stamp_sub_toNat_of_lt (by omega) (by omega)]
    omega
  rw [h.stamped last hlast, UInt32.le_iff_toNat_le, helapsed]
  change 100 ≤ time - last ↔ _
  omega

variable [ITransport σ]

def BeaconSent (t t' : Transport σ) : Prop :=
  .send .broadcast (PairingBeacon.init t.getChannel).toBytes ∈ Transport.newCalls t t'

instance (t t' : Transport σ) : Decidable (BeaconSent t t') :=
  inferInstanceAs (Decidable (_ ∈ _))

theorem not_beaconSent_self (t : Transport σ) : ¬ BeaconSent t t := by
  simp [BeaconSent, Transport.newCalls]

def WatchedCoordinator.apply (w : WatchedCoordinator σ) (ev : TimedOp CoordinatorOp) :
    WatchedCoordinator σ :=
  let c := ev.op.apply w.coordinator
  match ev.op with
  | .loop _ => { w with
      coordinator := c,
      beacons := {
        fired := if BeaconSent w.coordinator.transport c.transport then
          w.beacons.fired ++ [ev.time] else w.beacons.fired,
        sampled := some ev.time } }
  | _ => { w with coordinator := c }

namespace PairingCoordinator

theorem loadPairedClients_sameBeacon (c : PairingCoordinator σ) :
    SameBeacon c c.loadPairedClients := by
  refine sweep_invariant (SameBeacon c) ?_ (.refl c)
  intro i c' h
  refine h.trans ?_
  unfold loadSlot
  dsimp only
  split <;> exact ⟨rfl, rfl⟩

theorem unpairAll_sameBeacon (c : PairingCoordinator σ) : SameBeacon c c.unpairAll := by
  refine sweep_invariant (SameBeacon c) ?_ (.refl c)
  intro i c' h
  exact h.trans ⟨rfl, rfl⟩

theorem handlePairingRequest_sameBeacon (c : PairingCoordinator σ) (src : MacAddress)
    (req : PairingRequest) : SameBeacon c (c.handlePairingRequest src req) := by
  have hstored : SameBeacon c (c.storePairedClient src req.deviceId).2 := by
    rcases c.storePairedClient_cases src req.deviceId with
      ⟨i, _, hs⟩ | ⟨i, _, _, hs⟩ | ⟨i, _, _, _, hs⟩ | ⟨_, hs⟩ <;> rw [hs] <;> exact ⟨rfl, rfl⟩
  refine hstored.trans ?_
  unfold handlePairingRequest
  dsimp only
  split <;> exact ⟨rfl, rfl⟩

theorem handleReceived_sameBeacon (c : PairingCoordinator σ) (src : MacAddress)
    (data : List UInt8) : SameBeacon c (c.handleReceived src data).2 := by
  rcases c.handleReceived_cases src data with ⟨_, h⟩ | ⟨_, h⟩ | ⟨_, h⟩
  · rw [h]
    exact c.handlePairingRequest_sameBeacon src (.ofBytes data)
  · rw [h]
    unfold handleReconnectProbe
    split <;> exact ⟨rfl, rfl⟩
  · rw [h]
    exact .refl c

theorem loop_enabled {c : PairingCoordinator σ} (h : c.pairingEnabled = true)
    (nowMs : UInt32) :
    (BEACON_INTERVAL_MS ≤ nowMs - c.lastBeaconMs ∧
        BeaconSent c.transport (c.loop nowMs).transport ∧
        (c.loop nowMs).pairingEnabled = true ∧ (c.loop nowMs).lastBeaconMs = nowMs) ∨
      (¬ BEACON_INTERVAL_MS ≤ nowMs - c.lastBeaconMs ∧ c.loop nowMs = c) := by
  have hnot : ¬ (!c.pairingEnabled) = true := by simp [h]
  rw [loop, if_neg hnot]
  by_cases hdue : nowMs - c.lastBeaconMs ≥ BEACON_INTERVAL_MS
  · rw [if_pos hdue]
    refine Or.inl ⟨hdue, ?_, h, rfl⟩
    simp [BeaconSent, Transport.newCalls, broadcastBeacon]
  · rw [if_neg hdue]
    exact Or.inr ⟨hdue, rfl⟩

end PairingCoordinator

theorem loop_sample {w : WatchedCoordinator σ} (h : BeaconInv w) {nowMs : UInt32} {time : Nat}
    (hsched : OnSchedule w ⟨.loop nowMs, time⟩) :
    Sample 100 w.beacons time (w.apply ⟨.loop nowMs, time⟩).beacons := by
  obtain ⟨hread, ht⟩ : nowMs = stamp (time + w.offset) ∧ w.beacons.InTime 100 time := hsched
  subst hread
  rcases PairingCoordinator.loop_enabled h.enabled (stamp (time + w.offset)) with
    ⟨hdue, hsent, _⟩ | ⟨hearly, hsame⟩
  · simp only [WatchedCoordinator.apply, CoordinatorOp.apply, hsent, if_true]
    exact .fires fun last hlast => (h.due_iff hlast ht).mp hdue
  · simp only [WatchedCoordinator.apply, CoordinatorOp.apply, hsame,
      if_neg (not_beaconSent_self _)]
    refine .waits ?_
    intro last hlast
    rw [h.due_iff hlast ht] at hearly
    omega

theorem apply_beaconInv {w : WatchedCoordinator σ} (h : BeaconInv w) {ev : TimedOp CoordinatorOp}
    (hsched : OnSchedule w ev) : BeaconInv (w.apply ev) := by
  obtain ⟨op, time⟩ := ev
  cases op with
  | loop nowMs =>
    have hpaced := (loop_sample h hsched).paced (by decide) h.paced hsched.2
    obtain ⟨hread, ht⟩ : nowMs = stamp (time + w.offset) ∧ w.beacons.InTime 100 time := hsched
    rcases PairingCoordinator.loop_enabled h.enabled nowMs with
      ⟨_, hsent, henabled, hstamp⟩ | ⟨_, hsame⟩
    · refine ⟨henabled, ?_, hpaced⟩
      simp only [WatchedCoordinator.apply, CoordinatorOp.apply, hsent, if_true]
      intro last hlast
      obtain rfl : time = last := by simpa using hlast
      rw [hstamp, hread]
    · refine ⟨?_, ?_, hpaced⟩
      · simp only [WatchedCoordinator.apply, CoordinatorOp.apply, hsame]
        exact h.enabled
      · simp only [WatchedCoordinator.apply, CoordinatorOp.apply, hsame,
          if_neg (not_beaconSent_self _)]
        exact h.stamped
  | enablePairing => exact absurd hsched id
  | disablePairing => exact absurd hsched id
  | loadPairedClients => exact h.of_sameBeacon w.coordinator.loadPairedClients_sameBeacon
  | handleReceived src data =>
    exact h.of_sameBeacon (w.coordinator.handleReceived_sameBeacon src data)
  | onClientPaired => exact h.of_sameBeacon ⟨rfl, rfl⟩
  | unpairAll => exact h.of_sameBeacon w.coordinator.unpairAll_sameBeacon

end Beacons

section Dwells
variable {σ : Type}

/-- The time a scan spends on one channel, from one retune to the next. -/
structure Dwell where
  start : Nat
  stop : Nat
  deriving DecidableEq

/-- A client whose clock is `offset` ahead of true time, with the last time its radio was
retuned and the dwells that the scan has ended by moving on. -/
structure WatchedScan (σ : Type) where
  client : PairingClient σ
  offset : Nat
  now : Nat := 0
  tuned : Nat := 0
  dwells : List Dwell := []

/-- Calls come in the order of true time, and `loop` gets the reading of the clock. -/
def ReadsClock (w : WatchedScan σ) (ev : TimedOp ClientOp) : Prop :=
  w.now ≤ ev.time ∧ match ev.op with
    | .loop nowMs => nowMs = stamp (ev.time + w.offset)
    | _ => True

instance (w : WatchedScan σ) : ∀ ev, Decidable (ReadsClock w ev)
  | ⟨.loop _, _⟩ => inferInstanceAs (Decidable (_ ∧ _ = _))
  | ⟨.loadStoredPairing, _⟩ | ⟨.setScanChannels _, _⟩ | ⟨.startScanning, _⟩ | ⟨.stopScanning, _⟩
  | ⟨.handleReceived _ _ _, _⟩ | ⟨.onPaired, _⟩ | ⟨.setPairedChannel _, _⟩ | ⟨.clearPairing, _⟩ =>
    inferInstanceAs (Decidable (_ ∧ True))

def isRetune : TransportCall → Bool
  | .setChannel _ => true
  | _ => false

def retuned (t t' : Transport σ) : Bool := (Transport.newCalls t t').any isRetune

theorem retuned_self (t : Transport σ) : retuned t t = false := by
  simp [retuned, Transport.newCalls]

/-- A client that scans has stamped the present dwell with a reading since its retune, or
not yet. -/
structure DwellInv (w : WatchedScan σ) : Prop where
  tuned_le : w.tuned ≤ w.now
  stamped : w.client.state = .SCANNING → w.client.channelStartMs ≠ 0 →
    ∃ s, w.tuned ≤ s ∧ s ≤ w.now ∧ w.client.channelStartMs = stamp (s + w.offset)
  full : ∀ dwell ∈ w.dwells, dwell.start + 200 ≤ dwell.stop

theorem new_dwellInv (transport : Transport σ) (prefs : Preferences) (deviceId : UInt8)
    (offset : Nat) :
    DwellInv { client := PairingClient.new transport prefs deviceId, offset := offset } := by
  refine ⟨Nat.le_refl 0, ?_, ?_⟩
  · intro hs
    simp [PairingClient.new] at hs
  · intro dwell hdwell
    simp at hdwell

/-- The comparison of the code, in true time. -/
theorem dwell_over {s time offset : Nat} (hle : s ≤ time)
    (h : CHANNEL_SCAN_DWELL_MS ≤ stamp (time + offset) - stamp (s + offset)) :
    s + 200 ≤ time := by
  have hsub := stamp_sub_toNat (Nat.add_le_add_right hle offset)
  have hmod := Nat.mod_le (time + offset - (s + offset)) (2 ^ 32)
  rw [UInt32.le_iff_toNat_le, hsub] at h
  change 200 ≤ _ at h
  omega

variable [ITransport σ]

def WatchedScan.apply (w : WatchedScan σ) (ev : TimedOp ClientOp) : WatchedScan σ :=
  let c := ev.op.apply w.client
  let moved := retuned w.client.transport c.transport
  { w with
    client := c, now := ev.time,
    tuned := if moved then ev.time else w.tuned,
    dwells := match ev.op with
      | .loop _ => if w.client.isScanning && moved then
          w.dwells ++ [⟨w.tuned, ev.time⟩] else w.dwells
      | _ => w.dwells }

namespace PairingClient

theorem advanceChannel_fields (c : PairingClient σ) (nowMs : UInt32) :
    (c.advanceChannel nowMs).channelStartMs = nowMs ∧
      retuned c.transport (c.advanceChannel nowMs).transport = true := by
  refine ⟨rfl, ?_⟩
  unfold advanceChannel
  split <;> simp [retuned, Transport.newCalls, isRetune]

theorem loop_scanning {c : PairingClient σ} (h : c.state = .SCANNING) (nowMs : UInt32) :
    (c.channelStartMs ≠ 0 ∧ CHANNEL_SCAN_DWELL_MS ≤ nowMs - c.channelStartMs ∧
        (c.loop nowMs).channelStartMs = nowMs ∧
        retuned c.transport (c.loop nowMs).transport = true) ∨
      c.loop nowMs = c.beginDwell nowMs := by
  unfold loop
  simp only [h]
  split
  · rename_i hover
    obtain ⟨hstart, hmoved⟩ := (c.beginDwell nowMs).advanceChannel_fields nowMs
    by_cases hzero : c.channelStartMs = 0
    · -- a dwell stamped by this very call is not over
      simp [beginDwell, hzero, CHANNEL_SCAN_DWELL_MS] at hover
    · refine Or.inl ⟨hzero, ?_, hstart, hmoved⟩
      simpa [beginDwell, hzero] using hover
  · exact Or.inr rfl

/-- Any other call leaves the scan alone, ends it, or starts it anew. -/
theorem apply_scanning {c : PairingClient σ} {op : ClientOp} (hop : ∀ nowMs, op ≠ .loop nowMs)
    (h : (op.apply c).state = .SCANNING) : (op.apply c).channelStartMs = 0 ∨
      (c.state = .SCANNING ∧ (op.apply c).channelStartMs = c.channelStartMs ∧
        (op.apply c).transport = c.transport) := by
  cases op with
  | loadStoredPairing =>
    cases hr : storedRecord c.prefs with
    | none =>
      rw [ClientOp.apply, (loadStoredPairing_none hr).2] at h ⊢
      exact Or.inr ⟨h, rfl, rfl⟩
    | some r =>
      rw [ClientOp.apply, loadStoredPairing_some hr] at h
      simp at h
  | setScanChannels s => exact Or.inr ⟨h, rfl, rfl⟩
  | startScanning => exact Or.inl rfl
  | stopScanning =>
    rcases c.stopScanning_cases with ⟨_, he⟩ | ⟨_, he⟩
    · simp [ClientOp.apply, he] at h
    · rw [ClientOp.apply, he] at h ⊢
      exact Or.inr ⟨h, rfl, rfl⟩
  | loop nowMs => exact absurd rfl (hop nowMs)
  | handleReceived src data nowMs =>
    rcases c.handleReceived_cases src data nowMs with ⟨he, _⟩ | ⟨_, _, he⟩ | ⟨_, _, he⟩
    · rw [ClientOp.apply, he] at h ⊢
      exact Or.inr ⟨h, rfl, rfl⟩
    · rw [ClientOp.apply, he] at h
      simp [handleBeacon, sendPairingRequest] at h
    · rw [ClientOp.apply, he] at h ⊢
      by_cases ha : (PairingConfirm.ofBytes data).accepted = 0
      · rw [handleConfirm_rejected c src ha]
        exact Or.inl rfl
      · simp [(handleConfirm_accepted c src ha).1] at h
  | onPaired => exact Or.inr ⟨h, rfl, rfl⟩
  | setPairedChannel ch =>
    rcases c.setPairedChannel_cases ch with ⟨_, he⟩ | ⟨_, _, he⟩ <;>
      rw [ClientOp.apply, he] at h ⊢ <;> exact Or.inr ⟨h, rfl, rfl⟩
  | clearPairing => simp [ClientOp.apply, clearPairing] at h

end PairingClient
theorem DwellInv.of_kept {w : WatchedScan σ} (h : DwellInv w) {ev : TimedOp ClientOp}
    (hnow : w.now ≤ ev.time) (hdwells : (w.apply ev).dwells = w.dwells)
    (hstamped : (w.apply ev).client.state = .SCANNING →
      (w.apply ev).client.channelStartMs ≠ 0 → ∃ s, (w.apply ev).tuned ≤ s ∧ s ≤ ev.time ∧
        (w.apply ev).client.channelStartMs = stamp (s + w.offset)) : DwellInv (w.apply ev) := by
  refine ⟨?_, hstamped, ?_⟩
  · have htuned := h.tuned_le
    simp only [WatchedScan.apply]
    split <;> omega
  · rw [hdwells]
    exact h.full

theorem loop_dwellInv {w : WatchedScan σ} (h : DwellInv w) {time : Nat} (hnow : w.now ≤ time) :
    DwellInv (w.apply ⟨.loop (stamp (time + w.offset)), time⟩) := by
  have htuned := h.tuned_le
  by_cases hscan : w.client.state = .SCANNING
  · rcases PairingClient.loop_scanning hscan (stamp (time + w.offset)) with
      ⟨hstamped, hover, hstart, hmoved⟩ | hsame
    · -- the scan moves on
      obtain ⟨s, hts, hsn, hread⟩ := h.stamped hscan hstamped
      rw [hread] at hover
      have hfull := dwell_over (by omega) hover
      refine ⟨?_, ?_, ?_⟩
      · simp [WatchedScan.apply, ClientOp.apply, hmoved]
      · intro _ _
        refine ⟨time, ?_, Nat.le_refl time, hstart⟩
        simp [WatchedScan.apply, ClientOp.apply, hmoved]
      · intro dwell hdwell
        simp only [WatchedScan.apply, ClientOp.apply, hmoved, PairingClient.isScanning, hscan,
          decide_true, Bool.and_self, if_true, List.mem_append, List.mem_singleton] at hdwell
        rcases hdwell with hold | rfl
        · exact h.full dwell hold
        · simp only
          omega
    · -- the dwell goes on, stamped now if it was not
      have hstay : retuned w.client.transport (w.client.loop (stamp (time + w.offset))).transport =
          false := by
        rw [hsame]
        exact retuned_self _
      refine h.of_kept hnow ?_ ?_
      · simp [WatchedScan.apply, ClientOp.apply, hstay]
      · intro _ _
        have hkept : (w.apply ⟨.loop (stamp (time + w.offset)), time⟩).tuned = w.tuned := by
          simp [WatchedScan.apply, ClientOp.apply, hstay]
        rw [hkept]
        simp only [WatchedScan.apply, ClientOp.apply, hsame, PairingClient.beginDwell]
        by_cases hzero : w.client.channelStartMs = 0
        · exact ⟨time, by omega, Nat.le_refl time, if_pos hzero⟩
        · obtain ⟨s, hts, hsn, hread⟩ := h.stamped hscan hzero
          exact ⟨s, hts, by omega, (if_neg hzero).trans hread⟩
  · refine h.of_kept hnow ?_ ?_
    · simp [WatchedScan.apply, PairingClient.isScanning, hscan]
    · intro hs' hne
      simp only [WatchedScan.apply, ClientOp.apply] at hs' hne
      by_cases hresp : w.client.state = .RESPONDING
      · rcases PairingClient.loop_responding hresp (stamp (time + w.offset)) with
          ⟨_, he⟩ | ⟨_, he⟩
        · simp [he, PairingClient.startScanning] at hne
        · rw [he] at hs'
          exact absurd hs' hscan
      · rw [PairingClient.loop_idle hscan hresp] at hs'
        exact absurd hs' hscan

theorem apply_dwellInv {w : WatchedScan σ} (h : DwellInv w) {ev : TimedOp ClientOp}
    (hev : ReadsClock w ev) : DwellInv (w.apply ev) := by
  obtain ⟨op, time⟩ := ev
  obtain ⟨hnow, hreads⟩ := hev
  by_cases hop : ∃ nowMs, op = .loop nowMs
  · obtain ⟨nowMs, rfl⟩ := hop
    simp only at hreads
    subst hreads
    exact loop_dwellInv h hnow
  · have hother : ∀ nowMs, op ≠ .loop nowMs := fun nowMs heq => hop ⟨nowMs, heq⟩
    refine h.of_kept hnow ?_ ?_
    · cases op with
      | loop nowMs => exact absurd rfl (hother nowMs)
      | _ => rfl
    · intro hs hne
      rcases PairingClient.apply_scanning hother hs with hzero | ⟨hscan, hstart, ht⟩
      · exact absurd hzero hne
      · have hstay : retuned w.client.transport (op.apply w.client).transport = false := by
          rw [ht]
          exact retuned_self _
        simp only [WatchedScan.apply, hstart] at hne ⊢
        obtain ⟨s, hts, hsn, hread⟩ := h.stamped hscan hne
        exact ⟨s, by simpa [hstay] using hts, Nat.le_trans hsn hnow, hread⟩

end Dwells

section Rendezvous
variable {σ τ : Type} [ITransport σ] [ITransport τ]

/-- A coordinator is looped at most 100 ms apart from `enablePairing` on, a client by its
own clock from its boot on. Consecutive beacons are 100 to 199 ms apart; every dwell that
the scan ends by moving on lasts 200 ms or more; and such a dwell from the first beacon on,
within the coordinator's schedule, contains a beacon. -/
theorem scan_meets_beacon (c : PairingCoordinator σ) (offset : Nat)
    (calls : List (TimedOp CoordinatorOp))
    (hsched : EachStep WatchedCoordinator.apply OnSchedule
      { coordinator := c.enablePairing, offset := offset } calls)
    (transport : Transport τ) (prefs : Preferences) (deviceId : UInt8) (offset' : Nat)
    (ops : List (TimedOp ClientOp))
    (hclock : EachStep WatchedScan.apply ReadsClock
      { client := .new transport prefs deviceId, offset := offset' } ops) :
    let beacons := (run WatchedCoordinator.apply
      { coordinator := c.enablePairing, offset := offset } calls).beacons
    let dwells := (run WatchedScan.apply
      { client := .new transport prefs deviceId, offset := offset' } ops).dwells
    (beacons.fired.IsChain fun a b => a + 100 ≤ b ∧ b ≤ a + 199) ∧
      (∀ dwell ∈ dwells, dwell.start + 200 ≤ dwell.stop) ∧
      ∀ dwell ∈ dwells, ∀ first last, beacons.fired.head? = some first → first ≤ dwell.start →
        beacons.sampled = some last → dwell.stop ≤ last →
        ∃ b ∈ beacons.fired, dwell.start ≤ b ∧ b ≤ dwell.stop := by
  intro beacons dwells
  have hpaced : Paced 100 100 beacons :=
    (eachState_of_invariant BeaconInv (enablePairing_beaconInv c offset) hsched
      fun _ _ h hev => apply_beaconInv h hev).last.paced
  have hfull : ∀ dwell ∈ dwells, dwell.start + 200 ≤ dwell.stop :=
    (eachState_of_invariant DwellInv (new_dwellInv transport prefs deviceId offset') hclock
      fun _ _ h hev => apply_dwellInv h hev).last.full
  refine ⟨?_, hfull, ?_⟩
  · exact hpaced.spaced.imp fun a b hab => ⟨hab.1, by omega⟩
  · intro dwell hdwell first last hfirst hstart hlast hstop
    have hlong := hfull dwell hdwell
    exact hpaced.exists_fired (by decide) hfirst hstart (by omega) hlast hstop

end Rendezvous

section Example

def pairingCoordinator : PairingCoordinator (EspNowTransport SimRadio) :=
  PairingCoordinator.new (simTransport coordMac 6) Preferences.empty

/-- The coordinator's loop, every 60 ms. -/
def beaconCalls : List (TimedOp CoordinatorOp) :=
  [1000, 1060, 1120, 1180, 1240, 1300, 1360, 1420].map fun t => ⟨.loop (stamp t), t⟩

/-- The client's loop, every 70 ms on a clock 5 s ahead. -/
def scanCalls : List (TimedOp ClientOp) :=
  ⟨.startScanning, 1050⟩ :: [1070, 1140, 1210, 1280].map fun t => ⟨.loop (stamp (t + 5000)), t⟩

/-- The dwell on the client's first channel lasts from 1050 to 1280. -/
theorem scan_meets_beacon_uneven_loops :
    ⟨1050, 1280⟩ ∈ (run WatchedScan.apply
        { client := .new (simTransport clientMac 1) Preferences.empty 7, offset := 5000 }
        scanCalls).dwells ∧
      ∃ b ∈ (run WatchedCoordinator.apply
          { coordinator := pairingCoordinator.enablePairing, offset := 0 }
          beaconCalls).beacons.fired,
        1050 ≤ b ∧ b ≤ 1280 := by
  have hdwell : ⟨1050, 1280⟩ ∈ (run WatchedScan.apply
      { client := .new (simTransport clientMac 1) Preferences.empty 7, offset := 5000 }
      scanCalls).dwells := by decide
  exact ⟨hdwell, (scan_meets_beacon pairingCoordinator 0 beaconCalls (by decide)
    (simTransport clientMac 1) Preferences.empty 7 5000 scanCalls (by decide)).2.2 ⟨1050, 1280⟩
    hdwell 1000 1420 rfl (by decide) rfl (by decide)⟩

end Example
end UngulaNet.Pairing
