import UngulaNet.Foundation.Runs
import UngulaNet.Comm.EspNowTransport
import UngulaNet.Pairing.ClientSteps

/-!
# The channel of a paired client

A client that is paired should be on a channel its radio can use. Loading and
`setPairedChannel` check the channel; the confirm that completes a pairing does not.
So the invariant holds along a run exactly when the run delivers no accepting confirm
with an unusable channel. A second beacon is such a confirm: its first reserved byte
is read as channel 0.
-/

namespace UngulaNet.Pairing
open Comm Runs
set_option autoImplicit false

def UsableChannel (ch : UInt8) : Prop := 1 ≤ ch ∧ ch ≤ 13

instance (ch : UInt8) : Decidable (UsableChannel ch) := inferInstanceAs (Decidable (_ ∧ _))

def ScanChannels.Valid (s : ScanChannels) : Prop := ∀ ch ∈ s.entries, UsableChannel ch

instance (s : ScanChannels) : Decidable s.Valid :=
  List.decidableBAll UsableChannel s.entries

theorem ScanChannels.first_usable {s : ScanChannels} (hs : s.Valid) :
    UsableChannel s.first := by
  unfold first
  split
  · rename_i h
    have hne : s.entries ≠ [] := by simpa [configured] using h
    have hmem : s.entries.getD 0 0 ∈ s.entries := by
      cases he : s.entries with
      | nil => exact absurd he hne
      | cons a as => simp
    exact hs _ hmem
  · exact ⟨by decide, by decide⟩

/-- A stored channel that is used as it is: in range, and in the scan list if there is one. -/
def ScanChannels.Accepts (s : ScanChannels) (channel : UInt8) : Prop :=
  UsableChannel channel ∧ (s.configured = true → channel ∈ s.entries)

theorem channelValid_iff {s : ScanChannels} {channel : UInt8} :
    PairingClient.channelValid s channel = true ↔ s.Accepts channel := by
  have hrange : (channel > 0 ∧ channel ≤ MAX_SCAN_CHANNELS) ↔ UsableChannel channel := by
    simp only [MAX_SCAN_CHANNELS, UsableChannel]
    grind
  unfold PairingClient.channelValid ScanChannels.Accepts
  by_cases hu : UsableChannel channel
  · rw [if_pos (hrange.mpr hu), and_iff_right hu]
    cases s.configured <;> simp
  · rw [if_neg (hrange.not.mpr hu)]
    exact iff_of_false (by simp) (fun h => hu h.1)

theorem ScanChannels.resolve_accepted {s : ScanChannels} {ch : UInt8} (h : s.Accepts ch) :
    s.resolve ch = ch := if_pos (channelValid_iff.mpr h)

theorem ScanChannels.resolve_usable {s : ScanChannels} (hs : s.Valid) (ch : UInt8) :
    UsableChannel (s.resolve ch) := by
  unfold resolve
  split
  · rename_i h
    exact (channelValid_iff.mp h).1
  · exact s.first_usable hs

section Invariant
variable {σ : Type}

theorem PairingClient.setPairedChannel_usable (c : PairingClient σ) {ch : UInt8}
    (h : UsableChannel ch) : c.setPairedChannel ch =
      { c with
        pairedChannel := ch,
        prefs := c.prefs.putUInt8 PREF_KEY_PAIRED_CHANNEL ch } := by
  rcases c.setPairedChannel_cases ch with ⟨hbad, _⟩ | ⟨_, _, he⟩
  · obtain ⟨h1, h13⟩ := h
    simp only [MAX_SCAN_CHANNELS] at hbad
    grind
  · exact he

def PairedOnUsable (c : PairingClient σ) : Prop :=
  c.isPaired = true → UsableChannel c.pairedChannel

/-- The accepting confirm that the operation completes, if it completes one, carries a
usable channel. -/
def ConfirmsUsable (c : PairingClient σ) : ClientOp → Prop
  | .handleReceived _ data _ =>
    c.state = .RESPONDING → PairingClient.IsConfirm data →
      (PairingConfirm.ofBytes data).accepted ≠ 0 →
      UsableChannel (PairingConfirm.ofBytes data).channel
  | _ => True

def ValidLists : ClientOp → Prop
  | .setScanChannels s => s.Valid
  | _ => True

instance (c : PairingClient σ) : Decidable (PairedOnUsable c) :=
  inferInstanceAs (Decidable (_ → _))

instance (c : PairingClient σ) : ∀ op, Decidable (ConfirmsUsable c op)
  | .handleReceived _ _ _ => inferInstanceAs (Decidable (_ → _ → _ → _))
  | .loadStoredPairing | .setScanChannels _ | .startScanning | .stopScanning | .loop _
  | .onPaired | .setPairedChannel _ | .clearPairing => isTrue trivial

instance : ∀ op, Decidable (ValidLists op)
  | .setScanChannels s => inferInstanceAs (Decidable s.Valid)
  | .loadStoredPairing | .startScanning | .stopScanning | .loop _ | .handleReceived _ _ _
  | .onPaired | .setPairedChannel _ | .clearPairing => isTrue trivial

def ChannelInv (c : PairingClient σ) : Prop := c.scanChannels.Valid ∧ PairedOnUsable c

theorem PairedOnUsable.of_samePairing {c c' : PairingClient σ} (h : PairedOnUsable c)
    (hsame : PairingClient.SamePairing c c') : PairedOnUsable c' := by
  intro hp
  rw [hsame.pairedChannel]
  apply h
  rw [PairingClient.isPaired, ← hsame.state]
  exact hp

theorem pairedOnUsable_of_state {c : PairingClient σ} (h : c.state ≠ .PAIRED) :
    PairedOnUsable c := by
  intro hp
  exact absurd (of_decide_eq_true hp) h

variable [ITransport σ]

theorem apply_validList {c : PairingClient σ} (hc : c.scanChannels.Valid) {op : ClientOp}
    (hlist : ValidLists op) : (op.apply c).scanChannels.Valid := by
  by_cases hset : ∃ s, op = .setScanChannels s
  · obtain ⟨s, rfl⟩ := hset
    exact hlist
  · rw [ClientOp.apply_scanChannels c (fun s hs => hset ⟨s, hs⟩)]
    exact hc

theorem handleReceived_pairedOnUsable {c : PairingClient σ} (hc : PairedOnUsable c)
    (src : MacAddress) (data : List UInt8) (nowMs : UInt32)
    (hop : ConfirmsUsable c (.handleReceived src data nowMs)) :
    PairedOnUsable (c.handleReceived src data nowMs).2 := by
  rcases c.handleReceived_cases src data nowMs with ⟨h, _⟩ | ⟨_, _, h⟩ | ⟨hs, hf, h⟩
  · rw [h]
    exact hc
  · rw [h]
    exact pairedOnUsable_of_state (by simp)
  · rw [h]
    by_cases ha : (PairingConfirm.ofBytes data).accepted = 0
    · rw [PairingClient.handleConfirm_rejected c src ha]
      exact pairedOnUsable_of_state (by simp [PairingClient.startScanning])
    · intro _
      rw [(PairingClient.handleConfirm_accepted c src ha).2.2.1]
      exact hop hs hf ha

theorem apply_pairedOnUsable {c : PairingClient σ} (hc : ChannelInv c) (op : ClientOp)
    (hop : ConfirmsUsable c op) : PairedOnUsable (op.apply c) := by
  obtain ⟨hscan, hpaired⟩ := hc
  cases op with
  | loadStoredPairing =>
    cases hr : storedRecord c.prefs with
    | none =>
      rw [ClientOp.apply, (PairingClient.loadStoredPairing_none hr).2]
      exact hpaired
    | some r =>
      rw [ClientOp.apply, PairingClient.loadStoredPairing_some hr]
      exact fun _ => ScanChannels.resolve_usable hscan r.channel
  | setScanChannels s => exact hpaired
  | startScanning =>
    exact pairedOnUsable_of_state (by simp [ClientOp.apply, PairingClient.startScanning])
  | stopScanning =>
    rcases c.stopScanning_cases with ⟨_, h⟩ | ⟨_, h⟩
    · rw [ClientOp.apply, h]
      exact pairedOnUsable_of_state (by simp)
    · rw [ClientOp.apply, h]
      exact hpaired
  | loop nowMs =>
    rcases c.loop_cases nowMs with h | ⟨_, _, h⟩
    · exact hpaired.of_samePairing h
    · rw [ClientOp.apply, h]
      exact pairedOnUsable_of_state (by simp [PairingClient.startScanning])
  | handleReceived src data nowMs =>
    exact handleReceived_pairedOnUsable hpaired src data nowMs hop
  | onPaired => exact hpaired
  | setPairedChannel ch =>
    rcases c.setPairedChannel_cases ch with ⟨_, h⟩ | ⟨h1, h13, h⟩
    · rw [ClientOp.apply, h]
      exact hpaired
    · rw [ClientOp.apply, h]
      exact fun _ => ⟨h1, h13⟩
  | clearPairing =>
    exact pairedOnUsable_of_state (by simp [ClientOp.apply, PairingClient.clearPairing])

theorem apply_channelInv {c : PairingClient σ} (hc : ChannelInv c) (op : ClientOp)
    (hlist : ValidLists op) (hop : ConfirmsUsable c op) : ChannelInv (op.apply c) :=
  ⟨apply_validList hc.1 hlist, apply_pairedOnUsable hc op hop⟩

theorem apply_breaks {c : PairingClient σ} {op : ClientOp} (hop : ¬ ConfirmsUsable c op) :
    ¬ PairedOnUsable (op.apply c) := by
  cases op with
  | handleReceived src data nowMs =>
    simp only [ConfirmsUsable, Classical.not_imp] at hop
    obtain ⟨hs, hf, ha, hch⟩ := hop
    have hacc := PairingClient.handleConfirm_accepted c src ha
    intro h
    rw [ClientOp.apply, PairingClient.handleReceived_responding hs hf] at h
    apply hch
    rw [← hacc.2.2.1]
    exact h (by simp [PairingClient.isPaired, hacc.1])
  | _ => exact absurd trivial hop

omit [ITransport σ] in
theorem new_channelInv (transport : Transport σ) (prefs : Preferences) (deviceId : UInt8)
    {scan : ScanChannels} (hscan : scan.Valid) :
    ChannelInv ((PairingClient.new transport prefs deviceId).setScanChannels scan) :=
  ⟨hscan, pairedOnUsable_of_state (by simp [PairingClient.setScanChannels, PairingClient.new])⟩

/-- From construction on, every paired state of a run has a channel in 1..13 if and only
if no step of the run completes a pairing on a confirm whose channel byte is outside. -/
theorem paired_channel_usable_iff (transport : Transport σ) (prefs : Preferences)
    (deviceId : UInt8) (scan : ScanChannels) (hscan : scan.Valid) (ops : List ClientOp)
    (hops : ∀ op ∈ ops, ValidLists op) :
    EachState ClientOp.apply PairedOnUsable
        ((PairingClient.new transport prefs deviceId).setScanChannels scan) ops ↔
      EachStep ClientOp.apply ConfirmsUsable
        ((PairingClient.new transport prefs deviceId).setScanChannels scan) ops :=
  eachState_iff_eachStep ChannelInv (new_channelInv transport prefs deviceId hscan)
    (eachStep_of_forall hops _)
    (fun _ op hc hlist hop => apply_channelInv hc op hlist hop)
    (fun _ hc => hc.2)
    (fun _ _ _ _ hop => apply_breaks hop)

end Invariant

section Example

def sparseScan : ScanChannels := ⟨[1, 6, 11], by decide⟩

/-- A fresh client on a radio tuned to channel 1. -/
def freshClient : PairingClient (EspNowTransport SimRadio) :=
  (PairingClient.new (simTransport clientMac 1) Preferences.empty 7).setScanChannels sparseScan

theorem paired_channel_usable_confirmed :
    EachState ClientOp.apply PairedOnUsable freshClient
      [.startScanning, .handleReceived coordMac (PairingBeacon.init 6).toBytes 1000,
        .handleReceived coordMac (PairingConfirm.init true 6).toBytes 1010] :=
  (paired_channel_usable_iff (simTransport clientMac 1) Preferences.empty 7 sparseScan
    (by decide) _ (by decide)).mpr (by decide)

/-- Two beacons, 100 ms apart: the second one pairs the client on channel 0. -/
theorem second_beacon_pairs_on_channel_zero :
    ¬ EachState ClientOp.apply PairedOnUsable freshClient
      [.startScanning, .handleReceived coordMac (PairingBeacon.init 6).toBytes 1000,
        .handleReceived coordMac (PairingBeacon.init 6).toBytes 1100] := by
  decide

end Example

end UngulaNet.Pairing
