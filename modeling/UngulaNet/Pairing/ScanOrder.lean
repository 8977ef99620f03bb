import Mathlib.Data.List.GetD
import UngulaNet.Comm.CallLog
import UngulaNet.Pairing.ClientChannel

/-!
# The order of the discovery scan

A scan goes round the list, or round the channels 1..13 without one. The index is tested
against the list after it has moved and before it is used, so a list that is replaced in
mid-scan by a shorter one is never read past its end.
-/

namespace UngulaNet.Pairing
open Comm Comm.Transport Runs
set_option autoImplicit false

namespace ScanChannels

/-- The number of channels in a round. -/
def roundLength (s : ScanChannels) : Nat :=
  if s.configured then s.entries.length else MAX_SCAN_CHANNELS.toNat

/-- The channel at place `i` of a round. -/
def channelAt (s : ScanChannels) (i : Nat) : UInt8 :=
  if s.configured then s.entry i else UInt8.ofNat i + 1

theorem count_toNat (s : ScanChannels) : s.count.toNat = s.entries.length := by
  simp only [count, UInt8.toNat_ofNat']
  exact Nat.mod_eq_of_lt s.length_lt

theorem entries_length_pos {s : ScanChannels} (h : s.configured = true) :
    0 < s.entries.length :=
  List.length_pos_iff.mpr (of_decide_eq_true h)

theorem roundLength_pos (s : ScanChannels) : 0 < s.roundLength := by
  unfold roundLength
  split
  · rename_i h
    exact entries_length_pos h
  · decide

theorem roundLength_lt (s : ScanChannels) : s.roundLength < 256 := by
  unfold roundLength
  split
  · exact s.length_lt
  · decide

theorem channelAt_usable {s : ScanChannels} (h : s.Valid) {i : Nat} (hi : i < s.roundLength) :
    UsableChannel (s.channelAt i) := by
  have hdefault : ∀ j < 13, UsableChannel (UInt8.ofNat j + 1) := by decide
  unfold roundLength at hi
  unfold channelAt
  split
  · rename_i hlist
    rw [if_pos hlist] at hi
    apply h
    rw [entry, List.getD_eq_getElem _ 0 hi]
    exact List.getElem_mem hi
  · rename_i hlist
    rw [if_neg hlist] at hi
    exact hdefault i hi

/-- The channel that a scan tunes to as its `k`-th, from 0. -/
def tuned (s : ScanChannels) (k : Nat) : UInt8 := s.channelAt (k % s.roundLength)

/-- The index `advanceChannel` moves to. -/
def nextIndex (s : ScanChannels) (i : UInt8) : UInt8 := if i + 1 ≥ s.count then 0 else i + 1

theorem nextIndex_lt {s : ScanChannels} (h : s.configured = true) (i : UInt8) :
    (s.nextIndex i).toNat < s.entries.length := by
  unfold nextIndex
  split
  · exact entries_length_pos h
  · rename_i hin
    rwa [ge_iff_le, UInt8.le_iff_toNat_le, s.count_toNat, Nat.not_le] at hin

theorem nextIndex_toNat {s : ScanChannels} {i : UInt8} (hi : i.toNat < s.entries.length) :
    (s.nextIndex i).toNat = (i.toNat + 1) % s.entries.length := by
  have hlt := s.length_lt
  have hnext : (i + 1).toNat = i.toNat + 1 := by
    rw [UInt8.toNat_add, UInt8.toNat_one]
    omega
  unfold nextIndex
  split
  · rename_i hwrap
    rw [ge_iff_le, UInt8.le_iff_toNat_le, s.count_toNat, hnext] at hwrap
    rw [show i.toNat + 1 = s.entries.length by omega, Nat.mod_self]
    rfl
  · rename_i hin
    rw [ge_iff_le, UInt8.le_iff_toNat_le, s.count_toNat, hnext, Nat.not_le] at hin
    rw [hnext, Nat.mod_eq_of_lt hin]

theorem tuned_succ_default {s : ScanChannels} (h : s.configured = false) (k : Nat) :
    (if s.tuned k + 1 > MAX_SCAN_CHANNELS then 1 else s.tuned k + 1) = s.tuned (k + 1) := by
  have hround : ∀ r < 13, (if UInt8.ofNat r + 1 + 1 > MAX_SCAN_CHANNELS then 1
      else UInt8.ofNat r + 1 + 1) = UInt8.ofNat ((r + 1) % 13) + 1 := by decide
  have hmod : (k % 13 + 1) % 13 = (k + 1) % 13 := by omega
  have htuned : ∀ k, s.tuned k = UInt8.ofNat (k % 13) + 1 := by
    intro k
    simp [tuned, channelAt, roundLength, h, MAX_SCAN_CHANNELS]
  rw [htuned, htuned, hround _ (Nat.mod_lt _ (by decide)), hmod]

end ScanChannels

/-- The client is on the `k`-th channel of a scan of `s` that began on the transport `t`. -/
structure ScanPlace {σ : Type} (s : ScanChannels) (t : Transport σ) (k : Nat)
    (c : PairingClient σ) : Prop where
  scan : c.scanChannels = s
  index : s.configured = true → c.scanIndex.toNat = k % s.entries.length
  channel : c.currentScanChannel = s.tuned k
  calls : c.transport.calls = t.calls ++ (List.range (k + 1)).map fun j => .setChannel (s.tuned j)

/-- The operations that leave the list and the round alone. -/
def KeepsRound : ClientOp → Prop
  | .setScanChannels _ | .startScanning => False
  | _ => True

section Order
variable {σ : Type} [ITransport σ] {s : ScanChannels} {t : Transport σ} {k : Nat}
  {c : PairingClient σ}

theorem startScanning_place (c : PairingClient σ) :
    ScanPlace c.scanChannels c.transport 0 c.startScanning := by
  have hfirst : c.scanChannels.first = c.scanChannels.tuned 0 := by
    unfold ScanChannels.first ScanChannels.tuned ScanChannels.channelAt
    rw [Nat.zero_mod]
    rfl
  exact ⟨rfl, fun _ => (Nat.zero_mod _).symm, hfirst, by simp [PairingClient.startScanning, hfirst]⟩

omit [ITransport σ] in
theorem ScanPlace.nextIndex (h : ScanPlace s t k c) (hlist : s.configured = true) :
    (s.nextIndex c.scanIndex).toNat = (k + 1) % s.entries.length := by
  have hi := h.index hlist
  have hlt : c.scanIndex.toNat < s.entries.length :=
    hi ▸ Nat.mod_lt k (ScanChannels.entries_length_pos hlist)
  rw [ScanChannels.nextIndex_toNat hlt, hi, Nat.mod_add_mod]

omit [ITransport σ] in
/-- Where the next advance of a client in place `k` goes. -/
theorem ScanPlace.next (h : ScanPlace s t k c) : s.tuned (k + 1) =
    if s.configured then s.entry (s.nextIndex c.scanIndex).toNat
    else if c.currentScanChannel + 1 > MAX_SCAN_CHANNELS then 1 else c.currentScanChannel + 1 := by
  split
  · rename_i hlist
    rw [h.nextIndex hlist]
    simp [ScanChannels.tuned, ScanChannels.channelAt, ScanChannels.roundLength, hlist]
  · rename_i hlist
    rw [h.channel]
    exact (ScanChannels.tuned_succ_default (Bool.eq_false_iff.mpr hlist) k).symm

theorem advanceChannel_tunes (c : PairingClient σ) (nowMs : UInt32) :
    (c.advanceChannel nowMs).transport.calls =
      c.transport.calls ++ [.setChannel (c.advanceChannel nowMs).currentScanChannel] := by
  unfold PairingClient.advanceChannel
  split <;> rfl

theorem ScanPlace.advanceChannel (h : ScanPlace s t k c) (nowMs : UInt32) :
    ScanPlace s t (k + 1) (c.advanceChannel nowMs) := by
  have hchannel : (c.advanceChannel nowMs).currentScanChannel = s.tuned (k + 1) := by
    rw [h.next]
    unfold PairingClient.advanceChannel
    rw [h.scan]
    split <;> rfl
  refine ⟨(PairingClient.advanceChannel_scanChannels c nowMs).trans h.scan, ?_, hchannel, ?_⟩
  · intro hlist
    have hindex : (c.advanceChannel nowMs).scanIndex = s.nextIndex c.scanIndex := by
      unfold PairingClient.advanceChannel
      rw [h.scan, if_pos hlist]
      rfl
    rw [hindex, h.nextIndex hlist]
  · rw [advanceChannel_tunes, hchannel, h.calls, List.append_assoc, List.range_succ (n := k + 1),
      List.map_append]
    rfl

omit [ITransport σ] in
theorem ScanPlace.beginDwell (h : ScanPlace s t k c) (nowMs : UInt32) :
    ScanPlace s t k (c.beginDwell nowMs) :=
  ⟨h.scan, h.index, h.channel, h.calls⟩

/-- What an operation does that leaves a scanning client scanning. -/
theorem ScanPlace.step (h : ScanPlace s t k c) (hc : c.state = .SCANNING) {op : ClientOp}
    (hop : KeepsRound op) (hafter : (op.apply c).state = .SCANNING) :
    ∃ j, ScanPlace s t j (op.apply c) := by
  cases op with
  | setScanChannels | startScanning => exact absurd hop id
  | loop nowMs =>
    simp only [ClientOp.apply, PairingClient.loop, hc]
    split
    · exact ⟨k + 1, (h.beginDwell nowMs).advanceChannel nowMs⟩
    · exact ⟨k, h.beginDwell nowMs⟩
  | loadStoredPairing =>
    cases hr : storedRecord c.prefs with
    | none =>
      rw [ClientOp.apply, (PairingClient.loadStoredPairing_none hr).2]
      exact ⟨k, h⟩
    | some r =>
      rw [ClientOp.apply, PairingClient.loadStoredPairing_some hr] at hafter
      exact absurd hafter (by simp)
  | handleReceived src data nowMs =>
    rcases c.handleReceived_cases src data nowMs with ⟨he, _⟩ | ⟨_, _, he⟩ | ⟨hr, _, _⟩
    · rw [ClientOp.apply, he]
      exact ⟨k, h⟩
    · rw [ClientOp.apply, he] at hafter
      exact absurd hafter (by simp)
    · exact absurd (hc.symm.trans hr) (by decide)
  | stopScanning =>
    rcases c.stopScanning_cases with ⟨_, he⟩ | ⟨hn, _⟩
    · rw [ClientOp.apply, he] at hafter
      exact absurd hafter (by simp)
    · exact absurd hc hn
  | onPaired => exact ⟨k, h.scan, h.index, h.channel, h.calls⟩
  | setPairedChannel ch =>
    rcases c.setPairedChannel_cases ch with ⟨_, he⟩ | ⟨_, _, he⟩
    · rw [ClientOp.apply, he]
      exact ⟨k, h⟩
    · rw [ClientOp.apply, he]
      exact ⟨k, h.scan, h.index, h.channel, h.calls⟩
  | clearPairing => exact absurd hafter (by simp [ClientOp.apply, PairingClient.clearPairing])

theorem ScanPlace.run (h : ScanPlace s t k c) {ops : List ClientOp}
    (hops : ∀ op ∈ ops, KeepsRound op)
    (hscans : EachState ClientOp.apply (fun c => c.state = .SCANNING) c ops) :
    ∃ j, ScanPlace s t j (Runs.run ClientOp.apply c ops) := by
  induction ops generalizing c k with
  | nil => exact ⟨k, h⟩
  | cons op ops ih =>
    obtain ⟨j, hnext⟩ := h.step hscans.1 (hops op List.mem_cons_self) hscans.2.first
    exact ih hnext (fun op hop => hops op (List.mem_cons_of_mem _ hop)) hscans.2

/-- A scan goes on for as long as nothing but `loop` is called. -/
theorem loops_scanning (hc : c.state = .SCANNING) (times : List UInt32) :
    EachState ClientOp.apply (fun c => c.state = .SCANNING) c (times.map .loop) := by
  induction times generalizing c with
  | nil => exact hc
  | cons nowMs times ih =>
    refine ⟨hc, ih ?_⟩
    rcases c.loop_cases nowMs with hsame | ⟨hr, _, _⟩
    · exact hsame.state.trans hc
    · exact absurd (hc.symm.trans hr) (by decide)

end Order

section Checked
variable {σ : Type} [ITransport σ]

namespace ScanChannels

/-- A read of the list; `none` past its end. -/
def readChecked (s : ScanChannels) (i : Nat) : Option UInt8 := s.entries[i]?

theorem readChecked_eq {s : ScanChannels} {i : Nat} (h : i < s.entries.length) :
    s.readChecked i = some (s.entry i) := by
  rw [readChecked, entry, List.getD_eq_getElem?_getD, List.getElem?_eq_getElem h]
  rfl

def firstChecked (s : ScanChannels) : Option UInt8 :=
  if s.configured then s.readChecked 0 else some 1

theorem firstChecked_eq (s : ScanChannels) : s.firstChecked = some s.first := by
  unfold firstChecked first
  split
  · rename_i h
    exact readChecked_eq (entries_length_pos h)
  · rfl

end ScanChannels

namespace PairingClient

def startScanningChecked (c : PairingClient σ) : Option (PairingClient σ) := do
  let ch ← c.scanChannels.firstChecked
  return { c with
    state := .SCANNING, scanIndex := 0, currentScanChannel := ch, channelStartMs := 0,
    pairingStartMs := 0, coordinatorMac := .cleared, pairedChannel := 0,
    transport := c.transport.setChannel ch }

def advanceChannelChecked (c : PairingClient σ) (nowMs : UInt32) : Option (PairingClient σ) := do
  let c ←
    if c.scanChannels.configured then do
      let i := c.scanIndex + 1
      let i := if i ≥ c.scanChannels.count then 0 else i
      let ch ← c.scanChannels.readChecked i.toNat
      some { c with scanIndex := i, currentScanChannel := ch }
    else
      let ch := c.currentScanChannel + 1
      some { c with currentScanChannel := if ch > MAX_SCAN_CHANNELS then 1 else ch }
  return { c with
    transport := c.transport.setChannel c.currentScanChannel, channelStartMs := nowMs }

def loopChecked (c : PairingClient σ) (nowMs : UInt32) : Option (PairingClient σ) :=
  match c.state with
  | .SCANNING =>
    let c := c.beginDwell nowMs
    if nowMs - c.channelStartMs ≥ CHANNEL_SCAN_DWELL_MS then c.advanceChannelChecked nowMs
    else some c
  | .RESPONDING =>
    if nowMs - c.pairingStartMs ≥ PAIRING_TIMEOUT_MS then c.startScanningChecked else some c
  | _ => some c

def handleConfirmChecked (c : PairingClient σ) (srcMac : MacAddress) (confirm : PairingConfirm) :
    Option (PairingClient σ) :=
  if confirm.accepted ≠ 0 then some (c.handleConfirm srcMac confirm) else c.startScanningChecked

def handleReceivedChecked (c : PairingClient σ) (srcMac : MacAddress) (data : List UInt8)
    (nowMs : UInt32) : Option (PairingClient σ) :=
  if data.length < 4 then some c
  else if data.take 4 ≠ PAIRING_MAGIC then some c
  else if c.state = .SCANNING ∧ PairingBeacon.size ≤ data.length ∧
      (PairingBeacon.ofBytes data).isValid = true then
    some (c.handleBeacon srcMac (PairingBeacon.ofBytes data) nowMs)
  else if c.state = .RESPONDING ∧ PairingConfirm.size ≤ data.length ∧
      (PairingConfirm.ofBytes data).isValid = true then
    c.handleConfirmChecked srcMac (PairingConfirm.ofBytes data)
  else some c

theorem startScanningChecked_eq (c : PairingClient σ) :
    c.startScanningChecked = some c.startScanning := by
  rw [startScanningChecked, ScanChannels.firstChecked_eq]
  rfl

theorem advanceChannelChecked_eq (c : PairingClient σ) (nowMs : UInt32) :
    c.advanceChannelChecked nowMs = some (c.advanceChannel nowMs) := by
  unfold advanceChannelChecked advanceChannel
  split
  · rename_i h
    have hread : c.scanChannels.readChecked
        (if c.scanIndex + 1 ≥ c.scanChannels.count then 0 else c.scanIndex + 1).toNat = some _ :=
      ScanChannels.readChecked_eq (ScanChannels.nextIndex_lt h c.scanIndex)
    simp only [hread]
    rfl
  · rfl

theorem loopChecked_eq (c : PairingClient σ) (nowMs : UInt32) :
    c.loopChecked nowMs = some (c.loop nowMs) := by
  cases hs : c.state with
  | SCANNING =>
    simp only [loopChecked, loop, hs, advanceChannelChecked_eq]
    exact (apply_ite some _ _ _).symm
  | RESPONDING =>
    simp only [loopChecked, loop, hs, startScanningChecked_eq]
    exact (apply_ite some _ _ _).symm
  | IDLE | BROADCASTING | CONFIRMING | PAIRED | FAILED => simp only [loopChecked, loop, hs]

theorem handleConfirmChecked_eq (c : PairingClient σ) (srcMac : MacAddress)
    (confirm : PairingConfirm) :
    c.handleConfirmChecked srcMac confirm = some (c.handleConfirm srcMac confirm) := by
  unfold handleConfirmChecked
  split
  · rfl
  · rename_i h
    rw [startScanningChecked_eq, handleConfirm_rejected c srcMac (not_not.mp h)]

theorem handleReceivedChecked_eq (c : PairingClient σ) (srcMac : MacAddress)
    (data : List UInt8) (nowMs : UInt32) :
    c.handleReceivedChecked srcMac data nowMs = some (c.handleReceived srcMac data nowMs).2 := by
  unfold handleReceivedChecked handleReceived
  split
  · rfl
  · split
    · rfl
    · split
      · rfl
      · split
        · exact handleConfirmChecked_eq c srcMac _
        · rfl

end PairingClient

/-- The calls that read or replace the list of a scan. -/
inductive ScanCall where
  | setScanChannels (channels : ScanChannels)
  | startScanning
  | loop (nowMs : UInt32)
  | handleReceived (srcMac : MacAddress) (data : List UInt8) (nowMs : UInt32)

def ScanCall.toOp : ScanCall → ClientOp
  | .setScanChannels channels => .setScanChannels channels
  | .startScanning => .startScanning
  | .loop nowMs => .loop nowMs
  | .handleReceived srcMac data nowMs => .handleReceived srcMac data nowMs

/-- The call with every read of the list checked; `none` when one is out of bounds. -/
def ScanCall.applyChecked (c : PairingClient σ) : ScanCall → Option (PairingClient σ)
  | .setScanChannels channels => some (c.setScanChannels channels)
  | .startScanning => c.startScanningChecked
  | .loop nowMs => c.loopChecked nowMs
  | .handleReceived srcMac data nowMs => c.handleReceivedChecked srcMac data nowMs

theorem ScanCall.applyChecked_eq (c : PairingClient σ) (call : ScanCall) :
    call.applyChecked c = some (call.toOp.apply c) := by
  cases call with
  | setScanChannels => rfl
  | startScanning => exact c.startScanningChecked_eq
  | loop nowMs => exact c.loopChecked_eq nowMs
  | handleReceived srcMac data nowMs => exact c.handleReceivedChecked_eq srcMac data nowMs

theorem runChecked_eq (c : PairingClient σ) (calls : List ScanCall) :
    calls.foldlM ScanCall.applyChecked c =
      some (run ClientOp.apply c (calls.map ScanCall.toOp)) := by
  induction calls generalizing c with
  | nil => rfl
  | cons call calls ih =>
    rw [List.foldlM_cons, ScanCall.applyChecked_eq]
    exact ih _

/-- From any state on, a scan that goes on undisturbed tunes to its list in order, round
after round, with one call each time; and whatever lists replace each other, none is read
past its end. -/
theorem scan_order (c : PairingClient σ) :
    (∀ ops : List ClientOp, (∀ op ∈ ops, KeepsRound op) →
      EachState ClientOp.apply (fun c => c.state = .SCANNING) c.startScanning ops →
      ∃ k, newCalls c.transport (run ClientOp.apply c.startScanning ops).transport =
          (List.range (k + 1)).map (fun j => .setChannel (c.scanChannels.tuned j)) ∧
        (run ClientOp.apply c.startScanning ops).currentScanChannel = c.scanChannels.tuned k) ∧
    ∀ calls : List ScanCall, calls.foldlM ScanCall.applyChecked c =
      some (run ClientOp.apply c (calls.map ScanCall.toOp)) := by
  constructor
  · intro ops hops hscans
    obtain ⟨k, hplace⟩ := (startScanning_place c).run hops hscans
    exact ⟨k, newCalls_eq hplace.calls, hplace.channel⟩
  · exact runChecked_eq c

end Checked

section Example

/-- Dwells of 200 ms take the scan of 1, 6, 11 once round. -/
theorem scan_goes_round :
    newCalls freshClient.transport
        (run ClientOp.apply freshClient.startScanning
          ([100, 300, 500, 700].map .loop)).transport =
      [.setChannel 1, .setChannel 6, .setChannel 11, .setChannel 1] := by
  obtain ⟨k, hcalls, _⟩ := (scan_order freshClient).1 ([100, 300, 500, 700].map .loop)
    (by simp [KeepsRound]) (loops_scanning rfl _)
  have hlength := congrArg List.length hcalls
  rw [List.length_map, List.length_range] at hlength
  have hk : k = 3 := Nat.succ.inj (hlength.symm.trans (by decide))
  subst hk
  rw [hcalls]
  decide

end Example
end UngulaNet.Pairing
