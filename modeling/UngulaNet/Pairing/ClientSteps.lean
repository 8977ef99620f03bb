import UngulaNet.Pairing.PairingClient

/-!
# What one client operation can do

Case lemmas for the operations that branch, and the record a preference store holds.
Everything proved about runs of a client goes through these lemmas; no later proof
opens the operations again.
-/

namespace UngulaNet.Pairing
open Comm
set_option autoImplicit false

namespace PairingClient
variable {σ : Type}

/-- The part of the client that pairing is about: its state, its coordinator, its
channel, and the store. -/
structure SamePairing (c c' : PairingClient σ) : Prop where
  state : c'.state = c.state
  coordinatorMac : c'.coordinatorMac = c.coordinatorMac
  pairedChannel : c'.pairedChannel = c.pairedChannel
  prefs : c'.prefs = c.prefs

theorem SamePairing.refl (c : PairingClient σ) : SamePairing c c := ⟨rfl, rfl, rfl, rfl⟩

theorem stopScanning_cases (c : PairingClient σ) :
    (c.state = .SCANNING ∧ c.stopScanning = { c with state := .IDLE }) ∨
      (c.state ≠ .SCANNING ∧ c.stopScanning = c) := by
  unfold stopScanning
  split
  · rename_i h
    exact Or.inl ⟨h, rfl⟩
  · rename_i h
    exact Or.inr ⟨h, rfl⟩

theorem setPairedChannel_cases (c : PairingClient σ) (channel : UInt8) :
    ((channel = 0 ∨ channel > MAX_SCAN_CHANNELS) ∧ c.setPairedChannel channel = c) ∨
      (1 ≤ channel ∧ channel ≤ 13 ∧ c.setPairedChannel channel =
        { c with
          pairedChannel := channel,
          prefs := c.prefs.putUInt8 PREF_KEY_PAIRED_CHANNEL channel }) := by
  unfold setPairedChannel
  split
  · rename_i h
    exact Or.inl ⟨h, rfl⟩
  · rename_i h
    simp only [MAX_SCAN_CHANNELS] at h
    exact Or.inr ⟨by grind, by grind, rfl⟩

theorem setPairedChannel_withTransport (c : PairingClient σ) (t : Transport σ)
    (channel : UInt8) : setPairedChannel { c with transport := t } channel =
      { c.setPairedChannel channel with transport := t } := by
  unfold setPairedChannel
  split <;> rfl

theorem setPairedChannel_coordinatorMac (c : PairingClient σ) (channel : UInt8) :
    (c.setPairedChannel channel).coordinatorMac = c.coordinatorMac := by
  unfold setPairedChannel
  split <;> rfl

variable [ITransport σ]

theorem advanceChannel_samePairing (c : PairingClient σ) (nowMs : UInt32) :
    SamePairing c (c.advanceChannel nowMs) := by
  unfold advanceChannel
  split <;> exact ⟨rfl, rfl, rfl, rfl⟩

@[simp] theorem advanceChannel_scanChannels (c : PairingClient σ) (nowMs : UInt32) :
    (c.advanceChannel nowMs).scanChannels = c.scanChannels := by
  unfold advanceChannel
  split <;> rfl

/-- `loop` keeps the pairing, or restarts the scan after an unanswered request. -/
theorem loop_cases (c : PairingClient σ) (nowMs : UInt32) :
    SamePairing c (c.loop nowMs) ∨
      (c.state = .RESPONDING ∧ PAIRING_TIMEOUT_MS ≤ nowMs - c.pairingStartMs ∧
        c.loop nowMs = c.startScanning) := by
  unfold loop
  split
  · refine Or.inl ?_
    dsimp only
    split
    · obtain ⟨h1, h2, h3, h4⟩ := advanceChannel_samePairing (c.beginDwell nowMs) nowMs
      exact ⟨h1, h2, h3, h4⟩
    · exact ⟨rfl, rfl, rfl, rfl⟩
  · split
    · rename_i hstate htime
      exact Or.inr ⟨hstate, htime, rfl⟩
    · exact Or.inl (SamePairing.refl c)
  · exact Or.inl (SamePairing.refl c)

theorem loop_scanChannels (c : PairingClient σ) (nowMs : UInt32) :
    (c.loop nowMs).scanChannels = c.scanChannels := by
  unfold loop
  split
  · dsimp only
    split
    · exact advanceChannel_scanChannels (c.beginDwell nowMs) nowMs
    · rfl
  · split <;> rfl
  · rfl

/-- The bytes are a beacon for a receiver that is scanning. -/
def IsBeacon (data : List UInt8) : Prop :=
  PairingBeacon.size ≤ data.length ∧ (PairingBeacon.ofBytes data).isValid = true

/-- The bytes are a confirm for a receiver that waits for one. -/
def IsConfirm (data : List UInt8) : Prop :=
  PairingConfirm.size ≤ data.length ∧ (PairingConfirm.ofBytes data).isValid = true

instance (data : List UInt8) : Decidable (IsBeacon data) :=
  inferInstanceAs (Decidable (_ ∧ _))

instance (data : List UInt8) : Decidable (IsConfirm data) :=
  inferInstanceAs (Decidable (_ ∧ _))

theorem magic_of_isConfirm {data : List UInt8} (h : IsConfirm data) :
    ¬ data.length < 4 ∧ ¬ data.take 4 ≠ PAIRING_MAGIC := by
  obtain ⟨hlen, hvalid⟩ := h
  simp only [PairingConfirm.size] at hlen
  simp only [PairingConfirm.isValid, PairingConfirm.ofBytes, Bool.and_eq_true, beq_iff_eq]
    at hvalid
  exact ⟨by omega, fun hne => hne hvalid.1⟩

theorem handleReceived_scanning {c : PairingClient σ} (hc : c.state = .SCANNING)
    {data : List UInt8} (h : IsBeacon data) (srcMac : MacAddress) (nowMs : UInt32) :
    c.handleReceived srcMac data nowMs =
      (true, c.handleBeacon srcMac (PairingBeacon.ofBytes data) nowMs) := by
  have hmagic := magic_of_isConfirm ⟨h.1, (isValid_beacon_eq_confirm data).symm.trans h.2⟩
  rw [handleReceived, if_neg hmagic.1, if_neg hmagic.2, if_pos ⟨hc, h.1, h.2⟩]

theorem handleReceived_responding {c : PairingClient σ} (hc : c.state = .RESPONDING)
    {data : List UInt8} (h : IsConfirm data) (srcMac : MacAddress) (nowMs : UInt32) :
    c.handleReceived srcMac data nowMs =
      (true, c.handleConfirm srcMac (PairingConfirm.ofBytes data)) := by
  have hmagic := magic_of_isConfirm h
  rw [handleReceived, if_neg hmagic.1, if_neg hmagic.2, if_neg (by simp [hc]),
    if_pos ⟨hc, h.1, h.2⟩]

theorem handleReceived_cases (c : PairingClient σ) (srcMac : MacAddress)
    (data : List UInt8) (nowMs : UInt32) :
    (c.handleReceived srcMac data nowMs = (false, c) ∧
        ¬ (c.state = .SCANNING ∧ IsBeacon data) ∧ ¬ (c.state = .RESPONDING ∧ IsConfirm data)) ∨
      (c.state = .SCANNING ∧ IsBeacon data ∧ c.handleReceived srcMac data nowMs =
        (true, c.handleBeacon srcMac (PairingBeacon.ofBytes data) nowMs)) ∨
      (c.state = .RESPONDING ∧ IsConfirm data ∧ c.handleReceived srcMac data nowMs =
        (true, c.handleConfirm srcMac (PairingConfirm.ofBytes data))) := by
  by_cases hs : c.state = .SCANNING ∧ IsBeacon data
  · exact Or.inr (Or.inl ⟨hs.1, hs.2, handleReceived_scanning hs.1 hs.2 srcMac nowMs⟩)
  by_cases hr : c.state = .RESPONDING ∧ IsConfirm data
  · exact Or.inr (Or.inr ⟨hr.1, hr.2, handleReceived_responding hr.1 hr.2 srcMac nowMs⟩)
  · refine Or.inl ⟨?_, hs, hr⟩
    unfold handleReceived
    split
    · rfl
    · split
      · rfl
      · rw [if_neg (fun h => hs ⟨h.1, h.2.1, h.2.2⟩), if_neg (fun h => hr ⟨h.1, h.2.1, h.2.2⟩)]

@[simp] theorem handleBeacon_state (c : PairingClient σ) (m : MacAddress) (b : PairingBeacon)
    (nowMs : UInt32) : (c.handleBeacon m b nowMs).state = .RESPONDING := rfl

theorem handleConfirm_rejected (c : PairingClient σ) (m : MacAddress) {f : PairingConfirm}
    (h : f.accepted = 0) : c.handleConfirm m f = c.startScanning :=
  if_neg (fun hne => hne h)

/-- What an accepted confirm leaves: the sender, its channel, and both on record. -/
theorem handleConfirm_accepted (c : PairingClient σ) (m : MacAddress) {f : PairingConfirm}
    (h : f.accepted ≠ 0) :
    (c.handleConfirm m f).state = .PAIRED ∧ (c.handleConfirm m f).coordinatorMac = m ∧
      (c.handleConfirm m f).pairedChannel = f.channel ∧
      (c.handleConfirm m f).transport = c.transport.setChannel f.channel ∧
      (c.handleConfirm m f).prefs =
        ((c.prefs.putBytes PREF_KEY_PAIRED_MAC m.addr).putUInt8
          PREF_KEY_PAIRED_CHANNEL f.channel).putUInt8 PREF_KEY_PAIRED_FLAG 1 := by
  rw [handleConfirm, if_pos h]
  dsimp only
  split <;> exact ⟨rfl, rfl, rfl, rfl, rfl⟩

theorem handleConfirm_scanChannels (c : PairingClient σ) (m : MacAddress)
    (f : PairingConfirm) : (c.handleConfirm m f).scanChannels = c.scanChannels := by
  unfold handleConfirm
  split
  · dsimp only
    split <;> rfl
  · rfl

end PairingClient

/-- The pairing a store holds: a coordinator and the channel last persisted. -/
structure PairingRecord where
  mac : MacAddress
  channel : UInt8

/-- The record a load accepts: flag set, a full MAC, and not the zero MAC. -/
def storedRecord (p : Preferences) : Option PairingRecord :=
  let read := p.getBytes PREF_KEY_PAIRED_MAC MacAddress.ADDR_LEN
  let mac := MacAddress.cleared.copyInto read
  if p.getUInt8 PREF_KEY_PAIRED_FLAG 0 = 1 ∧ read.length = MacAddress.ADDR_LEN ∧
      mac.isZero = false then
    some ⟨mac, p.getUInt8 PREF_KEY_PAIRED_CHANNEL 0⟩
  else none

theorem storedRecord_eq_some {p : Preferences} {r : PairingRecord} :
    storedRecord p = some r ↔ p.getUInt8 PREF_KEY_PAIRED_FLAG 0 = 1 ∧
      p.getBytes PREF_KEY_PAIRED_MAC MacAddress.ADDR_LEN = r.mac.addr ∧
      r.mac.isZero = false ∧ p.getUInt8 PREF_KEY_PAIRED_CHANNEL 0 = r.channel := by
  simp only [storedRecord, Option.ite_none_right_eq_some, Option.some.injEq]
  constructor
  · rintro ⟨⟨hflag, hread, hmac⟩, rfl⟩
    exact ⟨hflag, (MacAddress.copyInto_full .cleared hread).symm, hmac, rfl⟩
  · rintro ⟨hflag, hread, hmac, hchannel⟩
    rw [hread, MacAddress.copyInto_addr]
    exact ⟨⟨hflag, r.mac.addr_length, hmac⟩, by rw [hchannel]⟩

theorem storedRecord_unset {p : Preferences} (h : p.getUInt8 PREF_KEY_PAIRED_FLAG 0 ≠ 1) :
    storedRecord p = none := by
  simp [storedRecord, h]

/-- What is read back of a pairing once its three keys are written. -/
theorem written_record (p : Preferences) (mac : MacAddress) (channel : UInt8) :
    let q := ((p.putBytes PREF_KEY_PAIRED_MAC mac.addr).putUInt8
      PREF_KEY_PAIRED_CHANNEL channel).putUInt8 PREF_KEY_PAIRED_FLAG 1
    q.getUInt8 PREF_KEY_PAIRED_FLAG 0 = 1 ∧
      q.getBytes PREF_KEY_PAIRED_MAC MacAddress.ADDR_LEN = mac.addr ∧
      q.getUInt8 PREF_KEY_PAIRED_CHANNEL 0 = channel := by
  intro q
  refine ⟨?_, ?_, ?_⟩
  · rw [Preferences.getUInt8_putUInt8, if_pos rfl]
  · rw [Preferences.getBytes_putUInt8 (by decide), Preferences.getBytes_putUInt8 (by decide)]
    exact Preferences.getBytes_putBytes p _ (Nat.le_of_eq mac.addr_length)
  · rw [Preferences.getUInt8_putUInt8, if_neg (by decide), Preferences.getUInt8_putUInt8,
      if_pos rfl]

/-- The channel a client with this scan list uses for a stored one. -/
def ScanChannels.resolve (s : ScanChannels) (channel : UInt8) : UInt8 :=
  if PairingClient.channelValid s channel then channel else s.first

namespace PairingClient
variable {σ : Type} [ITransport σ]

theorem loadStoredPairing_none {c : PairingClient σ} (h : storedRecord c.prefs = none) :
    c.loadStoredPairing.1.valid = false ∧ c.loadStoredPairing.2 = c := by
  simp only [storedRecord] at h
  unfold loadStoredPairing
  dsimp only
  split
  · exact ⟨rfl, rfl⟩
  · rename_i hflag
    rw [if_pos ?_]
    · exact ⟨rfl, rfl⟩
    · grind

theorem loadStoredPairing_some {c : PairingClient σ} {r : PairingRecord}
    (h : storedRecord c.prefs = some r) :
    c.loadStoredPairing =
      ({ coordinatorMac := r.mac, channel := c.scanChannels.resolve r.channel, valid := true },
        { c with
          coordinatorMac := r.mac, state := .PAIRED,
          pairedChannel := c.scanChannels.resolve r.channel,
          transport :=
            (c.transport.setChannel (c.scanChannels.resolve r.channel)).addPeer r.mac 0 }) := by
  simp only [storedRecord, Option.ite_none_right_eq_some, Option.some.injEq] at h
  obtain ⟨⟨hflag, hread, hmac⟩, rfl⟩ := h
  unfold loadStoredPairing ScanChannels.resolve
  dsimp only
  rw [if_neg (fun hne => hne hflag), if_neg (by simp [hread, hmac])]
  split <;> rfl

theorem handleReceived_scanChannels (c : PairingClient σ) (srcMac : MacAddress)
    (data : List UInt8) (nowMs : UInt32) :
    (c.handleReceived srcMac data nowMs).2.scanChannels = c.scanChannels := by
  rcases c.handleReceived_cases srcMac data nowMs with ⟨h, _⟩ | ⟨_, _, h⟩ | ⟨_, _, h⟩
  · rw [h]
  · rw [h]
    rfl
  · rw [h]
    exact c.handleConfirm_scanChannels srcMac _

theorem loadStoredPairing_scanChannels (c : PairingClient σ) :
    c.loadStoredPairing.2.scanChannels = c.scanChannels := by
  cases hr : storedRecord c.prefs with
  | none => rw [(loadStoredPairing_none hr).2]
  | some r => rw [loadStoredPairing_some hr]

omit [ITransport σ] in
theorem setPairedChannel_scanChannels (c : PairingClient σ) (channel : UInt8) :
    (c.setPairedChannel channel).scanChannels = c.scanChannels := by
  unfold setPairedChannel
  split <;> rfl

end PairingClient

theorem ClientOp.apply_scanChannels {σ : Type} [ITransport σ] (c : PairingClient σ)
    {op : ClientOp} (h : ∀ s, op ≠ .setScanChannels s) :
    (op.apply c).scanChannels = c.scanChannels := by
  cases op with
  | loadStoredPairing => exact c.loadStoredPairing_scanChannels
  | setScanChannels s => exact absurd rfl (h s)
  | startScanning => rfl
  | stopScanning =>
    rcases c.stopScanning_cases with ⟨_, he⟩ | ⟨_, he⟩ <;> rw [ClientOp.apply, he]
  | loop nowMs => exact c.loop_scanChannels nowMs
  | handleReceived src data nowMs => exact c.handleReceived_scanChannels src data nowMs
  | onPaired => rfl
  | setPairedChannel ch => exact c.setPairedChannel_scanChannels ch
  | clearPairing => rfl

/-- The part of the client that a pairing attempt is about: the answered beacon, and what
was said on the air since. -/
structure SameAttempt {σ : Type} (c c' : PairingClient σ) : Prop where
  state : c'.state = c.state
  coordinatorMac : c'.coordinatorMac = c.coordinatorMac
  pairingStartMs : c'.pairingStartMs = c.pairingStartMs
  transport : c'.transport = c.transport

theorem PairingClient.loop_idle {σ : Type} [ITransport σ] {c : PairingClient σ}
    (hscan : c.state ≠ .SCANNING) (hresp : c.state ≠ .RESPONDING) (nowMs : UInt32) :
    c.loop nowMs = c := by
  unfold PairingClient.loop
  split
  · rename_i h
    exact absurd h hscan
  · rename_i h
    exact absurd h hresp
  · rfl

/-- While a client waits for its confirm, `loop` restarts the scan after the timeout and
does nothing before. -/
theorem PairingClient.loop_responding {σ : Type} [ITransport σ] {c : PairingClient σ}
    (hs : c.state = .RESPONDING) (nowMs : UInt32) :
    (nowMs - c.pairingStartMs ≥ PAIRING_TIMEOUT_MS ∧ c.loop nowMs = c.startScanning) ∨
      (¬ nowMs - c.pairingStartMs ≥ PAIRING_TIMEOUT_MS ∧ c.loop nowMs = c) := by
  unfold PairingClient.loop
  simp only [hs]
  split
  · rename_i ht
    exact Or.inl ⟨ht, rfl⟩
  · rename_i ht
    exact Or.inr ⟨ht, rfl⟩

theorem ClientOp.begins_attempt {σ : Type} [ITransport σ] {c : PairingClient σ} {op : ClientOp}
    (hs : c.state ≠ .RESPONDING) (h : (op.apply c).state = .RESPONDING) :
    ∃ srcMac data nowMs, op = .handleReceived srcMac data nowMs ∧ c.state = .SCANNING ∧
      op.apply c = c.handleBeacon srcMac (PairingBeacon.ofBytes data) nowMs := by
  cases op with
  | loadStoredPairing =>
    cases hr : storedRecord c.prefs with
    | none =>
      rw [ClientOp.apply, (PairingClient.loadStoredPairing_none hr).2] at h
      exact absurd h hs
    | some r => simp [ClientOp.apply, PairingClient.loadStoredPairing_some hr] at h
  | setScanChannels s => exact absurd h hs
  | startScanning => simp [ClientOp.apply, PairingClient.startScanning] at h
  | stopScanning =>
    rcases c.stopScanning_cases with ⟨_, he⟩ | ⟨_, he⟩
    · simp [ClientOp.apply, he] at h
    · rw [ClientOp.apply, he] at h
      exact absurd h hs
  | loop nowMs =>
    rcases c.loop_cases nowMs with hsame | ⟨hresp, _, _⟩
    · exact absurd (hsame.state.symm.trans h) hs
    · exact absurd hresp hs
  | handleReceived srcMac data nowMs =>
    rcases c.handleReceived_cases srcMac data nowMs with ⟨he, _⟩ | ⟨hscan, _, he⟩ | ⟨hresp, _, _⟩
    · rw [ClientOp.apply, he] at h
      exact absurd h hs
    · exact ⟨srcMac, data, nowMs, rfl, hscan, by rw [ClientOp.apply, he]⟩
    · exact absurd hresp hs
  | onPaired => exact absurd h hs
  | setPairedChannel ch =>
    rcases c.setPairedChannel_cases ch with ⟨_, he⟩ | ⟨_, _, he⟩ <;>
      rw [ClientOp.apply, he] at h <;> exact absurd h hs
  | clearPairing => simp [ClientOp.apply, PairingClient.clearPairing] at h

theorem ClientOp.attempt_cases {σ : Type} [ITransport σ] {c : PairingClient σ}
    (hs : c.state = .RESPONDING) (op : ClientOp) :
    SameAttempt c (op.apply c) ∨ (op.apply c).state ≠ .RESPONDING := by
  cases op with
  | loadStoredPairing =>
    cases hr : storedRecord c.prefs with
    | none =>
      rw [ClientOp.apply, (PairingClient.loadStoredPairing_none hr).2]
      exact Or.inl ⟨rfl, rfl, rfl, rfl⟩
    | some r => exact Or.inr (by simp [ClientOp.apply, PairingClient.loadStoredPairing_some hr])
  | setScanChannels s => exact Or.inl ⟨rfl, rfl, rfl, rfl⟩
  | startScanning => exact Or.inr (by simp [ClientOp.apply, PairingClient.startScanning])
  | stopScanning =>
    rcases c.stopScanning_cases with ⟨_, he⟩ | ⟨_, he⟩
    · exact Or.inr (by simp [ClientOp.apply, he])
    · rw [ClientOp.apply, he]
      exact Or.inl ⟨rfl, rfl, rfl, rfl⟩
  | loop nowMs =>
    rcases PairingClient.loop_responding hs nowMs with ⟨_, he⟩ | ⟨_, he⟩
    · exact Or.inr (by simp [ClientOp.apply, he, PairingClient.startScanning])
    · rw [ClientOp.apply, he]
      exact Or.inl ⟨rfl, rfl, rfl, rfl⟩
  | handleReceived srcMac data nowMs =>
    rcases c.handleReceived_cases srcMac data nowMs with ⟨he, _⟩ | ⟨hscan, _, _⟩ | ⟨_, _, he⟩
    · rw [ClientOp.apply, he]
      exact Or.inl ⟨rfl, rfl, rfl, rfl⟩
    · exact absurd (hs.symm.trans hscan) (by decide)
    · refine Or.inr ?_
      rw [ClientOp.apply, he]
      by_cases ha : (PairingConfirm.ofBytes data).accepted = 0
      · simp [PairingClient.handleConfirm_rejected c srcMac ha, PairingClient.startScanning]
      · simp [(PairingClient.handleConfirm_accepted c srcMac ha).1]
  | onPaired => exact Or.inl ⟨rfl, rfl, rfl, rfl⟩
  | setPairedChannel ch =>
    rcases c.setPairedChannel_cases ch with ⟨_, he⟩ | ⟨_, _, he⟩ <;>
      rw [ClientOp.apply, he] <;> exact Or.inl ⟨rfl, rfl, rfl, rfl⟩
  | clearPairing => exact Or.inr (by simp [ClientOp.apply, PairingClient.clearPairing])

end UngulaNet.Pairing
