import UngulaNet.Pairing.ClientChannel

/-!
# Power loss while a pairing is written

A pairing is three keys, written one by one. A boot after a power loss reads what the
writes so far have left. The flag is written last, so a first pairing appears all at once;
over an existing one the flag is already set, and the new address is read together with
the old channel. Clearing starts with the address and needs no such care.
-/

namespace UngulaNet.Pairing
open Comm
set_option autoImplicit false

/-- One atomic and durable change of the store. -/
inductive PrefOp where
  | putBytes (key : String) (data : List UInt8)
  | putUInt8 (key : String) (value : UInt8)
  | remove (key : String)
  deriving DecidableEq

def PrefOp.apply (p : Preferences) : PrefOp → Preferences
  | .putBytes key data => p.putBytes key data
  | .putUInt8 key value => p.putUInt8 key value
  | .remove key => p.remove key

def storePairingOps (mac : MacAddress) (channel : UInt8) : List PrefOp :=
  [.putBytes PREF_KEY_PAIRED_MAC mac.addr, .putUInt8 PREF_KEY_PAIRED_CHANNEL channel,
    .putUInt8 PREF_KEY_PAIRED_FLAG 1]

def clearPairingOps : List PrefOp :=
  [.remove PREF_KEY_PAIRED_MAC, .remove PREF_KEY_PAIRED_CHANNEL, .remove PREF_KEY_PAIRED_FLAG]

section Crash
variable {σ : Type}

theorem storePairing_prefs (c : PairingClient σ) : c.storePairing.prefs =
    (storePairingOps c.coordinatorMac c.pairedChannel).foldl PrefOp.apply c.prefs := rfl

theorem clearPairing_prefs (c : PairingClient σ) :
    c.clearPairing.prefs = clearPairingOps.foldl PrefOp.apply c.prefs := rfl

variable [ITransport σ]

/-- The pairing a fresh client without a scan list loads. -/
def bootPairing (transport : Transport σ) (deviceId : UInt8) (p : Preferences) :
    Option (MacAddress × UInt8) :=
  let result := (PairingClient.new transport p deviceId).loadStoredPairing.1
  if result.valid then some (result.coordinatorMac, result.channel) else none

/-- Whenever the writes stop, the next boot finds what was there before them, or what they
all together would have left. -/
def CrashAtomic (transport : Transport σ) (deviceId : UInt8) (p : Preferences)
    (ops : List PrefOp) : Prop :=
  ∀ done ∈ ops.inits, bootPairing transport deviceId (done.foldl PrefOp.apply p) =
      bootPairing transport deviceId p ∨
    bootPairing transport deviceId (done.foldl PrefOp.apply p) =
      bootPairing transport deviceId (ops.foldl PrefOp.apply p)

theorem bootPairing_eq (transport : Transport σ) (deviceId : UInt8) (p : Preferences) :
    bootPairing transport deviceId p =
      (storedRecord p).map fun r => (r.mac, ScanChannels.none.resolve r.channel) := by
  unfold bootPairing
  cases hr : storedRecord p with
  | none =>
    have hload := PairingClient.loadStoredPairing_none
      (c := PairingClient.new transport p deviceId) hr
    simp [hload.1]
  | some r =>
    have hload := PairingClient.loadStoredPairing_some
      (c := PairingClient.new transport p deviceId) hr
    simp [hload]
    rfl

theorem storedRecord_of_mac {p : Preferences} {mac : MacAddress} (hmac : mac.isZero = false)
    (hread : p.getBytes PREF_KEY_PAIRED_MAC MacAddress.ADDR_LEN = mac.addr) :
    storedRecord p = if p.getUInt8 PREF_KEY_PAIRED_FLAG 0 = 1 then
      some ⟨mac, p.getUInt8 PREF_KEY_PAIRED_CHANNEL 0⟩ else none := by
  split
  · rename_i hflag
    exact storedRecord_eq_some.mpr ⟨hflag, hread, hmac, rfl⟩
  · rename_i hflag
    exact storedRecord_unset hflag

theorem storedRecord_without_mac {p : Preferences} (h : p.entry PREF_KEY_PAIRED_MAC = none) :
    storedRecord p = none := by
  have hread : p.getBytes PREF_KEY_PAIRED_MAC MacAddress.ADDR_LEN = [] := by
    simp [Preferences.getBytes, h]
  rw [storedRecord, hread]
  exact if_neg (fun h => absurd h.2.1 (by decide))

/-- What a boot finds after each write of a pairing. -/
theorem stored_prefixes (p : Preferences) {mac : MacAddress} (hmac : mac.isZero = false)
    (channel : UInt8) :
    let macPut := p.putBytes PREF_KEY_PAIRED_MAC mac.addr
    let channelPut := macPut.putUInt8 PREF_KEY_PAIRED_CHANNEL channel
    storedRecord macPut = (if p.getUInt8 PREF_KEY_PAIRED_FLAG 0 = 1 then
        some ⟨mac, p.getUInt8 PREF_KEY_PAIRED_CHANNEL 0⟩ else none) ∧
      storedRecord channelPut = (if p.getUInt8 PREF_KEY_PAIRED_FLAG 0 = 1 then
        some ⟨mac, channel⟩ else none) ∧
      storedRecord (channelPut.putUInt8 PREF_KEY_PAIRED_FLAG 1) = some ⟨mac, channel⟩ := by
  intro macPut channelPut
  have hflagMac : PREF_KEY_PAIRED_FLAG ≠ PREF_KEY_PAIRED_MAC := by decide
  have hflagChannel : PREF_KEY_PAIRED_FLAG ≠ PREF_KEY_PAIRED_CHANNEL := by decide
  have hchannelMac : PREF_KEY_PAIRED_CHANNEL ≠ PREF_KEY_PAIRED_MAC := by decide
  have hread : macPut.getBytes PREF_KEY_PAIRED_MAC MacAddress.ADDR_LEN = mac.addr :=
    Preferences.getBytes_putBytes p _ (Nat.le_of_eq mac.addr_length)
  have hread' : channelPut.getBytes PREF_KEY_PAIRED_MAC MacAddress.ADDR_LEN = mac.addr :=
    (Preferences.getBytes_putUInt8 hchannelMac.symm _ _).trans hread
  refine ⟨?_, ?_, ?_⟩
  · rw [storedRecord_of_mac hmac hread, Preferences.getUInt8_putBytes hflagMac,
      Preferences.getUInt8_putBytes hchannelMac]
  · rw [storedRecord_of_mac hmac hread', Preferences.getUInt8_putUInt8, if_neg hflagChannel,
      Preferences.getUInt8_putBytes hflagMac, Preferences.getUInt8_putUInt8, if_pos rfl]
  · obtain ⟨hflag, hall, hchannel⟩ := written_record p mac channel
    exact storedRecord_eq_some.mpr ⟨hflag, hall, hmac, hchannel⟩

/-- The stored address is the new one, or the stored channel is read as the new one. -/
def SharesRecord (p : Preferences) (mac : MacAddress) (channel : UInt8) : Prop :=
  p.getUInt8 PREF_KEY_PAIRED_FLAG 0 = 1 →
    p.getBytes PREF_KEY_PAIRED_MAC MacAddress.ADDR_LEN = mac.addr ∨
      ScanChannels.none.resolve (p.getUInt8 PREF_KEY_PAIRED_CHANNEL 0) = channel

theorem clearPairing_atomic (transport : Transport σ) (deviceId : UInt8) (p : Preferences) :
    CrashAtomic transport deviceId p clearPairingOps := by
  intro done hdone
  have hremoved : ∀ ops : List PrefOp, ops ∈ [[],
      [.remove PREF_KEY_PAIRED_CHANNEL],
      [.remove PREF_KEY_PAIRED_CHANNEL, .remove PREF_KEY_PAIRED_FLAG]] →
      bootPairing transport deviceId
        ((PrefOp.remove PREF_KEY_PAIRED_MAC :: ops).foldl PrefOp.apply p) = none := by
    intro ops hops
    rw [bootPairing_eq, storedRecord_without_mac, Option.map_none]
    simp only [List.mem_cons, List.not_mem_nil, or_false] at hops
    rcases hops with rfl | rfl | rfl <;> simp [PrefOp.apply]
  simp only [clearPairingOps, List.inits, List.map_cons, List.map_nil, List.mem_cons,
    List.not_mem_nil, or_false] at hdone
  rcases hdone with rfl | rfl | rfl | rfl
  · exact Or.inl rfl
  · exact Or.inr ((hremoved _ (by simp)).trans (hremoved _ (by simp)).symm)
  · exact Or.inr ((hremoved _ (by simp)).trans (hremoved _ (by simp)).symm)
  · exact Or.inr rfl

/-- The writes of a pairing and of its removal are crash-atomic together exactly when the
old record shares a half with the new one, or is not flagged. -/
theorem crash_atomic_iff (transport : Transport σ) (deviceId : UInt8) (p : Preferences)
    (mac : MacAddress) (channel : UInt8) (hmac : mac.isZero = false)
    (hchannel : UsableChannel channel) :
    (CrashAtomic transport deviceId p (storePairingOps mac channel) ∧
      CrashAtomic transport deviceId p clearPairingOps) ↔ SharesRecord p mac channel := by
  obtain ⟨hmacPut, hchannelPut, hall⟩ := stored_prefixes p hmac channel
  have hresolve : ScanChannels.none.resolve channel = channel :=
    ScanChannels.resolve_accepted ⟨hchannel, fun h => nomatch h⟩
  have hnew : bootPairing transport deviceId
      ((storePairingOps mac channel).foldl PrefOp.apply p) = some (mac, channel) := by
    rw [bootPairing_eq]
    exact (congrArg _ hall).trans (by rw [Option.map_some, hresolve])
  have hmacBoot : bootPairing transport deviceId
      (p.putBytes PREF_KEY_PAIRED_MAC mac.addr) = if p.getUInt8 PREF_KEY_PAIRED_FLAG 0 = 1 then
        some (mac, ScanChannels.none.resolve (p.getUInt8 PREF_KEY_PAIRED_CHANNEL 0)) else none := by
    rw [bootPairing_eq, hmacPut]
    split <;> rfl
  have hchannelBoot : bootPairing transport deviceId
      ((p.putBytes PREF_KEY_PAIRED_MAC mac.addr).putUInt8 PREF_KEY_PAIRED_CHANNEL channel) =
        if p.getUInt8 PREF_KEY_PAIRED_FLAG 0 = 1 then some (mac, channel) else none := by
    rw [bootPairing_eq, hchannelPut]
    split
    · rw [Option.map_some, hresolve]
    · rfl
  constructor
  · intro hatomic hflag
    have hmid := hatomic.1 [.putBytes PREF_KEY_PAIRED_MAC mac.addr] (by simp [storePairingOps])
    rw [hnew, List.foldl_cons, List.foldl_nil, PrefOp.apply, hmacBoot, if_pos hflag] at hmid
    rcases hmid with hold | hwritten
    · left
      rw [bootPairing_eq] at hold
      obtain ⟨r, hr, hpair⟩ := Option.map_eq_some_iff.mp hold.symm
      rw [(storedRecord_eq_some.mp hr).2.1, (Prod.mk.inj hpair).1]
    · right
      exact (Prod.mk.inj (Option.some.inj hwritten)).2
  · intro hshares
    refine ⟨?_, clearPairing_atomic transport deviceId p⟩
    intro done hdone
    rw [hnew]
    simp only [storePairingOps, List.inits, List.map_cons, List.map_nil, List.mem_cons,
      List.not_mem_nil, or_false] at hdone
    by_cases hflag : p.getUInt8 PREF_KEY_PAIRED_FLAG 0 = 1
    · rcases hdone with rfl | rfl | rfl | rfl
      · exact Or.inl rfl
      · -- the new address beside the old channel: one of the two was the old record's too
        rw [List.foldl_cons, List.foldl_nil, PrefOp.apply, hmacBoot, if_pos hflag]
        rcases hshares hflag with hread | hchan
        · left
          rw [bootPairing_eq, storedRecord_of_mac hmac hread, if_pos hflag, Option.map_some]
        · right
          rw [hchan]
      · exact Or.inr (hchannelBoot.trans (if_pos hflag))
      · exact Or.inr hnew
    · -- nothing is read before the flag is there
      have hnone : bootPairing transport deviceId p = none := by
        rw [bootPairing_eq, storedRecord_unset hflag, Option.map_none]
      rw [hnone]
      rcases hdone with rfl | rfl | rfl | rfl
      · exact Or.inl hnone
      · exact Or.inl (hmacBoot.trans (if_neg hflag))
      · exact Or.inl (hchannelBoot.trans (if_neg hflag))
      · exact Or.inr hnew

end Crash

section Example

/-- The store of a client paired with `coordMac` on channel 6. -/
def pairedPrefs : Preferences := (storePairingOps coordMac 6).foldl PrefOp.apply .empty

def bootTransport : Transport (EspNowTransport SimRadio) := simTransport clientMac 1

theorem moved_coordinator_crash_atomic :
    CrashAtomic bootTransport 7 pairedPrefs (storePairingOps coordMac 11) ∧
      CrashAtomic bootTransport 7 pairedPrefs clearPairingOps :=
  (crash_atomic_iff bootTransport 7 pairedPrefs coordMac 11 (by decide) (by decide)).mpr
    fun _ => Or.inl (by decide)

def otherCoordMac : MacAddress := ⟨[0x02, 0, 0, 0, 0, 0x02], rfl⟩

/-- The next boot after a power loss in mid-write finds the new coordinator on the channel
of the old one. -/
theorem torn_pairing_loaded :
    bootPairing bootTransport 7
        (pairedPrefs.putBytes PREF_KEY_PAIRED_MAC otherCoordMac.addr) =
      some (otherCoordMac, 6) ∧
    ¬CrashAtomic bootTransport 7 pairedPrefs (storePairingOps otherCoordMac 11) := by
  constructor
  · decide
  · intro hatomic
    have hmid := hatomic [.putBytes PREF_KEY_PAIRED_MAC otherCoordMac.addr]
      (by simp [storePairingOps])
    revert hmid
    decide

end Example
end UngulaNet.Pairing
