import UngulaNet.Pairing.ClientChannel

/-!
# Loading a pairing is all or nothing

Whatever the store holds, `loadStoredPairing` either changes nothing or leaves the client
paired: with the stored address, and with one channel that the result, the client and the
radio agree on.
-/

namespace UngulaNet.Pairing
open Comm
set_option autoImplicit false

theorem ScanChannels.first_eq (s : ScanChannels) : s.first = s.entries.headD 1 := by
  cases he : s.entries with
  | nil => simp [first, configured, he]
  | cons ch rest => simp [first, configured, entry, he]

section Load
variable {σ : Type} [ITransport σ]

/-- A load that does not report a pairing has changed nothing. One that does leaves the
client paired with the stored, non-zero address, on one usable channel: the stored one if
that is accepted, the first of the scan list otherwise. The store is only read. -/
theorem load_all_or_nothing [ChannelFrame σ] [TunesValidChannels σ] (c : PairingClient σ)
    (hlist : c.scanChannels.Valid) :
    let result := c.loadStoredPairing.1
    let c' := c.loadStoredPairing.2
    let stored := c.prefs.getUInt8 PREF_KEY_PAIRED_CHANNEL 0
    c'.prefs = c.prefs ∧ (result.valid = false → c' = c) ∧
      (result.valid = true → c'.state = .PAIRED ∧
        c.prefs.getBytes PREF_KEY_PAIRED_MAC MacAddress.ADDR_LEN = c'.coordinatorMac.addr ∧
        c'.coordinatorMac.isZero = false ∧ result.coordinatorMac = c'.coordinatorMac ∧
        result.channel = c'.pairedChannel ∧ c'.transport.getChannel = c'.pairedChannel ∧
        UsableChannel c'.pairedChannel ∧
        (c.scanChannels.Accepts stored → c'.pairedChannel = stored) ∧
        (¬ c.scanChannels.Accepts stored →
          c'.pairedChannel = c.scanChannels.entries.headD 1)) := by
  intro result c' stored
  cases hr : storedRecord c.prefs with
  | none =>
    obtain ⟨hinvalid, hsame⟩ := PairingClient.loadStoredPairing_none hr
    refine ⟨congrArg PairingClient.prefs hsame, fun _ => hsame, ?_⟩
    intro hvalid
    exact absurd (hinvalid.symm.trans hvalid) (by decide)
  | some r =>
    obtain ⟨_, hread, hnonzero, hchannel⟩ := storedRecord_eq_some.mp hr
    have hload := PairingClient.loadStoredPairing_some hr
    have husable : UsableChannel (c.scanChannels.resolve r.channel) :=
      ScanChannels.resolve_usable hlist r.channel
    simp only [result, c', stored, hload, hchannel]
    refine ⟨trivial, fun h => absurd h (by decide), ?_⟩
    intro _
    refine ⟨trivial, hread, hnonzero, trivial, trivial, ?_, husable, ?_, ?_⟩
    · rw [Transport.getChannel_addPeer]
      exact Transport.getChannel_setChannel _ husable.1 husable.2
    · intro haccepts
      exact ScanChannels.resolve_accepted haccepts
    · intro hrefuses
      rw [← ScanChannels.first_eq]
      exact if_neg (fun h => hrefuses (channelValid_iff.mp h))

end Load

section Example

/-- A new client on the store of one that scanned another list. -/
def movedClient : PairingClient (EspNowTransport SimRadio) :=
  { freshClient with
    scanChannels := sparseScan,
    prefs := ((Preferences.empty.putBytes PREF_KEY_PAIRED_MAC coordMac.addr).putUInt8
      PREF_KEY_PAIRED_CHANNEL 4).putUInt8 PREF_KEY_PAIRED_FLAG 1 }

theorem load_falls_back :
    movedClient.loadStoredPairing.1.valid = true ∧
      movedClient.loadStoredPairing.2.pairedChannel = 1 := by
  have hvalid : movedClient.loadStoredPairing.1.valid = true := by decide
  obtain ⟨_, _, hload⟩ := load_all_or_nothing movedClient (by decide)
  obtain ⟨_, _, _, _, _, _, _, _, hfallback⟩ := hload hvalid
  exact ⟨hvalid, hfallback fun h => absurd (h.2 (by decide)) (by decide)⟩

end Example
end UngulaNet.Pairing
