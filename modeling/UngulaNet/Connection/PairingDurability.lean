import UngulaNet.Connection.EspNowSessionProvider

/-!
# Pairing across a reboot

The store has three keys: the coordinator's address, the channel and the flag that makes
the record valid. What ties them to the memory of a paired client is `OnRecord`. Its
channel is the stored one, or what a load makes of the stored one when that is not in
the scan list; the fallback is not written back, and need not be.
-/

namespace UngulaNet.Connection
open Comm Pairing Runs
set_option autoImplicit false

/-- The operations on a session provider and on the pairing client it shares. -/
inductive ProviderOp where
  | client (op : ClientOp)
  | onReconnectAck (ack : ReconnectAck)
  | startDiscovery
  | loopDiscovery (nowMs : UInt32)
  | sendProbe
  | startReacquisition
  | loopReacquisition (nowMs : UInt32)
  | resetReacquisition

section Record
variable {σ : Type}

def storedChannel (p : Preferences) : UInt8 := p.getUInt8 PREF_KEY_PAIRED_CHANNEL 0

def storedFlag (p : Preferences) : UInt8 := p.getUInt8 PREF_KEY_PAIRED_FLAG 0

/-- The store holds the client's coordinator, and a channel that a load with the
client's scan list turns into the client's channel or already is it. -/
structure OnRecord (c : PairingClient σ) : Prop where
  flag : storedFlag c.prefs = 1
  mac : c.prefs.getBytes PREF_KEY_PAIRED_MAC MacAddress.ADDR_LEN = c.coordinatorMac.addr
  channel : c.pairedChannel = storedChannel c.prefs ∨
    c.pairedChannel = c.scanChannels.resolve (storedChannel c.prefs)

def PairedOnRecord (c : PairingClient σ) : Prop := c.state = .PAIRED → OnRecord c

theorem pairedOnRecord_of_state {c : PairingClient σ} (h : c.state ≠ .PAIRED) :
    PairedOnRecord c := fun hp => absurd hp h

theorem PairedOnRecord.of_samePairing {c c' : PairingClient σ} (h : PairedOnRecord c)
    (hsame : PairingClient.SamePairing c c') (hlist : c'.scanChannels = c.scanChannels) :
    PairedOnRecord c' := by
  intro hp
  obtain ⟨hflag, hmac, hch⟩ := h (hsame.state.symm.trans hp)
  refine ⟨?_, ?_, ?_⟩
  · rw [hsame.prefs]
    exact hflag
  · rw [hsame.prefs, hsame.coordinatorMac]
    exact hmac
  · rw [hsame.prefs, hsame.pairedChannel, hlist]
    exact hch

theorem OnRecord.storedRecord {c : PairingClient σ} (h : OnRecord c)
    (hmac : c.coordinatorMac.isZero = false) :
    storedRecord c.prefs = some ⟨c.coordinatorMac, storedChannel c.prefs⟩ :=
  storedRecord_eq_some.mpr ⟨h.flag, h.mac, hmac, rfl⟩

theorem storedRecord_none {p : Preferences} (h : storedFlag p = 0) : storedRecord p = none :=
  storedRecord_unset fun hset => absurd (h.symm.trans hset) (by decide)

theorem putChannel_fields (p : Preferences) (ch : UInt8) :
    storedFlag (p.putUInt8 PREF_KEY_PAIRED_CHANNEL ch) = storedFlag p ∧
      (p.putUInt8 PREF_KEY_PAIRED_CHANNEL ch).getBytes PREF_KEY_PAIRED_MAC MacAddress.ADDR_LEN =
        p.getBytes PREF_KEY_PAIRED_MAC MacAddress.ADDR_LEN ∧
      storedChannel (p.putUInt8 PREF_KEY_PAIRED_CHANNEL ch) = ch := by
  refine ⟨?_, ?_, ?_⟩
  · exact (Preferences.getUInt8_putUInt8 _ _ _ _ _).trans (if_neg (by decide))
  · exact Preferences.getBytes_putUInt8 (by decide) _ _
  · exact (Preferences.getUInt8_putUInt8 _ _ _ _ _).trans (if_pos rfl)

theorem setPairedChannel_pairedOnRecord {c : PairingClient σ} (h : PairedOnRecord c)
    (ch : UInt8) : PairedOnRecord (c.setPairedChannel ch) := by
  rcases c.setPairedChannel_cases ch with ⟨_, he⟩ | ⟨_, _, he⟩
  · rw [he]
    exact h
  · rw [he]
    intro hp
    obtain ⟨hflag, hmac, _⟩ := h hp
    obtain ⟨hflag', hmac', hch⟩ := putChannel_fields c.prefs ch
    exact ⟨hflag'.trans hflag, hmac'.trans hmac, Or.inl hch.symm⟩

variable [ITransport σ]

theorem handleConfirm_onRecord (c : PairingClient σ) (src : MacAddress) {f : PairingConfirm}
    (h : f.accepted ≠ 0) : OnRecord (c.handleConfirm src f) := by
  obtain ⟨_, hmac, hch, _, hprefs⟩ := PairingClient.handleConfirm_accepted c src h
  obtain ⟨hflag, hread, hchannel⟩ := written_record c.prefs src f.channel
  rw [← hprefs] at hflag hread hchannel
  exact ⟨hflag, hread.trans (congrArg MacAddress.addr hmac.symm), Or.inl (hch.trans hchannel.symm)⟩

theorem loadStoredPairing_pairedOnRecord {c : PairingClient σ} (h : PairedOnRecord c) :
    PairedOnRecord c.loadStoredPairing.2 := by
  cases hr : storedRecord c.prefs with
  | none =>
    rw [(PairingClient.loadStoredPairing_none hr).2]
    exact h
  | some r =>
    obtain ⟨hflag, hmac, _, hch⟩ := storedRecord_eq_some.mp hr
    rw [PairingClient.loadStoredPairing_some hr]
    exact fun _ => ⟨hflag, hmac, Or.inr (congrArg c.scanChannels.resolve hch.symm)⟩

theorem handleReceived_pairedOnRecord {c : PairingClient σ} (h : PairedOnRecord c)
    (src : MacAddress) (data : List UInt8) (nowMs : UInt32) :
    PairedOnRecord (c.handleReceived src data nowMs).2 := by
  rcases c.handleReceived_cases src data nowMs with ⟨he, _⟩ | ⟨_, _, he⟩ | ⟨_, _, he⟩
  · rw [he]
    exact h
  · rw [he]
    exact pairedOnRecord_of_state (by simp)
  · rw [he]
    by_cases ha : (PairingConfirm.ofBytes data).accepted = 0
    · rw [PairingClient.handleConfirm_rejected c src ha]
      exact pairedOnRecord_of_state (by simp [PairingClient.startScanning])
    · exact fun _ => handleConfirm_onRecord c src ha

theorem loop_pairedOnRecord {c : PairingClient σ} (h : PairedOnRecord c) (nowMs : UInt32) :
    PairedOnRecord (c.loop nowMs) := by
  rcases c.loop_cases nowMs with hsame | ⟨_, _, he⟩
  · exact h.of_samePairing hsame (c.loop_scanChannels nowMs)
  · rw [he]
    exact pairedOnRecord_of_state (by simp [PairingClient.startScanning])

theorem client_pairedOnRecord {c : PairingClient σ} (h : PairedOnRecord c) {op : ClientOp}
    (hop : ∀ s, op ≠ .setScanChannels s) : PairedOnRecord (op.apply c) := by
  cases op with
  | loadStoredPairing => exact loadStoredPairing_pairedOnRecord h
  | setScanChannels s => exact absurd rfl (hop s)
  | startScanning =>
    exact pairedOnRecord_of_state (by simp [ClientOp.apply, PairingClient.startScanning])
  | stopScanning =>
    rcases c.stopScanning_cases with ⟨_, he⟩ | ⟨_, he⟩
    · rw [ClientOp.apply, he]
      exact pairedOnRecord_of_state (by simp)
    · rw [ClientOp.apply, he]
      exact h
  | loop nowMs => exact loop_pairedOnRecord h nowMs
  | handleReceived src data nowMs => exact handleReceived_pairedOnRecord h src data nowMs
  | onPaired => exact h.of_samePairing ⟨rfl, rfl, rfl, rfl⟩ rfl
  | setPairedChannel ch => exact setPairedChannel_pairedOnRecord h ch
  | clearPairing =>
    exact pairedOnRecord_of_state (by simp [ClientOp.apply, PairingClient.clearPairing])

def Completes (c : PairingClient σ) : ClientOp → Prop
  | .handleReceived _ data _ => c.state = .RESPONDING ∧ PairingClient.IsConfirm data ∧
      (PairingConfirm.ofBytes data).accepted ≠ 0
  | _ => False

omit [ITransport σ] in
theorem setPairedChannel_storedFlag (c : PairingClient σ) (ch : UInt8) :
    storedFlag (c.setPairedChannel ch).prefs = storedFlag c.prefs := by
  rcases c.setPairedChannel_cases ch with ⟨_, he⟩ | ⟨_, _, he⟩
  · rw [he]
  · rw [he]
    exact (putChannel_fields c.prefs ch).1

omit [ITransport σ] in
theorem clearPairing_storedFlag (c : PairingClient σ) : storedFlag c.clearPairing.prefs = 0 := by
  simp [PairingClient.clearPairing, storedFlag, Preferences.getUInt8]

theorem client_storedFlag {c : PairingClient σ} (h : storedFlag c.prefs = 0) {op : ClientOp}
    (hop : ¬ Completes c op) : storedFlag (op.apply c).prefs = 0 := by
  cases op with
  | loadStoredPairing =>
    rw [ClientOp.apply, (PairingClient.loadStoredPairing_none (storedRecord_none h)).2]
    exact h
  | setScanChannels s => exact h
  | startScanning => exact h
  | stopScanning =>
    rcases c.stopScanning_cases with ⟨_, he⟩ | ⟨_, he⟩
    · rw [ClientOp.apply, he]
      exact h
    · rw [ClientOp.apply, he]
      exact h
  | loop nowMs =>
    rcases c.loop_cases nowMs with hsame | ⟨_, _, he⟩
    · rw [ClientOp.apply, hsame.prefs]
      exact h
    · rw [ClientOp.apply, he]
      exact h
  | handleReceived src data nowMs =>
    rcases c.handleReceived_cases src data nowMs with ⟨he, _⟩ | ⟨_, _, he⟩ | ⟨hs, hf, he⟩
    · rw [ClientOp.apply, he]
      exact h
    · rw [ClientOp.apply, he]
      exact h
    · have ha : (PairingConfirm.ofBytes data).accepted = 0 := by
        by_contra ha
        exact hop ⟨hs, hf, ha⟩
      rw [ClientOp.apply, he, PairingClient.handleConfirm_rejected c src ha]
      exact h
  | onPaired => exact h
  | setPairedChannel ch => exact (setPairedChannel_storedFlag c ch).trans h
  | clearPairing => exact clearPairing_storedFlag c

end Record

section Provider
variable {σ : Type} [ITransport σ]

def ProviderOp.apply (s : EspNowSessionProvider σ) : ProviderOp → EspNowSessionProvider σ
  | .client op => { s with pairing := op.apply s.pairing }
  | .onReconnectAck a => (s.onReconnectAck a).2
  | .startDiscovery => s.startDiscovery
  | .loopDiscovery nowMs => s.loopDiscovery nowMs
  | .sendProbe => s.sendProbe
  | .startReacquisition => s.startReacquisition
  | .loopReacquisition nowMs => (s.loopReacquisition nowMs).2
  | .resetReacquisition => s.resetReacquisition

def KeepsList : ProviderOp → Prop
  | .client (.setScanChannels _) => False
  | _ => True

def ProviderCompletes (s : EspNowSessionProvider σ) : ProviderOp → Prop
  | .client op => Completes s.pairing op
  | _ => False

instance : ∀ op, Decidable (KeepsList op)
  | .client (.setScanChannels _) => isFalse (fun h => h)
  | .client .loadStoredPairing | .client .startScanning | .client .stopScanning
  | .client (.loop _) | .client (.handleReceived _ _ _) | .client .onPaired
  | .client (.setPairedChannel _) | .client .clearPairing | .onReconnectAck _
  | .startDiscovery | .loopDiscovery _ | .sendProbe | .startReacquisition
  | .loopReacquisition _ | .resetReacquisition => isTrue trivial

/-- A new client with its scan list, on whatever the store holds. -/
def bootedClient (transport : Transport σ) (prefs : Preferences) (deviceId : UInt8)
    (scan : ScanChannels) : PairingClient σ :=
  (PairingClient.new transport prefs deviceId).setScanChannels scan

def runFromBoot (transport : Transport σ) (prefs : Preferences) (deviceId : UInt8)
    (scan : ScanChannels) (probeCb : Option (MacAddress → Transport σ → Transport σ))
    (ops : List ProviderOp) : EspNowSessionProvider σ :=
  run ProviderOp.apply (.new (bootedClient transport prefs deviceId scan) probeCb) ops

/-- The client's pairing before and after an operation that only uses the radio. -/
def SameRecord (s s' : EspNowSessionProvider σ) : Prop :=
  PairingClient.SamePairing s.pairing s'.pairing ∧
    s'.pairing.scanChannels = s.pairing.scanChannels

theorem sendProbe_sameRecord (s : EspNowSessionProvider σ) : SameRecord s s.sendProbe := by
  obtain ⟨t, he⟩ := s.sendProbe_eq
  rw [he]
  exact ⟨⟨rfl, rfl, rfl, rfl⟩, rfl⟩

theorem loopReacquisition_sameRecord (s : EspNowSessionProvider σ) (nowMs : UInt32) :
    SameRecord s (s.loopReacquisition nowMs).2 := by
  obtain ⟨t, i, he⟩ := s.loopReacquisition_eq nowMs
  rw [he]
  exact ⟨⟨rfl, rfl, rfl, rfl⟩, rfl⟩

/-- For the record, an accepted ack is a `setPairedChannel`. -/
theorem onReconnectAck_cases (s : EspNowSessionProvider σ) (ack : ReconnectAck) :
    (s.onReconnectAck ack).2 = s ∨
      SameRecord { s with pairing := s.pairing.setPairedChannel ack.channel }
        (s.onReconnectAck ack).2 := by
  cases hr : s.reacquiring with
  | false => exact Or.inl (by rw [EspNowSessionProvider.onReconnectAck_idle hr])
  | true =>
    rw [EspNowSessionProvider.onReconnectAck_accepts hr]
    exact Or.inr ⟨⟨rfl, rfl, rfl, rfl⟩, rfl⟩

/-- What the run keeps: the scan list, and the record of a paired client. -/
structure RecordInv (scan : ScanChannels) (s : EspNowSessionProvider σ) : Prop where
  scan : s.pairing.scanChannels = scan
  record : PairedOnRecord s.pairing

omit [ITransport σ] in
theorem SameRecord.recordInv {scan : ScanChannels} {s s' : EspNowSessionProvider σ}
    (h : SameRecord s s') (hs : RecordInv scan s) : RecordInv scan s' :=
  ⟨h.2.trans hs.scan, hs.record.of_samePairing h.1 h.2⟩

theorem client_recordInv {scan : ScanChannels} {s : EspNowSessionProvider σ}
    (h : RecordInv scan s) {op : ClientOp} (hop : ∀ l, op ≠ .setScanChannels l) :
    RecordInv scan { s with pairing := op.apply s.pairing } :=
  ⟨(ClientOp.apply_scanChannels s.pairing hop).trans h.scan, client_pairedOnRecord h.record hop⟩

theorem apply_recordInv {scan : ScanChannels} {s : EspNowSessionProvider σ}
    (h : RecordInv scan s) {op : ProviderOp} (hop : KeepsList op) :
    RecordInv scan (op.apply s) := by
  cases op with
  | client op =>
    refine client_recordInv h ?_
    rintro l rfl
    exact hop
  | onReconnectAck a =>
    rcases onReconnectAck_cases s a with he | hsame
    · rw [ProviderOp.apply, he]
      exact h
    · refine hsame.recordInv ⟨?_, setPairedChannel_pairedOnRecord h.record a.channel⟩
      exact (s.pairing.setPairedChannel_scanChannels a.channel).trans h.scan
  | startDiscovery =>
    exact client_recordInv h (show ∀ l, ClientOp.startScanning ≠ .setScanChannels l by simp)
  | loopDiscovery nowMs =>
    exact client_recordInv h (show ∀ l, ClientOp.loop nowMs ≠ .setScanChannels l by simp)
  | sendProbe => exact (sendProbe_sameRecord s).recordInv h
  | startReacquisition => exact ⟨h.scan, h.record⟩
  | loopReacquisition nowMs => exact (loopReacquisition_sameRecord s nowMs).recordInv h
  | resetReacquisition => exact ⟨h.scan, h.record⟩

theorem apply_storedFlag {s : EspNowSessionProvider σ} (h : storedFlag s.pairing.prefs = 0)
    {op : ProviderOp} (hop : ¬ ProviderCompletes s op) :
    storedFlag (op.apply s).pairing.prefs = 0 := by
  cases op with
  | client op => exact client_storedFlag h hop
  | onReconnectAck a =>
    rcases onReconnectAck_cases s a with he | ⟨hsame, _⟩
    · rw [ProviderOp.apply, he]
      exact h
    · rw [ProviderOp.apply, hsame.prefs]
      exact (setPairedChannel_storedFlag s.pairing a.channel).trans h
  | startDiscovery => exact h
  | loopDiscovery nowMs =>
    exact client_storedFlag h (show ¬ Completes s.pairing (.loop nowMs) from fun hc => hc)
  | sendProbe =>
    rw [ProviderOp.apply, (sendProbe_sameRecord s).1.prefs]
    exact h
  | startReacquisition => exact h
  | loopReacquisition nowMs =>
    rw [ProviderOp.apply, (loopReacquisition_sameRecord s nowMs).1.prefs]
    exact h
  | resetReacquisition => exact h

/-- A paired client on a channel that a load accepts is what the next boot loads. -/
theorem RecordInv.reload {scan : ScanChannels} {s : EspNowSessionProvider σ}
    (h : RecordInv scan s) (hp : s.pairing.isPaired = true)
    (hmac : s.pairing.coordinatorMac.isZero = false)
    (hch : UsableChannel s.pairing.pairedChannel)
    (hmem : scan.configured = true → s.pairing.pairedChannel ∈ scan.entries)
    (transport : Transport σ) (deviceId : UInt8) :
    (bootedClient transport s.pairing.prefs deviceId scan).loadStoredPairing.1 =
      { coordinatorMac := s.pairing.coordinatorMac, channel := s.pairing.pairedChannel,
        valid := true } := by
  have hrecord := h.record (of_decide_eq_true hp)
  have hchannel : scan.resolve (storedChannel s.pairing.prefs) = s.pairing.pairedChannel := by
    rcases hrecord.channel with hsame | hresolved
    · rw [← hsame, ScanChannels.resolve_accepted ⟨hch, hmem⟩]
    · rw [hresolved, h.scan]
  have hstored : storedRecord (bootedClient transport s.pairing.prefs deviceId scan).prefs =
      some ⟨s.pairing.coordinatorMac, storedChannel s.pairing.prefs⟩ :=
    hrecord.storedRecord hmac
  rw [PairingClient.loadStoredPairing_some hstored, ← hchannel]
  rfl

theorem runFromBoot_recordInv (transport : Transport σ) (prefs : Preferences)
    (deviceId : UInt8) (scan : ScanChannels)
    (probeCb : Option (MacAddress → Transport σ → Transport σ)) {ops : List ProviderOp}
    (hops : ∀ op ∈ ops, KeepsList op) :
    RecordInv scan (runFromBoot transport prefs deviceId scan probeCb ops) := by
  have hboot : RecordInv scan
      (EspNowSessionProvider.new (bootedClient transport prefs deviceId scan) probeCb) := by
    refine ⟨rfl, pairedOnRecord_of_state ?_⟩
    simp [EspNowSessionProvider.new, bootedClient, PairingClient.setScanChannels,
      PairingClient.new]
  exact (eachState_of_invariant (RecordInv scan) hboot (eachStep_of_forall hops _)
    (fun _ _ h hop => apply_recordInv h hop)).last

/-- A `clearPairing` is forgotten only by an accepting confirm. -/
theorem runFromBoot_storedFlag (transport : Transport σ) (prefs : Preferences)
    (deviceId : UInt8) (scan : ScanChannels)
    (probeCb : Option (MacAddress → Transport σ → Transport σ)) {pre post : List ProviderOp}
    (hpost : EachStep ProviderOp.apply (fun s op => ¬ ProviderCompletes s op)
      (runFromBoot transport prefs deviceId scan probeCb (pre ++ [.client .clearPairing])) post) :
    storedFlag (runFromBoot transport prefs deviceId scan probeCb
      (pre ++ .client .clearPairing :: post)).pairing.prefs = 0 := by
  have hcleared : storedFlag (runFromBoot transport prefs deviceId scan probeCb
      (pre ++ [.client .clearPairing])).pairing.prefs = 0 := by
    rw [runFromBoot, run_append]
    exact clearPairing_storedFlag _
  have hkept := (eachState_of_invariant
    (fun s : EspNowSessionProvider σ => storedFlag s.pairing.prefs = 0) hcleared hpost
    (fun _ _ h hop => apply_storedFlag h hop)).last
  rwa [runFromBoot, ← run_append, List.append_assoc] at hkept

theorem load_invalid {prefs : Preferences} (h : storedFlag prefs = 0) (transport : Transport σ)
    (deviceId : UInt8) (scan : ScanChannels) :
    (bootedClient transport prefs deviceId scan).loadStoredPairing.1.valid = false :=
  (PairingClient.loadStoredPairing_none
    (show storedRecord (bootedClient transport prefs deviceId scan).prefs = none from
      storedRecord_none h)).1

/-- After any run from boot, a paired client with a non-zero coordinator and a channel
that a load accepts is loaded again by the next boot, with the same coordinator and the
same channel; and from a `clearPairing` until a confirm is accepted, the next boot finds
no pairing. -/
theorem pairing_survives_reboot (transport : Transport σ) (prefs : Preferences)
    (deviceId : UInt8) (scan : ScanChannels)
    (probeCb : Option (MacAddress → Transport σ → Transport σ)) :
    (∀ ops, (∀ op ∈ ops, KeepsList op) →
      ∀ client, client = (runFromBoot transport prefs deviceId scan probeCb ops).pairing →
      client.isPaired = true → client.coordinatorMac.isZero = false →
      UsableChannel client.pairedChannel →
      (scan.configured = true → client.pairedChannel ∈ scan.entries) →
      ∀ (transport' : Transport σ) (deviceId' : UInt8),
        (bootedClient transport' client.prefs deviceId' scan).loadStoredPairing.1 =
          { coordinatorMac := client.coordinatorMac, channel := client.pairedChannel,
            valid := true }) ∧
    (∀ pre post, EachStep ProviderOp.apply (fun s op => ¬ ProviderCompletes s op)
        (runFromBoot transport prefs deviceId scan probeCb (pre ++ [.client .clearPairing])) post →
      ∀ (transport' : Transport σ) (deviceId' : UInt8),
        (bootedClient transport' (runFromBoot transport prefs deviceId scan probeCb
          (pre ++ .client .clearPairing :: post)).pairing.prefs deviceId'
          scan).loadStoredPairing.1.valid = false) := by
  constructor
  · intro ops hops client hclient hp hmac hch hmem
    subst hclient
    exact (runFromBoot_recordInv transport prefs deviceId scan probeCb hops).reload hp hmac hch hmem
  · intro pre post hpost transport' deviceId'
    exact load_invalid (runFromBoot_storedFlag transport prefs deviceId scan probeCb hpost)
      transport' deviceId' scan

end Provider

section Example

/-- Discovery, pairing on channel 11, and an ack that moves the pairing to channel 6. -/
def pairThenMove : List ProviderOp :=
  [.startDiscovery, .client (.handleReceived coordMac (PairingBeacon.init 11).toBytes 1000),
    .client (.handleReceived coordMac (PairingConfirm.init true 11).toBytes 1010),
    .startReacquisition, .loopReacquisition 9000, .onReconnectAck (.init 6)]

def movedProvider : EspNowSessionProvider (EspNowTransport SimRadio) :=
  runFromBoot (simTransport clientMac 1) Preferences.empty 7 sparseScan none pairThenMove

/-- After the pairing is cleared the client scans again, asks, and is turned away; the
provider probes without a pairing. -/
def turnedAway : List ProviderOp :=
  [.client .startScanning, .client (.handleReceived coordMac (PairingBeacon.init 11).toBytes 9100),
    .client (.handleReceived coordMac (PairingConfirm.init false 11).toBytes 9110),
    .startReacquisition, .loopReacquisition 9600, .onReconnectAck (.init 11)]

theorem pairing_survives_reboot_moved :
    (bootedClient (simTransport clientMac 1) movedProvider.pairing.prefs 7
        sparseScan).loadStoredPairing.1 =
      { coordinatorMac := movedProvider.pairing.coordinatorMac,
        channel := movedProvider.pairing.pairedChannel, valid := true } ∧
    (bootedClient (simTransport clientMac 1)
        (runFromBoot (simTransport clientMac 1) Preferences.empty 7 sparseScan none
          (pairThenMove ++ .client .clearPairing :: turnedAway)).pairing.prefs 7
        sparseScan).loadStoredPairing.1.valid = false :=
  ⟨(pairing_survives_reboot (simTransport clientMac 1) Preferences.empty 7 sparseScan none).1
      pairThenMove (by decide) movedProvider.pairing (by rw [movedProvider])
      (by decide) (by decide) (by decide) (by decide) _ 7,
    (pairing_survives_reboot (simTransport clientMac 1) Preferences.empty 7 sparseScan none).2
      pairThenMove turnedAway
      ⟨id, fun h => absurd h.1 (by decide), fun h => h.2.2 rfl, id, id, id, trivial⟩ _ 7⟩

end Example
end UngulaNet.Connection
