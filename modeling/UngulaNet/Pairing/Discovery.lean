import UngulaNet.Pairing.CoordinatorOutput
import UngulaNet.Pairing.MacsUnique
import UngulaNet.Pairing.ScanOrder

/-!
# Discovery ends in a pairing

A scanning client and a coordinator in pairing mode as one system, in true time, with a
clock offset each. Whoever is on the channel hears what is said there, and answers at once.
If neither loop is ever more than 100 ms late, the scan does not get past the coordinator's
channel: at place `i` of the scan, the two are paired within `500 * (i + 1)` ms.
-/

namespace UngulaNet.Pairing
open Comm Comm.Transport Runs WrapClock
set_option autoImplicit false

namespace PairingClient
variable {τ : Type} [ITransport τ]

/-- The client after some frames from one sender. -/
def hearAll (x : PairingClient τ) (src : MacAddress) (nowMs : UInt32)
    (frames : List (List UInt8)) : PairingClient τ :=
  frames.foldl (fun x data => (x.handleReceived src data nowMs).2) x

@[simp] theorem hearAll_nil (x : PairingClient τ) (src : MacAddress) (nowMs : UInt32) :
    x.hearAll src nowMs [] = x := rfl

@[simp] theorem hearAll_single (x : PairingClient τ) (src : MacAddress) (nowMs : UInt32)
    (data : List UInt8) : x.hearAll src nowMs [data] = (x.handleReceived src data nowMs).2 := rfl

theorem hearAll_idle {x : PairingClient τ} (hscan : x.state ≠ .SCANNING)
    (hresp : x.state ≠ .RESPONDING) (src : MacAddress) (nowMs : UInt32)
    (frames : List (List UInt8)) : x.hearAll src nowMs frames = x := by
  unfold hearAll
  induction frames with
  | nil => rfl
  | cons data frames ih =>
    rw [List.foldl_cons]
    rcases x.handleReceived_cases src data nowMs with ⟨h, _⟩ | ⟨hs, _, _⟩ | ⟨hr, _, _⟩
    · rw [h]
      exact ih
    · exact absurd hs hscan
    · exact absurd hr hresp

end PairingClient

structure DiscoveryNet (σ τ : Type) where
  coordinator : PairingCoordinator σ
  client : PairingClient τ
  coordOffset : Nat
  clientOffset : Nat
  sampled : Nat
  looped : Nat

inductive DiscoveryEvent where
  | coordinatorLoop (time : Nat)
  | clientLoop (time : Nat)

section Net
variable {σ τ : Type} [ITransport σ] [ITransport τ]

namespace DiscoveryNet

/-- What follows when the coordinator has said something at true time `time`: a client on
its channel hears it and answers, the coordinator hears that, and its answer is heard too. -/
def exchange (coordAddr clientAddr : MacAddress) (net : DiscoveryNet σ τ)
    (frames : List Frame) (time : Nat) : DiscoveryNet σ τ :=
  let nowMs := stamp (time + net.clientOffset)
  let x := net.client.hearAll coordAddr nowMs (framesFor .broadcast frames)
  let c := net.coordinator.hearAll clientAddr
    (framesFor coordAddr (framesSince net.client.transport x.transport))
  let x := x.hearAll coordAddr nowMs
    (framesFor clientAddr (framesSince net.coordinator.transport c.transport))
  { net with coordinator := c, client := x }

def apply (coordAddr clientAddr : MacAddress) (net : DiscoveryNet σ τ) :
    DiscoveryEvent → DiscoveryNet σ τ
  | .coordinatorLoop time =>
    let c := net.coordinator.loop (stamp (time + net.coordOffset))
    let frames := framesSince net.coordinator.transport c.transport
    let net := { net with coordinator := c, sampled := time }
    if net.client.transport.getChannel = c.transport.getChannel then
      net.exchange coordAddr clientAddr frames time
    else net
  | .clientLoop time =>
    { net with
      client := net.client.loop (stamp (time + net.clientOffset)), looped := time }

/-- Events come in the order of true time, and neither loop is more than 100 ms late. -/
def OnTime (net : DiscoveryNet σ τ) (ev : DiscoveryEvent) : Prop :=
  match ev with
  | .coordinatorLoop time | .clientLoop time =>
    net.sampled ≤ time ∧ net.looped ≤ time ∧ time ≤ net.sampled + 100 ∧ time ≤ net.looped + 100

instance (net : DiscoveryNet σ τ) : ∀ ev, Decidable (net.OnTime ev)
  | .coordinatorLoop _ | .clientLoop _ => inferInstanceAs (Decidable (_ ∧ _))

/-- The two agree on a pairing, each has it on record, and the radio of the client is on the
channel. -/
structure Joined (coordAddr clientAddr : MacAddress) (ch : UInt8) (deviceId : UInt8)
    (net : DiscoveryNet σ τ) : Prop where
  state : net.client.state = .PAIRED
  mac : net.client.coordinatorMac = coordAddr
  channel : net.client.pairedChannel = ch
  radio : net.client.transport.getChannel = ch
  clientRecord : storedRecord net.client.prefs = some ⟨coordAddr, ch⟩
  entered : ∃ i, net.coordinator.table i = some (clientAddr, deviceId)
  coordinatorRecord : net.coordinator.Durable

variable {coordAddr clientAddr : MacAddress} {ch deviceId : UInt8} {net : DiscoveryNet σ τ}

/-- The coordinator is on its channel, has a place for the client, and its table is on
record; the client is not known to it under another device id. -/
structure Open (clientAddr : MacAddress) (ch deviceId : UInt8) (c : PairingCoordinator σ) :
    Prop where
  channel : c.transport.getChannel = ch
  place : (ClientTable.enter c.table clientAddr deviceId).isSome = true
  agrees : c.Agrees
  keepsId : c.KeepsIdOf clientAddr deviceId

theorem isBeacon_init (ch : UInt8) : PairingClient.IsBeacon (PairingBeacon.init ch).toBytes :=
  ⟨Nat.le_refl 8, rfl⟩

theorem isConfirm_init (accepted : Bool) (ch : UInt8) :
    PairingClient.IsConfirm (PairingConfirm.init accepted ch).toBytes := ⟨Nat.le_refl 8, rfl⟩

theorem isRequest_init (deviceId : UInt8) :
    PairingCoordinator.IsRequest (PairingRequest.init deviceId).toBytes := ⟨Nat.le_refl 8, rfl⟩

theorem request_confirmed [ChannelFrame σ] {c : PairingCoordinator σ}
    (h : Open clientAddr ch deviceId c) (hzero : clientAddr.isZero = false) :
    let c' := c.hearAll clientAddr [(PairingRequest.init deviceId).toBytes]
    framesFor clientAddr (framesSince c.transport c'.transport) =
        [(PairingConfirm.init true ch).toBytes] ∧
      (∃ i, c'.table i = some (clientAddr, deviceId)) ∧ c'.Durable := by
  have hreq := isRequest_init deviceId
  have hresponds := handleReceived_responds c clientAddr (PairingRequest.init deviceId).toBytes
  rw [inbound_request clientAddr hreq, PairingRequest.ofBytes_toBytes_init] at hresponds
  change Responds c _ (c.responder.step (.request clientAddr deviceId))
    (c.responder.answers (.request clientAddr deviceId)) at hresponds
  rw [PairingCoordinator.hearAll_single]
  refine ⟨?_, ?_, ?_⟩
  · have hframes := hresponds.frames
    simp only [Responder.answers, PairingCoordinator.responder, h.place, h.channel,
      List.map_cons, List.map_nil, Outbound.bytes] at hframes
    rw [hframes, framesFor_single]
  · have htable := congrArg Responder.table hresponds.responder
    obtain ⟨t, ht⟩ := Option.isSome_iff_exists.mp h.place
    have hentered := ht
    simp only [ClientTable.enter, Option.map_eq_some_iff] at hentered
    obtain ⟨i, _, rfl⟩ := hentered
    simp only [Responder.step, PairingCoordinator.responder, ht, Option.getD_some] at htable
    exact ⟨i, by rw [htable, Function.update_self]⟩
  · have hagrees : (CoordinatorOp.apply c (.handleReceived clientAddr
        (PairingRequest.init deviceId).toBytes)).Agrees :=
      apply_agrees h.agrees hzero fun _ => h.keepsId
    exact PairingCoordinator.durable_iff_agrees.mpr hagrees

theorem exchange_joins [ChannelFrame σ] [TunesValidChannels τ] (hch : UsableChannel ch)
    (hcoord : coordAddr.isZero = false) (hclient : clientAddr.isZero = false)
    (hstate : net.client.state = .SCANNING)
    (hopen : Open clientAddr ch net.client.deviceId net.coordinator) (time : Nat) :
    let net' := net.exchange coordAddr clientAddr
      [(.broadcast, (PairingBeacon.init ch).toBytes)] time
    Joined coordAddr clientAddr ch net.client.deviceId net' := by
  let nowMs := stamp (time + net.clientOffset)
  let x₁ := net.client.handleBeacon coordAddr (PairingBeacon.init ch) nowMs
  obtain ⟨hanswer, hentered, hdurable⟩ := request_confirmed hopen hclient
  have hbeacon : net.client.hearAll coordAddr nowMs
      (framesFor .broadcast [(.broadcast, (PairingBeacon.init ch).toBytes)]) = x₁ := by
    rw [framesFor_single, PairingClient.hearAll_single,
      PairingClient.handleReceived_scanning hstate (isBeacon_init ch)]
    rfl
  have hrequest : framesFor coordAddr (framesSince net.client.transport x₁.transport) =
      [(PairingRequest.init net.client.deviceId).toBytes] := by
    have hframes := framesSince_addPeer_send net.client.transport coordAddr 0
      (PairingRequest.init net.client.deviceId).toBytes
    exact (congrArg (framesFor coordAddr) hframes).trans (framesFor_single coordAddr _)
  have hconfirm : x₁.hearAll coordAddr nowMs [(PairingConfirm.init true ch).toBytes] =
      x₁.handleConfirm coordAddr (PairingConfirm.init true ch) := by
    rw [PairingClient.hearAll_single,
      PairingClient.handleReceived_responding rfl (isConfirm_init true ch)]
    rfl
  have haccepted : (PairingConfirm.init true ch).accepted ≠ 0 := fun h =>
    absurd h (show (1 : UInt8) ≠ 0 by decide)
  obtain ⟨hpaired, hmac, hchannel, hradio, hprefs⟩ := x₁.handleConfirm_accepted coordAddr haccepted
  intro net'
  have hnet' : net' = { net with
      coordinator := net.coordinator.hearAll clientAddr
        [(PairingRequest.init net.client.deviceId).toBytes],
      client := x₁.handleConfirm coordAddr (PairingConfirm.init true ch) } := by
    simp only [net', exchange]
    rw [hbeacon, hrequest, hanswer, hconfirm]
  rw [hnet']
  refine ⟨hpaired, hmac, hchannel, ?_, ?_, hentered, hdurable⟩
  · dsimp only
    rw [hradio]
    exact getChannel_setChannel _ hch.1 hch.2
  · dsimp only
    rw [hprefs, storedRecord_eq_some]
    obtain ⟨hflag, hread, hstored⟩ := written_record x₁.prefs coordAddr ch
    exact ⟨hflag, hread, hcoord, hstored⟩

/-- A pairing that is made stays: beacons are not for a paired client, and its loop has
nothing to do. -/
theorem Joined.apply (h : Joined coordAddr clientAddr ch deviceId net) (ev : DiscoveryEvent) :
    Joined coordAddr clientAddr ch deviceId (net.apply coordAddr clientAddr ev) := by
  have hscan : net.client.state ≠ .SCANNING := by simp [h.state]
  have hresp : net.client.state ≠ .RESPONDING := by simp [h.state]
  cases ev with
  | clientLoop time =>
    have hidle := PairingClient.loop_idle hscan hresp (stamp (time + net.clientOffset))
    simp only [DiscoveryNet.apply, hidle]
    exact ⟨h.state, h.mac, h.channel, h.radio, h.clientRecord, h.entered, h.coordinatorRecord⟩
  | coordinatorLoop time =>
    obtain ⟨hclients, hprefs, _⟩ :=
      net.coordinator.loop_fields (stamp (time + net.coordOffset))
    have hentered : ∃ i, (net.coordinator.loop (stamp (time + net.coordOffset))).table i =
        some (clientAddr, deviceId) := by
      obtain ⟨i, hi⟩ := h.entered
      exact ⟨i, by rw [← hi, PairingCoordinator.table, PairingCoordinator.table, hclients]⟩
    have hdurable : (net.coordinator.loop (stamp (time + net.coordOffset))).Durable :=
      PairingCoordinator.durable_iff_agrees.mpr
        ((PairingCoordinator.Agrees.congr hclients hprefs).mpr
          (PairingCoordinator.durable_iff_agrees.mp h.coordinatorRecord))
    simp only [DiscoveryNet.apply, exchange, PairingClient.hearAll_idle hscan hresp,
      framesSince_self, framesFor_nil, PairingCoordinator.hearAll_nil]
    split <;>
      exact ⟨h.state, h.mac, h.channel, h.radio, h.clientRecord, hentered, hdurable⟩

/-- The client scans the list `s` at place `k`, which it has been on since `tuned`, and none
of the places before was the coordinator's channel. `began` is the start of the dwell,
`beacon` the time of the last beacon. -/
structure Scans (s : ScanChannels) (t : Transport τ) (clientAddr : MacAddress)
    (ch deviceId : UInt8) (start k tuned began beacon : Nat) (net : DiscoveryNet σ τ) : Prop where
  state : net.client.state = .SCANNING
  device : net.client.deviceId = deviceId
  place : ScanPlace s t k net.client
  radio : net.client.transport.getChannel = s.tuned k
  missed : ∀ j < k, s.tuned j ≠ ch
  tuned_le : tuned ≤ start + 500 * k
  tuned_looped : tuned ≤ net.looped
  began_le : tuned ≤ began ∧ began ≤ tuned + 200
  running : net.looped < began + 200
  stamped : net.client.channelStartMs ≠ 0 →
    net.client.channelStartMs = stamp (began + net.clientOffset) ∧ began ≤ net.looped
  unstamped : net.client.channelStartMs = 0 →
    net.looped = tuned ∨ (net.looped ≤ tuned + 100 ∧ stamp (net.looped + net.clientOffset) = 0)
  isOpen : Open clientAddr ch deviceId net.coordinator
  enabled : net.coordinator.pairingEnabled = true
  lastBeacon : net.coordinator.lastBeaconMs = stamp (beacon + net.coordOffset)
  sampled : beacon ≤ net.sampled ∧ net.sampled < beacon + 100
  unheard : s.tuned k = ch → beacon ≤ tuned

variable {s : ScanChannels} {t : Transport τ} {start k tuned began beacon : Nat}

/-- The client's comparison, in true time. -/
theorem Scans.over_iff (h : Scans s t clientAddr ch deviceId start k tuned began beacon net)
    (hstamped : net.client.channelStartMs ≠ 0) {time : Nat} (hle : net.looped ≤ time)
    (hlt : time ≤ net.looped + 100) :
    CHANNEL_SCAN_DWELL_MS ≤ stamp (time + net.clientOffset) - net.client.channelStartMs ↔
      began + 200 ≤ time := by
  obtain ⟨hread, hbegan⟩ := h.stamped hstamped
  have hrunning := h.running
  have helapsed : (stamp (time + net.clientOffset) - stamp (began + net.clientOffset)).toNat =
      time - began := by
    rw [stamp_sub_toNat_of_lt (by omega) (by omega)]
    omega
  rw [hread, UInt32.le_iff_toNat_le, helapsed]
  change 200 ≤ time - began ↔ _
  omega

end DiscoveryNet

namespace PairingClient

/-- A pass of the loop while scanning: the dwell is over and the scan moves on, or the dwell
goes on, stamped now if it was not. -/
theorem loop_scan_cases {x : PairingClient τ} (h : x.state = .SCANNING) (nowMs : UInt32) :
    (x.channelStartMs ≠ 0 ∧ CHANNEL_SCAN_DWELL_MS ≤ nowMs - x.channelStartMs ∧
        x.loop nowMs = x.advanceChannel nowMs) ∨
      ((x.channelStartMs ≠ 0 → ¬ CHANNEL_SCAN_DWELL_MS ≤ nowMs - x.channelStartMs) ∧
        x.loop nowMs = x.beginDwell nowMs) := by
  unfold loop
  simp only [h]
  by_cases hzero : x.channelStartMs = 0
  · refine Or.inr ⟨fun hne => absurd hzero hne, if_neg ?_⟩
    -- a dwell stamped by this very call is not over
    simp [beginDwell, hzero, CHANNEL_SCAN_DWELL_MS]
  · have hkept : x.beginDwell nowMs = x := by simp [beginDwell, hzero]
    rw [hkept]
    by_cases hover : CHANNEL_SCAN_DWELL_MS ≤ nowMs - x.channelStartMs
    · exact Or.inl ⟨hzero, hover, if_pos hover⟩
    · exact Or.inr ⟨fun _ => hover, if_neg hover⟩

theorem advanceChannel_transport (x : PairingClient τ) (nowMs : UInt32) :
    (x.advanceChannel nowMs).transport =
        x.transport.setChannel (x.advanceChannel nowMs).currentScanChannel ∧
      (x.advanceChannel nowMs).deviceId = x.deviceId ∧
      (x.advanceChannel nowMs).state = x.state ∧
      (x.advanceChannel nowMs).channelStartMs = nowMs := by
  unfold advanceChannel
  split <;> exact ⟨rfl, rfl, rfl, rfl⟩

end PairingClient

namespace DiscoveryNet
variable {coordAddr clientAddr : MacAddress} {ch deviceId : UInt8} {net : DiscoveryNet σ τ}
variable {s : ScanChannels} {t : Transport τ} {start k tuned began beacon : Nat}

/-- The scan never leaves the coordinator's channel: by the time the dwell is over, the
coordinator has been due for a beacon since the scan came there. -/
theorem Scans.moves_on [TunesValidChannels τ] (hs : s.Valid)
    (h : Scans s t clientAddr ch deviceId start k tuned began beacon net) {time : Nat}
    (htime : net.OnTime (.clientLoop time)) (hover : began + 200 ≤ time) :
    Scans s t clientAddr ch deviceId start (k + 1) time time beacon
      { net with
        client := net.client.advanceChannel (stamp (time + net.clientOffset)),
        looped := time } := by
  obtain ⟨hsampled, hlooped, hcoord, hclient⟩ := htime
  have hrunning := h.running
  have hbegan := h.began_le
  have hbeacon := h.sampled
  have htuned_le := h.tuned_le
  have hmiss : s.tuned k ≠ ch := by
    intro hhere
    have hheard := h.unheard hhere
    omega
  obtain ⟨htransport, hdevice, hstate, hstart⟩ :=
    net.client.advanceChannel_transport (stamp (time + net.clientOffset))
  have hplace := h.place.advanceChannel (stamp (time + net.clientOffset))
  have htuned : UsableChannel (s.tuned (k + 1)) :=
    ScanChannels.channelAt_usable hs (Nat.mod_lt _ s.roundLength_pos)
  refine ⟨hstate.trans h.state, hdevice.trans h.device, hplace, ?_, ?_, ?_, Nat.le_refl _,
    ⟨Nat.le_refl _, Nat.le_add_right _ _⟩, Nat.lt_add_of_pos_right (by decide),
    fun _ => ⟨hstart, Nat.le_refl _⟩, fun _ => Or.inl rfl, h.isOpen, h.enabled, h.lastBeacon,
    h.sampled, fun _ => by omega⟩
  · dsimp only
    rw [htransport, hplace.channel]
    exact getChannel_setChannel _ htuned.1 htuned.2
  · intro j hj
    rcases Nat.lt_succ_iff_lt_or_eq.mp hj with hlt | rfl
    · exact h.missed j hlt
    · exact hmiss
  · omega

/-- A dwell that is not over goes on; one that carries no stamp is stamped now, unless the
clock happens to read 0, which stands for no stamp. -/
theorem Scans.stays (h : Scans s t clientAddr ch deviceId start k tuned began beacon net)
    {time : Nat} (htime : net.OnTime (.clientLoop time))
    (hnot : net.client.channelStartMs ≠ 0 → ¬ began + 200 ≤ time) :
    ∃ began', Scans s t clientAddr ch deviceId start k tuned began' beacon
      { net with
        client := net.client.beginDwell (stamp (time + net.clientOffset)), looped := time } := by
  obtain ⟨hsampled, hlooped, hcoord, hclient⟩ := htime
  have htuned := Nat.le_trans h.tuned_looped hlooped
  have hplace := h.place.beginDwell (stamp (time + net.clientOffset))
  -- what holds whenever the stamp and the start of the dwell are right
  have hkeep : ∀ began', tuned ≤ began' ∧ began' ≤ tuned + 200 → time < began' + 200 →
      ((net.client.beginDwell (stamp (time + net.clientOffset))).channelStartMs ≠ 0 →
        (net.client.beginDwell (stamp (time + net.clientOffset))).channelStartMs =
          stamp (began' + net.clientOffset) ∧ began' ≤ time) →
      ((net.client.beginDwell (stamp (time + net.clientOffset))).channelStartMs = 0 →
        time = tuned ∨ (time ≤ tuned + 100 ∧ stamp (time + net.clientOffset) = 0)) →
      Scans s t clientAddr ch deviceId start k tuned began' beacon
        { net with
          client := net.client.beginDwell (stamp (time + net.clientOffset)), looped := time } :=
    fun _ hle hlt hstamped hunstamped => ⟨h.state, h.device, hplace, h.radio, h.missed,
      h.tuned_le, htuned, hle, hlt, hstamped, hunstamped, h.isOpen, h.enabled, h.lastBeacon,
      h.sampled, h.unheard⟩
  by_cases hzero : net.client.channelStartMs = 0
  · have hstart : (net.client.beginDwell (stamp (time + net.clientOffset))).channelStartMs =
        stamp (time + net.clientOffset) := by simp [PairingClient.beginDwell, hzero]
    by_cases hagain : stamp (time + net.clientOffset) = 0
    · have hsoon : time ≤ tuned + 100 := by
        rcases h.unstamped hzero with heq | ⟨hle, hread⟩
        · omega
        · -- the clock read 0 at the last pass as well, so that was just now
          have hsub := stamp_sub_toNat_of_lt (Nat.add_le_add_right hlooped net.clientOffset)
            (by omega)
          rw [hagain, hread] at hsub
          simp only [UInt32.sub_self, UInt32.toNat_zero] at hsub
          omega
      refine ⟨tuned, hkeep tuned ⟨Nat.le_refl _, Nat.le_add_right _ _⟩ (by omega) ?_ ?_⟩
      · intro hne
        exact absurd (hstart.trans hagain) hne
      · exact fun _ => Or.inr ⟨hsoon, hagain⟩
    · have hlate : time ≤ tuned + 200 := by
        rcases h.unstamped hzero with heq | ⟨hle, _⟩ <;> omega
      refine ⟨time, hkeep time ⟨htuned, hlate⟩ (by omega) ?_ ?_⟩
      · exact fun _ => ⟨hstart, Nat.le_refl _⟩
      · intro hz
        exact absurd (hstart.symm.trans hz) hagain
  · have hsame : (net.client.beginDwell (stamp (time + net.clientOffset))).channelStartMs =
        net.client.channelStartMs := by simp [PairingClient.beginDwell, hzero]
    have hearly := hnot hzero
    obtain ⟨hread, hbegan⟩ := h.stamped hzero
    refine ⟨began, hkeep began h.began_le (by omega) ?_ ?_⟩
    · exact fun _ => ⟨hsame.trans hread, Nat.le_trans hbegan hlooped⟩
    · intro hz
      exact absurd (hsame.symm.trans hz) hzero

theorem Scans.clientLoop [TunesValidChannels τ] (hs : s.Valid)
    (h : Scans s t clientAddr ch deviceId start k tuned began beacon net) {time : Nat}
    (htime : net.OnTime (.clientLoop time)) : ∃ k' tuned' began',
      Scans s t clientAddr ch deviceId start k' tuned' began' beacon
        (net.apply coordAddr clientAddr (.clientLoop time)) := by
  have hlooped := htime.2.1
  have hclient := htime.2.2.2
  rcases PairingClient.loop_scan_cases h.state (stamp (time + net.clientOffset)) with
    ⟨hstamped, hover, hloop⟩ | ⟨hnot, hloop⟩
  · rw [h.over_iff hstamped hlooped hclient] at hover
    simp only [apply, hloop]
    exact ⟨k + 1, time, time, h.moves_on hs htime hover⟩
  · have hearly : net.client.channelStartMs ≠ 0 → ¬ began + 200 ≤ time := by
      intro hstamped
      rw [← h.over_iff hstamped hlooped hclient]
      exact hnot hstamped
    obtain ⟨began', hstays⟩ := h.stays htime hearly
    simp only [apply, hloop]
    exact ⟨k, tuned, began', hstays⟩

theorem Open.congr {c c' : PairingCoordinator σ} (h : Open clientAddr ch deviceId c)
    (hclients : c'.clients = c.clients) (hprefs : c'.prefs = c.prefs)
    (hchannel : c'.transport.getChannel = c.transport.getChannel) :
    Open clientAddr ch deviceId c' := by
  refine ⟨hchannel.trans h.channel, ?_, (PairingCoordinator.Agrees.congr hclients hprefs).mpr
    h.agrees, ?_⟩
  · rw [show c'.table = c.table from funext fun i => by
      rw [PairingCoordinator.table, PairingCoordinator.table, hclients]]
    exact h.place
  · have hkeeps := h.keepsId
    unfold PairingCoordinator.KeepsIdOf PairingCoordinator.slotOf at hkeeps ⊢
    rw [hclients]
    exact hkeeps

/-- A beacon is either heard, and the two are paired, or the client is elsewhere. -/
theorem Scans.coordinatorLoop [ChannelFrame σ] [TunesValidChannels τ] (hch : UsableChannel ch)
    (hcoordAddr : coordAddr.isZero = false) (hclientAddr : clientAddr.isZero = false)
    (h : Scans s t clientAddr ch deviceId start k tuned began beacon net) {time : Nat}
    (htime : net.OnTime (.coordinatorLoop time)) :
    Joined coordAddr clientAddr ch deviceId
        (net.apply coordAddr clientAddr (.coordinatorLoop time)) ∨
      ∃ beacon', Scans s t clientAddr ch deviceId start k tuned began beacon'
        (net.apply coordAddr clientAddr (.coordinatorLoop time)) := by
  obtain ⟨hsampled, _, hcoord, _⟩ := htime
  obtain ⟨hbeacon, hearly⟩ := h.sampled
  have hresponds := loop_responds net.coordinator (stamp (time + net.coordOffset))
  obtain ⟨hclients, hprefs, henabled, _⟩ :=
    net.coordinator.loop_fields (stamp (time + net.coordOffset))
  have hopen := h.isOpen.congr hclients hprefs hresponds.channel
  have helapsed : (stamp (time + net.coordOffset) - stamp (beacon + net.coordOffset)).toNat =
      time - beacon := by
    rw [stamp_sub_toNat_of_lt (by omega) (by omega)]
    omega
  have hdue : BEACON_INTERVAL_MS ≤ stamp (time + net.coordOffset) - net.coordinator.lastBeaconMs ↔
      beacon + 100 ≤ time := by
    rw [h.lastBeacon, UInt32.le_iff_toNat_le, helapsed]
    change 100 ≤ time - beacon ↔ _
    omega
  rcases PairingCoordinator.loop_enabled h.enabled (stamp (time + net.coordOffset)) with
    ⟨hover, _, henabled', hlast⟩ | ⟨hnot, hsame⟩
  · rw [hdue] at hover
    have hframes : framesSince net.coordinator.transport
        (net.coordinator.loop (stamp (time + net.coordOffset))).transport =
          [(.broadcast, (PairingBeacon.init ch).toBytes)] := by
      have hspoken := hresponds.frames
      have hbeaconDue : net.coordinator.responder.beaconDue (stamp (time + net.coordOffset)) =
          true := by
        simp only [Responder.beaconDue, PairingCoordinator.responder, h.enabled, Bool.true_and,
          decide_eq_true_eq]
        exact hdue.mpr hover
      simp only [Responder.answers, hbeaconDue, if_true, List.map_cons, List.map_nil,
        Outbound.bytes, h.isOpen.channel] at hspoken
      exact hspoken
    by_cases hhere : s.tuned k = ch
    · refine Or.inl ?_
      have hradio : net.client.transport.getChannel =
          (net.coordinator.loop (stamp (time + net.coordOffset))).transport.getChannel := by
        rw [h.radio, hhere, hopen.channel]
      simp only [apply, hradio, if_true, hframes]
      let net₁ : DiscoveryNet σ τ :=
        { net with
          coordinator := net.coordinator.loop (stamp (time + net.coordOffset)), sampled := time }
      have hopen₁ : Open clientAddr ch net₁.client.deviceId net₁.coordinator :=
        h.device.symm ▸ hopen
      have hjoined := exchange_joins hch hcoordAddr hclientAddr (show net₁.client.state = _ from
        h.state) hopen₁ time
      rw [← h.device]
      exact hjoined
    · refine Or.inr ⟨time, ?_⟩
      have hradio : net.client.transport.getChannel ≠
          (net.coordinator.loop (stamp (time + net.coordOffset))).transport.getChannel := by
        rw [h.radio, hopen.channel]
        exact hhere
      simp only [apply, if_neg hradio]
      exact ⟨h.state, h.device, h.place, h.radio, h.missed, h.tuned_le, h.tuned_looped,
        h.began_le, h.running, h.stamped, h.unstamped, hopen, henabled', hlast,
        ⟨Nat.le_refl _, Nat.lt_add_of_pos_right (by decide)⟩, fun hc => absurd hc hhere⟩
  · rw [hdue] at hnot
    refine Or.inr ⟨beacon, ?_⟩
    have hnet : net.apply coordAddr clientAddr (.coordinatorLoop time) =
        { net with sampled := time } := by
      simp only [apply, hsame, framesSince_self, exchange, framesFor_nil,
        PairingClient.hearAll_nil, PairingCoordinator.hearAll_nil]
      split <;> rfl
    rw [hnet]
    exact ⟨h.state, h.device, h.place, h.radio, h.missed, h.tuned_le, h.tuned_looped,
      h.began_le, h.running, h.stamped, h.unstamped, h.isOpen, h.enabled, h.lastBeacon,
      ⟨Nat.le_trans hbeacon hsampled, by dsimp only; omega⟩, h.unheard⟩

/-- The system when the scan starts: the coordinator sent a beacon less than 100 ms ago. -/
structure Starts (s : ScanChannels) (clientAddr : MacAddress) (ch deviceId : UInt8)
    (start : Nat) (net : DiscoveryNet σ τ) : Prop where
  client : ∃ x : PairingClient τ, x.scanChannels = s ∧ x.deviceId = deviceId ∧
    net.client = x.startScanning
  isOpen : Open clientAddr ch deviceId net.coordinator
  enabled : net.coordinator.pairingEnabled = true
  beacon : ∃ beacon ≤ start, start < beacon + 100 ∧
    net.coordinator.lastBeaconMs = stamp (beacon + net.coordOffset)
  sampled : net.sampled = start
  looped : net.looped = start

theorem Starts.scans [TunesValidChannels τ] (hs : s.Valid)
    (h : Starts s clientAddr ch deviceId start net) :
    ∃ t beacon, Scans s t clientAddr ch deviceId start 0 start start beacon net := by
  obtain ⟨x, rfl, hdevice, hclient⟩ := h.client
  obtain ⟨beacon, hle, hlt, hlast⟩ := h.beacon
  have hplace := startScanning_place x
  have htuned : UsableChannel (x.scanChannels.tuned 0) :=
    ScanChannels.channelAt_usable hs (Nat.mod_lt _ x.scanChannels.roundLength_pos)
  have hradio : x.startScanning.transport.getChannel = x.scanChannels.tuned 0 := by
    have hfirst : x.scanChannels.first = x.scanChannels.tuned 0 := hplace.channel
    rw [← hfirst] at htuned ⊢
    exact getChannel_setChannel x.transport htuned.1 htuned.2
  refine ⟨x.transport, beacon, ?_⟩
  have hsampled := h.sampled
  have hlooped := h.looped
  refine ⟨?_, ?_, ?_, ?_, fun j hj => absurd hj (Nat.not_lt_zero j), Nat.le_refl _,
    hlooped.ge, ⟨Nat.le_refl _, Nat.le_add_right _ _⟩, by omega, ?_, fun _ => Or.inl hlooped,
    h.isOpen, h.enabled, hlast, by omega, fun _ => hle⟩
  · rw [hclient]
    rfl
  · rw [hclient]
    exact hdevice
  · rw [hclient]
    exact hplace
  · rw [hclient]
    exact hradio
  · intro hne
    rw [hclient] at hne
    exact absurd rfl hne

/-- What holds at every moment of a discovery: it is over, or the scan is on. -/
def Progress (s : ScanChannels) (coordAddr clientAddr : MacAddress) (ch deviceId : UInt8)
    (start : Nat) (net : DiscoveryNet σ τ) : Prop :=
  Joined coordAddr clientAddr ch deviceId net ∨
    ∃ t k tuned began beacon, Scans s t clientAddr ch deviceId start k tuned began beacon net

theorem Starts.progress [TunesValidChannels τ] (hs : s.Valid)
    (h : Starts s clientAddr ch deviceId start net) :
    Progress s coordAddr clientAddr ch deviceId start net := by
  obtain ⟨t, beacon, hscans⟩ := h.scans hs
  exact Or.inr ⟨t, 0, start, start, beacon, hscans⟩

theorem Progress.apply [ChannelFrame σ] [TunesValidChannels τ] (hs : s.Valid)
    (hch : UsableChannel ch) (hcoordAddr : coordAddr.isZero = false)
    (hclientAddr : clientAddr.isZero = false)
    (h : Progress s coordAddr clientAddr ch deviceId start net) {ev : DiscoveryEvent}
    (htime : net.OnTime ev) :
    Progress s coordAddr clientAddr ch deviceId start (net.apply coordAddr clientAddr ev) := by
  rcases h with hjoined | ⟨t, k, tuned, began, beacon, hscans⟩
  · exact Or.inl (hjoined.apply ev)
  · cases ev with
    | clientLoop time =>
      obtain ⟨k', tuned', began', hnext⟩ := hscans.clientLoop hs htime
      exact Or.inr ⟨t, k', tuned', began', beacon, hnext⟩
    | coordinatorLoop time =>
      rcases hscans.coordinatorLoop hch hcoordAddr hclientAddr htime with hjoined | ⟨b, hnext⟩
      · exact Or.inl hjoined
      · exact Or.inr ⟨t, k, tuned, began, b, hnext⟩

theorem Progress.joined_or (h : Progress s coordAddr clientAddr ch deviceId start net) {i : Nat}
    (hi : s.tuned i = ch) : Joined coordAddr clientAddr ch deviceId net ∨
      (net.client.state = .SCANNING ∧ net.looped < start + 500 * (i + 1)) := by
  rcases h with hjoined | ⟨t, k, tuned, began, beacon, hscans⟩
  · exact Or.inl hjoined
  · refine Or.inr ⟨hscans.state, ?_⟩
    have hplace : k ≤ i := by
      by_contra hpast
      exact hscans.missed i (by omega) hi
    have htuned := hscans.tuned_le
    have hbegan := hscans.began_le
    have hrunning := hscans.running
    omega

/-- Through any run on time, the client and the coordinator are paired with each other, on
the coordinator's channel and on record on both sides, by `500 * (i + 1)` ms after the start
of the scan, if the coordinator's channel is at place `i` of the scan. Before that the
client scans, at a place that is not past `i`. -/
theorem discovery_pairs [ChannelFrame σ] [TunesValidChannels τ] (hs : s.Valid)
    (hcoordAddr : coordAddr.isZero = false) (hclientAddr : clientAddr.isZero = false)
    (h : Starts s clientAddr ch deviceId start net) {i : Nat} (hi : s.tuned i = ch)
    (evs : List DiscoveryEvent) (hevs : EachStep (apply coordAddr clientAddr) OnTime net evs) :
    let net' := run (apply coordAddr clientAddr) net evs
    Joined coordAddr clientAddr ch deviceId net' ∨
      (net'.client.state = .SCANNING ∧ net'.looped < start + 500 * (i + 1)) := by
  have hch : UsableChannel ch :=
    hi ▸ ScanChannels.channelAt_usable hs (Nat.mod_lt _ s.roundLength_pos)
  have hprogress := (eachState_of_invariant (Progress s coordAddr clientAddr ch deviceId start)
    (h.progress hs) hevs fun _ _ hnet htime =>
      hnet.apply hs hch hcoordAddr hclientAddr htime).last
  exact hprogress.joined_or hi

end DiscoveryNet
end Net

section Example

/-- The client's list has the coordinator's channel 6 in second place; its clock is 5 s
ahead. -/
def discoveryNet : DiscoveryNet (EspNowTransport SimRadio) (EspNowTransport SimRadio) :=
  { coordinator := ((PairingCoordinator.new (simTransport coordMac 6)
      Preferences.empty).loadPairedClients.enablePairing).loop (stamp 1000),
    client := freshClient.startScanning, coordOffset := 0, clientOffset := 5000,
    sampled := 1000, looped := 1000 }

/-- Both loops every 90 ms. -/
def discoveryEvents : List DiscoveryEvent :=
  (List.range 12).flatMap fun k =>
    [.coordinatorLoop (1050 + 90 * k), .clientLoop (1090 + 90 * k)]

theorem discoveryNet_open : DiscoveryNet.Open clientMac 6 7 discoveryNet.coordinator := by
  refine ⟨by decide, by decide, ?_, by decide⟩
  obtain ⟨hclients, hprefs, _⟩ := PairingCoordinator.loop_fields
    (PairingCoordinator.new (simTransport coordMac 6)
      Preferences.empty).loadPairedClients.enablePairing (stamp 1000)
  refine (PairingCoordinator.Agrees.congr hclients hprefs).mpr ?_
  exact (PairingCoordinator.Agrees.congr rfl rfl).mpr
    (PairingCoordinator.agrees_load_new (simTransport coordMac 6) Preferences.empty)

theorem discoveryNet_pairs : DiscoveryNet.Joined coordMac clientMac 6 7
    (run (DiscoveryNet.apply coordMac clientMac) discoveryNet discoveryEvents) := by
  have hstarts : DiscoveryNet.Starts sparseScan clientMac 6 7 1000 discoveryNet :=
    ⟨⟨freshClient, rfl, rfl, rfl⟩, discoveryNet_open, by decide,
      ⟨1000, by decide, by decide, by decide⟩, rfl, rfl⟩
  have hplace : sparseScan.tuned 1 = 6 := by decide
  have hcoord : coordMac.isZero = false := by decide
  rcases DiscoveryNet.discovery_pairs (by decide) hcoord (by decide) hstarts hplace
    discoveryEvents (by decide) with hjoined | ⟨_, hlate⟩
  · exact hjoined
  · exact absurd hlate (by decide)

end Example
end UngulaNet.Pairing
