import UngulaNet.Pairing.ClientChannel
import UngulaNet.Pairing.CoordinatorSteps

/-!
# Agreement of coordinator and client

One coordinator and one client on a network that may lose, delay, duplicate and reorder
frames but delivers only frames that one of them sent, under the sender's address. A
client that completes a pairing should have the coordinator's address and channel, and
be in the coordinator's table.

All that can go wrong is a beacon that arrives while the client waits for a confirm: the
two messages are told apart by the receiver's state only. `pairing_agreement_iff` says
that without such an arrival the two always agree, and with it they do not.
-/

namespace UngulaNet.Pairing
open Comm Runs
set_option autoImplicit false

structure PairingNet (σ τ : Type) where
  coordinator : PairingCoordinator σ
  client : PairingClient τ

inductive NetEvent where
  | enablePairing
  | disablePairing
  | coordinatorLoop (nowMs : UInt32)
  | coordinatorReceives (srcMac : MacAddress) (data : List UInt8)
  | startScanning
  | clientLoop (nowMs : UInt32)
  | clientReceives (srcMac : MacAddress) (data : List UInt8) (nowMs : UInt32)

section Frames

/-- A frame the coordinator may have sent on channel `ch`. An accepting confirm implies
that the client is `known`. -/
def CoordinatorFrame (ch : UInt8) (known : Bool) (data : List UInt8) : Prop :=
  data = (PairingBeacon.init ch).toBytes ∨ data = (PairingConfirm.init false ch).toBytes ∨
    (known = true ∧ data = (PairingConfirm.init true ch).toBytes) ∨
      data = (ReconnectAck.init ch).toBytes

def ClientFrame (data : List UInt8) : Prop :=
  ∃ deviceId, data = (PairingRequest.init deviceId).toBytes

def Sends (allowed : List UInt8 → Prop) : TransportCall → Prop
  | .send _ data => allowed data
  | _ => True

theorem CoordinatorFrame.mono {ch : UInt8} {known known' : Bool} {data : List UInt8}
    (h : CoordinatorFrame ch known data) (hk : known = true → known' = true) :
    CoordinatorFrame ch known' data := by
  rcases h with h | h | ⟨hknown, h⟩ | h
  · exact Or.inl h
  · exact Or.inr (Or.inl h)
  · exact Or.inr (Or.inr (Or.inl ⟨hk hknown, h⟩))
  · exact Or.inr (Or.inr (Or.inr h))

theorem ClientFrame.not_isConfirm {data : List UInt8} (h : ClientFrame data) :
    ¬ PairingClient.IsConfirm data := by
  obtain ⟨deviceId, rfl⟩ := h
  rintro ⟨_, hvalid⟩
  rw [not_isValid_confirm_of_request (by rfl)] at hvalid
  exact Bool.false_ne_true hvalid

theorem isConfirm_beacon (ch : UInt8) :
    PairingClient.IsConfirm (PairingBeacon.init ch).toBytes := ⟨Nat.le_refl 8, rfl⟩

theorem not_isConfirm_ack (ch : UInt8) :
    ¬ PairingClient.IsConfirm (ReconnectAck.init ch).toBytes := by
  rintro ⟨_, hvalid⟩
  exact absurd hvalid (show ¬ (false = true) by decide)

theorem CoordinatorFrame.not_isRequest {ch : UInt8} {known : Bool} {data : List UInt8}
    (h : CoordinatorFrame ch known data) : ¬ PairingCoordinator.IsRequest data := by
  rintro ⟨_, hvalid⟩
  rcases h with rfl | rfl | ⟨_, rfl⟩ | rfl <;> exact absurd hvalid (show ¬ (false = true) by decide)

end Frames

section Coordinator
variable {σ : Type} [ITransport σ]

/-- What one step of the coordinator leaves: its channel, the client's place in the
table, and nothing on the air but allowed frames. -/
structure CoordinatorStep (clientAddr : MacAddress) (c c' : PairingCoordinator σ) : Prop where
  channel : c'.transport.getChannel = c.transport.getChannel
  known : c.isPaired clientAddr = true → c'.isPaired clientAddr = true
  calls : Transport.CallsOnly (Sends (CoordinatorFrame c.transport.getChannel
    (c'.isPaired clientAddr))) c.transport c'.transport

variable [ChannelFrame σ] {clientAddr : MacAddress}

omit [ChannelFrame σ] in
theorem CoordinatorStep.refl (c : PairingCoordinator σ) : CoordinatorStep clientAddr c c :=
  ⟨rfl, fun h => h, Transport.CallsOnly.refl _⟩

/-- The table stays, and the radio is left alone or sends one allowed frame. -/
theorem coordinatorStep_of_send {c c' : PairingCoordinator σ} (hclients : c'.clients = c.clients)
    {mac : MacAddress} {frame : List UInt8} {answers : Prop}
    (hframe : CoordinatorFrame c.transport.getChannel (c'.isPaired clientAddr) frame)
    (htransport : c'.transport = c.transport ∨
      (answers ∧ c'.transport = (c.transport.addPeer mac 0).send mac frame)) :
    CoordinatorStep clientAddr c c' := by
  have hknown := PairingCoordinator.isPaired_congr hclients clientAddr
  rcases htransport with h | ⟨_, h⟩
  · exact ⟨by rw [h], fun hk => hknown.trans hk, Transport.CallsOnly.of_eq h⟩
  · refine ⟨by simp [h], fun hk => hknown.trans hk, ?_⟩
    rw [h]
    exact (Transport.CallsOnly.snoc (Transport.calls_addPeer _ _ 0) trivial).trans
      (Transport.CallsOnly.snoc (Transport.calls_send _ _ _) hframe)

theorem coordinatorLoop_step (c : PairingCoordinator σ) (nowMs : UInt32) :
    CoordinatorStep clientAddr c (c.loop nowMs) := by
  obtain ⟨hclients, _, _, htransport⟩ := c.loop_fields nowMs
  exact coordinatorStep_of_send hclients (Or.inl rfl) htransport

theorem handleReconnectProbe_step (c : PairingCoordinator σ) (src : MacAddress)
    (probe : ReconnectProbe) :
    CoordinatorStep clientAddr c (c.handleReconnectProbe src probe) := by
  obtain ⟨hclients, _, _, htransport⟩ := c.handleReconnectProbe_fields src probe
  exact coordinatorStep_of_send hclients (Or.inr (Or.inr (Or.inr rfl))) htransport

/-- A request of the client is answered truthfully: it is accepted only if the client is
in the table afterwards. -/
theorem handlePairingRequest_step (c : PairingCoordinator σ) (req : PairingRequest) :
    CoordinatorStep clientAddr c (c.handlePairingRequest clientAddr req) := by
  obtain ⟨hclients, _, _, htransport⟩ := c.handlePairingRequest_fields clientAddr req
  have hknown := PairingCoordinator.isPaired_congr hclients clientAddr
  have hchannel := c.storePairedClient_getChannel clientAddr req.deviceId
  have hstored : (c.storePairedClient clientAddr req.deviceId).1 = true → _ :=
    PairingCoordinator.storePairedClient_isPaired
  refine ⟨?_, ?_, ?_⟩
  · rw [htransport, PairingCoordinator.confirmRequest]
    simpa using hchannel
  · intro hk
    rw [hknown]
    apply hstored
    exact (c.storePairedClient_fst_iff clientAddr req.deviceId).mpr (Or.inl hk)
  · rw [htransport, hknown]
    refine Transport.CallsOnly.trans ((c.storePairedClient_calls clientAddr _).imp ?_)
      ((Transport.callsOnly_iff (PairingCoordinator.confirmRequest_calls _ _ _)).mpr ?_)
    · rintro call ⟨m, rfl⟩
      trivial
    · intro call hcall
      simp only [List.mem_cons, List.not_mem_nil, or_false] at hcall
      rcases hcall with rfl | rfl
      · trivial
      · rw [Transport.getChannel_addPeer, hchannel]
        cases hs : (c.storePairedClient clientAddr req.deviceId).1 with
        | true => exact Or.inr (Or.inr (Or.inl ⟨hstored hs, rfl⟩))
        | false => exact Or.inr (Or.inl rfl)

theorem coordinatorReceives_step (c : PairingCoordinator σ) (src : MacAddress)
    (data : List UInt8) (hsrc : PairingCoordinator.IsRequest data → src = clientAddr) :
    CoordinatorStep clientAddr c (c.handleReceived src data).2 := by
  rcases c.handleReceived_cases src data with ⟨his, h⟩ | ⟨_, h⟩ | ⟨_, h⟩
  · obtain rfl := hsrc his
    rw [h]
    exact handlePairingRequest_step c (.ofBytes data)
  · rw [h]
    exact handleReconnectProbe_step c src (.ofBytes data)
  · rw [h]
    exact CoordinatorStep.refl c

end Coordinator

section Client
variable {τ : Type} [ITransport τ]

theorem advanceChannel_calls (c : PairingClient τ) (nowMs : UInt32) :
    Transport.CallsOnly (Sends ClientFrame) c.transport (c.advanceChannel nowMs).transport := by
  unfold PairingClient.advanceChannel
  split <;> exact Transport.CallsOnly.snoc (Transport.calls_setChannel _ _) trivial

theorem startScanning_calls (c : PairingClient τ) :
    Transport.CallsOnly (Sends ClientFrame) c.transport c.startScanning.transport :=
  Transport.CallsOnly.snoc (Transport.calls_setChannel _ _) trivial

theorem clientLoop_calls (c : PairingClient τ) (nowMs : UInt32) :
    Transport.CallsOnly (Sends ClientFrame) c.transport (c.loop nowMs).transport := by
  unfold PairingClient.loop
  split
  · dsimp only
    split
    · exact advanceChannel_calls (c.beginDwell nowMs) nowMs
    · exact Transport.CallsOnly.refl _
  · split
    · exact startScanning_calls c
    · exact Transport.CallsOnly.refl _
  · exact Transport.CallsOnly.refl _

theorem clientReceives_calls (c : PairingClient τ) (src : MacAddress) (data : List UInt8)
    (nowMs : UInt32) : Transport.CallsOnly (Sends ClientFrame) c.transport
      (c.handleReceived src data nowMs).2.transport := by
  rcases c.handleReceived_cases src data nowMs with ⟨h, _⟩ | ⟨_, _, h⟩ | ⟨_, _, h⟩
  · rw [h]
    exact Transport.CallsOnly.refl _
  · rw [h]
    exact (Transport.CallsOnly.snoc (Transport.calls_addPeer _ _ 0) trivial).trans
      (Transport.CallsOnly.snoc (Transport.calls_send _ _ _) ⟨c.deviceId, rfl⟩)
  · rw [h]
    by_cases ha : (PairingConfirm.ofBytes data).accepted = 0
    · rw [PairingClient.handleConfirm_rejected c src ha]
      exact startScanning_calls c
    · rw [(PairingClient.handleConfirm_accepted c src ha).2.2.2.1]
      exact Transport.CallsOnly.snoc (Transport.calls_setChannel _ _) trivial

end Client

section Net
variable {σ τ : Type}

/-- A client that is paired is in the coordinator's table and has its address and
channel. -/
def Agreement (coordAddr clientAddr : MacAddress) (ch : UInt8) (net : PairingNet σ τ) : Prop :=
  net.client.isPaired = true → net.coordinator.isPaired clientAddr = true ∧
    net.client.coordinatorMac = coordAddr ∧ net.client.pairedChannel = ch

def Delivered (coordAddr clientAddr : MacAddress) (net : PairingNet σ τ) (src : MacAddress)
    (data : List UInt8) : Prop :=
  (src = coordAddr ∧ net.coordinator.transport.Sent data) ∨
    (src = clientAddr ∧ net.client.transport.Sent data)

/-- Frames arrive in any order and any number of times, but only those that were sent. -/
def Genuine (coordAddr clientAddr : MacAddress) (net : PairingNet σ τ) : NetEvent → Prop
  | .coordinatorReceives src data => Delivered coordAddr clientAddr net src data
  | .clientReceives src data _ => Delivered coordAddr clientAddr net src data
  | _ => True

/-- No beacon of the coordinator reaches the client while it waits for a confirm. -/
def NoBeaconAsConfirm (ch : UInt8) (net : PairingNet σ τ) : NetEvent → Prop
  | .clientReceives _ data _ =>
    net.client.state = .RESPONDING → data ≠ (PairingBeacon.init ch).toBytes
  | _ => True

structure NetStart (ch : UInt8) (net : PairingNet σ τ) [ITransport σ] : Prop where
  channel : net.coordinator.transport.getChannel = ch
  coordinatorSilent : net.coordinator.transport.calls = []
  clientSilent : net.client.transport.calls = []
  unpaired : net.client.state ≠ .PAIRED

variable [ITransport σ] [ITransport τ] {coordAddr clientAddr : MacAddress} {ch : UInt8}

def NetEvent.apply (net : PairingNet σ τ) : NetEvent → PairingNet σ τ
  | .enablePairing => { net with coordinator := net.coordinator.enablePairing }
  | .disablePairing => { net with coordinator := net.coordinator.disablePairing }
  | .coordinatorLoop nowMs => { net with coordinator := net.coordinator.loop nowMs }
  | .coordinatorReceives src data =>
    { net with coordinator := (net.coordinator.handleReceived src data).2 }
  | .startScanning => { net with client := net.client.startScanning }
  | .clientLoop nowMs => { net with client := net.client.loop nowMs }
  | .clientReceives src data nowMs =>
    { net with client := (net.client.handleReceived src data nowMs).2 }

structure NetInv (coordAddr clientAddr : MacAddress) (ch : UInt8) (net : PairingNet σ τ) :
    Prop where
  channel : net.coordinator.transport.getChannel = ch
  coordinatorCalls : ∀ call ∈ net.coordinator.transport.calls,
    Sends (CoordinatorFrame ch (net.coordinator.isPaired clientAddr)) call
  clientCalls : ∀ call ∈ net.client.transport.calls, Sends ClientFrame call
  agrees : Agreement coordAddr clientAddr ch net

omit [ITransport σ] [ITransport τ] in
theorem agreement_of_state {net : PairingNet σ τ} (h : net.client.state ≠ .PAIRED) :
    Agreement coordAddr clientAddr ch net := by
  intro hp
  exact absurd (of_decide_eq_true hp) h

omit [ITransport τ] in
theorem NetInv.of_start {net : PairingNet σ τ} (h : NetStart ch net) :
    NetInv coordAddr clientAddr ch net :=
  ⟨h.channel, by simp [h.coordinatorSilent], by simp [h.clientSilent],
    agreement_of_state h.unpaired⟩

omit [ITransport τ] in
theorem NetInv.of_coordinatorStep {net : PairingNet σ τ} (h : NetInv coordAddr clientAddr ch net)
    {c' : PairingCoordinator σ} (hstep : CoordinatorStep clientAddr net.coordinator c') :
    NetInv coordAddr clientAddr ch { net with coordinator := c' } := by
  refine ⟨hstep.channel.trans h.channel, ?_, h.clientCalls, ?_⟩
  · intro call hcall
    have hnew := hstep.calls
    rw [h.channel] at hnew
    rcases hnew.mem hcall with hold | hadded
    · have hallowed := h.coordinatorCalls call hold
      cases call with
      | send dst data => exact CoordinatorFrame.mono hallowed hstep.known
      | _ => trivial
    · exact hadded
  · intro hp
    obtain ⟨hknown, hmac, hch⟩ := h.agrees hp
    exact ⟨hstep.known hknown, hmac, hch⟩

omit [ITransport τ] in
theorem NetInv.of_clientStep {net : PairingNet σ τ} (h : NetInv coordAddr clientAddr ch net)
    {x : PairingClient τ}
    (hcalls : Transport.CallsOnly (Sends ClientFrame) net.client.transport x.transport)
    (hagrees : Agreement coordAddr clientAddr ch { net with client := x }) :
    NetInv coordAddr clientAddr ch { net with client := x } := by
  refine ⟨h.channel, h.coordinatorCalls, ?_, hagrees⟩
  intro call hcall
  rcases hcalls.mem hcall with hold | hadded
  · exact h.clientCalls call hold
  · exact hadded

omit [ITransport τ] in
/-- What the network can deliver: a frame of the coordinator or one of the client. -/
theorem NetInv.delivered {net : PairingNet σ τ} (h : NetInv coordAddr clientAddr ch net)
    {src : MacAddress} {data : List UInt8} (hd : Delivered coordAddr clientAddr net src data) :
    (src = coordAddr ∧ CoordinatorFrame ch (net.coordinator.isPaired clientAddr) data) ∨
      (src = clientAddr ∧ ClientFrame data) := by
  rcases hd with ⟨hsrc, call, hcall, dst, rfl⟩ | ⟨hsrc, call, hcall, dst, rfl⟩
  · exact Or.inl ⟨hsrc, h.coordinatorCalls _ hcall⟩
  · exact Or.inr ⟨hsrc, h.clientCalls _ hcall⟩

omit [ITransport τ] in
/-- A delivered frame that reads as an accepting confirm, and is not a beacon, is the
coordinator's acceptance of this client. -/
theorem NetInv.accepting {net : PairingNet σ τ} (h : NetInv coordAddr clientAddr ch net)
    {src : MacAddress} {data : List UInt8} (hd : Delivered coordAddr clientAddr net src data)
    (hbeacon : data ≠ (PairingBeacon.init ch).toBytes) (hconfirm : PairingClient.IsConfirm data)
    (haccepted : (PairingConfirm.ofBytes data).accepted ≠ 0) :
    src = coordAddr ∧ net.coordinator.isPaired clientAddr = true ∧
      (PairingConfirm.ofBytes data).channel = ch := by
  rcases h.delivered hd with ⟨hsrc, hframe⟩ | ⟨_, hframe⟩
  · rcases hframe with hb | rfl | ⟨hknown, rfl⟩ | rfl
    · exact absurd hb hbeacon
    · exact absurd rfl haccepted
    · exact ⟨hsrc, hknown, rfl⟩
    · exact absurd hconfirm (not_isConfirm_ack ch)
  · exact absurd hconfirm hframe.not_isConfirm

theorem clientReceives_agreement {net : PairingNet σ τ}
    (h : NetInv coordAddr clientAddr ch net) {src : MacAddress} {data : List UInt8}
    {nowMs : UInt32} (hd : Delivered coordAddr clientAddr net src data)
    (hbeacon : net.client.state = .RESPONDING → data ≠ (PairingBeacon.init ch).toBytes) :
    Agreement coordAddr clientAddr ch
      { net with client := (net.client.handleReceived src data nowMs).2 } := by
  rcases net.client.handleReceived_cases src data nowMs with ⟨hr, _⟩ | ⟨_, _, hr⟩ | ⟨hs, hf, hr⟩
  · rw [hr]
    exact h.agrees
  · rw [hr]
    exact agreement_of_state (by simp)
  · rw [hr]
    by_cases ha : (PairingConfirm.ofBytes data).accepted = 0
    · refine agreement_of_state ?_
      simp [PairingClient.handleConfirm_rejected net.client src ha, PairingClient.startScanning]
    · obtain ⟨hsrc, hknown, hch⟩ := h.accepting hd (hbeacon hs) hf ha
      obtain ⟨_, hmac, hchannel, _⟩ := PairingClient.handleConfirm_accepted net.client src ha
      intro _
      exact ⟨hknown, hmac.trans hsrc, hchannel.trans hch⟩

theorem clientLoop_agreement {net : PairingNet σ τ} (h : NetInv coordAddr clientAddr ch net)
    (nowMs : UInt32) :
    Agreement coordAddr clientAddr ch { net with client := net.client.loop nowMs } := by
  rcases net.client.loop_cases nowMs with hsame | ⟨_, _, hr⟩
  · intro hp
    have hpaired : net.client.isPaired = true := by
      rw [PairingClient.isPaired, ← hsame.state]
      exact hp
    obtain ⟨hknown, hmac, hch⟩ := h.agrees hpaired
    exact ⟨hknown, hsame.coordinatorMac.trans hmac, hsame.pairedChannel.trans hch⟩
  · rw [hr]
    exact agreement_of_state (by simp [PairingClient.startScanning])

theorem netInv_apply [ChannelFrame σ] {net : PairingNet σ τ}
    (h : NetInv coordAddr clientAddr ch net) {ev : NetEvent}
    (hgenuine : Genuine coordAddr clientAddr net ev) (hbeacon : NoBeaconAsConfirm ch net ev) :
    NetInv coordAddr clientAddr ch (ev.apply net) := by
  cases ev with
  | enablePairing => exact ⟨h.channel, h.coordinatorCalls, h.clientCalls, h.agrees⟩
  | disablePairing => exact ⟨h.channel, h.coordinatorCalls, h.clientCalls, h.agrees⟩
  | coordinatorLoop nowMs => exact h.of_coordinatorStep (coordinatorLoop_step _ nowMs)
  | coordinatorReceives src data =>
    refine h.of_coordinatorStep (coordinatorReceives_step _ src data fun his => ?_)
    -- only the client sends requests
    rcases h.delivered hgenuine with ⟨_, hframe⟩ | ⟨hsrc, _⟩
    · exact absurd his hframe.not_isRequest
    · exact hsrc
  | startScanning =>
    refine h.of_clientStep (startScanning_calls net.client) (agreement_of_state ?_)
    simp [PairingClient.startScanning]
  | clientLoop nowMs =>
    exact h.of_clientStep (clientLoop_calls net.client nowMs) (clientLoop_agreement h nowMs)
  | clientReceives src data nowMs =>
    exact h.of_clientStep (clientReceives_calls net.client src data nowMs)
      (clientReceives_agreement h hgenuine hbeacon)

theorem apply_breaks_agreement {net : PairingNet σ τ} (hch : UsableChannel ch) {ev : NetEvent}
    (hbeacon : ¬ NoBeaconAsConfirm ch net ev) :
    ¬ Agreement coordAddr clientAddr ch (ev.apply net) := by
  cases ev with
  | clientReceives src data nowMs =>
    simp only [NoBeaconAsConfirm, Classical.not_imp, not_not] at hbeacon
    obtain ⟨hs, rfl⟩ := hbeacon
    have hne : ch ≠ 0 := by
      have hlow := hch.1
      grind
    obtain ⟨hstate, _, hchannel, _⟩ := PairingClient.handleConfirm_accepted net.client src
      (show ({ PairingConfirm.init true 0 with accepted := ch } : PairingConfirm).accepted ≠ 0
        from hne)
    intro h
    rw [NetEvent.apply, PairingClient.handleReceived_responding hs (isConfirm_beacon ch),
      PairingConfirm.ofBytes_beacon] at h
    have hpaired := (h (by simp [PairingClient.isPaired, hstate])).2.2
    exact hne (hpaired.symm.trans hchannel)
  | _ => exact absurd trivial hbeacon

/-- Whatever the network does with the frames, coordinator and client agree in every
state of the run if and only if no beacon reaches the client while it waits for a
confirm. -/
theorem pairing_agreement_iff [ChannelFrame σ] (hch : UsableChannel ch) {net : PairingNet σ τ}
    (hstart : NetStart ch net) (evs : List NetEvent)
    (hnet : EachStep NetEvent.apply (Genuine coordAddr clientAddr) net evs) :
    EachState NetEvent.apply (Agreement coordAddr clientAddr ch) net evs ↔
      EachStep NetEvent.apply (NoBeaconAsConfirm ch) net evs :=
  eachState_iff_eachStep (NetInv coordAddr clientAddr ch) (NetInv.of_start hstart) hnet
    (fun _ _ h hgenuine hbeacon => netInv_apply h hgenuine hbeacon)
    (fun _ h => h.agrees)
    (fun _ _ _ _ hbeacon => apply_breaks_agreement hch hbeacon)

end Net

section Example

instance {σ : Type} (t : Transport σ) (data : List UInt8) : Decidable (t.Sent data) :=
  decidable_of_iff (t.calls.any fun call =>
    match call with
    | .send _ d => d == data
    | _ => false) (by
      simp only [List.any_eq_true, Transport.Sent]
      refine exists_congr fun call => and_congr_right ?_
      intro _
      cases call <;> simp)

instance {σ τ : Type} (coordAddr clientAddr : MacAddress) (net : PairingNet σ τ)
    (src : MacAddress) (data : List UInt8) :
    Decidable (Delivered coordAddr clientAddr net src data) :=
  inferInstanceAs (Decidable (_ ∧ _ ∨ _ ∧ _))

instance {σ τ : Type} (coordAddr clientAddr : MacAddress) (net : PairingNet σ τ) :
    ∀ ev, Decidable (Genuine coordAddr clientAddr net ev)
  | .coordinatorReceives src data =>
    inferInstanceAs (Decidable (Delivered coordAddr clientAddr net src data))
  | .clientReceives src data _ =>
    inferInstanceAs (Decidable (Delivered coordAddr clientAddr net src data))
  | .enablePairing | .disablePairing | .coordinatorLoop _ | .startScanning | .clientLoop _ =>
    isTrue trivial

instance {σ τ : Type} (ch : UInt8) (net : PairingNet σ τ) :
    ∀ ev, Decidable (NoBeaconAsConfirm ch net ev)
  | .clientReceives _ _ _ => inferInstanceAs (Decidable (_ → _))
  | .enablePairing | .disablePairing | .coordinatorLoop _ | .coordinatorReceives _ _
  | .startScanning | .clientLoop _ => isTrue trivial

instance {σ τ : Type} (coordAddr clientAddr : MacAddress) (ch : UInt8) (net : PairingNet σ τ) :
    Decidable (Agreement coordAddr clientAddr ch net) :=
  inferInstanceAs (Decidable (_ → _))

def pairingNet : PairingNet (EspNowTransport SimRadio) (EspNowTransport SimRadio) :=
  { coordinator := PairingCoordinator.new (simTransport coordMac 6) Preferences.empty,
    client := freshClient }

def oneBeacon : List NetEvent :=
  [.enablePairing, .coordinatorLoop 1000, .startScanning,
    .clientReceives coordMac (PairingBeacon.init 6).toBytes 1001]

theorem pairing_agreement_handshake :
    EachState NetEvent.apply (Agreement coordMac clientMac 6) pairingNet
      (oneBeacon ++ [.coordinatorReceives clientMac (PairingRequest.init 7).toBytes,
        .clientReceives coordMac (PairingConfirm.init true 6).toBytes 1010]) :=
  (pairing_agreement_iff ⟨by decide, by decide⟩
    ⟨by decide, by decide, by decide, by decide⟩ _ (by decide)).mpr (by decide)

/-- The beacon is delivered twice: the client is paired on channel 0 with a coordinator
that has never heard of it. -/
theorem duplicate_beacon_breaks_agreement :
    EachStep NetEvent.apply (Genuine coordMac clientMac) pairingNet
        (oneBeacon ++ [.clientReceives coordMac (PairingBeacon.init 6).toBytes 1002]) ∧
      ¬ EachState NetEvent.apply (Agreement coordMac clientMac 6) pairingNet
        (oneBeacon ++ [.clientReceives coordMac (PairingBeacon.init 6).toBytes 1002]) := by
  decide

end Example

end UngulaNet.Pairing
