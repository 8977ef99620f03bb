import UngulaNet.Comm.MessageHeader
import UngulaNet.Pairing.ClientChannel
import UngulaNet.Pairing.CoordinatorOutput

/-!
# Application messages beside the pairing traffic

A device hands every received buffer to the pairing object first, and what that does not
consume to the application, which takes it by its header's protocol version. A version that
is the first byte of neither magic keeps the two apart. `message_taken_iff` tells which
messages the pairing objects take for their own.
-/

namespace UngulaNet.Connection
open Comm Pairing Runs
set_option autoImplicit false

/-- A message as the application sees it, with the sender. -/
abbrev AppMessage := MacAddress × MessageHeader × List UInt8

/-- A pairing object and what the receive callback has passed on to the application. -/
structure Device (S : Type) where
  pairing : S
  inbox : List AppMessage := []

structure Received where
  src : MacAddress
  data : List UInt8
  nowMs : UInt32

def readMessage (r : Received) : Option AppMessage :=
  (extractHeader r.data).map fun h => (r.src, h, (extractPayload r.data).getD [])

section Device
variable {S : Type} (hear : S → Received → Bool × S) (version : UInt8)

/-- The receive callback: `if (pairing.handleReceived(...)) return;`, then the
application. -/
def Device.onMessage (d : Device S) (r : Received) : Device S :=
  let result := hear d.pairing r
  if result.1 then { d with pairing := result.2 }
  else if isValidHeader r.data version then
    { pairing := result.2, inbox := d.inbox ++ (readMessage r).toList }
  else { d with pairing := result.2 }

def isMessage (r : Received) : Bool := isValidHeader r.data version

variable {hear version}

/-- If the pairing object leaves alone what has the application's version, each side gets
just its own part of the traffic. -/
theorem Device.run_separates
    (passes : ∀ s r, isMessage version r = true → hear s r = (false, s))
    (d : Device S) (rs : List Received) :
    run (Device.onMessage hear version) d rs =
      { pairing :=
          run (fun s r => (hear s r).2) d.pairing (rs.filter fun r => !isMessage version r),
        inbox := d.inbox ++ (rs.filter (isMessage version)).filterMap readMessage } := by
  induction rs generalizing d with
  | nil => simp
  | cons r rs ih =>
    rw [run_cons, ih]
    cases hr : isMessage version r with
    | true =>
      have hstep : Device.onMessage hear version d r =
          { d with inbox := d.inbox ++ (readMessage r).toList } := by
        unfold isMessage at hr
        simp [Device.onMessage, passes d.pairing r hr, hr]
      rw [hstep]
      cases hread : readMessage r <;> simp [hr, hread]
    | false =>
      have hstep : Device.onMessage hear version d r =
          { d with pairing := (hear d.pairing r).2 } := by
        unfold isMessage at hr
        unfold Device.onMessage
        dsimp only
        split
        · rfl
        · rw [if_neg (by simp [hr])]
      rw [hstep]
      simp [hr]

end Device

section Pairing
variable {σ τ : Type} [ITransport σ] [ITransport τ]

def coordinatorHears (c : PairingCoordinator σ) (r : Received) : Bool × PairingCoordinator σ :=
  c.handleReceived r.src r.data

def clientHears (x : PairingClient τ) (r : Received) : Bool × PairingClient τ :=
  x.handleReceived r.src r.data r.nowMs

theorem isMessage_iff {version : UInt8} {r : Received} : isMessage version r = true ↔
    MessageHeader.size ≤ r.data.length ∧ r.data.getD 0 0 = version := by
  unfold isMessage isValidHeader
  split
  · rename_i hshort
    exact iff_of_false Bool.false_ne_true fun h => absurd h.1 (Nat.not_le.mpr hshort)
  · rename_i hlen
    exact ⟨fun h => ⟨Nat.not_lt.mp hlen, beq_iff_eq.mp h⟩, fun h => beq_iff_eq.mpr h.2⟩

theorem first_of_take {data magic : List UInt8} (h : data.take 4 = magic) :
    data.getD 0 0 = magic.getD 0 0 := by
  rw [← h, List.getD_eq_getElem?_getD, List.getD_eq_getElem?_getD,
    List.getElem?_take_of_lt (by decide)]

theorem coordinator_passes {version : UInt8} (hp : version ≠ 0xD1) (hr : version ≠ 0xAC)
    (c : PairingCoordinator σ) {r : Received} (h : isMessage version r = true) :
    coordinatorHears c r = (false, c) := by
  obtain ⟨_, hversion⟩ := isMessage_iff.mp h
  refine c.handleReceived_other r.src ?_ ?_
  · intro hprobe
    exact hr (hversion.symm.trans (first_of_take (magic_of_isReconnectProbe hprobe)))
  · intro hrequest
    exact hp (hversion.symm.trans
      (first_of_take (PairingCoordinator.magic_of_isRequest hrequest)))

theorem client_passes {version : UInt8} (hp : version ≠ 0xD1) (x : PairingClient τ)
    {r : Received} (h : isMessage version r = true) : clientHears x r = (false, x) := by
  obtain ⟨_, hversion⟩ := isMessage_iff.mp h
  have hmagic : ¬ r.data.take 4 = PAIRING_MAGIC := fun hm =>
    hp (hversion.symm.trans (first_of_take hm))
  rcases x.handleReceived_cases r.src r.data r.nowMs with ⟨he, _⟩ | ⟨_, hb, _⟩ | ⟨_, hc, _⟩
  · exact he
  · have hconfirm : PairingClient.IsConfirm r.data :=
      ⟨hb.1, (isValid_beacon_eq_confirm r.data).symm.trans hb.2⟩
    exact absurd (not_not.mp (PairingClient.magic_of_isConfirm hconfirm).2) hmagic
  · exact absurd (not_not.mp (PairingClient.magic_of_isConfirm hc).2) hmagic

theorem readMessage_message (src : MacAddress) (h : MessageHeader) (payload : List UInt8)
    (nowMs : UInt32) : readMessage ⟨src, message h payload, nowMs⟩ = some (src, h, payload) := by
  unfold readMessage
  rw [extractHeader_message, extractPayload_message]
  by_cases hp : payload = []
  · rw [if_pos hp, hp]
    rfl
  · rw [if_neg hp]
    rfl

/-- Whatever arrives, in whatever order: with a protocol version that is the first byte of
neither magic, the application of a coordinator and that of a client get every message with
that version, as it was sent, and nothing else; and the pairing objects are as if no such
message had come. -/
theorem traffic_separates {version : UInt8} (hp : version ≠ 0xD1) (hr : version ≠ 0xAC)
    (dc : Device (PairingCoordinator σ)) (dx : Device (PairingClient τ)) (rs : List Received) :
    let messages := (rs.filter (isMessage version)).filterMap readMessage
    let others := rs.filter fun r => !isMessage version r
    run (Device.onMessage coordinatorHears version) dc rs =
        { pairing := run (fun c r => (coordinatorHears c r).2) dc.pairing others,
          inbox := dc.inbox ++ messages } ∧
      run (Device.onMessage clientHears version) dx rs =
        { pairing := run (fun x r => (clientHears x r).2) dx.pairing others,
          inbox := dx.inbox ++ messages } ∧
      ∀ src h payload nowMs, ⟨src, message h payload, nowMs⟩ ∈ rs → h.protocolVersion = version →
        (src, h, payload) ∈ messages := by
  intro messages others
  refine ⟨Device.run_separates (fun c r h => coordinator_passes hp hr c h) dc rs,
    Device.run_separates (fun x r h => client_passes hp x h) dx rs, ?_⟩
  intro src h payload nowMs hmem hversion
  refine List.mem_filterMap.mpr ⟨_, List.mem_filter.mpr ⟨hmem, ?_⟩,
    readMessage_message src h payload nowMs⟩
  exact (isValidHeader_message h payload version).mpr hversion

end Pairing

section Collisions
variable {σ τ : Type} [ITransport σ] [ITransport τ]

/-- The first four fields of the header are the bytes of a magic. -/
def Spells (h : MessageHeader) (magic : List UInt8) : Prop :=
  [h.protocolVersion, h.messageType, h.sourceDeviceId, h.sequenceNumber] = magic

instance (h : MessageHeader) (magic : List UInt8) : Decidable (Spells h magic) :=
  inferInstanceAs (Decidable (_ = _))

theorem message_fields (h : MessageHeader) (payload : List UInt8) :
    (message h payload).take 4 =
        [h.protocolVersion, h.messageType, h.sourceDeviceId, h.sequenceNumber] ∧
      byteAt (message h payload) 4 = h.flags ∧ 8 ≤ (message h payload).length := by
  refine ⟨rfl, rfl, ?_⟩
  rw [message_length]
  exact Nat.le_add_right 8 _

theorem isReconnectProbe_message (h : MessageHeader) (payload : List UInt8) :
    IsReconnectProbe (message h payload) ↔ Spells h RECONNECT_MAGIC := by
  obtain ⟨hmagic, _, hlen⟩ := message_fields h payload
  simp only [IsReconnectProbe, hlen, true_and, ReconnectProbe.isValid, ReconnectProbe.ofBytes,
    hmagic, beq_iff_eq, Spells]

theorem isRequest_message (h : MessageHeader) (payload : List UInt8) :
    PairingCoordinator.IsRequest (message h payload) ↔
      Spells h PAIRING_MAGIC ∧ h.flags = PAIRING_ROLE_CLIENT := by
  obtain ⟨hmagic, hflags, hlen⟩ := message_fields h payload
  simp only [PairingCoordinator.IsRequest, hlen, true_and, PairingRequest.isValid,
    PairingRequest.ofBytes, hmagic, hflags, Bool.and_eq_true, beq_iff_eq, Spells]

theorem isConfirm_message (h : MessageHeader) (payload : List UInt8) :
    PairingClient.IsConfirm (message h payload) ↔
      Spells h PAIRING_MAGIC ∧ h.flags = PAIRING_ROLE_COORDINATOR := by
  obtain ⟨hmagic, hflags, hlen⟩ := message_fields h payload
  simp only [PairingClient.IsConfirm, PairingConfirm.size, hlen, true_and,
    PairingConfirm.isValid, PairingConfirm.ofBytes, hmagic, hflags, Bool.and_eq_true,
    beq_iff_eq, Spells]

/-- In every state, for every message: the coordinator takes it for a probe or a request,
and the client for a beacon or a confirm, exactly when its header looks like one. What is
not taken changes nothing. -/
theorem message_taken_iff (c : PairingCoordinator σ) (x : PairingClient τ) (src : MacAddress)
    (h : MessageHeader) (payload : List UInt8) (nowMs : UInt32) :
    let toCoordinator := c.handleReceived src (message h payload)
    let toClient := x.handleReceived src (message h payload) nowMs
    (toCoordinator.1 = true ↔ Spells h RECONNECT_MAGIC ∨
        (Spells h PAIRING_MAGIC ∧ h.flags = PAIRING_ROLE_CLIENT)) ∧
      (toClient.1 = true ↔ Spells h PAIRING_MAGIC ∧ h.flags = PAIRING_ROLE_COORDINATOR ∧
        (x.state = .SCANNING ∨ x.state = .RESPONDING)) ∧
      (toCoordinator.1 = false → toCoordinator.2 = c) ∧
      (toClient.1 = false → toClient.2 = x) := by
  intro toCoordinator toClient
  have hprobe := isReconnectProbe_message h payload
  have hrequest := isRequest_message h payload
  have hconfirm := isConfirm_message h payload
  have hcoordinator : (toCoordinator.1 = true ↔ IsReconnectProbe (message h payload) ∨
      PairingCoordinator.IsRequest (message h payload)) ∧
      (toCoordinator.1 = false → toCoordinator.2 = c) := by
    simp only [toCoordinator]
    by_cases hp : IsReconnectProbe (message h payload)
    · rw [c.handleReceived_probe src hp]
      exact ⟨iff_of_true rfl (Or.inl hp), fun hf => Bool.noConfusion hf⟩
    by_cases hr : PairingCoordinator.IsRequest (message h payload)
    · rw [c.handleReceived_request src hr]
      exact ⟨iff_of_true rfl (Or.inr hr), fun hf => Bool.noConfusion hf⟩
    · rw [c.handleReceived_other src hp hr]
      exact ⟨iff_of_false Bool.false_ne_true (not_or.mpr ⟨hp, hr⟩), fun _ => rfl⟩
  have hclient : (toClient.1 = true ↔ PairingClient.IsConfirm (message h payload) ∧
      (x.state = .SCANNING ∨ x.state = .RESPONDING)) ∧
      (toClient.1 = false → toClient.2 = x) := by
    simp only [toClient]
    rcases x.handleReceived_cases src (message h payload) nowMs with
      ⟨he, hnotBeacon, hnotConfirm⟩ | ⟨hs, hb, he⟩ | ⟨hs, hc, he⟩ <;> rw [he]
    · refine ⟨iff_of_false Bool.false_ne_true ?_, fun _ => rfl⟩
      rintro ⟨hc, hs | hs⟩
      · exact hnotBeacon ⟨hs, hc.1, (isValid_beacon_eq_confirm _).trans hc.2⟩
      · exact hnotConfirm ⟨hs, hc⟩
    · exact ⟨iff_of_true rfl ⟨⟨hb.1, (isValid_beacon_eq_confirm _).symm.trans hb.2⟩, Or.inl hs⟩,
        fun hf => Bool.noConfusion hf⟩
    · exact ⟨iff_of_true rfl ⟨hc, Or.inr hs⟩, fun hf => Bool.noConfusion hf⟩
  refine ⟨?_, ?_, hcoordinator.2, hclient.2⟩
  · rw [hcoordinator.1, hprobe, hrequest]
  · rw [hclient.1, hconfirm, and_assoc]

end Collisions

section Example

def statusHeader : MessageHeader := ⟨1, 4, 7, 0x11, 0, [0, 0, 0], rfl⟩

/-- A request, a status message and a beacon that strayed here. -/
def mixedTraffic : List Received :=
  [⟨clientMac, (PairingRequest.init 7).toBytes, 100⟩,
    ⟨clientMac, message statusHeader [20, 55], 110⟩,
    ⟨coordMac, (PairingBeacon.init 6).toBytes, 120⟩]

theorem mixedTraffic_separates :
    (run (Device.onMessage coordinatorHears 1) { pairing := pairingCoordinator } mixedTraffic).inbox =
        [(clientMac, statusHeader, [20, 55])] ∧
      (run (Device.onMessage clientHears 1) { pairing := freshClient } mixedTraffic).inbox =
        [(clientMac, statusHeader, [20, 55])] := by
  have hpairing : (1 : UInt8) ≠ 0xD1 := by decide
  obtain ⟨hcoordinator, hclient, _⟩ := traffic_separates hpairing (by decide)
    { pairing := pairingCoordinator } { pairing := freshClient } mixedTraffic
  rw [hcoordinator, hclient]
  exact ⟨rfl, rfl⟩

end Example
end UngulaNet.Connection
