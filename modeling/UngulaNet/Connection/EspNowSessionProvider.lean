import UngulaNet.Connection.ConnectionManager
import UngulaNet.Connection.ReconnectMessages
import UngulaNet.Pairing.ClientChannel

/-!
# The ESP-NOW session provider

`EspNowSessionProvider` as the code computes it. It shares its transport with the
pairing client, so the transport is that of the client. The application's probe callback
is a function on the transport it sends through, absent for a null pointer.
-/

namespace UngulaNet.Connection
open Comm Pairing
set_option autoImplicit false

structure EspNowSessionProvider (σ : Type) where
  pairing : PairingClient σ
  probeCb : Option (MacAddress → Transport σ → Transport σ)
  reacquiring : Bool := false
  reacquisitionDone : Bool := false
  scanIndex : UInt8 := 0

namespace EspNowSessionProvider
variable {σ : Type} [ITransport σ]

def new (pairing : PairingClient σ) (probeCb : Option (MacAddress → Transport σ → Transport σ)) :
    EspNowSessionProvider σ :=
  { pairing := pairing, probeCb := probeCb }

def transport (s : EspNowSessionProvider σ) : Transport σ := s.pairing.transport

def setTransport (s : EspNowSessionProvider σ) (t : Transport σ) : EspNowSessionProvider σ :=
  { s with pairing := { s.pairing with transport := t } }

def hasPairing (s : EspNowSessionProvider σ) : Bool := s.pairing.isPaired

def startDiscovery (s : EspNowSessionProvider σ) : EspNowSessionProvider σ :=
  { s with pairing := s.pairing.startScanning }

def loopDiscovery (s : EspNowSessionProvider σ) (nowMs : UInt32) : EspNowSessionProvider σ :=
  { s with pairing := s.pairing.loop nowMs }

def isDiscoveryComplete (s : EspNowSessionProvider σ) : Bool := s.pairing.isPaired

def sendProbe (s : EspNowSessionProvider σ) : EspNowSessionProvider σ :=
  if !s.pairing.isPaired then s
  else
    match s.probeCb with
    | none => s
    | some probeCb =>
      let coordMac := s.pairing.coordinatorMac
      s.setTransport (probeCb coordMac (s.transport.addPeer coordMac 0))

def startReacquisition (s : EspNowSessionProvider σ) : EspNowSessionProvider σ :=
  { s with reacquiring := true, reacquisitionDone := false, scanIndex := 0 }

/-- The channel probed at the present scan index. -/
def scanChannel (s : EspNowSessionProvider σ) : UInt8 :=
  let channels := s.pairing.scanChannels
  if channels.configured ∧ channels.count > 0 then
    channels.entry (s.scanIndex % channels.count).toNat
  else (s.scanIndex % MAX_SCAN_CHANNELS) + 1

def sendReconnectProbeOnChannel (s : EspNowSessionProvider σ) (channel : UInt8) :
    EspNowSessionProvider σ :=
  let coordMac := s.pairing.coordinatorMac
  let probe := ReconnectProbe.init s.pairing.deviceId
  s.setTransport
    (((s.transport.setChannel channel).addPeer coordMac 0).send coordMac probe.toBytes)

def loopReacquisition (s : EspNowSessionProvider σ) (_nowMs : UInt32) :
    Bool × EspNowSessionProvider σ :=
  if !s.reacquiring || !s.pairing.isPaired then (false, s)
  else
    let s := s.sendReconnectProbeOnChannel s.scanChannel
    (true, { s with scanIndex := s.scanIndex + 1 })

def isReacquisitionComplete (s : EspNowSessionProvider σ) : Bool := s.reacquisitionDone

def resetReacquisition (s : EspNowSessionProvider σ) : EspNowSessionProvider σ :=
  { s with reacquiring := false, reacquisitionDone := false, scanIndex := 0 }

def onReconnectAck (s : EspNowSessionProvider σ) (ack : ReconnectAck) :
    Bool × EspNowSessionProvider σ :=
  if !s.reacquiring then (false, s)
  else
    let s := s.setTransport (s.transport.setChannel ack.channel)
    let s := { s with pairing := s.pairing.setPairedChannel ack.channel }
    let s := s.setTransport (s.transport.addPeer s.pairing.coordinatorMac 0)
    (true, { s with reacquisitionDone := true })

instance : ISessionProvider (EspNowSessionProvider σ) where
  hasPairing := hasPairing
  startDiscovery := startDiscovery
  loopDiscovery := loopDiscovery
  isDiscoveryComplete := isDiscoveryComplete
  sendProbe := sendProbe
  startReacquisition := startReacquisition
  loopReacquisition := loopReacquisition
  isReacquisitionComplete := isReacquisitionComplete
  resetReacquisition := resetReacquisition

theorem onReconnectAck_idle {s : EspNowSessionProvider σ} (h : s.reacquiring = false)
    (ack : ReconnectAck) : s.onReconnectAck ack = (false, s) := by
  simp [onReconnectAck, h]

/-- An ack that is waited for is handed to the radio and to the client, and nobody asks
what they did with it. -/
theorem onReconnectAck_accepts {s : EspNowSessionProvider σ} (h : s.reacquiring = true)
    (ack : ReconnectAck) : s.onReconnectAck ack = (true, { s with
      pairing := { s.pairing.setPairedChannel ack.channel with
        transport := (s.transport.setChannel ack.channel).addPeer s.pairing.coordinatorMac 0 },
      reacquisitionDone := true }) := by
  have hset := s.pairing.setPairedChannel_withTransport
    (s.transport.setChannel ack.channel) ack.channel
  rw [onReconnectAck, if_neg (by simp [h])]
  simp only [setTransport, hset]
  rw [s.pairing.setPairedChannel_coordinatorMac]
  rfl

theorem loopReacquisition_unpaired {s : EspNowSessionProvider σ}
    (h : s.pairing.isPaired = false) (nowMs : UInt32) :
    s.loopReacquisition nowMs = (false, s) := by
  simp [loopReacquisition, h]

/-- A scan that runs probes the channel at its index and moves the index on. -/
theorem loopReacquisition_probes {s : EspNowSessionProvider σ} (hr : s.reacquiring = true)
    (hp : s.pairing.isPaired = true) (nowMs : UInt32) : s.loopReacquisition nowMs =
      (true, { s.sendReconnectProbeOnChannel s.scanChannel with
        scanIndex := s.scanIndex + 1 }) := by
  rw [loopReacquisition, if_neg (by simp [hr, hp])]
  rfl

/-- Of a probe only the transport sees anything. -/
theorem sendProbe_eq (s : EspNowSessionProvider σ) : ∃ t, s.sendProbe = s.setTransport t := by
  unfold sendProbe
  split
  · exact ⟨s.transport, rfl⟩
  · split
    · exact ⟨s.transport, rfl⟩
    · exact ⟨_, rfl⟩

/-- A scan moves the transport and its own index, nothing else. -/
theorem loopReacquisition_eq (s : EspNowSessionProvider σ) (nowMs : UInt32) :
    ∃ t i, (s.loopReacquisition nowMs).2 = { s.setTransport t with scanIndex := i } := by
  unfold loopReacquisition
  split
  · exact ⟨s.transport, s.scanIndex, rfl⟩
  · exact ⟨_, _, rfl⟩

theorem sendProbe_fields (s : EspNowSessionProvider σ) :
    s.sendProbe.reacquiring = s.reacquiring ∧
      s.sendProbe.reacquisitionDone = s.reacquisitionDone ∧
      s.sendProbe.scanIndex = s.scanIndex := by
  obtain ⟨t, he⟩ := s.sendProbe_eq
  rw [he]
  exact ⟨rfl, rfl, rfl⟩

theorem loopReacquisition_fields (s : EspNowSessionProvider σ) (nowMs : UInt32) :
    (s.loopReacquisition nowMs).2.reacquiring = s.reacquiring ∧
      (s.loopReacquisition nowMs).2.reacquisitionDone = s.reacquisitionDone := by
  obtain ⟨t, i, he⟩ := s.loopReacquisition_eq nowMs
  rw [he]
  exact ⟨rfl, rfl⟩

end EspNowSessionProvider

section Example

/-- A client that has just paired with the coordinator on channel 6. -/
def pairedClient : PairingClient (EspNowTransport SimRadio) :=
  Runs.run ClientOp.apply freshClient
    [.startScanning, .handleReceived coordMac (PairingBeacon.init 6).toBytes 1000,
      .handleReceived coordMac (PairingConfirm.init true 6).toBytes 1010]

def pairedSession : Session (EspNowSessionProvider (EspNowTransport SimRadio)) :=
  { provider := EspNowSessionProvider.new pairedClient (some fun coordMac t =>
      t.send coordMac [0x01]) }

end Example
end UngulaNet.Connection
