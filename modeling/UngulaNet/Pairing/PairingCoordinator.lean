import Mathlib.Data.Fin.Basic
import UngulaNet.Foundation.Slots
import UngulaNet.Preferences
import UngulaNet.Comm.TransportTypes
import UngulaNet.Connection.ReconnectMessages

/-!
# The pairing coordinator

`PairingCoordinator` as the code computes it: the table of paired clients, its load
from and its writes to the preference store, the beacon loop, and the dispatcher for
received buffers. Searches with an early `break` are `Fin.find?`, which returns the
first index. The callback registered with `onClientPaired` is a flag; its invocations
are listed in `pairedEvents`.
-/

namespace UngulaNet.Pairing
open Comm Slots
set_option autoImplicit false

def MAX_PAIRED_CLIENTS : Nat := 2

structure PairedClientInfo where
  mac : MacAddress := .cleared
  deviceId : UInt8 := 0
  active : Bool := false
  deriving DecidableEq

def macKey (i : Nat) : String := "pair_mac_" ++ i.repr
def idKey (i : Nat) : String := "pair_id_" ++ i.repr

structure PairingCoordinator (σ : Type) where
  transport : Transport σ
  prefs : Preferences
  pairingEnabled : Bool := false
  lastBeaconMs : UInt32 := 0
  clients : Fin MAX_PAIRED_CLIENTS → PairedClientInfo := fun _ => {}
  onPairedCb : Bool := false
  pairedEvents : List (MacAddress × UInt8) := []

namespace PairingCoordinator
variable {σ : Type} [ITransport σ]

def new (transport : Transport σ) (prefs : Preferences) : PairingCoordinator σ :=
  { transport := transport, prefs := prefs }

/-- One turn of the load loop. The blob is read straight into the slot's MAC, whether
or not it turns out to be a whole address. -/
def loadSlot (i : Fin MAX_PAIRED_CLIENTS) (c : PairingCoordinator σ) : PairingCoordinator σ :=
  let read := c.prefs.getBytes (macKey i) MacAddress.ADDR_LEN
  let mac := (c.clients i).mac.copyInto read
  if read.length = MacAddress.ADDR_LEN ∧ mac.isZero = false then
    { c with
      clients := Function.update c.clients i
        { mac := mac, deviceId := c.prefs.getUInt8 (idKey i) 0, active := true },
      transport := c.transport.addPeer mac 0 }
  else
    { c with clients := Function.update c.clients i { c.clients i with mac := mac } }

def loadPairedClients (c : PairingCoordinator σ) : PairingCoordinator σ := sweep loadSlot c

def enablePairing (c : PairingCoordinator σ) : PairingCoordinator σ :=
  { c with pairingEnabled := true, lastBeaconMs := 0 }

def disablePairing (c : PairingCoordinator σ) : PairingCoordinator σ :=
  { c with pairingEnabled := false }

def isPairingEnabled (c : PairingCoordinator σ) : Bool := c.pairingEnabled

def broadcastBeacon (c : PairingCoordinator σ) : PairingCoordinator σ :=
  let beacon := PairingBeacon.init c.transport.getChannel
  { c with
    transport := (c.transport.addPeer .broadcast 0).send .broadcast beacon.toBytes }

def loop (c : PairingCoordinator σ) (nowMs : UInt32) : PairingCoordinator σ :=
  if !c.pairingEnabled then c
  else if nowMs - c.lastBeaconMs ≥ BEACON_INTERVAL_MS then
    broadcastBeacon { c with lastBeaconMs := nowMs }
  else c

def getPairedClient (c : PairingCoordinator σ) (index : UInt8) : Option PairedClientInfo :=
  if h : index.toNat < MAX_PAIRED_CLIENTS then
    let info := c.clients ⟨index.toNat, h⟩
    if info.active then some info else none
  else none

def slotOf (c : PairingCoordinator σ) (mac : MacAddress) : Option (Fin MAX_PAIRED_CLIENTS) :=
  Fin.find? fun i => (c.clients i).active && (c.clients i).mac == mac

def freeSlot (c : PairingCoordinator σ) : Option (Fin MAX_PAIRED_CLIENTS) :=
  Fin.find? fun i => !(c.clients i).active

def slotWithId (c : PairingCoordinator σ) (deviceId : UInt8) :
    Option (Fin MAX_PAIRED_CLIENTS) :=
  Fin.find? fun i => (c.clients i).active && (c.clients i).deviceId == deviceId

def isPaired (c : PairingCoordinator σ) (mac : MacAddress) : Bool := (c.slotOf mac).isSome

def pairedClientCount (c : PairingCoordinator σ) : UInt8 :=
  (List.finRange MAX_PAIRED_CLIENTS).foldl
    (fun count i => if (c.clients i).active then count + 1 else count) 0

def unpairSlot (i : Fin MAX_PAIRED_CLIENTS) (c : PairingCoordinator σ) : PairingCoordinator σ :=
  let transport :=
    if (c.clients i).active then c.transport.removePeer (c.clients i).mac else c.transport
  let prefs := if c.prefs.hasKey (macKey i) then c.prefs.remove (macKey i) else c.prefs
  let prefs := if prefs.hasKey (idKey i) then prefs.remove (idKey i) else prefs
  { c with
    transport := transport, prefs := prefs, clients := Function.update c.clients i {} }

def unpairAll (c : PairingCoordinator σ) : PairingCoordinator σ := sweep unpairSlot c

/-- The tail of `storePairedClient`: fill the slot, then persist it. -/
def fillSlot (c : PairingCoordinator σ) (slot : Fin MAX_PAIRED_CLIENTS) (mac : MacAddress)
    (deviceId : UInt8) : PairingCoordinator σ :=
  { c with
    clients := Function.update c.clients slot
      { mac := mac, deviceId := deviceId, active := true },
    prefs := (c.prefs.putBytes (macKey slot) mac.addr).putUInt8 (idKey slot) deviceId }

def storePairedClient (c : PairingCoordinator σ) (mac : MacAddress) (deviceId : UInt8) :
    Bool × PairingCoordinator σ :=
  match c.slotOf mac with
  | some i =>
    -- already paired: the id is updated in memory, and the function returns here
    (true, { c with
      clients := Function.update c.clients i { c.clients i with deviceId := deviceId } })
  | none =>
    match c.freeSlot with
    | some slot => (true, c.fillSlot slot mac deviceId)
    | none =>
      match c.slotWithId deviceId with
      | some slot =>
        (true, fillSlot { c with transport := c.transport.removePeer (c.clients slot).mac }
          slot mac deviceId)
      | none => (false, c)

def handlePairingRequest (c : PairingCoordinator σ) (srcMac : MacAddress)
    (req : PairingRequest) : PairingCoordinator σ :=
  let (stored, c) := c.storePairedClient srcMac req.deviceId
  let transport := c.transport.addPeer srcMac 0
  let confirm := PairingConfirm.init stored transport.getChannel
  let c := { c with transport := transport.send srcMac confirm.toBytes }
  if stored && c.onPairedCb then
    { c with pairedEvents := c.pairedEvents ++ [(srcMac, req.deviceId)] }
  else c

def handleReconnectProbe (c : PairingCoordinator σ) (srcMac : MacAddress)
    (_probe : ReconnectProbe) : PairingCoordinator σ :=
  if !c.isPaired srcMac then c
  else
    let currentChannel := c.transport.getChannel
    let ack := ReconnectAck.init currentChannel
    { c with transport := (c.transport.addPeer srcMac 0).send srcMac ack.toBytes }

def handleReceived (c : PairingCoordinator σ) (srcMac : MacAddress) (data : List UInt8) :
    Bool × PairingCoordinator σ :=
  if data.length < 8 then (false, c)
  else if data.take 4 = RECONNECT_MAGIC ∧ (ReconnectProbe.ofBytes data).isValid = true then
    (true, c.handleReconnectProbe srcMac (ReconnectProbe.ofBytes data))
  else if data.take 4 = PAIRING_MAGIC ∧ (PairingRequest.ofBytes data).isValid = true then
    (true, c.handlePairingRequest srcMac (PairingRequest.ofBytes data))
  else (false, c)

def onClientPaired (c : PairingCoordinator σ) : PairingCoordinator σ :=
  { c with onPairedCb := true }

end PairingCoordinator

/-- The public operations of a `PairingCoordinator` that change it. -/
inductive CoordinatorOp where
  | loadPairedClients
  | enablePairing
  | disablePairing
  | loop (nowMs : UInt32)
  | handleReceived (srcMac : MacAddress) (data : List UInt8)
  | onClientPaired
  | unpairAll

def CoordinatorOp.apply {σ : Type} [ITransport σ] (c : PairingCoordinator σ) :
    CoordinatorOp → PairingCoordinator σ
  | .loadPairedClients => c.loadPairedClients
  | .enablePairing => c.enablePairing
  | .disablePairing => c.disablePairing
  | .loop nowMs => c.loop nowMs
  | .handleReceived srcMac data => (c.handleReceived srcMac data).2
  | .onClientPaired => c.onClientPaired
  | .unpairAll => c.unpairAll

end UngulaNet.Pairing
