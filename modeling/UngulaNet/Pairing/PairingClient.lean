import UngulaNet.Preferences
import UngulaNet.Comm.TransportTypes
import UngulaNet.Pairing.PairingBeacon

/-!
# The pairing client

`PairingClient` as the code computes it: loading a stored pairing, scanning for a
coordinator, answering a beacon, completing on a confirm, and persisting the result.
The C++ object holds references to a transport and to a preference store; here both
are fields of its state. The registered `OnPairedCallback` is a flag, and its
invocations are listed in `pairedEvents`.
-/

namespace UngulaNet.Pairing
open Comm
set_option autoImplicit false

/-- The caller's channel list with its `uint8_t` count. An empty list is both a null
pointer and a zero count, which the code never tells apart. -/
structure ScanChannels where
  entries : List UInt8
  length_lt : entries.length < 256

namespace ScanChannels

def none : ScanChannels := ⟨[], by decide⟩

def configured (s : ScanChannels) : Bool := s.entries ≠ []

def count (s : ScanChannels) : UInt8 := UInt8.ofNat s.entries.length

def entry (s : ScanChannels) (i : Nat) : UInt8 := s.entries.getD i 0

/-- `scanChannels_[0]`, or 1 without a list. -/
def first (s : ScanChannels) : UInt8 := if s.configured then s.entry 0 else 1

end ScanChannels

structure StoredPairing where
  coordinatorMac : MacAddress := .cleared
  channel : UInt8 := 0
  valid : Bool := false
  deriving DecidableEq

structure PairingClient (σ : Type) where
  transport : Transport σ
  prefs : Preferences
  deviceId : UInt8
  state : PairingState := .IDLE
  scanChannels : ScanChannels := .none
  scanIndex : UInt8 := 0
  currentScanChannel : UInt8 := 1
  channelStartMs : UInt32 := 0
  pairingStartMs : UInt32 := 0
  coordinatorMac : MacAddress := .cleared
  pairedChannel : UInt8 := 0
  onPairedCb : Bool := false
  pairedEvents : List (MacAddress × UInt8) := []

namespace PairingClient
variable {σ : Type} [ITransport σ]

def new (transport : Transport σ) (prefs : Preferences) (deviceId : UInt8) : PairingClient σ :=
  { transport := transport, prefs := prefs, deviceId := deviceId }

/-- Channel validation on load: in 1..13, and in the scan list when there is one. -/
def channelValid (scan : ScanChannels) (channel : UInt8) : Bool :=
  if channel > 0 ∧ channel ≤ MAX_SCAN_CHANNELS then
    if scan.configured then scan.entries.contains channel else true
  else false

def loadStoredPairing (c : PairingClient σ) : StoredPairing × PairingClient σ :=
  let flag := c.prefs.getUInt8 PREF_KEY_PAIRED_FLAG 0
  if flag ≠ 1 then ({}, c)
  else
    let read := c.prefs.getBytes PREF_KEY_PAIRED_MAC MacAddress.ADDR_LEN
    let mac := MacAddress.cleared.copyInto read
    let channel := c.prefs.getUInt8 PREF_KEY_PAIRED_CHANNEL 0
    if read.length ≠ MacAddress.ADDR_LEN ∨ mac.isZero = true then
      ({ coordinatorMac := mac, channel := channel, valid := false }, c)
    else if channelValid c.scanChannels channel then
      ({ coordinatorMac := mac, channel := channel, valid := true },
        { c with
          coordinatorMac := mac, state := .PAIRED, pairedChannel := channel,
          transport := (c.transport.setChannel channel).addPeer mac 0 })
    else
      -- the stored channel is stale: keep the MAC, start on the first scan channel
      let fallbackCh := c.scanChannels.first
      ({ coordinatorMac := mac, channel := fallbackCh, valid := true },
        { c with
          coordinatorMac := mac, state := .PAIRED, pairedChannel := fallbackCh,
          transport := (c.transport.setChannel fallbackCh).addPeer mac 0 })

def setScanChannels (c : PairingClient σ) (channels : ScanChannels) : PairingClient σ :=
  { c with scanChannels := channels }

def startScanning (c : PairingClient σ) : PairingClient σ :=
  let ch := c.scanChannels.first
  { c with
    state := .SCANNING, scanIndex := 0, currentScanChannel := ch, channelStartMs := 0,
    pairingStartMs := 0, coordinatorMac := .cleared, pairedChannel := 0,
    transport := c.transport.setChannel ch }

def stopScanning (c : PairingClient σ) : PairingClient σ :=
  if c.state = .SCANNING then { c with state := .IDLE } else c

def isScanning (c : PairingClient σ) : Bool := c.state = .SCANNING

def isPaired (c : PairingClient σ) : Bool := c.state = .PAIRED

def advanceChannel (c : PairingClient σ) (nowMs : UInt32) : PairingClient σ :=
  let c :=
    if c.scanChannels.configured then
      let i := c.scanIndex + 1
      let i := if i ≥ c.scanChannels.count then 0 else i
      { c with scanIndex := i, currentScanChannel := c.scanChannels.entry i.toNat }
    else
      let ch := c.currentScanChannel + 1
      { c with currentScanChannel := if ch > MAX_SCAN_CHANNELS then 1 else ch }
  { c with
    transport := c.transport.setChannel c.currentScanChannel, channelStartMs := nowMs }

/-- The first `loop` on a freshly started scan stamps the start of the dwell. -/
def beginDwell (c : PairingClient σ) (nowMs : UInt32) : PairingClient σ :=
  { c with channelStartMs := if c.channelStartMs = 0 then nowMs else c.channelStartMs }

def loop (c : PairingClient σ) (nowMs : UInt32) : PairingClient σ :=
  match c.state with
  | .SCANNING =>
    let c := c.beginDwell nowMs
    if nowMs - c.channelStartMs ≥ CHANNEL_SCAN_DWELL_MS then c.advanceChannel nowMs else c
  | .RESPONDING =>
    if nowMs - c.pairingStartMs ≥ PAIRING_TIMEOUT_MS then c.startScanning else c
  | _ => c

def sendPairingRequest (c : PairingClient σ) (coordMac : MacAddress) : PairingClient σ :=
  { c with
    transport := (c.transport.addPeer coordMac 0).send coordMac
      (PairingRequest.init c.deviceId).toBytes }

def handleBeacon (c : PairingClient σ) (srcMac : MacAddress) (beacon : PairingBeacon)
    (nowMs : UInt32) : PairingClient σ :=
  sendPairingRequest
    { c with
      coordinatorMac := srcMac, pairedChannel := beacon.channel, state := .RESPONDING,
      pairingStartMs := nowMs } srcMac

def storePairing (c : PairingClient σ) : PairingClient σ :=
  { c with
    prefs := ((c.prefs.putBytes PREF_KEY_PAIRED_MAC c.coordinatorMac.addr).putUInt8
      PREF_KEY_PAIRED_CHANNEL c.pairedChannel).putUInt8 PREF_KEY_PAIRED_FLAG 1 }

def handleConfirm (c : PairingClient σ) (srcMac : MacAddress) (confirm : PairingConfirm) :
    PairingClient σ :=
  if confirm.accepted ≠ 0 then
    let c := { c with
      coordinatorMac := srcMac, pairedChannel := confirm.channel, state := .PAIRED }
    let c := { c with transport := c.transport.setChannel c.pairedChannel }
    let c := c.storePairing
    if c.onPairedCb then
      { c with pairedEvents := c.pairedEvents ++ [(c.coordinatorMac, c.pairedChannel)] }
    else c
  else c.startScanning

def handleReceived (c : PairingClient σ) (srcMac : MacAddress) (data : List UInt8)
    (nowMs : UInt32) : Bool × PairingClient σ :=
  if data.length < 4 then (false, c)
  else if data.take 4 ≠ PAIRING_MAGIC then (false, c)
  else if c.state = .SCANNING ∧ PairingBeacon.size ≤ data.length ∧
      (PairingBeacon.ofBytes data).isValid = true then
    (true, c.handleBeacon srcMac (PairingBeacon.ofBytes data) nowMs)
  else if c.state = .RESPONDING ∧ PairingConfirm.size ≤ data.length ∧
      (PairingConfirm.ofBytes data).isValid = true then
    (true, c.handleConfirm srcMac (PairingConfirm.ofBytes data))
  else (false, c)

def onPaired (c : PairingClient σ) : PairingClient σ := { c with onPairedCb := true }

def setPairedChannel (c : PairingClient σ) (channel : UInt8) : PairingClient σ :=
  if channel = 0 ∨ channel > MAX_SCAN_CHANNELS then c
  else
    { c with
      pairedChannel := channel,
      prefs := c.prefs.putUInt8 PREF_KEY_PAIRED_CHANNEL channel }

def clearPairing (c : PairingClient σ) : PairingClient σ :=
  { c with
    prefs := ((c.prefs.remove PREF_KEY_PAIRED_MAC).remove PREF_KEY_PAIRED_CHANNEL).remove
      PREF_KEY_PAIRED_FLAG,
    coordinatorMac := .cleared, pairedChannel := 0, state := .IDLE }

end PairingClient

/-- The public operations of a `PairingClient` that change it. -/
inductive ClientOp where
  | loadStoredPairing
  | setScanChannels (channels : ScanChannels)
  | startScanning
  | stopScanning
  | loop (nowMs : UInt32)
  | handleReceived (srcMac : MacAddress) (data : List UInt8) (nowMs : UInt32)
  | onPaired
  | setPairedChannel (channel : UInt8)
  | clearPairing

def ClientOp.apply {σ : Type} [ITransport σ] (c : PairingClient σ) : ClientOp → PairingClient σ
  | .loadStoredPairing => c.loadStoredPairing.2
  | .setScanChannels channels => c.setScanChannels channels
  | .startScanning => c.startScanning
  | .stopScanning => c.stopScanning
  | .loop nowMs => c.loop nowMs
  | .handleReceived srcMac data nowMs => (c.handleReceived srcMac data nowMs).2
  | .onPaired => c.onPaired
  | .setPairedChannel channel => c.setPairedChannel channel
  | .clearPairing => c.clearPairing

end UngulaNet.Pairing
