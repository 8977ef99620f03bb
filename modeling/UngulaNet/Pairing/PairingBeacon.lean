import Mathlib.Data.List.Basic

/-!
# Pairing and reconnect messages

Types, constants and the packed 8-byte messages of the pairing protocol, and the two
reconnect messages. `ofBytes` is the receiver's `reinterpret_cast`: it reads fixed
offsets of whatever was received, so a byte string has no type of its own. A beacon
and a confirm have the same magic, the same role byte and the same size.
-/

namespace UngulaNet.Pairing
set_option autoImplicit false

inductive PairingState where
  | IDLE
  | SCANNING
  | BROADCASTING
  | RESPONDING
  | CONFIRMING
  | PAIRED
  | FAILED
  deriving DecidableEq

def PAIRING_MAGIC : List UInt8 := [0xD1, 0x5C, 0x0A, 0x11]
def CHANNEL_SCAN_DWELL_MS : UInt32 := 200
def MAX_SCAN_CHANNELS : UInt8 := 13
def BEACON_INTERVAL_MS : UInt32 := 100
def PAIRING_TIMEOUT_MS : UInt32 := 10000
def PREF_KEY_PAIRED_MAC : String := "pair_mac"
def PREF_KEY_PAIRED_CHANNEL : String := "pair_ch"
def PREF_KEY_PAIRED_FLAG : String := "pair_ok"
def PAIRING_ROLE_COORDINATOR : UInt8 := 1
def PAIRING_ROLE_CLIENT : UInt8 := 2

/-- Byte `i` of a received buffer; read only below its checked length. -/
def byteAt (data : List UInt8) (i : Nat) : UInt8 := data.getD i 0

structure PairingBeacon where
  magic : List UInt8
  role : UInt8
  channel : UInt8
  reserved : List UInt8
  deriving DecidableEq

namespace PairingBeacon

def size : Nat := 8

def init (ch : UInt8) : PairingBeacon :=
  { magic := PAIRING_MAGIC, role := PAIRING_ROLE_COORDINATOR, channel := ch, reserved := [0, 0] }

def isValid (b : PairingBeacon) : Bool :=
  b.magic == PAIRING_MAGIC && b.role == PAIRING_ROLE_COORDINATOR

def toBytes (b : PairingBeacon) : List UInt8 := b.magic ++ [b.role, b.channel] ++ b.reserved

def ofBytes (data : List UInt8) : PairingBeacon :=
  { magic := data.take 4, role := byteAt data 4, channel := byteAt data 5,
    reserved := [byteAt data 6, byteAt data 7] }

end PairingBeacon

structure PairingRequest where
  magic : List UInt8
  role : UInt8
  deviceId : UInt8
  reserved : List UInt8
  deriving DecidableEq

namespace PairingRequest

def size : Nat := 8

def init (devId : UInt8) : PairingRequest :=
  { magic := PAIRING_MAGIC, role := PAIRING_ROLE_CLIENT, deviceId := devId, reserved := [0, 0] }

def isValid (r : PairingRequest) : Bool :=
  r.magic == PAIRING_MAGIC && r.role == PAIRING_ROLE_CLIENT

def toBytes (r : PairingRequest) : List UInt8 := r.magic ++ [r.role, r.deviceId] ++ r.reserved

def ofBytes (data : List UInt8) : PairingRequest :=
  { magic := data.take 4, role := byteAt data 4, deviceId := byteAt data 5,
    reserved := [byteAt data 6, byteAt data 7] }

end PairingRequest

structure PairingConfirm where
  magic : List UInt8
  role : UInt8
  accepted : UInt8
  channel : UInt8
  reserved : UInt8
  deriving DecidableEq

namespace PairingConfirm

def size : Nat := 8

def init (accept : Bool) (ch : UInt8) : PairingConfirm :=
  { magic := PAIRING_MAGIC, role := PAIRING_ROLE_COORDINATOR,
    accepted := if accept then 1 else 0, channel := ch, reserved := 0 }

def isValid (c : PairingConfirm) : Bool :=
  c.magic == PAIRING_MAGIC && c.role == PAIRING_ROLE_COORDINATOR

def toBytes (c : PairingConfirm) : List UInt8 :=
  c.magic ++ [c.role, c.accepted, c.channel, c.reserved]

def ofBytes (data : List UInt8) : PairingConfirm :=
  { magic := data.take 4, role := byteAt data 4, accepted := byteAt data 5,
    channel := byteAt data 6, reserved := byteAt data 7 }

end PairingConfirm

@[simp] theorem PairingBeacon.ofBytes_toBytes_init (ch : UInt8) :
    PairingBeacon.ofBytes (PairingBeacon.init ch).toBytes = PairingBeacon.init ch := rfl

@[simp] theorem PairingRequest.ofBytes_toBytes_init (devId : UInt8) :
    PairingRequest.ofBytes (PairingRequest.init devId).toBytes = PairingRequest.init devId := rfl

@[simp] theorem PairingConfirm.ofBytes_toBytes_init (accept : Bool) (ch : UInt8) :
    PairingConfirm.ofBytes (PairingConfirm.init accept ch).toBytes =
      PairingConfirm.init accept ch := rfl

/-- A receiver that waits for a confirm reads a beacon as an acceptance on channel 0. -/
theorem PairingConfirm.ofBytes_beacon (ch : UInt8) :
    PairingConfirm.ofBytes (PairingBeacon.init ch).toBytes =
      { PairingConfirm.init true 0 with accepted := ch } := rfl

/-- Validity as a beacon and as a confirm is one predicate on the received bytes. -/
theorem isValid_beacon_eq_confirm (data : List UInt8) :
    (PairingBeacon.ofBytes data).isValid = (PairingConfirm.ofBytes data).isValid := rfl

/-- No byte string is both a request and a message of the coordinator. -/
theorem not_isValid_confirm_of_request {data : List UInt8}
    (h : (PairingRequest.ofBytes data).isValid = true) :
    (PairingConfirm.ofBytes data).isValid = false := by
  simp only [PairingRequest.isValid, PairingRequest.ofBytes, Bool.and_eq_true, beq_iff_eq] at h
  simp [PairingConfirm.isValid, PairingConfirm.ofBytes, h.1, h.2, PAIRING_ROLE_CLIENT,
    PAIRING_ROLE_COORDINATOR]

end UngulaNet.Pairing
