import UngulaNet.Pairing.PairingBeacon

/-!
# Reconnect messages

The probe a paired client sends on each channel after losing its coordinator, and the
coordinator's acknowledgment, which carries the channel to use. They share magic and
size, and their magic is not the pairing magic.
-/

namespace UngulaNet
open Pairing (byteAt PAIRING_MAGIC)
set_option autoImplicit false

def RECONNECT_MAGIC : List UInt8 := [0xAC, 0xDC, 0x07, 0x77]

structure ReconnectProbe where
  magic : List UInt8
  deviceId : UInt8
  reserved : List UInt8
  deriving DecidableEq

namespace ReconnectProbe

def size : Nat := 8

def init (devId : UInt8) : ReconnectProbe :=
  { magic := RECONNECT_MAGIC, deviceId := devId, reserved := [0, 0, 0] }

def isValid (p : ReconnectProbe) : Bool := p.magic == RECONNECT_MAGIC

def toBytes (p : ReconnectProbe) : List UInt8 := p.magic ++ [p.deviceId] ++ p.reserved

def ofBytes (data : List UInt8) : ReconnectProbe :=
  { magic := data.take 4, deviceId := byteAt data 4,
    reserved := [byteAt data 5, byteAt data 6, byteAt data 7] }

end ReconnectProbe

structure ReconnectAck where
  magic : List UInt8
  channel : UInt8
  reserved : List UInt8
  deriving DecidableEq

namespace ReconnectAck

def size : Nat := 8

def init (ch : UInt8) : ReconnectAck :=
  { magic := RECONNECT_MAGIC, channel := ch, reserved := [0, 0, 0] }

def isValid (a : ReconnectAck) : Bool := a.magic == RECONNECT_MAGIC

def toBytes (a : ReconnectAck) : List UInt8 := a.magic ++ [a.channel] ++ a.reserved

def ofBytes (data : List UInt8) : ReconnectAck :=
  { magic := data.take 4, channel := byteAt data 4,
    reserved := [byteAt data 5, byteAt data 6, byteAt data 7] }

end ReconnectAck

theorem pairing_magic_ne_reconnect_magic : PAIRING_MAGIC ≠ RECONNECT_MAGIC := by decide

end UngulaNet
