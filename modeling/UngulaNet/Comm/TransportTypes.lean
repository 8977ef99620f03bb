import Mathlib.Data.List.Basic

/-!
# Transport types and the transport interface

`ITransport` is the interface all radio traffic goes through. A component holds a
`Transport`: the device behind the interface together with the list of calls made on
it, oldest first, which is what the rest of the world can observe. No caller in this
library reads the error a call returns, so the wrappers drop it.
-/

namespace UngulaNet.Comm
set_option autoImplicit false

structure MacAddress where
  addr : List UInt8
  addr_length : addr.length = 6
  deriving DecidableEq

namespace MacAddress

def ADDR_LEN : Nat := 6

/-- What `clear()` leaves. -/
def cleared : MacAddress := ⟨List.replicate ADDR_LEN 0, rfl⟩

def broadcast : MacAddress := ⟨List.replicate ADDR_LEN 0xFF, rfl⟩

def isZero (m : MacAddress) : Bool := m.addr == List.replicate ADDR_LEN 0

/-- `addr` after `read` was copied to its front, as `getBytes(key, addr, ADDR_LEN)` does. -/
def copyInto (m : MacAddress) (read : List UInt8) : MacAddress :=
  ⟨(read ++ m.addr.drop read.length).take ADDR_LEN, by
    have h := m.addr_length
    simp [ADDR_LEN]
    omega⟩

@[ext] theorem ext {m m' : MacAddress} (h : m.addr = m'.addr) : m = m' := by
  cases m
  cases m'
  simp_all

theorem copyInto_full (m : MacAddress) {read : List UInt8} (h : read.length = ADDR_LEN) :
    (m.copyInto read).addr = read := by
  have hm := m.addr_length
  simp only [ADDR_LEN] at h
  simp [copyInto, ADDR_LEN, ← h]

theorem copyInto_addr (m mac : MacAddress) : m.copyInto mac.addr = mac := by
  ext1
  exact m.copyInto_full mac.addr_length

end MacAddress

inductive TransportError where
  | OK
  | SEND_FAILED
  | NOT_INITIALIZED
  | PEER_NOT_FOUND
  | BUFFER_FULL
  | INVALID_ARGUMENT
  | TIMEOUT
  deriving DecidableEq

def TRANSPORT_MAX_PAYLOAD : Nat := 240

class ITransport (σ : Type) where
  send : σ → MacAddress → List UInt8 → TransportError × σ
  getOwnMac : σ → MacAddress
  setChannel : σ → UInt8 → TransportError × σ
  getChannel : σ → UInt8
  addPeer : σ → MacAddress → UInt8 → TransportError × σ
  removePeer : σ → MacAddress → TransportError × σ
  hasPeer : σ → MacAddress → Bool

inductive TransportCall where
  | send (dst : MacAddress) (data : List UInt8)
  | setChannel (channel : UInt8)
  | addPeer (mac : MacAddress) (channel : UInt8)
  | removePeer (mac : MacAddress)
  deriving DecidableEq

structure Transport (σ : Type) where
  dev : σ
  calls : List TransportCall := []

namespace Transport
variable {σ : Type} [ITransport σ]

def send (t : Transport σ) (dst : MacAddress) (data : List UInt8) : Transport σ :=
  ⟨(ITransport.send t.dev dst data).2, t.calls ++ [.send dst data]⟩

def setChannel (t : Transport σ) (channel : UInt8) : Transport σ :=
  ⟨(ITransport.setChannel t.dev channel).2, t.calls ++ [.setChannel channel]⟩

def getChannel (t : Transport σ) : UInt8 := ITransport.getChannel t.dev

def addPeer (t : Transport σ) (mac : MacAddress) (channel : UInt8) : Transport σ :=
  ⟨(ITransport.addPeer t.dev mac channel).2, t.calls ++ [.addPeer mac channel]⟩

def removePeer (t : Transport σ) (mac : MacAddress) : Transport σ :=
  ⟨(ITransport.removePeer t.dev mac).2, t.calls ++ [.removePeer mac]⟩

@[simp] theorem calls_send (t : Transport σ) (dst : MacAddress) (data : List UInt8) :
    (t.send dst data).calls = t.calls ++ [.send dst data] := rfl

@[simp] theorem calls_setChannel (t : Transport σ) (c : UInt8) :
    (t.setChannel c).calls = t.calls ++ [.setChannel c] := rfl

@[simp] theorem calls_addPeer (t : Transport σ) (m : MacAddress) (c : UInt8) :
    (t.addPeer m c).calls = t.calls ++ [.addPeer m c] := rfl

@[simp] theorem calls_removePeer (t : Transport σ) (m : MacAddress) :
    (t.removePeer m).calls = t.calls ++ [.removePeer m] := rfl

/-- The frame was handed to the radio, for whatever destination. -/
def Sent (t : Transport σ) (data : List UInt8) : Prop :=
  ∃ call ∈ t.calls, ∃ dst, call = .send dst data

end Transport

class ChannelFrame (σ : Type) [ITransport σ] : Prop where
  getChannel_send : ∀ (t : σ) dst data,
    ITransport.getChannel (ITransport.send t dst data).2 = ITransport.getChannel t
  getChannel_addPeer : ∀ (t : σ) mac ch,
    ITransport.getChannel (ITransport.addPeer t mac ch).2 = ITransport.getChannel t
  getChannel_removePeer : ∀ (t : σ) mac,
    ITransport.getChannel (ITransport.removePeer t mac).2 = ITransport.getChannel t

/-- `setChannel(c)` succeeds and sets the channel for every `c` in 1..13. -/
class TunesValidChannels (σ : Type) [ITransport σ] : Prop where
  getChannel_setChannel : ∀ (t : σ) (c : UInt8), 1 ≤ c → c ≤ 13 →
    ITransport.getChannel (ITransport.setChannel t c).2 = c

namespace Transport
variable {σ : Type} [ITransport σ]

@[simp] theorem getChannel_send [ChannelFrame σ] (t : Transport σ) (dst : MacAddress)
    (data : List UInt8) : (t.send dst data).getChannel = t.getChannel :=
  ChannelFrame.getChannel_send t.dev dst data

@[simp] theorem getChannel_addPeer [ChannelFrame σ] (t : Transport σ) (m : MacAddress)
    (c : UInt8) : (t.addPeer m c).getChannel = t.getChannel :=
  ChannelFrame.getChannel_addPeer t.dev m c

@[simp] theorem getChannel_removePeer [ChannelFrame σ] (t : Transport σ) (m : MacAddress) :
    (t.removePeer m).getChannel = t.getChannel :=
  ChannelFrame.getChannel_removePeer t.dev m

theorem getChannel_setChannel [TunesValidChannels σ] (t : Transport σ) {c : UInt8}
    (h1 : 1 ≤ c) (h13 : c ≤ 13) : (t.setChannel c).getChannel = c :=
  TunesValidChannels.getChannel_setChannel t.dev c h1 h13

end Transport
end UngulaNet.Comm
