import UngulaNet.Comm.TransportTypes

/-!
# Message header

The eight bytes in front of every application message. The readers look at a received
buffer in place: `extractHeader` is a cast, `extractPayload` the rest of the buffer.
-/

namespace UngulaNet.Comm
set_option autoImplicit false

structure MessageHeader where
  protocolVersion : UInt8
  messageType : UInt8
  sourceDeviceId : UInt8
  sequenceNumber : UInt8
  flags : UInt8
  reserved : List UInt8
  reserved_length : reserved.length = 3

namespace MessageHeader

def size : Nat := 8

def toBytes (h : MessageHeader) : List UInt8 :=
  [h.protocolVersion, h.messageType, h.sourceDeviceId, h.sequenceNumber, h.flags] ++ h.reserved

/-- The cast of a buffer that is long enough. -/
def ofBytes (data : List UInt8) (h : size ≤ data.length) : MessageHeader :=
  { protocolVersion := data.getD 0 0, messageType := data.getD 1 0,
    sourceDeviceId := data.getD 2 0, sequenceNumber := data.getD 3 0, flags := data.getD 4 0,
    reserved := (data.drop 5).take 3,
    reserved_length := by
      simp only [size] at h
      simp only [List.length_take, List.length_drop]
      omega }

@[ext] theorem ext {h h' : MessageHeader} (hv : h.protocolVersion = h'.protocolVersion)
    (ht : h.messageType = h'.messageType) (hd : h.sourceDeviceId = h'.sourceDeviceId)
    (hs : h.sequenceNumber = h'.sequenceNumber) (hf : h.flags = h'.flags)
    (hr : h.reserved = h'.reserved) : h = h' := by
  cases h
  cases h'
  simp_all

@[simp] theorem toBytes_length (h : MessageHeader) : h.toBytes.length = size := by
  simp [toBytes, size, h.reserved_length]

theorem take_eq_map_getD {data : List UInt8} {n : Nat} (h : n ≤ data.length) :
    data.take n = (List.range n).map fun i => data.getD i 0 := by
  apply List.ext_getElem
  · simp [h]
  · intro i hi hi'
    have hlt : i < data.length := by
      rw [List.length_take] at hi
      omega
    simp [List.getElem?_eq_getElem hlt]

theorem toBytes_ofBytes {data : List UInt8} (h : size ≤ data.length) :
    (ofBytes data h).toBytes = data.take size := by
  have hfive : data.take 5 = [data.getD 0 0, data.getD 1 0, data.getD 2 0, data.getD 3 0,
      data.getD 4 0] := take_eq_map_getD (by simp only [size] at h; omega)
  calc (ofBytes data h).toBytes = data.take 5 ++ (data.drop 5).take 3 := by rw [hfive]; rfl
    _ = data.take size := (List.take_add ..).symm

end MessageHeader

def isValidHeader (data : List UInt8) (expectedVersion : UInt8) : Bool :=
  if data.length < MessageHeader.size then false else data.getD 0 0 == expectedVersion

def extractHeader (data : List UInt8) : Option MessageHeader :=
  if h : MessageHeader.size ≤ data.length then some (.ofBytes data h) else none

def extractPayload (data : List UInt8) : Option (List UInt8) :=
  if data.length ≤ MessageHeader.size then none else some (data.drop MessageHeader.size)

def payloadLength (totalLen : Nat) : Nat :=
  if totalLen ≤ MessageHeader.size then 0 else totalLen - MessageHeader.size

section Message
variable (h : MessageHeader) (payload : List UInt8)

/-- A header and a payload as they are sent. -/
def message : List UInt8 := h.toBytes ++ payload

@[simp] theorem message_length :
    (message h payload).length = MessageHeader.size + payload.length := by
  simp [message]

theorem extractHeader_message : extractHeader (message h payload) = some h := by
  have hlen : MessageHeader.size ≤ (message h payload).length := by simp
  rw [extractHeader, dif_pos hlen]
  congr 1
  have hdrop : ((message h payload).drop 5).take 3 = h.reserved := by
    have hmessage : message h payload = [h.protocolVersion, h.messageType, h.sourceDeviceId,
        h.sequenceNumber, h.flags] ++ (h.reserved ++ payload) := by
      simp [message, MessageHeader.toBytes]
    rw [hmessage]
    exact List.take_left' h.reserved_length
  ext1
  · rfl
  · rfl
  · rfl
  · rfl
  · rfl
  · exact hdrop

theorem extractPayload_message :
    extractPayload (message h payload) = if payload = [] then none else some payload := by
  unfold extractPayload
  rw [message_length]
  by_cases hp : payload = []
  · rw [if_pos hp, if_pos (by simp [hp])]
  · have hpos := List.length_pos_iff.mpr hp
    rw [if_neg hp, if_neg (by omega), message, List.drop_left' h.toBytes_length]

theorem payloadLength_message :
    payloadLength (message h payload).length = payload.length := by
  unfold payloadLength
  rw [message_length]
  split <;> omega

theorem isValidHeader_message (version : UInt8) :
    isValidHeader (message h payload) version = true ↔ h.protocolVersion = version := by
  have hlen : ¬ (message h payload).length < MessageHeader.size := by simp
  rw [isValidHeader, if_neg hlen]
  exact beq_iff_eq

end Message

/-- A buffer with a header is that header and a payload. -/
theorem message_of_extractHeader {data : List UInt8} {h : MessageHeader}
    (hdata : extractHeader data = some h) :
    data = message h ((extractPayload data).getD []) := by
  have hlen : MessageHeader.size ≤ data.length := by
    by_contra hshort
    rw [extractHeader, dif_neg hshort] at hdata
    exact absurd hdata (by simp)
  rw [extractHeader, dif_pos hlen] at hdata
  obtain rfl : MessageHeader.ofBytes data hlen = h := Option.some.inj hdata
  have hpayload : (extractPayload data).getD [] = data.drop MessageHeader.size := by
    unfold extractPayload
    split
    · rename_i hle
      exact (List.drop_eq_nil_of_le hle).symm
    · rfl
  rw [hpayload, message, MessageHeader.toBytes_ofBytes, List.take_append_drop]

end UngulaNet.Comm
