import Mathlib.Data.List.Basic
import UngulaNet.Comm.CallLog
import UngulaNet.Pairing.PairingCoordinator

/-!
# What one coordinator operation can do

The keys of the persisted table, the outcomes of `storePairedClient`, and the paths of
the dispatcher.
-/

namespace UngulaNet.Pairing
open Comm Slots
set_option autoImplicit false

theorem repr_injective : Function.Injective Nat.repr := by
  intro i j h
  rw [Nat.repr_eq_ofList_toDigits, Nat.repr_eq_ofList_toDigits] at h
  have hdigits : Nat.toDigits 10 i = Nat.toDigits 10 j := String.ofList_injective h
  calc i = Nat.ofDigitChars 10 (Nat.toDigits 10 i) 0 :=
        (Nat.ofDigitChars_toDigits (by decide) (by decide)).symm
    _ = Nat.ofDigitChars 10 (Nat.toDigits 10 j) 0 := by rw [hdigits]
    _ = j := Nat.ofDigitChars_toDigits (by decide) (by decide)

theorem macKey_inj {i j : Nat} : macKey i = macKey j ↔ i = j := by
  constructor
  · intro h
    exact repr_injective ((String.append_right_inj _).mp h)
  · rintro rfl
    rfl

theorem idKey_inj {i j : Nat} : idKey i = idKey j ↔ i = j := by
  constructor
  · intro h
    exact repr_injective ((String.append_right_inj _).mp h)
  · rintro rfl
    rfl

theorem macKey_ne_idKey (i j : Nat) : macKey i ≠ idKey j := by
  intro h
  have := congrArg String.toList h
  simp [macKey, idKey] at this

namespace PairingCoordinator
variable {σ : Type}

theorem slotOf_spec {c : PairingCoordinator σ} {mac : MacAddress}
    {i : Fin MAX_PAIRED_CLIENTS} (h : c.slotOf mac = some i) :
    (c.clients i).active = true ∧ (c.clients i).mac = mac := by
  simpa using Fin.eq_true_of_find?_eq_some h

theorem slotOf_eq_none {c : PairingCoordinator σ} {mac : MacAddress} :
    c.slotOf mac = none ↔ ∀ i, (c.clients i).active = true → (c.clients i).mac ≠ mac := by
  simp [slotOf]

theorem freeSlot_eq_none {c : PairingCoordinator σ} :
    c.freeSlot = none ↔ ∀ i, (c.clients i).active = true := by
  simp [freeSlot]

theorem freeSlot_spec {c : PairingCoordinator σ} {i : Fin MAX_PAIRED_CLIENTS}
    (h : c.freeSlot = some i) : (c.clients i).active = false := by
  simpa using Fin.eq_true_of_find?_eq_some h

theorem slotWithId_eq_none {c : PairingCoordinator σ} {deviceId : UInt8} :
    c.slotWithId deviceId = none ↔
      ∀ i, (c.clients i).active = true → (c.clients i).deviceId ≠ deviceId := by
  simp [slotWithId]

theorem slotWithId_spec {c : PairingCoordinator σ} {deviceId : UInt8}
    {i : Fin MAX_PAIRED_CLIENTS} (h : c.slotWithId deviceId = some i) :
    (c.clients i).active = true ∧ (c.clients i).deviceId = deviceId := by
  simpa using Fin.eq_true_of_find?_eq_some h

theorem isPaired_iff {c : PairingCoordinator σ} {mac : MacAddress} :
    c.isPaired mac = true ↔ ∃ i, (c.clients i).active = true ∧ (c.clients i).mac = mac := by
  simp [isPaired, slotOf]

theorem isPaired_congr {c c' : PairingCoordinator σ} (h : c'.clients = c.clients)
    (mac : MacAddress) : c'.isPaired mac = c.isPaired mac := by
  simp only [isPaired, slotOf, h]

/-- A request from this sender finds a slot: the sender's own, a free one, or one to
take over from a client with the same device id. -/
def Accepts (c : PairingCoordinator σ) (mac : MacAddress) (deviceId : UInt8) : Prop :=
  c.isPaired mac = true ∨ (∃ i, (c.clients i).active = false) ∨
    ∃ i, (c.clients i).active = true ∧ (c.clients i).deviceId = deviceId

variable [ITransport σ]

theorem storePairedClient_cases (c : PairingCoordinator σ) (mac : MacAddress)
    (deviceId : UInt8) :
    (∃ i, c.slotOf mac = some i ∧ c.storePairedClient mac deviceId = (true, { c with
        clients := Function.update c.clients i { c.clients i with deviceId := deviceId } })) ∨
      (∃ i, c.slotOf mac = none ∧ c.freeSlot = some i ∧
        c.storePairedClient mac deviceId = (true, c.fillSlot i mac deviceId)) ∨
      (∃ i, c.slotOf mac = none ∧ c.freeSlot = none ∧ c.slotWithId deviceId = some i ∧
        c.storePairedClient mac deviceId = (true, fillSlot
          { c with transport := c.transport.removePeer (c.clients i).mac } i mac deviceId)) ∨
      (¬ c.Accepts mac deviceId ∧ c.storePairedClient mac deviceId = (false, c)) := by
  unfold storePairedClient
  cases hm : c.slotOf mac with
  | some i => exact Or.inl ⟨i, rfl, rfl⟩
  | none =>
    cases hf : c.freeSlot with
    | some i => exact Or.inr (Or.inl ⟨i, rfl, rfl, rfl⟩)
    | none =>
      cases hd : c.slotWithId deviceId with
      | some i => exact Or.inr (Or.inr (Or.inl ⟨i, rfl, rfl, rfl, rfl⟩))
      | none =>
        refine Or.inr (Or.inr (Or.inr ⟨?_, rfl⟩))
        rintro (h | ⟨i, h⟩ | ⟨i, ha, hid⟩)
        · simp [isPaired, hm] at h
        · simp [freeSlot_eq_none.mp hf i] at h
        · exact slotWithId_eq_none.mp hd i ha hid

theorem storePairedClient_fst_iff (c : PairingCoordinator σ) (mac : MacAddress)
    (deviceId : UInt8) :
    (c.storePairedClient mac deviceId).1 = true ↔ c.Accepts mac deviceId := by
  rcases c.storePairedClient_cases mac deviceId with
    ⟨i, hm, h⟩ | ⟨i, _, hf, h⟩ | ⟨i, _, _, hd, h⟩ | ⟨hn, h⟩
  · rw [h]
    exact iff_of_true rfl (Or.inl (by simp [isPaired, hm]))
  · rw [h]
    exact iff_of_true rfl (Or.inr (Or.inl ⟨i, freeSlot_spec hf⟩))
  · rw [h]
    exact iff_of_true rfl (Or.inr (Or.inr ⟨i, slotWithId_spec hd⟩))
  · rw [h]
    exact iff_of_false (by simp) hn

theorem storePairedClient_refused {c : PairingCoordinator σ} {mac : MacAddress}
    {deviceId : UInt8} (h : ¬ c.Accepts mac deviceId) :
    c.storePairedClient mac deviceId = (false, c) := by
  have hfst := (c.storePairedClient_fst_iff mac deviceId).not.mpr h
  rcases c.storePairedClient_cases mac deviceId with
    ⟨i, _, he⟩ | ⟨i, _, _, he⟩ | ⟨i, _, _, _, he⟩ | ⟨_, he⟩
  · simp [he] at hfst
  · simp [he] at hfst
  · simp [he] at hfst
  · exact he

/-- The bytes are a pairing request for the dispatcher. -/
def IsRequest (data : List UInt8) : Prop :=
  8 ≤ data.length ∧ (PairingRequest.ofBytes data).isValid = true

instance (data : List UInt8) : Decidable (IsRequest data) :=
  inferInstanceAs (Decidable (_ ∧ _))

theorem magic_of_isRequest {data : List UInt8} (h : IsRequest data) :
    data.take 4 = PAIRING_MAGIC := by
  have hvalid := h.2
  simp only [PairingRequest.isValid, PairingRequest.ofBytes, Bool.and_eq_true, beq_iff_eq]
    at hvalid
  exact hvalid.1

theorem handleReceived_request (c : PairingCoordinator σ) (src : MacAddress)
    {data : List UInt8} (h : IsRequest data) :
    c.handleReceived src data = (true, c.handlePairingRequest src (.ofBytes data)) := by
  have hmagic := magic_of_isRequest h
  have hnot : ¬ (data.take 4 = RECONNECT_MAGIC ∧ (ReconnectProbe.ofBytes data).isValid = true) := by
    rintro ⟨hr, _⟩
    exact pairing_magic_ne_reconnect_magic (hmagic.symm.trans hr)
  rw [handleReceived, if_neg (by have := h.1; omega), if_neg hnot, if_pos ⟨hmagic, h.2⟩]

theorem handleReceived_cases (c : PairingCoordinator σ) (src : MacAddress)
    (data : List UInt8) :
    (IsRequest data ∧
        c.handleReceived src data = (true, c.handlePairingRequest src (.ofBytes data))) ∨
      (¬ IsRequest data ∧
        c.handleReceived src data = (true, c.handleReconnectProbe src (.ofBytes data))) ∨
      (¬ IsRequest data ∧ c.handleReceived src data = (false, c)) := by
  by_cases hreq : IsRequest data
  · exact Or.inl ⟨hreq, c.handleReceived_request src hreq⟩
  refine Or.inr ?_
  unfold handleReceived
  split
  · exact Or.inr ⟨hreq, rfl⟩
  · rename_i hlen
    split
    · exact Or.inl ⟨hreq, rfl⟩
    · split
      · rename_i h
        exact absurd ⟨by omega, h.2⟩ hreq
      · exact Or.inr ⟨hreq, rfl⟩

/-- The coordinator after storing the client and before the callback. -/
def confirmRequest (c : PairingCoordinator σ) (stored : Bool) (src : MacAddress) :
    Transport σ :=
  (c.transport.addPeer src 0).send src
    (PairingConfirm.init stored (c.transport.addPeer src 0).getChannel).toBytes

theorem confirmRequest_calls (c : PairingCoordinator σ) (stored : Bool) (src : MacAddress) :
    (c.confirmRequest stored src).calls = c.transport.calls ++
      [.addPeer src 0, .send src
        (PairingConfirm.init stored (c.transport.addPeer src 0).getChannel).toBytes] := by
  simp [confirmRequest]

theorem storePairedClient_calls (c : PairingCoordinator σ) (mac : MacAddress)
    (deviceId : UInt8) : Transport.CallsOnly (fun call => ∃ m, call = .removePeer m) c.transport
      (c.storePairedClient mac deviceId).2.transport := by
  rcases c.storePairedClient_cases mac deviceId with
    ⟨i, _, hs⟩ | ⟨i, _, _, hs⟩ | ⟨i, _, _, _, hs⟩ | ⟨_, hs⟩
  · rw [hs]
    exact Transport.CallsOnly.refl _
  · rw [hs]
    exact Transport.CallsOnly.refl _
  · rw [hs]
    exact Transport.CallsOnly.snoc (Transport.calls_removePeer _ _) ⟨_, rfl⟩
  · rw [hs]
    exact Transport.CallsOnly.refl _

theorem storePairedClient_isPaired {c : PairingCoordinator σ} {mac : MacAddress}
    {deviceId : UInt8} (h : (c.storePairedClient mac deviceId).1 = true) :
    (c.storePairedClient mac deviceId).2.isPaired mac = true := by
  rcases c.storePairedClient_cases mac deviceId with
    ⟨i, hm, hs⟩ | ⟨i, _, _, hs⟩ | ⟨i, _, _, _, hs⟩ | ⟨_, hs⟩
  · have hslot := slotOf_spec hm
    rw [hs]
    exact isPaired_iff.mpr ⟨i, by simpa using hslot⟩
  · rw [hs]
    exact isPaired_iff.mpr ⟨i, by simp [fillSlot]⟩
  · rw [hs]
    exact isPaired_iff.mpr ⟨i, by simp [fillSlot]⟩
  · simp [hs] at h

theorem storePairedClient_getChannel [ChannelFrame σ] (c : PairingCoordinator σ)
    (mac : MacAddress) (deviceId : UInt8) :
    (c.storePairedClient mac deviceId).2.transport.getChannel = c.transport.getChannel := by
  rcases c.storePairedClient_cases mac deviceId with
    ⟨i, _, hs⟩ | ⟨i, _, _, hs⟩ | ⟨i, _, _, _, hs⟩ | ⟨_, hs⟩ <;> rw [hs]
  · rfl
  · exact Transport.getChannel_removePeer _ _

/-- A request changes the coordinator as `storePairedClient` does, and is answered with
the outcome. -/
theorem handlePairingRequest_fields (c : PairingCoordinator σ) (src : MacAddress)
    (req : PairingRequest) :
    let stored := c.storePairedClient src req.deviceId
    (c.handlePairingRequest src req).clients = stored.2.clients ∧
      (c.handlePairingRequest src req).prefs = stored.2.prefs ∧
      (c.handlePairingRequest src req).pairingEnabled = stored.2.pairingEnabled ∧
      (c.handlePairingRequest src req).transport = stored.2.confirmRequest stored.1 src := by
  unfold handlePairingRequest confirmRequest
  dsimp only
  split <;> exact ⟨rfl, rfl, rfl, rfl⟩

theorem handleReconnectProbe_fields (c : PairingCoordinator σ) (src : MacAddress)
    (probe : ReconnectProbe) :
    (c.handleReconnectProbe src probe).clients = c.clients ∧
      (c.handleReconnectProbe src probe).prefs = c.prefs ∧
      (c.handleReconnectProbe src probe).pairingEnabled = c.pairingEnabled ∧
      ((c.handleReconnectProbe src probe).transport = c.transport ∨
        (c.isPaired src = true ∧ (c.handleReconnectProbe src probe).transport =
          (c.transport.addPeer src 0).send src
            (ReconnectAck.init c.transport.getChannel).toBytes)) := by
  unfold handleReconnectProbe
  split
  · exact ⟨rfl, rfl, rfl, Or.inl rfl⟩
  · rename_i h
    exact ⟨rfl, rfl, rfl, Or.inr ⟨by simpa using h, rfl⟩⟩

/-- `loop` broadcasts a beacon or does nothing; nothing else of interest moves. -/
theorem loop_fields (c : PairingCoordinator σ) (nowMs : UInt32) :
    (c.loop nowMs).clients = c.clients ∧ (c.loop nowMs).prefs = c.prefs ∧
      (c.loop nowMs).pairingEnabled = c.pairingEnabled ∧
      ((c.loop nowMs).transport = c.transport ∨
        (c.pairingEnabled = true ∧ (c.loop nowMs).transport =
          (c.transport.addPeer .broadcast 0).send .broadcast
            (PairingBeacon.init c.transport.getChannel).toBytes)) := by
  unfold loop
  split
  · exact ⟨rfl, rfl, rfl, Or.inl rfl⟩
  · rename_i h
    split
    · exact ⟨rfl, rfl, rfl, Or.inr ⟨by simpa using h, rfl⟩⟩
    · exact ⟨rfl, rfl, rfl, Or.inl rfl⟩

end PairingCoordinator
end UngulaNet.Pairing
