import UngulaNet.Pairing.MacsUnique

/-!
# Storing a client

`storePairedClient` looks for the slot of the address, then for a free slot, then for a
slot with the same device id. Whatever it finds is the one slot it changes, and doing it
again changes nothing.
-/

namespace UngulaNet.Pairing
open Comm Slots
set_option autoImplicit false

namespace PairingCoordinator
variable {σ : Type}

/-- The table has no free slot and does not know the address. -/
def FullWithout (c : PairingCoordinator σ) (mac : MacAddress) : Prop :=
  (∀ j, (c.clients j).active = true) ∧ ∀ j, (c.clients j).mac ≠ mac

def FirstWithId (c : PairingCoordinator σ) (deviceId : UInt8) (i : Fin MAX_PAIRED_CLIENTS) :
    Prop :=
  (c.clients i).active = true ∧ (c.clients i).deviceId = deviceId ∧
    ∀ k < i, (c.clients k).active = true → (c.clients k).deviceId ≠ deviceId

theorem slotWithId_first {c : PairingCoordinator σ} {deviceId : UInt8}
    {i : Fin MAX_PAIRED_CLIENTS} (h : c.slotWithId deviceId = some i) :
    c.FirstWithId deviceId i := by
  obtain ⟨hactive, hid⟩ := slotWithId_spec h
  refine ⟨hactive, hid, ?_⟩
  intro k hk hkactive
  have hnot := Fin.eq_false_of_find?_eq_some_of_lt h k hk
  simpa [hkactive] using hnot

variable [ITransport σ]

/-- From `c` to `c'` the client was put into slot `i`, and no other client was touched: the
slot was the client's own or free, unless the table was full of others. -/
structure StoredIn (c c' : PairingCoordinator σ) (mac : MacAddress) (deviceId : UInt8)
    (i : Fin MAX_PAIRED_CLIENTS) : Prop where
  slot : c'.clients i = { mac := mac, deviceId := deviceId, active := true }
  only : ∀ j, (c'.clients j).active = true → (c'.clients j).mac = mac → j = i
  others : ∀ j, j ≠ i → c'.clients j = c.clients j
  kept : ¬ c.FullWithout mac →
    ((c.clients i).active = true → (c.clients i).mac = mac) ∧ c'.transport = c.transport
  replaced : c.FullWithout mac →
    c.FirstWithId deviceId i ∧ c'.transport = c.transport.removePeer (c.clients i).mac

theorem storedIn_known {c : PairingCoordinator σ} (hdistinct : Distinct c.activeMac)
    {mac : MacAddress} (deviceId : UInt8) {i : Fin MAX_PAIRED_CLIENTS}
    (hm : c.slotOf mac = some i) :
    StoredIn c { c with
      clients := Function.update c.clients i { c.clients i with deviceId := deviceId } }
      mac deviceId i := by
  obtain ⟨hactive, hmac⟩ := slotOf_spec hm
  refine ⟨?_, ?_, ?_, ?_, ?_⟩
  · simp [hactive, hmac]
  · intro j hj hjmac
    by_cases hji : j = i
    · exact hji
    · simp only [Function.update_of_ne hji] at hj hjmac
      exact hdistinct j i mac (activeMac_eq_some.mpr ⟨hj, hjmac⟩)
        (activeMac_eq_some.mpr ⟨hactive, hmac⟩)
  · intro j hji
    exact Function.update_of_ne hji _ _
  · intro _
    exact ⟨fun _ => hmac, rfl⟩
  · intro hfull
    exact absurd hmac (hfull.2 i)

/-- A slot filled for an address that the table does not have. -/
theorem storedIn_filled {c : PairingCoordinator σ} {t : Transport σ} {mac : MacAddress}
    {deviceId : UInt8} {i : Fin MAX_PAIRED_CLIENTS} (hm : c.slotOf mac = none)
    (hkept : ¬ c.FullWithout mac →
      ((c.clients i).active = true → (c.clients i).mac = mac) ∧ t = c.transport)
    (hreplaced : c.FullWithout mac →
      c.FirstWithId deviceId i ∧ t = c.transport.removePeer (c.clients i).mac) :
    StoredIn c (fillSlot { c with transport := t } i mac deviceId) mac deviceId i := by
  refine ⟨?_, ?_, ?_, hkept, hreplaced⟩
  · simp [fillSlot]
  · intro j hj hjmac
    by_cases hji : j = i
    · exact hji
    · simp only [fillSlot, Function.update_of_ne hji] at hj hjmac
      exact absurd hjmac (slotOf_eq_none.mp hm j hj)
  · intro j hji
    exact Function.update_of_ne hji _ _

theorem storePairedClient_storedIn {c : PairingCoordinator σ} (hdistinct : Distinct c.activeMac)
    {mac : MacAddress} {deviceId : UInt8} (h : (c.storePairedClient mac deviceId).1 = true) :
    ∃ i, StoredIn c (c.storePairedClient mac deviceId).2 mac deviceId i := by
  rcases c.storePairedClient_cases mac deviceId with
    ⟨i, hm, he⟩ | ⟨i, hm, hf, he⟩ | ⟨i, hm, hf, hd, he⟩ | ⟨_, he⟩
  · rw [he]
    exact ⟨i, storedIn_known hdistinct deviceId hm⟩
  · have hfree := freeSlot_spec hf
    rw [he]
    refine ⟨i, storedIn_filled hm ?_ ?_⟩
    · intro _
      exact ⟨fun hactive => absurd (hfree.symm.trans hactive) (by decide), rfl⟩
    · intro hfull
      exact absurd (hfree.symm.trans (hfull.1 i)) (by decide)
  · have hactive := freeSlot_eq_none.mp hf
    have hfull : c.FullWithout mac :=
      ⟨hactive, fun j => slotOf_eq_none.mp hm j (hactive j)⟩
    rw [he]
    exact ⟨i, storedIn_filled hm (fun hnot => absurd hfull hnot)
      fun _ => ⟨slotWithId_first hd, rfl⟩⟩
  · simp [he] at h

/-- The client is found where it was put, with the id it was put there with. -/
theorem StoredIn.again {c c' : PairingCoordinator σ} {mac : MacAddress} {deviceId : UInt8}
    {i : Fin MAX_PAIRED_CLIENTS} (h : StoredIn c c' mac deviceId i) :
    c'.storePairedClient mac deviceId = (true, c') := by
  rcases c'.storePairedClient_cases mac deviceId with
    ⟨j, hm, he⟩ | ⟨_, hm, _⟩ | ⟨_, hm, _⟩ | ⟨hn, _⟩
  · obtain ⟨hactive, hmac⟩ := slotOf_spec hm
    obtain rfl : j = i := h.only j hactive hmac
    have hsame : { c'.clients j with deviceId := deviceId } = c'.clients j := by rw [h.slot]
    rw [he, hsame, Function.update_eq_self]
  · exact absurd (by rw [h.slot]) (slotOf_eq_none.mp hm i (by rw [h.slot]))
  · exact absurd (by rw [h.slot]) (slotOf_eq_none.mp hm i (by rw [h.slot]))
  · exact absurd (Or.inl (isPaired_iff.mpr ⟨i, by rw [h.slot], by rw [h.slot]⟩)) hn

/-- On a table with distinct addresses: a client is stored when it is known, a slot is
free or a slot has its device id; then it is in one slot, with that id, and every other
slot is as it was, a client being replaced only in a full table. Otherwise nothing
changes. A second call repeats the answer and changes nothing. -/
theorem store_loses_no_client (c : PairingCoordinator σ) (hdistinct : Distinct c.activeMac)
    (mac : MacAddress) (deviceId : UInt8) :
    let result := c.storePairedClient mac deviceId
    (result.1 = true ↔
      (∃ i, (c.clients i).active = true ∧ (c.clients i).mac = mac) ∨
        (∃ i, (c.clients i).active = false) ∨
        ∃ i, (c.clients i).active = true ∧ (c.clients i).deviceId = deviceId) ∧
      (result.1 = true → ∃ i, StoredIn c result.2 mac deviceId i) ∧
      (result.1 = false → result.2 = c) ∧
      result.2.storePairedClient mac deviceId = result := by
  intro result
  have hiff := c.storePairedClient_fst_iff mac deviceId
  have hrefused : result.1 = false → result = (false, c) := by
    intro hfalse
    exact storePairedClient_refused (hiff.not.mp (by simp [result] at hfalse; simp [hfalse]))
  refine ⟨?_, storePairedClient_storedIn hdistinct, ?_, ?_⟩
  · rw [hiff, Accepts, isPaired_iff]
  · intro hfalse
    rw [hrefused hfalse]
  · cases hr : result.1 with
    | true =>
      obtain ⟨i, hstored⟩ := storePairedClient_storedIn hdistinct hr
      rw [hstored.again]
      exact Prod.ext hr.symm rfl
    | false =>
      have hsame := hrefused hr
      rw [hsame]
      exact hsame

end PairingCoordinator

section Example

/-- A full table of two clients with one device id. -/
def twoOfOneKind : PairingCoordinator (EspNowTransport SimRadio) :=
  { PairingCoordinator.new (simTransport coordMac 6) Preferences.empty with
    clients := fun i =>
      { mac := if i.val = 0 then clientMac else coordMac, deviceId := 7, active := true } }

theorem store_replaces_first :
    (twoOfOneKind.storePairedClient .broadcast 7).1 = true ∧
      (twoOfOneKind.storePairedClient .broadcast 7).2.storePairedClient .broadcast 7 =
        twoOfOneKind.storePairedClient .broadcast 7 := by
  have hslots : ∀ i j, twoOfOneKind.activeMac i = twoOfOneKind.activeMac j → i = j := by decide
  have h := PairingCoordinator.store_loses_no_client twoOfOneKind
    (fun i j _ hi hj => hslots i j (hi.trans hj.symm)) .broadcast 7
  exact ⟨h.1.mpr (by decide), h.2.2.2⟩

end Example
end UngulaNet.Pairing
