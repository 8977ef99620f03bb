import UngulaNet.Pairing.ClientTable

/-!
# No address is paired twice

Across any number of boots the active slots hold distinct addresses, and so do the
persisted ones. The two tables are tied slot by slot: an active slot has its address in
the store, and under an inactive slot the store holds none that a load would take.
-/

namespace UngulaNet.Pairing
open Comm Runs Slots
set_option autoImplicit false

/-- The non-zero address persisted for slot `i`. -/
def storedMac (p : Preferences) (i : Fin MAX_PAIRED_CLIENTS) : Option MacAddress :=
  (stored p i).map Prod.fst

theorem entry_of_storedMac {p : Preferences} {i : Fin MAX_PAIRED_CLIENTS} {mac : MacAddress}
    (h : storedMac p i = some mac) : p.entry (macKey i) = some (.bytes mac.addr) := by
  simp only [storedMac, stored, storedSlot] at h
  split at h
  · rename_i hread
    obtain ⟨hlen, _⟩ := hread
    have hmac : mac.addr = p.getBytes (macKey i) MacAddress.ADDR_LEN := by
      rw [← MacAddress.copyInto_full .cleared hlen]
      exact congrArg MacAddress.addr (Option.some.inj h).symm
    rw [hmac]
    -- a read of full length is the whole blob
    unfold Preferences.getBytes at hlen ⊢
    split at hlen
    · rename_i data hdata
      rw [hdata]
      split at hlen
      · rename_i hfits
        simp [hfits]
      · exact absurd hlen (by decide)
    · exact absurd hlen (by decide)
  · simp at h

theorem storedMac_eq_of_entry {p : Preferences} {i : Fin MAX_PAIRED_CLIENTS}
    {mac mac' : MacAddress} (h : p.entry (macKey i) = some (.bytes mac.addr))
    (hs : storedMac p i = some mac') : mac' = mac := by
  have h' := (entry_of_storedMac hs).symm.trans h
  ext1
  simpa using h'

namespace PairingCoordinator
variable {σ : Type}

def activeMac (c : PairingCoordinator σ) (i : Fin MAX_PAIRED_CLIENTS) : Option MacAddress :=
  if (c.clients i).active then some (c.clients i).mac else none

theorem activeMac_eq_some {c : PairingCoordinator σ} {i : Fin MAX_PAIRED_CLIENTS}
    {mac : MacAddress} :
    c.activeMac i = some mac ↔ (c.clients i).active = true ∧ (c.clients i).mac = mac := by
  simp [activeMac]

theorem activeMac_eq_none {c : PairingCoordinator σ} {i : Fin MAX_PAIRED_CLIENTS} :
    c.activeMac i = none ↔ (c.clients i).active = false := by
  simp [activeMac]

/-- The active addresses are distinct, and so are the persisted ones. -/
def MacsUnique (c : PairingCoordinator σ) : Prop :=
  Distinct c.activeMac ∧ Distinct (storedMac c.prefs)

/-- The table in memory is distinct and is what the store has. -/
structure Backed (c : PairingCoordinator σ) : Prop where
  distinct : Distinct c.activeMac
  active_entry : ∀ i mac, c.activeMac i = some mac →
    c.prefs.entry (macKey i) = some (.bytes mac.addr)
  inactive_stored : ∀ i, c.activeMac i = none → storedMac c.prefs i = none

theorem Backed.activeMac_of_stored {c : PairingCoordinator σ} (h : c.Backed)
    {i : Fin MAX_PAIRED_CLIENTS} {mac : MacAddress} (hs : storedMac c.prefs i = some mac) :
    c.activeMac i = some mac := by
  cases hm : c.activeMac i with
  | none => simp [h.inactive_stored i hm] at hs
  | some mac' => rw [storedMac_eq_of_entry (h.active_entry i mac' hm) hs]

theorem Backed.macsUnique {c : PairingCoordinator σ} (h : c.Backed) : c.MacsUnique :=
  ⟨h.distinct, h.distinct.of_imp fun _ _ hs => h.activeMac_of_stored hs⟩

theorem Backed.congr {c c' : PairingCoordinator σ} (h : c.Backed)
    (hmac : c'.activeMac = c.activeMac) (hprefs : c'.prefs = c.prefs) : c'.Backed := by
  refine ⟨?_, ?_, ?_⟩
  · rw [hmac]
    exact h.distinct
  · rw [hmac, hprefs]
    exact h.active_entry
  · rw [hmac, hprefs]
    exact h.inactive_stored

theorem activeMac_congr {c c' : PairingCoordinator σ} (h : c'.clients = c.clients) :
    c'.activeMac = c.activeMac := by
  funext i
  simp only [activeMac, h]

theorem activeMac_of_setId {c c' : PairingCoordinator σ} {i : Fin MAX_PAIRED_CLIENTS}
    {deviceId : UInt8} (h : c'.clients =
      Function.update c.clients i { c.clients i with deviceId := deviceId }) :
    c'.activeMac = c.activeMac := by
  funext j
  by_cases hj : j = i
  · subst hj
    simp [activeMac, h]
  · simp [activeMac, h, hj]

theorem activeMac_fillSlot (c : PairingCoordinator σ) (slot : Fin MAX_PAIRED_CLIENTS)
    (mac : MacAddress) (deviceId : UInt8) :
    (c.fillSlot slot mac deviceId).activeMac = Function.update c.activeMac slot (some mac) := by
  funext j
  by_cases hj : j = slot
  · subst hj
    simp [activeMac, fillSlot]
  · simp [activeMac, fillSlot, hj]

theorem backed_fillSlot {c : PairingCoordinator σ} (h : c.Backed)
    (slot : Fin MAX_PAIRED_CLIENTS) {mac : MacAddress} (hnew : c.slotOf mac = none)
    (deviceId : UInt8) : (c.fillSlot slot mac deviceId).Backed := by
  have hkey : ∀ {j}, j ≠ slot → (j : Nat) ≠ slot := fun hj heq => hj (Fin.ext heq)
  refine ⟨?_, ?_, ?_⟩
  · rw [activeMac_fillSlot]
    refine h.distinct.update ?_ slot
    intro j hj
    obtain ⟨hactive, hmac⟩ := activeMac_eq_some.mp hj
    exact slotOf_eq_none.mp hnew j hactive hmac
  · intro j mac' hj
    rw [activeMac_fillSlot] at hj
    by_cases hjs : j = slot
    · subst hjs
      obtain rfl : mac = mac' := by simpa using hj
      simp [fillSlot, macKey_ne_idKey]
    · rw [Function.update_of_ne hjs] at hj
      simpa [fillSlot, macKey_ne_idKey, macKey_inj, hkey hjs] using h.active_entry j mac' hj
  · intro j hj
    rw [activeMac_fillSlot] at hj
    by_cases hjs : j = slot
    · subst hjs
      simp at hj
    · rw [Function.update_of_ne hjs] at hj
      have hold := h.inactive_stored j hj
      rw [← hold]
      refine congrArg (Option.map Prod.fst) (storedSlot_congr ?_ ?_)
      · simp [fillSlot, macKey_ne_idKey, macKey_inj, hkey hjs]
      · simp [fillSlot, idKey_inj, (macKey_ne_idKey _ _).symm, hkey hjs]

theorem backed_storePairedClient [ITransport σ] {c : PairingCoordinator σ} (h : c.Backed)
    (mac : MacAddress) (deviceId : UInt8) : (c.storePairedClient mac deviceId).2.Backed := by
  rcases c.storePairedClient_cases mac deviceId with
    ⟨i, hm, hs⟩ | ⟨i, hm, _, hs⟩ | ⟨i, hm, _, _, hs⟩ | ⟨_, hs⟩
  · exact h.congr (activeMac_of_setId (by rw [hs])) (by rw [hs])
  · rw [hs]
    exact backed_fillSlot h i hm deviceId
  · have hremoved : Backed { c with transport := c.transport.removePeer (c.clients i).mac } :=
      h.congr rfl rfl
    rw [hs]
    exact backed_fillSlot hremoved i hm deviceId
  · rw [hs]
    exact h

variable [ITransport σ]

theorem activeMac_load_some {c : PairingCoordinator σ} {i : Fin MAX_PAIRED_CLIENTS}
    {mac : MacAddress} (h : storedMac c.prefs i = some mac) :
    c.loadPairedClients.activeMac i = some mac := by
  rw [← h]
  simp only [activeMac, loadPairedClients_clients, loadedInfo, storedMac] at h ⊢
  cases hs : stored c.prefs i with
  | some e => rfl
  | none => simp [hs] at h

/-- A slot without a stored address is not emptied by a load, but its bytes are read into. -/
theorem activeMac_load_none {c : PairingCoordinator σ} {i : Fin MAX_PAIRED_CLIENTS}
    (h : storedMac c.prefs i = none) :
    c.loadPairedClients.activeMac i = (c.activeMac i).map
      (·.copyInto (c.prefs.getBytes (macKey i) MacAddress.ADDR_LEN)) := by
  have hs : stored c.prefs i = none := by simpa [storedMac] using h
  simp only [activeMac, loadPairedClients_clients, loadedInfo, hs]
  split <;> rfl

theorem activeMac_load_new (transport : Transport σ) (p : Preferences) :
    (new transport p).loadPairedClients.activeMac = storedMac p := by
  funext i
  cases hs : storedMac p i with
  | some mac => exact activeMac_load_some hs
  | none => exact activeMac_load_none hs

theorem backed_load_new (transport : Transport σ) {p : Preferences}
    (h : Distinct (storedMac p)) : (new transport p).loadPairedClients.Backed := by
  have hload := activeMac_load_new transport p
  have hprefs : (new transport p).loadPairedClients.prefs = p := loadPairedClients_prefs _
  refine ⟨?_, ?_, ?_⟩
  · rw [hload]
    exact h
  · rw [hload, hprefs]
    exact fun _ _ => entry_of_storedMac
  · rw [hload, hprefs]
    exact fun _ hi => hi

theorem backed_load {c : PairingCoordinator σ} (h : c.Backed) : c.loadPairedClients.Backed := by
  refine h.congr ?_ (loadPairedClients_prefs c)
  funext i
  cases hs : storedMac c.prefs i with
  | some mac => rw [activeMac_load_some hs, h.activeMac_of_stored hs]
  | none =>
    rw [activeMac_load_none hs]
    cases hm : c.activeMac i with
    | none => rfl
    | some mac =>
      -- only the zero address is stored and yet not taken: it is read over itself
      have hread : c.prefs.getBytes (macKey i) MacAddress.ADDR_LEN = mac.addr := by
        simp [Preferences.getBytes, h.active_entry i mac hm, mac.addr_length,
          MacAddress.ADDR_LEN]
      rw [hread, Option.map_some, MacAddress.copyInto_addr]

theorem activeMac_unpairAll (c : PairingCoordinator σ) :
    c.unpairAll.activeMac = fun _ => none := by
  funext i
  have hi := congrFun (unpairAll_tables c).1 i
  rw [activeMac_eq_none]
  simpa [table, PairedClientInfo.entry] using hi

theorem backed_unpairAll (c : PairingCoordinator σ) : c.unpairAll.Backed := by
  have hmac := activeMac_unpairAll c
  have hstored := (unpairAll_tables c).2
  refine ⟨?_, ?_, ?_⟩
  · rw [hmac]
    exact fun _ _ _ hi => nomatch hi
  · rw [hmac]
    exact fun _ _ hi => nomatch hi
  · exact fun i _ => by rw [storedMac, hstored, Option.map_none]

end PairingCoordinator

/-- What happens to a coordinator across its boots. Each boot may bring another radio; the
store is what lasts. -/
inductive BootEvent (σ : Type) where
  | boot (transport : Transport σ)
  | op (op : CoordinatorOp)

section Boots
variable {σ : Type} [ITransport σ]
open PairingCoordinator

def BootEvent.apply (c : PairingCoordinator σ) : BootEvent σ → PairingCoordinator σ
  | .boot transport => (new transport c.prefs).loadPairedClients
  | .op o => o.apply c

theorem apply_backed {c : PairingCoordinator σ} (h : c.Backed) (op : CoordinatorOp) :
    (op.apply c).Backed := by
  cases op with
  | loadPairedClients => exact backed_load h
  | enablePairing => exact h.congr rfl rfl
  | disablePairing => exact h.congr rfl rfl
  | loop nowMs =>
    obtain ⟨hclients, hprefs, _⟩ := c.loop_fields nowMs
    exact h.congr (activeMac_congr hclients) hprefs
  | handleReceived src data =>
    rcases c.handleReceived_cases src data with ⟨_, hr⟩ | ⟨_, hr⟩ | ⟨_, hr⟩
    · obtain ⟨hclients, hprefs, _⟩ := c.handlePairingRequest_fields src (.ofBytes data)
      rw [CoordinatorOp.apply, hr]
      exact (backed_storePairedClient h src _).congr (activeMac_congr hclients) hprefs
    · obtain ⟨hclients, hprefs, _⟩ := c.handleReconnectProbe_fields src (.ofBytes data)
      rw [CoordinatorOp.apply, hr]
      exact h.congr (activeMac_congr hclients) hprefs
    · rw [CoordinatorOp.apply, hr]
      exact h
  | onClientPaired => exact h.congr rfl rfl
  | unpairAll => exact backed_unpairAll c

theorem bootEvent_backed (c : PairingCoordinator σ) (ev : BootEvent σ) (h : c.Backed) :
    (ev.apply c).Backed := by
  cases ev with
  | boot transport => exact backed_load_new transport h.macsUnique.2
  | op op => exact apply_backed h op

theorem firstBoot_backed (transport : Transport σ) :
    (new transport Preferences.empty).loadPairedClients.Backed := by
  have hempty : Distinct (storedMac Preferences.empty) := fun _ _ _ hi => nomatch hi
  exact backed_load_new transport hempty

theorem boots_backed (transport : Transport σ) (evs : List (BootEvent σ)) :
    EachState BootEvent.apply Backed (new transport Preferences.empty).loadPairedClients evs :=
  eachState_invariant Backed (firstBoot_backed transport) evs bootEvent_backed

/-- From an empty store, over any number of boots with any calls in between: no two active
slots and no two persisted entries have the same address. -/
theorem macs_unique (transport : Transport σ) (evs : List (BootEvent σ)) :
    EachState BootEvent.apply MacsUnique
      (new transport Preferences.empty).loadPairedClients evs :=
  (boots_backed transport evs).imp fun _ h => h.macsUnique

end Boots
end UngulaNet.Pairing
