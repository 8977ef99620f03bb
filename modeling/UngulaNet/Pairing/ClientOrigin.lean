import UngulaNet.Pairing.MacsUnique

/-!
# Where a paired client comes from

Across any number of boots, a client in the table or in the store has sent a pairing request
with its device id, and no `unpairAll` has come after it: neither a load nor a half-written
slot makes a client up.
-/

namespace UngulaNet.Pairing
open Comm Runs Slots
set_option autoImplicit false

theorem isZero_of_stored {p : Preferences} {i : Fin MAX_PAIRED_CLIENTS} {e : ClientEntry}
    (h : stored p i = some e) : e.1.isZero = false := by
  simp only [stored, storedSlot] at h
  split at h
  · rename_i hread
    rw [← Option.some.inj h]
    exact hread.2
  · exact absurd h.symm (Option.some_ne_none e)

namespace PairingCoordinator
variable {σ : Type}

/-- The client is in the table, or a load would take it from the store. -/
def HasClient (c : PairingCoordinator σ) (e : ClientEntry) : Prop :=
  ∃ i, c.table i = some e ∨ stored c.prefs i = some e

theorem HasClient.of_eq {c c' : PairingCoordinator σ} {e : ClientEntry}
    (hclients : c'.clients = c.clients) (hprefs : c'.prefs = c.prefs) (h : c'.HasClient e) :
    c.HasClient e := by
  obtain ⟨i, h⟩ := h
  refine ⟨i, ?_⟩
  rwa [table, hclients, hprefs] at h

/-- A slot that is filled and persisted adds its client, if that. -/
theorem HasClient.of_fillSlot {c : PairingCoordinator σ} {slot : Fin MAX_PAIRED_CLIENTS}
    {mac : MacAddress} {deviceId : UInt8} {e : ClientEntry}
    (h : (c.fillSlot slot mac deviceId).HasClient e) : e = (mac, deviceId) ∨ c.HasClient e := by
  obtain ⟨i, htable | hstored⟩ := h
  · rw [table, fillSlot, table_update] at htable
    by_cases hi : i = slot
    · rw [hi, Function.update_self] at htable
      exact Or.inl (Option.some.inj htable).symm
    · rw [Function.update_of_ne hi] at htable
      exact Or.inr ⟨i, Or.inl htable⟩
  · by_cases hi : i = slot
    · subst hi
      cases hzero : mac.isZero with
      | false =>
        rw [fillSlot, stored_fillSlot c.prefs i hzero deviceId, Function.update_self] at hstored
        exact Or.inl (Option.some.inj hstored).symm
      | true =>
        -- the zero address is persisted, but no load takes it
        have hentry : (c.fillSlot i mac deviceId).prefs.entry (macKey i) =
            some (.bytes mac.addr) := by simp [fillSlot, macKey_ne_idKey]
        have hmac : e.1 = mac :=
          storedMac_eq_of_entry hentry (congrArg (Option.map Prod.fst) hstored)
        have hnonzero := isZero_of_stored hstored
        rw [hmac, hzero] at hnonzero
        exact Bool.noConfusion hnonzero
    · have hkey : (i : Nat) ≠ slot := fun heq => hi (Fin.ext heq)
      refine Or.inr ⟨i, Or.inr (Eq.trans (storedSlot_congr ?_ ?_) hstored)⟩
      · simp [fillSlot, macKey_ne_idKey, macKey_inj, hkey]
      · simp [fillSlot, idKey_inj, (macKey_ne_idKey _ _).symm, hkey]

variable [ITransport σ]

theorem HasClient.of_store {c : PairingCoordinator σ} {mac : MacAddress} {deviceId : UInt8}
    {e : ClientEntry} (h : (c.storePairedClient mac deviceId).2.HasClient e) :
    e = (mac, deviceId) ∨ c.HasClient e := by
  rcases c.storePairedClient_cases mac deviceId with
    ⟨i, hm, hs⟩ | ⟨i, _, _, hs⟩ | ⟨i, _, _, _, hs⟩ | ⟨_, hs⟩
  · rw [hs] at h
    obtain ⟨hactive, hmac⟩ := slotOf_spec hm
    obtain ⟨j, htable | hstored⟩ := h
    · rw [table, table_update] at htable
      by_cases hj : j = i
      · rw [hj, Function.update_self] at htable
        simp only [PairedClientInfo.entry, hactive, hmac, if_true] at htable
        exact Or.inl (Option.some.inj htable).symm
      · rw [Function.update_of_ne hj] at htable
        exact Or.inr ⟨j, Or.inl htable⟩
    · exact Or.inr ⟨j, Or.inr hstored⟩
  · rw [hs] at h
    exact h.of_fillSlot
  · rw [hs] at h
    exact h.of_fillSlot
  · rw [hs] at h
    exact Or.inr h

/-- A load takes what is stored and leaves what is in the table. -/
theorem HasClient.of_load {c : PairingCoordinator σ} (hc : c.Backed) {e : ClientEntry}
    (h : c.loadPairedClients.HasClient e) : c.HasClient e := by
  obtain ⟨i, htable | hstored⟩ := h
  · rw [table, loadPairedClients_clients] at htable
    cases hs : stored c.prefs i with
    | some e' =>
      simp only [loadedInfo, hs] at htable
      exact ⟨i, Or.inr (hs.trans htable)⟩
    | none =>
      simp only [loadedInfo, hs] at htable
      by_cases hactive : (c.clients i).active = true
      · -- only the zero address is stored and yet not taken: it is read over itself
        have hentry := hc.active_entry i (c.clients i).mac (activeMac_eq_some.mpr ⟨hactive, rfl⟩)
        have hread : c.prefs.getBytes (macKey i) MacAddress.ADDR_LEN = (c.clients i).mac.addr := by
          simp [Preferences.getBytes, hentry, (c.clients i).mac.addr_length, MacAddress.ADDR_LEN]
        rw [hread, MacAddress.copyInto_addr] at htable
        exact ⟨i, Or.inl htable⟩
      · simp [PairedClientInfo.entry, hactive] at htable
  · rw [loadPairedClients_prefs] at hstored
    exact ⟨i, Or.inr hstored⟩

theorem HasClient.of_boot {c : PairingCoordinator σ} {transport : Transport σ} {e : ClientEntry}
    (h : (new transport c.prefs).loadPairedClients.HasClient e) : c.HasClient e := by
  obtain ⟨i, htable | hstored⟩ := h
  · rw [table_load_new] at htable
    exact ⟨i, Or.inr htable⟩
  · rw [loadPairedClients_prefs] at hstored
    exact ⟨i, Or.inr hstored⟩

theorem not_hasClient_unpairAll (c : PairingCoordinator σ) (e : ClientEntry) :
    ¬ c.unpairAll.HasClient e := by
  obtain ⟨htable, hstored⟩ := unpairAll_tables c
  rintro ⟨i, h | h⟩
  · rw [htable] at h
    exact nomatch h
  · rw [hstored] at h
    exact nomatch h

end PairingCoordinator

section Boots
variable {σ : Type} [ITransport σ]
open PairingCoordinator

/-- The client asks to be paired. -/
def BootEvent.Asks (ev : BootEvent σ) (e : ClientEntry) : Prop :=
  ∃ data, ev = .op (.handleReceived e.1 data) ∧ IsRequest data ∧
    e.2 = (PairingRequest.ofBytes data).deviceId

def BootEvent.Forgets (ev : BootEvent σ) (_ : ClientEntry) : Prop := ev = .op .unpairAll

/-- An event brings in the client that asks, and leaves at most those that were there. -/
theorem hasClient_step {c : PairingCoordinator σ} (hc : c.Backed) (ev : BootEvent σ)
    {e : ClientEntry} (h : (ev.apply c).HasClient e) :
    ev.Asks e ∨ c.HasClient e ∧ ¬ ev.Forgets e := by
  cases ev with
  | boot transport => exact Or.inr ⟨.of_boot h, fun hforgets => nomatch hforgets⟩
  | op op =>
    cases op with
    | loadPairedClients => exact Or.inr ⟨.of_load hc h, fun hforgets => nomatch hforgets⟩
    | enablePairing => exact Or.inr ⟨h.of_eq rfl rfl, fun hforgets => nomatch hforgets⟩
    | disablePairing => exact Or.inr ⟨h.of_eq rfl rfl, fun hforgets => nomatch hforgets⟩
    | onClientPaired => exact Or.inr ⟨h.of_eq rfl rfl, fun hforgets => nomatch hforgets⟩
    | loop nowMs =>
      obtain ⟨hclients, hprefs, _⟩ := c.loop_fields nowMs
      exact Or.inr ⟨h.of_eq hclients hprefs, fun hforgets => nomatch hforgets⟩
    | unpairAll => exact absurd h (not_hasClient_unpairAll c e)
    | handleReceived src data =>
      have hkeeps : ¬ BootEvent.Forgets (.op (.handleReceived src data) : BootEvent σ) e :=
        fun hforgets => nomatch hforgets
      rw [BootEvent.apply, CoordinatorOp.apply] at h
      rcases c.handleReceived_cases src data with ⟨hreq, hr⟩ | ⟨_, hr⟩ | ⟨_, hr⟩
      · obtain ⟨hclients, hprefs, _⟩ := c.handlePairingRequest_fields src (.ofBytes data)
        rw [hr] at h
        rcases (h.of_eq hclients hprefs).of_store with rfl | hold
        · exact Or.inl ⟨data, rfl, hreq, rfl⟩
        · exact Or.inr ⟨hold, hkeeps⟩
      · obtain ⟨hclients, hprefs, _⟩ := c.handleReconnectProbe_fields src (.ofBytes data)
        rw [hr] at h
        exact Or.inr ⟨h.of_eq hclients hprefs, hkeeps⟩
      · rw [hr] at h
        exact Or.inr ⟨h, hkeeps⟩

/-- From an empty store, over any number of boots with any calls in between: a client in the
table or in the store has asked for it with its device id, after the last `unpairAll`. -/
theorem client_has_asked (transport : Transport σ) (evs : List (BootEvent σ)) (e : ClientEntry)
    (h : (run BootEvent.apply (new transport Preferences.empty).loadPairedClients evs).HasClient e) :
    ∃ before data after, evs = before ++ .op (.handleReceived e.1 data) :: after ∧
      IsRequest data ∧ e.2 = (PairingRequest.ofBytes data).deviceId ∧
      ∀ ev ∈ after, ev ≠ .op .unpairAll := by
  have hnobody : ¬ (new transport Preferences.empty).loadPairedClients.HasClient e := by
    rintro ⟨i, htable | hstored⟩
    · rw [table_load_new] at htable
      exact nomatch htable
    · rw [loadPairedClients_prefs] at hstored
      exact nomatch hstored
  rcases exists_origin Backed bootEvent_backed (fun c ev e hc => hasClient_step hc ev)
    (firstBoot_backed transport) h with ⟨hthere, _⟩ | ⟨before, ev, after, heq, hasks, hrest⟩
  · exact absurd hthere hnobody
  · obtain ⟨data, rfl, hreq, hid⟩ := hasks
    exact ⟨before, data, after, heq, hreq, hid, hrest⟩

end Boots

section Example

/-- One client asks, the coordinator reboots. -/
def askedThenBooted : List (BootEvent (EspNowTransport SimRadio)) :=
  [.op (.handleReceived clientMac (PairingRequest.init 7).toBytes), .boot (simTransport coordMac 6)]

theorem askedThenBooted_asked :
    ∃ before data after, askedThenBooted = before ++ .op (.handleReceived clientMac data) :: after ∧
      PairingCoordinator.IsRequest data ∧ (7 : UInt8) = (PairingRequest.ofBytes data).deviceId ∧
      ∀ ev ∈ after, ev ≠ .op .unpairAll :=
  client_has_asked (simTransport coordMac 6) askedThenBooted (clientMac, 7)
    ⟨⟨0, by decide⟩, Or.inl (by decide)⟩

end Example
end UngulaNet.Pairing
