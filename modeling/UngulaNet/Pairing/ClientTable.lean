import UngulaNet.Foundation.Runs
import UngulaNet.Comm.EspNowTransport
import UngulaNet.Pairing.CoordinatorSteps

/-!
# The client table and its persisted copy

Abstractly the coordinator keeps a table of optional entries `(MAC, device id)`, once in
memory (`table`) and once in the store (`stored`). Filling a slot and unpairing change
both alike. Updating the device id of a known MAC changes the table only, so the two
agree along a run exactly when no request brings a known MAC with a new device id.
-/

namespace UngulaNet.Pairing
open Comm Runs Slots
set_option autoImplicit false

abbrev ClientEntry := MacAddress × UInt8

/-- What an active slot stands for; the data left in an inactive slot stands for nothing. -/
def PairedClientInfo.entry (info : PairedClientInfo) : Option ClientEntry :=
  if info.active then some (info.mac, info.deviceId) else none

/-- The entry a load finds under the keys of slot `i`. -/
def storedSlot (p : Preferences) (i : Nat) : Option ClientEntry :=
  let read := p.getBytes (macKey i) MacAddress.ADDR_LEN
  let mac := MacAddress.cleared.copyInto read
  if read.length = MacAddress.ADDR_LEN ∧ mac.isZero = false then
    some (mac, p.getUInt8 (idKey i) 0)
  else none

def stored (p : Preferences) (i : Fin MAX_PAIRED_CLIENTS) : Option ClientEntry := storedSlot p i

theorem storedSlot_congr {p q : Preferences} {i : Nat} (hmac : p.entry (macKey i) = q.entry (macKey i))
    (hid : p.entry (idKey i) = q.entry (idKey i)) : storedSlot p i = storedSlot q i := by
  simp [storedSlot, Preferences.getBytes_congr hmac, Preferences.getUInt8_congr hid]

theorem copyInto_of_full (m m' : MacAddress) {read : List UInt8}
    (h : read.length = MacAddress.ADDR_LEN) : m.copyInto read = m'.copyInto read := by
  ext1
  rw [m.copyInto_full h, m'.copyInto_full h]

namespace PairingCoordinator
variable {σ : Type}

def table (c : PairingCoordinator σ) (i : Fin MAX_PAIRED_CLIENTS) : Option ClientEntry :=
  (c.clients i).entry

theorem table_update {c : PairingCoordinator σ} {i : Fin MAX_PAIRED_CLIENTS}
    {info : PairedClientInfo} (j : Fin MAX_PAIRED_CLIENTS) :
    (Function.update c.clients i info j).entry =
      Function.update c.table i info.entry j := by
  by_cases h : j = i
  · subst h
    simp
  · simp [h, table]

/-- The slot after a load: the stored entry, or the old slot with its MAC overwritten by
whatever part of an address the store held. -/
def loadedInfo (p : Preferences) (i : Fin MAX_PAIRED_CLIENTS) (old : PairedClientInfo) :
    PairedClientInfo :=
  match stored p i with
  | some (mac, deviceId) => { mac := mac, deviceId := deviceId, active := true }
  | none => { old with mac := old.mac.copyInto (p.getBytes (macKey i) MacAddress.ADDR_LEN) }

theorem loadedInfo_entry_of_agree {p : Preferences} {i : Fin MAX_PAIRED_CLIENTS}
    {old : PairedClientInfo} (h : old.entry = stored p i ∨ old.active = false) :
    (loadedInfo p i old).entry = stored p i := by
  unfold loadedInfo
  cases hs : stored p i with
  | some e => rfl
  | none =>
    have hinactive : old.active = false := by
      rcases h with h | h
      · rw [hs] at h
        simpa [PairedClientInfo.entry] using h
      · exact h
    simp [PairedClientInfo.entry, hinactive]

def Agrees (c : PairingCoordinator σ) : Prop := c.table = stored c.prefs

variable [ITransport σ]

theorem loadSlot_eq (i : Fin MAX_PAIRED_CLIENTS) (c : PairingCoordinator σ) : c.loadSlot i =
    { c with
      clients := Function.update c.clients i (loadedInfo c.prefs i (c.clients i)),
      transport := (stored c.prefs i).elim c.transport fun e => c.transport.addPeer e.1 0 } := by
  unfold loadSlot loadedInfo stored storedSlot
  dsimp only
  by_cases hread : (c.prefs.getBytes (macKey i) MacAddress.ADDR_LEN).length = MacAddress.ADDR_LEN
  · rw [copyInto_of_full (c.clients i).mac .cleared hread]
    split <;> rfl
  · simp only [hread, false_and, if_false, Option.elim_none]

theorem loadSlot_prefs (i : Fin MAX_PAIRED_CLIENTS) (c : PairingCoordinator σ) :
    (c.loadSlot i).prefs = c.prefs := by
  rw [loadSlot_eq]

theorem loadSlot_clients (i : Fin MAX_PAIRED_CLIENTS) (c : PairingCoordinator σ) :
    (c.loadSlot i).clients =
      Function.update c.clients i (loadedInfo c.prefs i (c.clients i)) := by
  rw [loadSlot_eq]

theorem loadSlot_transport (i : Fin MAX_PAIRED_CLIENTS) (c : PairingCoordinator σ) :
    (c.loadSlot i).transport =
      (stored c.prefs i).elim c.transport fun e => c.transport.addPeer e.1 0 := by
  rw [loadSlot_eq]

theorem loadPairedClients_prefs (c : PairingCoordinator σ) :
    c.loadPairedClients.prefs = c.prefs :=
  sweep_invariant (fun c' : PairingCoordinator σ => c'.prefs = c.prefs)
    (fun i c' h => (loadSlot_prefs i c').trans h) rfl

theorem loadPairedClients_clients (c : PairingCoordinator σ) :
    c.loadPairedClients.clients = fun i => loadedInfo c.prefs i (c.clients i) :=
  sweep_slots (fun c' : PairingCoordinator σ => c'.prefs = c.prefs) clients loadSlot
    (loadedInfo c.prefs) (fun i c' h => (loadSlot_prefs i c').trans h)
    (fun i c' h => by rw [loadSlot_clients, h]) rfl

theorem table_load_new (transport : Transport σ) (p : Preferences) :
    (new transport p).loadPairedClients.table = stored p := by
  funext i
  rw [table, loadPairedClients_clients]
  exact loadedInfo_entry_of_agree (Or.inr rfl)

theorem agrees_load_new (transport : Transport σ) (p : Preferences) :
    (new transport p).loadPairedClients.Agrees := by
  rw [Agrees, table_load_new, loadPairedClients_prefs]
  rfl

theorem agrees_load {c : PairingCoordinator σ} (h : c.Agrees) : c.loadPairedClients.Agrees := by
  rw [Agrees, loadPairedClients_prefs]
  funext i
  rw [table, loadPairedClients_clients]
  exact loadedInfo_entry_of_agree (Or.inl (congrFun h i))

theorem stored_fillSlot (p : Preferences) (slot : Fin MAX_PAIRED_CLIENTS) {mac : MacAddress}
    (hmac : mac.isZero = false) (deviceId : UInt8) :
    stored ((p.putBytes (macKey slot) mac.addr).putUInt8 (idKey slot) deviceId) =
      Function.update (stored p) slot (some (mac, deviceId)) := by
  funext j
  by_cases hj : j = slot
  · subst hj
    have hread : ((p.putBytes (macKey j) mac.addr).putUInt8 (idKey j) deviceId).getBytes
        (macKey j) MacAddress.ADDR_LEN = mac.addr := by
      rw [Preferences.getBytes_putUInt8 (macKey_ne_idKey _ _)]
      exact Preferences.getBytes_putBytes p _ (Nat.le_of_eq mac.addr_length)
    have hid : ((p.putBytes (macKey j) mac.addr).putUInt8 (idKey j) deviceId).getUInt8
        (idKey j) 0 = deviceId := by
      rw [Preferences.getUInt8_putUInt8, if_pos rfl]
    simp only [stored, storedSlot, hread, MacAddress.copyInto_addr, hid, hmac,
      Function.update_self]
    exact if_pos ⟨mac.addr_length, trivial⟩
  · have hne : (j : Nat) ≠ slot := fun h => hj (Fin.ext h)
    rw [Function.update_of_ne hj]
    apply storedSlot_congr
    · simp [macKey_inj, macKey_ne_idKey, hne]
    · simp [idKey_inj, (macKey_ne_idKey _ _).symm, hne]

omit [ITransport σ] in
theorem agrees_fillSlot {c : PairingCoordinator σ} (h : c.Agrees)
    (slot : Fin MAX_PAIRED_CLIENTS) {mac : MacAddress} (hmac : mac.isZero = false)
    (deviceId : UInt8) : (c.fillSlot slot mac deviceId).Agrees := by
  rw [Agrees, fillSlot, stored_fillSlot c.prefs slot hmac deviceId, ← h]
  funext j
  exact table_update j

theorem unpairSlot_prefs (i : Fin MAX_PAIRED_CLIENTS) (c : PairingCoordinator σ) :
    (c.unpairSlot i).prefs = (c.prefs.remove (macKey i)).remove (idKey i) := by
  simp only [unpairSlot, Preferences.remove_if_hasKey]

theorem stored_remove (p : Preferences) (i : Fin MAX_PAIRED_CLIENTS) :
    stored ((p.remove (macKey i)).remove (idKey i)) = Function.update (stored p) i none := by
  funext j
  by_cases hj : j = i
  · subst hj
    have hread : ((p.remove (macKey j)).remove (idKey j)).getBytes (macKey j)
        MacAddress.ADDR_LEN = [] := by
      simp [Preferences.getBytes, macKey_ne_idKey]
    simp only [stored, storedSlot, hread, Function.update_self]
    exact if_neg (fun h => absurd h.1 (by decide))
  · have hne : (j : Nat) ≠ i := fun h => hj (Fin.ext h)
    rw [Function.update_of_ne hj]
    apply storedSlot_congr
    · simp [macKey_inj, macKey_ne_idKey, hne]
    · simp [idKey_inj, (macKey_ne_idKey _ _).symm, hne]

theorem unpairSlot_table (i : Fin MAX_PAIRED_CLIENTS) (c : PairingCoordinator σ) :
    (c.unpairSlot i).table = Function.update c.table i none := by
  funext j
  exact table_update j

theorem unpairAll_tables (c : PairingCoordinator σ) :
    c.unpairAll.table = (fun _ => none) ∧ stored c.unpairAll.prefs = fun _ => none := by
  constructor
  · exact sweep_slots (fun _ => True) table unpairSlot (fun _ _ => none)
      (fun _ _ _ => trivial) (fun i c _ => unpairSlot_table i c) trivial
  · exact sweep_slots (fun _ => True) (fun c : PairingCoordinator σ => stored c.prefs)
      unpairSlot (fun _ _ => none) (fun _ _ _ => trivial)
      (fun i c _ => by rw [unpairSlot_prefs, stored_remove]) trivial

theorem agrees_unpairAll (c : PairingCoordinator σ) : c.unpairAll.Agrees := by
  rw [Agrees, (unpairAll_tables c).1, (unpairAll_tables c).2]

/-- The restart property: whatever radio the next boot has, the table it loads is the
table this run ends with. -/
def Durable (c : PairingCoordinator σ) : Prop :=
  ∀ transport : Transport σ, (new transport c.prefs).loadPairedClients.table = c.table

theorem durable_iff_agrees {c : PairingCoordinator σ} : c.Durable ↔ c.Agrees := by
  constructor
  · intro h
    rw [Agrees, ← h c.transport, table_load_new]
  · intro h transport
    rw [table_load_new, h]

omit [ITransport σ] in
theorem Agrees.congr {c c' : PairingCoordinator σ} (hclients : c'.clients = c.clients)
    (hprefs : c'.prefs = c.prefs) : c'.Agrees ↔ c.Agrees := by
  unfold Agrees table
  rw [hclients, hprefs]

def KeepsIdOf (c : PairingCoordinator σ) (mac : MacAddress) (deviceId : UInt8) : Prop :=
  ∀ i, c.slotOf mac = some i → (c.clients i).deviceId = deviceId

theorem storePairedClient_agrees {c : PairingCoordinator σ} (h : c.Agrees) {mac : MacAddress}
    (hmac : mac.isZero = false) {deviceId : UInt8} (hid : c.KeepsIdOf mac deviceId) :
    (c.storePairedClient mac deviceId).2.Agrees := by
  rcases c.storePairedClient_cases mac deviceId with
    ⟨i, hm, hs⟩ | ⟨i, _, _, hs⟩ | ⟨i, _, _, _, hs⟩ | ⟨_, hs⟩
  · rw [hs, ← hid i hm]
    refine Iff.mpr (Agrees.congr ?_ ?_) h
    · exact Function.update_eq_self i c.clients
    · rfl
  · rw [hs]
    exact agrees_fillSlot h i hmac deviceId
  · rw [hs]
    exact agrees_fillSlot ((Agrees.congr rfl rfl).mpr h) i hmac deviceId
  · rw [hs]
    exact h

/-- A known client with a new device id: the slot changes, the store does not. -/
theorem storePairedClient_disagrees {c : PairingCoordinator σ} (h : c.Agrees)
    {mac : MacAddress} {deviceId : UInt8} (hid : ¬ c.KeepsIdOf mac deviceId) :
    ¬ (c.storePairedClient mac deviceId).2.Agrees := by
  simp only [KeepsIdOf, not_forall] at hid
  obtain ⟨i, hm, hne⟩ := hid
  rcases c.storePairedClient_cases mac deviceId with
    ⟨j, hj, hs⟩ | ⟨_, hn, _⟩ | ⟨_, hn, _⟩ | ⟨hn, _⟩
  · obtain rfl : i = j := Option.some.inj (hm.symm.trans hj)
    obtain ⟨hactive, hmac⟩ := slotOf_spec hm
    rw [hs]
    intro h'
    have hold : c.table i = some (mac, (c.clients i).deviceId) := by
      simp [table, PairedClientInfo.entry, hactive, hmac]
    have hnew := congrFun h' i
    rw [← congrFun h i, hold] at hnew
    simp only [table, PairedClientInfo.entry, Function.update_self, hactive, if_true,
      Option.some.injEq, Prod.mk.injEq] at hnew
    exact hne hnew.2.symm
  · simp [hm] at hn
  · simp [hm] at hn
  · exact absurd (Or.inl (by simp [isPaired, hm])) hn

end PairingCoordinator

section Run
variable {σ : Type}

def NonZeroSource : CoordinatorOp → Prop
  | .handleReceived src _ => src.isZero = false
  | _ => True

/-- The buffer, if it is a request of a client that is already in the table, carries the
device id the table has for it. -/
def KeepsId (c : PairingCoordinator σ) : CoordinatorOp → Prop
  | .handleReceived src data => PairingCoordinator.IsRequest data →
      c.KeepsIdOf src (PairingRequest.ofBytes data).deviceId
  | _ => True

instance (c : PairingCoordinator σ) (mac : MacAddress) (deviceId : UInt8) :
    Decidable (c.KeepsIdOf mac deviceId) :=
  inferInstanceAs (Decidable (∀ i, c.slotOf mac = some i → (c.clients i).deviceId = deviceId))

instance : ∀ op, Decidable (NonZeroSource op)
  | .handleReceived src _ => inferInstanceAs (Decidable (src.isZero = false))
  | .loadPairedClients | .enablePairing | .disablePairing | .loop _ | .onClientPaired
  | .unpairAll => isTrue trivial

instance (c : PairingCoordinator σ) : ∀ op, Decidable (KeepsId c op)
  | .handleReceived _ _ => inferInstanceAs (Decidable (_ → _))
  | .loadPairedClients | .enablePairing | .disablePairing | .loop _ | .onClientPaired
  | .unpairAll => isTrue trivial

variable [ITransport σ]
open PairingCoordinator

theorem apply_agrees {c : PairingCoordinator σ} (h : c.Agrees) {op : CoordinatorOp}
    (hsrc : NonZeroSource op) (hid : KeepsId c op) : (op.apply c).Agrees := by
  cases op with
  | loadPairedClients => exact agrees_load h
  | enablePairing => exact (Agrees.congr rfl rfl).mpr h
  | disablePairing => exact (Agrees.congr rfl rfl).mpr h
  | loop nowMs =>
    obtain ⟨hclients, hprefs, _⟩ := c.loop_fields nowMs
    exact (Agrees.congr hclients hprefs).mpr h
  | handleReceived src data =>
    rcases c.handleReceived_cases src data with ⟨his, hr⟩ | ⟨_, hr⟩ | ⟨_, hr⟩
    · obtain ⟨hclients, hprefs, _⟩ := c.handlePairingRequest_fields src (.ofBytes data)
      rw [CoordinatorOp.apply, hr]
      exact (Agrees.congr hclients hprefs).mpr (storePairedClient_agrees h hsrc (hid his))
    · obtain ⟨hclients, hprefs, _⟩ := c.handleReconnectProbe_fields src (.ofBytes data)
      rw [CoordinatorOp.apply, hr]
      exact (Agrees.congr hclients hprefs).mpr h
    · rw [CoordinatorOp.apply, hr]
      exact h
  | onClientPaired => exact (Agrees.congr rfl rfl).mpr h
  | unpairAll => exact agrees_unpairAll c

theorem apply_breaks_durable {c : PairingCoordinator σ} (h : c.Agrees) {op : CoordinatorOp}
    (hid : ¬ KeepsId c op) : ¬ (op.apply c).Durable := by
  cases op with
  | handleReceived src data =>
    simp only [KeepsId, Classical.not_imp] at hid
    obtain ⟨his, hid⟩ := hid
    obtain ⟨hclients, hprefs, _⟩ := c.handlePairingRequest_fields src (.ofBytes data)
    rw [durable_iff_agrees, CoordinatorOp.apply, c.handleReceived_request src his]
    exact (Agrees.congr hclients hprefs).not.mpr (storePairedClient_disagrees h hid)
  | _ => exact absurd trivial hid

/-- After a boot on any store, the table survives a restart in every state of a run if
and only if no request of the run gives a known client a new device id. -/
theorem client_table_durable_iff (transport : Transport σ) (p : Preferences)
    (ops : List CoordinatorOp) (hops : ∀ op ∈ ops, NonZeroSource op) :
    EachState CoordinatorOp.apply Durable (new transport p).loadPairedClients ops ↔
      EachStep CoordinatorOp.apply KeepsId (new transport p).loadPairedClients ops :=
  eachState_iff_eachStep Agrees (agrees_load_new transport p) (eachStep_of_forall hops _)
    (fun _ _ h hsrc hid => apply_agrees h hsrc hid)
    (fun _ h => durable_iff_agrees.mpr h)
    (fun _ _ h _ hid => apply_breaks_durable h hid)

end Run

section Example

theorem client_table_durable_two_clients :
    EachState CoordinatorOp.apply PairingCoordinator.Durable
      (PairingCoordinator.new (simTransport coordMac 6) Preferences.empty).loadPairedClients
      [.enablePairing, .handleReceived clientMac (PairingRequest.init 7).toBytes,
        .handleReceived coordMac (PairingRequest.init 9).toBytes,
        .handleReceived clientMac (PairingRequest.init 7).toBytes] :=
  (client_table_durable_iff (simTransport coordMac 6) Preferences.empty _ (by decide)).mpr
    (by decide)

/-- A client pairs again under a new device id: the next boot still has the old one. -/
theorem new_device_id_lost :
    ¬ EachState CoordinatorOp.apply PairingCoordinator.Durable
      (PairingCoordinator.new (simTransport coordMac 6) Preferences.empty).loadPairedClients
      [.enablePairing, .handleReceived clientMac (PairingRequest.init 7).toBytes,
        .handleReceived clientMac (PairingRequest.init 8).toBytes] := by
  intro h
  have hlast := congrFun (h.last (simTransport coordMac 6)) ⟨0, by decide⟩
  exact absurd hlast (by decide)

end Example
end UngulaNet.Pairing
