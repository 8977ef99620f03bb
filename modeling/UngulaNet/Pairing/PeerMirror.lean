import UngulaNet.Comm.PeerSet
import UngulaNet.Pairing.MacsUnique

/-!
# The peers of the coordinator's radio

Apart from the broadcast address the peers should be the paired clients. A pairing request
adds its sender as a peer whatever becomes of the request, so they are exactly when every
request is accepted and a client that is taken over has no second slot.
-/

namespace UngulaNet.Pairing
open Comm Runs Slots
set_option autoImplicit false

namespace PairingCoordinator
variable {σ : Type}

def pairedMacs (c : PairingCoordinator σ) : Set MacAddress := {m | c.isPaired m = true}

instance (c : PairingCoordinator σ) (m : MacAddress) : Decidable (m ∈ c.pairedMacs) :=
  inferInstanceAs (Decidable (c.isPaired m = true))

theorem mem_pairedMacs {c : PairingCoordinator σ} {m : MacAddress} :
    m ∈ c.pairedMacs ↔ ∃ i, c.activeMac i = some m := by
  simp only [pairedMacs, Set.mem_ofPred_eq, isPaired_iff, activeMac_eq_some]

/-- The addresses of the active slots other than `i`. -/
def othersThan (c : PairingCoordinator σ) (i : Fin MAX_PAIRED_CLIENTS) : Set MacAddress :=
  {m | ∃ j, j ≠ i ∧ c.activeMac j = some m}

theorem pairedMacs_of_update {c c' : PairingCoordinator σ} {i : Fin MAX_PAIRED_CLIENTS}
    {mac : MacAddress} (h : c'.activeMac = Function.update c.activeMac i (some mac)) :
    c'.pairedMacs = insert mac (c.othersThan i) := by
  ext m
  rw [mem_pairedMacs, h, Set.mem_insert_iff]
  constructor
  · rintro ⟨j, hj⟩
    by_cases hji : j = i
    · subst hji
      exact Or.inl (by simpa using hj.symm)
    · exact Or.inr ⟨j, hji, by simpa [hji] using hj⟩
  · rintro (rfl | ⟨j, hji, hj⟩)
    · exact ⟨i, Function.update_self ..⟩
    · exact ⟨j, by rwa [Function.update_of_ne hji]⟩

theorem othersThan_of_inactive {c : PairingCoordinator σ} {i : Fin MAX_PAIRED_CLIENTS}
    (h : c.activeMac i = none) : c.othersThan i = c.pairedMacs := by
  ext m
  rw [mem_pairedMacs]
  constructor
  · rintro ⟨j, _, hj⟩
    exact ⟨j, hj⟩
  · rintro ⟨j, hj⟩
    refine ⟨j, ?_, hj⟩
    rintro rfl
    simp [h] at hj

theorem pairedMacs_of_active {c : PairingCoordinator σ} {i : Fin MAX_PAIRED_CLIENTS}
    {mac : MacAddress} (h : c.activeMac i = some mac) :
    c.pairedMacs = insert mac (c.othersThan i) :=
  pairedMacs_of_update (by rw [← h, Function.update_eq_self])

theorem not_paired_of_slotOf {c : PairingCoordinator σ} {mac : MacAddress}
    (h : c.slotOf mac = none) : mac ∉ c.pairedMacs := by
  simp [pairedMacs, isPaired, h]

theorem activeMac_of_slotWithId {c : PairingCoordinator σ} {deviceId : UInt8}
    {i : Fin MAX_PAIRED_CLIENTS} (h : c.slotWithId deviceId = some i) :
    c.activeMac i = some (c.clients i).mac :=
  activeMac_eq_some.mpr ⟨(slotWithId_spec h).1, rfl⟩

theorem pairedMacs_of_activeMac {c c' : PairingCoordinator σ}
    (h : c'.activeMac = c.activeMac) : c'.pairedMacs = c.pairedMacs := by
  ext m
  rw [mem_pairedMacs, mem_pairedMacs, h]

theorem pairedMacs_congr {c c' : PairingCoordinator σ} (h : c'.clients = c.clients) :
    c'.pairedMacs = c.pairedMacs :=
  pairedMacs_of_activeMac (activeMac_congr h)

/-- A slot that this sender would take over is the only one of its client. -/
def EvictsLast (c : PairingCoordinator σ) (mac : MacAddress) (deviceId : UInt8) : Prop :=
  c.slotOf mac = none → c.freeSlot = none →
    ∀ i, c.slotWithId deviceId = some i → ∀ j, c.activeMac j = c.activeMac i → j = i

theorem evictsLast_iff {c : PairingCoordinator σ} {mac : MacAddress} {deviceId : UInt8}
    (hm : c.slotOf mac = none) (hf : c.freeSlot = none) {i : Fin MAX_PAIRED_CLIENTS}
    (hd : c.slotWithId deviceId = some i) :
    c.EvictsLast mac deviceId ↔ (c.clients i).mac ∉ c.othersThan i := by
  have hi := activeMac_of_slotWithId hd
  constructor
  · rintro hlast ⟨j, hji, hj⟩
    exact hji (hlast hm hf i hd j (hj.trans hi.symm))
  · intro hnot _ _ i' hi' j hj
    obtain rfl : i = i' := Option.some.inj (hd.symm.trans hi')
    by_contra hji
    exact hnot ⟨j, hji, hj.trans hi⟩

variable [ITransport σ]

/-- The peers other than the broadcast address are the paired clients. -/
def PeersMirror (c : PairingCoordinator σ) : Prop :=
  c.transport.peers \ {.broadcast} = c.pairedMacs

theorem broadcast_not_paired {c : PairingCoordinator σ} (h : c.PeersMirror) :
    .broadcast ∉ c.pairedMacs := by
  rw [← h]
  simp

theorem mem_peers_of_paired {c : PairingCoordinator σ} (h : c.PeersMirror) {m : MacAddress}
    (hm : m ∈ c.pairedMacs) : m ∈ c.transport.peers := by
  rw [← h] at hm
  exact hm.1

theorem PeersMirror.congr {c c' : PairingCoordinator σ} (h : c.PeersMirror)
    (hclients : c'.clients = c.clients) (hpeers : c'.transport.peers = c.transport.peers) :
    c'.PeersMirror := by
  rw [PeersMirror, hpeers, pairedMacs_congr hclients]
  exact h

theorem PeersMirror.add_broadcast {c c' : PairingCoordinator σ} (h : c.PeersMirror)
    (hclients : c'.clients = c.clients)
    (hpeers : c'.transport.peers = insert .broadcast c.transport.peers) : c'.PeersMirror := by
  rw [PeersMirror, hpeers, pairedMacs_congr hclients,
    Set.insert_sdiff_of_mem _ (Set.mem_singleton _)]
  exact h

theorem PeersMirror.add_paired {c c' : PairingCoordinator σ} (h : c.PeersMirror)
    (hclients : c'.clients = c.clients) {m : MacAddress} (hm : m ∈ c.pairedMacs)
    (hpeers : c'.transport.peers = insert m c.transport.peers) : c'.PeersMirror :=
  h.congr hclients (hpeers.trans (Set.insert_eq_of_mem (mem_peers_of_paired h hm)))

end PairingCoordinator

section Requests
variable {σ : Type} [ITransport σ] {Ready : σ → Prop}

theorem insert_sdiff_ne {α : Type} {s t : Set α} {b : α} :
    insert b s \ {b} ≠ insert b t := by
  intro heq
  have hmem : b ∈ insert b s \ {b} := by
    rw [heq]
    exact Set.mem_insert b t
  exact hmem.2 rfl

/-- A mirror of a set stays one when both sides gain the same element. -/
theorem insert_sdiff_iff {α : Type} {peers paired : Set α} {b : α} (h : peers \ {b} = paired)
    (a : α) : insert a peers \ {b} = insert a paired ↔ a ≠ b := by
  constructor
  · rintro heq rfl
    exact insert_sdiff_ne heq
  · intro hne
    rw [Set.insert_sdiff_of_notMem _ (Set.mem_singleton_iff.not.mpr hne), h]

theorem insert_insert_sdiff_iff {α : Type} {others : Set α} {a m : α} (hne : a ≠ m) :
    insert a (insert m others \ {m}) = insert a others ↔ m ∉ others := by
  constructor
  · intro heq hm
    have hmem : m ∈ insert a (insert m others \ {m}) := by
      rw [heq]
      exact Set.mem_insert_of_mem a hm
    rcases Set.mem_insert_iff.mp hmem with rfl | hdiff
    · exact hne rfl
    · exact hdiff.2 rfl
  · intro hm
    rw [Set.insert_sdiff_self_of_notMem hm]

namespace PairingCoordinator

theorem handlePairingRequest_peers (hp : MaintainsPeers Ready) {c : PairingCoordinator σ}
    (src : MacAddress) (req : PairingRequest)
    (hstored : Ready (c.storePairedClient src req.deviceId).2.transport.dev) :
    (c.handlePairingRequest src req).transport.peers =
        insert src (c.storePairedClient src req.deviceId).2.transport.peers ∧
      Ready (c.handlePairingRequest src req).transport.dev ∧
      (c.handlePairingRequest src req).pairedMacs =
        (c.storePairedClient src req.deviceId).2.pairedMacs := by
  obtain ⟨hclients, _, _, htransport⟩ := c.handlePairingRequest_fields src req
  rw [htransport]
  obtain ⟨hpeers, hready⟩ := Transport.peers_addPeer_send hp hstored src 0 _
  exact ⟨hpeers, hready, pairedMacs_congr hclients⟩

theorem storePairedClient_ready (hp : MaintainsPeers Ready) {c : PairingCoordinator σ}
    (hc : Ready c.transport.dev) (mac : MacAddress) (deviceId : UInt8) :
    Ready (c.storePairedClient mac deviceId).2.transport.dev := by
  rcases c.storePairedClient_cases mac deviceId with
    ⟨i, _, hs⟩ | ⟨i, _, _, hs⟩ | ⟨i, _, _, _, hs⟩ | ⟨_, hs⟩
  · rw [hs]
    exact hc
  · rw [hs]
    exact hc
  · rw [hs]
    exact Transport.ready_removePeer hp hc _
  · rw [hs]
    exact hc

/-- A request keeps the mirror exactly when it is accepted, or refused to the broadcast
address, and forgets no client that has another slot. -/
theorem request_mirror_iff (hp : MaintainsPeers Ready) {c : PairingCoordinator σ}
    (hc : Ready c.transport.dev) (h : c.PeersMirror) (src : MacAddress) (req : PairingRequest) :
    (c.handlePairingRequest src req).PeersMirror ↔
      (c.Accepts src req.deviceId ↔ src ≠ .broadcast) ∧ c.EvictsLast src req.deviceId := by
  obtain ⟨hpeers, _, hpaired⟩ :=
    handlePairingRequest_peers hp src req (storePairedClient_ready hp hc src _)
  have hfst := c.storePairedClient_fst_iff src req.deviceId
  rw [PeersMirror, hpeers, hpaired]
  rcases c.storePairedClient_cases src req.deviceId with
    ⟨i, hm, hs⟩ | ⟨i, hm, hf, hs⟩ | ⟨i, hm, hf, hd, hs⟩ | ⟨hn, hs⟩
  · -- known: the sender is a peer and paired already
    have hmem : src ∈ c.pairedMacs := by simp [pairedMacs, isPaired, hm]
    have hne : src ≠ .broadcast := fun heq => broadcast_not_paired h (heq ▸ hmem)
    have haccepts : c.Accepts src req.deviceId := Or.inl hmem
    have hsame : (c.storePairedClient src req.deviceId).2.pairedMacs = c.pairedMacs :=
      pairedMacs_of_activeMac (activeMac_of_setId (by rw [hs]))
    rw [hsame, hs, Set.insert_eq_of_mem (mem_peers_of_paired h hmem)]
    exact iff_of_true h ⟨iff_of_true haccepts hne, fun hnone => by simp [hm] at hnone⟩
  · have haccepts : c.Accepts src req.deviceId := hfst.mp (by rw [hs])
    have hfree : c.activeMac i = none := activeMac_eq_none.mpr (freeSlot_spec hf)
    rw [hs]
    change insert src c.transport.peers \ {.broadcast} =
      (c.fillSlot i src req.deviceId).pairedMacs ↔ _
    rw [pairedMacs_of_update (c.activeMac_fillSlot i src req.deviceId),
      othersThan_of_inactive hfree, insert_sdiff_iff h]
    constructor
    · intro hne
      exact ⟨iff_of_true haccepts hne, fun _ hnone => by simp [hf] at hnone⟩
    · exact fun hkeeps => hkeeps.1.mp haccepts
  · -- taken over: the old client of the slot leaves the peers, and the table unless it
    -- has a second slot
    have haccepts : c.Accepts src req.deviceId := hfst.mp (by rw [hs])
    have hnew := not_paired_of_slotOf hm
    have hold := pairedMacs_of_active (activeMac_of_slotWithId hd)
    have hne : src ≠ (c.clients i).mac := by
      rintro heq
      rw [hold, heq] at hnew
      exact hnew (Set.mem_insert _ _)
    have hremoved : (c.transport.peers \ {(c.clients i).mac}) \ {.broadcast} =
        c.pairedMacs \ {(c.clients i).mac} := by
      rw [Set.sdiff_sdiff_comm]
      exact congrArg (· \ {(c.clients i).mac}) h
    rw [evictsLast_iff hm hf hd, ← insert_insert_sdiff_iff hne, ← hold, hs]
    change insert src (c.transport.removePeer (c.clients i).mac).peers \ {.broadcast} = _ ↔ _
    rw [pairedMacs_of_update (activeMac_fillSlot _ i src req.deviceId),
      Transport.peers_removePeer hp hc]
    change _ = insert src (c.othersThan i) ↔ _
    constructor
    · intro heq
      have hsrc : src ≠ .broadcast := by
        rintro rfl
        exact insert_sdiff_ne heq
      exact ⟨iff_of_true haccepts hsrc, ((insert_sdiff_iff hremoved src).mpr hsrc).symm.trans heq⟩
    · rintro ⟨hsrc, heq⟩
      rw [← heq]
      exact (insert_sdiff_iff hremoved src).mpr (hsrc.mp haccepts)
  · -- refused: the sender is no client, and now a peer
    have hnew : src ∉ c.pairedMacs := fun hmem => hn (Or.inl hmem)
    have hlast : c.EvictsLast src req.deviceId := by
      intro _ _ i hi
      exact absurd (Or.inr (Or.inr ⟨i, slotWithId_spec hi⟩)) hn
    rw [hs]
    constructor
    · intro heq
      refine ⟨iff_of_false hn fun hsrc => hnew ?_, hlast⟩
      rw [← heq]
      exact ⟨Set.mem_insert _ _, hsrc⟩
    · rintro ⟨hsrc, _⟩
      obtain rfl : src = .broadcast := by
        by_contra hne
        exact hn (hsrc.mpr hne)
      rw [Set.insert_sdiff_of_mem _ (Set.mem_singleton _)]
      exact h

/-- Along the load loop the peers are the clients loaded so far, each as it is stored. -/
structure LoadInv (Ready : σ → Prop) (p : Preferences) (c : PairingCoordinator σ) : Prop where
  ready : Ready c.transport.dev
  prefs : c.prefs = p
  peers : c.transport.peers = c.pairedMacs
  loaded : ∀ i mac, c.activeMac i = some mac → storedMac p i = some mac

/-- One turn of the load loop: a stored address is taken and added as a peer, or the slot
keeps whether it is active. -/
theorem loadSlot_cases (i : Fin MAX_PAIRED_CLIENTS) (c : PairingCoordinator σ) :
    (∃ mac, storedMac c.prefs i = some mac ∧
        (c.loadSlot i).activeMac = Function.update c.activeMac i (some mac) ∧
        (c.loadSlot i).transport = c.transport.addPeer mac 0) ∨
      (storedMac c.prefs i = none ∧ (c.loadSlot i).transport = c.transport ∧
        ∃ f : MacAddress → MacAddress,
          (c.loadSlot i).activeMac = Function.update c.activeMac i ((c.activeMac i).map f)) := by
  have hactive : (c.loadSlot i).activeMac = Function.update c.activeMac i
      (if (loadedInfo c.prefs i (c.clients i)).active then
        some (loadedInfo c.prefs i (c.clients i)).mac else none) := by
    funext j
    by_cases hj : j = i
    · subst hj
      simp [activeMac, loadSlot_clients]
    · simp [activeMac, loadSlot_clients, hj]
  rw [hactive, loadSlot_transport]
  cases hs : stored c.prefs i with
  | some e => exact Or.inl ⟨e.1, by simp [storedMac, hs], by simp [loadedInfo, hs], rfl⟩
  | none =>
    refine Or.inr ⟨by simp [storedMac, hs], rfl,
      (·.copyInto (c.prefs.getBytes (macKey i) MacAddress.ADDR_LEN)), ?_⟩
    simp only [loadedInfo, hs, activeMac]
    split <;> rfl

theorem loadSlot_loadInv (hp : MaintainsPeers Ready) {p : Preferences}
    (i : Fin MAX_PAIRED_CLIENTS) (c : PairingCoordinator σ) (h : LoadInv Ready p c) :
    LoadInv Ready p (c.loadSlot i) := by
  have hprefs : (c.loadSlot i).prefs = p := (loadSlot_prefs i c).trans h.prefs
  -- a slot that is active already has the stored address
  have hothers : ∀ mac, storedMac p i = some mac →
      insert mac (c.othersThan i) = insert mac c.pairedMacs := by
    intro mac hs
    cases hi : c.activeMac i with
    | none => rw [othersThan_of_inactive hi]
    | some mac' =>
      obtain rfl : mac = mac' := Option.some.inj (hs.symm.trans (h.loaded i mac' hi))
      rw [pairedMacs_of_active hi, Set.insert_idem]
  rcases c.loadSlot_cases i with ⟨mac, hs, hactive, ht⟩ | ⟨hs, ht, f, hactive⟩
  · rw [h.prefs] at hs
    refine ⟨?_, hprefs, ?_, ?_⟩
    · rw [ht]
      exact Transport.ready_addPeer hp h.ready mac 0
    · rw [ht, Transport.peers_addPeer hp h.ready, h.peers, pairedMacs_of_update hactive,
        hothers mac hs]
    · intro j mac' hj
      rw [hactive] at hj
      by_cases hji : j = i
      · subst hji
        rw [hs, ← hj, Function.update_self]
      · exact h.loaded j mac' (by rwa [Function.update_of_ne hji] at hj)
  · have hinactive : c.activeMac i = none := by
      cases hi : c.activeMac i with
      | none => rfl
      | some mac =>
        rw [h.prefs, h.loaded i mac hi] at hs
        exact absurd hs (by simp)
    have hsame : (c.loadSlot i).activeMac = c.activeMac := by
      rw [hactive, hinactive, Option.map_none, ← hinactive, Function.update_eq_self]
    refine ⟨?_, hprefs, ?_, ?_⟩
    · rw [ht]
      exact h.ready
    · rw [ht, h.peers, pairedMacs_of_activeMac hsame]
    · rw [hsame]
      exact h.loaded

theorem load_mirror_iff (hp : MaintainsPeers Ready) {transport : Transport σ}
    (ht : Ready transport.dev) (hempty : transport.peers = ∅) (p : Preferences) :
    Ready (new transport p).loadPairedClients.transport.dev ∧
      ((new transport p).loadPairedClients.PeersMirror ↔
        ∀ i, storedMac p i ≠ some .broadcast) := by
  have hnew : LoadInv Ready p (new transport p) := by
    refine ⟨ht, rfl, ?_, fun i mac hi => nomatch hi⟩
    ext m
    simp [mem_pairedMacs, activeMac, new, hempty]
  have hloaded : LoadInv Ready p (new transport p).loadPairedClients :=
    sweep_invariant (LoadInv Ready p) (loadSlot_loadInv hp) hnew
  refine ⟨hloaded.ready, ?_⟩
  have hmem : .broadcast ∈ (new transport p).loadPairedClients.pairedMacs ↔
      ∃ i, storedMac p i = some .broadcast := by
    rw [mem_pairedMacs, activeMac_load_new]
  rw [PeersMirror, hloaded.peers, sdiff_eq_left, Set.disjoint_singleton_right, hmem, not_exists]

/-- Along the unpair loop every peer still belongs to a client. -/
structure UnpairInv (Ready : σ → Prop) (c : PairingCoordinator σ) : Prop where
  ready : Ready c.transport.dev
  paired : c.transport.peers \ {.broadcast} ⊆ c.pairedMacs

theorem unpairSlot_unpairInv (hp : MaintainsPeers Ready) (i : Fin MAX_PAIRED_CLIENTS)
    (c : PairingCoordinator σ) (h : UnpairInv Ready c) : UnpairInv Ready (c.unpairSlot i) := by
  have hactive : ∀ j, j ≠ i → (c.unpairSlot i).activeMac j = c.activeMac j := by
    intro j hj
    simp [activeMac, unpairSlot, hj]
  cases hi : c.activeMac i with
  | none =>
    have hinactive := activeMac_eq_none.mp hi
    have ht : (c.unpairSlot i).transport = c.transport := by simp [unpairSlot, hinactive]
    refine ⟨by rw [ht]; exact h.ready, ?_⟩
    rw [ht]
    intro m hm
    obtain ⟨j, hj⟩ := mem_pairedMacs.mp (h.paired hm)
    have hji : j ≠ i := by
      rintro rfl
      simp [hi] at hj
    exact mem_pairedMacs.mpr ⟨j, (hactive j hji).trans hj⟩
  | some mac =>
    obtain ⟨hon, hmac⟩ := activeMac_eq_some.mp hi
    have ht : (c.unpairSlot i).transport = c.transport.removePeer mac := by
      simp [unpairSlot, hon, hmac]
    refine ⟨by rw [ht]; exact Transport.ready_removePeer hp h.ready mac, ?_⟩
    rw [ht, Transport.peers_removePeer hp h.ready]
    rintro m ⟨⟨hm, hne⟩, hbroadcast⟩
    obtain ⟨j, hj⟩ := mem_pairedMacs.mp (h.paired ⟨hm, hbroadcast⟩)
    have hji : j ≠ i := by
      rintro rfl
      exact hne (Option.some.inj (hj.symm.trans hi))
    exact mem_pairedMacs.mpr ⟨j, (hactive j hji).trans hj⟩

theorem unpairAll_mirror (hp : MaintainsPeers Ready) {c : PairingCoordinator σ}
    (hc : Ready c.transport.dev) (h : c.PeersMirror) :
    Ready c.unpairAll.transport.dev ∧ c.unpairAll.PeersMirror := by
  have hswept : UnpairInv Ready c.unpairAll :=
    sweep_invariant (UnpairInv Ready) (unpairSlot_unpairInv hp) ⟨hc, h.le⟩
  have hnone : c.unpairAll.pairedMacs = ∅ := by
    ext m
    simp [mem_pairedMacs, activeMac_unpairAll]
  refine ⟨hswept.ready, ?_⟩
  rw [PeersMirror, hnone]
  exact Set.subset_empty_iff.mp (hnone ▸ hswept.paired)

theorem handleReconnectProbe_mirror (hp : MaintainsPeers Ready) {c : PairingCoordinator σ}
    (hc : Ready c.transport.dev) (h : c.PeersMirror) (src : MacAddress) (probe : ReconnectProbe) :
    Ready (c.handleReconnectProbe src probe).transport.dev ∧
      (c.handleReconnectProbe src probe).PeersMirror := by
  obtain ⟨hclients, _, _, ht⟩ := c.handleReconnectProbe_fields src probe
  rcases ht with ht | ⟨hpaired, ht⟩
  · rw [ht]
    exact ⟨hc, h.congr hclients (by rw [ht])⟩
  · obtain ⟨hpeers, hready⟩ := Transport.peers_addPeer_send hp hc src 0
      (ReconnectAck.init c.transport.getChannel).toBytes
    rw [ht]
    exact ⟨hready, h.add_paired hclients hpaired (by rw [ht, hpeers])⟩

theorem loop_mirror (hp : MaintainsPeers Ready) {c : PairingCoordinator σ}
    (hc : Ready c.transport.dev) (h : c.PeersMirror) (nowMs : UInt32) :
    Ready (c.loop nowMs).transport.dev ∧ (c.loop nowMs).PeersMirror := by
  obtain ⟨hclients, _, _, ht⟩ := c.loop_fields nowMs
  rcases ht with ht | ⟨_, ht⟩
  · rw [ht]
    exact ⟨hc, h.congr hclients (by rw [ht])⟩
  · obtain ⟨hpeers, hready⟩ := Transport.peers_addPeer_send hp hc .broadcast 0
      (PairingBeacon.init c.transport.getChannel).toBytes
    rw [ht]
    exact ⟨hready, h.add_broadcast hclients (by rw [ht, hpeers])⟩

end PairingCoordinator
end Requests

section Run
variable {σ : Type} [ITransport σ] {Ready : σ → Prop}
open PairingCoordinator

def NoReload : CoordinatorOp → Prop
  | .loadPairedClients => False
  | _ => True

/-- A request that is handled is accepted, unless it comes from the broadcast address, and
takes over no slot of a client that has another. -/
def KeepsMirror (c : PairingCoordinator σ) : CoordinatorOp → Prop
  | .handleReceived src data => IsRequest data →
      (c.Accepts src (PairingRequest.ofBytes data).deviceId ↔ src ≠ .broadcast) ∧
        c.EvictsLast src (PairingRequest.ofBytes data).deviceId
  | _ => True

instance : ∀ op, Decidable (NoReload op)
  | .loadPairedClients => isFalse (fun h => h)
  | .enablePairing | .disablePairing | .loop _ | .handleReceived _ _ | .onClientPaired
  | .unpairAll => isTrue trivial

instance (c : PairingCoordinator σ) (mac : MacAddress) (deviceId : UInt8) :
    Decidable (c.Accepts mac deviceId) :=
  inferInstanceAs (Decidable (_ ∨ _))

instance (c : PairingCoordinator σ) (mac : MacAddress) (deviceId : UInt8) :
    Decidable (c.EvictsLast mac deviceId) :=
  inferInstanceAs (Decidable (_ → _ → ∀ i, _ → ∀ j, _ → j = i))

instance (c : PairingCoordinator σ) : ∀ op, Decidable (KeepsMirror c op)
  | .handleReceived _ _ => inferInstanceAs (Decidable (_ → _ ∧ _))
  | .loadPairedClients | .enablePairing | .disablePairing | .loop _ | .onClientPaired
  | .unpairAll => isTrue trivial

theorem apply_mirror (hp : MaintainsPeers Ready) {c : PairingCoordinator σ}
    (hc : Ready c.transport.dev) (h : c.PeersMirror) {op : CoordinatorOp} (hop : NoReload op) :
    Ready (op.apply c).transport.dev ∧ ((op.apply c).PeersMirror ↔ KeepsMirror c op) := by
  cases op with
  | loadPairedClients => exact absurd hop id
  | enablePairing => exact ⟨hc, iff_of_true (h.congr rfl rfl) trivial⟩
  | disablePairing => exact ⟨hc, iff_of_true (h.congr rfl rfl) trivial⟩
  | loop nowMs =>
    obtain ⟨hready, hmirror⟩ := loop_mirror hp hc h nowMs
    exact ⟨hready, iff_of_true hmirror trivial⟩
  | handleReceived src data =>
    rcases c.handleReceived_cases src data with ⟨his, hr⟩ | ⟨hnot, hr⟩ | ⟨hnot, hr⟩
    · rw [CoordinatorOp.apply, hr]
      have hstored := storePairedClient_ready hp hc src (PairingRequest.ofBytes data).deviceId
      refine ⟨(handlePairingRequest_peers hp src (.ofBytes data) hstored).2.1, ?_⟩
      exact (request_mirror_iff hp hc h src (.ofBytes data)).trans
        ⟨fun hkeeps _ => hkeeps, fun hkeeps => hkeeps his⟩
    · obtain ⟨hready, hmirror⟩ := handleReconnectProbe_mirror hp hc h src (.ofBytes data)
      rw [CoordinatorOp.apply, hr]
      exact ⟨hready, iff_of_true hmirror fun his => absurd his hnot⟩
    · rw [CoordinatorOp.apply, hr]
      exact ⟨hc, iff_of_true h fun his => absurd his hnot⟩
  | onClientPaired => exact ⟨hc, iff_of_true (h.congr rfl rfl) trivial⟩
  | unpairAll =>
    obtain ⟨hready, hmirror⟩ := unpairAll_mirror hp hc h
    exact ⟨hready, iff_of_true hmirror trivial⟩

/-- From the load of any store on, with a radio that starts without peers: the peers are
the paired clients in every state if and only if the store does not hold the broadcast
address and every request keeps them so. -/
theorem peers_mirror_iff (hp : MaintainsPeers Ready) (transport : Transport σ)
    (hready : Ready transport.dev) (hempty : transport.peers = ∅) (p : Preferences)
    (ops : List CoordinatorOp) (hops : ∀ op ∈ ops, NoReload op) :
    EachState CoordinatorOp.apply PeersMirror (new transport p).loadPairedClients ops ↔
      (∀ i, storedMac p i ≠ some .broadcast) ∧
        EachStep CoordinatorOp.apply KeepsMirror (new transport p).loadPairedClients ops := by
  obtain ⟨hloaded, hmirror⟩ := load_mirror_iff hp hready hempty p
  by_cases hstore : ∀ i, storedMac p i ≠ some .broadcast
  · rw [and_iff_right hstore]
    refine eachState_iff_eachStep
      (fun c : PairingCoordinator σ => Ready c.transport.dev ∧ c.PeersMirror)
      ⟨hloaded, hmirror.mpr hstore⟩ (eachStep_of_forall hops _) ?_ (fun _ h => h.2) ?_
    · intro c op ⟨hc, h⟩ hop hkeeps
      obtain ⟨hready', hiff⟩ := apply_mirror hp hc h hop
      exact ⟨hready', hiff.mpr hkeeps⟩
    · intro c op ⟨hc, h⟩ hop hkeeps
      exact (apply_mirror hp hc h hop).2.not.mpr hkeeps
  · refine iff_of_false (fun hrun => ?_) (fun h => hstore h.1)
    exact hstore (hmirror.mp hrun.first)

end Run

section Example

def otherMac : MacAddress := ⟨[0x02, 0, 0, 0, 0, 0x0B], rfl⟩
def thirdMac : MacAddress := ⟨[0x02, 0, 0, 0, 0, 0x0C], rfl⟩

theorem simTransport_peers (mac : MacAddress) (channel : UInt8) :
    (simTransport mac channel).peers = ∅ :=
  Set.eq_empty_of_forall_notMem fun _ h => Bool.noConfusion h

/-- Two clients pair, the second one is replaced, and all are unpaired. -/
theorem peers_mirror_replaced :
    EachState CoordinatorOp.apply PairingCoordinator.PeersMirror
      (PairingCoordinator.new (simTransport coordMac 6) Preferences.empty).loadPairedClients
      [.enablePairing, .loop 1000, .handleReceived clientMac (PairingRequest.init 7).toBytes,
        .handleReceived otherMac (PairingRequest.init 8).toBytes,
        .handleReceived thirdMac (PairingRequest.init 8).toBytes, .unpairAll] :=
  (peers_mirror_iff EspNowTransport.maintainsPeers (simTransport coordMac 6) rfl
    (simTransport_peers coordMac 6) Preferences.empty _ (by decide)).mpr
    ⟨by decide, by decide⟩

/-- The table is full with two other ids: the third client is refused and stays a peer. -/
theorem refused_client_stays_peer :
    ¬ EachState CoordinatorOp.apply PairingCoordinator.PeersMirror
      (PairingCoordinator.new (simTransport coordMac 6) Preferences.empty).loadPairedClients
      [.enablePairing, .handleReceived clientMac (PairingRequest.init 7).toBytes,
        .handleReceived otherMac (PairingRequest.init 8).toBytes,
        .handleReceived thirdMac (PairingRequest.init 9).toBytes] := by
  intro h
  have hmem := Set.ext_iff.mp h.last thirdMac
  have hpaired := hmem.mp ⟨by decide, by decide⟩
  exact absurd hpaired (by decide)

end Example
end UngulaNet.Pairing
