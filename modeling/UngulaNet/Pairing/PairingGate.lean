import UngulaNet.Foundation.Runs
import UngulaNet.Comm.EspNowTransport
import UngulaNet.Pairing.CoordinatorSteps

/-!
# Does pairing mode gate pairing?

`disablePairing` stops the beacons. The dispatcher does not ask whether pairing is
enabled before it stores a client, so the table is closed only to requests that would
be refused anyway. `pairing_gate_iff` says so for whole runs of traffic.
-/

namespace UngulaNet.Pairing
open Comm Runs
set_option autoImplicit false

/-- A sent frame that a client would read as an accepting confirm. -/
def AcceptingConfirm : TransportCall → Prop
  | .send _ data => PairingConfirm.size ≤ data.length ∧
      (PairingConfirm.ofBytes data).isValid = true ∧ (PairingConfirm.ofBytes data).accepted ≠ 0
  | _ => False

def RemovesPeer : TransportCall → Prop
  | .removePeer _ => True
  | _ => False

def Harmless (call : TransportCall) : Prop := ¬ AcceptingConfirm call ∧ ¬ RemovesPeer call

theorem harmless_addPeer (mac : MacAddress) (ch : UInt8) : Harmless (.addPeer mac ch) :=
  ⟨fun h => h, fun h => h⟩

theorem harmless_ack (dst : MacAddress) (ch : UInt8) :
    Harmless (.send dst (ReconnectAck.init ch).toBytes) := by
  refine ⟨?_, fun h => h⟩
  rintro ⟨_, hvalid, _⟩
  simp [PairingConfirm.isValid, PairingConfirm.ofBytes, ReconnectAck.toBytes, ReconnectAck.init,
    RECONNECT_MAGIC, PAIRING_MAGIC] at hvalid

theorem harmless_rejection (dst : MacAddress) (ch : UInt8) :
    Harmless (.send dst (PairingConfirm.init false ch).toBytes) := by
  refine ⟨?_, fun h => h⟩
  rintro ⟨_, _, haccepted⟩
  exact haccepted rfl

theorem acceptingConfirm_init (dst : MacAddress) (ch : UInt8) :
    AcceptingConfirm (.send dst (PairingConfirm.init true ch).toBytes) :=
  ⟨by simp [PairingConfirm.toBytes, PairingConfirm.init, PAIRING_MAGIC, PairingConfirm.size],
    rfl, fun h => absurd h (show (1 : UInt8) ≠ 0 by decide)⟩

section Gate
variable {σ : Type}

/-- Nothing of what pairing is about differs between two states of a run: the table,
the store, and no accepting confirm and no eviction in between. -/
structure GateClosed (c c' : PairingCoordinator σ) : Prop where
  clients : c'.clients = c.clients
  prefs : c'.prefs = c.prefs
  calls : Transport.CallsOnly Harmless c.transport c'.transport

theorem GateClosed.refl (c : PairingCoordinator σ) : GateClosed c c :=
  ⟨rfl, rfl, Transport.CallsOnly.refl _⟩

theorem GateClosed.trans {c c' c'' : PairingCoordinator σ} (h : GateClosed c c')
    (h' : GateClosed c' c'') : GateClosed c c'' :=
  ⟨h'.clients.trans h.clients, h'.prefs.trans h.prefs, h.calls.trans h'.calls⟩

def Traffic : CoordinatorOp → Prop
  | .loop _ => True
  | .handleReceived _ _ => True
  | _ => False

instance : ∀ op, Decidable (Traffic op)
  | .loop _ | .handleReceived _ _ => isTrue trivial
  | .loadPairedClients | .enablePairing | .disablePairing | .onClientPaired | .unpairAll =>
    isFalse (fun h => h)

/-- The buffer, if it is a request, comes from a client for which the table has no
place. -/
def NoPlaceForRequest (c : PairingCoordinator σ) : CoordinatorOp → Prop
  | .handleReceived src data => PairingCoordinator.IsRequest data →
      ¬ c.Accepts src (PairingRequest.ofBytes data).deviceId
  | _ => True

variable [ITransport σ]

theorem confirmRequest_callsOnly (c : PairingCoordinator σ) (src : MacAddress) :
    Transport.CallsOnly Harmless c.transport (c.confirmRequest false src) := by
  refine (Transport.callsOnly_iff (c.confirmRequest_calls false src)).mpr ?_
  intro call hcall
  simp only [List.mem_cons, List.not_mem_nil, or_false] at hcall
  rcases hcall with rfl | rfl
  · exact harmless_addPeer src 0
  · exact harmless_rejection src _

theorem handleReconnectProbe_gateClosed (c : PairingCoordinator σ) (src : MacAddress)
    (probe : ReconnectProbe) : GateClosed c (c.handleReconnectProbe src probe) := by
  obtain ⟨hclients, hprefs, _, htransport⟩ := c.handleReconnectProbe_fields src probe
  refine ⟨hclients, hprefs, ?_⟩
  rcases htransport with h | ⟨_, h⟩
  · exact Transport.CallsOnly.of_eq h
  · rw [h]
    exact (Transport.CallsOnly.snoc (Transport.calls_addPeer _ src 0)
      (harmless_addPeer src 0)).trans
      (Transport.CallsOnly.snoc (Transport.calls_send _ src _) (harmless_ack src _))

theorem handlePairingRequest_gateClosed {c : PairingCoordinator σ} {src : MacAddress}
    {req : PairingRequest} (h : ¬ c.Accepts src req.deviceId) :
    GateClosed c (c.handlePairingRequest src req) := by
  have hstored := PairingCoordinator.storePairedClient_refused h
  obtain ⟨hclients, hprefs, _, htransport⟩ := c.handlePairingRequest_fields src req
  rw [hstored] at hclients hprefs htransport
  refine ⟨hclients, hprefs, ?_⟩
  rw [htransport]
  exact confirmRequest_callsOnly c src

theorem loop_gateClosed {c : PairingCoordinator σ} (hoff : c.pairingEnabled = false)
    (nowMs : UInt32) : GateClosed c (c.loop nowMs) := by
  obtain ⟨hclients, hprefs, _, htransport⟩ := c.loop_fields nowMs
  refine ⟨hclients, hprefs, ?_⟩
  rcases htransport with h | ⟨hon, _⟩
  · exact Transport.CallsOnly.of_eq h
  · simp [hoff] at hon

theorem apply_pairingEnabled {op : CoordinatorOp} (hop : Traffic op)
    (c : PairingCoordinator σ) : (op.apply c).pairingEnabled = c.pairingEnabled := by
  cases op with
  | loop nowMs => exact (c.loop_fields nowMs).2.2.1
  | handleReceived src data =>
    rcases c.handleReceived_cases src data with ⟨_, h⟩ | ⟨_, h⟩ | ⟨_, h⟩
    · rw [CoordinatorOp.apply, h, (c.handlePairingRequest_fields src _).2.2.1]
      rcases c.storePairedClient_cases src (PairingRequest.ofBytes data).deviceId with
        ⟨i, _, hs⟩ | ⟨i, _, _, hs⟩ | ⟨i, _, _, _, hs⟩ | ⟨_, hs⟩ <;> rw [hs] <;> rfl
    · rw [CoordinatorOp.apply, h]
      exact (c.handleReconnectProbe_fields src (.ofBytes data)).2.2.1
    · rw [CoordinatorOp.apply, h]
  | _ => exact absurd hop (by simp [Traffic])

theorem apply_gateClosed {c : PairingCoordinator σ} (hoff : c.pairingEnabled = false)
    {op : CoordinatorOp} (hop : Traffic op) (hreq : NoPlaceForRequest c op) :
    GateClosed c (op.apply c) := by
  cases op with
  | loop nowMs => exact loop_gateClosed hoff nowMs
  | handleReceived src data =>
    rcases c.handleReceived_cases src data with ⟨his, h⟩ | ⟨_, h⟩ | ⟨_, h⟩
    · rw [CoordinatorOp.apply, h]
      exact handlePairingRequest_gateClosed (hreq his)
    · rw [CoordinatorOp.apply, h]
      exact handleReconnectProbe_gateClosed c src (.ofBytes data)
    · rw [CoordinatorOp.apply, h]
      exact GateClosed.refl c
  | _ => exact absurd hop (by simp [Traffic])

theorem handlePairingRequest_calls (c : PairingCoordinator σ) (src : MacAddress)
    (req : PairingRequest) :
    Transport.CallsOnly (fun _ => True) c.transport (c.handlePairingRequest src req).transport := by
  rw [(c.handlePairingRequest_fields src req).2.2.2]
  exact ((c.storePairedClient_calls src _).imp fun _ _ => trivial).trans
    ((Transport.callsOnly_iff (PairingCoordinator.confirmRequest_calls _ _ _)).mpr
      fun _ _ => trivial)

theorem apply_calls {op : CoordinatorOp} (hop : Traffic op) (c : PairingCoordinator σ) :
    Transport.CallsOnly (fun _ => True) c.transport (op.apply c).transport := by
  cases op with
  | loop nowMs =>
    rcases (c.loop_fields nowMs).2.2.2 with h | ⟨_, h⟩
    · exact Transport.CallsOnly.of_eq h
    · rw [CoordinatorOp.apply, h]
      exact (Transport.CallsOnly.snoc (Transport.calls_addPeer _ _ 0) trivial).trans
        (Transport.CallsOnly.snoc (Transport.calls_send _ _ _) trivial)
  | handleReceived src data =>
    rcases c.handleReceived_cases src data with ⟨_, h⟩ | ⟨_, h⟩ | ⟨_, h⟩
    · rw [CoordinatorOp.apply, h]
      exact handlePairingRequest_calls c src _
    · rw [CoordinatorOp.apply, h]
      exact (handleReconnectProbe_gateClosed c src (.ofBytes data)).calls.imp fun _ _ => trivial
    · rw [CoordinatorOp.apply, h]
      exact Transport.CallsOnly.refl _
  | _ => exact absurd hop (by simp [Traffic])

/-- A request that finds a slot is answered by an accepting confirm, whatever the mode. -/
theorem apply_breaks_gate {c : PairingCoordinator σ} {op : CoordinatorOp}
    (hreq : ¬ NoPlaceForRequest c op) :
    ¬ Transport.CallsOnly Harmless c.transport (op.apply c).transport := by
  cases op with
  | handleReceived src data =>
    simp only [NoPlaceForRequest, Classical.not_imp, not_not] at hreq
    obtain ⟨his, haccepts⟩ := hreq
    have hfst := (c.storePairedClient_fst_iff src _).mpr haccepts
    intro hcalls
    rw [CoordinatorOp.apply, c.handleReceived_request src his,
      (c.handlePairingRequest_fields src _).2.2.2, hfst] at hcalls
    have hlog := PairingCoordinator.confirmRequest_calls
      (c.storePairedClient src (PairingRequest.ofBytes data).deviceId).2 true src
    have hanswer := hcalls.stretch ((c.storePairedClient_calls src _).imp fun _ _ => trivial)
      ((Transport.callsOnly_iff hlog).mpr fun _ _ => trivial) (Transport.CallsOnly.refl _)
    have hconfirm := (Transport.callsOnly_iff hlog).mp hanswer
      _ (List.mem_cons_of_mem _ List.mem_cons_self)
    exact hconfirm.1 (acceptingConfirm_init src _)
  | _ => exact absurd trivial hreq

theorem run_calls (c : PairingCoordinator σ) {ops : List CoordinatorOp}
    (hops : ∀ op ∈ ops, Traffic op) :
    Transport.CallsOnly (fun _ => True) c.transport (run CoordinatorOp.apply c ops).transport :=
  rel_run (fun c c' : PairingCoordinator σ =>
      Transport.CallsOnly (fun _ => True) c.transport c'.transport)
    (fun _ => Transport.CallsOnly.refl _) (fun h h' => h.trans h')
    ((eachStep_of_forall hops c).imp fun c _ hop => apply_calls hop c)

/-- With pairing off, a run of traffic leaves the table and the store alone, evicts
nobody and accepts nobody if and only if every request in it comes from a client the
table has no place for. -/
theorem pairing_gate_iff (c : PairingCoordinator σ) (hoff : c.isPairingEnabled = false)
    (ops : List CoordinatorOp) (hops : ∀ op ∈ ops, Traffic op) :
    GateClosed c (run CoordinatorOp.apply c ops) ↔
      EachStep CoordinatorOp.apply NoPlaceForRequest c ops := by
  have htraffic := @eachStep_of_forall _ _ (CoordinatorOp.apply (σ := σ)) _ _ hops c
  constructor
  · intro hclosed
    refine eachStep_iff.mpr ?_
    intro pre op post heq
    by_contra hreq
    subst heq
    have hpre : ∀ o ∈ pre, Traffic o := fun o ho => hops o (List.mem_append_left _ ho)
    have hpost : ∀ o ∈ post, Traffic o := fun o ho =>
      hops o (List.mem_append_right _ (List.mem_cons_of_mem op ho))
    have hop : Traffic op := hops op (List.mem_append_right _ List.mem_cons_self)
    -- the calls of this one step are among the calls of the run
    have hcalls := hclosed.calls
    rw [run_append, run_cons] at hcalls
    exact apply_breaks_gate hreq
      (hcalls.stretch (run_calls c hpre) (apply_calls hop _) (run_calls _ hpost))
  · intro hreq
    refine rel_run GateClosed GateClosed.refl (fun h h' => h.trans h') ?_
    exact eachStep_of_invariant (fun c => c.pairingEnabled = false) hoff (htraffic.and hreq)
      (fun c op hoff hop => (apply_pairingEnabled hop.1 c).trans hoff)
      (fun c op hoff hop => apply_gateClosed hoff hop.1 hop.2)

end Gate

section Example

def idleCoordinator : PairingCoordinator (EspNowTransport SimRadio) :=
  PairingCoordinator.new (simTransport coordMac 6) Preferences.empty

def requestOf7 : CoordinatorOp :=
  .handleReceived clientMac (PairingRequest.init 7).toBytes

/-- Both places of the table are taken. -/
def crowdedCoordinator : PairingCoordinator (EspNowTransport SimRadio) :=
  ((idleCoordinator.storePairedClient ⟨[0x02, 0, 0, 0, 0, 0x21], rfl⟩ 1).2.storePairedClient
    ⟨[0x02, 0, 0, 0, 0, 0x22], rfl⟩ 2).2

/-- Beacons are not sent, a request that there is no place for is refused, and the probe of
its sender is not answered. -/
theorem pairing_gate_idle :
    GateClosed crowdedCoordinator (run CoordinatorOp.apply crowdedCoordinator
      [.loop 1000, requestOf7, .handleReceived clientMac (ReconnectProbe.init 7).toBytes,
        .loop 1100]) := by
  refine (pairing_gate_iff crowdedCoordinator (by decide) _ (by decide)).mpr
    ⟨trivial, ?_, ?_, trivial, trivial⟩
  · intro _ haccepts
    exact absurd ((PairingCoordinator.storePairedClient_fst_iff _ _ _).mpr haccepts) (by decide)
  · exact fun h => absurd h (by decide)

/-- A request is stored and confirmed although pairing was never enabled. -/
theorem request_stored_with_pairing_off :
    idleCoordinator.isPairingEnabled = false ∧
      ¬ GateClosed idleCoordinator (run CoordinatorOp.apply idleCoordinator [requestOf7]) := by
  refine ⟨by decide, ?_⟩
  intro h
  have hactive := congrArg (fun t => (t ⟨0, by decide⟩).active) h.clients
  exact absurd hactive (by decide)

end Example
end UngulaNet.Pairing
