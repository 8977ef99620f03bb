import UngulaNet.Foundation.Runs
import UngulaNet.Comm.EspNowTransport
import UngulaNet.Pairing.ClientSteps

/-!
# The coordinator a client has answered

A client sends its request to the sender of the beacon that it answers, and waits. The
confirm that ends the wait may come from anyone: the handler takes over whatever source
address it arrives under. So a client pairs with the coordinator it answered exactly when
every accepting confirm it takes comes from there.
-/

namespace UngulaNet.Pairing
open Comm Runs
set_option autoImplicit false

/-- The destination of a pairing request. -/
def requestTo : TransportCall → Option MacAddress
  | .send dst data => if (PairingRequest.ofBytes data).isValid then some dst else none
  | _ => none

def lastRequestTo (calls : List TransportCall) : Option MacAddress :=
  (calls.filterMap requestTo).getLast?

/-- A client, and the source and time of the beacon that last moved it to RESPONDING. -/
structure WatchedClient (σ : Type) where
  client : PairingClient σ
  beacon : Option (MacAddress × UInt32) := none

section Watch
variable {σ : Type}

/-- The client was moved to RESPONDING by this beacon, and has told its sender so. -/
structure Answered (w : WatchedClient σ) (mac : MacAddress) (nowMs : UInt32) : Prop where
  beacon : w.beacon = some (mac, nowMs)
  request : lastRequestTo w.client.transport.calls = some mac
  coordinatorMac : w.client.coordinatorMac = mac
  pairingStartMs : w.client.pairingStartMs = nowMs

def AnsweredInv (w : WatchedClient σ) : Prop :=
  w.client.state = .RESPONDING → ∃ mac nowMs, Answered w mac nowMs

variable [ITransport σ]

def WatchedClient.apply (w : WatchedClient σ) (op : ClientOp) : WatchedClient σ :=
  { client := op.apply w.client,
    beacon :=
      match op with
      | .handleReceived srcMac _ nowMs =>
        if w.client.state ≠ .RESPONDING ∧ (op.apply w.client).state = .RESPONDING then
          some (srcMac, nowMs)
        else w.beacon
      | _ => w.beacon }

/-- A buffer that pairs the client comes from the node that sent the beacon and got the
request, and that node is the coordinator from now on. -/
def PairsWithAnswered (w : WatchedClient σ) : ClientOp → Prop
  | .handleReceived srcMac data nowMs => w.client.state ≠ .PAIRED →
      (w.client.handleReceived srcMac data nowMs).2.state = .PAIRED →
      ∃ mac t, w.beacon = some (mac, t) ∧ lastRequestTo w.client.transport.calls = some mac ∧
        (w.client.handleReceived srcMac data nowMs).2.coordinatorMac = mac ∧ srcMac = mac
  | _ => True

omit [ITransport σ] in
def ConfirmFromAnswered (w : WatchedClient σ) : ClientOp → Prop
  | .handleReceived srcMac data _ => w.client.state = .RESPONDING →
      PairingClient.IsConfirm data → (PairingConfirm.ofBytes data).accepted ≠ 0 →
      srcMac = w.client.coordinatorMac
  | _ => True

instance (w : WatchedClient σ) : ∀ op, Decidable (ConfirmFromAnswered w op)
  | .handleReceived _ _ _ => inferInstanceAs (Decidable (_ → _ → _ → _))
  | .loadStoredPairing | .setScanChannels _ | .startScanning | .stopScanning | .loop _
  | .onPaired | .setPairedChannel _ | .clearPairing => isTrue trivial

theorem handleBeacon_request (c : PairingClient σ) (srcMac : MacAddress) (b : PairingBeacon)
    (nowMs : UInt32) :
    lastRequestTo (c.handleBeacon srcMac b nowMs).transport.calls = some srcMac := by
  have hcalls : (c.handleBeacon srcMac b nowMs).transport.calls = c.transport.calls ++
      [.addPeer srcMac 0, .send srcMac (PairingRequest.init c.deviceId).toBytes] := by
    simp [PairingClient.handleBeacon, PairingClient.sendPairingRequest]
  have hrequest : requestTo (.send srcMac (PairingRequest.init c.deviceId).toBytes) =
      some srcMac := by
    rw [requestTo, if_pos]
    rw [PairingRequest.ofBytes_toBytes_init]
    rfl
  have hlast : [TransportCall.addPeer srcMac 0, .send srcMac
      (PairingRequest.init c.deviceId).toBytes].filterMap requestTo = [srcMac] := by
    simp only [List.filterMap_cons, List.filterMap_nil, hrequest]
    rfl
  rw [hcalls, lastRequestTo, List.filterMap_append, hlast, List.getLast?_concat]

theorem apply_beacon {w : WatchedClient σ} {op : ClientOp} (hs : w.client.state = .RESPONDING) :
    (w.apply op).beacon = w.beacon := by
  cases op with
  | handleReceived srcMac data nowMs => exact if_neg (fun h => h.1 hs)
  | _ => rfl

theorem apply_answeredInv {w : WatchedClient σ} (h : AnsweredInv w) (op : ClientOp) :
    AnsweredInv (w.apply op) := by
  intro hafter
  by_cases hs : w.client.state = .RESPONDING
  · obtain ⟨mac, nowMs, ha⟩ := h hs
    rcases ClientOp.attempt_cases hs op with hsame | hover
    · refine ⟨mac, nowMs, (apply_beacon hs).trans ha.beacon, ?_,
        hsame.coordinatorMac.trans ha.coordinatorMac, hsame.pairingStartMs.trans ha.pairingStartMs⟩
      change lastRequestTo (op.apply w.client).transport.calls = some mac
      rw [hsame.transport]
      exact ha.request
    · exact absurd hafter hover
  · obtain ⟨srcMac, data, nowMs, rfl, _, he⟩ := ClientOp.begins_attempt hs hafter
    refine ⟨srcMac, nowMs, if_pos ⟨hs, hafter⟩, ?_, congrArg PairingClient.coordinatorMac he,
      congrArg PairingClient.pairingStartMs he⟩
    exact (congrArg (fun c => lastRequestTo c.transport.calls) he).trans
      (handleBeacon_request w.client srcMac _ nowMs)

/-- Only an accepting confirm pairs, and it makes its sender the coordinator. -/
theorem pairs_cases {c : PairingClient σ} {srcMac : MacAddress} {data : List UInt8}
    {nowMs : UInt32} (hs : c.state ≠ .PAIRED)
    (h : (c.handleReceived srcMac data nowMs).2.state = .PAIRED) :
    c.state = .RESPONDING ∧ PairingClient.IsConfirm data ∧
      (PairingConfirm.ofBytes data).accepted ≠ 0 ∧
      (c.handleReceived srcMac data nowMs).2.coordinatorMac = srcMac := by
  rcases c.handleReceived_cases srcMac data nowMs with ⟨he, _⟩ | ⟨_, _, he⟩ | ⟨hresp, hf, he⟩
  · rw [he] at h
    exact absurd h hs
  · simp [he] at h
  · rw [he] at h ⊢
    by_cases ha : (PairingConfirm.ofBytes data).accepted = 0
    · simp [PairingClient.handleConfirm_rejected c srcMac ha, PairingClient.startScanning] at h
    · exact ⟨hresp, hf, ha, (PairingClient.handleConfirm_accepted c srcMac ha).2.1⟩

theorem pairsWithAnswered_iff {w : WatchedClient σ} (h : AnsweredInv w) (op : ClientOp) :
    PairsWithAnswered w op ↔ ConfirmFromAnswered w op := by
  cases op with
  | handleReceived srcMac data nowMs =>
    constructor
    · intro hlaw hs hf ha
      obtain ⟨mac, t, hanswered⟩ := h hs
      have hpairs : (w.client.handleReceived srcMac data nowMs).2.state = .PAIRED := by
        rw [PairingClient.handleReceived_responding hs hf]
        exact (PairingClient.handleConfirm_accepted w.client srcMac ha).1
      obtain ⟨mac', t', hbeacon, _, _, hsrc⟩ := hlaw (by simp [hs]) hpairs
      obtain ⟨rfl, rfl⟩ : mac = mac' ∧ t = t' := by
        simpa using hanswered.beacon.symm.trans hbeacon
      exact hsrc.trans hanswered.coordinatorMac.symm
    · intro hcond hne hpairs
      obtain ⟨hs, hf, ha, hmac⟩ := pairs_cases hne hpairs
      obtain ⟨mac, t, hanswered⟩ := h hs
      have hsrc : srcMac = mac := (hcond hs hf ha).trans hanswered.coordinatorMac
      exact ⟨mac, t, hanswered.beacon, hanswered.request, hmac.trans hsrc, hsrc⟩
  | _ => exact Iff.rfl

omit [ITransport σ] in
theorem new_answeredInv (transport : Transport σ) (prefs : Preferences) (deviceId : UInt8) :
    AnsweredInv { client := PairingClient.new transport prefs deviceId } := by
  intro hs
  simp [PairingClient.new] at hs

/-- Along every run of a new client, every buffer that pairs it comes from the node it has
answered if and only if every accepting confirm that it handles while waiting does. -/
theorem pairs_with_answered_iff (transport : Transport σ) (prefs : Preferences)
    (deviceId : UInt8) (ops : List ClientOp) :
    EachStep WatchedClient.apply PairsWithAnswered
        { client := PairingClient.new transport prefs deviceId } ops ↔
      EachStep WatchedClient.apply ConfirmFromAnswered
        { client := PairingClient.new transport prefs deviceId } ops :=
  eachStep_congr AnsweredInv (new_answeredInv transport prefs deviceId)
    (eachStep_true _ _)
    (fun _ op h _ => apply_answeredInv h op) (fun _ op h _ => pairsWithAnswered_iff h op)

end Watch

section Example

def strangerMac : MacAddress := ⟨[0x02, 0, 0, 0, 0, 0x66], rfl⟩

/-- The client answers the coordinator's beacon; a stranger's confirm arrives first. -/
theorem paired_with_stranger :
    ¬ EachStep WatchedClient.apply PairsWithAnswered
      { client := PairingClient.new (simTransport clientMac 1) Preferences.empty 7 }
      [.startScanning, .handleReceived coordMac (PairingBeacon.init 6).toBytes 1000,
        .handleReceived strangerMac (PairingConfirm.init true 11).toBytes 1005] := by
  intro h
  obtain ⟨mac, _, hbeacon, _, _, hsrc⟩ := h.2.2.1 (by decide) (by decide)
  have hmac : some mac = some coordMac := congrArg (Option.map Prod.fst) hbeacon.symm
  rw [← hsrc] at hmac
  exact absurd hmac (by decide)

end Example
end UngulaNet.Pairing
