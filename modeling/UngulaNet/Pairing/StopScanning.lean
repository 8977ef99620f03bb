import UngulaNet.Pairing.ClientChannel

/-!
# Stopping a scan

`stopScanning` stops a scan, but not a pairing attempt that the scan has led to. When that
attempt fails, by the timeout or by a rejection, the client restarts the scan on its own.
So a stopped scan stays stopped exactly when no such failure follows.
-/

namespace UngulaNet.Pairing
open Comm Runs
set_option autoImplicit false

section Stop
variable {σ : Type}

/-- The caller neither starts a scan nor loads a pairing. -/
def NoRestart : ClientOp → Prop
  | .startScanning => False
  | .loadStoredPairing => False
  | _ => True

instance : ∀ op, Decidable (NoRestart op)
  | .startScanning | .loadStoredPairing => isFalse (fun h => h)
  | .setScanChannels _ | .stopScanning | .loop _ | .handleReceived _ _ _ | .onPaired
  | .setPairedChannel _ | .clearPairing => isTrue trivial

def NotScanning (c : PairingClient σ) : Prop := c.isScanning = false

instance (c : PairingClient σ) : Decidable (NotScanning c) :=
  inferInstanceAs (Decidable (c.isScanning = false))

/-- A waiting client is neither timed out by the call nor sent a rejection. -/
def AttemptGoesOn (c : PairingClient σ) : ClientOp → Prop
  | .loop nowMs => c.state = .RESPONDING → nowMs - c.pairingStartMs < PAIRING_TIMEOUT_MS
  | .handleReceived _ data _ => c.state = .RESPONDING → PairingClient.IsConfirm data →
      (PairingConfirm.ofBytes data).accepted ≠ 0
  | _ => True

instance (c : PairingClient σ) : ∀ op, Decidable (AttemptGoesOn c op)
  | .loop _ => inferInstanceAs (Decidable (_ → _))
  | .handleReceived _ _ _ => inferInstanceAs (Decidable (_ → _ → _))
  | .loadStoredPairing | .setScanChannels _ | .startScanning | .stopScanning | .onPaired
  | .setPairedChannel _ | .clearPairing => isTrue trivial

theorem notScanning_iff {c : PairingClient σ} : NotScanning c ↔ c.state ≠ .SCANNING := by
  simp [NotScanning, PairingClient.isScanning]

theorem notScanning_stopScanning (c : PairingClient σ) : NotScanning c.stopScanning := by
  rw [notScanning_iff]
  rcases c.stopScanning_cases with ⟨_, he⟩ | ⟨hs, he⟩
  · simp [he]
  · rw [he]
    exact hs

variable [ITransport σ]

def LoopKeepsChannel (c : PairingClient σ) : ClientOp → Prop
  | .loop nowMs => (c.loop nowMs).transport.getChannel = c.transport.getChannel
  | _ => True

theorem loop_goesOn {c : PairingClient σ} (hscan : c.state ≠ .SCANNING) {nowMs : UInt32}
    (h : AttemptGoesOn c (.loop nowMs)) : c.loop nowMs = c := by
  by_cases hresp : c.state = .RESPONDING
  · rcases PairingClient.loop_responding hresp nowMs with ⟨ht, _⟩ | ⟨_, he⟩
    · exact absurd (h hresp) (UInt32.not_lt.mpr ht)
    · exact he
  · exact PairingClient.loop_idle hscan hresp nowMs

theorem apply_notScanning {c : PairingClient σ} (hc : NotScanning c) {op : ClientOp}
    (hop : NoRestart op) (hgoes : AttemptGoesOn c op) : NotScanning (op.apply c) := by
  rw [notScanning_iff] at hc ⊢
  cases op with
  | loadStoredPairing => exact absurd hop id
  | setScanChannels s => exact hc
  | startScanning => exact absurd hop id
  | stopScanning => exact notScanning_iff.mp (notScanning_stopScanning c)
  | loop nowMs =>
    rw [ClientOp.apply, loop_goesOn hc hgoes]
    exact hc
  | handleReceived src data nowMs =>
    rcases c.handleReceived_cases src data nowMs with ⟨he, _⟩ | ⟨hscan, _, _⟩ | ⟨hresp, hf, he⟩
    · rw [ClientOp.apply, he]
      exact hc
    · exact absurd hscan hc
    · rw [ClientOp.apply, he, (PairingClient.handleConfirm_accepted c src (hgoes hresp hf)).1]
      simp
  | onPaired => exact hc
  | setPairedChannel ch =>
    rcases c.setPairedChannel_cases ch with ⟨_, he⟩ | ⟨_, _, he⟩ <;>
      rw [ClientOp.apply, he] <;> exact hc
  | clearPairing => simp [ClientOp.apply, PairingClient.clearPairing]

theorem apply_restarts {c : PairingClient σ} {op : ClientOp} (hfails : ¬ AttemptGoesOn c op) :
    ¬ NotScanning (op.apply c) := by
  rw [notScanning_iff, Decidable.not_not]
  cases op with
  | loop nowMs =>
    simp only [AttemptGoesOn, Classical.not_imp, UInt32.not_lt] at hfails
    obtain ⟨hresp, ht⟩ := hfails
    rcases PairingClient.loop_responding hresp nowMs with ⟨_, he⟩ | ⟨hn, _⟩
    · rw [ClientOp.apply, he]
      rfl
    · exact absurd ht hn
  | handleReceived src data nowMs =>
    simp only [AttemptGoesOn, Classical.not_imp, Decidable.not_not] at hfails
    obtain ⟨hresp, hf, ha⟩ := hfails
    rw [ClientOp.apply, PairingClient.handleReceived_responding hresp hf]
    change (c.handleConfirm src (.ofBytes data)).state = .SCANNING
    rw [PairingClient.handleConfirm_rejected c src ha]
    rfl
  | _ => exact absurd trivial hfails

/-- After `stopScanning`, in whatever state it is called, and as long as the caller does
not start a scan or load a pairing: the client never scans again and `loop` never retunes
the radio if and only if no attempt in progress times out or is rejected. -/
theorem stop_scanning_iff (c : PairingClient σ) (ops : List ClientOp)
    (hops : ∀ op ∈ ops, NoRestart op) :
    EachState ClientOp.apply NotScanning c.stopScanning ops ∧
        EachStep ClientOp.apply LoopKeepsChannel c.stopScanning ops ↔
      EachStep ClientOp.apply AttemptGoesOn c.stopScanning ops := by
  have hstop := notScanning_stopScanning c
  have hsteps : EachStep ClientOp.apply (fun _ op => NoRestart op) c.stopScanning ops :=
    eachStep_of_forall hops _
  have hscan : EachState ClientOp.apply NotScanning c.stopScanning ops ↔ _ :=
    eachState_iff_eachStep NotScanning hstop hsteps
      (fun _ _ hc hop hgoes => apply_notScanning hc hop hgoes) (fun _ hc => hc)
      (fun _ _ _ _ hfails => apply_restarts hfails)
  refine ⟨fun h => hscan.mp h.1, fun hgoes => ⟨hscan.mpr hgoes, ?_⟩⟩
  refine eachStep_of_invariant NotScanning hstop (hsteps.and hgoes)
    (fun _ _ hc hop => apply_notScanning hc hop.1 hop.2) (fun c op hc hop => ?_)
  cases op with
  | loop nowMs =>
    rw [LoopKeepsChannel, loop_goesOn (notScanning_iff.mp hc) hop.2]
  | _ => trivial

/-- A scan that has not led to an attempt yet is stopped for good. -/
theorem stop_scanning_without_attempt {c : PairingClient σ} (hc : c.state ≠ .RESPONDING)
    (ops : List ClientOp) (hops : ∀ op ∈ ops, NoRestart op) :
    EachState ClientOp.apply NotScanning c.stopScanning ops := by
  have hidle : c.stopScanning.state ≠ .RESPONDING := by
    rcases c.stopScanning_cases with ⟨_, he⟩ | ⟨_, he⟩
    · simp [he]
    · rw [he]
      exact hc
  have hgoes : ∀ (c : PairingClient σ) op, c.state ≠ .RESPONDING → AttemptGoesOn c op := by
    intro c op hc
    cases op with
    | loop nowMs => exact fun hr => absurd hr hc
    | handleReceived src data nowMs => exact fun hr => absurd hr hc
    | _ => trivial
  have hkeep : ∀ (c : PairingClient σ) op, NotScanning c ∧ c.state ≠ .RESPONDING →
      NoRestart op → NotScanning (op.apply c) ∧ (op.apply c).state ≠ .RESPONDING := by
    rintro c op ⟨hscan, hresp⟩ hop
    refine ⟨apply_notScanning hscan hop (hgoes c op hresp), ?_⟩
    intro hr
    obtain ⟨_, _, _, _, hs, _⟩ := ClientOp.begins_attempt hresp hr
    exact notScanning_iff.mp hscan hs
  exact (eachState_of_invariant _ ⟨notScanning_stopScanning c, hidle⟩
    (eachStep_of_forall hops _) hkeep).imp fun _ h => h.1

end Stop

section Example

/-- Stopped in mid-attempt, and paired by the confirm. -/
theorem stop_scanning_confirmed :
    EachState ClientOp.apply NotScanning (run ClientOp.apply freshClient
        [.startScanning, .handleReceived coordMac (PairingBeacon.init 6).toBytes 1000]).stopScanning
      [.loop 1005, .handleReceived coordMac (PairingConfirm.init true 6).toBytes 1010] :=
  ((stop_scanning_iff _ _ (by decide)).mpr (by decide)).1

/-- Stopped in mid-attempt; ten seconds later the client scans again. -/
theorem scan_restarts_after_stop :
    ¬ EachState ClientOp.apply NotScanning (run ClientOp.apply freshClient
        [.startScanning, .handleReceived coordMac (PairingBeacon.init 6).toBytes 1000]).stopScanning
      [.loop 11000] := by
  decide

end Example
end UngulaNet.Pairing
