import UngulaNet.Connection.NodeConsistency

/-!
# A node that connects has a pairing

Heartbeats and messages count only for a paired node, and a discovery completes only by
pairing. The two ways out of a reacquisition do not ask again: a reported success, and an
accepted ack that the next due `loop` finds. So a node connects without a pairing exactly
when one of these two comes after the pairing was dropped.
-/

namespace UngulaNet.Connection
open Comm Pairing Runs
set_option autoImplicit false

section Paired
variable {σ : Type} [ITransport σ]
open ConnectionManager

def ConnectsPaired (n : Node σ) (ev : NodeEvent) : Prop :=
  n.getState ≠ .PAIRED_CONNECTED → (ev.apply n).getState = .PAIRED_CONNECTED →
    (ev.apply n).session.hasPairing = true

/-- The pairing is still there when a success is reported to a node that is not
connected, and when a due `loop` finds an accepted ack. -/
def PairedWhenFound (n : Node σ) : NodeEvent → Prop
  | .call .onReacquisitionSuccess _ =>
    n.getState ≠ .PAIRED_CONNECTED → n.session.hasPairing = true
  | .call .loop nowMs => n.getState = .REACQUIRING_DYNAMIC → ¬ nowMs < n.nextProbeMs →
      n.provider.reacquisitionDone = true → n.session.hasPairing = true
  | _ => True

theorem loopReacquisition_isPaired (s : EspNowSessionProvider σ) (nowMs : UInt32) :
    (s.loopReacquisition nowMs).2.pairing.isPaired = s.pairing.isPaired := by
  obtain ⟨t, i, he⟩ := s.loopReacquisition_eq nowMs
  rw [he]
  rfl

theorem loop_connectsPaired {n : Node σ} (h : n.FlagAgrees) (nowMs : UInt32) :
    ConnectsPaired n (.call .loop nowMs) ↔ PairedWhenFound n (.call .loop nowMs) := by
  change (n.state ≠ .PAIRED_CONNECTED → (n.loop nowMs).state = .PAIRED_CONNECTED →
    (n.loop nowMs).session.hasPairing = true) ↔ (n.state = .REACQUIRING_DYNAMIC → _)
  cases hs : n.state with
  | UNPAIRED_DISCOVERY =>
    refine iff_of_true (fun _ hc => ?_) (by simp)
    rcases loop_unpaired h hs nowMs with ⟨_, he⟩ | ⟨hdone, he⟩
    · simp [he, hs] at hc
    · rw [he]
      exact hdone
  | PAIRED_CONNECTED => exact iff_of_true (fun hne => absurd rfl hne) (by simp)
  | PAIRED_DEGRADED =>
    refine iff_of_true (fun _ hc => ?_) (by simp)
    rcases loop_degraded h hs nowMs with ⟨_, he⟩ | ⟨_, he⟩ <;> simp [he, hs] at hc
  | REACQUIRING_STATIC =>
    refine iff_of_true (fun _ hc => ?_) (by simp)
    rcases loop_static h hs nowMs with ⟨_, he⟩ | ⟨_, _, he⟩ | ⟨_, _, he⟩ <;> simp [he, hs] at hc
  | REACQUIRING_DYNAMIC =>
    have hdone := (EspNowSessionProvider.loopReacquisition_fields n.provider nowMs).2
    have hpaired := loopReacquisition_isPaired n.provider nowMs
    rcases loop_dynamic h hs nowMs with ⟨hn, he⟩ | ⟨_, hnot, he⟩ | ⟨hn, hyes, he⟩
    · -- not due
      refine iff_of_true (fun _ hc => ?_) (fun _ hlate => absurd hn hlate)
      simp [he, hs] at hc
    · -- due, and no ack waits
      refine iff_of_true (fun _ hc => ?_) (fun _ _ hack => ?_)
      · simp [he, hs] at hc
      · exact absurd (hdone.trans hack) (ne_true_of_eq_false hnot)
    · have hack : n.provider.reacquisitionDone = true := hdone.symm.trans hyes
      have hpair : (n.loop nowMs).session.hasPairing = n.session.hasPairing := by
        rw [he]
        exact hpaired
      rw [hpair]
      exact ⟨fun hlaw _ _ _ => hlaw (by simp) (by rw [he]; rfl), fun hcond _ _ => hcond rfl hn hack⟩

theorem onHeartbeatReceived_connectsPaired {n : Node σ} (h : n.FlagAgrees) (nowMs : UInt32) :
    ConnectsPaired n (.call .onHeartbeatReceived nowMs) := by
  intro hne hc
  change (n.onHeartbeatReceived nowMs).state = .PAIRED_CONNECTED at hc
  change (n.onHeartbeatReceived nowMs).session.hasPairing = true
  rcases onHeartbeatReceived_cases h nowMs with ⟨_, he⟩ | ⟨_, hs, _⟩ | ⟨hheeds, _, he⟩
  · rw [he] at hc
    exact absurd hc hne
  · exact absurd hs hne
  · rw [he]
    exact hheeds.1

theorem connectsPaired_iff {n : Node σ} (h : n.FlagAgrees) (ev : NodeEvent) :
    ConnectsPaired n ev ↔ PairedWhenFound n ev := by
  cases ev with
  | call call nowMs =>
    cases call with
    | loop => exact loop_connectsPaired h nowMs
    | onHeartbeatReceived => exact iff_of_true (onHeartbeatReceived_connectsPaired h nowMs) trivial
    | onMessageReceived => exact iff_of_true (onHeartbeatReceived_connectsPaired h nowMs) trivial
    | onReacquisitionSuccess =>
      exact ⟨fun hlaw hne => hlaw hne rfl, fun hcond hne _ => hcond hne⟩
  | ack ack => exact iff_of_true (fun hne hc => absurd hc hne) trivial
  | pairing op => exact iff_of_true (fun hne hc => absurd hc hne) trivial

/-- From `begin` on, every step of a run that connects the node leaves it paired if and
only if no success is reported to an unpaired node that is not connected, and no due
`loop` of an unpaired node finds an accepted ack. -/
theorem connects_paired_iff (pairing : PairingClient σ)
    (probeCb : Option (MacAddress → Transport σ → Transport σ)) (config : ConnectionConfig)
    (nowMs : UInt32) (evs : List NodeEvent) :
    EachStep NodeEvent.apply ConnectsPaired (Node.start pairing probeCb config nowMs) evs ↔
      EachStep NodeEvent.apply PairedWhenFound (Node.start pairing probeCb config nowMs) evs :=
  eachStep_congr NodeInv (start_nodeInv pairing probeCb config nowMs)
    (eachStep_true _ _)
    (fun _ ev h _ => apply_nodeInv h ev) (fun _ ev h _ => connectsPaired_iff h.flag ev)

end Paired

section Example

/-- The coordinator acks, the user clears the pairing, and the next `loop` reports the
node connected. -/
theorem connected_without_pairing :
    ¬ EachStep NodeEvent.apply ConnectsPaired (Node.start pairedClient none
        { staticMaxProbes := 1 } 0)
      [.call .loop 500, .call .loop 510, .call .loop 520, .ack (.init 6),
        .pairing .clearPairing, .call .loop 1020] := by
  intro h
  exact absurd (h.2.2.2.2.2.1 (by decide) (by decide)) (by decide)

end Example
end UngulaNet.Connection
