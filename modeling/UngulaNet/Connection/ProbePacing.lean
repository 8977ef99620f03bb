import UngulaNet.Connection.EspNowSessionProvider
import UngulaNet.Connection.ManagerClock

/-!
# Probe pacing

In the two probing states a probe should be made when none has been made since the state
was entered, or when the interval has passed since the last one. The manager keeps the
clock reading of the next deadline and compares it with `<`; so it errs whenever the
clock wraps between the deadline and the present, and `probe_pacing_iff` says that it
errs in no other case.
-/

namespace UngulaNet.Connection
open Comm Pairing Runs WrapClock
set_option autoImplicit false

section Pacing
variable {S : Type} [ISessionProvider S]
open ConnectionManager TimedManager

/-- A `loop` call in a probing state probes if and only if no probe was made since the
state was entered or the interval has passed since the last one. -/
def PacingLaw (w : TimedManager S) : TimedEvent S → Prop
  | .call .loop time => Probing w.mgr.state →
      (Probed w.mgr (w.mgr.loop (stamp time)) ↔
        ∀ last, w.lastProbe = some last →
          (w.mgr.config.probeInterval w.mgr.state).toNat ≤ time - last)
  | _ => True

/-- In a probing state, the clock shows on which side of the deadline the present is. -/
def PacingVisible (w : TimedManager S) : TimedEvent S → Prop
  | .call .loop time => Probing w.mgr.state → DeadlineVisible (2 ^ 32) w.deadline time
  | _ => True

structure PacingInv (w : TimedManager S) : Prop where
  flag : w.mgr.FlagAgrees
  deadline : Probing w.mgr.state → w.mgr.nextProbeMs = stamp w.deadline
  entered_le : w.entered ≤ w.now
  lastProbe_le : ∀ last, w.lastProbe = some last → last ≤ w.now

theorem start_pacingInv (session : Session S) (config : ConnectionConfig) (time : Nat) :
    PacingInv (TimedManager.start session config time) := by
  refine ⟨flagAgrees_begin session config _, ?_, Nat.le_refl _, by simp [TimedManager.start]⟩
  intro hp
  rcases (ConnectionManager.new session config).begin_state (stamp time) with he | he <;>
    simp [TimedManager.start, he, Probing] at hp

theorem loop_deadline {w : TimedManager S} (h : PacingInv w) {time : Nat}
    (hp : Probing (w.mgr.loop (stamp time)).state) :
    (w.mgr.loop (stamp time)).nextProbeMs = stamp (w.apply (.call .loop time)).deadline := by
  have hconfig := config_loop h.flag (stamp time)
  rcases loop_nextProbeMs h.flag (stamp time) hp with ⟨hs, hn⟩ | ⟨hs, hlt, hn⟩ | ⟨hs, hlt, hn⟩
  · rw [hn]
    simp [deadline, TimedManager.apply, ManagerCall.apply, hs]
  · rw [hs] at hp
    have hprobed := (loop_probed_iff h.flag hp (stamp time)).not.mpr (not_not.mpr hlt)
    rw [hn, h.deadline hp]
    simp [deadline, TimedManager.apply, ManagerCall.apply, hs, hprobed, hconfig]
  · rw [hs] at hp
    have hprobed := (loop_probed_iff h.flag hp (stamp time)).mpr hlt
    rw [hn, stamp_add]
    simp [deadline, TimedManager.apply, ManagerCall.apply, hs, hprobed, hconfig]

theorem other_deadline {w : TimedManager S} (h : PacingInv w) {call : ManagerCall}
    (hcall : call ≠ .loop) {time : Nat} (hp : Probing (call.apply w.mgr (stamp time)).state) :
    (call.apply w.mgr (stamp time)).nextProbeMs = stamp (w.apply (.call call time)).deadline := by
  rcases apply_cases h.flag hcall (stamp time) with he | ⟨hs, he⟩ | he
  · simp [he, recovered, Probing] at hp
  · simp [he, hs, Probing] at hp
  · have hsame : (w.apply (.call call time)).deadline = w.deadline := by
      simp [deadline, TimedManager.apply, he, not_probed_self]
    rw [hsame, he]
    rw [he] at hp
    exact h.deadline hp

theorem apply_pacingInv {w : TimedManager S} (h : PacingInv w) {ev : TimedEvent S}
    (hord : w.InOrder ev) : PacingInv (w.apply ev) := by
  cases ev with
  | environment provider =>
    exact ⟨h.flag.setProvider provider, h.deadline, h.entered_le, h.lastProbe_le⟩
  | call call time =>
    refine ⟨flagAgrees_apply h.flag call _, ?_, ?_, ?_⟩
    · intro hp
      by_cases hcall : call = .loop
      · subst hcall
        exact loop_deadline h hp
      · exact other_deadline h hcall hp
    · have henter := h.entered_le
      have hnow : w.now ≤ time := hord
      simp only [TimedManager.apply]
      split <;> omega
    · intro last hlast
      have hnow : w.now ≤ time := hord
      simp only [TimedManager.apply] at hlast ⊢
      split at hlast
      · simp at hlast
      · split at hlast
        · exact Nat.le_of_eq (Option.some.inj hlast).symm
        · have hold := h.lastProbe_le last hlast
          omega

omit [ISessionProvider S] in
theorem due_iff {w : TimedManager S} (h : PacingInv w) {time : Nat} (hord : w.now ≤ time) :
    (∀ last, w.lastProbe = some last →
        (w.mgr.config.probeInterval w.mgr.state).toNat ≤ time - last) ↔
      w.deadline ≤ time := by
  have henter := h.entered_le
  have hlast := h.lastProbe_le
  unfold deadline
  cases hl : w.lastProbe with
  | none => simpa using Nat.le_trans henter hord
  | some last =>
    have hle := hlast last hl
    simp only [Option.some.injEq, forall_eq']
    omega

omit [ISessionProvider S] in
theorem deadline_near {w : TimedManager S} (h : PacingInv w) {time : Nat} (hord : w.now ≤ time) :
    w.deadline < time + 2 ^ 32 := by
  have henter := h.entered_le
  unfold deadline
  cases hl : w.lastProbe with
  | none =>
    dsimp only
    omega
  | some last =>
    have hle := h.lastProbe_le last hl
    have hinterval := (w.mgr.config.probeInterval w.mgr.state).toNat_lt
    dsimp only
    omega

theorem pacing_step {w : TimedManager S} (h : PacingInv w) {ev : TimedEvent S}
    (hord : w.InOrder ev) : PacingLaw w ev ↔ PacingVisible w ev := by
  cases ev with
  | environment provider => exact Iff.rfl
  | call call time =>
    cases call with
    | loop =>
      refine forall_congr' ?_
      intro hp
      have hcode : Probed w.mgr (w.mgr.loop (stamp time)) ↔
          w.deadline % 2 ^ 32 ≤ time % 2 ^ 32 := by
        rw [loop_probed_iff h.flag hp, h.deadline hp, UInt32.not_lt, stamp_le_iff]
      rw [hcode, due_iff h hord]
      exact deadline_le_iff (by decide) (deadline_near h hord)
    | _ => exact Iff.rfl

/-- From `begin` on, the probes of a run are paced by true time if and only if no
`loop` call in a probing state has a wrap of the clock between the deadline and the
present, or comes a whole lap late with a reading that hides it. -/
theorem probe_pacing_iff (session : Session S) (config : ConnectionConfig) (time : Nat)
    (evs : List (TimedEvent S))
    (hord : EachStep TimedManager.apply InOrder (TimedManager.start session config time) evs) :
    EachStep TimedManager.apply PacingLaw (TimedManager.start session config time) evs ↔
      EachStep TimedManager.apply PacingVisible (TimedManager.start session config time) evs :=
  eachStep_congr PacingInv (start_pacingInv session config time) hord
    (fun _ _ h hev => apply_pacingInv h hev) (fun _ _ h hev => pacing_step h hev)

instance (w : TimedManager S) : ∀ ev, Decidable (PacingVisible w ev)
  | .call .loop time =>
    inferInstanceAs (Decidable (Probing _ → DeadlineVisible (2 ^ 32) w.deadline time))
  | .call .onHeartbeatReceived _ | .call .onMessageReceived _ | .call .onReacquisitionSuccess _
  | .environment _ => isTrue trivial

end Pacing

section Example

theorem probe_pacing_static :
    EachStep TimedManager.apply PacingLaw (TimedManager.start pairedSession {} 0)
      [.call .loop 500, .call .loop 510, .call .loop 900, .call .loop 1610] :=
  (probe_pacing_iff pairedSession {} 0 _ (by decide)).mpr (by decide)

/-- 190 ms before the wrap a probe is made; its deadline is a small number after the
wrap, so the call 10 ms later probes again. -/
theorem probe_repeated_before_wrap :
    ¬ EachStep TimedManager.apply PacingLaw
      (TimedManager.start pairedSession {} (2 ^ 32 - 700))
      [.call .loop (2 ^ 32 - 200), .call .loop (2 ^ 32 - 190), .call .loop (2 ^ 32 - 180)] := by
  intro h
  have hlaw := h.2.2.1 (by decide)
  have hinterval := hlaw.mp (by decide) (2 ^ 32 - 190) (by decide)
  exact absurd hinterval (by decide)

end Example
end UngulaNet.Connection
