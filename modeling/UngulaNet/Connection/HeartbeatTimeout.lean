import UngulaNet.Connection.EspNowSessionProvider
import UngulaNet.Connection.ManagerClock

/-!
# The heartbeat timeout

A connected manager should notice, at the first `loop` after the timeout, that the
coordinator has been silent. The elapsed time is computed correctly across a wrap of the
clock, but a last contact at clock reading 0 counts as no contact at all: then the
timeout never fires.
-/

namespace UngulaNet.Connection
open Comm Pairing Runs WrapClock
set_option autoImplicit false

section Timeout
variable {S : Type} [ISessionProvider S]
open ConnectionManager TimedManager

/-- A `loop` call of a connected manager, less than a whole lap of the clock after the
last contact, degrades it if and only if the timeout has passed. -/
def TimeoutLaw (w : TimedManager S) : TimedEvent S → Prop
  | .call .loop time => w.mgr.state = .PAIRED_CONNECTED →
      ∃ heard, w.heard = some heard ∧ (time - heard < 2 ^ 32 →
        if w.mgr.config.heartbeatTimeoutMs.toNat < time - heard then
          (w.mgr.loop (stamp time)).getState = .PAIRED_DEGRADED ∧
            (w.mgr.loop (stamp time)).isConnected = false
        else (w.mgr.loop (stamp time)).getState = .PAIRED_CONNECTED)
  | _ => True

/-- Not both: the last contact was at clock reading 0, and the timeout has passed. -/
def ContactVisible (w : TimedManager S) : TimedEvent S → Prop
  | .call .loop time => w.mgr.state = .PAIRED_CONNECTED →
      ∀ heard, w.heard = some heard → time - heard < 2 ^ 32 →
        heard % 2 ^ 32 ≠ 0 ∨ time - heard ≤ w.mgr.config.heartbeatTimeoutMs.toNat
  | _ => True

structure HeardInv (w : TimedManager S) : Prop where
  flag : w.mgr.FlagAgrees
  heard : w.mgr.state = .PAIRED_CONNECTED →
    ∃ heard, w.heard = some heard ∧ w.mgr.lastHeardMs = stamp heard ∧ heard ≤ w.now

/-- The timestamp moves when the coordinator is heard, and only then is the connected
state entered. -/
theorem loop_heard {m : ConnectionManager S} (h : m.FlagAgrees) (nowMs : UInt32) :
    (Hears m (m.loop nowMs) .loop ∧ (m.loop nowMs).lastHeardMs = nowMs) ∨
      (¬ Hears m (m.loop nowMs) .loop ∧ (m.loop nowMs).lastHeardMs = m.lastHeardMs ∧
        ((m.loop nowMs).state = .PAIRED_CONNECTED → m.state = .PAIRED_CONNECTED)) := by
  cases hs : m.state with
  | UNPAIRED_DISCOVERY =>
    rcases loop_unpaired h hs nowMs with ⟨_, he⟩ | ⟨_, he⟩
    · refine Or.inr ⟨fun hh => ?_, by rw [he], fun hh => ?_⟩
      · simp [Hears, he, hs] at hh
      · simp [he, hs] at hh
    · rw [he]
      exact Or.inl ⟨⟨Or.inl hs, rfl⟩, rfl⟩
  | PAIRED_CONNECTED =>
    refine Or.inr ⟨fun hh => ?_, ?_, fun _ => rfl⟩
    · simp [Hears, hs] at hh
    · rcases loop_connected h hs nowMs with ⟨_, he⟩ | ⟨_, he⟩ <;> rw [he]
  | PAIRED_DEGRADED =>
    rcases loop_degraded h hs nowMs with ⟨_, he⟩ | ⟨_, he⟩ <;>
      refine Or.inr ⟨fun hh => ?_, by rw [he], fun hh => ?_⟩
    · simp [Hears, hs] at hh
    · simp [he, hs] at hh
    · simp [Hears, hs] at hh
    · simp [he] at hh
  | REACQUIRING_STATIC =>
    rcases loop_static h hs nowMs with ⟨_, he⟩ | ⟨_, _, he⟩ | ⟨_, _, he⟩ <;>
      refine Or.inr ⟨fun hh => ?_, by rw [he], fun hh => ?_⟩
    · simp [Hears, hs] at hh
    · simp [he, hs] at hh
    · simp [Hears, hs] at hh
    · simp [he, hs] at hh
    · simp [Hears, hs] at hh
    · simp [he] at hh
  | REACQUIRING_DYNAMIC =>
    rcases loop_dynamic h hs nowMs with ⟨_, he⟩ | ⟨_, _, he⟩ | ⟨_, _, he⟩
    · refine Or.inr ⟨fun hh => ?_, by rw [he], fun hh => ?_⟩
      · simp [Hears, he, hs] at hh
      · simp [he, hs] at hh
    · refine Or.inr ⟨fun hh => ?_, by rw [he], fun hh => ?_⟩
      · simp [Hears, he, hs] at hh
      · simp [he, hs] at hh
    · rw [he]
      exact Or.inl ⟨⟨Or.inr hs, rfl⟩, rfl⟩

theorem heartbeat_heard {m : ConnectionManager S} (h : m.FlagAgrees) (nowMs : UInt32) :
    (m.Heeds ∧ (m.onHeartbeatReceived nowMs).lastHeardMs = nowMs) ∨
      (¬ m.Heeds ∧ m.onHeartbeatReceived nowMs = m) := by
  rcases onHeartbeatReceived_cases h nowMs with ⟨hn, he⟩ | ⟨hh, _, he⟩ | ⟨hh, _, he⟩
  · exact Or.inr ⟨hn, he⟩
  · exact Or.inl ⟨hh, by rw [he]⟩
  · exact Or.inl ⟨hh, by rw [he, recovered]⟩

theorem call_heard {m : ConnectionManager S} (h : m.FlagAgrees) (call : ManagerCall)
    (nowMs : UInt32) :
    (Hears m (call.apply m nowMs) call ∧ (call.apply m nowMs).lastHeardMs = nowMs) ∨
      (¬ Hears m (call.apply m nowMs) call ∧
        (call.apply m nowMs).lastHeardMs = m.lastHeardMs ∧
        ((call.apply m nowMs).state = .PAIRED_CONNECTED → m.state = .PAIRED_CONNECTED)) := by
  have hbeat := heartbeat_heard h nowMs
  cases call with
  | loop => exact loop_heard h nowMs
  | onHeartbeatReceived =>
    rcases hbeat with ⟨hh, he⟩ | ⟨hn, he⟩
    · exact Or.inl ⟨hh, he⟩
    · refine Or.inr ⟨hn, congrArg lastHeardMs he, ?_⟩
      intro hc
      rwa [ManagerCall.apply, he] at hc
  | onMessageReceived =>
    rcases hbeat with ⟨hh, he⟩ | ⟨hn, he⟩
    · exact Or.inl ⟨hh, he⟩
    · refine Or.inr ⟨hn, congrArg lastHeardMs he, ?_⟩
      intro hc
      rwa [ManagerCall.apply, onMessageReceived_eq, he] at hc
  | onReacquisitionSuccess => exact Or.inl ⟨trivial, rfl⟩

theorem start_heardInv (session : Session S) (config : ConnectionConfig) (time : Nat) :
    HeardInv (TimedManager.start session config time) := by
  refine ⟨flagAgrees_begin session config _, ?_⟩
  intro hs
  rcases (ConnectionManager.new session config).begin_state (stamp time) with he | he <;>
    simp [TimedManager.start, he] at hs

theorem apply_heardInv {w : TimedManager S} (h : HeardInv w) {ev : TimedEvent S}
    (hord : w.InOrder ev) : HeardInv (w.apply ev) := by
  cases ev with
  | environment provider => exact ⟨h.flag.setProvider provider, h.heard⟩
  | call call time =>
    refine ⟨flagAgrees_apply h.flag call _, ?_⟩
    intro hs
    have hnow : w.now ≤ time := hord
    simp only [TimedManager.apply] at hs ⊢
    rcases call_heard h.flag call (stamp time) with ⟨hh, he⟩ | ⟨hn, he, hkeep⟩
    · exact ⟨time, if_pos hh, he, Nat.le_refl time⟩
    · obtain ⟨heard, hsome, hread, hle⟩ := h.heard (hkeep hs)
      exact ⟨heard, (if_neg hn).trans hsome, he.trans hread, by omega⟩

omit [ISessionProvider S] in
theorem timedOut_iff {w : TimedManager S} {heard time : Nat}
    (hread : w.mgr.lastHeardMs = stamp heard) (hle : heard ≤ time)
    (hlap : time - heard < 2 ^ 32) :
    w.mgr.TimedOut (stamp time) ↔
      heard % 2 ^ 32 ≠ 0 ∧ w.mgr.config.heartbeatTimeoutMs.toNat < time - heard := by
  have hzero : stamp heard > 0 ↔ heard % 2 ^ 32 ≠ 0 := by
    rw [gt_iff_lt, UInt32.lt_iff_toNat_lt, stamp_toNat]
    exact Nat.pos_iff_ne_zero
  have hsub : stamp time - stamp heard > w.mgr.config.heartbeatTimeoutMs ↔
      w.mgr.config.heartbeatTimeoutMs.toNat < time - heard := by
    rw [gt_iff_lt, UInt32.lt_iff_toNat_lt, stamp_sub_toNat_of_lt hle hlap]
  rw [TimedOut, hread, hzero, hsub]

theorem timeout_step {w : TimedManager S} (h : HeardInv w) {ev : TimedEvent S}
    (hord : w.InOrder ev) : TimeoutLaw w ev ↔ ContactVisible w ev := by
  cases ev with
  | environment provider => exact Iff.rfl
  | call call time =>
    cases call with
    | loop =>
      refine forall_congr' ?_
      intro hs
      obtain ⟨heard, hsome, hread, hle⟩ := h.heard hs
      have hnow : w.now ≤ time := hord
      simp only [hsome, Option.some.injEq, exists_eq_left', forall_eq']
      refine forall_congr' ?_
      intro hlap
      have hcode := timedOut_iff hread (Nat.le_trans hle hnow) hlap
      rcases loop_connected h.flag hs (stamp time) with ⟨ht, he⟩ | ⟨ht, he⟩
      · rw [hcode] at ht
        simp only [he, getState, isConnected, hs, reduceCtorEq, false_and, if_false_left, and_true]
        omega
      · rw [hcode] at ht
        simp only [he, getState, isConnected, ht.2, if_true, true_and]
        exact iff_of_true trivial (Or.inl ht.1)
    | _ => exact Iff.rfl

/-- From `begin` on, the heartbeat timeout is exact if and only if no `loop` call of a
connected manager comes after the timeout while the last contact was at a multiple of
2^32 ms. -/
theorem heartbeat_timeout_iff (session : Session S) (config : ConnectionConfig) (time : Nat)
    (evs : List (TimedEvent S))
    (hord : EachStep TimedManager.apply InOrder (TimedManager.start session config time) evs) :
    EachStep TimedManager.apply TimeoutLaw (TimedManager.start session config time) evs ↔
      EachStep TimedManager.apply ContactVisible (TimedManager.start session config time) evs :=
  eachStep_congr HeardInv (start_heardInv session config time) hord
    (fun _ _ h hev => apply_heardInv h hev) (fun _ _ h hev => timeout_step h hev)

end Timeout

section Example

theorem heartbeat_timeout_fires :
    EachStep TimedManager.apply TimeoutLaw (TimedManager.start pairedSession {} 0)
      [.call .onHeartbeatReceived 100, .call .loop 2000, .call .loop 2200] := by
  refine (heartbeat_timeout_iff pairedSession {} 0 _ (by decide)).mpr ⟨trivial, ?_, ?_, trivial⟩
  · intro _ heard hsome _
    exact Or.inl (Option.some.inj hsome ▸ by decide)
  · intro _ heard hsome _
    exact Or.inl (Option.some.inj hsome ▸ by decide)

/-- The only heartbeat comes at the wrap of the clock; a second after the timeout the
manager still says connected. -/
theorem timeout_missed_at_wrap :
    ¬ EachStep TimedManager.apply TimeoutLaw
      (TimedManager.start pairedSession {} (2 ^ 32 - 1000))
      [.call .onHeartbeatReceived (2 ^ 32), .call .loop (2 ^ 32 + 3000)] := by
  intro h
  obtain ⟨heard, hsome, hlaw⟩ := h.2.1 (by decide)
  obtain rfl : 2 ^ 32 = heard := Option.some.inj hsome
  have hdegraded := (hlaw (by decide)).1
  exact absurd hdegraded (by decide)

end Example
end UngulaNet.Connection
