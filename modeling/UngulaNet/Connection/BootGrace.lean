import UngulaNet.Connection.EspNowSessionProvider
import UngulaNet.Connection.ManagerClock

/-!
# The boot grace period

`begin` sets the first probe to the end of the boot grace period. The first `loop` after
the degraded grace period moves the deadline to the present, so the second one probes:
what is honoured is the degraded grace period and one more call. `boot_grace_iff` turns
this into a count of calls.
-/

namespace UngulaNet.Connection
open Comm Pairing Runs WrapClock
set_option autoImplicit false

def IsProbe (call : SessionCall) : Prop := ∃ s, ProbeOf s call

section Grace
variable {S : Type}

/-- After `begin`, `loop` is the only call, and the clock does not wrap. -/
def LoopsFrom (t0 : Nat) : TimedEvent S → Prop
  | .call call time => call = .loop ∧ SameLap (2 ^ 32) t0 time
  | .environment _ => True

def InWindow (lo hi : Nat) : TimedEvent S → Bool
  | .call _ time => decide (lo ≤ time ∧ time < hi)
  | .environment _ => false

instance (t0 : Nat) : ∀ ev : TimedEvent S, Decidable (LoopsFrom t0 ev)
  | .call _ _ => inferInstanceAs (Decidable (_ ∧ _))
  | .environment _ => isTrue trivial

variable [ISessionProvider S]
open ConnectionManager TimedManager

def NoProbeBefore (hi : Nat) (w : TimedManager S) : TimedEvent S → Prop
  | .call call time =>
    (∃ probe ∈ newCalls w.mgr (call.apply w.mgr (stamp time)), IsProbe probe) → hi ≤ time
  | .environment _ => True

theorem noProbeBefore_of_quiet (hi : Nat) {w : TimedManager S} {call : ManagerCall} {time : Nat}
    (h : (call.apply w.mgr (stamp time)).session.calls = w.mgr.session.calls) :
    NoProbeBefore hi w (.call call time) := by
  rintro ⟨probe, hmem, _⟩
  rw [newCalls_eq (h.trans (List.append_nil _).symm)] at hmem
  exact absurd hmem List.not_mem_nil

theorem noProbeBefore_late (lo hi : Nat) {evs : List (TimedEvent S)} {w : TimedManager S}
    (hord : EachStep TimedManager.apply InOrder w evs) (hnow : hi ≤ w.now) :
    EachStep TimedManager.apply (NoProbeBefore hi) w evs ∧ evs.countP (InWindow lo hi) = 0 := by
  induction evs generalizing w with
  | nil => exact ⟨trivial, rfl⟩
  | cons ev evs ih =>
    cases ev with
    | environment provider =>
      obtain ⟨hlaw, hcount⟩ := ih hord.2 hnow
      exact ⟨⟨trivial, hlaw⟩, by simpa [InWindow] using hcount⟩
    | call call time =>
      have htime : w.now ≤ time := hord.1
      have hle : hi ≤ time := Nat.le_trans hnow htime
      obtain ⟨hlaw, hcount⟩ := ih hord.2 (show hi ≤ (w.apply (.call call time)).now from hle)
      refine ⟨⟨fun _ => hle, hlaw⟩, ?_⟩
      rw [List.countP_cons_of_neg (by simp [InWindow]; omega)]
      exact hcount

/-- In REACQUIRING_STATIC with a deadline that is past, the very next call probes. -/
theorem noProbeBefore_static (lo hi : Nat) {t0 entered : Nat} {evs : List (TimedEvent S)}
    {w : TimedManager S} (hflag : w.mgr.FlagAgrees) (hs : w.mgr.state = .REACQUIRING_STATIC)
    (hnext : w.mgr.nextProbeMs = stamp entered) (hlap : SameLap (2 ^ 32) t0 entered)
    (hlo : lo ≤ entered) (hentered : entered ≤ w.now)
    (hord : EachStep TimedManager.apply InOrder w evs) (hcalls : ∀ ev ∈ evs, LoopsFrom t0 ev) :
    EachStep TimedManager.apply (NoProbeBefore hi) w evs ↔ evs.countP (InWindow lo hi) = 0 := by
  induction evs generalizing w with
  | nil => exact iff_of_true trivial rfl
  | cons ev evs ih =>
    have htail : ∀ e ∈ evs, LoopsFrom t0 e := fun e he => hcalls e (List.mem_cons_of_mem ev he)
    cases ev with
    | environment provider =>
      rw [List.countP_cons_of_neg (by simp [InWindow])]
      exact Iff.trans ⟨fun h => h.2, fun h => ⟨trivial, h⟩⟩
        (ih (hflag.setProvider provider) hs hnext hentered hord.2 htail)
    | call call time =>
      obtain ⟨rfl, hlap'⟩ := hcalls _ List.mem_cons_self
      have htime : w.now ≤ time := hord.1
      -- no wrap between the two readings
      have hread : stamp entered ≤ stamp time := by
        have hle : entered ≤ time := Nat.le_trans hentered htime
        rw [stamp_le_iff]
        exact (SameLap.le_iff (hlap'.trans hlap.symm)).mpr hle
      have hprobed : Probed w.mgr (w.mgr.loop (stamp time)) := by
        rw [loop_probed_iff hflag (Or.inl hs), hnext, UInt32.not_lt]
        exact hread
      obtain ⟨probe, hmem, hprobe⟩ := hprobed
      by_cases hhi : hi ≤ time
      · obtain ⟨hlaw, hcount⟩ := noProbeBefore_late lo hi hord.2
          (show hi ≤ (w.apply (.call .loop time)).now from hhi)
        rw [List.countP_cons_of_neg (by simp [InWindow]; omega)]
        exact iff_of_true ⟨fun _ => hhi, hlaw⟩ hcount
      · have hlo' : lo ≤ time := by omega
        rw [List.countP_cons_of_pos (by simp [InWindow]; omega)]
        refine iff_of_false (fun h => hhi (h.1 ⟨probe, hmem, w.mgr.state, hprobe⟩)) (by omega)

/-- The call that enters REACQUIRING_STATIC does not probe; a second call of the window
does. -/
theorem noProbeBefore_entered (lo hi : Nat) {t0 time : Nat} {evs : List (TimedEvent S)}
    {w : TimedManager S} (hflag : w.mgr.FlagAgrees) (hs : w.mgr.state = .REACQUIRING_STATIC)
    (hnext : w.mgr.nextProbeMs = stamp time) (hlap : SameLap (2 ^ 32) t0 time)
    (hlo : lo ≤ time) (hnow : time ≤ w.now)
    (hord : EachStep TimedManager.apply InOrder w evs) (hcalls : ∀ ev ∈ evs, LoopsFrom t0 ev) :
    EachStep TimedManager.apply (NoProbeBefore hi) w evs ↔
      (.call .loop time :: evs).countP (InWindow lo hi) ≤ 1 := by
  by_cases hhi : hi ≤ time
  · obtain ⟨hlaw, hcount⟩ := noProbeBefore_late lo hi hord (Nat.le_trans hhi hnow)
    rw [List.countP_cons_of_neg (by simp [InWindow]; omega), hcount]
    exact iff_of_true hlaw (Nat.zero_le 1)
  · rw [noProbeBefore_static lo hi hflag hs hnext hlap hlo hnow hord hcalls,
      List.countP_cons_of_pos (by simp [InWindow]; omega)]
    omega

/-- In PAIRED_DEGRADED since `t0`, one call of the window is spent on the transition. -/
theorem noProbeBefore_degraded (hi : Nat) {t0 : Nat} {evs : List (TimedEvent S)}
    {w : TimedManager S} (hflag : w.mgr.FlagAgrees) (hs : w.mgr.state = .PAIRED_DEGRADED)
    (hentered : w.mgr.stateEnteredMs = stamp t0) (hnow : t0 ≤ w.now)
    (hord : EachStep TimedManager.apply InOrder w evs) (hcalls : ∀ ev ∈ evs, LoopsFrom t0 ev) :
    EachStep TimedManager.apply (NoProbeBefore hi) w evs ↔
      evs.countP (InWindow (t0 + w.mgr.config.degradedGracePeriodMs.toNat) hi) ≤ 1 := by
  induction evs generalizing w with
  | nil => exact iff_of_true trivial (Nat.zero_le 1)
  | cons ev evs ih =>
    have htail : ∀ e ∈ evs, LoopsFrom t0 e := fun e he => hcalls e (List.mem_cons_of_mem ev he)
    cases ev with
    | environment provider =>
      rw [List.countP_cons_of_neg (by simp [InWindow])]
      exact Iff.trans ⟨fun h => h.2, fun h => ⟨trivial, h⟩⟩
        (ih (hflag.setProvider provider) hs hentered hnow hord.2 htail)
    | call call time =>
      obtain ⟨rfl, hlap⟩ := hcalls _ List.mem_cons_self
      have htime : w.now ≤ time := hord.1
      have hle : t0 ≤ time := Nat.le_trans hnow htime
      have hgrace : stamp time - w.mgr.stateEnteredMs < w.mgr.config.degradedGracePeriodMs ↔
          time < t0 + w.mgr.config.degradedGracePeriodMs.toNat := by
        rw [hentered, UInt32.lt_iff_toNat_lt, stamp_sub_toNat_of_lt hle hlap.sub_lt]
        omega
      rcases loop_degraded hflag hs (stamp time) with ⟨hg, he⟩ | ⟨hg, he⟩
      · have hw : (w.apply (.call .loop time)).mgr = w.mgr := he
        have hfirst : NoProbeBefore hi w (.call .loop time) :=
          noProbeBefore_of_quiet hi (by rw [ManagerCall.apply, he])
        have hrest := ih (hw ▸ hflag) (hw ▸ hs) (hw ▸ hentered) hle hord.2 htail
        rw [hw] at hrest
        rw [hgrace] at hg
        rw [List.countP_cons_of_neg (by simp [InWindow]; omega), ← hrest]
        exact ⟨fun h => h.2, fun h => ⟨hfirst, h⟩⟩
      · have hfirst : NoProbeBefore hi w (.call .loop time) :=
          noProbeBefore_of_quiet hi (by rw [ManagerCall.apply, he])
        have hw : (w.apply (.call .loop time)).mgr = w.mgr.loop (stamp time) := rfl
        rw [hgrace] at hg
        rw [← noProbeBefore_entered (w := w.apply (.call .loop time))
          (t0 + w.mgr.config.degradedGracePeriodMs.toNat) hi (flagAgrees_loop hflag (stamp time))
          (by rw [hw, he]) (by rw [hw, he]) hlap (by omega) (Nat.le_refl time) hord.2 htail]
        exact ⟨fun h => h.2, fun h => ⟨hfirst, h⟩⟩

/-- On a paired node, no probe is made before the end of the boot grace period if and
only if at most one `loop` call falls between the ends of the two grace periods. -/
theorem boot_grace_iff (session : Session S) (hpair : session.hasPairing = true)
    (config : ConnectionConfig) (t0 : Nat) (evs : List (TimedEvent S))
    (hord : EachStep TimedManager.apply InOrder (TimedManager.start session config t0) evs)
    (hcalls : ∀ ev ∈ evs, LoopsFrom t0 ev) :
    EachStep TimedManager.apply (NoProbeBefore (t0 + config.bootGracePeriodMs.toNat))
        (TimedManager.start session config t0) evs ↔
      evs.countP (InWindow (t0 + config.degradedGracePeriodMs.toNat)
        (t0 + config.bootGracePeriodMs.toNat)) ≤ 1 := by
  have hbegin : (TimedManager.start session config t0).mgr =
      { ConnectionManager.new session config with
        began := true, state := .PAIRED_DEGRADED, stateEnteredMs := stamp t0,
        nextProbeMs := stamp t0 + config.bootGracePeriodMs } := by
    rcases (ConnectionManager.new session config).begin_cases (stamp t0) with ⟨_, he⟩ | ⟨hn, _⟩
    · exact he
    · exact absurd (hpair.symm.trans hn) (by decide)
  have hiff := noProbeBefore_degraded (t0 + config.bootGracePeriodMs.toNat)
    (flagAgrees_begin session config (stamp t0)) (by rw [hbegin]) (by rw [hbegin])
    (Nat.le_refl t0) hord hcalls
  rwa [hbegin] at hiff

end Grace

section Example

theorem boot_grace_slow_loop :
    EachStep TimedManager.apply (NoProbeBefore 3000) (TimedManager.start pairedSession {} 0)
      [.call .loop 100, .call .loop 600, .call .loop 3100] :=
  (boot_grace_iff pairedSession (by decide) {} 0 _ (by decide) (by decide)).mpr (by decide)

/-- The default configuration, called every 10 ms around the end of the degraded grace
period: the first probe leaves 510 ms after boot. -/
theorem probe_during_boot_grace :
    ¬ EachStep TimedManager.apply (NoProbeBefore 3000) (TimedManager.start pairedSession {} 0)
      [.call .loop 490, .call .loop 500, .call .loop 510] := by
  intro h
  have hlate := h.2.2.1 ⟨.sendProbe, by decide, .REACQUIRING_STATIC, trivial⟩
  exact absurd hlate (by decide)

end Example
end UngulaNet.Connection
