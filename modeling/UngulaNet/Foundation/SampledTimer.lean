import Mathlib.Data.List.Chain

/-!
# A periodic timer that is only looked at now and then

The timer has a period and is sampled by a loop. It fires at the first sample that finds
the period over, so with samples at most `gap` apart its firings are at least one period,
and less than a period and a gap, apart. Any interval of that length which begins after
the first firing contains one, provided the samples go on to its end.
-/

namespace UngulaNet.Timers
set_option autoImplicit false

/-- The times at which the timer has fired, oldest first, and the last sample. -/
structure SampledTimer where
  fired : List Nat := []
  sampled : Option Nat := none

/-- One sample at time `t`. When the first firing comes is left open. -/
inductive Sample (period : Nat) (timer : SampledTimer) (t : Nat) : SampledTimer → Prop where
  | fires (due : ∀ last, timer.fired.getLast? = some last → last + period ≤ t) :
      Sample period timer t { fired := timer.fired ++ [t], sampled := some t }
  | waits (early : ∀ last, timer.fired.getLast? = some last → t < last + period) :
      Sample period timer t { fired := timer.fired, sampled := some t }

def SampledTimer.InTime (gap : Nat) (timer : SampledTimer) (t : Nat) : Prop :=
  match timer.sampled with
  | none => True
  | some prev => prev ≤ t ∧ t ≤ prev + gap

instance (gap : Nat) (timer : SampledTimer) (t : Nat) : Decidable (timer.InTime gap t) :=
  match h : timer.sampled with
  | none => isTrue (by simp [SampledTimer.InTime, h])
  | some prev => decidable_of_iff (prev ≤ t ∧ t ≤ prev + gap) (by simp [SampledTimer.InTime, h])

/-- Firings are spaced by the period, and the last sample found it not over yet. -/
structure Paced (period gap : Nat) (timer : SampledTimer) : Prop where
  spaced : timer.fired.IsChain fun a b => a + period ≤ b ∧ b < a + period + gap
  running : ∀ last, timer.fired.getLast? = some last →
    ∃ t, timer.sampled = some t ∧ last ≤ t ∧ t < last + period

variable {period gap : Nat} {timer timer' : SampledTimer} {t : Nat}

theorem paced_new (period gap : Nat) : Paced period gap {} := by
  refine ⟨List.isChain_nil, ?_⟩
  intro last hlast
  simp at hlast

theorem Paced.elapsed (h : Paced period gap timer) (ht : timer.InTime gap t) {last : Nat}
    (hlast : timer.fired.getLast? = some last) : last ≤ t ∧ t < last + period + gap := by
  obtain ⟨prev, hprev, hle, hlt⟩ := h.running last hlast
  simp only [SampledTimer.InTime, hprev] at ht
  omega

theorem Sample.paced (hs : Sample period timer t timer') (hperiod : 0 < period)
    (h : Paced period gap timer) (ht : timer.InTime gap t) : Paced period gap timer' := by
  cases hs with
  | fires due =>
    refine ⟨h.spaced.append (List.isChain_singleton t) ?_, ?_⟩
    · intro last hlast b hb
      obtain rfl : t = b := by simpa using hb
      exact ⟨due last hlast, (h.elapsed ht hlast).2⟩
    · intro last hlast
      obtain rfl : t = last := by simpa using hlast
      exact ⟨t, rfl, Nat.le_refl t, by omega⟩
  | waits early =>
    refine ⟨h.spaced, ?_⟩
    intro last hlast
    exact ⟨t, rfl, (h.elapsed ht hlast).1, early last hlast⟩

/-- Of times at most `d` apart, from before `s` to after it, one is in the `d` after `s`. -/
theorem exists_mem_between {d s : Nat} {l : List Nat} (hl : l.IsChain fun a b => b ≤ a + d)
    {first last : Nat} (hfirst : l.head? = some first) (hbefore : first ≤ s)
    (hlast : l.getLast? = some last) (hafter : s ≤ last) : ∃ b ∈ l, s ≤ b ∧ b ≤ s + d := by
  induction l generalizing first with
  | nil => simp at hfirst
  | cons a rest ih =>
    obtain rfl : a = first := by simpa using hfirst
    cases rest with
    | nil =>
      obtain rfl : a = last := by simpa using hlast
      exact ⟨a, List.mem_singleton_self a, hafter, by omega⟩
    | cons b rest =>
      obtain ⟨hstep, hrest⟩ := List.isChain_cons_cons.mp hl
      by_cases hb : b ≤ s
      · have hlast' : (b :: rest).getLast? = some last := by simpa using hlast
        obtain ⟨x, hx, hsx⟩ := ih hrest rfl hb hlast'
        exact ⟨x, List.mem_cons_of_mem a hx, hsx⟩
      · exact ⟨b, by simp, by omega, by omega⟩

/-- An interval as long as a period and a gap, from the first firing on and within the
samples, contains a firing. -/
theorem Paced.exists_fired (h : Paced period gap timer) (hgap : 0 < gap) {first : Nat}
    (hfirst : timer.fired.head? = some first) {start stop : Nat} (hstart : first ≤ start)
    (hlong : start + period + gap ≤ stop + 1) (ht : timer.sampled = some t) (hstop : stop ≤ t) :
    ∃ b ∈ timer.fired, start ≤ b ∧ b ≤ stop := by
  have hnonempty : timer.fired ≠ [] := by
    intro hnil
    simp [hnil] at hfirst
  have hlast := List.getLast?_eq_getLast_of_ne_nil hnonempty
  obtain ⟨t', ht', _, hlt⟩ := h.running _ hlast
  obtain rfl : t = t' := Option.some.inj (ht.symm.trans ht')
  have hspaced : timer.fired.IsChain fun a b => b ≤ a + (period + gap - 1) :=
    h.spaced.imp fun a b hab => by omega
  obtain ⟨b, hb, hsb, hbd⟩ :=
    exists_mem_between hspaced hfirst hstart hlast (by omega)
  exact ⟨b, hb, hsb, by omega⟩

end UngulaNet.Timers
