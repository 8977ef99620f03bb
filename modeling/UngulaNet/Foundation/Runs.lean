import Mathlib.Logic.Basic
import Mathlib.Data.List.Basic

/-!
# Runs of a deterministic system

A system is a step function `step : S → A → S`; a run is a list of inputs, folded
from a start state. `EachStep` is a condition on every step of a run, read at the
state before the step; `EachState` is a property of every state a run visits.

Nothing here knows what the states or the inputs are.
-/

namespace UngulaNet.Runs
set_option autoImplicit false

universe u v w
variable {S : Type u} {A : Type v} (step : S → A → S)

/-- The state after all inputs of `as`. -/
def run (s : S) (as : List A) : S := as.foldl step s

/-- Every step of the run meets `C`, at the state in which it is taken. -/
def EachStep (C : S → A → Prop) : S → List A → Prop
  | _, [] => True
  | s, a :: as => C s a ∧ EachStep C (step s a) as

/-- Every state of the run, the first and the last included, satisfies `P`. -/
def EachState (P : S → Prop) : S → List A → Prop
  | s, [] => P s
  | s, a :: as => P s ∧ EachState P (step s a) as

instance decidableEachStep {C : S → A → Prop} [∀ s a, Decidable (C s a)] :
    ∀ s as, Decidable (EachStep step C s as)
  | _, [] => isTrue trivial
  | s, a :: as =>
    have : Decidable (EachStep step C (step s a) as) := decidableEachStep (step s a) as
    inferInstanceAs (Decidable (C s a ∧ EachStep step C (step s a) as))

instance decidableEachState {P : S → Prop} [∀ s, Decidable (P s)] :
    ∀ s as, Decidable (EachState step P s as)
  | s, [] => inferInstanceAs (Decidable (P s))
  | s, a :: as =>
    have : Decidable (EachState step P (step s a) as) := decidableEachState (step s a) as
    inferInstanceAs (Decidable (P s ∧ EachState step P (step s a) as))

@[simp] theorem run_nil (s : S) : run step s [] = s := rfl

@[simp] theorem run_cons (s : S) (a : A) (as : List A) :
    run step s (a :: as) = run step (step s a) as := rfl

theorem run_append (s : S) (as bs : List A) :
    run step s (as ++ bs) = run step (run step s as) bs :=
  List.foldl_append

section Steps
variable {step} {C D G : S → A → Prop} {P : S → Prop}

theorem EachStep.imp (h : ∀ s a, C s a → D s a) {s : S} {as : List A}
    (hC : EachStep step C s as) : EachStep step D s as := by
  induction as generalizing s with
  | nil => trivial
  | cons a as ih => exact ⟨h s a hC.1, ih hC.2⟩

theorem eachStep_of_forall {P : A → Prop} {as : List A} (h : ∀ a ∈ as, P a) (s : S) :
    EachStep step (fun _ a => P a) s as := by
  induction as generalizing s with
  | nil => trivial
  | cons a as ih =>
    exact ⟨h a List.mem_cons_self, ih (fun b hb => h b (List.mem_cons_of_mem a hb)) _⟩

theorem EachStep.and {s : S} {as : List A} (hC : EachStep step C s as)
    (hD : EachStep step D s as) : EachStep step (fun s a => C s a ∧ D s a) s as := by
  induction as generalizing s with
  | nil => trivial
  | cons a as ih => exact ⟨⟨hC.1, hD.1⟩, ih hC.2 hD.2⟩

/-- The condition at the step that follows a prefix of the run. -/
theorem eachStep_iff {s : S} {as : List A} :
    EachStep step C s as ↔ ∀ pre a post, as = pre ++ a :: post → C (run step s pre) a := by
  induction as generalizing s with
  | nil => simp [EachStep]
  | cons b as ih =>
    constructor
    · rintro ⟨hb, has⟩ pre a post heq
      cases pre with
      | nil =>
        obtain ⟨rfl, rfl⟩ := List.cons.inj heq
        exact hb
      | cons c pre =>
        obtain ⟨rfl, htail⟩ := List.cons.inj heq
        exact ih.mp has pre a post htail
    · intro h
      refine ⟨h [] b as rfl, ih.mpr ?_⟩
      intro pre a post heq
      exact h (b :: pre) a post (by rw [heq]; rfl)

theorem eachStep_append {s : S} {as bs : List A} : EachStep step C s (as ++ bs) ↔
    EachStep step C s as ∧ EachStep step C (run step s as) bs := by
  induction as generalizing s with
  | nil => exact (and_iff_right trivial).symm
  | cons a as ih => exact (and_congr_right fun _ => ih).trans and_assoc.symm

/-- The property at the state that a prefix of the run ends in. -/
theorem eachState_iff {s : S} {as : List A} :
    EachState step P s as ↔ ∀ pre post, as = pre ++ post → P (run step s pre) := by
  induction as generalizing s with
  | nil => simp [EachState]
  | cons b as ih =>
    constructor
    · rintro ⟨hs, has⟩ pre post heq
      cases pre with
      | nil => exact hs
      | cons c pre =>
        obtain ⟨rfl, htail⟩ := List.cons.inj heq
        exact ih.mp has pre post htail
    · intro h
      refine ⟨h [] (b :: as) rfl, ih.mpr ?_⟩
      intro pre post heq
      exact h (b :: pre) post (by rw [heq]; rfl)

theorem EachState.last {s : S} {as : List A} (h : EachState step P s as) : P (run step s as) :=
  eachState_iff.mp h as [] (List.append_nil as).symm

theorem EachState.first {s : S} {as : List A} (h : EachState step P s as) : P s :=
  eachState_iff.mp h [] as rfl

theorem EachState.imp {Q : S → Prop} (h : ∀ s, P s → Q s) {s : S} {as : List A}
    (hP : EachState step P s as) : EachState step Q s as := by
  rw [eachState_iff] at hP ⊢
  exact fun pre post heq => h _ (hP pre post heq)

/-- Invariant rule: what every admissible step preserves holds in every state. -/
theorem eachState_of_invariant (I : S → Prop) {s : S} {as : List A} (hs : I s)
    (hG : EachStep step G s as) (keep : ∀ s a, I s → G s a → I (step s a)) :
    EachState step I s as := by
  induction as generalizing s with
  | nil => exact hs
  | cons a as ih => exact ⟨hs, ih (keep s a hs hG.1) hG.2⟩

theorem eachStep_true (s : S) (as : List A) : EachStep step (fun _ _ => True) s as :=
  eachStep_iff.mpr fun _ _ _ _ => trivial

theorem eachState_invariant (I : S → Prop) {s : S} (hs : I s) (as : List A)
    (keep : ∀ s a, I s → I (step s a)) : EachState step I s as :=
  eachState_of_invariant I hs (eachStep_true s as) fun s a h _ => keep s a h

/-- What every step under an invariant does, every step of a run does. -/
theorem eachStep_of_invariant (I : S → Prop) {s : S} {as : List A} (hs : I s)
    (hG : EachStep step G s as) (keep : ∀ s a, I s → G s a → I (step s a))
    (does : ∀ s a, I s → G s a → C s a) : EachStep step C s as := by
  induction as generalizing s with
  | nil => trivial
  | cons a as ih => exact ⟨does s a hs hG.1, ih (keep s a hs hG.1) hG.2⟩

/-- A preorder that every step respects relates the ends of the run. -/
theorem rel_run (R : S → S → Prop) (refl : ∀ s, R s s)
    (trans : ∀ {s t u}, R s t → R t u → R s u) {s : S} {as : List A}
    (h : EachStep step (fun s a => R s (step s a)) s as) : R s (run step s as) := by
  induction as generalizing s with
  | nil => exact refl s
  | cons a as ih => exact trans h.1 (ih h.2)

/-- A measure that no step lowers is kept by the run when it is kept by every step. -/
theorem run_measure_le_iff (I : S → Prop) (μ : S → Nat) (keep : ∀ s a, I s → I (step s a))
    (mono : ∀ s a, I s → μ s ≤ μ (step s a)) {s : S} (hs : I s) {as : List A} :
    μ (run step s as) ≤ μ s ↔ EachStep step (fun s a => μ (step s a) = μ s) s as := by
  have hrun : ∀ as s, I s → μ s ≤ μ (run step s as) := by
    intro as
    induction as with
    | nil => exact fun s _ => Nat.le_refl _
    | cons a as ih => exact fun s h => Nat.le_trans (mono s a h) (ih _ (keep s a h))
  induction as generalizing s with
  | nil => exact iff_of_true (Nat.le_refl _) trivial
  | cons a as ih =>
    have hnext := keep s a hs
    have hstep := mono s a hs
    have htail := hrun as _ hnext
    rw [run_cons]
    constructor
    · intro h
      exact ⟨by omega, (ih hnext).mp (by omega)⟩
    · intro h
      have hkeep : μ (step s a) = μ s := h.1
      have hrest := (ih hnext).mpr h.2
      omega

/-- Two step conditions that agree under an invariant agree along every run. -/
theorem eachStep_congr (I : S → Prop) {s : S} {as : List A} (hs : I s)
    (hG : EachStep step G s as) (keep : ∀ s a, I s → G s a → I (step s a))
    (agree : ∀ s a, I s → G s a → (C s a ↔ D s a)) :
    EachStep step C s as ↔ EachStep step D s as := by
  induction as generalizing s with
  | nil => exact Iff.rfl
  | cons a as ih =>
    exact and_congr (agree s a hs hG.1) (ih (keep s a hs hG.1) hG.2)

/-- Exactness rule: if the steps that meet `C` keep the invariant, and the first
step that misses `C` leads to a state without `P`, then `P` along the whole run is
the same as `C` at every step. -/
theorem eachState_iff_eachStep (I : S → Prop) {s : S} {as : List A} (hs : I s)
    (hG : EachStep step G s as) (keep : ∀ s a, I s → G s a → C s a → I (step s a))
    (sound : ∀ s, I s → P s) (breaks : ∀ s a, I s → G s a → ¬ C s a → ¬ P (step s a)) :
    EachState step P s as ↔ EachStep step C s as := by
  induction as generalizing s with
  | nil => exact ⟨fun _ => trivial, fun _ => sound s hs⟩
  | cons a as ih =>
    constructor
    · rintro ⟨_, htail⟩
      have hfirst : P (step s a) := by
        cases as with
        | nil => exact htail
        | cons b bs => exact htail.1
      have hC : C s a := by
        by_contra hn
        exact breaks s a hs hG.1 hn hfirst
      exact ⟨hC, (ih (keep s a hs hG.1 hC) hG.2).mp htail⟩
    · rintro ⟨hC, htail⟩
      exact ⟨sound s hs, (ih (keep s a hs hG.1 hC) hG.2).mpr htail⟩

/-- Until rule: what every admissible step keeps, unless it reaches the goal, holds at the end
of a run on which the goal is not reached. -/
theorem reached_or_kept (I Goal : S → Prop) {s : S} {as : List A} (hs : I s)
    (hG : EachStep step G s as) (one : ∀ s a, I s → G s a → Goal (step s a) ∨ I (step s a)) :
    (∃ pre a post, as = pre ++ a :: post ∧ Goal (run step s (pre ++ [a]))) ∨ I (run step s as) := by
  induction as generalizing s with
  | nil => exact Or.inr hs
  | cons a as ih =>
    rcases one s a hs hG.1 with hgoal | hkept
    · exact Or.inl ⟨[], a, as, rfl, hgoal⟩
    · rcases ih hkept hG.2 with ⟨pre, b, post, rfl, hgoal⟩ | hlast
      · exact Or.inl ⟨a :: pre, b, post, rfl, hgoal⟩
      · exact Or.inr hlast

/-- Where a breach is never made good, a run has had none exactly when it does not end in one. -/
theorem eachStep_iff_last (I D : S → Prop) (apart : ∀ s, I s → ¬ D s)
    (keep : ∀ s a, I s → C s a → I (step s a)) (breaks : ∀ s a, I s → ¬ C s a → D (step s a))
    (stuck : ∀ s a, D s → D (step s a)) {s : S} (hs : I s) (as : List A) :
    EachStep step C s as ↔ ¬ D (run step s as) := by
  induction as generalizing s with
  | nil => exact iff_of_true trivial (apart s hs)
  | cons a as ih =>
    by_cases hC : C s a
    · rw [run_cons, ← ih (keep s a hs hC)]
      exact and_iff_right hC
    · have hstuck := (eachState_invariant D (breaks s a hs hC) as stuck).last
      exact iff_of_false (fun h => hC h.1) (not_not_intro hstuck)

/-- What a state has was there at the start or was brought in by an input, and no input after
that removes it. -/
theorem exists_origin {R : Type w} {has : S → R → Prop} {brings removes : A → R → Prop}
    (I : S → Prop) (keep : ∀ s a, I s → I (step s a))
    (one : ∀ s a r, I s → has (step s a) r → brings a r ∨ has s r ∧ ¬ removes a r)
    {s : S} (hs : I s) {as : List A} {r : R} (h : has (run step s as) r) :
    (has s r ∧ ∀ a ∈ as, ¬ removes a r) ∨ ∃ pre a post, as = pre ++ a :: post ∧ brings a r ∧
      ∀ b ∈ post, ¬ removes b r := by
  induction as generalizing s with
  | nil => exact Or.inl ⟨h, fun _ ha => nomatch ha⟩
  | cons a as ih =>
    rcases ih (keep s a hs) h with ⟨hnext, hrest⟩ | ⟨pre, b, post, rfl, hb, hpost⟩
    · rcases one s a r hs hnext with hbrings | ⟨hold, hkeeps⟩
      · exact Or.inr ⟨[], a, as, rfl, hbrings, hrest⟩
      · exact Or.inl ⟨hold, List.forall_mem_cons.mpr ⟨hkeeps, hrest⟩⟩
    · exact Or.inr ⟨a :: pre, b, post, rfl, hb, hpost⟩

end Steps

section Stays
variable {P : S → Prop}

/-- A stretch of a run spent in `P`: `enter` comes in from outside, and nothing in `mid`
leaves. -/
structure Stay (P : S → Prop) (s : S) (before : List A) (enter : A) (mid : List A) : Prop where
  outside : ¬ P (run step s before)
  inside : EachState step P (run step s (before ++ [enter])) mid

variable {step}

/-- A run that is in `P` at its end has been there from the start, or since its last
entry. -/
theorem exists_stay_or {s : S} {as : List A} (h : P (run step s as)) :
    EachState step P s as ∨
      ∃ before enter mid, as = before ++ enter :: mid ∧ Stay step P s before enter mid := by
  induction as generalizing s with
  | nil => exact Or.inl h
  | cons a as ih =>
    rcases ih h with hall | ⟨before, enter, mid, heq, hstay⟩
    · by_cases hs : P s
      · exact Or.inl ⟨hs, hall⟩
      · exact Or.inr ⟨[], a, as, rfl, hs, hall⟩
    · exact Or.inr ⟨a :: before, enter, mid, by rw [heq]; rfl, hstay.outside, hstay.inside⟩

theorem exists_stay {s : S} (hs : ¬ P s) {as : List A} (h : P (run step s as)) :
    ∃ before enter mid, as = before ++ enter :: mid ∧ Stay step P s before enter mid := by
  rcases exists_stay_or h with hall | hstay
  · cases as with
    | nil => exact absurd hall hs
    | cons a as => exact absurd hall.1 hs
  · exact hstay

/-- What does not hold at the start and holds at the end is brought about by a step. -/
theorem exists_flip {s : S} (hs : ¬ P s) {as : List A} (h : P (run step s as)) :
    ∃ pre a post, as = pre ++ a :: post ∧ ¬ P (run step s pre) ∧
      P (step (run step s pre) a) := by
  induction as generalizing s with
  | nil => exact absurd h hs
  | cons a as ih =>
    by_cases ha : P (step s a)
    · exact ⟨[], a, as, rfl, hs, ha⟩
    · obtain ⟨pre, b, post, heq, hpre, hb⟩ := ih ha h
      exact ⟨a :: pre, b, post, by rw [heq]; rfl, hpre, hb⟩

end Stays

end UngulaNet.Runs
