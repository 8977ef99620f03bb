import Mathlib.Data.List.FinRange
import Mathlib.Logic.Function.Basic

/-!
# Loops over a table with a fixed number of slots

A table is a function on `Fin n`. `sweep f` is the loop that runs `f i` for every
slot in order. When each turn rewrites slot `i` of some view of the state and leaves
the other slots of that view alone, the whole loop is a pointwise map.
-/

namespace UngulaNet.Slots
set_option autoImplicit false

universe u v
variable {S : Type u} {α : Type v} {n : Nat}

/-- The loop `for i in 0..n` with body `f`. -/
def sweep (f : Fin n → S → S) (s : S) : S :=
  (List.finRange n).foldl (fun s i => f i s) s

theorem foldl_invariant {P : S → Prop} {f : Fin n → S → S}
    (keep : ∀ i s, P s → P (f i s)) (l : List (Fin n)) {s : S} (hs : P s) :
    P (l.foldl (fun s i => f i s) s) := by
  induction l generalizing s with
  | nil => exact hs
  | cons i l ih => exact ih (keep i s hs)

theorem sweep_invariant (P : S → Prop) {f : Fin n → S → S}
    (keep : ∀ i s, P s → P (f i s)) {s : S} (hs : P s) : P (sweep f s) :=
  foldl_invariant keep _ hs

theorem foldl_slots {P : S → Prop} {f : Fin n → S → S} {view : S → Fin n → α}
    {g : Fin n → α → α} (keep : ∀ i s, P s → P (f i s))
    (own : ∀ i s, P s → view (f i s) = Function.update (view s) i (g i (view s i)))
    (l : List (Fin n)) (hl : l.Nodup) {s : S} (hs : P s) :
    view (l.foldl (fun s i => f i s) s) =
      fun j => if j ∈ l then g j (view s j) else view s j := by
  induction l generalizing s with
  | nil => simp
  | cons i l ih =>
    obtain ⟨hi, hl'⟩ := List.nodup_cons.mp hl
    rw [List.foldl_cons, ih hl' (keep i s hs), own i s hs]
    funext j
    by_cases hj : j = i
    · subst hj
      simp [hi]
    · simp [hj]

/-- A sweep whose turns each own one slot maps every slot once. -/
theorem sweep_slots (P : S → Prop) (view : S → Fin n → α) (f : Fin n → S → S)
    (g : Fin n → α → α) (keep : ∀ i s, P s → P (f i s))
    (own : ∀ i s, P s → view (f i s) = Function.update (view s) i (g i (view s i)))
    {s : S} (hs : P s) : view (sweep f s) = fun i => g i (view s i) := by
  rw [sweep, foldl_slots keep own _ (List.nodup_finRange n) hs]
  simp

section Distinct
variable {ι : Type v}

/-- No value stands in two places of a partial table. -/
def Distinct (t : ι → Option α) : Prop := ∀ i j a, t i = some a → t j = some a → i = j

theorem Distinct.of_imp {t t' : ι → Option α} (h : Distinct t)
    (himp : ∀ i a, t' i = some a → t i = some a) : Distinct t' :=
  fun i j a hi hj => h i j a (himp i a hi) (himp j a hj)

/-- A value that stands nowhere may be put anywhere. -/
theorem Distinct.update [DecidableEq ι] {t : ι → Option α} (h : Distinct t) {a : α}
    (ha : ∀ j, t j ≠ some a) (i : ι) : Distinct (Function.update t i (some a)) := by
  intro j k b hj hk
  by_cases hji : j = i <;> by_cases hki : k = i
  · rw [hji, hki]
  · subst hji
    obtain rfl : a = b := by simpa using hj
    rw [Function.update_of_ne hki] at hk
    exact absurd hk (ha k)
  · subst hki
    obtain rfl : a = b := by simpa using hk
    rw [Function.update_of_ne hji] at hj
    exact absurd hj (ha j)
  · rw [Function.update_of_ne hji] at hj
    rw [Function.update_of_ne hki] at hk
    exact h j k b hj hk

end Distinct

end UngulaNet.Slots
