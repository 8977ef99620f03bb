import Mathlib.Logic.Basic

/-!
# Positions in a sequence of blocks

The natural numbers cut into blocks of the lengths `len 0, len 1, ...`. A position is a
block and a place in it. `locate` finds it by walking over the blocks, and positions come
in the order of the numbers. Days in years and days in months are both of this kind.
-/

namespace UngulaNet.Blocks
set_option autoImplicit false

variable (len : Nat → Nat)

/-- The sum of the lengths of the first `k` blocks. -/
def before : Nat → Nat
  | 0 => 0
  | k + 1 => before k + len k

def locateFrom : Nat → Nat → Nat → Nat × Nat
  | 0, k, n => (k, n)
  | fuel + 1, k, n => if n < len k then (k, n) else locateFrom fuel (k + 1) (n - len k)

/-- The block of `n`, and the place of `n` in it. Each block takes at least one number. -/
def locate (n : Nat) : Nat × Nat := locateFrom len (n + 1) 0 n

variable {len}

theorem before_mono {k k' : Nat} (h : k ≤ k') : before len k ≤ before len k' := by
  induction h with
  | refl => exact Nat.le_refl _
  | step _ ih => exact Nat.le_trans ih (Nat.le_add_right _ _)

theorem locateFrom_spec (hpos : ∀ k, 0 < len k) {fuel n : Nat} (hfuel : n < fuel) (k : Nat) :
    let p := locateFrom len fuel k n
    before len p.1 + p.2 = before len k + n ∧ p.2 < len p.1 := by
  induction fuel generalizing k n with
  | zero => exact absurd hfuel (Nat.not_lt_zero n)
  | succ fuel ih =>
    rw [locateFrom]
    by_cases hn : n < len k
    · rw [if_pos hn]
      exact ⟨rfl, hn⟩
    · have hk := hpos k
      obtain ⟨hsum, hlt⟩ := @ih (n - len k) (by omega) (k + 1)
      rw [if_neg hn]
      refine ⟨?_, hlt⟩
      rw [hsum, before]
      omega

theorem locate_spec (hpos : ∀ k, 0 < len k) (n : Nat) :
    before len (locate len n).1 + (locate len n).2 = n ∧
      (locate len n).2 < len (locate len n).1 := by
  obtain ⟨hsum, hlt⟩ := locateFrom_spec hpos (Nat.lt_succ_self n) 0
  exact ⟨hsum.trans (Nat.zero_add n), hlt⟩

/-- Positions come in the order of their blocks, and within a block in the order of their
places. -/
theorem position_lt_iff {k k' r r' : Nat} (hr : r < len k) (hr' : r' < len k') :
    before len k + r < before len k' + r' ↔ k < k' ∨ (k = k' ∧ r < r') := by
  rcases Nat.lt_trichotomy k k' with hlt | rfl | hgt
  · have hnext : before len (k + 1) ≤ before len k' := before_mono hlt
    rw [before] at hnext
    exact iff_of_true (by omega) (Or.inl hlt)
  · omega
  · have hnext : before len (k' + 1) ≤ before len k := before_mono hgt
    rw [before] at hnext
    exact iff_of_false (by omega) (by omega)

/-- A number below the first `k` blocks is in one of them. -/
theorem locate_lt (hpos : ∀ k, 0 < len k) {n k : Nat} (h : n < before len k) :
    (locate len n).1 < k := by
  obtain ⟨hsum, _⟩ := locate_spec hpos n
  rcases Nat.lt_or_ge (locate len n).1 k with hlt | hge
  · exact hlt
  · have hmono : before len k ≤ before len (locate len n).1 := before_mono hge
    omega

theorem locate_lt_iff (hpos : ∀ k, 0 < len k) (n n' : Nat) : n < n' ↔
    (locate len n).1 < (locate len n').1 ∨
      ((locate len n).1 = (locate len n').1 ∧ (locate len n).2 < (locate len n').2) := by
  obtain ⟨hsum, hlt⟩ := locate_spec hpos n
  obtain ⟨hsum', hlt'⟩ := locate_spec hpos n'
  rw [← position_lt_iff hlt hlt', hsum, hsum']

end UngulaNet.Blocks
