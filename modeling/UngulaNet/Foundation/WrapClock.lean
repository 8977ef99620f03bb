import Mathlib.Data.Nat.ModEq
import Mathlib.Tactic.Ring

/-!
# Clocks that wrap

True time is an unbounded natural number; a clock shows it modulo `M`. An unsigned
difference of two readings is exact up to `M`. A comparison `deadline ≤ now` of two
readings is exact only while no wrap of the clock lies between them, and
`deadline_le_iff` says for which readings it still gives the true answer.

The second half reads the clock as a `UInt32`.
-/

namespace UngulaNet.WrapClock
set_option autoImplicit false

variable {M : Nat}

/-- The unsigned difference of two readings is the elapsed time modulo `M`. -/
theorem sub_readings (hM : 0 < M) {s t : Nat} (h : s ≤ t) :
    (M - s % M + t % M) % M = (t - s) % M := by
  obtain ⟨d, rfl⟩ := Nat.exists_eq_add_of_le h
  have hs : s % M < M := Nat.mod_lt s hM
  have hsum : M - s % M + (s + d) % M ≡ d [MOD M] := by
    apply Nat.ModEq.add_right_cancel' (s % M)
    calc M - s % M + (s + d) % M + s % M
        = M + (s + d) % M := by omega
      _ ≡ 0 + (s + d) [MOD M] :=
          Nat.ModEq.add (by simp [Nat.ModEq]) (Nat.mod_modEq _ _)
      _ ≡ d + s % M [MOD M] := by
          rw [Nat.zero_add, Nat.add_comm s d]
          exact Nat.ModEq.add_left d (Nat.mod_modEq s M).symm
  rw [Nat.add_sub_cancel_left]
  exact hsum

/-- Two times between which the clock does not wrap. -/
def SameLap (M s t : Nat) : Prop := t / M = s / M

theorem SameLap.le_iff {s t : Nat} (h : SameLap M s t) : s % M ≤ t % M ↔ s ≤ t := by
  have hs := Nat.div_add_mod s M
  have ht := Nat.div_add_mod t M
  unfold SameLap at h
  rw [h] at ht
  omega

theorem lap_gap {s t : Nat} (h : s / M < t / M) : M * (s / M) + M ≤ M * (t / M) := by
  calc M * (s / M) + M = M * (s / M + 1) := by ring
    _ ≤ M * (t / M) := Nat.mul_le_mul_left M h

/-- The readings of a deadline `d` and of the present `t` compare as the true times
do: either no wrap separates them, or the deadline is past by a whole lap or more
and its reading happens to be the smaller one. -/
def DeadlineVisible (M d t : Nat) : Prop :=
  SameLap M d t ∨ (d + M ≤ t ∧ d % M ≤ t % M)

instance (M s t : Nat) : Decidable (SameLap M s t) := inferInstanceAs (Decidable (_ = _))

instance (M d t : Nat) : Decidable (DeadlineVisible M d t) := inferInstanceAs (Decidable (_ ∨ _))

theorem deadline_le_iff (hM : 0 < M) {d t : Nat} (hnear : d < t + M) :
    (d % M ≤ t % M ↔ d ≤ t) ↔ DeadlineVisible M d t := by
  have hd := Nat.div_add_mod d M
  have ht := Nat.div_add_mod t M
  have hdl := Nat.mod_lt d hM
  have htl := Nat.mod_lt t hM
  unfold DeadlineVisible SameLap
  rcases Nat.lt_trichotomy (d / M) (t / M) with hlt | heq | hgt
  · have hgap := lap_gap hlt
    constructor
    · intro h
      by_cases hle : d % M ≤ t % M
      · exact Or.inr ⟨by omega, hle⟩
      · omega
    · rintro (h | ⟨_, h⟩)
      · omega
      · omega
  · have hle : d % M ≤ t % M ↔ d ≤ t := SameLap.le_iff heq.symm
    exact ⟨fun _ => Or.inl heq.symm, fun _ => hle⟩
  · have hgap := lap_gap hgt
    constructor
    · intro h
      omega
    · rintro (h | ⟨h, _⟩)
      · omega
      · omega

/-- What a 32-bit millisecond counter shows at a true time. -/
def stamp (t : Nat) : UInt32 := UInt32.ofNat t

@[simp] theorem stamp_toNat (t : Nat) : (stamp t).toNat = t % 2 ^ 32 := by
  simp [stamp]

theorem stamp_add (t : Nat) (d : UInt32) : stamp t + d = stamp (t + d.toNat) := by
  apply UInt32.toNat_inj.mp
  simp [UInt32.toNat_add, Nat.add_mod]

theorem stamp_sub_toNat {s t : Nat} (h : s ≤ t) :
    (stamp t - stamp s).toNat = (t - s) % 2 ^ 32 := by
  rw [UInt32.toNat_sub, stamp_toNat, stamp_toNat]
  exact sub_readings (by decide) h

theorem stamp_sub_toNat_of_lt {s t : Nat} (h : s ≤ t) (hlap : t - s < 2 ^ 32) :
    (stamp t - stamp s).toNat = t - s := by
  rw [stamp_sub_toNat h, Nat.mod_eq_of_lt hlap]

theorem stamp_le_iff (s t : Nat) : stamp s ≤ stamp t ↔ s % 2 ^ 32 ≤ t % 2 ^ 32 := by
  rw [UInt32.le_iff_toNat_le, stamp_toNat, stamp_toNat]

theorem SameLap.sub_lt {s t : Nat} (h : SameLap (2 ^ 32) s t) : t - s < 2 ^ 32 := by
  unfold SameLap at h
  omega

/-- The reading `n` was taken before the reading `t`, by less than half a lap. -/
def Earlier (n t : UInt32) : Prop := 0 < t - n ∧ t - n < 0x80000000

instance (n t : UInt32) : Decidable (Earlier n t) := inferInstanceAs (Decidable (_ ∧ _))

/-- The unsigned difference of readings in the wrong order is more than half a lap. -/
theorem Earlier.sub_gt {n t : UInt32} (h : Earlier n t) : 0x80000000 < n - t := by
  obtain ⟨hpos, hnear⟩ := h
  have hn := n.toNat_lt
  have ht := t.toNat_lt
  have hhalf : (0x80000000 : UInt32).toNat = 2 ^ 31 := rfl
  rw [UInt32.lt_iff_toNat_lt, UInt32.toNat_sub] at hpos hnear ⊢
  rw [UInt32.toNat_zero] at hpos
  rw [hhalf] at hnear ⊢
  omega

end UngulaNet.WrapClock
