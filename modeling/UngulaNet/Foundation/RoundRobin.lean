import Mathlib.Data.List.Infix

/-!
# Round robin on a counter that wraps

A scheduler that keeps a counter modulo `M` and serves the slot `counter % n` restarts
early whenever the counter wraps, unless `n` divides `M`. It still serves every slot in
every `2 * n - 1` consecutive turns.
-/

namespace UngulaNet.RoundRobin
set_option autoImplicit false

variable {M n : Nat}

def slot (M n k : Nat) : Nat := k % M % n

theorem slot_lt (hn : 0 < n) (k : Nat) : slot M n k < n := Nat.mod_lt _ hn

/-- Before the counter wraps, a turn at distance `d` serves the slot `d` places on. -/
theorem slot_add (start : Nat) {d : Nat} (h : start % M + d < M) :
    slot M n (start + d) = (start % M + d) % n := by
  rw [slot, Nat.add_mod, Nat.mod_eq_of_lt (Nat.lt_of_le_of_lt (Nat.le_add_left d _) h),
    Nat.mod_eq_of_lt h]

/-- After the wrap the slots come in order from 0. -/
theorem slot_after_wrap (hnM : n ≤ M) (start : Nat) {i : Nat} (hi : i < n) :
    slot M n (start + (M - start % M + i)) = i := by
  have hM : 0 < M := by omega
  have hlt : start % M < M := Nat.mod_lt _ hM
  have hsum : start + (M - start % M + i) = i + M * (start / M + 1) := by
    have hdiv := Nat.div_add_mod start M
    rw [Nat.mul_add, Nat.mul_one]
    omega
  rw [slot, hsum, Nat.add_mul_mod_self_left, Nat.mod_eq_of_lt (Nat.lt_of_lt_of_le hi hnM),
    Nat.mod_eq_of_lt hi]

theorem exists_distance (hn : 0 < n) (a : Nat) {i : Nat} (hi : i < n) :
    ∃ d < n, (a + d) % n = i := by
  have hr : a % n < n := Nat.mod_lt _ hn
  have hdiv := Nat.div_add_mod a n
  by_cases hle : a % n ≤ i
  · refine ⟨i - a % n, by omega, ?_⟩
    have hsum : a + (i - a % n) = i + n * (a / n) := by omega
    rw [hsum, Nat.add_mul_mod_self_left, Nat.mod_eq_of_lt hi]
  · refine ⟨i + n - a % n, by omega, ?_⟩
    have hsum : a + (i + n - a % n) = i + n + n * (a / n) := by omega
    rw [hsum, Nat.add_mul_mod_self_left, Nat.add_mod_right, Nat.mod_eq_of_lt hi]

/-- Every slot is served in every `2 * n - 1` consecutive turns. -/
theorem exists_turn (hn : 0 < n) (hnM : n ≤ M) (start : Nat) {i : Nat} (hi : i < n) :
    ∃ k, start ≤ k ∧ k < start + (2 * n - 1) ∧ slot M n k = i := by
  obtain ⟨d, hd, hserves⟩ := exists_distance hn (start % M) hi
  by_cases hwrap : start % M + d < M
  · exact ⟨start + d, by omega, by omega, (slot_add start hwrap).trans hserves⟩
  · -- the wrap comes first, and less than `n` turns from here
    exact ⟨start + (M - start % M + i), by omega, by omega, slot_after_wrap hnM start hi⟩

def turns (M n start count : Nat) : List Nat := (List.range' start count).map (slot M n)

theorem mem_turns {start count k : Nat} (hstart : start ≤ k) (hk : k < start + count) :
    slot M n k ∈ turns M n start count :=
  List.mem_map_of_mem (by simp only [List.mem_range'_1]; omega)

/-- A stretch of the served slots is again what some turns in a row serve. -/
theorem turns_of_infix {start count : Nat} {window : List Nat}
    (h : window <:+: turns M n start count) : ∃ k, window = turns M n k window.length := by
  obtain ⟨before, after, heq⟩ := h
  refine ⟨start + before.length, List.ext_getElem (by simp [turns]) ?_⟩
  intro j hj _
  have hget : (turns M n start count)[before.length + j]? = some window[j] := by
    rw [← heq, List.append_assoc, List.getElem?_append_right (Nat.le_add_right _ _),
      Nat.add_sub_cancel_left, List.getElem?_append_left hj, List.getElem?_eq_getElem hj]
  obtain ⟨_, hval⟩ := List.getElem?_eq_some_iff.mp hget
  rw [← hval]
  simp [turns, Nat.add_assoc]

theorem mem_of_infix_turns (hn : 0 < n) (hnM : n ≤ M) {start count : Nat} {window : List Nat}
    (h : window <:+: turns M n start count) (hlen : window.length = 2 * n - 1) {i : Nat}
    (hi : i < n) : i ∈ window := by
  obtain ⟨k, hwindow⟩ := turns_of_infix h
  obtain ⟨turn, hfrom, hto, hserves⟩ := exists_turn hn hnM k hi
  rw [hwindow, hlen, ← hserves]
  exact mem_turns hfrom hto

end UngulaNet.RoundRobin
