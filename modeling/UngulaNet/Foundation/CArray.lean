import Mathlib.Data.List.Basic

/-!
# Arrays of a fixed size, filled from the front

An array of `n` cells whose reads and writes are checked: `none` is an access outside it.
The two loops are those of a table that keeps its entries in the cells below a count: the
search for an entry, and the shift that closes the gap of a removed one.
-/

namespace UngulaNet
set_option autoImplicit false

@[ext] structure CArray (α : Type) (n : Nat) where
  cells : List α
  length_eq : cells.length = n

namespace CArray
variable {α : Type} {n : Nat}

def replicate (n : Nat) (x : α) : CArray α n := ⟨List.replicate n x, List.length_replicate⟩

def read (a : CArray α n) (i : Nat) : Option α := a.cells[i]?

def write (a : CArray α n) (i : Nat) (x : α) : Option (CArray α n) :=
  if i < n then some ⟨a.cells.set i x, by rw [List.length_set, a.length_eq]⟩ else none

/-- A write that is inside by its index. -/
def set (a : CArray α n) (i : Fin n) (x : α) : CArray α n :=
  ⟨a.cells.set i x, by rw [List.length_set, a.length_eq]⟩

/-- `for (; left > 0; ++idx, --left) if (a[idx] == x) return idx;` -/
def findFrom [DecidableEq α] (a : CArray α n) (x : α) (idx : Nat) : Nat → Option (Option Nat)
  | 0 => some none
  | left + 1 => do
    let y ← a.read idx
    if y = x then some (some idx) else a.findFrom x (idx + 1) left

/-- `for (; left > 0; ++jdx, --left) a[jdx] = a[jdx + 1];` -/
def shiftFrom (a : CArray α n) (jdx : Nat) : Nat → Option (CArray α n)
  | 0 => some a
  | left + 1 => do
    let y ← a.read (jdx + 1)
    let a ← a.write jdx y
    a.shiftFrom (jdx + 1) left

/-- The entries in the first `count` cells. -/
def filled (a : CArray α n) (count : Nat) : List α := a.cells.take count

theorem filled_length (a : CArray α n) {count : Nat} (h : count ≤ n) :
    (a.filled count).length = count := by
  rw [filled, List.length_take, a.length_eq, Nat.min_eq_left h]

@[simp] theorem filled_zero (a : CArray α n) : a.filled 0 = [] := rfl

theorem read_eq (a : CArray α n) {i : Nat} (h : i < a.cells.length) :
    a.read i = some a.cells[i] :=
  List.getElem?_eq_getElem h

/-- A read below the count finds an entry. -/
theorem read_filled (a : CArray α n) {i count : Nat} (h : i < count) :
    a.read i = (a.filled count)[i]? := by
  rw [filled, List.getElem?_take, if_pos h, read]

theorem cells_set (a : CArray α n) (i : Fin n) (x : α) :
    (a.set i x).cells = a.cells.take i ++ x :: a.cells.drop (i + 1) := by
  have hi : i < a.cells.length := by
    rw [a.length_eq]
    exact i.isLt
  exact List.set_eq_take_append_cons_drop.trans (if_pos hi)

theorem write_spec (a : CArray α n) {i : Nat} (h : i < n) (x : α) :
    ∃ b, a.write i x = some b ∧ b.cells = a.cells.take i ++ x :: a.cells.drop (i + 1) :=
  ⟨a.set ⟨i, h⟩ x, if_pos h, a.cells_set ⟨i, h⟩ x⟩

theorem write_push (a : CArray α n) {count : Nat} (h : count < n) (x : α) :
    ∃ b, a.write count x = some b ∧ b.filled (count + 1) = a.filled count ++ [x] := by
  obtain ⟨b, hwrite, hcells⟩ := a.write_spec h x
  refine ⟨b, hwrite, ?_⟩
  have hfront : (a.cells.take count ++ [x]).length = count + 1 := by
    rw [List.length_append, List.length_singleton, ← filled, a.filled_length (Nat.le_of_lt h)]
  rw [filled, hcells, List.append_cons, List.take_left' hfront]
  rfl

section Find
variable [DecidableEq α]

theorem findFrom_eq (a : CArray α n) (x : α) {idx left : Nat} (h : idx + left ≤ n) :
    a.findFrom x idx left =
      some ((((a.cells.drop idx).take left).idxOf? x).map (· + idx)) := by
  induction left generalizing idx with
  | zero => rfl
  | succ left ih =>
    have hidx : idx < a.cells.length := by
      rw [a.length_eq]
      omega
    rw [findFrom, read_eq a hidx, List.drop_eq_getElem_cons hidx, List.take_succ_cons,
      List.idxOf?_cons]
    by_cases heq : a.cells[idx] = x
    · simp [heq]
    · rw [Option.bind_eq_bind, Option.bind_some, if_neg heq, ih (by omega)]
      simp [heq, Nat.add_comm 1 idx, Nat.add_assoc, Function.comp_def]

/-- The search below the count finds the first entry that is `x`. -/
theorem find_filled (a : CArray α n) (x : α) {count : Nat} (h : count ≤ n) :
    a.findFrom x 0 count = some ((a.filled count).idxOf? x) := by
  rw [a.findFrom_eq x (by omega), List.drop_zero]
  exact congrArg some Option.map_id'

end Find

theorem eraseIdx_take_succ (l : List α) (i : Nat) : (l.take (i + 1)).eraseIdx i = l.take i := by
  apply List.ext_getElem?
  intro j
  rw [List.getElem?_eraseIdx, List.getElem?_take, List.getElem?_take, List.getElem?_take]
  by_cases hj : j < i
  · rw [if_pos hj, if_pos (by omega), if_pos hj]
  · rw [if_neg hj, if_neg (by omega), if_neg hj]

theorem set_eraseIdx_succ (l : List α) {i : Nat} (h : i + 1 < l.length) :
    (l.set i l[i + 1]).eraseIdx (i + 1) = l.eraseIdx i := by
  apply List.ext_getElem?
  intro j
  rw [List.getElem?_eraseIdx, List.getElem?_eraseIdx]
  rcases Nat.lt_trichotomy j i with hlt | heq | hgt
  · rw [if_pos (by omega), if_pos hlt, List.getElem?_set_ne (by omega)]
  · subst heq
    rw [if_pos (by omega), if_neg (by omega), List.getElem?_set_self (by omega),
      List.getElem?_eq_getElem h]
  · rw [if_neg (by omega), if_neg (by omega), List.getElem?_set_ne (by omega)]

/-- The shift moves the entries after `idx` down by one. -/
theorem shiftFrom_eq (a : CArray α n) {idx left : Nat} (h : idx + left < n) :
    ∃ b, a.shiftFrom idx left = some b ∧
      b.filled (idx + left) = (a.filled (idx + left + 1)).eraseIdx idx := by
  induction left generalizing a idx with
  | zero => exact ⟨a, rfl, (eraseIdx_take_succ a.cells idx).symm⟩
  | succ left ih =>
    have hnext : idx + 1 < a.cells.length := by
      rw [a.length_eq]
      omega
    have hwrite : a.write idx a.cells[idx + 1] = some ⟨a.cells.set idx a.cells[idx + 1], _⟩ :=
      if_pos (by omega)
    have hrest : idx + 1 + left < n := by omega
    obtain ⟨b, hb, hfilled⟩ := ih ⟨a.cells.set idx a.cells[idx + 1], by
      rw [List.length_set, a.length_eq]⟩ hrest
    refine ⟨b, ?_, ?_⟩
    · rw [shiftFrom, read_eq a hnext, Option.bind_eq_bind, Option.bind_some, hwrite]
      exact hb
    · have hlast : idx + (left + 1) = idx + 1 + left := by omega
      have htake : idx + 1 < (a.cells.take (idx + 1 + left + 1)).length := by
        rw [List.length_take, a.length_eq]
        omega
      rw [hlast, hfilled, filled, filled, List.take_set]
      have hget : a.cells[idx + 1] = (a.cells.take (idx + 1 + left + 1))[idx + 1] := by simp
      rw [hget, set_eraseIdx_succ _ htake]

/-- Closing the gap of a found entry removes its first occurrence. -/
theorem shift_found [DecidableEq α] (a : CArray α n) {x : α} {idx count : Nat} (h : count ≤ n)
    (hx : (a.filled count).idxOf? x = some idx) :
    0 < count ∧ ∃ b, a.shiftFrom idx (count - 1 - idx) = some b ∧
      b.filled (count - 1) = (a.filled count).erase x := by
  have hidx : idx < count := by
    have hlt := (List.idxOf?_eq_some_iff.mp hx).1
    rwa [filled_length a h] at hlt
  have hin : idx + (count - 1 - idx) < n := by omega
  obtain ⟨b, hb, hfilled⟩ := a.shiftFrom_eq hin
  refine ⟨by omega, b, hb, ?_⟩
  rw [show idx + (count - 1 - idx) = count - 1 by omega] at hfilled
  rw [hfilled, show count - 1 + 1 = count by omega, List.erase_eq_eraseIdx, hx]

end CArray
end UngulaNet
