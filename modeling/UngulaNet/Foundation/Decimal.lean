import Mathlib.Data.List.Basic
import Mathlib.Algebra.Group.Nat.Defs

/-!
# Decimal text

Numbers printed with a minimal width, as `printf("%0<width>d")` does, and the order of
such texts: fields of equal widths, one after the other, are compared as the list of
their numbers.
-/

namespace UngulaNet.Decimal
set_option autoImplicit false

def digit (d : Nat) : UInt8 := UInt8.ofNat (48 + d)

/-- The decimal digits, without leading zeros. -/
def decimal (n : Nat) : List UInt8 := (Nat.toDigits 10 n).map Char.toUInt8

/-- `printf("%0<width>d", n)`. -/
def printed (width n : Nat) : List UInt8 := (decimal n).leftpad width 48

/-- The last `width` digits. -/
def fixed : Nat → Nat → List UInt8
  | 0, _ => []
  | width + 1, n => fixed width (n / 10) ++ [digit (n % 10)]

def value (s : List UInt8) : Nat := s.foldl (fun v c => 10 * v + (c.toNat - 48)) 0

theorem digit_toNat {d : Nat} (h : d < 10) : (digit d).toNat = 48 + d := by
  rw [digit, UInt8.toNat_ofNat']
  omega

theorem digit_lt_iff {d e : Nat} (hd : d < 10) (he : e < 10) : digit d < digit e ↔ d < e := by
  rw [UInt8.lt_iff_toNat_lt, digit_toNat hd, digit_toNat he]
  omega

theorem digitChar_toUInt8 {d : Nat} (h : d < 10) : (Nat.digitChar d).toUInt8 = digit d := by
  have hall : ∀ e : Fin 10, (Nat.digitChar e.val).toUInt8 = digit e.val := by decide
  exact hall ⟨d, h⟩

theorem decimal_of_lt {n : Nat} (h : n < 10) : decimal n = [digit n] := by
  rw [decimal, Nat.toDigits_of_lt_base h, List.map_singleton, digitChar_toUInt8 h]

theorem decimal_of_ge {n : Nat} (h : 10 ≤ n) :
    decimal n = decimal (n / 10) ++ [digit (n % 10)] := by
  rw [decimal, Nat.toDigits_of_base_le (by omega) h, List.map_append, List.map_singleton,
    digitChar_toUInt8 (Nat.mod_lt n (by omega)), decimal]

@[simp] theorem length_fixed (width n : Nat) : (fixed width n).length = width := by
  induction width generalizing n with
  | zero => rfl
  | succ width ih => rw [fixed, List.length_append, ih, List.length_singleton]

theorem fixed_zero (width : Nat) : fixed width 0 = List.replicate width 48 := by
  induction width with
  | zero => rfl
  | succ width ih =>
    rw [fixed, ih, List.replicate_succ']
    rfl

theorem leftpad_snoc (width : Nat) (s : List UInt8) (c : UInt8) :
    (s ++ [c]).leftpad (width + 1) 48 = s.leftpad width 48 ++ [c] := by
  simp [List.leftpad]

/-- A number that fits its field is printed as its digits, with zeros before them. -/
theorem printed_eq {width n : Nat} (h : n < 10 ^ (width + 1)) :
    printed (width + 1) n = fixed (width + 1) n := by
  induction width generalizing n with
  | zero =>
    have hn : n < 10 := h
    rw [printed, decimal_of_lt hn, fixed, fixed, Nat.mod_eq_of_lt hn]
    rfl
  | succ width ih =>
    rw [printed, fixed]
    by_cases hn : n < 10
    · rw [decimal_of_lt hn, Nat.div_eq_of_lt hn, Nat.mod_eq_of_lt hn, fixed_zero]
      rfl
    · have hdiv : n / 10 < 10 ^ (width + 1) := by
        rw [Nat.pow_succ] at h
        omega
      rw [decimal_of_ge (Nat.not_lt.mp hn), leftpad_snoc, ← ih hdiv, printed]

/-- A number of exactly that many digits is printed as its digits. -/
theorem decimal_eq {width n : Nat} (hle : 10 ^ width ≤ n) (h : n < 10 ^ (width + 1)) :
    decimal n = fixed (width + 1) n := by
  induction width generalizing n with
  | zero =>
    have hn : n < 10 := h
    rw [decimal_of_lt hn, fixed, fixed, Nat.mod_eq_of_lt hn]
    rfl
  | succ width ih =>
    rw [Nat.pow_succ] at hle h
    have hpos : 0 < 10 ^ width := Nat.pow_pos (by omega)
    rw [fixed, decimal_of_ge (by omega), ih (by omega) (by omega)]

theorem value_snoc (s : List UInt8) (c : UInt8) :
    value (s ++ [c]) = 10 * value s + (c.toNat - 48) := by
  rw [value, List.foldl_append]
  rfl

theorem value_fixed {width n : Nat} (h : n < 10 ^ width) : value (fixed width n) = n := by
  induction width generalizing n with
  | zero => exact (Nat.lt_one_iff.mp h).symm
  | succ width ih =>
    have hlast := digit_toNat (Nat.mod_lt n (by omega : 10 > 0))
    rw [Nat.pow_succ] at h
    rw [fixed, value_snoc, ih (by omega), hlast]
    omega

section Order

/-- Texts of one length are compared by what they start with. -/
theorem append_lt_append_iff {s s' t t' : List UInt8} (h : s.length = s'.length) :
    s ++ t < s' ++ t' ↔ s < s' ∨ (s = s' ∧ t < t') := by
  induction s generalizing s' with
  | nil =>
    obtain rfl := List.eq_nil_of_length_eq_zero h.symm
    simp
  | cons c s ih =>
    cases s' with
    | nil => exact absurd h (Nat.succ_ne_zero _)
    | cons c' s' =>
      rw [List.cons_append, List.cons_append, List.cons_lt_cons_iff, List.cons_lt_cons_iff,
        ih (Nat.succ.inj h), List.cons.injEq]
      tauto

/-- So are sequences of fields, when each field has one width. -/
theorem flatten_lt_iff {fields fields' : List (List UInt8)}
    (h : List.Forall₂ (fun s s' => s.length = s'.length) fields fields') :
    fields.flatten < fields'.flatten ↔ fields < fields' := by
  induction h with
  | nil => exact iff_of_false (List.not_lt_nil _) (List.not_lt_nil _)
  | cons hlength _ ih =>
    rw [List.flatten_cons, List.flatten_cons, append_lt_append_iff hlength, ih,
      List.cons_lt_cons_iff]

variable {width n n' : Nat}

theorem fixed_inj (h : n < 10 ^ width) (h' : n' < 10 ^ width) :
    fixed width n = fixed width n' ↔ n = n' := by
  refine ⟨fun heq => ?_, fun heq => heq ▸ rfl⟩
  rw [← value_fixed h, heq, value_fixed h']

theorem fixed_lt_iff (h : n < 10 ^ width) (h' : n' < 10 ^ width) :
    fixed width n < fixed width n' ↔ n < n' := by
  induction width generalizing n n' with
  | zero =>
    have hn := Nat.lt_one_iff.mp h
    have hn' := Nat.lt_one_iff.mp h'
    exact iff_of_false (List.not_lt_nil _) (by omega)
  | succ width ih =>
    rw [Nat.pow_succ] at h h'
    have hlast := digit_lt_iff (Nat.mod_lt n (by omega)) (Nat.mod_lt n' (by omega))
    rw [fixed, fixed, append_lt_append_iff (by rw [length_fixed, length_fixed]),
      ih (by omega) (by omega), fixed_inj (by omega) (by omega), List.cons_lt_cons_iff, hlast]
    have hnil : ¬ ([] : List UInt8) < [] := List.not_lt_nil _
    simp only [hnil, and_false, or_false]
    omega

end Order
end UngulaNet.Decimal
