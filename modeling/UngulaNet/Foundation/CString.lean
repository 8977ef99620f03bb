import Mathlib.Data.List.Infix
import Mathlib.Data.List.TakeWhile
import UngulaNet.Foundation.CArray

/-!
# C strings and character buffers

A C string is its bytes before the terminating NUL. A buffer of `n` characters holds the
string up to its first NUL.
-/

namespace UngulaNet
set_option autoImplicit false

/-- The bytes of a NUL-terminated string. -/
abbrev CString : Type := { s : List UInt8 // 0 ∉ s }

namespace CString

def sublist (s : CString) {t : List UInt8} (h : t.Sublist s.val) : CString :=
  ⟨t, fun h0 => s.property (h.subset h0)⟩

def take (s : CString) (k : Nat) : CString := s.sublist (s.val.take_sublist k)

def drop (s : CString) (k : Nat) : CString := s.sublist (s.val.drop_sublist k)

/-- `strchr`, as an index, for a character other than NUL. -/
def strchr (s : CString) (c : UInt8) : Option Nat := s.val.idxOf? c

theorem strchr_none {s : CString} {c : UInt8} (h : c ∉ s.val) : s.strchr c = none :=
  List.idxOf?_eq_none_iff.mpr h

theorem strchr_append {s : CString} {c : UInt8} {front back : List UInt8}
    (h : s.val = front ++ c :: back) (hfront : c ∉ front) : s.strchr c = some front.length := by
  rw [strchr, h]
  refine List.idxOf?_eq_some_iff.mpr ⟨by simp, by simp, ?_⟩
  intro j hj hget
  rw [List.getElem_append_left hj] at hget
  exact hfront (hget ▸ List.getElem_mem hj)

theorem strchr_some {s : CString} {c : UInt8} {i : Nat} (h : s.strchr c = some i) :
    s.val = s.val.take i ++ c :: s.val.drop (i + 1) ∧ c ∉ s.val.take i := by
  obtain ⟨hi, hget, hbefore⟩ := List.idxOf?_eq_some_iff.mp h
  constructor
  · rw [← hget, List.getElem_cons_drop, List.take_append_drop]
  · intro hmem
    obtain ⟨j, hj, hc⟩ := List.mem_iff_getElem.mp hmem
    rw [List.length_take] at hj
    rw [List.getElem_take] at hc
    exact hbefore j (by omega) hc

theorem strchr_isSome {s : CString} {c : UInt8} : (s.strchr c).isSome = true ↔ c ∈ s.val := by
  rw [strchr, List.isSome_idxOf?]

/-- `strncmp(s, t, n) == 0`. -/
def strncmp (s t : CString) (n : Nat) : Bool := s.val.take n = t.val.take n

theorem strncmp_length {s t : CString} : s.strncmp t t.val.length = true ↔ t.val <+: s.val := by
  rw [strncmp, decide_eq_true_iff, List.take_length, List.prefix_iff_eq_take]
  exact eq_comm

/-- `strstr`, as an index. -/
def strstr (s needle : CString) : Option Nat :=
  s.val.tails.findIdx? fun back => needle.val.isPrefixOf back

theorem strstr_isSome {s needle : CString} :
    (s.strstr needle).isSome = true ↔ needle.val <:+: s.val := by
  simp only [strstr, List.findIdx?_isSome, List.any_eq_true, List.mem_tails,
    List.isPrefixOf_iff_prefix, List.infix_iff_prefix_suffix]
  constructor
  · rintro ⟨back, hback, hneedle⟩
    exact ⟨back, hneedle, hback⟩
  · rintro ⟨back, hneedle, hback⟩
    exact ⟨back, hback, hneedle⟩

/-- One call of `strtok_r`: the next token, and what it saves for the next call. -/
def strtok (s : CString) (delim : UInt8) : Option (CString × CString) :=
  let rest := s.sublist (s.val.dropWhile_sublist (· == delim))
  if rest.val = [] then none
  else
    let len := (rest.strchr delim).getD rest.val.length
    some (rest.take len, rest.drop (len + 1))

/-! ## Tokens -/

/-- What stands between the delimiters, without the empty pieces. -/
def pieces (s : List UInt8) (delim : UInt8) : List (List UInt8) :=
  (s.splitOn delim).filter (· ≠ [])

theorem pieces_cons_delim (s : List UInt8) (delim : UInt8) :
    pieces (delim :: s) delim = pieces s delim := by
  rw [pieces, List.splitOn_cons_eq_if_modifyHead, if_pos (beq_self_eq_true delim)]
  rfl

/-- The delimiters in front count for nothing. -/
theorem pieces_dropWhile (s : List UInt8) (delim : UInt8) :
    pieces (s.dropWhile (· == delim)) delim = pieces s delim := by
  induction s with
  | nil => rfl
  | cons c s ih =>
    by_cases hc : c = delim
    · have hdrop : (c :: s).dropWhile (· == delim) = s.dropWhile (· == delim) :=
        List.dropWhile_cons_of_pos (beq_iff_eq.mpr hc)
      rw [hdrop, ih, hc, pieces_cons_delim]
    · rw [List.dropWhile_cons_of_neg (by simpa using hc)]

theorem pieces_token {s : CString} {delim : UInt8} (h : s.val ≠ [])
    (hhead : s.val.head? ≠ some delim) :
    let len := (s.strchr delim).getD s.val.length
    pieces s.val delim = (s.take len).val :: pieces (s.drop (len + 1)).val delim := by
  intro len
  cases hfound : s.strchr delim with
  | none =>
    have hplain : delim ∉ s.val := by
      rw [← strchr_isSome, hfound]
      exact Bool.false_ne_true
    have hlen : len = s.val.length := by simp only [len, hfound, Option.getD_none]
    have htake : (s.take len).val = s.val := List.take_of_length_le (by omega)
    have hdrop : (s.drop (len + 1)).val = [] := List.drop_of_length_le (by omega)
    rw [htake, hdrop, pieces, List.splitOn_eq_singleton hplain]
    simp [pieces, h]
  | some i =>
    have hlen : len = i := by simp only [len, hfound, Option.getD_some]
    obtain ⟨hcut, hplain⟩ := strchr_some hfound
    have hne : s.val.take i ≠ [] := by
      intro hnil
      rw [hnil] at hcut
      exact hhead (by rw [hcut]; rfl)
    rw [hlen]
    have hsplit : s.val.splitOn delim =
        s.val.take i :: (s.val.drop (i + 1)).splitOn delim := by
      rw [← List.splitOn_append_cons_self_of_not_mem hplain, ← hcut]
    rw [pieces, hsplit, List.filter_cons_of_pos (by simpa using hne)]
    rfl

/-- A token is the first piece, and what is saved for the next call has the others. -/
theorem strtok_spec (s : CString) (delim : UInt8) :
    (s.strtok delim = none ∧ pieces s.val delim = []) ∨
      ∃ token rest, s.strtok delim = some (token, rest) ∧
        pieces s.val delim = token.val :: pieces rest.val delim ∧
        rest.val.length < s.val.length := by
  rw [← pieces_dropWhile s.val delim]
  let back := s.sublist (s.val.dropWhile_sublist (· == delim))
  by_cases h : back.val = []
  · refine Or.inl ⟨if_pos h, ?_⟩
    change pieces back.val delim = []
    rw [h]
    simp [pieces]
  · have hhead : back.val.head? ≠ some delim := by
      intro hhead
      have hnot : (back.val.head h == delim) = false := List.head_dropWhile_not (· == delim) h
      rw [(List.head_eq_iff_head?_eq_some h).mpr hhead, beq_self_eq_true] at hnot
      exact Bool.noConfusion hnot
    have hlength : back.val.length ≤ s.val.length := (s.val.dropWhile_sublist _).length_le
    refine Or.inr ⟨_, _, if_neg h, pieces_token h hhead, ?_⟩
    have hpos := List.length_pos_iff.mpr h
    have hdrop : ∀ k, (back.drop (k + 1)).val.length < back.val.length := by
      intro k
      simp only [drop, sublist, List.length_drop]
      omega
    exact Nat.lt_of_lt_of_le (hdrop _) hlength

end CString

namespace CArray
variable {n : Nat}

/-- The string in a buffer. -/
def cstr (a : CArray UInt8 n) : CString :=
  ⟨a.cells.takeWhile (· != 0), fun h => by simpa using List.mem_takeWhile_imp h⟩

theorem cstr_eq {a : CArray UInt8 n} {s : CString} (rest : List UInt8)
    (h : a.cells = s.val ++ 0 :: rest) : a.cstr = s := by
  have hplain : ∀ c ∈ s.val, (c != 0) = true := by
    intro c hc
    exact bne_iff_ne.mpr fun h0 => s.property (h0 ▸ hc)
  have hbytes : a.cells.takeWhile (· != 0) = s.val := by
    rw [h, List.takeWhile_append_of_pos hplain, List.takeWhile_cons_of_neg (by decide),
      List.append_nil]
  exact Subtype.ext hbytes

/-- The string in the buffer ends inside it. -/
def Terminated (a : CArray UInt8 n) : Prop := 0 ∈ a.cells

theorem Terminated.cells_eq {a : CArray UInt8 n} (h : a.Terminated) :
    ∃ rest, a.cells = a.cstr.val ++ 0 :: rest := by
  obtain ⟨front, rest, hcells, hfront⟩ := List.eq_append_cons_of_mem h
  have hcstr : a.cstr = ⟨front, hfront⟩ := cstr_eq rest hcells
  exact ⟨rest, by rw [hcstr]; exact hcells⟩

/-- The string in a buffer of `n + 1` characters has at most `n`. -/
theorem Terminated.length_le {a : CArray UInt8 (n + 1)} (h : a.Terminated) :
    a.cstr.val.length ≤ n := by
  obtain ⟨rest, hcells⟩ := h.cells_eq
  have hlength := congrArg List.length hcells
  rw [a.length_eq, List.length_append, List.length_cons] at hlength
  omega

/-- Setting the last character to NUL keeps a string that ends in the buffer. -/
theorem Terminated.cstr_set_last {a : CArray UInt8 (n + 1)} (h : a.Terminated) :
    (a.set (Fin.last n) 0).cstr = a.cstr := by
  obtain ⟨rest, hcells⟩ := h.cells_eq
  have hset : (a.set (Fin.last n) 0).cells =
      a.cstr.val ++ (0 :: rest).set (n - a.cstr.val.length) 0 := by
    change a.cells.set n 0 = _
    rw [hcells, List.set_append_right n 0 h.length_le]
  cases hlast : n - a.cstr.val.length with
  | zero =>
    rw [hlast, List.set_cons_zero] at hset
    exact cstr_eq rest hset
  | succ k =>
    rw [hlast, List.set_cons_succ] at hset
    exact cstr_eq (rest.set k 0) hset

/-- `strncpy(a, src, sizeof(a) - 1)`: the source cut to fit, NULs up to the last cell, and
the last cell as it was. -/
def strncpy (a : CArray UInt8 (n + 1)) (src : CString) : CArray UInt8 (n + 1) :=
  ⟨(src.val.take n).rightpad n 0 ++ a.cells.drop n, by
    simp [List.rightpad, a.length_eq]
    omega⟩

theorem replicate_drop_last (n : Nat) :
    (CArray.replicate (n + 1) (0 : UInt8)).cells.drop n = [0] := by
  simp [CArray.replicate]

theorem cells_strncpy (a : CArray UInt8 (n + 1)) (src : CString) :
    (a.strncpy src).cells =
      (src.take n).val ++ List.replicate (n - (src.take n).val.length) 0 ++ a.cells.drop n :=
  rfl

/-- A copy into a buffer whose last cell is NUL. -/
theorem cstr_strncpy {a : CArray UInt8 (n + 1)} (h : a.cells.drop n = [0]) (src : CString) :
    (a.strncpy src).cstr = src.take n := by
  refine cstr_eq (List.replicate (n - (src.take n).val.length) 0) ?_
  rw [cells_strncpy, h, List.append_assoc, ← List.replicate_succ', List.replicate_succ]

theorem strncpy_terminated {a : CArray UInt8 (n + 1)} (h : a.cells.drop n = [0])
    (src : CString) : (a.strncpy src).Terminated := by
  rw [Terminated, cells_strncpy, h]
  exact List.mem_append_right _ List.mem_cons_self

/-- A copy whose last cell is then set to NUL. -/
theorem strncpy_write (a : CArray UInt8 (n + 1)) (src : CString) :
    ∃ b, (a.strncpy src).write n 0 = some b ∧ b.cstr = src.take n := by
  obtain ⟨b, hwrite, hcells⟩ := (a.strncpy src).write_spec (Nat.lt_succ_self n) 0
  refine ⟨b, hwrite, cstr_eq (List.replicate (n - (src.take n).val.length) 0) ?_⟩
  have htake : (src.take n).val.length ≤ n := List.length_take_le n src.val
  have hlength : ((src.take n).val ++ List.replicate (n - (src.take n).val.length) 0).length =
      n := by
    rw [List.length_append, List.length_replicate]
    omega
  have hend : (a.strncpy src).cells.drop (n + 1) = [] :=
    List.drop_of_length_le (Nat.le_of_eq (a.strncpy src).length_eq)
  rw [hcells, hend, cells_strncpy, List.take_left' hlength, List.append_assoc,
    ← List.replicate_succ', List.replicate_succ]

/-- `memcpy(a, src, len)`, `none` when it runs over the end. -/
def memcpy {α : Type} (a : CArray α n) (src : List α) : Option (CArray α n) :=
  if h : src.length ≤ n then
    some ⟨src ++ a.cells.drop src.length, by
      rw [List.length_append, List.length_drop, a.length_eq]
      omega⟩
  else none

theorem memcpy_spec {α : Type} (a : CArray α n) {src : List α} (h : src.length ≤ n) :
    ∃ b, a.memcpy src = some b ∧ b.cells = src ++ a.cells.drop src.length :=
  ⟨_, dif_pos h, rfl⟩

/-- `memcpy(a + off, src, len)`, `none` when it reads or writes over the end. -/
def memcpyAt {α : Type} (a : CArray α n) (off : Nat) (src : List α) (len : Nat) :
    Option (CArray α n) :=
  if h : len ≤ src.length ∧ off + len ≤ n then
    some ⟨a.cells.take off ++ src.take len ++ a.cells.drop (off + len), by
      simp only [List.length_append, List.length_take, List.length_drop, a.length_eq]
      omega⟩
  else none

theorem memcpyAt_spec {α : Type} (a : CArray α n) {off len : Nat} {src : List α}
    (hsrc : len ≤ src.length) (hdst : off + len ≤ n) :
    ∃ b, a.memcpyAt off src len = some b ∧
      b.cells = a.cells.take off ++ src.take len ++ a.cells.drop (off + len) :=
  ⟨_, dif_pos ⟨hsrc, hdst⟩, rfl⟩

/-! ## Buffers with NULs after their contents -/

/-- The buffer that holds these bytes as far as they fit, and NULs. -/
def ofBytes (n : Nat) (s : List UInt8) : CArray UInt8 n :=
  ⟨(s.take n).rightpad n 0, by
    rw [List.rightpad, List.length_append, List.length_replicate, List.length_take]
    omega⟩

section OfBytes
variable {s : List UInt8}

theorem cells_ofBytes (h : s.length ≤ n) :
    (ofBytes n s).cells = s ++ List.replicate (n - s.length) 0 := by
  change (s.take n).rightpad n 0 = _
  rw [List.take_of_length_le h, List.rightpad]

/-- NULs after the contents make no difference. -/
theorem ofBytes_append_nuls {k : Nat} (h : s.length + k ≤ n) :
    ofBytes n (s ++ List.replicate k 0) = ofBytes n s := by
  have hlength : (s ++ List.replicate k 0).length = s.length + k := by
    rw [List.length_append, List.length_replicate]
  refine CArray.ext ?_
  rw [cells_ofBytes (by omega), cells_ofBytes (by omega), hlength, List.append_assoc,
    List.replicate_append_replicate]
  exact congrArg (fun m => s ++ List.replicate m 0) (by omega)

theorem cells_ofBytes_nul (h : s.length < n) :
    (ofBytes n s).cells = s ++ 0 :: List.replicate (n - s.length - 1) 0 := by
  have hnuls : n - s.length = n - s.length - 1 + 1 := by omega
  rw [cells_ofBytes (Nat.le_of_lt h), hnuls, List.replicate_succ, Nat.add_sub_cancel]

theorem cstr_ofBytes (h0 : 0 ∉ s) (h : s.length < n) : (ofBytes n s).cstr = ⟨s, h0⟩ :=
  cstr_eq _ (cells_ofBytes_nul h)

/-- A copy to the end of the contents, and a NUL after it. -/
theorem append_ofBytes {src : List UInt8} {len : Nat} (hsrc : len ≤ src.length)
    (hdst : s.length + len < n) :
    ∃ b, (ofBytes n s).memcpyAt s.length src len = some b ∧
      b.write (s.length + len) 0 = some (ofBytes n (s ++ src.take len)) := by
  obtain ⟨b, hcopy, hcells⟩ := (ofBytes n s).memcpyAt_spec hsrc (Nat.le_of_lt hdst)
  obtain ⟨c, hwrite, hended⟩ := b.write_spec hdst 0
  have hlength : (s ++ src.take len).length = s.length + len := by
    rw [List.length_append, List.length_take_of_le hsrc]
  have hfilled : b.cells = s ++ src.take len ++ List.replicate (n - (s.length + len)) 0 := by
    rw [hcells, cells_ofBytes (by omega), List.take_left, List.drop_length_add_append,
      List.drop_replicate, Nat.sub_sub]
  have hresult : c = ofBytes n (s ++ src.take len) := by
    refine CArray.ext ?_
    rw [hended, hfilled, List.take_left' hlength, ← hlength, List.drop_length_add_append,
      List.drop_replicate, ← cells_ofBytes_nul (by omega)]
  exact ⟨b, hcopy, hresult ▸ hwrite⟩

end OfBytes
end CArray
end UngulaNet
