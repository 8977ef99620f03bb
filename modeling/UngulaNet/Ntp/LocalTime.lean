import UngulaNet.Ntp.NtpClient

/-!
# The local time as text

What `ntp_format_local` writes into the buffer: a text of 19 characters which reads back
as the local time, and texts in the order of the times.
-/

namespace UngulaNet.Ntp
open Calendar (Tm gmtime_r timegm)
open Decimal (fixed value)
set_option autoImplicit false

def yearEnd : Int := 253402300800

/-- The date and time that a text shows, by the places of its fields. -/
def readTime (text : CString) : Tm :=
  { tm_year := value (text.val.take 4) - 1900
    tm_mon := value ((text.val.drop 5).take 2) - 1
    tm_mday := value ((text.val.drop 8).take 2)
    tm_hour := value ((text.val.drop 11).take 2)
    tm_min := value ((text.val.drop 14).take 2)
    tm_sec := value ((text.val.drop 17).take 2) }

/-! ## The text of a date -/

section Text
variable {tm tm' : Tm}

def fixedFields (tm : Tm) : List (List UInt8) :=
  [fixed 4 (tm.tm_year + 1900), [45], fixed 2 (tm.tm_mon + 1), [45],
    fixed 2 tm.tm_mday, [32], fixed 2 tm.tm_hour, [58], fixed 2 tm.tm_min, [58],
    fixed 2 tm.tm_sec]

theorem timeFields_eq (h : tm.Valid) (hyear : tm.tm_year < 8100) :
    NtpClient.timeFields tm = fixedFields tm := by
  have hmon := h.mon
  have hmday := h.mday
  have hhour := h.hour
  have hmin := h.min
  have hsec := h.sec
  have hfour : Decimal.printed 1 (tm.tm_year + 1900) = fixed 4 (tm.tm_year + 1900) := by
    rw [Decimal.printed, @Decimal.decimal_eq 3 _ (by omega) (by omega), List.leftpad,
      Decimal.length_fixed]
    rfl
  rw [NtpClient.timeFields, hfour, Decimal.printed_eq (by omega),
    Decimal.printed_eq (by omega), Decimal.printed_eq (by omega),
    Decimal.printed_eq (by omega), Decimal.printed_eq (by omega), fixedFields]

theorem length_fixedFields (tm : Tm) : (fixedFields tm).flatten.length = 19 := by
  simp [fixedFields]

theorem zero_notMem_fixed (width n : Nat) : (0 : UInt8) ∉ fixed width n := by
  induction width generalizing n with
  | zero => exact List.not_mem_nil
  | succ width ih =>
    have hdigit := Decimal.digit_toNat (Nat.mod_lt n (by omega : 10 > 0))
    rw [fixed, List.mem_append, List.mem_singleton]
    rintro (hin | heq)
    · exact ih _ hin
    · rw [← heq] at hdigit
      have hzero : (0 : UInt8).toNat = 0 := rfl
      omega

theorem zero_notMem_fixedFields (tm : Tm) : (0 : UInt8) ∉ (fixedFields tm).flatten := by
  have hfixed := fun width n => zero_notMem_fixed width n
  simp [fixedFields, hfixed]

theorem field_at {before after : List (List UInt8)} {field : List UInt8} {i k : Nat}
    (hbefore : before.flatten.length = i) (hfield : field.length = k) :
    ((before ++ field :: after).flatten.drop i).take k = field := by
  rw [List.flatten_append, List.flatten_cons, List.drop_left' hbefore, List.take_left' hfield]

theorem readTime_fixedFields (h : tm.Valid) (hyear : tm.tm_year < 8100) :
    readTime ⟨(fixedFields tm).flatten, zero_notMem_fixedFields tm⟩ = tm := by
  have hmon := h.mon
  have hmday := h.mday
  have hhour := h.hour
  have hmin := h.min
  have hsec := h.sec
  have h0 : (fixedFields tm).flatten.take 4 = fixed 4 (tm.tm_year + 1900) :=
    @field_at [] _ _ 0 4 rfl (Decimal.length_fixed 4 _)
  have h1 : ((fixedFields tm).flatten.drop 5).take 2 = fixed 2 (tm.tm_mon + 1) :=
    @field_at [_, _] _ _ 5 2 (by simp) (Decimal.length_fixed 2 _)
  have h2 : ((fixedFields tm).flatten.drop 8).take 2 = fixed 2 tm.tm_mday :=
    @field_at [_, _, _, _] _ _ 8 2 (by simp) (Decimal.length_fixed 2 _)
  have h3 : ((fixedFields tm).flatten.drop 11).take 2 = fixed 2 tm.tm_hour :=
    @field_at [_, _, _, _, _, _] _ _ 11 2 (by simp) (Decimal.length_fixed 2 _)
  have h4 : ((fixedFields tm).flatten.drop 14).take 2 = fixed 2 tm.tm_min :=
    @field_at [_, _, _, _, _, _, _, _] _ _ 14 2 (by simp) (Decimal.length_fixed 2 _)
  have h5 : ((fixedFields tm).flatten.drop 17).take 2 = fixed 2 tm.tm_sec :=
    @field_at [_, _, _, _, _, _, _, _, _, _] _ _ 17 2 (by simp) (Decimal.length_fixed 2 _)
  have hy : value (fixed 4 (tm.tm_year + 1900)) = tm.tm_year + 1900 :=
    Decimal.value_fixed (by omega)
  have hm : value (fixed 2 (tm.tm_mon + 1)) = tm.tm_mon + 1 := Decimal.value_fixed (by omega)
  have hrest : ∀ k < 100, value (fixed 2 k) = k := fun k hk => Decimal.value_fixed hk
  change Tm.mk _ _ _ _ _ _ = tm
  rw [h0, h1, h2, h3, h4, h5, hy, hm, hrest _ (by omega), hrest _ (by omega),
    hrest _ (by omega), hrest _ (by omega), Nat.add_sub_cancel, Nat.add_sub_cancel]

theorem fixedFields_lt_iff (h : tm.Valid) (h' : tm'.Valid) (hyear : tm.tm_year < 8100)
    (hyear' : tm'.tm_year < 8100) :
    (fixedFields tm).flatten < (fixedFields tm').flatten ↔ tm.fields < tm'.fields := by
  have hwidths : List.Forall₂ (fun s s' => s.length = s'.length) (fixedFields tm)
      (fixedFields tm') := by
    simp [fixedFields]
  have hmon := h.mon
  have hmday := h.mday
  have hhour := h.hour
  have hmin := h.min
  have hsec := h.sec
  have hmon' := h'.mon
  have hmday' := h'.mday
  have hhour' := h'.hour
  have hmin' := h'.min
  have hsec' := h'.sec
  have hirrefl : ∀ s : List UInt8, ¬ s < s := List.lt_irrefl
  rw [Decimal.flatten_lt_iff hwidths, fixedFields, fixedFields, Tm.fields, Tm.fields]
  simp (disch := omega) only [List.cons_lt_cons_iff, Decimal.fixed_lt_iff, Decimal.fixed_inj,
    hirrefl, false_or, true_and, Nat.add_lt_add_iff_right, Nat.add_right_cancel_iff]
  simp

end Text

/-! ## The text of the local time -/

namespace NtpClient
variable (client : NtpClient) {now : Int}

/-- With the clock set, the local time is the clock shifted by the offset. It is long after
the start of the calendar, whatever the offset. -/
theorem ntp_local_epoch_eq (hset : clockSet ≤ now) :
    client.ntp_local_epoch now = now + client.s_utcOffset.toInt ∧
      -Calendar.epochStart ≤ client.ntp_local_epoch now := by
  have hoffset := client.s_utcOffset.le_toInt
  have hepoch : ntp_epoch now = now := if_neg (Int.not_lt.mpr hset)
  have hne : ntp_epoch now ≠ 0 := by
    rw [hepoch]
    unfold clockSet at hset
    omega
  rw [ntp_local_epoch, if_neg hne, hepoch]
  refine ⟨rfl, ?_⟩
  unfold clockSet at hset
  unfold Calendar.epochStart
  omega

theorem year_lt {time : Int} (hstart : -Calendar.epochStart ≤ time) (hend : time < yearEnd) :
    (gmtime_r time).tm_year < 8100 := by
  have hdays : Blocks.before Calendar.yearLength 8100 = 2958464 := by decide +kernel
  refine Calendar.gmtime_r_year_lt hstart ?_
  rw [hdays]
  unfold yearEnd at hend
  unfold Calendar.epochStart
  omega

theorem strftime_eq {n : Nat} (hn : 20 ≤ n) (buf : CArray UInt8 n) {tm : Tm} (h : tm.Valid)
    (hyear : tm.tm_year < 8100) :
    (strftime buf tm).1 = 19 ∧
      (strftime buf tm).2.cstr = ⟨(fixedFields tm).flatten, zero_notMem_fixedFields tm⟩ := by
  have hlength : ((fixedFields tm).flatten ++ [0]).length ≤ n := by
    rw [List.length_append, length_fixedFields]
    exact hn
  obtain ⟨b, hcopy, hcells⟩ := buf.memcpy_spec hlength
  rw [strftime, timeFields_eq h hyear, hcopy]
  refine ⟨length_fixedFields tm, CArray.cstr_eq (buf.cells.drop 20) ?_⟩
  rw [hcells, List.length_append, length_fixedFields, List.append_assoc]
  rfl

variable {n : Nat}

theorem ntp_format_local_eq (hset : clockSet ≤ now) (hend : client.ntp_local_epoch now < yearEnd)
    (hzero : client.ntp_local_epoch now ≠ 0) (hn : 20 ≤ n) (buf : CArray UInt8 n) :
    (client.ntp_format_local now buf).1 = 19 ∧
      (client.ntp_format_local now buf).2.cstr =
        ⟨(fixedFields (gmtime_r (client.ntp_local_epoch now))).flatten,
          zero_notMem_fixedFields _⟩ := by
  have hstart := (client.ntp_local_epoch_eq hset).2
  rw [ntp_format_local, if_neg (by omega)]
  exact if_neg hzero ▸ strftime_eq hn buf (Calendar.gmtime_r_valid _) (year_lt hstart hend)

/-- The call writes nothing and returns 0 when the buffer is too small, when the clock is not
set, or when the local time is the epoch itself. Otherwise it writes 19 characters, and
they read back as the local time. -/
theorem local_time_reads_back (hend : now + client.s_utcOffset.toInt < yearEnd)
    (buf : CArray UInt8 n) :
    if n < 20 ∨ now < clockSet ∨ now + client.s_utcOffset.toInt = 0 then
      client.ntp_format_local now buf = (0, buf)
    else (client.ntp_format_local now buf).1 = 19 ∧
      (client.ntp_format_local now buf).2.cstr.val.length = 19 ∧
      timegm (readTime (client.ntp_format_local now buf).2.cstr) =
        now + client.s_utcOffset.toInt := by
  by_cases hn : n < 20
  · rw [if_pos (Or.inl hn)]
    exact if_pos hn
  by_cases hset : now < clockSet
  · have hepoch : ntp_epoch now = 0 := if_pos hset
    have hlocal : client.ntp_local_epoch now = 0 := if_pos hepoch
    rw [if_pos (Or.inr (Or.inl hset)), ntp_format_local, if_neg hn]
    exact if_pos hlocal
  obtain ⟨hlocal, hstart⟩ := client.ntp_local_epoch_eq (Int.not_lt.mp hset)
  by_cases hzero : now + client.s_utcOffset.toInt = 0
  · rw [if_pos (Or.inr (Or.inr hzero)), ntp_format_local, if_neg hn]
    exact if_pos (hlocal.trans hzero)
  · rw [← hlocal] at hend hzero
    obtain ⟨hwritten, htext⟩ := client.ntp_format_local_eq (Int.not_lt.mp hset) hend hzero
      (Nat.not_lt.mp hn) buf
    rw [← hlocal, if_neg (by omega), htext,
      readTime_fixedFields (Calendar.gmtime_r_valid _) (year_lt hstart hend),
      Calendar.timegm_gmtime_r hstart]
    exact ⟨hwritten, length_fixedFields _, rfl⟩

/-- Of two local times, the earlier one is the smaller text, whatever the two offsets are. -/
theorem local_times_in_order {client' : NtpClient} {now' : Int} (hset : clockSet ≤ now)
    (hset' : clockSet ≤ now') (hend : now + client.s_utcOffset.toInt < yearEnd)
    (hend' : now' + client'.s_utcOffset.toInt < yearEnd)
    (hzero : now + client.s_utcOffset.toInt ≠ 0) (hzero' : now' + client'.s_utcOffset.toInt ≠ 0)
    (hn : 20 ≤ n) (buf buf' : CArray UInt8 n) :
    (client.ntp_format_local now buf).2.cstr.val <
        (client'.ntp_format_local now' buf').2.cstr.val ↔
      now + client.s_utcOffset.toInt < now' + client'.s_utcOffset.toInt := by
  obtain ⟨hlocal, hstart⟩ := client.ntp_local_epoch_eq hset
  obtain ⟨hlocal', hstart'⟩ := client'.ntp_local_epoch_eq hset'
  rw [← hlocal] at hend hzero
  rw [← hlocal'] at hend' hzero'
  rw [(client.ntp_format_local_eq hset hend hzero hn buf).2,
    (client'.ntp_format_local_eq hset' hend' hzero' hn buf').2, ← hlocal, ← hlocal',
    fixedFields_lt_iff (Calendar.gmtime_r_valid _) (Calendar.gmtime_r_valid _)
      (year_lt hstart hend) (year_lt hstart' hend'),
    Calendar.gmtime_r_fields_lt_iff hstart hstart']

end NtpClient

section Example

/-- A device one hour east of UTC, at the end of a leap day. -/
def eastNtp : NtpClient := { s_utcOffset := 3600, s_initialised := true }

example : (eastNtp.ntp_format_local 1709247599 (CArray.replicate 20 0)).2.cstr.val =
    "2024-02-29 23:59:59".toUTF8.toList := by decide +kernel

theorem leapDay_reads_back :
    (eastNtp.ntp_format_local 1709247599 (CArray.replicate 20 0)).1 = 19 ∧
      timegm (readTime (eastNtp.ntp_format_local 1709247599 (CArray.replicate 20 0)).2.cstr) =
        1709251199 := by
  have h := eastNtp.local_time_reads_back (n := 20) (by decide : 1709247599 + _ < yearEnd)
    (CArray.replicate 20 0)
  rw [if_neg (by decide)] at h
  exact ⟨h.1, h.2.2⟩

/-- The next second is the next day, and a larger text. -/
theorem leapDay_in_order :
    (eastNtp.ntp_format_local 1709247599 (CArray.replicate 20 0)).2.cstr.val <
      (eastNtp.ntp_format_local 1709247600 (CArray.replicate 20 0)).2.cstr.val :=
  (eastNtp.local_times_in_order (by decide) (by decide) (by decide) (by decide) (by decide)
    (by decide) (by decide) _ _).mpr (by decide)

end Example
end UngulaNet.Ntp
