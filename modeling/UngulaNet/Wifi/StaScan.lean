import UngulaNet.Foundation.CString

/-!
# The scan for networks

`sta_scan` over the list of records that the driver has found. An access outside the
caller's array is `none`.
-/

namespace UngulaNet.Wifi
set_option autoImplicit false

def WIFI_MAX_SCAN_RESULTS : Nat := 16

inductive WifiAuthMode where
  | WIFI_AUTH_OPEN
  | other
  deriving DecidableEq

structure WifiApRecord where
  ssid : CArray UInt8 33
  primary : UInt8
  rssi : Int8
  authmode : WifiAuthMode
  ssid_terminated : ssid.Terminated

structure WifiScanResult where
  ssid : CArray UInt8 33
  rssi : Int8
  channel : UInt8
  encrypted : Bool

/-- The list has the `prefixCount` strings of the array, `none` is a null pointer. -/
def matchesPrefix (ssid : CString) (prefixes : Option (List (Option CString))) : Bool :=
  match prefixes with
  | none => true
  | some [] => true
  | some prefixes => prefixes.any fun p =>
    match p with
    | none => false
    | some p => ssid.strncmp p p.val.length

section Scan
variable {n : Nat}

def scanFrom (prefixes : Option (List (Option CString))) (maxResults : Nat) (count : Nat)
    (results : CArray WifiScanResult n) :
    List WifiApRecord → Option (Nat × CArray WifiScanResult n)
  | [] => some (count, results)
  | record :: ap_records =>
    if count < maxResults then
      let ssid := record.ssid.cstr
      if ssid.val = [] then scanFrom prefixes maxResults count results ap_records
      else if !matchesPrefix ssid prefixes then
        scanFrom prefixes maxResults count results ap_records
      else do
        let result ← results.read count
        let ssid ← (result.ssid.strncpy ssid).write 32 0
        let results ← results.write count {
          ssid := ssid, rssi := record.rssi, channel := record.primary,
          encrypted := record.authmode ≠ .WIFI_AUTH_OPEN }
        scanFrom prefixes maxResults (count + 1) results ap_records
    else some (count, results)

/-- `scan` is the records of the finished scan, `none` when it could not start. -/
def sta_scan (scan : Option (List WifiApRecord)) (results : Option (CArray WifiScanResult n))
    (maxResults : UInt8) (prefixes : Option (List (Option CString))) :
    Option (Nat × Option (CArray WifiScanResult n)) :=
  match results with
  | none => some (0, none)
  | some results =>
    if maxResults = 0 then some (0, some results)
    else
      let maxResults := if maxResults.toNat > WIFI_MAX_SCAN_RESULTS then WIFI_MAX_SCAN_RESULTS
        else maxResults.toNat
      match scan with
      | none => some (0, some results)
      | some records =>
        let ap_count := records.length
        if ap_count = 0 then some (0, some results)
        else do
          let fetch_count := if ap_count > WIFI_MAX_SCAN_RESULTS then WIFI_MAX_SCAN_RESULTS
            else ap_count
          let ap_records := records.take fetch_count
          let (count, results) ← scanFrom prefixes maxResults 0 results ap_records
          return (count, some results)

end Scan

/-! ## What a scan should find -/

structure Network where
  ssid : CString
  rssi : Int8
  channel : UInt8
  encrypted : Bool

def WifiApRecord.network (r : WifiApRecord) : Network where
  ssid := r.ssid.cstr
  rssi := r.rssi
  channel := r.primary
  encrypted := r.authmode ≠ .WIFI_AUTH_OPEN

def WifiScanResult.network (r : WifiScanResult) : Network where
  ssid := r.ssid.cstr
  rssi := r.rssi
  channel := r.channel
  encrypted := r.encrypted

def wanted (prefixes : Option (List (Option CString))) (r : WifiApRecord) : Bool :=
  r.ssid.cstr.val ≠ [] ∧ (prefixes.getD [] = [] ∨
    ∃ p ∈ (prefixes.getD []).filterMap id, p.val <+: r.ssid.cstr.val)

theorem wanted_iff (prefixes : Option (List (Option CString))) (r : WifiApRecord) :
    wanted prefixes r = true ↔
      r.ssid.cstr.val ≠ [] ∧ matchesPrefix r.ssid.cstr prefixes = true := by
  rw [wanted, decide_eq_true_iff]
  refine and_congr_right fun _ => ?_
  cases prefixes with
  | none => exact iff_of_true (Or.inl rfl) rfl
  | some prefixes =>
    cases prefixes with
    | nil => exact iff_of_true (Or.inl rfl) rfl
    | cons p ps =>
      rw [matchesPrefix, List.any_eq_true]
      · constructor
        · rintro (hnil | ⟨q, hq, hstarts⟩)
          · exact nomatch hnil
          · obtain ⟨o, ho, rfl⟩ := List.mem_filterMap.mp hq
            exact ⟨some q, ho, CString.strncmp_length.mpr hstarts⟩
        · rintro ⟨o, ho, hmatch⟩
          cases o with
          | none => exact nomatch hmatch
          | some q =>
            exact Or.inr ⟨q, List.mem_filterMap.mpr ⟨some q, ho, rfl⟩,
              CString.strncmp_length.mp hmatch⟩
      · exact fun hnil => nomatch hnil

/-- What a filter finds in the front of a list is all that it finds, up to a limit, when
there is nothing in the rest or the front reaches the limit. -/
theorem filter_take_iff {α β : Type} (f : α → β) (p : α → Bool) (l : List α) (k m : Nat) :
    (((l.take k).filter p).take m).map f = ((l.filter p).take m).map f ↔
      (∀ x ∈ l.drop k, p x = false) ∨ m ≤ ((l.take k).filter p).length := by
  have hsplit : l.filter p = (l.take k).filter p ++ (l.drop k).filter p := by
    rw [← List.filter_append, List.take_append_drop]
  constructor
  · intro heq
    have hlength := congrArg List.length heq
    rw [List.length_map, List.length_map, hsplit, List.length_take, List.length_take,
      List.length_append] at hlength
    by_cases hlimit : m ≤ ((l.take k).filter p).length
    · exact Or.inr hlimit
    · have hnone : (l.drop k).filter p = [] := List.length_eq_zero_iff.mp (by omega)
      rw [List.filter_eq_nil_iff] at hnone
      exact Or.inl fun x hx => Bool.eq_false_iff.mpr (hnone x hx)
  · rintro (hnone | hlimit)
    · have hrest : (l.drop k).filter p = [] :=
        List.filter_eq_nil_iff.mpr fun x hx => Bool.eq_false_iff.mp (hnone x hx)
      rw [hsplit, hrest, List.append_nil]
    · rw [hsplit, List.take_append_of_le_length hlimit]

section Scan
variable {n : Nat}

theorem network_written (result : WifiScanResult) (record : WifiApRecord) :
    ∃ ssid, (result.ssid.strncpy record.ssid.cstr).write 32 0 = some ssid ∧
      WifiScanResult.network {
        ssid := ssid, rssi := record.rssi, channel := record.primary,
        encrypted := record.authmode ≠ .WIFI_AUTH_OPEN } = record.network := by
  obtain ⟨ssid, hwrite, hcstr⟩ := result.ssid.strncpy_write record.ssid.cstr
  have hwhole : record.ssid.cstr.take 32 = record.ssid.cstr :=
    Subtype.ext (List.take_of_length_le record.ssid_terminated.length_le)
  refine ⟨ssid, hwrite, ?_⟩
  rw [WifiScanResult.network, WifiApRecord.network, hcstr, hwhole]

/-- The loop adds the wanted networks among the records, as far as there is room. -/
theorem scanFrom_spec (prefixes : Option (List (Option CString))) {maxResults count : Nat}
    (hroom : maxResults ≤ n) (hcount : count ≤ maxResults)
    (results : CArray WifiScanResult n) (ap_records : List WifiApRecord) :
    ∃ count' results', scanFrom prefixes maxResults count results ap_records =
        some (count', results') ∧
      (results'.filled count').map WifiScanResult.network =
        (results.filled count).map WifiScanResult.network ++
          ((ap_records.filter (wanted prefixes)).take (maxResults - count)).map
            WifiApRecord.network := by
  induction ap_records generalizing count results with
  | nil => exact ⟨count, results, rfl, by simp⟩
  | cons record ap_records ih =>
    rw [scanFrom]
    by_cases hfull : count < maxResults
    · rw [if_pos hfull]
      by_cases hwanted : wanted prefixes record = true
      · obtain ⟨hname, hmatch⟩ := (wanted_iff prefixes record).mp hwanted
        have hin : count < results.cells.length := by
          rw [results.length_eq]
          omega
        obtain ⟨ssid, hssid, hnetwork⟩ := network_written results.cells[count] record
        obtain ⟨written, hwrite, hfilled⟩ := results.write_push (by omega : count < n) {
          ssid := ssid, rssi := record.rssi, channel := record.primary,
          encrypted := record.authmode ≠ .WIFI_AUTH_OPEN }
        obtain ⟨count', results', hscan, hmap⟩ := ih (Nat.succ_le_of_lt hfull) written
        refine ⟨count', results', ?_, ?_⟩
        · rw [if_neg hname, hmatch, results.read_eq hin]
          simp only [Bool.not_true, Bool.false_eq_true, if_false, Option.bind_eq_bind,
            Option.bind_some]
          rw [hssid, Option.bind_some, hwrite]
          exact hscan
        · have hleft : maxResults - count = maxResults - (count + 1) + 1 := by omega
          rw [hmap, hfilled, List.map_append, List.map_singleton, hnetwork,
            List.filter_cons_of_pos hwanted, hleft, List.take_succ_cons, List.map_cons,
            List.append_assoc, List.singleton_append]
      · have hskip : (record :: ap_records).filter (wanted prefixes) =
            ap_records.filter (wanted prefixes) := List.filter_cons_of_neg hwanted
        rw [hskip]
        obtain ⟨count', results', hscan, hmap⟩ := ih hcount results
        refine ⟨count', results', ?_, hmap⟩
        rw [wanted_iff] at hwanted
        by_cases hname : record.ssid.cstr.val = []
        · rw [if_pos hname]
          exact hscan
        · have hmatch : matchesPrefix record.ssid.cstr prefixes = false :=
            Bool.eq_false_iff.mpr fun hmatch => hwanted ⟨hname, hmatch⟩
          rw [if_neg hname, hmatch]
          exact hscan
    · rw [if_neg hfull, Nat.sub_eq_zero_of_le (by omega)]
      exact ⟨count, results, rfl, by simp⟩

theorem sta_scan_spec (records : List WifiApRecord) (prefixes : Option (List (Option CString)))
    {maxResults : UInt8} (hmax : 1 ≤ maxResults) (results : CArray WifiScanResult n)
    (hroom : maxResults.toNat ≤ n) :
    ∃ count results', sta_scan (some records) (some results) maxResults prefixes =
        some (count, some results') ∧
      (results'.filled count).map WifiScanResult.network =
        (((records.take 16).filter (wanted prefixes)).take (min maxResults.toNat 16)).map
          WifiApRecord.network := by
  have hne : maxResults ≠ 0 := by
    rintro rfl
    exact absurd hmax (by decide)
  have hlimit : (if maxResults.toNat > WIFI_MAX_SCAN_RESULTS then WIFI_MAX_SCAN_RESULTS
      else maxResults.toNat) = min maxResults.toNat 16 := by
    have hcap : WIFI_MAX_SCAN_RESULTS = 16 := rfl
    split
    · omega
    · omega
  have hfetch : records.take (if records.length > WIFI_MAX_SCAN_RESULTS then
      WIFI_MAX_SCAN_RESULTS else records.length) = records.take 16 := by
    have hcap : WIFI_MAX_SCAN_RESULTS = 16 := rfl
    split
    · rfl
    · rw [List.take_length, List.take_of_length_le (by omega)]
  unfold sta_scan
  dsimp only
  rw [if_neg hne, hlimit, hfetch]
  by_cases hnone : records.length = 0
  · rw [if_pos hnone, List.length_eq_zero_iff.mp hnone]
    exact ⟨0, results, rfl, by simp⟩
  · rw [if_neg hnone]
    have hcount : 0 ≤ min maxResults.toNat 16 := Nat.zero_le _
    obtain ⟨count, results', hscan, hmap⟩ := scanFrom_spec prefixes
      (by omega : min maxResults.toNat 16 ≤ n) hcount results (records.take 16)
    rw [hscan]
    exact ⟨count, results', rfl, hmap⟩

/-- A scan returns, in order, all the wanted networks that there is room for exactly when the
driver's records after the first `WIFI_MAX_SCAN_RESULTS` have none, or those before fill the
room. -/
theorem scan_complete_iff (records : List WifiApRecord)
    (prefixes : Option (List (Option CString))) (maxResults : UInt8) (hmax : 1 ≤ maxResults)
    (results : CArray WifiScanResult n) (hroom : maxResults.toNat ≤ n) :
    ∃ count results', sta_scan (some records) (some results) maxResults prefixes =
        some (count, some results') ∧
      ((results'.filled count).map WifiScanResult.network =
          ((records.filter (wanted prefixes)).take (min maxResults.toNat 16)).map
            WifiApRecord.network ↔
        (∀ record ∈ records.drop 16, wanted prefixes record = false) ∨
          min maxResults.toNat 16 ≤ ((records.take 16).filter (wanted prefixes)).length) := by
  obtain ⟨count, results', hscan, hmap⟩ := sta_scan_spec records prefixes hmax results hroom
  refine ⟨count, results', hscan, ?_⟩
  rw [hmap]
  exact filter_take_iff WifiApRecord.network (wanted prefixes) records 16 _

end Scan

section Example

def oneLetter (c : UInt8) : WifiApRecord where
  ssid := ⟨c :: List.replicate 32 0, rfl⟩
  primary := 1
  rssi := -60
  authmode := .WIFI_AUTH_OPEN
  ssid_terminated := List.mem_cons_of_mem _ List.mem_cons_self

def prefixR : Option (List (Option CString)) := some [none, some ⟨[82], by decide⟩]

def scanBuffer : CArray WifiScanResult 4 :=
  .replicate 4 { ssid := .replicate 33 0, rssi := 0, channel := 0, encrypted := false }

theorem quiet_scan_complete :
    ∃ count results', sta_scan (some [oneLetter 88, oneLetter 82]) (some scanBuffer) 4 prefixR =
        some (count, some results') ∧
      (results'.filled count).map WifiScanResult.network = [(oneLetter 82).network] := by
  obtain ⟨count, results', hscan, hiff⟩ := scan_complete_iff [oneLetter 88, oneLetter 82] prefixR
    4 (by decide) scanBuffer (by decide)
  refine ⟨count, results', hscan, (hiff.mpr (Or.inl fun _ h => nomatch h)).trans ?_⟩
  rfl

/-- Sixteen networks that are not wanted come before one that is. -/
def crowded : List WifiApRecord := List.replicate 16 (oneLetter 88) ++ [oneLetter 82]

/-- The scan returns nothing, although there is room. -/
theorem crowded_scan_misses :
    ∃ results', sta_scan (some crowded) (some scanBuffer) 4 prefixR = some (0, some results') ∧
      ((crowded.filter (wanted prefixR)).take (min 4 16)).map WifiApRecord.network =
        [(oneLetter 82).network] := by
  refine ⟨scanBuffer, rfl, rfl⟩

end Example
end UngulaNet.Wifi
