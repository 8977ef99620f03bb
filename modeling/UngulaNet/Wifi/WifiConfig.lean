import UngulaNet.Foundation.CString
import UngulaNet.Foundation.LittleEndian
import UngulaNet.Preferences

/-!
# The stored WiFi configuration

`WifiConfigStore` over the preferences of its namespace. `crc32` comes from a sibling
library and is a parameter, and so are the answers of the preferences: whether the namespace
opens, and whether a write or a removal succeeds. A call that fails changes nothing.
-/

namespace UngulaNet.Wifi
set_option autoImplicit false

abbrev WIFI_SSID_MAX_LEN : Nat := 33

abbrev WIFI_PASS_MAX_LEN : Nat := 65

/-- `enabled` is the byte of the `bool`. -/
@[ext] structure WifiConfig where
  enabled : UInt8
  ssid : CArray UInt8 WIFI_SSID_MAX_LEN
  password : CArray UInt8 WIFI_PASS_MAX_LEN

namespace WifiConfig

/-- `uninit` is what the fresh object holds where `createDefault` writes nothing. -/
def createDefault (uninit : WifiConfig) : WifiConfig where
  enabled := 0
  ssid := uninit.ssid.set 0 0
  password := uninit.password.set 0 0

def hasCredentials (c : WifiConfig) : Bool := c.ssid.cells.head? ≠ some 0

/-- The memory of the object, which has no padding. -/
def bytes (c : WifiConfig) : List UInt8 := c.enabled :: (c.ssid.cells ++ c.password.cells)

/-- The last byte of both strings set to NUL. -/
def terminate (c : WifiConfig) : WifiConfig :=
  { c with
    ssid := c.ssid.set (Fin.last 32) 0
    password := c.password.set (Fin.last 64) 0 }

end WifiConfig

/-- The config, the byte of padding that aligns the checksum, and the checksum. -/
@[ext] structure WifiConfigBlob where
  config : WifiConfig
  padding : UInt8
  crc : UInt32

def BLOB_SIZE : Nat := 104

namespace WifiConfigBlob

def bytes (blob : WifiConfigBlob) : List UInt8 :=
  blob.config.bytes ++ blob.padding :: LittleEndian.encode 4 blob.crc.toNat

/-- The object that these bytes are read into. -/
def ofBytes (data : List UInt8) (h : data.length = BLOB_SIZE) : WifiConfigBlob :=
  have hsize : data.length = 104 := h
  { config := {
      enabled := data[0],
      ssid := ⟨(data.drop 1).take 33, by
        rw [List.length_take, List.length_drop, hsize]
        rfl⟩,
      password := ⟨(data.drop 34).take 65, by
        rw [List.length_take, List.length_drop, hsize]
        rfl⟩ },
    padding := data[99],
    crc := UInt32.ofNat (LittleEndian.decode (data.drop 100)) }

end WifiConfigBlob

/-! ## The store -/

namespace WifiConfigStore
variable (crc32 : List UInt8 → UInt32)

def NVS_KEY : String := "wifi_cfg"

def load (prefs : Preferences) (begun : Bool) (uninit : WifiConfig) : WifiConfig :=
  let config := WifiConfig.createDefault uninit
  if !begun then config
  else
    let read := prefs.getBytes NVS_KEY BLOB_SIZE
    if h : read.length = BLOB_SIZE then
      let blob := WifiConfigBlob.ofBytes read h
      let expected := crc32 blob.config.bytes
      if blob.crc ≠ expected then config
      else blob.config.terminate
    else config

def save (prefs : Preferences) (config : WifiConfig) (begun written : Bool) (padding : UInt8) :
    Preferences :=
  let blob : WifiConfigBlob :=
    { config := config, padding := padding, crc := crc32 config.bytes }
  if !begun then prefs
  else if written then prefs.putBytes NVS_KEY blob.bytes
  else prefs

def clear (prefs : Preferences) (begun removed : Bool) : Preferences :=
  if !begun then prefs
  else if removed then prefs.remove NVS_KEY
  else prefs

end WifiConfigStore

/-! ## What is stored and what is loaded -/

theorem createDefault_empty (uninit : WifiConfig) :
    (WifiConfig.createDefault uninit).enabled = 0 ∧
      (WifiConfig.createDefault uninit).ssid.cstr.val = [] ∧
      (WifiConfig.createDefault uninit).password.cstr.val = [] ∧
      (WifiConfig.createDefault uninit).hasCredentials = false := by
  have hempty : ∀ {n : Nat} (a : CArray UInt8 (n + 1)), (a.set 0 0).cstr.val = [] := by
    intro n a
    have hcstr : (a.set 0 0).cstr = ⟨[], by decide⟩ := CArray.cstr_eq _ (a.cells_set 0 0)
    rw [hcstr]
  have hfirst : (uninit.ssid.set 0 0).cells.head? = some 0 := by
    rw [CArray.cells_set]
    rfl
  refine ⟨rfl, hempty uninit.ssid, hempty uninit.password, ?_⟩
  simp only [WifiConfig.hasCredentials, WifiConfig.createDefault, hfirst, ne_eq,
    not_true_eq_false, decide_false]

namespace WifiConfigBlob

theorem length_bytes (blob : WifiConfigBlob) : blob.bytes.length = BLOB_SIZE := by
  have hssid : blob.config.ssid.cells.length = 33 := blob.config.ssid.length_eq
  have hpassword : blob.config.password.cells.length = 65 := blob.config.password.length_eq
  simp only [bytes, WifiConfig.bytes, List.length_append, List.length_cons,
    LittleEndian.length_encode, hssid, hpassword, BLOB_SIZE]

theorem ofBytes_bytes (blob : WifiConfigBlob) (h : blob.bytes.length = BLOB_SIZE) :
    ofBytes blob.bytes h = blob := by
  have hssid : blob.config.ssid.cells.length = 33 := blob.config.ssid.length_eq
  have hpassword : blob.config.password.cells.length = 65 := blob.config.password.length_eq
  have hconfig : blob.config.bytes.length = 99 := by
    rw [WifiConfig.bytes, List.length_cons, List.length_append, hssid, hpassword]
  have hafter : blob.bytes.drop 99 = blob.padding :: LittleEndian.encode 4 blob.crc.toNat :=
    List.drop_left' hconfig
  have hstrings : blob.bytes.drop 1 = blob.config.ssid.cells ++ (blob.config.password.cells ++
      blob.padding :: LittleEndian.encode 4 blob.crc.toNat) := by
    rw [bytes, WifiConfig.bytes, List.cons_append, List.append_assoc]
    rfl
  have hsecond : blob.bytes.drop 34 = blob.config.password.cells ++
      blob.padding :: LittleEndian.encode 4 blob.crc.toNat := by
    rw [show 34 = 1 + 33 from rfl, ← List.drop_drop, hstrings, List.drop_left' hssid]
  have hlast : 99 < blob.bytes.length := by
    rw [h]
    decide
  obtain ⟨hpadding, hcrc⟩ := List.cons.inj ((List.getElem_cons_drop hlast).trans hafter)
  refine WifiConfigBlob.ext (WifiConfig.ext rfl (CArray.ext ?_) (CArray.ext ?_)) ?_ ?_
  · change (blob.bytes.drop 1).take 33 = _
    rw [hstrings, List.take_left' hssid]
  · change (blob.bytes.drop 34).take 65 = _
    rw [hsecond, List.take_left' hpassword]
  · exact hpadding
  · change UInt32.ofNat (LittleEndian.decode (blob.bytes.drop 100)) = blob.crc
    rw [hcrc, LittleEndian.decode_encode blob.crc.toNat_lt, UInt32.ofNat_toNat]

theorem bytes_ofBytes (data : List UInt8) (h : data.length = BLOB_SIZE) :
    (ofBytes data h).bytes = data := by
  have hsize : data.length = 104 := h
  have hfield : (data.drop 100).length = 4 := by
    rw [List.length_drop, hsize]
  have hcrc : LittleEndian.encode 4
      (UInt32.ofNat (LittleEndian.decode (data.drop 100))).toNat = data.drop 100 := by
    have hlt := LittleEndian.decode_lt (data.drop 100)
    rw [hfield] at hlt
    rw [UInt32.toNat_ofNat_of_lt' hlt, ← hfield, LittleEndian.encode_decode]
  change data[0] :: ((data.drop 1).take 33 ++ (data.drop 34).take 65) ++
    data[99] :: LittleEndian.encode 4
      (UInt32.ofNat (LittleEndian.decode (data.drop 100))).toNat = data
  have hsecond : data.drop 34 = (data.drop 1).drop 33 := by rw [List.drop_drop]
  have hlast : data.drop 99 = (data.drop 34).drop 65 := by rw [List.drop_drop]
  rw [hcrc, List.cons_append, List.append_assoc, List.getElem_cons_drop, hlast,
    List.take_append_drop, hsecond, List.take_append_drop, List.getElem_cons_drop,
    List.drop_zero]

end WifiConfigBlob

namespace WifiConfigStore
variable (crc32 : List UInt8 → UInt32) (prefs : Preferences) (uninit : WifiConfig)

/-- A read finds the blob that is stored, and nothing else has its size. -/
theorem getBytes_length_iff (data : List UInt8) (h : data.length = BLOB_SIZE) :
    prefs.getBytes NVS_KEY BLOB_SIZE = data ↔ prefs.entry NVS_KEY = some (.bytes data) := by
  unfold Preferences.getBytes
  constructor
  · intro hread
    split at hread
    · rename_i stored hentry
      split at hread
      · rw [hentry, hread]
      · rw [← hread] at h
        exact nomatch h
    · rw [← hread] at h
      exact nomatch h
  · intro hentry
    rw [hentry]
    exact if_pos (Nat.le_of_eq h)

theorem load_blob (blob : WifiConfigBlob)
    (h : prefs.entry NVS_KEY = some (.bytes blob.bytes)) :
    load crc32 prefs true uninit =
      if blob.crc = crc32 blob.config.bytes then blob.config.terminate
      else WifiConfig.createDefault uninit := by
  have hread := (getBytes_length_iff prefs blob.bytes blob.length_bytes).mpr h
  unfold load
  simp only [Bool.not_true, Bool.false_eq_true, if_false, hread]
  rw [dif_pos blob.length_bytes, blob.ofBytes_bytes]
  by_cases hcrc : blob.crc = crc32 blob.config.bytes
  · rw [if_neg (not_not_intro hcrc), if_pos hcrc]
  · rw [if_pos hcrc, if_neg hcrc]

theorem load_none (h : ∀ data, prefs.entry NVS_KEY = some (.bytes data) → data.length ≠ BLOB_SIZE) :
    load crc32 prefs true uninit = WifiConfig.createDefault uninit := by
  unfold load
  simp only [Bool.not_true, Bool.false_eq_true, if_false]
  refine dif_neg fun hsize => ?_
  exact h _ ((getBytes_length_iff prefs _ hsize).mp rfl) hsize

theorem load_unopened : load crc32 prefs false uninit = WifiConfig.createDefault uninit := rfl

theorem load_save {config : WifiConfig} (hssid : config.ssid.Terminated)
    (hpassword : config.password.Terminated) (padding : UInt8) :
    let loaded := load crc32 (save crc32 prefs config true true padding) true uninit
    loaded.enabled = config.enabled ∧ loaded.ssid.cstr = config.ssid.cstr ∧
      loaded.password.cstr = config.password.cstr := by
  let blob : WifiConfigBlob := { config := config, padding := padding, crc := crc32 config.bytes }
  have hentry : (save crc32 prefs config true true padding).entry NVS_KEY =
      some (.bytes blob.bytes) :=
    (Preferences.entry_putBytes prefs NVS_KEY NVS_KEY blob.bytes).trans (if_pos rfl)
  have hload := load_blob crc32 _ uninit blob hentry
  rw [if_pos rfl] at hload
  intro loaded
  have hloaded : loaded = config.terminate := hload
  rw [hloaded]
  exact ⟨rfl, hssid.cstr_set_last, hpassword.cstr_set_last⟩

theorem load_clear :
    load crc32 (clear prefs true true) true uninit = WifiConfig.createDefault uninit := by
  refine load_none crc32 _ uninit fun data hentry => ?_
  have hnone : (clear prefs true true).entry NVS_KEY = none :=
    (Preferences.entry_remove prefs NVS_KEY NVS_KEY).trans (if_pos rfl)
  exact nomatch hnone.symm.trans hentry

theorem save_failed (config : WifiConfig) {begun written : Bool} (padding : UInt8)
    (h : (begun && written) = false) : save crc32 prefs config begun written padding = prefs := by
  cases begun with
  | false => rfl
  | true =>
    obtain rfl : written = false := h
    rfl

theorem clear_failed {begun removed : Bool} (h : (begun && removed) = false) :
    clear prefs begun removed = prefs := by
  cases begun with
  | false => rfl
  | true =>
    obtain rfl : removed = false := h
    rfl

/-- A load gives the default unless the store opens and has a blob of the right size whose
checksum fits; then it gives the config of that blob. What is saved is loaded again, what is
cleared is gone, and a save or a clear that fails changes nothing. -/
theorem config_persists :
    load crc32 prefs false uninit = WifiConfig.createDefault uninit ∧
      ((∀ data, prefs.entry NVS_KEY = some (.bytes data) → data.length ≠ BLOB_SIZE) →
        load crc32 prefs true uninit = WifiConfig.createDefault uninit) ∧
      (∀ data, prefs.entry NVS_KEY = some (.bytes data) → data.length = BLOB_SIZE →
        ∃ blob : WifiConfigBlob, blob.bytes = data ∧
          load crc32 prefs true uninit =
            if blob.crc = crc32 blob.config.bytes then blob.config.terminate
            else WifiConfig.createDefault uninit) ∧
      (∀ (config : WifiConfig) (padding : UInt8),
        config.ssid.Terminated → config.password.Terminated →
        let loaded := load crc32 (save crc32 prefs config true true padding) true uninit
        loaded.enabled = config.enabled ∧ loaded.ssid.cstr = config.ssid.cstr ∧
          loaded.password.cstr = config.password.cstr) ∧
      load crc32 (clear prefs true true) true uninit = WifiConfig.createDefault uninit ∧
      (∀ begun, (∀ (config : WifiConfig) (opened written : Bool) (padding : UInt8),
          (opened && written) = false →
          load crc32 (save crc32 prefs config opened written padding) begun uninit =
            load crc32 prefs begun uninit) ∧
        ∀ opened removed : Bool, (opened && removed) = false →
          load crc32 (clear prefs opened removed) begun uninit =
            load crc32 prefs begun uninit) := by
  refine ⟨load_unopened crc32 prefs uninit, load_none crc32 prefs uninit, ?_, ?_,
    load_clear crc32 prefs uninit, ?_⟩
  · intro data hentry hsize
    have hbytes := WifiConfigBlob.bytes_ofBytes data hsize
    exact ⟨_, hbytes, load_blob crc32 prefs uninit _ (hbytes.symm ▸ hentry)⟩
  · intro config padding hssid hpassword
    exact load_save crc32 prefs uninit hssid hpassword padding
  · intro begun
    constructor
    · intro config opened written padding hfailed
      rw [save_failed crc32 prefs config padding hfailed]
    · intro opened removed hfailed
      rw [clear_failed prefs hfailed]

section Example

/-- The network `"h"`, with the password `"p"`. -/
def homeWifi : WifiConfig where
  enabled := 1
  ssid := ⟨104 :: List.replicate 32 0, rfl⟩
  password := ⟨112 :: List.replicate 64 0, rfl⟩

/-- One bit of a CRC-32, the lowest first. -/
def crc32Bit (crc : UInt32) : UInt32 :=
  if crc &&& 1 = 1 then (crc >>> 1) ^^^ 0xEDB88320 else crc >>> 1

/-- The CRC-32 of Ethernet and zip. -/
def crc32Ieee (bytes : List UInt8) : UInt32 :=
  bytes.foldl (fun crc b => Nat.repeat crc32Bit 8 (crc ^^^ b.toUInt32)) 0xFFFFFFFF ^^^ 0xFFFFFFFF

/-- Its check value, for `"123456789"`. -/
example : crc32Ieee [49, 50, 51, 52, 53, 54, 55, 56, 57] = 0xCBF43926 := by decide +kernel

/-- The network that is saved is the one that is loaded. -/
theorem saved_network_loaded :
    (load crc32Ieee (save crc32Ieee Preferences.empty homeWifi true true 0)
      true homeWifi).ssid.cstr.val = [104] := by
  obtain ⟨_, _, _, hsaved, _⟩ := config_persists crc32Ieee Preferences.empty homeWifi
  have hssid : homeWifi.ssid.Terminated := List.mem_cons_of_mem _ List.mem_cons_self
  have hpassword : homeWifi.password.Terminated := List.mem_cons_of_mem _ List.mem_cons_self
  have hname : homeWifi.ssid.cstr = ⟨[104], by decide⟩ := CArray.cstr_eq (List.replicate 31 0) rfl
  rw [(hsaved homeWifi 0 hssid hpassword).2.1, hname]

/-- An intact blob is in the store, but the store does not open: the load gives the default. -/
theorem unopened_load_default :
    let blob : WifiConfigBlob :=
      { config := homeWifi, padding := 0, crc := crc32Ieee homeWifi.bytes }
    let prefs := Preferences.empty.putBytes NVS_KEY blob.bytes
    prefs.entry NVS_KEY = some (.bytes blob.bytes) ∧ blob.bytes.length = BLOB_SIZE ∧
      blob.crc = crc32Ieee blob.config.bytes ∧
      load crc32Ieee prefs false homeWifi ≠ blob.config.terminate := by
  intro blob prefs
  refine ⟨rfl, rfl, rfl, ?_⟩
  intro heq
  exact absurd (congrArg WifiConfig.enabled heq) (by decide)

end Example
end WifiConfigStore
end UngulaNet.Wifi
