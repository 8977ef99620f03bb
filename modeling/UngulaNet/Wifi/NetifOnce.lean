import UngulaNet.Foundation.Runs
import UngulaNet.Wifi.WifiAp

/-!
# Default interfaces

The station and the access point each create the default station interface, and neither
knows of the other. The access point remembers that it did; the station remembers only an
initialisation that went through to its end.
-/

namespace UngulaNet.Wifi
open Runs
set_option autoImplicit false

variable {δ : Type}

/-- The two calls that create a default interface. -/
def CreatesNetif (c : WifiCall) : Prop :=
  c = .esp_netif_create_default_wifi_sta ∨ c = .esp_netif_create_default_wifi_ap

instance (c : WifiCall) : Decidable (CreatesNetif c) := inferInstanceAs (Decidable (_ ∨ _))

/-- How often the call was made. -/
def made (c : WifiCall) (w : WifiDriver δ) : Nat := w.calls.count c

/-- No default interface is created on the way from `w` to `w'`. -/
def NoNewNetif (w w' : WifiDriver δ) : Prop := ∀ c, CreatesNetif c → made c w' = made c w

theorem NoNewNetif.refl (w : WifiDriver δ) : NoNewNetif w w := fun _ _ => rfl

theorem NoNewNetif.trans {w w' w'' : WifiDriver δ} (h : NoNewNetif w w') (h' : NoNewNetif w' w'') :
    NoNewNetif w w'' := fun c hc => (h' c hc).trans (h c hc)

section Driver
variable [EspWifi δ] {w w' : WifiDriver δ} {c : WifiCall} {ok : Bool}

theorem NoNewNetif.perform (w : WifiDriver δ) (hc : ¬CreatesNetif c) :
    NoNewNetif w (w.perform c) := by
  intro c' hc'
  have hne : c ≠ c' := fun heq => hc (heq ▸ hc')
  simp [made, List.count_append, hne]

theorem NoNewNetif.call (h : w.call c = (ok, w')) (hc : ¬CreatesNetif c) : NoNewNetif w w' := by
  have hw : w' = w.perform c := (congrArg Prod.snd h).symm
  rw [hw]
  exact NoNewNetif.perform w hc

theorem staInit_done {s : WifiSta δ} (h : s.staInitialized = true) : s.staInit = (true, s) :=
  if_pos h

/-- A `sta_init` that has not gone through before creates the station interface, whatever
becomes of it. -/
theorem staInit_creates {s : WifiSta δ} (h : s.staInitialized = false) :
    made .esp_netif_create_default_wifi_sta s.staInit.2.wifi =
        made .esp_netif_create_default_wifi_sta s.wifi + 1 ∧
      made .esp_netif_create_default_wifi_ap s.staInit.2.wifi =
        made .esp_netif_create_default_wifi_ap s.wifi := by
  rw [WifiSta.staInit, if_neg (by simp [h])]
  generalize hs₀ : List.foldl WifiSta.perform s _ = s₀
  have hcreated : made .esp_netif_create_default_wifi_sta s₀.wifi =
        made .esp_netif_create_default_wifi_sta s.wifi + 1 ∧
      made .esp_netif_create_default_wifi_ap s₀.wifi =
        made .esp_netif_create_default_wifi_ap s.wifi := by
    rw [← hs₀]
    simp [made, WifiSta.perform, List.count_append]
  have hrest : ∀ {w : WifiDriver δ}, NoNewNetif s₀.wifi w →
      made .esp_netif_create_default_wifi_sta w =
        made .esp_netif_create_default_wifi_sta s.wifi + 1 ∧
      made .esp_netif_create_default_wifi_ap w =
        made .esp_netif_create_default_wifi_ap s.wifi := by
    intro w hw
    rw [hw _ (Or.inl rfl), hw _ (Or.inr rfl)]
    exact hcreated
  dsimp only
  split
  · rename_i hinit
    exact hrest (.call hinit (by decide))
  · rename_i wifi hinit
    have hstored := (NoNewNetif.call hinit (by decide)).trans
      (NoNewNetif.perform wifi (c := .esp_wifi_set_storage) (by decide))
    split
    · rename_i hmode
      exact hrest (hstored.trans (.call hmode (by decide)))
    · rename_i hmode
      have hset := hstored.trans (.call hmode (by decide))
      split
      · rename_i hstart
        exact hrest (hset.trans (.call hstart (by decide)))
      · rename_i hstart
        exact hrest (hset.trans (.call hstart (by decide)))

end Driver

/-- The rest of `ap_init`: no interface is created, and the two flags stay. -/
structure Continues (m m' : WifiModules δ) : Prop where
  netif : NoNewNetif m.wifi m'.wifi
  netifInitialized : m'.ap.netifInitialized = m.ap.netifInitialized
  staInitialized : m'.sta.staInitialized = m.sta.staInitialized

theorem Continues.setWifi {m : WifiModules δ} {w : WifiDriver δ} (h : NoNewNetif m.wifi w) :
    Continues m (m.setWifi w) := ⟨h, rfl, rfl⟩

theorem Continues.trans {m m' m'' : WifiModules δ} (h : Continues m m') (h' : Continues m' m'') :
    Continues m m'' :=
  ⟨h.netif.trans h'.netif, h'.netifInitialized.trans h.netifInitialized,
    h'.staInitialized.trans h.staInitialized⟩

section Modules
variable [EspWifiAp δ] {m : WifiModules δ}

theorem initNetif_done (h : m.ap.netifInitialized = true) : m.initNetif = m := if_pos h

theorem initNetif_creates (h : m.ap.netifInitialized = false) :
    made .esp_netif_create_default_wifi_sta m.initNetif.wifi =
        made .esp_netif_create_default_wifi_sta m.wifi + 1 ∧
      made .esp_netif_create_default_wifi_ap m.initNetif.wifi =
        made .esp_netif_create_default_wifi_ap m.wifi + 1 := by
  rw [WifiModules.initNetif, if_neg (by simp [h])]
  simp [made, WifiModules.perform, WifiModules.wifi, WifiModules.setWifi, List.count_append]

theorem initNetif_fields (m : WifiModules δ) : m.initNetif.ap.netifInitialized = true ∧
    m.initNetif.ap.apActive = m.ap.apActive ∧
    m.initNetif.sta.staInitialized = m.sta.staInitialized := by
  unfold WifiModules.initNetif
  split
  · rename_i h
    exact ⟨h, rfl, rfl⟩
  · exact ⟨rfl, rfl, rfl⟩

theorem Continues.perform (m : WifiModules δ) {c : WifiCall} (hc : ¬CreatesNetif c) :
    Continues m (m.perform c) := .setWifi (.perform m.wifi hc)

theorem offerDns_continues (m : WifiModules δ) : Continues m m.offerDns := by
  unfold WifiModules.offerDns
  split
  · exact Continues.perform m (by decide)
  · exact ⟨.refl m.wifi, rfl, rfl⟩

theorem readApIp_continues (m : WifiModules δ) : Continues m m.readApIp := by
  unfold WifiModules.readApIp
  split
  · split <;> exact ⟨.refl m.wifi, rfl, rfl⟩
  · exact ⟨.refl m.wifi, rfl, rfl⟩

theorem finishAp_continues (m : WifiModules δ) : Continues m m.finishAp.2 := by
  refine ((offerDns_continues m).trans (readApIp_continues _)).trans ?_
  unfold WifiModules.finishAp
  generalize m.offerDns.readApIp = m'
  dsimp only
  split
  · exact ⟨.refl m'.wifi, rfl, rfl⟩
  · split <;> exact ⟨.refl m'.wifi, rfl, rfl⟩

theorem apInit_continues (h : m.ap.apActive = false) (config : WifiApConfig) :
    Continues m.initNetif (m.apInit config).2 := by
  rw [WifiModules.apInit, if_neg (by simp [h])]
  generalize hm₀ : List.foldl WifiModules.perform m.initNetif _ = m₀
  have hreset : Continues m.initNetif m₀ := by
    rw [← hm₀]
    exact ((Continues.perform _ (by decide)).trans (.perform _ (by decide))).trans
      (.perform _ (by decide))
  refine hreset.trans ?_
  dsimp only
  split
  · rename_i hinit
    exact .setWifi (.call hinit (by decide))
  · rename_i wifi hinit
    have hstored := (NoNewNetif.call hinit (by decide)).trans
      (NoNewNetif.perform wifi (c := .esp_wifi_set_storage) (by decide))
    split
    · rename_i hmode
      exact .setWifi (hstored.trans (.call hmode (by decide)))
    · rename_i hmode
      have hset := hstored.trans (.call hmode (by decide))
      split
      · rename_i hconfig
        exact .setWifi (hset.trans (.call hconfig (of_decide_eq_false rfl)))
      · rename_i hconfig
        have hconfigured := hset.trans (.call hconfig (of_decide_eq_false rfl))
        split
        · rename_i hstart
          exact .setWifi (hconfigured.trans (.call hstart (by decide)))
        · rename_i hstart
          exact (Continues.setWifi (hconfigured.trans (.call hstart (by decide)))).trans
            (finishAp_continues _)

namespace InitOp

/-- The module of the call has its interfaces, and remembers it. -/
def Done (m : WifiModules δ) : InitOp → Prop
  | .staInit | .espnowInit => m.sta.staInitialized = true
  | .apInit _ => m.ap.netifInitialized = true

end InitOp

/-- What a run from boot keeps. -/
structure NetifInv (m : WifiModules δ) : Prop where
  active : m.ap.apActive = true → m.ap.netifInitialized = true
  ap_made : made .esp_netif_create_default_wifi_ap m.wifi =
    if m.ap.netifInitialized then 1 else 0

theorem staInit_netifInv (h : NetifInv m) : NetifInv m.staInit.2 := by
  refine ⟨h.active, Eq.trans ?_ h.ap_made⟩
  cases hdone : m.sta.staInitialized with
  | true =>
    rw [WifiModules.wifi, WifiModules.staInit, staInit_done hdone]
    rfl
  | false => exact (staInit_creates hdone).2

theorem apInit_netifInv (h : NetifInv m) (config : WifiApConfig) :
    NetifInv (m.apInit config).2 := by
  cases hactive : m.ap.apActive with
  | true =>
    rw [WifiModules.apInit, if_pos hactive]
    exact h
  | false =>
    have hrest := apInit_continues hactive config
    have hset := hrest.netifInitialized.trans (initNetif_fields m).1
    refine ⟨fun _ => hset, ?_⟩
    rw [hset, hrest.netif _ (Or.inr rfl)]
    cases hdone : m.ap.netifInitialized with
    | true => rw [initNetif_done hdone, h.ap_made, hdone]
    | false => rw [(initNetif_creates hdone).2, h.ap_made, hdone]; rfl

theorem apply_netifInv (m : WifiModules δ) (op : InitOp) (h : NetifInv m) :
    NetifInv (op.apply m) := by
  cases op with
  | staInit | espnowInit => exact staInit_netifInv h
  | apInit config => exact apInit_netifInv h config

/-- The station interfaces created so far. -/
def staNetifs (m : WifiModules δ) : Nat := made .esp_netif_create_default_wifi_sta m.wifi

theorem staNetifs_staInit (m : WifiModules δ) :
    (m.sta.staInitialized = true → staNetifs m.staInit.2 = staNetifs m) ∧
      (m.sta.staInitialized ≠ true → staNetifs m.staInit.2 = staNetifs m + 1) := by
  constructor
  · intro hdone
    rw [staNetifs, WifiModules.wifi, WifiModules.staInit, staInit_done hdone]
    rfl
  · intro hdone
    exact (staInit_creates (Bool.eq_false_iff.mpr hdone)).1

/-- A step creates a station interface, one, unless its module is done. -/
theorem staNetifs_apply (h : NetifInv m) (op : InitOp) :
    (op.Done m → staNetifs (op.apply m) = staNetifs m) ∧
      (¬op.Done m → staNetifs (op.apply m) = staNetifs m + 1) := by
  cases op with
  | staInit | espnowInit => exact staNetifs_staInit m
  | apInit config =>
    cases hactive : m.ap.apActive with
    | true =>
      have hsame : InitOp.apply m (.apInit config) = m := by
        rw [InitOp.apply, WifiModules.apInit, if_pos hactive]
      rw [hsame]
      exact ⟨fun _ => rfl, fun hdone => absurd (h.active hactive) hdone⟩
    | false =>
      have hrest : staNetifs (InitOp.apply m (.apInit config)) = staNetifs m.initNetif :=
        (apInit_continues hactive config).netif _ (Or.inl rfl)
      rw [hrest]
      constructor
      · intro hdone
        rw [initNetif_done hdone]
      · intro hdone
        exact (initNetif_creates (Bool.eq_false_iff.mpr hdone)).1

/-- The modules after power-on. -/
def boot (dev : δ) : WifiModules δ := { sta := { wifi := { dev := dev } } }

omit [EspWifiAp δ] in
theorem boot_netifInv (dev : δ) : NetifInv (boot dev) :=
  ⟨fun h => absurd h Bool.false_ne_true, rfl⟩

/-- Every call but the first finds its module done. -/
def LaterDone (dev : δ) : List InitOp → Prop
  | [] => True
  | op :: ops => EachStep InitOp.apply (fun m op => op.Done m) (op.apply (boot dev)) ops

/-- A run of initialisations creates each default interface at most once exactly when every
call but the first finds its module done. -/
theorem netifs_created_once_iff (dev : δ) (ops : List InitOp) :
    made .esp_netif_create_default_wifi_sta (run InitOp.apply (boot dev) ops).wifi ≤ 1 ∧
        made .esp_netif_create_default_wifi_ap (run InitOp.apply (boot dev) ops).wifi ≤ 1 ↔
      LaterDone dev ops := by
  have hap : made .esp_netif_create_default_wifi_ap (run InitOp.apply (boot dev) ops).wifi ≤ 1 := by
    have hinv := (eachState_invariant NetifInv (boot_netifInv dev) ops apply_netifInv).last
    rw [hinv.ap_made]
    split <;> omega
  rw [and_iff_left hap]
  cases ops with
  | nil => exact iff_of_true (Nat.zero_le 1) trivial
  | cons op ops =>
    have hfirst : staNetifs (op.apply (boot dev)) = 1 := by
      refine (staNetifs_apply (boot_netifInv dev) op).2 ?_
      cases op <;> exact Bool.false_ne_true
    have hnext := apply_netifInv (boot dev) op (boot_netifInv dev)
    have hmono : ∀ (m : WifiModules δ) (op : InitOp), NetifInv m →
        staNetifs m ≤ staNetifs (op.apply m) := by
      intro m op h
      obtain ⟨hkeeps, hcreates⟩ := staNetifs_apply h op
      by_cases hdone : op.Done m
      · exact Nat.le_of_eq (hkeeps hdone).symm
      · rw [hcreates hdone]
        exact Nat.le_succ _
    have hrun : staNetifs (run InitOp.apply (op.apply (boot dev)) ops) ≤
        staNetifs (op.apply (boot dev)) ↔ _ :=
      run_measure_le_iff NetifInv staNetifs apply_netifInv hmono hnext
    rw [hfirst] at hrun
    refine hrun.trans (eachStep_congr NetifInv hnext (eachStep_true _ ops)
      (fun m op h _ => apply_netifInv m op h) ?_)
    intro m op h _
    obtain ⟨hkeeps, hcreates⟩ := staNetifs_apply h op
    constructor
    · intro hsame
      by_contra hdone
      have hmore := hcreates hdone
      omega
    · exact hkeeps

end Modules

section Example

/-- A driver on which the first `esp_wifi_init` fails. -/
structure FlakyWifi where
  tried : Bool := false
  deriving DecidableEq

instance : EspWifiAp FlakyWifi where
  call d c := if c = .esp_wifi_init then (d.tried, ⟨true⟩) else (true, d)
  has_sta_netif _ := true
  esp_netif_get_dns_info _ _ := none
  esp_netif_get_ip_info _ := none
  esp_netif_get_ap_ip_info _ := none
  esp_wifi_get_mode _ := 3
  esp_wifi_get_channel _ := some 6

/-- The retry of a failed `sta_init` succeeds, with the interface created a second time. -/
theorem retry_creates_twice :
    ((boot ({} : FlakyWifi)).staInit.1, (boot ({} : FlakyWifi)).staInit.2.staInit.1) =
        (false, true) ∧
      made .esp_netif_create_default_wifi_sta
        (run InitOp.apply (boot ({} : FlakyWifi)) [.staInit, .staInit]).wifi = 2 := by
  decide

end Example
end UngulaNet.Wifi
