import UngulaNet.Wifi.NetifOnce
import UngulaNet.Wifi.StaReconnect

/-!
# The radio of the access point

Both modules take the radio down and set it up again: `ap_init` for the access point,
`sta_init` without it. Neither asks the other, and nothing clears `s_ap_active`. So the
set-up of an access point that reports itself active is the last one until a `sta_init`
goes to work after it, and from then on it is not, whatever is called.
-/

namespace UngulaNet.Wifi
open Runs
set_option autoImplicit false

/-- The calls that take the radio down and those that set it up. -/
def SetsRadio : WifiCall → Bool
  | .esp_wifi_stop | .esp_wifi_deinit | .esp_wifi_init | .esp_wifi_set_mode _
  | .esp_wifi_set_ap_config _ | .esp_wifi_start => true
  | _ => false

def setUpStep (setUp : List (WifiCall × Bool)) (call : WifiCall × Bool) :
    List (WifiCall × Bool) :=
  if call.1 = .esp_wifi_deinit then []
  else if SetsRadio call.1 then setUp ++ [call]
  else setUp

/-- The set-up of an access point, every call of it answered with `ESP_OK`. -/
def apSetUp (config : WifiApConfig) : List (WifiCall × Bool) :=
  [(.esp_wifi_init, true), (.esp_wifi_set_mode .WIFI_MODE_APSTA, true),
    (.esp_wifi_set_ap_config (WifiModules.apRecord config), true), (.esp_wifi_start, true)]

namespace WifiDriver
variable {δ : Type}

/-- The calls since the last `esp_wifi_deinit`, with their answers. -/
def setUp (w : WifiDriver δ) : List (WifiCall × Bool) := w.log.foldl setUpStep []

/-- The radio was last set up for an access point. -/
def ForAp (w : WifiDriver δ) : Prop := ∃ config, w.setUp = apSetUp config

variable [EspWifi δ] {w w' : WifiDriver δ} {c : WifiCall} {ok : Bool}

theorem setUp_call (h : w.call c = (ok, w')) : w'.setUp = setUpStep w.setUp (c, ok) := by
  have hanswer : (EspWifi.call w.dev c).1 = ok := congrArg Prod.fst h
  have hlog : w' = ⟨(EspWifi.call w.dev c).2, w.log ++ [(c, (EspWifi.call w.dev c).1)]⟩ :=
    (congrArg Prod.snd h).symm
  rw [hlog, setUp, List.foldl_append, hanswer]
  rfl

theorem setUp_perform (w : WifiDriver δ) (c : WifiCall) :
    (w.perform c).setUp = setUpStep w.setUp (c, (w.call c).1) := setUp_call rfl

theorem setUp_deinit (w : WifiDriver δ) : (w.perform .esp_wifi_deinit).setUp = [] :=
  w.setUp_perform .esp_wifi_deinit

theorem setUp_kept (w : WifiDriver δ) (hc : SetsRadio c = false) :
    (w.perform c).setUp = w.setUp := by
  have hne : c ≠ .esp_wifi_deinit := fun heq => by simp [heq, SetsRadio] at hc
  rw [setUp_perform, setUpStep, if_neg hne, if_neg (Bool.eq_false_iff.mp hc)]

theorem setUp_kept_call (h : w.call c = (ok, w')) (hc : SetsRadio c = false) :
    w'.setUp = w.setUp := by
  have hw : w' = w.perform c := (congrArg Prod.snd h).symm
  rw [hw, setUp_kept w hc]

end WifiDriver

/-! ## The station -/

namespace WifiSta
variable {δ : Type} [EspWifi δ]

/-- A `sta_init` that goes to work leaves the radio without the access point, whether or not
it succeeds. -/
theorem staInit_notForAp {s : WifiSta δ} (h : s.staInitialized = false) :
    ¬ s.staInit.2.wifi.ForAp := by
  have hshort : ∀ {w : WifiDriver δ}, w.setUp.length < 4 → ¬ w.ForAp := by
    rintro w hlength ⟨config, hsetUp⟩
    rw [hsetUp] at hlength
    exact absurd hlength (Nat.lt_irrefl 4)
  rw [staInit, if_neg (by simp [h])]
  generalize hs₀ : List.foldl perform s _ = s₀
  have hdown : s₀.wifi.setUp = [] := by
    rw [← hs₀]
    exact WifiDriver.setUp_deinit _
  dsimp only
  split
  · rename_i wifi hinit
    refine hshort ?_
    rw [WifiDriver.setUp_call hinit, hdown]
    decide
  · rename_i wifi hinit
    have hstored : (wifi.perform .esp_wifi_set_storage).setUp = [(.esp_wifi_init, true)] := by
      rw [WifiDriver.setUp_kept wifi rfl, WifiDriver.setUp_call hinit, hdown]
      rfl
    split
    · rename_i wifi' hmode
      refine hshort ?_
      rw [WifiDriver.setUp_call hmode, hstored]
      decide
    · rename_i wifi' hmode
      have hset : wifi'.setUp =
          [(.esp_wifi_init, true), (.esp_wifi_set_mode .WIFI_MODE_STA, true)] := by
        rw [WifiDriver.setUp_call hmode, hstored]
        rfl
      split
      · rename_i wifi'' hstart
        refine hshort ?_
        rw [WifiDriver.setUp_call hstart, hset]
        decide
      · rename_i wifi'' hstart
        have hstarted : wifi''.setUp.length < 4 := by
          rw [WifiDriver.setUp_call hstart, hset]
          decide
        exact hshort hstarted

theorem staConnect_setUp (s : WifiSta δ) (config : WifiStaConfig) :
    (s.staConnect config).2.wifi.setUp = s.wifi.setUp := by
  unfold staConnect
  split
  · rfl
  · dsimp only
    split
    · rename_i hconfig
      exact WifiDriver.setUp_kept_call hconfig rfl
    · rename_i wifi hconfig
      have hset : wifi.setUp = s.wifi.setUp := WifiDriver.setUp_kept_call hconfig rfl
      split
      · rename_i hconnect
        exact (WifiDriver.setUp_kept_call hconnect rfl).trans hset
      · rename_i hconnect
        exact (WifiDriver.setUp_kept_call hconnect rfl).trans hset

theorem staConnectWoken_setUp (s : WifiSta δ) (bits : EventBits) :
    (s.staConnectWoken bits).2.wifi.setUp = s.wifi.setUp := by
  unfold staConnectWoken
  dsimp only
  split
  · split
    · split <;> rfl
    · rfl
  · exact s.wifi.setUp_kept rfl

theorem applyStaDnsAndRoute_setUp (s : WifiSta δ) :
    s.applyStaDnsAndRoute.wifi.setUp = s.wifi.setUp := by
  unfold applyStaDnsAndRoute
  split
  · rfl
  · dsimp only
    have hrouted := (s.wifi.setUp_kept (c := .esp_netif_set_default_netif) rfl)
    split
    · refine ((WifiDriver.setUp_kept _ rfl).trans (WifiDriver.setUp_kept _ rfl)).trans ?_
      rw [(snapshotDns_kept _).1]
      exact hrouted
    · refine (WifiDriver.setUp_kept _ rfl).trans ?_
      rw [(snapshotDns_kept _).1]
      exact hrouted

theorem deliver_setUp (s : WifiSta δ) (ev : WifiEvent) :
    (s.deliver ev).wifi.setUp = s.wifi.setUp := by
  unfold deliver
  split
  · cases ev with
    | IP_EVENT_STA_GOT_IP => exact s.applyStaDnsAndRoute_setUp
    | WIFI_EVENT_STA_DISCONNECTED reason =>
      cases disconnect_effect s reason with
      | voluntary _ eq => rw [eq]; rfl
      | first _ _ eq => rw [eq]; exact s.wifi.setUp_kept rfl
      | retries _ _ _ eq => rw [eq]; exact s.wifi.setUp_kept rfl
      | fails _ _ _ eq => rw [eq]; rfl
  · rfl

end WifiSta

/-! ## The access point -/

section Modules
variable {δ : Type} [EspWifiAp δ]
open EspWifiAp

theorem finishAp_setUp (m : WifiModules δ) : m.finishAp.2.wifi.setUp = m.wifi.setUp := by
  have hoffer : m.offerDns.wifi.setUp = m.wifi.setUp := by
    unfold WifiModules.offerDns
    split
    · exact m.wifi.setUp_kept rfl
    · rfl
  have hread : m.offerDns.readApIp.wifi.setUp = m.offerDns.wifi.setUp := by
    unfold WifiModules.readApIp
    split
    · split <;> rfl
    · rfl
  rw [← hoffer, ← hread]
  unfold WifiModules.finishAp
  dsimp only
  split
  · rfl
  · split <;> rfl

/-- An access point that comes up in a call has the radio then. -/
theorem apInit_forAp {m : WifiModules δ} (h : m.ap.apActive = false) (config : WifiApConfig)
    (hactive : (m.apInit config).2.ap.apActive = true) :
    (m.apInit config).2.wifi.setUp = apSetUp config := by
  rw [WifiModules.apInit, if_neg (by simp [h])] at hactive ⊢
  have hinactive : (List.foldl WifiModules.perform m.initNetif
      [.esp_wifi_disconnect, .esp_wifi_stop, .esp_wifi_deinit]).ap.apActive = false :=
    (initNetif_fields m).2.1.trans h
  have hdown : (List.foldl WifiModules.perform m.initNetif
      [.esp_wifi_disconnect, .esp_wifi_stop, .esp_wifi_deinit]).wifi.setUp = [] :=
    WifiDriver.setUp_deinit _
  generalize List.foldl WifiModules.perform m.initNetif _ = m₀ at hactive hinactive hdown ⊢
  have hfails : ∀ wifi, (m₀.setWifi wifi).ap.apActive ≠ true := fun wifi =>
    Bool.eq_false_iff.mp hinactive
  dsimp only at hactive ⊢
  split at hactive
  · exact absurd hactive (hfails _)
  · split at hactive
    · exact absurd hactive (hfails _)
    · rename_i wifi hinit _ wifi' hmode
      split at hactive
      · exact absurd hactive (hfails _)
      · rename_i wifi'' hconfig
        split at hactive
        · exact absurd hactive (hfails _)
        · rename_i wifiUp hstart
          refine (finishAp_setUp _).trans ?_
          change wifiUp.setUp = _
          rw [WifiDriver.setUp_call hstart, WifiDriver.setUp_call hconfig,
            WifiDriver.setUp_call hmode, WifiDriver.setUp_kept wifi rfl,
            WifiDriver.setUp_call hinit, hdown]
          rfl

/-! ## Both modules at work -/

/-- The modules, and where the task that calls the station functions stands. -/
structure WifiTask (δ : Type) where
  modules : WifiModules δ
  call : StaCall := .idle

/-- An initialisation, or an operation of the station. -/
inductive WifiOp where
  | init (op : InitOp)
  | sta (op : StaOp)

def WifiOp.apply (t : WifiTask δ) : WifiOp → WifiTask δ
  | .init op => if t.call = .idle then { t with modules := op.apply t.modules } else t
  | .sta op =>
    let task : StaTask δ := op.apply { sta := t.modules.sta, call := t.call }
    { modules := { t.modules with sta := task.sta }, call := task.call }

/-- The initialisation of the station that an operation makes. -/
def WifiOp.InitsSta : WifiOp → Prop
  | .init .staInit | .init .espnowInit | .sta .staInit => True
  | _ => False

/-- The operation sets up the radio for the station. -/
def ResetsRadio (t : WifiTask δ) (op : WifiOp) : Prop :=
  op.InitsSta ∧ t.call = .idle ∧ t.modules.sta.staInitialized = false

theorem staOp_setUp (t : StaTask δ) {op : StaOp} (h : op ≠ .staInit) :
    (op.apply t).sta.wifi.setUp = t.sta.wifi.setUp := by
  cases op with
  | staInit => exact absurd rfl h
  | staConnect config =>
    rw [StaOp.apply]
    split
    · exact t.sta.staConnect_setUp config
    · rfl
  | woken bits =>
    rw [StaOp.apply]
    split
    · exact t.sta.staConnectWoken_setUp bits
    · rfl
  | staDisconnect =>
    rw [StaOp.apply]
    split
    · exact t.sta.wifi.setUp_kept rfl
    · rfl
  | returns =>
    rw [StaOp.apply]
    split <;> rfl
  | staRefreshDns => exact t.sta.applyStaDnsAndRoute_setUp
  | event ev => exact t.sta.deliver_setUp ev

/-- What an operation does to the radio and the access point. -/
inductive RadioEffect (t : WifiTask δ) (op : WifiOp) (t' : WifiTask δ) : Prop where
  | kept (apart : ¬ ResetsRadio t op)
      (ap : t'.modules.ap.apActive = t.modules.ap.apActive)
      (setUp : t'.modules.wifi.setUp = t.modules.wifi.setUp)
  | reset (resets : ResetsRadio t op) (ap : t'.modules.ap.apActive = t.modules.ap.apActive)
      (off : ¬ t'.modules.wifi.ForAp)
  | raised (apart : ¬ ResetsRadio t op) (inactive : t.modules.ap.apActive = false)
      (up : t'.modules.ap.apActive = true → t'.modules.wifi.ForAp)

theorem staInit_effect {t : WifiTask δ} {op : WifiOp} (hop : op.InitsSta) (hidle : t.call = .idle) :
    RadioEffect t op { t with modules := t.modules.staInit.2 } := by
  cases hdone : t.modules.sta.staInitialized with
  | true =>
    have hsame : t.modules.staInit.2 = t.modules := by
      rw [WifiModules.staInit, staInit_done hdone]
    rw [hsame]
    exact .kept (fun h => Bool.noConfusion (h.2.2.symm.trans hdone)) rfl rfl
  | false => exact .reset ⟨hop, hidle, hdone⟩ rfl (WifiSta.staInit_notForAp hdone)

theorem apInit_effect (t : WifiTask δ) (config : WifiApConfig) :
    RadioEffect t (.init (.apInit config)) { t with modules := (t.modules.apInit config).2 } := by
  cases hactive : t.modules.ap.apActive with
  | true =>
    have hsame : (t.modules.apInit config).2 = t.modules := by
      rw [WifiModules.apInit, if_pos hactive]
    rw [hsame]
    exact .kept (fun h => h.1) rfl rfl
  | false =>
    exact .raised (fun h => h.1) hactive fun hup => ⟨config, apInit_forAp hactive config hup⟩

theorem apply_effect (t : WifiTask δ) (op : WifiOp) : RadioEffect t op (op.apply t) := by
  cases op with
  | init op =>
    by_cases hidle : t.call = .idle
    · rw [WifiOp.apply, if_pos hidle]
      cases op with
      | staInit => exact staInit_effect trivial hidle
      | espnowInit => exact staInit_effect trivial hidle
      | apInit config => exact apInit_effect t config
    · rw [WifiOp.apply, if_neg hidle]
      exact .kept (fun h => hidle h.2.1) rfl rfl
  | sta op =>
    by_cases hinit : op = .staInit
    · rw [hinit, WifiOp.apply, StaOp.apply]
      by_cases hidle : t.call = .idle
      · rw [if_pos hidle]
        exact staInit_effect trivial hidle
      · rw [if_neg hidle]
        exact .kept (fun h => hidle h.2.1) rfl rfl
    · refine .kept (fun h => ?_) rfl (staOp_setUp { sta := t.modules.sta, call := t.call } hinit)
      cases op with
      | staInit => exact hinit rfl
      | staConnect | woken | staDisconnect | returns | staRefreshDns | event => exact h.1

def WifiTask.boot (dev : δ) : WifiTask δ := { modules := UngulaNet.Wifi.boot dev }

/-- When an access point reports itself active, the radio was last set up for it, with every
call answered, exactly when no `sta_init` has set it up while the access point was active. -/
theorem ap_has_radio_iff (dev : δ) (ops : List WifiOp) :
    let t := run WifiOp.apply (.boot dev) ops
    t.modules.ap.apActive = true → (t.modules.wifi.ForAp ↔ EachStep WifiOp.apply
      (fun t op => t.modules.ap.apActive = true → ¬ ResetsRadio t op) (.boot dev) ops) := by
  intro t hactive
  have hiff : EachStep WifiOp.apply (fun t op => t.modules.ap.apActive = true → ¬ ResetsRadio t op)
      (.boot dev) ops ↔ ¬ (t.modules.ap.apActive = true ∧ ¬ t.modules.wifi.ForAp) := by
    have hboot : (WifiTask.boot dev).modules.ap.apActive ≠ true := Bool.false_ne_true
    refine eachStep_iff_last
      (fun t : WifiTask δ => t.modules.ap.apActive = true → t.modules.wifi.ForAp)
      (fun t => t.modules.ap.apActive = true ∧ ¬ t.modules.wifi.ForAp)
      (fun _ hup hdown => hdown.2 (hup hdown.1)) ?_ ?_ ?_ (fun h => absurd h hboot) ops
    · intro t op hup hkeeps hactive'
      cases apply_effect t op with
      | kept _ ap setUp =>
        obtain ⟨config, hconfig⟩ := hup (ap.symm.trans hactive')
        exact ⟨config, setUp.trans hconfig⟩
      | reset resets ap _ => exact absurd resets (hkeeps (ap.symm.trans hactive'))
      | raised _ _ up => exact up hactive'
    · intro t op _ hbreaks
      obtain ⟨hactive', hresets⟩ := Classical.not_imp.mp hbreaks
      cases apply_effect t op with
      | kept apart => exact absurd apart hresets
      | reset _ ap off => exact ⟨ap.trans hactive', off⟩
      | raised apart => exact absurd apart hresets
    · rintro t op ⟨hactive', hoff⟩
      cases apply_effect t op with
      | kept _ ap setUp =>
        exact ⟨ap.trans hactive', fun ⟨config, hup⟩ => hoff ⟨config, setUp.symm.trans hup⟩⟩
      | reset _ ap off => exact ⟨ap.trans hactive', off⟩
      | raised _ inactive => exact nomatch inactive.symm.trans hactive'
  rw [hiff]
  exact ⟨fun hup hdown => hdown.2 hup, fun hdown => by_contra fun hoff => hdown ⟨hactive, hoff⟩⟩

end Modules

section Example

def apConfig : WifiApConfig := { ssid := [0x61, 0x70] }

def soundWifi : SimWifi := { ip := 0x0104A8C0, dnsMain := 0, dnsBackup := 0 }

/-- The access point comes up over the station, and a later `sta_init` leaves it alone. -/
theorem ap_over_station :
    (run WifiOp.apply (.boot soundWifi)
      [.init .staInit, .init (.apInit apConfig), .sta .staInit]).modules.wifi.ForAp := by
  refine (ap_has_radio_iff soundWifi [.init .staInit, .init (.apInit apConfig), .sta .staInit]
    (by decide)).mpr ⟨?_, ?_, ?_, trivial⟩
  · exact fun h => nomatch h
  · exact fun h => nomatch h
  · exact fun _ h => nomatch h.2.2

/-- The other way round the access point loses the radio, and `ap_init` does not get it
back. -/
example :
    let t := run WifiOp.apply (.boot soundWifi)
      [.init (.apInit apConfig), .init .staInit, .init (.apInit apConfig)]
    t.modules.ap.apActive = true ∧ t.modules.wifi.setUp = [(.esp_wifi_init, true),
      (.esp_wifi_set_mode .WIFI_MODE_STA, true), (.esp_wifi_start, true)] := by decide

end Example
end UngulaNet.Wifi
