import UngulaNet.Wifi.WifiSta

/-!
# The WiFi access point

`ap_init` of `wifi_ap.cpp`. The access point and the station keep their own variables and
call the same driver, so `WifiModules` has both: the station with the driver, and the
variables of the access point.
-/

namespace UngulaNet.Wifi
set_option autoImplicit false

/-- The SSID is not null; `ap_init` copies from it unasked. -/
structure WifiApConfig where
  ssid : List UInt8
  password : Option (List UInt8) := none
  channel : UInt8 := 0
  maxConnections : UInt8 := 4

structure WifiAp where
  apActive : Bool := false
  netifInitialized : Bool := false
  apNetif : Bool := false
  staNetif : Bool := false
  ipStr : String := "0.0.0.0"
  channel : UInt8 := 0
  deriving DecidableEq

/-- `WifiChannel::ChAuto` -/
def ChAuto : UInt8 := 0

structure WifiModules (δ : Type) where
  sta : WifiSta δ
  ap : WifiAp := {}

namespace WifiModules
variable {δ : Type}

def wifi (m : WifiModules δ) : WifiDriver δ := m.sta.wifi

def setWifi (m : WifiModules δ) (wifi : WifiDriver δ) : WifiModules δ :=
  { m with sta := { m.sta with wifi := wifi } }

variable [EspWifiAp δ]
open EspWifiAp

def perform (m : WifiModules δ) (c : WifiCall) : WifiModules δ := m.setWifi (m.wifi.perform c)

def staInit (m : WifiModules δ) : Bool × WifiModules δ :=
  (m.sta.staInit.1, { m with sta := m.sta.staInit.2 })

def espnowInit (m : WifiModules δ) : Bool × WifiModules δ := m.staInit

/-- A creation returns the handle, or null on failure. -/
def initNetif (m : WifiModules δ) : WifiModules δ :=
  if m.ap.netifInitialized then m
  else
    let m := (m.perform .esp_netif_init).perform .esp_event_loop_create_default
    let (apNetif, wifi) := m.wifi.call .esp_netif_create_default_wifi_ap
    let (staNetif, wifi) := wifi.call .esp_netif_create_default_wifi_sta
    { m.setWifi wifi with
      ap := { m.ap with apNetif := apNetif, staNetif := staNetif, netifInitialized := true } }

def apRecord (config : WifiApConfig) : ApRecord :=
  let password := config.password.getD []
  { ssid := config.ssid.take 31,
    password := password.take 63,
    wpa2 := password ≠ [],
    channel := config.channel,
    max_connection := config.maxConnections }

/-- The DHCP server of the access point is to name the gateway as the name server. -/
def offerDns (m : WifiModules δ) : WifiModules δ :=
  if m.ap.apNetif then m.perform (.esp_netif_dhcps_option 1) else m

def readApIp (m : WifiModules δ) : WifiModules δ :=
  if m.ap.apNetif then
    match esp_netif_get_ap_ip_info m.wifi.dev with
    | some ip => { m with ap := { m.ap with ipStr := ipStr ip } }
    | none => m
  else m

/-- From the start of the radio on. -/
def finishAp (m : WifiModules δ) : Bool × WifiModules δ :=
  let m := m.offerDns.readApIp
  -- bit 1 of the mode is `WIFI_MODE_AP`
  if esp_wifi_get_mode m.wifi.dev &&& 2 = 0 then (false, m)
  else
    let channel := (esp_wifi_get_channel m.wifi.dev).getD ChAuto
    let m := { m with ap := { m.ap with channel := channel } }
    if channel = ChAuto then (false, m)
    else (true, { m with ap := { m.ap with apActive := true } })

def apInit (m : WifiModules δ) (config : WifiApConfig) : Bool × WifiModules δ :=
  if m.ap.apActive then (true, m)
  else
    let m := [.esp_wifi_disconnect, .esp_wifi_stop, .esp_wifi_deinit].foldl perform m.initNetif
    match m.wifi.call .esp_wifi_init with
    | (false, wifi) => (false, m.setWifi wifi)
    | (true, wifi) =>
      match (wifi.perform .esp_wifi_set_storage).call (.esp_wifi_set_mode .WIFI_MODE_APSTA) with
      | (false, wifi) => (false, m.setWifi wifi)
      | (true, wifi) =>
        match wifi.call (.esp_wifi_set_ap_config (apRecord config)) with
        | (false, wifi) => (false, m.setWifi wifi)
        | (true, wifi) =>
          match wifi.call .esp_wifi_start with
          | (false, wifi) => (false, m.setWifi wifi)
          | (true, wifi) => (m.setWifi wifi).finishAp

end WifiModules

inductive InitOp where
  | staInit
  | espnowInit
  | apInit (config : WifiApConfig)

def InitOp.apply {δ : Type} [EspWifiAp δ] (m : WifiModules δ) : InitOp → WifiModules δ
  | .staInit => m.staInit.2
  | .espnowInit => m.espnowInit.2
  | .apInit config => (m.apInit config).2

end UngulaNet.Wifi
