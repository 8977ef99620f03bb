import Mathlib.Data.List.Basic

/-!
# The WiFi driver

The ESP-IDF and lwIP calls of the WiFi modules. The driver is a parameter: a type of
driver states with what a call does to them, its `Bool` result standing for
`err == ESP_OK`. `WifiDriver` is a driver together with the calls made on it and its answers to
them, oldest first.
-/

namespace UngulaNet.Wifi
set_option autoImplicit false

inductive WifiMode where
  | WIFI_MODE_STA
  | WIFI_MODE_APSTA
  deriving DecidableEq

inductive DnsType where
  | ESP_NETIF_DNS_MAIN
  | ESP_NETIF_DNS_BACKUP
  deriving DecidableEq

/-- The access point part of a `wifi_config_t`. -/
structure ApRecord where
  ssid : List UInt8
  password : List UInt8
  wpa2 : Bool
  channel : UInt8
  max_connection : UInt8
  deriving DecidableEq

/-- `esp_wifi_set_config` is `esp_wifi_set_ap_config` for `WIFI_IF_AP`. -/
inductive WifiCall where
  | esp_netif_init
  | esp_event_loop_create_default
  | esp_netif_create_default_wifi_sta
  | esp_netif_create_default_wifi_ap
  | esp_wifi_disconnect
  | esp_wifi_stop
  | esp_wifi_deinit
  | esp_wifi_init
  | esp_wifi_set_storage
  | esp_wifi_set_mode (mode : WifiMode)
  | esp_wifi_start
  | esp_wifi_set_config (ssid password : List UInt8)
  | esp_wifi_set_ap_config (config : ApRecord)
  | esp_wifi_connect
  | esp_netif_dhcps_option (offerDns : UInt8)
  | esp_netif_set_default_netif
  | dns_setserver (index : UInt8) (addr : UInt32)
  deriving DecidableEq

/-- `has_sta_netif` is whether `esp_netif_get_handle_from_ifkey("WIFI_STA_DEF")` returns a
handle; the two queries are of that interface, `none` when they fail. -/
class EspWifi (δ : Type) where
  call : δ → WifiCall → Bool × δ
  has_sta_netif : δ → Bool
  esp_netif_get_dns_info : δ → DnsType → Option UInt32
  esp_netif_get_ip_info : δ → Option UInt32

/-- The further queries of the access point. `esp_wifi_get_mode` is what its caller's
variable holds afterwards, whether or not the call succeeds. -/
class EspWifiAp (δ : Type) extends EspWifi δ where
  esp_netif_get_ap_ip_info : δ → Option UInt32
  esp_wifi_get_mode : δ → UInt8
  esp_wifi_get_channel : δ → Option UInt8

structure WifiDriver (δ : Type) where
  dev : δ
  log : List (WifiCall × Bool) := []

namespace WifiDriver
variable {δ : Type}

def calls (w : WifiDriver δ) : List WifiCall := w.log.map Prod.fst

variable [EspWifi δ]

def call (w : WifiDriver δ) (c : WifiCall) : Bool × WifiDriver δ :=
  let (ok, dev) := EspWifi.call w.dev c
  (ok, { dev := dev, log := w.log ++ [(c, ok)] })

def perform (w : WifiDriver δ) (c : WifiCall) : WifiDriver δ := (w.call c).2

@[simp] theorem calls_call (w : WifiDriver δ) (c : WifiCall) :
    (w.call c).2.calls = w.calls ++ [c] := List.map_append

@[simp] theorem calls_perform (w : WifiDriver δ) (c : WifiCall) :
    (w.perform c).calls = w.calls ++ [c] := w.calls_call c

end WifiDriver

/-- A driver on which every call succeeds, with the address and the name servers that its
station interface has. -/
structure SimWifi where
  ip : UInt32
  dnsMain : UInt32
  dnsBackup : UInt32
  deriving DecidableEq

instance : EspWifi SimWifi where
  call d _ := (true, d)
  has_sta_netif _ := true
  esp_netif_get_dns_info
    | d, .ESP_NETIF_DNS_MAIN => some d.dnsMain
    | d, .ESP_NETIF_DNS_BACKUP => some d.dnsBackup
  esp_netif_get_ip_info d := some d.ip

instance : EspWifiAp SimWifi where
  esp_netif_get_ap_ip_info d := some d.ip
  esp_wifi_get_mode _ := 3
  esp_wifi_get_channel _ := some 6

end UngulaNet.Wifi
