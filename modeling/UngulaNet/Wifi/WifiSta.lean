import UngulaNet.Wifi.EspWifi

/-!
# The WiFi station

`wifi_sta.cpp` as the code computes it. Its file-scope variables are the fields of
`WifiSta`. `sta_connect` blocks in `xEventGroupWaitBits` while the event handler runs in
another task, so it comes in two parts, before and after the wait. The wait ends at any time
and with any bits, without one when it has timed out: which it finds is up to FreeRTOS, so
of the event group the station has the calls it made on it. `sta_disconnect` comes in two
parts as well, since events may be handled before it returns.
-/

namespace UngulaNet.Wifi
set_option autoImplicit false

/-- Strings are their bytes up to the terminating NUL, `none` is a null pointer. -/
structure WifiStaConfig where
  ssid : Option (List UInt8)
  password : Option (List UInt8)

structure EventBits where
  connected : Bool := false
  fail : Bool := false
  deriving DecidableEq

def CONNECTED_BIT : EventBits := { connected := true }

def FAIL_BIT : EventBits := { fail := true }

/-- The clear is of both bits. -/
inductive EventGroupCall where
  | xEventGroupClearBits
  | xEventGroupSetBits (bits : EventBits)
  deriving DecidableEq

def isReconnectableReason (reason : UInt8) : Bool :=
  match reason with
  | 2    -- AUTH_EXPIRE
  | 3    -- AUTH_LEAVE
  | 15   -- 4WAY_HANDSHAKE_TIMEOUT
  | 200  -- BEACON_TIMEOUT
  | 201  -- NO_AP_FOUND
  | 202  -- AUTH_FAIL
  | 203  -- ASSOC_FAIL
  | 204  -- HANDSHAKE_TIMEOUT
  | 205  -- CONNECTION_FAIL
    => true
  | _ => false

/-- `IPSTR` of an address in network byte order. -/
def ipStr (addr : UInt32) : String :=
  let byte (shift : UInt32) : String := ((addr >>> shift) &&& 0xFF).toNat.repr
  byte 0 ++ "." ++ byte 8 ++ "." ++ byte 16 ++ "." ++ byte 24

/-- 8.8.8.8 -/
def FALLBACK_DNS_BACKUP : UInt32 := 0x08080808

inductive WifiEvent where
  | WIFI_EVENT_STA_DISCONNECTED (reason : UInt8)
  | IP_EVENT_STA_GOT_IP
  deriving DecidableEq

/-- `wifiEventGroup` is null or has the calls made on the group, oldest first. -/
structure WifiSta (δ : Type) where
  wifi : WifiDriver δ
  staIp : String := "0.0.0.0"
  staInitialized : Bool := false
  wifiEventGroup : Option (List EventGroupCall) := none
  connecting : Bool := false
  autoReconnect : Bool := true
  firstConnect : Bool := false
  voluntaryDisconnect : Bool := false
  cachedDnsMain : UInt32 := 0
  cachedDnsBackup : UInt32 := 0
  registered : Bool := false

namespace WifiSta
variable {δ : Type}

/-- No call is made on a null handle. -/
def callGroup (s : WifiSta δ) (c : EventGroupCall) : WifiSta δ :=
  { s with wifiEventGroup := s.wifiEventGroup.map fun calls => calls ++ [c] }

def ensureEventHandler (s : WifiSta δ) : WifiSta δ :=
  { s with wifiEventGroup := some (s.wifiEventGroup.getD []), registered := true }

variable [EspWifi δ]

def perform (s : WifiSta δ) (c : WifiCall) : WifiSta δ := { s with wifi := s.wifi.perform c }

def snapshotDns (s : WifiSta δ) : WifiSta δ :=
  if s.cachedDnsMain ≠ 0 then s
  else
    let main := (EspWifi.esp_netif_get_dns_info s.wifi.dev .ESP_NETIF_DNS_MAIN).getD 0
    let backup := (EspWifi.esp_netif_get_dns_info s.wifi.dev .ESP_NETIF_DNS_BACKUP).getD 0
    { s with
      cachedDnsMain := if main ≠ 0 then main else s.cachedDnsMain,
      cachedDnsBackup := if backup ≠ 0 then backup else s.cachedDnsBackup }

def applyStaDnsAndRoute (s : WifiSta δ) : WifiSta δ :=
  if !EspWifi.has_sta_netif s.wifi.dev then s
  else
    let s := (s.perform .esp_netif_set_default_netif).snapshotDns
    let s := if s.cachedDnsMain ≠ 0 then s.perform (.dns_setserver 0 s.cachedDnsMain) else s
    s.perform (.dns_setserver 1
      (if s.cachedDnsBackup ≠ 0 then s.cachedDnsBackup else FALLBACK_DNS_BACKUP))

def wifiEventHandler (s : WifiSta δ) : WifiEvent → WifiSta δ
  | .WIFI_EVENT_STA_DISCONNECTED reason =>
    let (doReconnect, s) :=
      -- user-initiated disconnect: don't reconnect
      if s.voluntaryDisconnect then (false, { s with voluntaryDisconnect := false })
      -- first connection attempt: always retry once
      else if s.firstConnect then (true, { s with firstConnect := false })
      else (s.autoReconnect && isReconnectableReason reason, s)
    if doReconnect then s.perform .esp_wifi_connect
    else s.callGroup (.xEventGroupSetBits FAIL_BIT)
  | .IP_EVENT_STA_GOT_IP =>
    s.applyStaDnsAndRoute.callGroup (.xEventGroupSetBits CONNECTED_BIT)

/-- The event loop calls the handler once it is registered. -/
def deliver (s : WifiSta δ) (ev : WifiEvent) : WifiSta δ :=
  if s.registered then s.wifiEventHandler ev else s

def staInit (s : WifiSta δ) : Bool × WifiSta δ :=
  if s.staInitialized then (true, s)
  else
    let s := [.esp_netif_init, .esp_event_loop_create_default, .esp_netif_create_default_wifi_sta,
      -- leftover state from a previous boot
      .esp_wifi_disconnect, .esp_wifi_stop, .esp_wifi_deinit].foldl perform s
    match s.wifi.call .esp_wifi_init with
    | (false, wifi) => (false, { s with wifi := wifi })
    | (true, wifi) =>
      match (wifi.perform .esp_wifi_set_storage).call (.esp_wifi_set_mode .WIFI_MODE_STA) with
      | (false, wifi) => (false, { s with wifi := wifi })
      | (true, wifi) =>
        match wifi.call .esp_wifi_start with
        | (false, wifi) => (false, { s with wifi := wifi })
        | (true, wifi) =>
          (true, { ensureEventHandler { s with wifi := wifi } with staInitialized := true })

/-- `sta_connect` up to the wait. The result tells whether it is reached; otherwise the
function has returned false. -/
def staConnect (s : WifiSta δ) (config : WifiStaConfig) : Bool × WifiSta δ :=
  if config.ssid.getD [] = [] then (false, s)
  else
    let s := s.ensureEventHandler
    let sta_cfg : WifiCall :=
      .esp_wifi_set_config ((config.ssid.getD []).take 31) ((config.password.getD []).take 63)
    match s.wifi.call sta_cfg with
    | (false, wifi) => (false, { s with wifi := wifi })
    | (true, wifi) =>
      let s := { s with
        wifi := wifi, firstConnect := true, voluntaryDisconnect := false, connecting := true }
      let s := s.callGroup .xEventGroupClearBits
      match s.wifi.call .esp_wifi_connect with
      | (false, wifi) => (false, { s with wifi := wifi, connecting := false })
      | (true, wifi) => (true, { s with wifi := wifi })

/-- `sta_connect` from the end of the wait on, with the bits that `xEventGroupWaitBits`
returns. On the result false the function has called `esp_wifi_disconnect` and returns
false. -/
def staConnectWoken (s : WifiSta δ) (bits : EventBits) : Bool × WifiSta δ :=
  let s := { s with connecting := false }
  if bits.connected then
    if EspWifi.has_sta_netif s.wifi.dev then
      match EspWifi.esp_netif_get_ip_info s.wifi.dev with
      | some ip => (true, { s with staIp := ipStr ip })
      | none => (true, s)
    else (true, s)
  else (false, s.perform .esp_wifi_disconnect)

def staRefreshDns (s : WifiSta δ) : WifiSta δ := s.applyStaDnsAndRoute

def staDisconnect (s : WifiSta δ) : WifiSta δ :=
  -- prevent auto-reconnect
  perform { s with voluntaryDisconnect := true } .esp_wifi_disconnect

/-- The last line of `sta_disconnect`. -/
def staDisconnected (s : WifiSta δ) : WifiSta δ := { s with staIp := "0.0.0.0" }

end WifiSta

/-- Where the task that calls the station functions stands. -/
inductive StaCall where
  | idle
  /-- blocked in the wait of `sta_connect` -/
  | staConnect
  /-- `sta_connect` has given up and is about to return false -/
  | staConnectFailed
  /-- `sta_disconnect` is about to return -/
  | staDisconnect
  deriving DecidableEq

structure StaTask (δ : Type) where
  sta : WifiSta δ
  call : StaCall := .idle

/-- The calls of the task, their parts in order, and the events of the event loop. -/
inductive StaOp where
  | staInit
  | staConnect (config : WifiStaConfig)
  | woken (bits : EventBits)
  | staDisconnect
  | returns
  | staRefreshDns
  | event (ev : WifiEvent)

variable {δ : Type} [EspWifi δ]

/-- A part that is not next in the task does nothing. -/
def StaOp.apply (t : StaTask δ) : StaOp → StaTask δ
  | .staInit => if t.call = .idle then { t with sta := t.sta.staInit.2 } else t
  | .staConnect config =>
    if t.call = .idle then
      let (blocks, sta) := t.sta.staConnect config
      { sta := sta, call := if blocks then .staConnect else .idle }
    else t
  | .woken bits =>
    if t.call = .staConnect then
      let (connected, sta) := t.sta.staConnectWoken bits
      { sta := sta, call := if connected then .idle else .staConnectFailed }
    else t
  | .staDisconnect =>
    if t.call = .idle then { sta := t.sta.staDisconnect, call := .staDisconnect } else t
  | .returns =>
    match t.call with
    | .staConnectFailed => { t with call := .idle }
    | .staDisconnect => { sta := t.sta.staDisconnected, call := .idle }
    | .idle | .staConnect => t
  | .staRefreshDns => { t with sta := t.sta.staRefreshDns }
  | .event ev => { t with sta := t.sta.deliver ev }

end UngulaNet.Wifi
