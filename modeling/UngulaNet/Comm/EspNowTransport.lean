import UngulaNet.Comm.TransportTypes

/-!
# The ESP-NOW transport

`EspNowTransport` over the ESP-IDF calls it makes. ESP-IDF is a parameter: a type of
radio states with the calls as functions on it, a `Bool` result standing for
`err == ESP_OK`. `SimRadio` is a radio on which every call succeeds.
-/

namespace UngulaNet.Comm
set_option autoImplicit false

class EspIdf (ρ : Type) where
  esp_wifi_get_mac : ρ → Option MacAddress
  esp_wifi_set_channel : ρ → UInt8 → Bool × ρ
  esp_wifi_get_channel : ρ → Option UInt8
  esp_now_init : ρ → Bool × ρ
  esp_now_deinit : ρ → ρ
  esp_now_register_recv_cb : ρ → Bool × ρ
  esp_now_register_send_cb : ρ → Bool × ρ
  esp_now_send : ρ → MacAddress → List UInt8 → Bool × ρ
  esp_now_is_peer_exist : ρ → MacAddress → Bool
  esp_now_get_peer : ρ → MacAddress → Option UInt8
  esp_now_add_peer : ρ → MacAddress → UInt8 → Bool × ρ
  esp_now_mod_peer : ρ → MacAddress → UInt8 → Bool × ρ
  esp_now_del_peer : ρ → MacAddress → Bool × ρ

structure EspNowTransport (ρ : Type) where
  initialized : Bool
  ownMac : MacAddress
  idf : ρ

namespace EspNowTransport
variable {ρ : Type} [EspIdf ρ]
open EspIdf

def new (idf : ρ) : EspNowTransport ρ := ⟨false, .cleared, idf⟩

/-- The code of the last step of a call, with the state it leaves. -/
def result (t : EspNowTransport ρ) (r : Bool × ρ) : TransportError × EspNowTransport ρ :=
  (if r.1 then .OK else .SEND_FAILED, { t with idf := r.2 })

def init (t : EspNowTransport ρ) : TransportError × EspNowTransport ρ :=
  if t.initialized then (.OK, t)
  else
    match esp_wifi_get_mac t.idf with
    | none => (.NOT_INITIALIZED, t)
    | some mac =>
      let t := { t with ownMac := mac }
      match esp_now_init t.idf with
      | (false, idf) => (.NOT_INITIALIZED, { t with idf := idf })
      | (true, idf) =>
        match esp_now_register_recv_cb idf with
        | (false, idf) => (.NOT_INITIALIZED, { t with idf := esp_now_deinit idf })
        | (true, idf) =>
          match esp_now_register_send_cb idf with
          | (false, idf) => (.NOT_INITIALIZED, { t with idf := esp_now_deinit idf })
          | (true, idf) => (.OK, { t with initialized := true, idf := idf })

def send (t : EspNowTransport ρ) (dst : MacAddress) (data : List UInt8) :
    TransportError × EspNowTransport ρ :=
  if !t.initialized then (.NOT_INITIALIZED, t)
  else if data.length > TRANSPORT_MAX_PAYLOAD then (.INVALID_ARGUMENT, t)
  else t.result (esp_now_send t.idf dst data)

def setChannel (t : EspNowTransport ρ) (channel : UInt8) :
    TransportError × EspNowTransport ρ :=
  if channel = 0 ∨ channel > 13 then (.INVALID_ARGUMENT, t)
  else t.result (esp_wifi_set_channel t.idf channel)

/-- `primary` keeps its initial 0 when the query fails. -/
def getChannel (t : EspNowTransport ρ) : UInt8 := (esp_wifi_get_channel t.idf).getD 0

def addPeer (t : EspNowTransport ρ) (mac : MacAddress) (channel : UInt8) :
    TransportError × EspNowTransport ρ :=
  if !t.initialized then (.NOT_INITIALIZED, t)
  else if esp_now_is_peer_exist t.idf mac then
    -- an existing peer is modified only when its channel differs
    if esp_now_get_peer t.idf mac = some channel then (.OK, t)
    else t.result (esp_now_mod_peer t.idf mac channel)
  else t.result (esp_now_add_peer t.idf mac channel)

def removePeer (t : EspNowTransport ρ) (mac : MacAddress) :
    TransportError × EspNowTransport ρ :=
  if !t.initialized then (.NOT_INITIALIZED, t)
  else if !esp_now_is_peer_exist t.idf mac then (.OK, t)
  else t.result (esp_now_del_peer t.idf mac)

def hasPeer (t : EspNowTransport ρ) (mac : MacAddress) : Bool :=
  t.initialized && esp_now_is_peer_exist t.idf mac

instance : ITransport (EspNowTransport ρ) where
  send := send
  getOwnMac := ownMac
  setChannel := setChannel
  getChannel := getChannel
  addPeer := addPeer
  removePeer := removePeer
  hasPeer := hasPeer

end EspNowTransport

/-- ESP-IDF moves the radio only in a successful `esp_wifi_set_channel`. -/
class EspIdfChannel (ρ : Type) [EspIdf ρ] : Prop where
  set_ok : ∀ (r : ρ) c, (EspIdf.esp_wifi_set_channel r c).1 = true →
    EspIdf.esp_wifi_get_channel (EspIdf.esp_wifi_set_channel r c).2 = some c
  send : ∀ (r : ρ) dst data, EspIdf.esp_wifi_get_channel (EspIdf.esp_now_send r dst data).2 =
    EspIdf.esp_wifi_get_channel r
  add_peer : ∀ (r : ρ) mac c, EspIdf.esp_wifi_get_channel (EspIdf.esp_now_add_peer r mac c).2 =
    EspIdf.esp_wifi_get_channel r
  mod_peer : ∀ (r : ρ) mac c, EspIdf.esp_wifi_get_channel (EspIdf.esp_now_mod_peer r mac c).2 =
    EspIdf.esp_wifi_get_channel r
  del_peer : ∀ (r : ρ) mac, EspIdf.esp_wifi_get_channel (EspIdf.esp_now_del_peer r mac).2 =
    EspIdf.esp_wifi_get_channel r

/-- `esp_wifi_set_channel` succeeds on the channels 1..13. -/
class EspIdfTunes (ρ : Type) [EspIdf ρ] : Prop extends EspIdfChannel ρ where
  accepts : ∀ (r : ρ) (c : UInt8), 1 ≤ c → c ≤ 13 → (EspIdf.esp_wifi_set_channel r c).1 = true

section Laws
variable {ρ : Type} [EspIdf ρ]
open EspNowTransport EspIdf

instance [EspIdfChannel ρ] : ChannelFrame (EspNowTransport ρ) where
  getChannel_send := by
    intro t dst data
    change (EspNowTransport.send t dst data).2.getChannel = t.getChannel
    unfold EspNowTransport.send
    split
    · rfl
    · split
      · rfl
      · exact congrArg (Option.getD · 0) (EspIdfChannel.send t.idf dst data)
  getChannel_addPeer := by
    intro t mac c
    change (EspNowTransport.addPeer t mac c).2.getChannel = t.getChannel
    unfold EspNowTransport.addPeer
    split
    · rfl
    · split
      · split
        · rfl
        · exact congrArg (Option.getD · 0) (EspIdfChannel.mod_peer t.idf mac c)
      · exact congrArg (Option.getD · 0) (EspIdfChannel.add_peer t.idf mac c)
  getChannel_removePeer := by
    intro t mac
    change (EspNowTransport.removePeer t mac).2.getChannel = t.getChannel
    unfold EspNowTransport.removePeer
    split
    · rfl
    · split
      · rfl
      · exact congrArg (Option.getD · 0) (EspIdfChannel.del_peer t.idf mac)

instance [EspIdfTunes ρ] : TunesValidChannels (EspNowTransport ρ) where
  getChannel_setChannel := by
    intro t c h1 h13
    change (EspNowTransport.setChannel t c).2.getChannel = c
    have hvalid : ¬ (c = 0 ∨ c > 13) := by grind
    rw [EspNowTransport.setChannel, if_neg hvalid]
    exact congrArg (Option.getD · 0)
      (EspIdfChannel.set_ok t.idf c (EspIdfTunes.accepts t.idf c h1 h13))

end Laws

/-- A radio on which every call succeeds. -/
structure SimRadio where
  mac : MacAddress
  channel : UInt8
  peers : List (MacAddress × UInt8) := []
  deriving DecidableEq

instance : EspIdf SimRadio where
  esp_wifi_get_mac r := some r.mac
  esp_wifi_set_channel r c := (true, { r with channel := c })
  esp_wifi_get_channel r := some r.channel
  esp_now_init r := (true, r)
  esp_now_deinit r := r
  esp_now_register_recv_cb r := (true, r)
  esp_now_register_send_cb r := (true, r)
  esp_now_send r _ _ := (true, r)
  esp_now_is_peer_exist r mac := r.peers.any fun p => p.1 == mac
  esp_now_get_peer r mac := (r.peers.find? fun p => p.1 == mac).map Prod.snd
  esp_now_add_peer r mac c := (true, { r with peers := r.peers ++ [(mac, c)] })
  esp_now_mod_peer r mac c :=
    (true, { r with peers := r.peers.map fun p => if p.1 == mac then (mac, c) else p })
  esp_now_del_peer r mac := (true, { r with peers := r.peers.filter fun p => p.1 != mac })

instance : EspIdfTunes SimRadio where
  set_ok _ _ _ := rfl
  send _ _ _ := rfl
  add_peer _ _ _ := rfl
  mod_peer _ _ _ := rfl
  del_peer _ _ := rfl
  accepts _ _ _ _ := rfl

def simTransport (mac : MacAddress) (channel : UInt8) :
    Transport (EspNowTransport SimRadio) :=
  { dev := (EspNowTransport.init (.new { mac := mac, channel := channel })).2 }

def clientMac : MacAddress := ⟨[0x02, 0, 0, 0, 0, 0x0A], rfl⟩
def coordMac : MacAddress := ⟨[0x02, 0, 0, 0, 0, 0x01], rfl⟩

end UngulaNet.Comm
