import Mathlib.Logic.Function.Basic
import UngulaNet.Foundation.Outputs
import UngulaNet.Comm.EspNowTransport

/-!
# The transport as a table of peers

What a transport is for: a table from addresses to channels and a channel of its own, each
changed by one call. ESP-IDF may refuse any call, for lack of room or for reasons of its
own. A call that reports `OK` has done just what it is for and any other call nothing, so
the table is at all times what the successful calls alone make of it.
-/

namespace UngulaNet.Comm
open Runs
set_option autoImplicit false

structure PeerTable where
  up : Bool
  peers : MacAddress → Option UInt8
  channel : Option UInt8

inductive TransportOp where
  | init
  | send (dst : MacAddress) (data : List UInt8)
  | setChannel (channel : UInt8)
  | addPeer (mac : MacAddress) (channel : UInt8)
  | removePeer (mac : MacAddress)
  deriving DecidableEq

def PeerTable.perform (t : PeerTable) : TransportOp → PeerTable
  | .init => if t.up then t else { t with up := true, peers := fun _ => none }
  | .send _ _ => t
  | .setChannel channel => { t with channel := some channel }
  | .addPeer mac channel => { t with peers := Function.update t.peers mac (some channel) }
  | .removePeer mac => { t with peers := Function.update t.peers mac none }

open EspIdf in
/-- The peer list of ESP-IDF: a call that returns an error leaves it alone, and so does every
call that is not about it. Starting the stack empties it. -/
class EspIdfPeerTable (ρ : Type) [EspIdf ρ] : Prop extends EspIdfChannel ρ where
  exist_iff : ∀ (r : ρ) m, esp_now_is_peer_exist r m = (esp_now_get_peer r m).isSome
  get_add : ∀ (r : ρ) mac c, esp_now_get_peer (esp_now_add_peer r mac c).2 =
    if (esp_now_add_peer r mac c).1 then
      Function.update (esp_now_get_peer r) mac (some c) else esp_now_get_peer r
  get_mod : ∀ (r : ρ) mac c, esp_now_get_peer (esp_now_mod_peer r mac c).2 =
    if (esp_now_mod_peer r mac c).1 then
      Function.update (esp_now_get_peer r) mac (some c) else esp_now_get_peer r
  get_del : ∀ (r : ρ) mac, esp_now_get_peer (esp_now_del_peer r mac).2 =
    if (esp_now_del_peer r mac).1 then
      Function.update (esp_now_get_peer r) mac none else esp_now_get_peer r
  get_send : ∀ (r : ρ) dst data, esp_now_get_peer (esp_now_send r dst data).2 = esp_now_get_peer r
  get_set_channel : ∀ (r : ρ) c,
    esp_now_get_peer (esp_wifi_set_channel r c).2 = esp_now_get_peer r
  get_init : ∀ (r : ρ), (esp_now_init r).1 = true →
    esp_now_get_peer (esp_now_init r).2 = fun _ => none
  get_register_recv : ∀ (r : ρ),
    esp_now_get_peer (esp_now_register_recv_cb r).2 = esp_now_get_peer r
  get_register_send : ∀ (r : ρ),
    esp_now_get_peer (esp_now_register_send_cb r).2 = esp_now_get_peer r
  set_fail : ∀ (r : ρ) c, (esp_wifi_set_channel r c).1 = false →
    esp_wifi_get_channel (esp_wifi_set_channel r c).2 = esp_wifi_get_channel r
  channel_init : ∀ (r : ρ), esp_wifi_get_channel (esp_now_init r).2 = esp_wifi_get_channel r
  channel_deinit : ∀ (r : ρ), esp_wifi_get_channel (esp_now_deinit r) = esp_wifi_get_channel r
  channel_register_recv : ∀ (r : ρ),
    esp_wifi_get_channel (esp_now_register_recv_cb r).2 = esp_wifi_get_channel r
  channel_register_send : ∀ (r : ρ),
    esp_wifi_get_channel (esp_now_register_send_cb r).2 = esp_wifi_get_channel r

namespace EspNowTransport
variable {ρ : Type} [EspIdf ρ]
open EspIdf

def perform (t : EspNowTransport ρ) : TransportOp → TransportError × EspNowTransport ρ
  | .init => t.init
  | .send dst data => t.send dst data
  | .setChannel channel => t.setChannel channel
  | .addPeer mac channel => t.addPeer mac channel
  | .removePeer mac => t.removePeer mac

/-- The call, if it reports success. -/
def succeeds (t : EspNowTransport ρ) (op : TransportOp) : List TransportOp :=
  if (t.perform op).1 = .OK then [op] else []

/-- What a transport shows; before `init` it has no peers. -/
def table (t : EspNowTransport ρ) : PeerTable :=
  { up := t.initialized,
    peers := if t.initialized then esp_now_get_peer t.idf else fun _ => none,
    channel := esp_wifi_get_channel t.idf }

theorem table_of_initialized {t : EspNowTransport ρ} (h : t.initialized = true) :
    t.table = { up := true, peers := esp_now_get_peer t.idf,
                channel := esp_wifi_get_channel t.idf } := by
  simp [table, h]

theorem table_of_not {t : EspNowTransport ρ} (h : t.initialized = false) :
    t.table = { up := false, peers := fun _ => none, channel := esp_wifi_get_channel t.idf } := by
  simp [table, h]

/-- A call that reports `OK` does what it is for, and any other leaves the table alone. -/
def Atomic (t : EspNowTransport ρ) (op : TransportOp) : Prop :=
  (t.perform op).2.table = (t.succeeds op).foldl PeerTable.perform t.table

theorem atomic_ok {t : EspNowTransport ρ} {op : TransportOp} (hok : (t.perform op).1 = .OK)
    (htable : (t.perform op).2.table = t.table.perform op) : t.Atomic op := by
  unfold Atomic succeeds
  rw [if_pos hok, htable]
  rfl

theorem atomic_error {t : EspNowTransport ρ} {op : TransportOp} (herr : (t.perform op).1 ≠ .OK)
    (htable : (t.perform op).2.table = t.table) : t.Atomic op := by
  unfold Atomic succeeds
  rw [if_neg herr, htable]
  rfl

/-- The last step of a call: the driver's answer decides. -/
theorem atomic_result {t : EspNowTransport ρ} {op : TransportOp} {r : Bool × ρ}
    (hcall : t.perform op = t.result r)
    (hok : r.1 = true → ({ t with idf := r.2 } : EspNowTransport ρ).table = t.table.perform op)
    (herr : r.1 = false → ({ t with idf := r.2 } : EspNowTransport ρ).table = t.table) :
    t.Atomic op := by
  cases hr : r.1 with
  | true =>
    refine atomic_ok ?_ ?_
    · rw [hcall, result, hr]
      rfl
    · rw [hcall]
      exact hok hr
  | false =>
    refine atomic_error ?_ ?_
    · rw [hcall, result, hr]
      simp
    · rw [hcall]
      exact herr hr

variable [EspIdfPeerTable ρ]

/-- A failure at any step of `init` leaves the transport down, to be tried again. -/
theorem init_atomic (t : EspNowTransport ρ) : t.Atomic .init := by
  by_cases hup : t.initialized = true
  · have hsame : t.init = (.OK, t) := if_pos hup
    refine atomic_ok (congrArg Prod.fst hsame) ?_
    change t.init.2.table = _
    rw [hsame, table_of_initialized hup]
    rfl
  have hdown : t.initialized = false := Bool.eq_false_iff.mpr hup
  have herror : ∀ t' : EspNowTransport ρ, t.init = (.NOT_INITIALIZED, t') →
      t'.initialized = false → esp_wifi_get_channel t'.idf = esp_wifi_get_channel t.idf →
      t.Atomic .init := by
    intro t' hinit hdown' hchannel
    refine atomic_error ?_ ?_
    · change t.init.1 ≠ .OK
      simp [hinit]
    · change t.init.2.table = t.table
      rw [hinit, table_of_not hdown', table_of_not hdown, hchannel]
  cases hmac : esp_wifi_get_mac t.idf with
  | none => exact herror t (by simp [EspNowTransport.init, hup, hmac]) hdown rfl
  | some mac =>
    have hchannel₁ := EspIdfPeerTable.channel_init t.idf
    rcases hinit : esp_now_init t.idf with ⟨_ | _, idf₁⟩ <;> rw [hinit] at hchannel₁
    · exact herror { t with ownMac := mac, idf := idf₁ }
        (by simp [EspNowTransport.init, hup, hmac, hinit]) hdown hchannel₁
    have hempty := EspIdfPeerTable.get_init t.idf (by rw [hinit])
    have hpeers₂ := EspIdfPeerTable.get_register_recv idf₁
    have hchannel₂ := EspIdfPeerTable.channel_register_recv idf₁
    rw [hinit] at hempty
    rcases hrecv : esp_now_register_recv_cb idf₁ with ⟨_ | _, idf₂⟩ <;>
      rw [hrecv] at hpeers₂ hchannel₂
    · exact herror { t with ownMac := mac, idf := esp_now_deinit idf₂ }
        (by simp [EspNowTransport.init, hup, hmac, hinit, hrecv]) hdown
        ((EspIdfPeerTable.channel_deinit idf₂).trans (hchannel₂.trans hchannel₁))
    have hpeers₃ := EspIdfPeerTable.get_register_send idf₂
    have hchannel₃ := EspIdfPeerTable.channel_register_send idf₂
    rcases hsend : esp_now_register_send_cb idf₂ with ⟨_ | _, idf₃⟩ <;>
      rw [hsend] at hpeers₃ hchannel₃
    · exact herror { t with ownMac := mac, idf := esp_now_deinit idf₃ }
        (by simp [EspNowTransport.init, hup, hmac, hinit, hrecv, hsend]) hdown
        ((EspIdfPeerTable.channel_deinit idf₃).trans
          (hchannel₃.trans (hchannel₂.trans hchannel₁)))
    · have hok : t.init = (.OK, { initialized := true, ownMac := mac, idf := idf₃ }) := by
        simp [EspNowTransport.init, hup, hmac, hinit, hrecv, hsend]
      have hpeers : esp_now_get_peer idf₃ = fun _ => none := hpeers₃.trans (hpeers₂.trans hempty)
      have hchannel := hchannel₃.trans (hchannel₂.trans hchannel₁)
      refine atomic_ok (congrArg Prod.fst hok) ?_
      change t.init.2.table = _
      rw [hok, table_of_initialized rfl, table_of_not hdown, hpeers, hchannel]
      rfl

theorem send_atomic (t : EspNowTransport ρ) (dst : MacAddress) (data : List UInt8) :
    t.Atomic (.send dst data) := by
  have hkept : ({ t with idf := (esp_now_send t.idf dst data).2 } : EspNowTransport ρ).table =
      t.table := by
    simp only [table, EspIdfPeerTable.get_send, EspIdfChannel.send]
  by_cases hup : t.initialized = true
  · by_cases hlong : data.length > TRANSPORT_MAX_PAYLOAD
    · have hcall : t.send dst data = (.INVALID_ARGUMENT, t) := by
        simp [EspNowTransport.send, hup, hlong]
      exact atomic_error (by simp [perform, hcall]) (by simp [perform, hcall])
    · have hcall : t.send dst data = t.result (esp_now_send t.idf dst data) := by
        simp [EspNowTransport.send, hup, hlong]
      exact atomic_result hcall (fun _ => hkept) (fun _ => hkept)
  · have hcall : t.send dst data = (.NOT_INITIALIZED, t) := by simp [EspNowTransport.send, hup]
    exact atomic_error (by simp [perform, hcall]) (by simp [perform, hcall])

theorem setChannel_atomic (t : EspNowTransport ρ) (channel : UInt8) :
    t.Atomic (.setChannel channel) := by
  by_cases hbad : channel = 0 ∨ channel > 13
  · have hcall : t.setChannel channel = (.INVALID_ARGUMENT, t) := if_pos hbad
    exact atomic_error (by simp [perform, hcall]) (by simp [perform, hcall])
  · have hcall : t.setChannel channel = t.result (esp_wifi_set_channel t.idf channel) :=
      if_neg hbad
    refine atomic_result hcall ?_ ?_
    · intro hok
      simp only [table, EspIdfPeerTable.get_set_channel, EspIdfChannel.set_ok t.idf channel hok,
        PeerTable.perform]
    · intro herr
      simp only [table, EspIdfPeerTable.get_set_channel,
        EspIdfPeerTable.set_fail t.idf channel herr]

/-- The short cut for a peer that is on the channel already does what the long way would. -/
theorem addPeer_atomic (t : EspNowTransport ρ) (mac : MacAddress) (channel : UInt8) :
    t.Atomic (.addPeer mac channel) := by
  by_cases hup : t.initialized = true
  · have htable := table_of_initialized hup
    by_cases hexists : esp_now_is_peer_exist t.idf mac = true
    · by_cases hsame : esp_now_get_peer t.idf mac = some channel
      · have hcall : t.addPeer mac channel = (.OK, t) := by
          simp [EspNowTransport.addPeer, hup, hexists, hsame]
        refine atomic_ok (by simp [perform, hcall]) ?_
        have hupdate : Function.update (esp_now_get_peer t.idf) mac (some channel) =
            esp_now_get_peer t.idf := by
          rw [← hsame, Function.update_eq_self]
        simp only [perform, hcall, htable, PeerTable.perform, hupdate]
      · have hcall : t.addPeer mac channel = t.result (esp_now_mod_peer t.idf mac channel) := by
          simp [EspNowTransport.addPeer, hup, hexists, hsame]
        have hget := EspIdfPeerTable.get_mod t.idf mac channel
        have hchannel := EspIdfChannel.mod_peer t.idf mac channel
        refine atomic_result hcall ?_ ?_
        · intro hok
          rw [hok, if_pos rfl] at hget
          simp only [table, hup, if_true, hget, hchannel, PeerTable.perform]
        · intro herr
          rw [herr, if_neg Bool.false_ne_true] at hget
          simp only [table, hup, if_true, hget, hchannel]
    · have hcall : t.addPeer mac channel = t.result (esp_now_add_peer t.idf mac channel) := by
        simp [EspNowTransport.addPeer, hup, hexists]
      have hget := EspIdfPeerTable.get_add t.idf mac channel
      have hchannel := EspIdfChannel.add_peer t.idf mac channel
      refine atomic_result hcall ?_ ?_
      · intro hok
        rw [hok, if_pos rfl] at hget
        simp only [table, hup, if_true, hget, hchannel, PeerTable.perform]
      · intro herr
        rw [herr, if_neg Bool.false_ne_true] at hget
        simp only [table, hup, if_true, hget, hchannel]
  · have hcall : t.addPeer mac channel = (.NOT_INITIALIZED, t) := by
      simp [EspNowTransport.addPeer, hup]
    exact atomic_error (by simp [perform, hcall]) (by simp [perform, hcall])

theorem removePeer_atomic (t : EspNowTransport ρ) (mac : MacAddress) :
    t.Atomic (.removePeer mac) := by
  by_cases hup : t.initialized = true
  · have htable := table_of_initialized hup
    by_cases hexists : esp_now_is_peer_exist t.idf mac = true
    · have hcall : t.removePeer mac = t.result (esp_now_del_peer t.idf mac) := by
        simp [EspNowTransport.removePeer, hup, hexists]
      have hget := EspIdfPeerTable.get_del t.idf mac
      have hchannel := EspIdfChannel.del_peer t.idf mac
      refine atomic_result hcall ?_ ?_
      · intro hok
        rw [hok, if_pos rfl] at hget
        simp only [table, hup, if_true, hget, hchannel, PeerTable.perform]
      · intro herr
        rw [herr, if_neg Bool.false_ne_true] at hget
        simp only [table, hup, if_true, hget, hchannel]
    · have hcall : t.removePeer mac = (.OK, t) := by
        simp [EspNowTransport.removePeer, hup, hexists]
      refine atomic_ok (by simp [perform, hcall]) ?_
      have hnone : esp_now_get_peer t.idf mac = none := by
        have hsome := EspIdfPeerTable.exist_iff t.idf mac
        simpa [hexists] using hsome.symm
      have hupdate : Function.update (esp_now_get_peer t.idf) mac none =
          esp_now_get_peer t.idf := by
        rw [← hnone, Function.update_eq_self]
      simp only [perform, hcall, htable, PeerTable.perform, hupdate]
  · have hcall : t.removePeer mac = (.NOT_INITIALIZED, t) := by
      simp [EspNowTransport.removePeer, hup]
    exact atomic_error (by simp [perform, hcall]) (by simp [perform, hcall])

theorem perform_atomic (t : EspNowTransport ρ) (op : TransportOp) : t.Atomic op := by
  cases op with
  | init => exact t.init_atomic
  | send dst data => exact t.send_atomic dst data
  | setChannel channel => exact t.setChannel_atomic channel
  | addPeer mac channel => exact t.addPeer_atomic mac channel
  | removePeer mac => exact t.removePeer_atomic mac

def step (t : EspNowTransport ρ) (op : TransportOp) : EspNowTransport ρ := (t.perform op).2

/-- From any state and through any calls, whichever of them the driver refuses: the table is
what the calls that reported `OK` make of it, in order, and `hasPeer` and `getChannel`
read it. -/
theorem table_of_run (t : EspNowTransport ρ) (ops : List TransportOp) :
    let t' := run step t ops
    let table := (outputs step succeeds t ops).foldl PeerTable.perform t.table
    t'.table = table ∧ (∀ mac, t'.hasPeer mac = (table.peers mac).isSome) ∧
      t'.getChannel = table.channel.getD 0 := by
  intro t' table
  have htable : t'.table = table := by
    simp only [t', table]
    induction ops generalizing t with
    | nil => rfl
    | cons op ops ih =>
      rw [run_cons, ih, outputs_cons, List.foldl_append]
      exact congrArg (fun p => (outputs step succeeds (step t op) ops).foldl PeerTable.perform p)
        (t.perform_atomic op)
  refine ⟨htable, ?_, ?_⟩
  · intro mac
    rw [← htable]
    cases hup : t'.initialized with
    | true => simp [hasPeer, hup, EspNowTransport.table, EspIdfPeerTable.exist_iff]
    | false => simp [hasPeer, hup, EspNowTransport.table]
  · rw [← htable]
    rfl

end EspNowTransport

section Example

/-- A radio with room for two peers. -/
structure SmallRadio where
  mac : MacAddress
  channel : UInt8
  peers : List (MacAddress × UInt8) := []
  deriving DecidableEq

namespace SmallRadio

def lookup (peers : List (MacAddress × UInt8)) (m : MacAddress) : Option UInt8 :=
  (peers.find? fun p => p.1 == m).map Prod.snd

def without (peers : List (MacAddress × UInt8)) (mac : MacAddress) : List (MacAddress × UInt8) :=
  peers.filter fun p => p.1 != mac

theorem lookup_cons (peers : List (MacAddress × UInt8)) (mac : MacAddress) (c : UInt8) :
    lookup ((mac, c) :: peers) = Function.update (lookup peers) mac (some c) := by
  funext m
  by_cases hm : m = mac
  · subst hm
    simp [lookup]
  · have hne : (mac == m) = false := by simpa using Ne.symm hm
    simp [lookup, hm, hne]

theorem lookup_without (peers : List (MacAddress × UInt8)) (mac : MacAddress) :
    lookup (without peers mac) = Function.update (lookup peers) mac none := by
  funext m
  unfold lookup without
  rw [List.find?_filter]
  by_cases hm : m = mac
  · subst hm
    simp
  · rw [Function.update_of_ne hm]
    congr 2
    funext p
    by_cases hp : p.1 = m
    · simp [hp, hm]
    · simp [hp]

end SmallRadio

instance : EspIdf SmallRadio where
  esp_wifi_get_mac r := some r.mac
  esp_wifi_set_channel r c := (true, { r with channel := c })
  esp_wifi_get_channel r := some r.channel
  esp_now_init r := (true, { r with peers := [] })
  esp_now_deinit r := { r with peers := [] }
  esp_now_register_recv_cb r := (true, r)
  esp_now_register_send_cb r := (true, r)
  esp_now_send r _ _ := (true, r)
  esp_now_is_peer_exist r mac := (SmallRadio.lookup r.peers mac).isSome
  esp_now_get_peer r := SmallRadio.lookup r.peers
  esp_now_add_peer r mac c :=
    if r.peers.length < 2 then (true, { r with peers := (mac, c) :: r.peers }) else (false, r)
  esp_now_mod_peer r mac c :=
    (true, { r with peers := (mac, c) :: SmallRadio.without r.peers mac })
  esp_now_del_peer r mac := (true, { r with peers := SmallRadio.without r.peers mac })

instance : EspIdfPeerTable SmallRadio where
  set_ok _ _ _ := rfl
  send _ _ _ := rfl
  add_peer r mac c := by
    change some _ = some _
    simp only [EspIdf.esp_now_add_peer]
    split <;> rfl
  mod_peer _ _ _ := rfl
  del_peer _ _ := rfl
  exist_iff _ _ := rfl
  get_add r mac c := by
    simp only [EspIdf.esp_now_add_peer, EspIdf.esp_now_get_peer]
    split
    · exact SmallRadio.lookup_cons r.peers mac c
    · rfl
  get_mod r mac c := by
    simp only [EspIdf.esp_now_mod_peer, EspIdf.esp_now_get_peer, if_true,
      SmallRadio.lookup_cons, SmallRadio.lookup_without, Function.update_idem]
  get_del r mac := SmallRadio.lookup_without r.peers mac
  get_send _ _ _ := rfl
  get_set_channel _ _ := rfl
  get_init _ _ := rfl
  get_register_recv _ := rfl
  get_register_send _ := rfl
  set_fail _ _ h := Bool.noConfusion h
  channel_init _ := rfl
  channel_deinit _ := rfl
  channel_register_recv _ := rfl
  channel_register_send _ := rfl

/-- Two peers fit; the third is refused, and so is anything before `init`. -/
def crowdedCalls : List TransportOp :=
  [.addPeer coordMac 6, .init, .addPeer coordMac 1, .addPeer clientMac 0, .addPeer coordMac 6,
    .addPeer .broadcast 0, .setChannel 14, .removePeer clientMac]

theorem crowdedCalls_table :
    let t : EspNowTransport SmallRadio := .new { mac := clientMac, channel := 6 }
    let t' := run EspNowTransport.step t crowdedCalls
    t'.hasPeer coordMac = true ∧ t'.hasPeer clientMac = false ∧ t'.hasPeer .broadcast = false ∧
      t'.getChannel = 6 := by
  obtain ⟨_, hpeers, hchannel⟩ := EspNowTransport.table_of_run
    (.new { mac := clientMac, channel := 6 } : EspNowTransport SmallRadio) crowdedCalls
  refine ⟨?_, ?_, ?_, ?_⟩
  · rw [hpeers]
    decide
  · rw [hpeers]
    decide
  · rw [hpeers]
    decide
  · rw [hchannel]
    decide

end Example
end UngulaNet.Comm
