import UngulaNet.Wifi.StaReconnect
import Mathlib.Logic.Function.Basic

/-!
# The name servers of the station

The station gives lwIP's resolver the servers of its cache, which it fills from DHCP once
and keeps. `resolver` is what the station has given it last: the cached servers, or none
yet. The rest of the stack may clear the resolver, and `sta_refresh_dns` gives it the same
servers again.
-/

namespace UngulaNet.Wifi
open Runs
set_option autoImplicit false

/-- The slots of the resolver. -/
abbrev Resolver := UInt8 → Option UInt32

def Resolver.perform (r : Resolver) : WifiCall → Resolver
  | .dns_setserver index addr => Function.update r index (some addr)
  | _ => r

def setsServer : WifiCall → Bool
  | .dns_setserver _ _ => true
  | _ => false

theorem Resolver.perform_other (r : Resolver) {c : WifiCall} (h : setsServer c = false) :
    r.perform c = r := by
  cases c with
  | dns_setserver index addr => exact Bool.noConfusion h
  | _ => rfl

namespace WifiSta
variable {δ : Type}

def resolver (s : WifiSta δ) : Resolver := s.wifi.calls.foldl Resolver.perform fun _ => none

/-- The server for the second slot. -/
def backupServer (s : WifiSta δ) : UInt32 :=
  if s.cachedDnsBackup ≠ 0 then s.cachedDnsBackup else FALLBACK_DNS_BACKUP

/-- The resolver has the cached servers, or none yet. -/
structure FollowsCache (s : WifiSta δ) : Prop where
  main : s.resolver 0 = if s.cachedDnsMain ≠ 0 then some s.cachedDnsMain else none
  backup : s.resolver 1 = none ∧ s.cachedDnsMain = 0 ∨ s.resolver 1 = some s.backupServer

/-- Neither the cache nor the resolver is touched. -/
structure SameDns (s s' : WifiSta δ) : Prop where
  main : s'.cachedDnsMain = s.cachedDnsMain
  backup : s'.cachedDnsBackup = s.cachedDnsBackup
  resolver : s'.resolver = s.resolver

theorem SameDns.refl (s : WifiSta δ) : SameDns s s := ⟨rfl, rfl, rfl⟩

theorem SameDns.trans {s s' s'' : WifiSta δ} (h : SameDns s s') (h' : SameDns s' s'') :
    SameDns s s'' :=
  ⟨h'.main.trans h.main, h'.backup.trans h.backup, h'.resolver.trans h.resolver⟩

variable [EspWifi δ]

theorem resolver_perform (s : WifiSta δ) (c : WifiCall) :
    (s.perform c).resolver = s.resolver.perform c := by
  simp [resolver, perform]

theorem sameDns_perform (s : WifiSta δ) {c : WifiCall} (h : setsServer c = false) :
    SameDns s (s.perform c) :=
  ⟨rfl, rfl, (s.resolver_perform c).trans (s.resolver.perform_other h)⟩

/-- The driver after a call, in a station with the same cache. -/
theorem sameDns_call {s s' : WifiSta δ} {c : WifiCall} {ok : Bool} {wifi : WifiDriver δ}
    (hcall : s.wifi.call c = (ok, wifi)) (h : setsServer c = false) (hwifi : s'.wifi = wifi)
    (hmain : s'.cachedDnsMain = s.cachedDnsMain)
    (hbackup : s'.cachedDnsBackup = s.cachedDnsBackup) :
    SameDns s s' := by
  refine ⟨hmain, hbackup, ?_⟩
  have hperformed : s'.resolver = (s.perform c).resolver := by
    have hw : s'.wifi = s.wifi.perform c := hwifi.trans (congrArg Prod.snd hcall).symm
    rw [resolver, hw]
    rfl
  exact hperformed.trans (sameDns_perform s h).resolver

theorem foldl_sameDns (s : WifiSta δ) {calls : List WifiCall}
    (h : ∀ c ∈ calls, setsServer c = false) :
    SameDns s (calls.foldl perform s) := by
  induction calls generalizing s with
  | nil => exact .refl s
  | cons c calls ih =>
    exact (sameDns_perform s (h c List.mem_cons_self)).trans
      (ih _ fun c' hc' => h c' (List.mem_cons_of_mem c hc'))

theorem staInit_sameDns (s : WifiSta δ) : SameDns s s.staInit.2 := by
  unfold staInit
  split
  · exact .refl s
  · have hcleanup : ∀ c ∈ [WifiCall.esp_netif_init, .esp_event_loop_create_default,
        .esp_netif_create_default_wifi_sta, .esp_wifi_disconnect, .esp_wifi_stop,
        .esp_wifi_deinit], setsServer c = false := by decide
    have hclean := s.foldl_sameDns hcleanup
    generalize List.foldl perform s _ = s₀ at hclean
    dsimp only
    split
    · rename_i hinit
      exact hclean.trans (sameDns_call hinit rfl rfl rfl rfl)
    · rename_i wifi hinit
      have hinited : SameDns s₀ { s₀ with wifi := wifi } := sameDns_call hinit rfl rfl rfl rfl
      have hstored :=
        (hclean.trans hinited).trans (sameDns_perform _ (c := .esp_wifi_set_storage) rfl)
      split
      · rename_i hmode
        exact hstored.trans (sameDns_call hmode rfl rfl rfl rfl)
      · rename_i wifi' hmode
        have hset : SameDns s { s₀ with wifi := wifi' } :=
          hstored.trans (sameDns_call hmode rfl rfl rfl rfl)
        split
        · rename_i hstart
          exact hset.trans (sameDns_call hstart rfl rfl rfl rfl)
        · rename_i hstart
          exact hset.trans (sameDns_call hstart rfl rfl rfl rfl)

theorem staConnect_sameDns (s : WifiSta δ) (config : WifiStaConfig) :
    SameDns s (s.staConnect config).2 := by
  have hready : SameDns s s.ensureEventHandler := ⟨rfl, rfl, rfl⟩
  unfold staConnect
  split
  · exact .refl s
  · dsimp only
    split
    · rename_i hconfig
      exact hready.trans (sameDns_call hconfig rfl rfl rfl rfl)
    · rename_i wifi hconfig
      have hset : SameDns s { s.ensureEventHandler with wifi := wifi } :=
        hready.trans (sameDns_call hconfig rfl rfl rfl rfl)
      split
      · rename_i hconnect
        exact hset.trans (sameDns_call hconnect rfl rfl rfl rfl)
      · rename_i hconnect
        exact hset.trans (sameDns_call hconnect rfl rfl rfl rfl)

theorem staConnectWoken_sameDns (s : WifiSta δ) (bits : EventBits) :
    SameDns s (s.staConnectWoken bits).2 := by
  have hwoken : SameDns s { s with connecting := false } := ⟨rfl, rfl, rfl⟩
  unfold staConnectWoken
  dsimp only
  split
  · split
    · split
      · exact hwoken.trans ⟨rfl, rfl, rfl⟩
      · exact hwoken
    · exact hwoken
  · exact hwoken.trans (sameDns_perform _ rfl)

/-! ## The cache is filled and replayed -/

theorem snapshotDns_filled {s : WifiSta δ} (h : s.cachedDnsMain ≠ 0) : s.snapshotDns = s := by
  rw [snapshotDns, if_pos h]

/-- The station with its cache filled as far as it can be, and the calls that replay it. -/
theorem applyStaDnsAndRoute_eq (s : WifiSta δ) (h : EspWifi.has_sta_netif s.wifi.dev = true) :
    let filled := (s.perform .esp_netif_set_default_netif).snapshotDns
    s.applyStaDnsAndRoute = if filled.cachedDnsMain ≠ 0 then
        (filled.perform (.dns_setserver 0 filled.cachedDnsMain)).perform
          (.dns_setserver 1 filled.backupServer)
      else filled.perform (.dns_setserver 1 filled.backupServer) := by
  intro filled
  rw [applyStaDnsAndRoute, if_neg (by simp [h])]
  dsimp only
  split <;> rfl

theorem resolver_filled (s : WifiSta δ) :
    (s.perform .esp_netif_set_default_netif).snapshotDns.resolver = s.resolver := by
  have hsame : (s.perform .esp_netif_set_default_netif).resolver = s.resolver :=
    (sameDns_perform s rfl).resolver
  rw [resolver, (snapshotDns_kept _).1]
  exact hsame

theorem applyStaDnsAndRoute_follows {s : WifiSta δ} (h : s.FollowsCache) :
    s.applyStaDnsAndRoute.FollowsCache := by
  cases hnetif : EspWifi.has_sta_netif s.wifi.dev with
  | false =>
    have hsame : s.applyStaDnsAndRoute = s := by
      rw [applyStaDnsAndRoute, if_pos (by simp [hnetif])]
    rw [hsame]
    exact h
  | true =>
    have heq := s.applyStaDnsAndRoute_eq hnetif
    have hkeeps := @snapshotDns_filled _ _ (s.perform .esp_netif_set_default_netif)
    have hresolver := s.resolver_filled
    dsimp only at heq
    rw [heq]
    generalize (s.perform .esp_netif_set_default_netif).snapshotDns = filled at *
    by_cases hmain : filled.cachedDnsMain ≠ 0
    · rw [if_pos hmain]
      refine ⟨?_, Or.inr ?_⟩
      · rw [resolver_perform, resolver_perform]
        exact (if_pos hmain).symm
      · rw [resolver_perform]
        rfl
    · -- nothing was cached before either
      have hbefore : s.cachedDnsMain = 0 := by
        by_contra hset
        have hsame := congrArg cachedDnsMain (hkeeps hset)
        exact hmain (by rw [hsame]; exact hset)
      rw [if_neg hmain]
      refine ⟨?_, Or.inr ?_⟩
      · have hnone := h.main
        rw [hbefore, if_neg (by simp)] at hnone
        rw [resolver_perform, hresolver]
        exact hnone.trans (if_neg hmain).symm
      · rw [resolver_perform]
        rfl

/-- A cache that is filled is not filled again. -/
theorem applyStaDnsAndRoute_frozen {s : WifiSta δ} (h : s.cachedDnsMain ≠ 0) :
    s.applyStaDnsAndRoute.cachedDnsMain = s.cachedDnsMain ∧
      s.applyStaDnsAndRoute.cachedDnsBackup = s.cachedDnsBackup := by
  cases hnetif : EspWifi.has_sta_netif s.wifi.dev with
  | false =>
    have hsame : s.applyStaDnsAndRoute = s := by
      rw [applyStaDnsAndRoute, if_pos (by simp [hnetif])]
    rw [hsame]
    exact ⟨rfl, rfl⟩
  | true =>
    have hkeeps := @snapshotDns_filled _ _ (s.perform .esp_netif_set_default_netif) h
    rw [applyStaDnsAndRoute_eq s hnetif, hkeeps]
    split <;> exact ⟨rfl, rfl⟩

theorem refresh_calls {s : WifiSta δ} (h : s.cachedDnsMain ≠ 0)
    (hnetif : EspWifi.has_sta_netif s.wifi.dev = true) : s.staRefreshDns.wifi.calls =
      s.wifi.calls ++ [.esp_netif_set_default_netif, .dns_setserver 0 s.cachedDnsMain,
        .dns_setserver 1 s.backupServer] := by
  have heq := s.applyStaDnsAndRoute_eq hnetif
  have hrouted : (s.perform .esp_netif_set_default_netif).cachedDnsMain ≠ 0 := h
  dsimp only at heq
  rw [snapshotDns_filled hrouted, if_pos hrouted] at heq
  have hserver : (s.perform .esp_netif_set_default_netif).backupServer = s.backupServer := rfl
  rw [staRefreshDns, heq, hserver]
  simp [perform]

end WifiSta

/-! ## Runs -/

/-- What a step does to the cache and the resolver. -/
structure DnsStep {δ : Type} (s s' : WifiSta δ) : Prop where
  follows : s.FollowsCache → s'.FollowsCache
  frozen : s.cachedDnsMain ≠ 0 →
    s'.cachedDnsMain = s.cachedDnsMain ∧ s'.cachedDnsBackup = s.cachedDnsBackup

section Task
variable {δ : Type}
open WifiSta

theorem WifiSta.SameDns.dnsStep {s s' : WifiSta δ} (h : SameDns s s') : DnsStep s s' := by
  have hserver : s'.backupServer = s.backupServer := by rw [backupServer, h.backup]; rfl
  refine ⟨fun hs => ⟨?_, ?_⟩, fun _ => ⟨h.main, h.backup⟩⟩
  · rw [h.resolver, h.main]
    exact hs.main
  · rw [h.resolver, h.main, hserver]
    exact hs.backup

variable [EspWifi δ]

theorem apply_dnsStep (s : WifiSta δ) : DnsStep s s.applyStaDnsAndRoute :=
  ⟨applyStaDnsAndRoute_follows, applyStaDnsAndRoute_frozen⟩

theorem event_dnsStep (s : WifiSta δ) (ev : WifiEvent) : DnsStep s (s.deliver ev) := by
  unfold deliver
  split
  · cases ev with
    | IP_EVENT_STA_GOT_IP =>
      have happly := apply_dnsStep s
      exact ⟨fun h => ⟨(happly.follows h).main, (happly.follows h).backup⟩, happly.frozen⟩
    | WIFI_EVENT_STA_DISCONNECTED reason =>
      refine SameDns.dnsStep ?_
      cases disconnect_effect s reason with
      | voluntary _ eq =>
        rw [eq]
        exact ⟨rfl, rfl, rfl⟩
      | first _ _ eq =>
        rw [eq]
        have hretried : SameDns s { s with firstConnect := false } := ⟨rfl, rfl, rfl⟩
        exact hretried.trans (sameDns_perform _ rfl)
      | retries _ _ _ eq =>
        rw [eq]
        exact sameDns_perform s rfl
      | fails _ _ _ eq =>
        rw [eq]
        exact ⟨rfl, rfl, rfl⟩
  · exact (SameDns.refl s).dnsStep

theorem staOp_dnsStep (t : StaTask δ) (op : StaOp) : DnsStep t.sta (op.apply t).sta := by
  have hsame : DnsStep t.sta t.sta := (SameDns.refl t.sta).dnsStep
  cases op with
  | staInit =>
    rw [StaOp.apply]
    split
    · exact (staInit_sameDns t.sta).dnsStep
    · exact hsame
  | staConnect config =>
    rw [StaOp.apply]
    split
    · exact (staConnect_sameDns t.sta config).dnsStep
    · exact hsame
  | woken bits =>
    rw [StaOp.apply]
    split
    · exact (staConnectWoken_sameDns t.sta bits).dnsStep
    · exact hsame
  | staDisconnect =>
    rw [StaOp.apply]
    split
    · have hflagged : SameDns t.sta { t.sta with voluntaryDisconnect := true } :=
        ⟨rfl, rfl, rfl⟩
      exact (hflagged.trans (sameDns_perform _ (c := .esp_wifi_disconnect) rfl)).dnsStep
    · exact hsame
  | returns =>
    rw [StaOp.apply]
    split
    · exact hsame
    · exact SameDns.dnsStep ⟨rfl, rfl, rfl⟩
    · exact hsame
    · exact hsame
  | staRefreshDns => exact apply_dnsStep t.sta
  | event ev => exact event_dnsStep t.sta ev

def StaTask.boot (dev : δ) : StaTask δ := { sta := { wifi := { dev := dev } } }

theorem run_dnsStep (t : StaTask δ) (ops : List StaOp) :
    DnsStep t.sta (run StaOp.apply t ops).sta := by
  induction ops generalizing t with
  | nil => exact (SameDns.refl t.sta).dnsStep
  | cons op ops ih =>
    have hfirst := staOp_dnsStep t op
    have hrest := ih (op.apply t)
    refine ⟨fun h => hrest.follows (hfirst.follows h), fun h => ?_⟩
    obtain ⟨hmain, hbackup⟩ := hfirst.frozen h
    obtain ⟨hmain', hbackup'⟩ := hrest.frozen (by rw [hmain]; exact h)
    exact ⟨hmain'.trans hmain, hbackup'.trans hbackup⟩

/-- After any calls and events, however the driver answers: the resolver has the cached
servers, or none yet. Once the cache is filled, neither changes again, and a refresh writes
both servers anew. -/
theorem resolver_follows_cache (dev : δ) (ops more : List StaOp) :
    let s := (run StaOp.apply (.boot dev) ops).sta
    let later := (run StaOp.apply (.boot dev) (ops ++ more)).sta
    s.FollowsCache ∧ (s.cachedDnsMain ≠ 0 →
      (later.cachedDnsMain = s.cachedDnsMain ∧ later.cachedDnsBackup = s.cachedDnsBackup) ∧
      (later.resolver 0 = some s.cachedDnsMain ∧ later.resolver 1 = some s.backupServer) ∧
      (EspWifi.has_sta_netif later.wifi.dev = true → later.staRefreshDns.wifi.calls =
        later.wifi.calls ++ [.esp_netif_set_default_netif, .dns_setserver 0 s.cachedDnsMain,
          .dns_setserver 1 s.backupServer])) := by
  intro s later
  have hboot : (StaTask.boot dev).sta.FollowsCache := ⟨rfl, Or.inl ⟨rfl, rfl⟩⟩
  have hfollows : ∀ ops, (run StaOp.apply (.boot dev) ops).sta.FollowsCache :=
    fun ops => (run_dnsStep _ ops).follows hboot
  refine ⟨hfollows ops, fun hset => ?_⟩
  have hlater : DnsStep s later := by
    have hstep := run_dnsStep (run StaOp.apply (.boot dev) ops) more
    rw [← run_append] at hstep
    exact hstep
  obtain ⟨hmain, hbackup⟩ := hlater.frozen hset
  have hserver : later.backupServer = s.backupServer := by rw [backupServer, hbackup]; rfl
  have hstill : later.cachedDnsMain ≠ 0 := by rw [hmain]; exact hset
  obtain ⟨hfirst, hsecond⟩ := hfollows (ops ++ more)
  refine ⟨⟨hmain, hbackup⟩, ⟨?_, ?_⟩, fun hnetif => ?_⟩
  · rw [← hmain]
    exact hfirst.trans (if_pos hstill)
  · rw [← hserver]
    exact hsecond.resolve_left fun h => hstill h.2
  · rw [← hmain, ← hserver]
    exact refresh_calls hstill hnetif

/-- The router names one server; the other slot gets the public one. -/
example :
    let router : SimWifi := { ip := 0x0A00A8C0, dnsMain := 0x0100A8C0, dnsBackup := 0 }
    let s := (run StaOp.apply (.boot router) [.staInit, .event .IP_EVENT_STA_GOT_IP]).sta
    s.resolver 0 = some 0x0100A8C0 ∧ s.resolver 1 = some FALLBACK_DNS_BACKUP := by decide

end Task
end UngulaNet.Wifi
