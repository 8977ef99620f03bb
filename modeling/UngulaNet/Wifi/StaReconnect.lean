import UngulaNet.Foundation.Runs
import UngulaNet.Wifi.WifiSta

/-!
# Reconnecting after giving up

Once `sta_disconnect` or a failed `sta_connect` has returned, the event handler should not
call `esp_wifi_connect`. Only a set `s_voluntary_disconnect` holds it back for whatever
event comes next, and only for one; after that a leftover `s_first_connect`, or a reason
that looks transient, makes it connect again.
-/

namespace UngulaNet.Wifi
open Runs
set_option autoImplicit false

namespace WifiSta
variable {δ : Type}

def connectCalls (s : WifiSta δ) : Nat := s.wifi.calls.count .esp_wifi_connect

@[simp] theorem connectCalls_callGroup (s : WifiSta δ) (c : EventGroupCall) :
    (s.callGroup c).connectCalls = s.connectCalls := rfl

structure SameFlags (s s' : WifiSta δ) : Prop where
  autoReconnect : s'.autoReconnect = s.autoReconnect
  firstConnect : s'.firstConnect = s.firstConnect
  voluntaryDisconnect : s'.voluntaryDisconnect = s.voluntaryDisconnect
  registered : s'.registered = s.registered
  connectCalls : s'.connectCalls = s.connectCalls

theorem SameFlags.refl (s : WifiSta δ) : SameFlags s s := ⟨rfl, rfl, rfl, rfl, rfl⟩

theorem SameFlags.trans {s s' s'' : WifiSta δ} (h : SameFlags s s') (h' : SameFlags s' s'') :
    SameFlags s s'' :=
  ⟨h'.autoReconnect.trans h.autoReconnect, h'.firstConnect.trans h.firstConnect,
    h'.voluntaryDisconnect.trans h.voluntaryDisconnect, h'.registered.trans h.registered,
    h'.connectCalls.trans h.connectCalls⟩

variable [EspWifi δ]

theorem connectCalls_connect (s : WifiSta δ) :
    (s.perform .esp_wifi_connect).connectCalls = s.connectCalls + 1 := by
  simp [connectCalls, perform]

theorem sameFlags_perform (s : WifiSta δ) {c : WifiCall} (hc : c ≠ .esp_wifi_connect) :
    SameFlags s (s.perform c) := by
  refine ⟨rfl, rfl, rfl, rfl, ?_⟩
  simp [connectCalls, perform, hc]

theorem snapshotDns_kept (s : WifiSta δ) : s.snapshotDns.wifi = s.wifi ∧
    s.snapshotDns.wifiEventGroup = s.wifiEventGroup := by
  unfold snapshotDns
  split <;> exact ⟨rfl, rfl⟩

theorem sameFlags_snapshotDns (s : WifiSta δ) : SameFlags s s.snapshotDns := by
  unfold snapshotDns
  split <;> exact ⟨rfl, rfl, rfl, rfl, rfl⟩

theorem sameFlags_applyStaDnsAndRoute (s : WifiSta δ) :
    SameFlags s s.applyStaDnsAndRoute := by
  unfold applyStaDnsAndRoute
  split
  · exact .refl s
  · have hroute := (@sameFlags_perform _ _ s .esp_netif_set_default_netif (by decide)).trans
      (sameFlags_snapshotDns _)
    dsimp only
    split
    · exact (hroute.trans (sameFlags_perform _ (by simp))).trans (sameFlags_perform _ (by simp))
    · exact hroute.trans (sameFlags_perform _ (by simp))

theorem sameFlags_gotIp (s : WifiSta δ) :
    SameFlags s (s.wifiEventHandler .IP_EVENT_STA_GOT_IP) := by
  have h := s.sameFlags_applyStaDnsAndRoute
  exact ⟨h.autoReconnect, h.firstConnect, h.voluntaryDisconnect, h.registered, h.connectCalls⟩

/-- The handler lets a disconnect pass when it is the user's; it retries a first attempt
once, and a transient failure always. -/
inductive DisconnectEffect (s : WifiSta δ) (reason : UInt8) (s' : WifiSta δ) : Prop where
  | voluntary (set : s.voluntaryDisconnect = true) (eq : s' =
      { s with voluntaryDisconnect := false }.callGroup (.xEventGroupSetBits FAIL_BIT))
  | first (unset : s.voluntaryDisconnect = false) (first : s.firstConnect = true)
      (eq : s' = perform { s with firstConnect := false } .esp_wifi_connect)
  | retries (unset : s.voluntaryDisconnect = false) (later : s.firstConnect = false)
      (transient : (s.autoReconnect && isReconnectableReason reason) = true)
      (eq : s' = s.perform .esp_wifi_connect)
  | fails (unset : s.voluntaryDisconnect = false) (later : s.firstConnect = false)
      (final : (s.autoReconnect && isReconnectableReason reason) = false)
      (eq : s' = s.callGroup (.xEventGroupSetBits FAIL_BIT))

theorem disconnect_effect (s : WifiSta δ) (reason : UInt8) :
    DisconnectEffect s reason (s.wifiEventHandler (.WIFI_EVENT_STA_DISCONNECTED reason)) := by
  cases hv : s.voluntaryDisconnect with
  | true => exact .voluntary hv (by simp [wifiEventHandler, hv])
  | false =>
    cases hf : s.firstConnect with
    | true => exact .first hv hf (by simp [wifiEventHandler, hv, hf])
    | false =>
      cases hr : s.autoReconnect && isReconnectableReason reason with
      | true => exact .retries hv hf hr (by simp [wifiEventHandler, hv, hf, hr])
      | false => exact .fails hv hf hr (by simp [wifiEventHandler, hv, hf, hr])

def NoReconnect (s : WifiSta δ) (ev : WifiEvent) : Prop :=
  (s.deliver ev).connectCalls = s.connectCalls

instance (s : WifiSta δ) (ev : WifiEvent) : Decidable (NoReconnect s ev) :=
  inferInstanceAs (Decidable (_ = _))

def disconnectReason : WifiEvent → Option UInt8
  | .WIFI_EVENT_STA_DISCONNECTED reason => some reason
  | .IP_EVENT_STA_GOT_IP => none

/-- No event of these reconnects: after the one that a voluntary disconnect lets pass there
is no disconnect, or no first attempt is left and none of the reasons is transient. -/
def StaysDisconnected (voluntary first : Bool) (reasons : List UInt8) : Prop :=
  let left := if voluntary then reasons.tail else reasons
  left = [] ∨ first = false ∧ ∀ reason ∈ left, isReconnectableReason reason = false

instance (voluntary first : Bool) (reasons : List UInt8) :
    Decidable (StaysDisconnected voluntary first reasons) :=
  -- the reasons of the list, not the 256 values of `UInt8`
  haveI := List.decidableBAll fun reason => isReconnectableReason reason = false
  inferInstanceAs (Decidable (_ ∨ _ ∧ _))

theorem staysDisconnected_left {first : Bool} {reasons : List UInt8} :
    StaysDisconnected false first reasons ↔ reasons = [] ∨
      first = false ∧ ∀ reason ∈ reasons, isReconnectableReason reason = false := Iff.rfl

theorem staysDisconnected_cons {first : Bool} {reason : UInt8} {reasons : List UInt8} :
    StaysDisconnected false first (reason :: reasons) ↔ first = false ∧
      isReconnectableReason reason = false ∧
      ∀ reason ∈ reasons, isReconnectableReason reason = false := by
  rw [staysDisconnected_left, List.forall_mem_cons]
  simp

theorem deliver_registered {s : WifiSta δ} (h : s.registered = true) (ev : WifiEvent) :
    s.deliver ev = s.wifiEventHandler ev := if_pos h

theorem sameFlags_deliver_gotIp (s : WifiSta δ) :
    SameFlags s (s.deliver .IP_EVENT_STA_GOT_IP) := by
  unfold deliver
  split
  · exact s.sameFlags_gotIp
  · exact .refl s

theorem noReconnect_run_iff {s : WifiSta δ} (hreg : s.registered = true)
    (hauto : s.autoReconnect = true) (hvol : s.voluntaryDisconnect = false)
    (evs : List WifiEvent) : EachStep deliver NoReconnect s evs ↔
      StaysDisconnected false s.firstConnect (evs.filterMap disconnectReason) := by
  induction evs generalizing s with
  | nil => exact iff_of_true trivial (Or.inl rfl)
  | cons ev evs ih =>
    cases ev with
    | IP_EVENT_STA_GOT_IP =>
      have h := s.sameFlags_deliver_gotIp
      have hrest := ih (h.registered.trans hreg) (h.autoReconnect.trans hauto)
        (h.voluntaryDisconnect.trans hvol)
      rw [h.firstConnect] at hrest
      exact (and_iff_right h.connectCalls).trans hrest
    | WIFI_EVENT_STA_DISCONNECTED reason =>
      have hdeliver := deliver_registered hreg (.WIFI_EVENT_STA_DISCONNECTED reason)
      change NoReconnect s _ ∧ EachStep deliver NoReconnect (s.deliver _) evs ↔
        StaysDisconnected false s.firstConnect (reason :: evs.filterMap disconnectReason)
      rw [staysDisconnected_cons, NoReconnect, hdeliver]
      cases s.disconnect_effect reason with
      | voluntary set => simp [hvol] at set
      | first _ first eq =>
        rw [eq, connectCalls_connect]
        exact iff_of_false (fun h => absurd h.1 (Nat.succ_ne_self _)) (by simp [first])
      | retries _ _ transient eq =>
        have hreason : isReconnectableReason reason = true := by simpa [hauto] using transient
        rw [eq, connectCalls_connect]
        exact iff_of_false (fun h => absurd h.1 (Nat.succ_ne_self _)) (by simp [hreason])
      | fails _ later final eq =>
        have hreason : isReconnectableReason reason = false := by simpa [hauto] using final
        have hrest : EachStep deliver NoReconnect
            (s.callGroup (.xEventGroupSetBits FAIL_BIT)) evs ↔ _ := ih hreg hauto hvol
        rw [eq, and_iff_right (connectCalls_callGroup _ _), hrest, staysDisconnected_left]
        constructor
        · rintro (hnil | h)
          · exact ⟨later, hreason, by simp [hnil]⟩
          · exact ⟨later, hreason, h.2⟩
        · exact fun h => Or.inr ⟨later, h.2.2⟩

theorem noReconnect_run_voluntary_iff {s : WifiSta δ} (hreg : s.registered = true)
    (hauto : s.autoReconnect = true) (hvol : s.voluntaryDisconnect = true)
    (evs : List WifiEvent) : EachStep deliver NoReconnect s evs ↔
      StaysDisconnected true s.firstConnect (evs.filterMap disconnectReason) := by
  induction evs generalizing s with
  | nil => exact iff_of_true trivial (Or.inl rfl)
  | cons ev evs ih =>
    cases ev with
    | IP_EVENT_STA_GOT_IP =>
      have h := s.sameFlags_deliver_gotIp
      have hrest := ih (h.registered.trans hreg) (h.autoReconnect.trans hauto)
        (h.voluntaryDisconnect.trans hvol)
      rw [h.firstConnect] at hrest
      exact (and_iff_right h.connectCalls).trans hrest
    | WIFI_EVENT_STA_DISCONNECTED reason =>
      have hdeliver := deliver_registered hreg (.WIFI_EVENT_STA_DISCONNECTED reason)
      rw [EachStep, NoReconnect, hdeliver]
      cases s.disconnect_effect reason with
      | voluntary _ eq =>
        have hunset : (s.wifiEventHandler
            (.WIFI_EVENT_STA_DISCONNECTED reason)).voluntaryDisconnect = false := by rw [eq]; rfl
        have hrest := noReconnect_run_iff (by rw [eq]; exact hreg) (by rw [eq]; exact hauto)
          hunset evs
        have hfirst : (s.wifiEventHandler
            (.WIFI_EVENT_STA_DISCONNECTED reason)).firstConnect = s.firstConnect := by rw [eq]; rfl
        rw [hrest, hfirst]
        exact and_iff_right (by rw [eq]; rfl)
      | first unset => simp [hvol] at unset
      | retries unset => simp [hvol] at unset
      | fails unset => simp [hvol] at unset

theorem noReconnect_run {s : WifiSta δ} (hauto : s.autoReconnect = true)
    (evs : List WifiEvent) : EachStep deliver NoReconnect s evs ↔
      s.registered = false ∨ StaysDisconnected s.voluntaryDisconnect s.firstConnect
        (evs.filterMap disconnectReason) := by
  cases hreg : s.registered with
  | false =>
    have hstep : ∀ ev, s.deliver ev = s := fun ev => if_neg (by simp [hreg])
    refine iff_of_true ?_ (Or.inl rfl)
    exact eachStep_of_invariant (· = s) rfl (eachStep_true _ _)
      (fun s' ev heq _ => by rw [heq, hstep])
      (fun s' ev heq _ => by rw [heq, NoReconnect, hstep])
  | true =>
    simp only [Bool.true_eq_false, false_or]
    cases hvol : s.voluntaryDisconnect with
    | false => exact noReconnect_run_iff hreg hauto hvol evs
    | true => exact noReconnect_run_voluntary_iff hreg hauto hvol evs

theorem foldl_perform_autoReconnect (calls : List WifiCall) (s : WifiSta δ) :
    (calls.foldl perform s).autoReconnect = s.autoReconnect := by
  induction calls generalizing s with
  | nil => rfl
  | cons c calls ih => exact ih (s.perform c)

theorem staInit_autoReconnect (s : WifiSta δ) : s.staInit.2.autoReconnect = s.autoReconnect := by
  unfold staInit
  split
  · rfl
  · dsimp only
    split
    · exact foldl_perform_autoReconnect _ s
    · split
      · exact foldl_perform_autoReconnect _ s
      · split <;> exact foldl_perform_autoReconnect _ s

/-- A `sta_connect` that reaches the wait has armed the first retry. -/
theorem staConnect_fields (s : WifiSta δ) (config : WifiStaConfig) :
    (s.staConnect config).2.autoReconnect = s.autoReconnect ∧
      ((s.staConnect config).1 = true → (s.staConnect config).2.registered = true ∧
        (s.staConnect config).2.voluntaryDisconnect = false ∧
        (s.staConnect config).2.firstConnect = true) := by
  unfold staConnect
  split
  · exact ⟨rfl, fun h => Bool.noConfusion h⟩
  · dsimp only
    split
    · exact ⟨rfl, fun h => Bool.noConfusion h⟩
    · split
      · exact ⟨rfl, fun h => Bool.noConfusion h⟩
      · exact ⟨rfl, fun _ => ⟨rfl, rfl, rfl⟩⟩

theorem sameFlags_staConnectWoken (s : WifiSta δ) (bits : EventBits) :
    SameFlags s (s.staConnectWoken bits).2 := by
  have hwoken : SameFlags s { s with connecting := false } := ⟨rfl, rfl, rfl, rfl, rfl⟩
  unfold staConnectWoken
  dsimp only
  split
  · split
    · split
      · exact hwoken.trans ⟨rfl, rfl, rfl, rfl, rfl⟩
      · exact hwoken
    · exact hwoken
  · exact hwoken.trans (sameFlags_perform _ (by decide))

end WifiSta

section Task
variable {δ : Type} [EspWifi δ]
open WifiSta

/-- The task together with the reasons of the disconnects that were handled since its
current call set the flags, and `s_first_connect` as `sta_disconnect` found it. -/
structure WatchedTask (δ : Type) where
  task : StaTask δ
  during : List UInt8 := []
  firstBefore : Bool := false

def WatchedTask.boot (dev : δ) : WatchedTask δ := { task := { sta := { wifi := { dev := dev } } } }

def WatchedTask.apply (w : WatchedTask δ) (op : StaOp) : WatchedTask δ :=
  let w' := { w with task := op.apply w.task }
  match op with
  | .staConnect _ | .staDisconnect =>
    if w.task.call = .idle then
      { w' with during := [], firstBefore := w.task.sta.firstConnect }
    else w'
  | .event (.WIFI_EVENT_STA_DISCONNECTED reason) =>
    if w.task.sta.registered then { w' with during := w.during ++ [reason] } else w'
  | _ => w'

/-- The next step of the task returns from `sta_disconnect`, or from a `sta_connect` that
has timed out or failed. -/
def GivesUp (w : WatchedTask δ) : Prop :=
  w.task.call = .staDisconnect ∨ w.task.call = .staConnectFailed

instance (w : WatchedTask δ) : Decidable (GivesUp w) := inferInstanceAs (Decidable (_ ∨ _))

/-- `s_voluntary_disconnect` from what has happened: no disconnect since `sta_disconnect`. -/
def voluntaryLeft (w : WatchedTask δ) : Bool :=
  decide (w.task.call = .staDisconnect) && w.during.isEmpty

/-- `s_first_connect` from what has happened: no disconnect since `sta_connect`, or at most
one since a `sta_disconnect` that found it set. -/
def firstLeft (w : WatchedTask δ) : Bool :=
  if w.task.call = .staDisconnect then w.firstBefore && decide (w.during.length ≤ 1)
  else w.during.isEmpty

structure WatchInv (w : WatchedTask δ) : Prop where
  auto : w.task.sta.autoReconnect = true
  connecting : w.task.call = .staConnect ∨ w.task.call = .staConnectFailed →
    w.task.sta.registered = true
  flags : w.task.call ≠ .idle → w.task.sta.voluntaryDisconnect = voluntaryLeft w ∧
    w.task.sta.firstConnect = firstLeft w

omit [EspWifi δ] in
theorem WatchInv.of_idle {w : WatchedTask δ} (hauto : w.task.sta.autoReconnect = true)
    (hidle : w.task.call = .idle) : WatchInv w := by
  refine ⟨hauto, fun hc => ?_, fun hc => absurd hidle hc⟩
  simp [hidle] at hc

omit [EspWifi δ] in
theorem WatchInv.of_sameFlags {w w' : WatchedTask δ} (h : WatchInv w)
    (hsame : SameFlags w.task.sta w'.task.sta) (hcall : w'.task.call = w.task.call)
    (hduring : w'.during = w.during) (hfirst : w'.firstBefore = w.firstBefore) :
    WatchInv w' := by
  refine ⟨hsame.autoReconnect.trans h.auto, fun hc => ?_, fun hc => ?_⟩
  · rw [hcall] at hc
    exact hsame.registered.trans (h.connecting hc)
  · rw [hcall] at hc
    obtain ⟨hvol, hleft⟩ := h.flags hc
    refine ⟨hsame.voluntaryDisconnect.trans (hvol.trans ?_),
      hsame.firstConnect.trans (hleft.trans ?_)⟩
    · simp only [voluntaryLeft, hcall, hduring]
    · simp only [firstLeft, hcall, hduring, hfirst]

theorem disconnected_watchInv {w : WatchedTask δ} (h : WatchInv w) (reason : UInt8) :
    WatchInv (w.apply (.event (.WIFI_EVENT_STA_DISCONNECTED reason))) := by
  cases hreg : w.task.sta.registered with
  | false =>
    have hsame : w.apply (.event (.WIFI_EVENT_STA_DISCONNECTED reason)) = w := by
      simp [WatchedTask.apply, StaOp.apply, deliver, hreg]
    rw [hsame]
    exact h
  | true =>
    have hstep : w.apply (.event (.WIFI_EVENT_STA_DISCONNECTED reason)) =
        { w with
          task := { w.task with
            sta := w.task.sta.wifiEventHandler (.WIFI_EVENT_STA_DISCONNECTED reason) },
          during := w.during ++ [reason] } := by
      simp [WatchedTask.apply, StaOp.apply, deliver, hreg]
    rw [hstep]
    obtain ⟨hauto, hregistered⟩ : (w.task.sta.wifiEventHandler
        (.WIFI_EVENT_STA_DISCONNECTED reason)).autoReconnect = true ∧ (w.task.sta.wifiEventHandler
        (.WIFI_EVENT_STA_DISCONNECTED reason)).registered = true := by
      cases w.task.sta.disconnect_effect reason with
      | voluntary _ eq | first _ _ eq | retries _ _ _ eq | fails _ _ _ eq =>
        rw [eq]
        exact ⟨h.auto, hreg⟩
    refine ⟨hauto, fun _ => hregistered, ?_⟩
    intro hcall
    obtain ⟨hvol, hfirst⟩ := h.flags hcall
    -- unless the disconnect was let pass as the user's, no first attempt is left after it
    have hspent : w.task.sta.voluntaryDisconnect = false →
        firstLeft { w with during := w.during ++ [reason] } = false := by
      intro hunset
      rw [hvol] at hunset
      by_cases hdisconnect : w.task.call = .staDisconnect
      · have hnonempty : w.during ≠ [] := by simpa [voluntaryLeft, hdisconnect] using hunset
        simp [firstLeft, hdisconnect, hnonempty]
      · simp [firstLeft, hdisconnect]
    have hnone : voluntaryLeft { w with during := w.during ++ [reason] } = false := by
      simp [voluntaryLeft]
    cases w.task.sta.disconnect_effect reason with
    | voluntary set eq =>
      rw [hvol] at set
      obtain ⟨hdisconnect, hempty⟩ : w.task.call = .staDisconnect ∧ w.during = [] := by
        simpa [voluntaryLeft] using set
      refine ⟨?_, ?_⟩
      · rw [eq]
        exact hnone.symm
      · rw [eq]
        refine hfirst.trans ?_
        simp [firstLeft, hdisconnect, hempty]
    | first unset _ eq =>
      refine ⟨?_, ?_⟩
      · rw [eq]
        exact unset.trans hnone.symm
      · rw [eq]
        exact (hspent unset).symm
    | retries unset later _ eq | fails unset later _ eq =>
      refine ⟨?_, ?_⟩
      · rw [eq]
        exact unset.trans hnone.symm
      · rw [eq]
        exact later.trans (hspent unset).symm

/-- A task that is inside a call starts no other one. -/
theorem apply_busy {w : WatchedTask δ} (hbusy : w.task.call ≠ .idle) :
    w.apply .staInit = w ∧ (∀ config, w.apply (.staConnect config) = w) ∧
      w.apply .staDisconnect = w := by
  simp [WatchedTask.apply, StaOp.apply, hbusy]

theorem apply_watchInv {w : WatchedTask δ} (h : WatchInv w) (op : StaOp) :
    WatchInv (w.apply op) := by
  cases op with
  | staInit =>
    by_cases hidle : w.task.call = .idle
    · have hstep : w.apply .staInit =
          { w with task := { w.task with sta := w.task.sta.staInit.2 } } := by
        simp [WatchedTask.apply, StaOp.apply, hidle]
      rw [hstep]
      exact .of_idle ((staInit_autoReconnect _).trans h.auto) hidle
    · rw [(apply_busy hidle).1]
      exact h
  | staConnect config =>
    by_cases hidle : w.task.call = .idle
    · obtain ⟨hauto, hblocks⟩ := w.task.sta.staConnect_fields config
      have hstep : w.apply (.staConnect config) =
          { task := { sta := (w.task.sta.staConnect config).2,
                      call := if (w.task.sta.staConnect config).1 then .staConnect else .idle }
            during := [], firstBefore := w.task.sta.firstConnect } := by
        simp [WatchedTask.apply, StaOp.apply, hidle]
      rw [hstep]
      cases hb : (w.task.sta.staConnect config).1 with
      | false => exact .of_idle (hauto.trans h.auto) rfl
      | true =>
        obtain ⟨hreg, hvol, hfirst⟩ := hblocks hb
        exact ⟨hauto.trans h.auto, fun _ => hreg, fun _ => ⟨hvol, hfirst⟩⟩
    · rw [(apply_busy hidle).2.1 config]
      exact h
  | woken bits =>
    by_cases hwait : w.task.call = .staConnect
    · have hflags := w.task.sta.sameFlags_staConnectWoken bits
      have hauto := hflags.autoReconnect.trans h.auto
      have hstep : w.apply (.woken bits) = { w with
          task := { sta := (w.task.sta.staConnectWoken bits).2,
                    call := if (w.task.sta.staConnectWoken bits).1 then .idle
                      else .staConnectFailed } } := by
        simp [WatchedTask.apply, StaOp.apply, hwait]
      rw [hstep]
      cases hb : (w.task.sta.staConnectWoken bits).1 with
      | true => exact .of_idle hauto rfl
      | false =>
        obtain ⟨hvol, hfirst⟩ := h.flags (by simp [hwait])
        simp only [voluntaryLeft, firstLeft, hwait] at hvol hfirst
        exact ⟨hauto, fun _ => hflags.registered.trans (h.connecting (Or.inl hwait)),
          fun _ => ⟨hflags.voluntaryDisconnect.trans hvol, hflags.firstConnect.trans hfirst⟩⟩
    · have hsame : w.apply (.woken bits) = w := by simp [WatchedTask.apply, StaOp.apply, hwait]
      rw [hsame]
      exact h
  | staDisconnect =>
    by_cases hidle : w.task.call = .idle
    · have hstep : w.apply .staDisconnect =
          { task := { sta := w.task.sta.staDisconnect, call := .staDisconnect }
            during := [], firstBefore := w.task.sta.firstConnect } := by
        simp [WatchedTask.apply, StaOp.apply, hidle]
      rw [hstep]
      refine ⟨h.auto, fun hc => ?_, fun _ => ⟨rfl, ?_⟩⟩
      · simp at hc
      · simp [firstLeft, staDisconnect, perform]
    · rw [(apply_busy hidle).2.2]
      exact h
  | returns =>
    have hstep : w.apply .returns = { w with task := StaOp.returns.apply w.task } := rfl
    rw [hstep, StaOp.apply]
    cases hcall : w.task.call with
    | idle | staConnect => exact h
    | staConnectFailed | staDisconnect => exact .of_idle h.auto rfl
  | staRefreshDns =>
    exact h.of_sameFlags w.task.sta.sameFlags_applyStaDnsAndRoute rfl rfl rfl
  | event ev =>
    cases ev with
    | WIFI_EVENT_STA_DISCONNECTED reason => exact disconnected_watchInv h reason
    | IP_EVENT_STA_GOT_IP =>
      exact h.of_sameFlags w.task.sta.sameFlags_deliver_gotIp rfl rfl rfl

/-- From a boot, through any calls and events up to the return of `sta_disconnect` or of a
failed `sta_connect`: the handler never calls `esp_wifi_connect` on the events that follow
if and only if it was never registered, or these events leave nothing to retry. -/
theorem no_reconnect_iff (dev : δ) (ops : List StaOp)
    (hgives : GivesUp (run WatchedTask.apply (.boot dev) ops)) (evs : List WifiEvent) :
    let w := run WatchedTask.apply (.boot dev) ops
    EachStep deliver NoReconnect (StaOp.returns.apply w.task).sta evs ↔
      w.task.sta.registered = false ∨ StaysDisconnected (voluntaryLeft w) (firstLeft w)
        (evs.filterMap disconnectReason) := by
  intro w
  have hinv : WatchInv w := (eachState_invariant WatchInv (.of_idle rfl rfl) ops
    fun _ op h => apply_watchInv h op).last
  have hbusy : w.task.call ≠ .idle := by
    rcases hgives with hc | hc <;> simp [w, hc]
  obtain ⟨hvol, hfirst⟩ := hinv.flags hbusy
  have hreturned : SameFlags w.task.sta (StaOp.returns.apply w.task).sta := by
    rw [StaOp.apply]
    split <;> exact ⟨rfl, rfl, rfl, rfl, rfl⟩
  rw [noReconnect_run (hreturned.autoReconnect.trans hinv.auto), hreturned.registered,
    hreturned.voluntaryDisconnect, hreturned.firstConnect, hvol, hfirst]

end Task

section Example

def simWifi : SimWifi := { ip := 0x0A00A8C0, dnsMain := 0x0100A8C0, dnsBackup := 0 }

def homeConfig : WifiStaConfig := { ssid := some [0x68, 0x6F, 0x6D, 0x65], password := none }

/-- No access point answers: the failure before the timeout uses up the first retry, and
the disconnect that `esp_wifi_disconnect` brings about (reason 8) is not retried. -/
theorem no_reconnect_after_retry :
    EachStep WifiSta.deliver WifiSta.NoReconnect
      (StaOp.returns.apply (run WatchedTask.apply (.boot simWifi) [.staInit,
        .staConnect homeConfig, .event (.WIFI_EVENT_STA_DISCONNECTED 201), .woken {}]).task).sta
      [.WIFI_EVENT_STA_DISCONNECTED 8] := by
  refine (no_reconnect_iff simWifi [.staInit, .staConnect homeConfig,
    .event (.WIFI_EVENT_STA_DISCONNECTED 201), .woken {}] (by decide) _).mpr (Or.inr ?_)
  have hvoluntary : voluntaryLeft (run WatchedTask.apply (.boot simWifi) [.staInit,
    .staConnect homeConfig, .event (.WIFI_EVENT_STA_DISCONNECTED 201), .woken {}]) = false := rfl
  have hfirst : firstLeft (run WatchedTask.apply (.boot simWifi) [.staInit,
    .staConnect homeConfig, .event (.WIFI_EVENT_STA_DISCONNECTED 201), .woken {}]) = false := rfl
  rw [hvoluntary, hfirst]
  decide

/-- A `sta_connect` that timed out before any disconnect. -/
def timedOut : WatchedTask SimWifi :=
  run WatchedTask.apply (.boot simWifi) [.staInit, .staConnect homeConfig, .woken {}]

/-- A connection that `sta_disconnect` has just ended. -/
def leftByUser : WatchedTask SimWifi :=
  run WatchedTask.apply (.boot simWifi)
    [.staInit, .staConnect homeConfig, .event .IP_EVENT_STA_GOT_IP, .woken CONNECTED_BIT,
      .staDisconnect]

/-- The disconnect that ends a timed-out attempt is taken for its first failure. And when a
lost link is still queued, it uses up `s_voluntary_disconnect`, and the disconnect that the
user asked for is retried. -/
theorem reconnects_after_giving_up :
    (GivesUp timedOut ∧ ¬ EachStep WifiSta.deliver WifiSta.NoReconnect
        (StaOp.returns.apply timedOut.task).sta [.WIFI_EVENT_STA_DISCONNECTED 8]) ∧
      GivesUp leftByUser ∧ ¬ EachStep WifiSta.deliver WifiSta.NoReconnect
        (StaOp.returns.apply leftByUser.task).sta
        [.WIFI_EVENT_STA_DISCONNECTED 200, .WIFI_EVENT_STA_DISCONNECTED 8] := by
  refine ⟨⟨?_, ?_⟩, ?_, ?_⟩ <;> decide

end Example
end UngulaNet.Wifi
