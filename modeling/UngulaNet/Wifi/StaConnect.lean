import UngulaNet.Wifi.StaDns

/-!
# The answer of sta_connect

`sta_connect` clears the event bits, asks for a connection and waits. While it waits the
event handler retries the first failure and every transient one, and sets a bit for an
address or for any other failure. The answer depends on those bits alone, and on when the
wait ends.
-/

namespace UngulaNet.Wifi
open Runs
set_option autoImplicit false

def StaOp.isDisconnect : StaOp → Bool
  | .event (.WIFI_EVENT_STA_DISCONNECTED _) => true
  | _ => false

/-- A failure is retried when it is the first or transient. -/
def retry (first : Bool) : StaOp → Nat
  | .event (.WIFI_EVENT_STA_DISCONNECTED reason) =>
    if first || isReconnectableReason reason then 1 else 0
  | _ => 0

/-- The bits that are set, each by a call of its own. -/
def signal (first : Bool) : StaOp → List EventBits
  | .event .IP_EVENT_STA_GOT_IP => [CONNECTED_BIT]
  | .event (.WIFI_EVENT_STA_DISCONNECTED reason) =>
    if first || isReconnectableReason reason then [] else [FAIL_BIT]
  | _ => []

def retries (first : Bool) : List StaOp → Nat
  | [] => 0
  | op :: ops => retry first op + retries (first && !op.isDisconnect) ops

def signals (first : Bool) : List StaOp → List EventBits
  | [] => []
  | op :: ops => signal first op ++ signals (first && !op.isDisconnect) ops

section Task
variable {δ : Type} [EspWifi δ]
open WifiSta

/-- What holds while `sta_connect` waits: `first` is whether the first failure is to come,
`calls` are those on the event group, `attempts` is how often a connection was asked for. -/
structure Waiting (first : Bool) (calls : List EventGroupCall) (attempts : Nat)
    (t : StaTask δ) : Prop where
  call : t.call = .staConnect
  registered : t.sta.registered = true
  autoReconnect : t.sta.autoReconnect = true
  voluntary : t.sta.voluntaryDisconnect = false
  first : t.sta.firstConnect = first
  group : t.sta.wifiEventGroup = some calls
  attempts : t.sta.connectCalls = attempts

theorem wifiEventGroup_applyStaDnsAndRoute (s : WifiSta δ) :
    s.applyStaDnsAndRoute.wifiEventGroup = s.wifiEventGroup := by
  unfold applyStaDnsAndRoute
  split
  · rfl
  · dsimp only
    split <;> exact (snapshotDns_kept _).2

variable {first : Bool} {calls : List EventGroupCall} {attempts : Nat} {t : StaTask δ}

/-- What a step that does not end the wait makes of it. -/
def Goes (first : Bool) (calls : List EventGroupCall) (attempts : Nat) (op : StaOp)
    (t' : StaTask δ) : Prop :=
  Waiting (first && !op.isDisconnect)
    (calls ++ (signal first op).map EventGroupCall.xEventGroupSetBits)
    (attempts + retry first op) t'

omit [EspWifi δ] in
/-- An operation that tells the station nothing about its connection. -/
theorem Waiting.quiet {op : StaOp} {t' : StaTask δ} (h : Waiting first calls attempts t)
    (hcall : t'.call = t.call) (hflags : SameFlags t.sta t'.sta)
    (hgroup : t'.sta.wifiEventGroup = t.sta.wifiEventGroup) (hop : op.isDisconnect = false)
    (hsilent : signal first op = []) (hretry : retry first op = 0) :
    Goes first calls attempts op t' := by
  rw [Goes, hop, hsilent, hretry, Bool.not_false, Bool.and_true, List.map_nil, List.append_nil,
    Nat.add_zero]
  exact ⟨hcall.trans h.call, hflags.registered.trans h.registered,
    hflags.autoReconnect.trans h.autoReconnect, hflags.voluntaryDisconnect.trans h.voluntary,
    hflags.firstConnect.trans h.first, hgroup.trans h.group,
    hflags.connectCalls.trans h.attempts⟩

theorem Waiting.gotIp (h : Waiting first calls attempts t) :
    Goes first calls attempts (.event .IP_EVENT_STA_GOT_IP)
      { t with sta := t.sta.deliver .IP_EVENT_STA_GOT_IP } := by
  have hflags := t.sta.sameFlags_deliver_gotIp
  refine ⟨h.call, hflags.registered.trans h.registered,
    hflags.autoReconnect.trans h.autoReconnect, hflags.voluntaryDisconnect.trans h.voluntary,
    ?_, ?_, hflags.connectCalls.trans h.attempts⟩
  · exact (hflags.firstConnect.trans h.first).trans (Bool.and_true first).symm
  · rw [deliver_registered h.registered]
    change t.sta.applyStaDnsAndRoute.wifiEventGroup.map _ = _
    rw [wifiEventGroup_applyStaDnsAndRoute, h.group]
    rfl

theorem Waiting.disconnected (h : Waiting first calls attempts t) (reason : UInt8) :
    Goes first calls attempts (.event (.WIFI_EVENT_STA_DISCONNECTED reason))
      { t with sta := t.sta.deliver (.WIFI_EVENT_STA_DISCONNECTED reason) } := by
  have hfirst : (first && !StaOp.isDisconnect (.event (.WIFI_EVENT_STA_DISCONNECTED reason))) =
      false := Bool.and_false first
  rw [Goes, hfirst, signal, retry, deliver_registered h.registered]
  cases disconnect_effect t.sta reason with
  | voluntary set => exact nomatch set.symm.trans h.voluntary
  | first _ pending eq =>
    have hretried : (first || isReconnectableReason reason) = true := by
      rw [h.first.symm.trans pending, Bool.true_or]
    rw [eq, if_pos hretried, if_pos hretried, List.map_nil, List.append_nil]
    exact ⟨h.call, h.registered, h.autoReconnect, h.voluntary, rfl, h.group,
      (connectCalls_connect _).trans (congrArg (· + 1) h.attempts)⟩
  | retries _ later transient eq =>
    have hretried : (first || isReconnectableReason reason) = true := by
      rw [h.autoReconnect, Bool.true_and] at transient
      rw [transient, Bool.or_true]
    rw [eq, if_pos hretried, if_pos hretried, List.map_nil, List.append_nil]
    exact ⟨h.call, h.registered, h.autoReconnect, h.voluntary, later, h.group,
      (connectCalls_connect _).trans (congrArg (· + 1) h.attempts)⟩
  | fails _ later final eq =>
    have hretried : ¬ (first || isReconnectableReason reason) = true := by
      rw [h.autoReconnect, Bool.true_and] at final
      rw [h.first.symm.trans later, final]
      exact Bool.false_ne_true
    rw [eq, if_neg hretried, if_neg hretried]
    refine ⟨h.call, h.registered, h.autoReconnect, h.voluntary, later, ?_, h.attempts⟩
    change t.sta.wifiEventGroup.map _ = _
    rw [h.group]
    rfl

/-- Only the end of the wait ends it. -/
theorem Waiting.step (h : Waiting first calls attempts t) {op : StaOp}
    (hop : ∀ bits, op ≠ .woken bits) : Goes first calls attempts op (op.apply t) := by
  have hbusy : t.call ≠ .idle := by
    rw [h.call]
    decide
  cases op with
  | woken bits => exact absurd rfl (hop bits)
  | staInit | staConnect | staDisconnect =>
    rw [StaOp.apply, if_neg hbusy]
    exact h.quiet rfl (.refl _) rfl rfl rfl rfl
  | returns =>
    have hsame : StaOp.apply t .returns = t := by rw [StaOp.apply, h.call]
    rw [hsame]
    exact h.quiet rfl (.refl _) rfl rfl rfl rfl
  | staRefreshDns =>
    exact h.quiet rfl (sameFlags_applyStaDnsAndRoute t.sta)
      (wifiEventGroup_applyStaDnsAndRoute t.sta) rfl rfl rfl
  | event ev =>
    cases ev with
    | IP_EVENT_STA_GOT_IP => exact h.gotIp
    | WIFI_EVENT_STA_DISCONNECTED reason => exact h.disconnected reason

theorem Waiting.run (h : Waiting first calls attempts t) {since : List StaOp}
    (hsince : ∀ op ∈ since, ∀ bits, op ≠ .woken bits) :
    ∃ first', Waiting first'
      (calls ++ (signals first since).map EventGroupCall.xEventGroupSetBits)
      (attempts + retries first since) (Runs.run StaOp.apply t since) := by
  induction since generalizing first calls attempts t with
  | nil => exact ⟨first, by simpa [signals, retries] using h⟩
  | cons op since ih =>
    obtain ⟨first', hrest⟩ := ih (h.step (hsince op List.mem_cons_self))
      fun op' hop' => hsince op' (List.mem_cons_of_mem op hop')
    refine ⟨first', ?_⟩
    rw [signals, retries, List.map_append, ← List.append_assoc, ← Nat.add_assoc]
    exact hrest

/-! ## From boot -/

end Task

section Example

end Example
end UngulaNet.Wifi
