import UngulaNet.Connection.NodeConsistency
import UngulaNet.Connection.ManagerClock

/-!
# The escalation budget

How far a manager goes to find its coordinator. Under the STATIC policy it never leaves
the last known channel, however often its 8-bit probe counter wraps. Under the DYNAMIC
policy a stay in REACQUIRING_STATIC has a budget of probes, and it escalates with exactly
that many sent: the counter cannot wrap within a stay, because the budget fits in it.
-/

namespace UngulaNet.Connection
open Runs
set_option autoImplicit false

/-- A call at any reading of the clock, or a change of the provider. -/
inductive ManagerEvent (S : Type) where
  | call (call : ManagerCall) (nowMs : UInt32)
  | environment (provider : S)

inductive Transition : ConnMgrState → ConnMgrState → Prop where
  | connect (s : ConnMgrState) : Transition s .PAIRED_CONNECTED
  | lose : Transition .PAIRED_CONNECTED .PAIRED_DEGRADED
  | recover : Transition .PAIRED_DEGRADED .REACQUIRING_STATIC
  | escalate : Transition .REACQUIRING_STATIC .REACQUIRING_DYNAMIC

/-- How many probes a stay in REACQUIRING_STATIC may send: at least the one it is
entered for. -/
def ConnectionConfig.probeBudget (config : ConnectionConfig) : Nat :=
  max 1 config.staticMaxProbes.toNat

section Budget
variable {S : Type}
open ConnectionManager

def probesSent (m : ConnectionManager S) : Nat := m.session.calls.count .sendProbe

def InStatic (m : ConnectionManager S) : Prop := m.getState = .REACQUIRING_STATIC

instance (m : ConnectionManager S) : Decidable (InStatic m) :=
  inferInstanceAs (Decidable (m.getState = .REACQUIRING_STATIC))

/-- The calls of `m'` are those of `m` and then some that neither probe nor escalate. -/
def AddsNoProbe (m m' : ConnectionManager S) : Prop :=
  ∃ added, m'.session.calls = m.session.calls ++ added ∧ .sendProbe ∉ added ∧
    .startReacquisition ∉ added

/-- What a call can do to the state, the probe counter and the calls of the session. -/
inductive CallEffect (m m' : ConnectionManager S) : Prop where
  | stays (calls : AddsNoProbe m m') (state : m'.state = m.state)
      (count : m'.probeCount = m.probeCount)
  | moves (calls : AddsNoProbe m m') (transition : Transition m.state m'.state)
      (state : m'.state ≠ .REACQUIRING_DYNAMIC) (count : m'.probeCount = 0)
  | probes (calls : m'.session.calls = m.session.calls ++ [.sendProbe])
      (before : InStatic m) (after : InStatic m') (left : ¬ m.Exhausted)
      (count : m'.probeCount = m.probeCount + 1)
  | escalates (calls : m'.session.calls = m.session.calls ++ [.sendProbe, .startReacquisition])
      (before : InStatic m) (after : m'.state = .REACQUIRING_DYNAMIC) (spent : m.Exhausted)

theorem AddsNoProbe.of_eq {m m' : ConnectionManager S} (h : m'.session.calls = m.session.calls) :
    AddsNoProbe m m' := ⟨[], by simp [h], by simp, by simp⟩

theorem AddsNoProbe.single {m m' : ConnectionManager S} {call : SessionCall}
    (h : m'.session.calls = m.session.calls ++ [call]) (hprobe : call ≠ .sendProbe)
    (hstart : call ≠ .startReacquisition) : AddsNoProbe m m' :=
  ⟨[call], h, by simpa using hprobe.symm, by simpa using hstart.symm⟩

theorem AddsNoProbe.probesSent {m m' : ConnectionManager S} (h : AddsNoProbe m m') :
    probesSent m' = probesSent m := by
  obtain ⟨added, hcalls, hprobe, _⟩ := h
  simp [Connection.probesSent, hcalls, List.count_eq_zero_of_not_mem hprobe]

variable [ISessionProvider S]

def ManagerEvent.apply (m : ConnectionManager S) : ManagerEvent S → ConnectionManager S
  | .call c nowMs => c.apply m nowMs
  | .environment provider => m.setProvider provider

theorem loop_effect {m : ConnectionManager S} (h : m.FlagAgrees) (nowMs : UInt32) :
    CallEffect m (m.loop nowMs) := by
  cases hs : m.state with
  | UNPAIRED_DISCOVERY =>
    rcases loop_unpaired h hs nowMs with ⟨_, he⟩ | ⟨_, he⟩ <;> rw [he]
    · exact .stays (.single rfl (by simp) (by simp)) rfl rfl
    · exact .moves (.single rfl (by simp) (by simp)) (.connect m.state) (by simp [recovered]) rfl
  | PAIRED_CONNECTED =>
    rcases loop_connected h hs nowMs with ⟨_, he⟩ | ⟨_, he⟩ <;> rw [he]
    · exact .stays (.of_eq rfl) rfl rfl
    · exact .moves (.of_eq rfl) (hs ▸ .lose) (by simp) rfl
  | PAIRED_DEGRADED =>
    rcases loop_degraded h hs nowMs with ⟨_, he⟩ | ⟨_, he⟩ <;> rw [he]
    · exact .stays (.of_eq rfl) rfl rfl
    · exact .moves (.of_eq rfl) (hs ▸ .recover) (by simp) rfl
  | REACQUIRING_STATIC =>
    rcases loop_static h hs nowMs with ⟨_, he⟩ | ⟨_, hleft, he⟩ | ⟨_, hspent, he⟩ <;> rw [he]
    · exact .stays (.of_eq rfl) rfl rfl
    · exact .probes rfl hs hs hleft rfl
    · exact .escalates (by simp [Session.sendProbe, Session.startReacquisition]) hs rfl hspent
  | REACQUIRING_DYNAMIC =>
    rcases loop_dynamic h hs nowMs with ⟨_, he⟩ | ⟨_, _, he⟩ | ⟨_, _, he⟩ <;> rw [he]
    · exact .stays (.of_eq rfl) rfl rfl
    · exact .stays (.single rfl (by simp) (by simp)) rfl rfl
    · refine .moves ⟨[.loopReacquisition nowMs, .resetReacquisition], ?_, by simp, by simp⟩
        (.connect m.state) (by simp [recovered]) rfl
      simp [recovered, Session.loopReacquisition, Session.resetReacquisition]

theorem event_effect {m : ConnectionManager S} (h : m.FlagAgrees) (ev : ManagerEvent S) :
    CallEffect m (ev.apply m) := by
  cases ev with
  | environment provider => exact .stays (.of_eq rfl) rfl rfl
  | call call nowMs =>
    by_cases hcall : call = .loop
    · subst hcall
      exact loop_effect h nowMs
    · rw [ManagerEvent.apply]
      rcases apply_cases h hcall nowMs with he | ⟨_, he⟩ | he <;> rw [he]
      · exact .moves (.single rfl (by simp) (by simp)) (.connect m.state) (by simp [recovered]) rfl
      · exact .stays (.of_eq rfl) rfl rfl
      · exact .stays (.of_eq rfl) rfl rfl

omit [ISessionProvider S] in
theorem CallEffect.transition {m m' : ConnectionManager S} (h : CallEffect m m') :
    m'.state = m.state ∨ Transition m.state m'.state := by
  cases h with
  | stays _ state _ => exact Or.inl state
  | moves _ transition _ _ => exact Or.inr transition
  | probes _ before after _ _ => exact Or.inl (after.trans before.symm)
  | escalates _ before after _ =>
    have hs : m.state = .REACQUIRING_STATIC := before
    rw [hs, after]
    exact Or.inr .escalate

theorem event_config {m : ConnectionManager S} (h : m.FlagAgrees) (ev : ManagerEvent S) :
    (ev.apply m).config = m.config := by
  cases ev with
  | environment provider => rfl
  | call call nowMs =>
    by_cases hcall : call = .loop
    · subst hcall
      exact config_loop h nowMs
    · rw [ManagerEvent.apply]
      rcases apply_cases h hcall nowMs with he | ⟨_, he⟩ | he <;> rw [he]
      rfl

structure ConfigInv (config : ConnectionConfig) (m : ConnectionManager S) : Prop where
  flag : m.FlagAgrees
  config : m.config = config

theorem apply_configInv {config : ConnectionConfig} {m : ConnectionManager S}
    (h : ConfigInv config m) (ev : ManagerEvent S) : ConfigInv config (ev.apply m) := by
  refine ⟨?_, (event_config h.flag ev).trans h.config⟩
  cases ev with
  | environment provider => exact h.flag.setProvider provider
  | call call nowMs => exact flagAgrees_apply h.flag call nowMs

theorem run_configInv {config : ConnectionConfig} {m : ConnectionManager S}
    (h : ConfigInv config m) (evs : List (ManagerEvent S)) :
    ConfigInv config (run ManagerEvent.apply m evs) :=
  (eachState_invariant (ConfigInv config) h evs fun _ ev h => apply_configInv h ev).last

theorem begin_configInv (provider : S) (config : ConnectionConfig) (nowMs : UInt32) :
    ConfigInv config ((ConnectionManager.new { provider := provider } config).begin nowMs) := by
  refine ⟨flagAgrees_begin _ config nowMs, ?_⟩
  rcases (ConnectionManager.new { provider := provider } config).begin_cases nowMs with
    ⟨_, he⟩ | ⟨_, he⟩ <;> rw [he] <;> rfl

structure NeverEscalated (m : ConnectionManager S) : Prop where
  state : m.getState ≠ .REACQUIRING_DYNAMIC
  calls : .startReacquisition ∉ m.session.calls

omit [ISessionProvider S] in
theorem neverEscalated_of_static {m m' : ConnectionManager S} (h : NeverEscalated m)
    (hpolicy : m.config.policy = .STATIC) (heffect : CallEffect m m') : NeverEscalated m' := by
  cases heffect with
  | stays calls state _ =>
    obtain ⟨added, hcalls, _, hstart⟩ := calls
    refine ⟨fun hc => h.state (state.symm.trans hc), ?_⟩
    rw [hcalls, List.mem_append, not_or]
    exact ⟨h.calls, hstart⟩
  | moves calls _ state _ =>
    obtain ⟨added, hcalls, _, hstart⟩ := calls
    refine ⟨state, ?_⟩
    rw [hcalls, List.mem_append, not_or]
    exact ⟨h.calls, hstart⟩
  | probes calls _ after _ _ =>
    have hs : m'.state = .REACQUIRING_STATIC := after
    refine ⟨by simp [getState, hs], ?_⟩
    rw [calls, List.mem_append, not_or]
    exact ⟨h.calls, by simp⟩
  | escalates _ _ _ spent => exact absurd (hpolicy.symm.trans spent.1) (by decide)

theorem run_neverEscalated {config : ConnectionConfig} (hpolicy : config.policy = .STATIC)
    {m : ConnectionManager S} (h : ConfigInv config m) (hm : NeverEscalated m)
    (evs : List (ManagerEvent S)) : EachState ManagerEvent.apply NeverEscalated m evs := by
  have hboth : EachState ManagerEvent.apply (fun m => ConfigInv config m ∧ NeverEscalated m) m evs :=
    eachState_invariant _ ⟨h, hm⟩ evs fun _ ev hm => ⟨apply_configInv hm.1 ev,
      neverEscalated_of_static hm.2 (by rw [hm.1.config, hpolicy]) (event_effect hm.1.flag ev)⟩
  exact hboth.imp fun _ hm => hm.2

/-- Within a stay the probe counter is the true number of probes sent, and below the
budget. -/
structure StayInv (config : ConnectionConfig) (sent : Nat) (m : ConnectionManager S) : Prop where
  inv : ConfigInv config m
  counted : probesSent m = sent + m.probeCount.toNat
  left : m.probeCount.toNat < config.probeBudget

omit [ISessionProvider S] in
/-- The comparison of the code, as long as the counter has not wrapped. -/
theorem exhausted_iff {config : ConnectionConfig} (hpolicy : config.policy = .DYNAMIC)
    {m : ConnectionManager S} (hconfig : m.config = config)
    (hleft : m.probeCount.toNat < config.probeBudget) :
    (m.probeCount + 1).toNat = m.probeCount.toNat + 1 ∧
      (m.Exhausted ↔ config.probeBudget ≤ m.probeCount.toNat + 1) := by
  have hmax := config.staticMaxProbes.toNat_lt
  unfold ConnectionConfig.probeBudget at hleft ⊢
  have hnowrap : (m.probeCount + 1).toNat = m.probeCount.toNat + 1 := by
    rw [UInt8.toNat_add, UInt8.toNat_one]
    omega
  refine ⟨hnowrap, ?_⟩
  have hcompare : m.probeCount + 1 ≥ config.staticMaxProbes ↔
      config.staticMaxProbes.toNat ≤ m.probeCount.toNat + 1 := by
    rw [ge_iff_le, UInt8.le_iff_toNat_le, hnowrap]
  rw [Exhausted, hconfig, hcompare]
  simp only [hpolicy, true_and]
  omega

theorem enter_stayInv {config : ConnectionConfig} {m : ConnectionManager S}
    (h : ConfigInv config m) {ev : ManagerEvent S} (hout : ¬ InStatic m)
    (hin : InStatic (ev.apply m)) : StayInv config (probesSent (ev.apply m)) (ev.apply m) := by
  have hcount : (ev.apply m).probeCount = 0 := by
    cases event_effect h.flag ev with
    | stays _ state _ => exact absurd (state.symm.trans hin) hout
    | moves _ _ _ count => exact count
    | probes _ before _ _ _ => exact absurd before hout
    | escalates _ before _ _ => exact absurd before hout
  refine ⟨apply_configInv h ev, by simp [hcount], ?_⟩
  rw [hcount]
  exact Nat.lt_of_lt_of_le (by decide) (Nat.le_max_left 1 _)

theorem apply_stayInv {config : ConnectionConfig} (hpolicy : config.policy = .DYNAMIC)
    {sent : Nat} {m : ConnectionManager S} (h : StayInv config sent m) (hs : InStatic m)
    {ev : ManagerEvent S} (hstays : InStatic (ev.apply m)) : StayInv config sent (ev.apply m) := by
  obtain ⟨hnowrap, hspent⟩ := exhausted_iff hpolicy h.inv.config h.left
  refine ⟨apply_configInv h.inv ev, ?_, ?_⟩
  · cases event_effect h.inv.flag ev with
    | stays calls _ count => rw [calls.probesSent, count, h.counted]
    | moves _ transition _ _ =>
      have hfrom : m.state = .REACQUIRING_STATIC := hs
      have hto : (ev.apply m).state = .REACQUIRING_STATIC := hstays
      rw [hfrom, hto] at transition
      nomatch transition
    | probes calls _ _ _ count =>
      rw [count, hnowrap, probesSent, calls, List.count_append, ← probesSent, h.counted]
      rfl
    | escalates _ _ after _ => exact absurd (after.symm.trans hstays) (by decide)
  · cases event_effect h.inv.flag ev with
    | stays _ _ count =>
      rw [count]
      exact h.left
    | moves _ _ _ count =>
      rw [count]
      exact Nat.lt_of_lt_of_le (by decide) (Nat.le_max_left 1 _)
    | probes _ _ _ left count =>
      rw [hspent] at left
      rw [count, hnowrap]
      omega
    | escalates _ _ after _ => exact absurd (after.symm.trans hstays) (by decide)

theorem run_stayInv {config : ConnectionConfig} (hpolicy : config.policy = .DYNAMIC)
    {sent : Nat} {m : ConnectionManager S} (h : StayInv config sent m)
    {mid : List (ManagerEvent S)} (hmid : EachState ManagerEvent.apply InStatic m mid) :
    StayInv config sent (run ManagerEvent.apply m mid) := by
  induction mid generalizing m with
  | nil => exact h
  | cons ev mid ih =>
    have hstays : InStatic (ev.apply m) := eachState_iff.mp hmid.2 [] mid rfl
    exact ih (apply_stayInv hpolicy h hmid.1 hstays) hmid.2

/-- One more event of a stay stays within the budget, and spends all of it if it
escalates. -/
theorem last_probes {config : ConnectionConfig} (hpolicy : config.policy = .DYNAMIC)
    {sent : Nat} {m : ConnectionManager S} (h : StayInv config sent m) (ev : ManagerEvent S) :
    probesSent (ev.apply m) ≤ sent + config.probeBudget ∧
      ((ev.apply m).getState = .REACQUIRING_DYNAMIC → InStatic m →
        probesSent (ev.apply m) = sent + config.probeBudget) := by
  obtain ⟨_, hspent⟩ := exhausted_iff hpolicy h.inv.config h.left
  have hcounted := h.counted
  have hleft := h.left
  cases event_effect h.inv.flag ev with
  | stays calls state _ =>
    rw [calls.probesSent]
    refine ⟨by omega, ?_⟩
    intro hdynamic hs
    exact absurd ((state.symm.trans hdynamic).symm.trans hs) (by decide)
  | moves calls _ state _ =>
    rw [calls.probesSent]
    exact ⟨by omega, fun hdynamic => absurd hdynamic state⟩
  | probes calls _ after left _ =>
    have hone : probesSent (ev.apply m) = probesSent m + 1 := by
      rw [probesSent, calls, List.count_append]
      rfl
    rw [hspent] at left
    refine ⟨by omega, ?_⟩
    intro hdynamic
    exact absurd (hdynamic.symm.trans after) (by decide)
  | escalates calls _ _ spent =>
    have hone : probesSent (ev.apply m) = probesSent m + 1 := by
      rw [probesSent, calls, List.count_append]
      rfl
    rw [hspent] at spent
    exact ⟨by omega, fun _ _ => by omega⟩

/-- From `begin` on, under any timing and any behaviour of the provider. A STATIC
policy never escalates. Under a DYNAMIC policy a stay in REACQUIRING_STATIC, its last
event included, sends at most its budget of probes, and exactly that if it ends in
REACQUIRING_DYNAMIC. Under both the state changes only by the listed transitions. -/
theorem escalation_budget (provider : S) (config : ConnectionConfig) (nowMs : UInt32) :
    (config.policy = .STATIC → ∀ evs, EachState ManagerEvent.apply NeverEscalated
      ((ConnectionManager.new { provider := provider } config).begin nowMs) evs) ∧
    (config.policy = .DYNAMIC → ∀ before enter mid last,
      Stay ManagerEvent.apply InStatic
        ((ConnectionManager.new { provider := provider } config).begin nowMs) before enter mid →
      ∀ entered left, entered = run ManagerEvent.apply
          ((ConnectionManager.new { provider := provider } config).begin nowMs)
          (before ++ [enter]) →
        left = run ManagerEvent.apply entered (mid ++ [last]) →
        probesSent left ≤ probesSent entered + config.probeBudget ∧
          (left.getState = .REACQUIRING_DYNAMIC →
            probesSent left = probesSent entered + config.probeBudget)) ∧
    ∀ evs, EachStep ManagerEvent.apply
      (fun m ev => (ev.apply m).getState = m.getState ∨ Transition m.getState (ev.apply m).getState)
      ((ConnectionManager.new { provider := provider } config).begin nowMs) evs := by
  have hinv := begin_configInv provider config nowMs
  refine ⟨fun hpolicy evs => ?_, fun hpolicy before enter mid last hstay entered left hentered hleft
    => ?_, fun evs => ?_⟩
  · refine run_neverEscalated hpolicy hinv ⟨?_, ?_⟩ evs
    · rcases (ConnectionManager.new { provider := provider } config).begin_state nowMs with he | he <;>
        simp [getState, he]
    · rcases (ConnectionManager.new { provider := provider } config).begin_cases nowMs with
        ⟨_, he⟩ | ⟨_, he⟩ <;> rw [he] <;> simp [ConnectionManager.new, Session.startDiscovery]
  · have hin : InStatic entered := by
      rw [hentered]
      exact eachState_iff.mp hstay.inside [] mid rfl
    have hstep : entered = enter.apply (run ManagerEvent.apply
        ((ConnectionManager.new { provider := provider } config).begin nowMs) before) := by
      rw [hentered, run_append]
      rfl
    have hfresh : StayInv config (probesSent entered) entered := by
      rw [hstep] at hin ⊢
      exact enter_stayInv (run_configInv hinv before) hstay.outside hin
    have hmid : EachState ManagerEvent.apply InStatic entered mid := hentered ▸ hstay.inside
    obtain ⟨hle, heq⟩ := last_probes hpolicy (run_stayInv hpolicy hfresh hmid) last
    rw [hleft, run_append]
    exact ⟨hle, fun hdynamic => heq hdynamic hmid.last⟩
  · exact eachStep_of_invariant (ConfigInv config) hinv (eachStep_true _ _)
      (fun _ ev h _ => apply_configInv h ev)
      (fun _ ev h _ => (event_effect h.flag ev).transition)

end Budget

section Example
open Comm

def beganNode (policy : ConnectionPolicy) : Node (EspNowTransport SimRadio) :=
  (ConnectionManager.new { provider := pairedSession.provider }
    { policy := policy, staticMaxProbes := 2 }).begin 0

/-- The same calls leave one node where it was and let the other escalate after its two
probes. -/
theorem escalation_budget_two :
    EachState ManagerEvent.apply NeverEscalated (beganNode .STATIC)
        [.call .loop 500, .call .loop 510, .call .loop 1600] ∧
      probesSent (run ManagerEvent.apply (beganNode .DYNAMIC)
          [.call .loop 500, .call .loop 510, .call .loop 1600]) =
        probesSent (run ManagerEvent.apply (beganNode .DYNAMIC) [.call .loop 500]) + 2 :=
  ⟨(escalation_budget pairedSession.provider { policy := .STATIC, staticMaxProbes := 2 } 0).1
      rfl _,
    ((escalation_budget pairedSession.provider { policy := .DYNAMIC, staticMaxProbes := 2 } 0).2.1
      rfl [] (.call .loop 500) [.call .loop 510] (.call .loop 1600)
      ⟨by decide, by decide⟩ _ _ rfl rfl).2 (by decide)⟩

end Example
end UngulaNet.Connection
