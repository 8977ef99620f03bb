import UngulaNet.Foundation.Runs
import UngulaNet.Foundation.WrapClock
import UngulaNet.Connection.ManagerSteps

/-!
# A connection manager in true time

The manager sees a 32-bit clock. `TimedManager` puts next to it what an observer with an
unbounded clock sees: the present time, when the present state was entered, when the
last probe call of this state was made, and when the coordinator was last heard. These
are read off the calls and the states, never off the manager's own timestamps. Between
two calls the provider may change in any way.
-/

namespace UngulaNet.Connection
open Runs WrapClock
set_option autoImplicit false

/-- The calls that reach the coordinator, in each of the two probing states. -/
def ProbeOf : ConnMgrState → SessionCall → Prop
  | .REACQUIRING_STATIC, .sendProbe => True
  | .REACQUIRING_DYNAMIC, .loopReacquisition _ => True
  | _, _ => False

instance : ∀ s call, Decidable (ProbeOf s call)
  | .REACQUIRING_STATIC, .sendProbe => isTrue trivial
  | .REACQUIRING_STATIC, .startDiscovery | .REACQUIRING_STATIC, .loopDiscovery _
  | .REACQUIRING_STATIC, .startReacquisition | .REACQUIRING_STATIC, .loopReacquisition _
  | .REACQUIRING_STATIC, .resetReacquisition => isFalse (fun h => h)
  | .REACQUIRING_DYNAMIC, .loopReacquisition _ => isTrue trivial
  | .REACQUIRING_DYNAMIC, .startDiscovery | .REACQUIRING_DYNAMIC, .loopDiscovery _
  | .REACQUIRING_DYNAMIC, .startReacquisition | .REACQUIRING_DYNAMIC, .sendProbe
  | .REACQUIRING_DYNAMIC, .resetReacquisition => isFalse (fun h => h)
  | .UNPAIRED_DISCOVERY, _ | .PAIRED_CONNECTED, _ | .PAIRED_DEGRADED, _ => isFalse (fun h => h)

def Probing (s : ConnMgrState) : Prop := s = .REACQUIRING_STATIC ∨ s = .REACQUIRING_DYNAMIC

instance (s : ConnMgrState) : Decidable (Probing s) := inferInstanceAs (Decidable (_ ∨ _))

def ConnectionConfig.probeInterval (config : ConnectionConfig) : ConnMgrState → UInt32
  | .REACQUIRING_STATIC => config.staticProbeIntervalMs
  | .REACQUIRING_DYNAMIC => config.dynamicProbeIntervalMs
  | _ => 0

section Calls
variable {S : Type}

def newCalls (m m' : ConnectionManager S) : List SessionCall :=
  m'.session.calls.drop m.session.calls.length

theorem newCalls_eq {m m' : ConnectionManager S} {added : List SessionCall}
    (h : m'.session.calls = m.session.calls ++ added) : newCalls m m' = added := by
  simp [newCalls, h]

def Probed (m m' : ConnectionManager S) : Prop := ∃ call ∈ newCalls m m', ProbeOf m.state call

instance (m m' : ConnectionManager S) : Decidable (Probed m m') :=
  inferInstanceAs (Decidable (∃ call ∈ newCalls m m', ProbeOf m.state call))

theorem probed_iff {m m' : ConnectionManager S} {added : List SessionCall}
    (h : m'.session.calls = m.session.calls ++ added) :
    Probed m m' ↔ ∃ call ∈ added, ProbeOf m.state call := by
  rw [Probed, newCalls_eq h]

theorem not_probed_self (m : ConnectionManager S) : ¬ Probed m m := by
  rw [probed_iff (List.append_nil m.session.calls).symm]
  simp

end Calls

structure TimedManager (S : Type) where
  mgr : ConnectionManager S
  now : Nat
  entered : Nat
  lastProbe : Option Nat := none
  heard : Option Nat := none

inductive TimedEvent (S : Type) where
  | call (call : ManagerCall) (time : Nat)
  | environment (provider : S)

section Step
variable {S : Type} [ISessionProvider S]

/-- The coordinator is heard in the call: a heartbeat or a message is accepted, a
reacquisition is reported or completes, or the discovery completes. -/
def Hears (m m' : ConnectionManager S) : ManagerCall → Prop
  | .loop => (m.state = .UNPAIRED_DISCOVERY ∨ m.state = .REACQUIRING_DYNAMIC) ∧
      m'.state = .PAIRED_CONNECTED
  | .onHeartbeatReceived => m.Heeds
  | .onMessageReceived => m.Heeds
  | .onReacquisitionSuccess => True

instance (m m' : ConnectionManager S) : ∀ call, Decidable (Hears m m' call)
  | .loop => inferInstanceAs (Decidable (_ ∧ _))
  | .onHeartbeatReceived | .onMessageReceived => inferInstanceAs (Decidable m.Heeds)
  | .onReacquisitionSuccess => isTrue trivial

namespace TimedManager

def start (session : Session S) (config : ConnectionConfig) (time : Nat) : TimedManager S :=
  { mgr := (ConnectionManager.new session config).begin (stamp time), now := time,
    entered := time }

def apply (w : TimedManager S) : TimedEvent S → TimedManager S
  | .environment provider => { w with mgr := w.mgr.setProvider provider }
  | .call call time =>
    let m := call.apply w.mgr (stamp time)
    { mgr := m, now := time,
      entered := if m.state = w.mgr.state then w.entered else time,
      lastProbe :=
        if m.state ≠ w.mgr.state then none
        else if Probed w.mgr m then some time else w.lastProbe,
      heard := if Hears w.mgr m call then some time else w.heard }

def InOrder (w : TimedManager S) : TimedEvent S → Prop
  | .call _ time => w.now ≤ time
  | .environment _ => True

instance (w : TimedManager S) : ∀ ev, Decidable (w.InOrder ev)
  | .call _ time => inferInstanceAs (Decidable (w.now ≤ time))
  | .environment _ => isTrue trivial

/-- When the next probe of the present state is due: the interval after the last one, or
at once in a state just entered. -/
def deadline (w : TimedManager S) : Nat :=
  match w.lastProbe with
  | none => w.entered
  | some last => last + (w.mgr.config.probeInterval w.mgr.state).toNat

end TimedManager
end Step

section Facts
variable {S : Type} [ISessionProvider S]
open ConnectionManager

theorem config_loop {m : ConnectionManager S} (h : m.FlagAgrees) (nowMs : UInt32) :
    (m.loop nowMs).config = m.config := by
  cases hs : m.state with
  | UNPAIRED_DISCOVERY =>
    rcases loop_unpaired h hs nowMs with ⟨_, he⟩ | ⟨_, he⟩
    · rw [he]
    · rw [he, recovered]
  | PAIRED_CONNECTED => rcases loop_connected h hs nowMs with ⟨_, he⟩ | ⟨_, he⟩ <;> rw [he]
  | PAIRED_DEGRADED => rcases loop_degraded h hs nowMs with ⟨_, he⟩ | ⟨_, he⟩ <;> rw [he]
  | REACQUIRING_STATIC =>
    rcases loop_static h hs nowMs with ⟨_, he⟩ | ⟨_, _, he⟩ | ⟨_, _, he⟩ <;> rw [he]
  | REACQUIRING_DYNAMIC =>
    rcases loop_dynamic h hs nowMs with ⟨_, he⟩ | ⟨_, _, he⟩ | ⟨_, _, he⟩
    · rw [he]
    · rw [he]
    · rw [he, recovered]

/-- In a probing state, `loop` probes exactly when its clock is not below the stored
deadline. -/
theorem loop_probed_iff {m : ConnectionManager S} (h : m.FlagAgrees) (hp : Probing m.state)
    (nowMs : UInt32) : Probed m (m.loop nowMs) ↔ ¬ nowMs < m.nextProbeMs := by
  rcases hp with hs | hs
  · rcases loop_static h hs nowMs with ⟨hn, he⟩ | ⟨hn, _, he⟩ | ⟨hn, _, he⟩
    · rw [he]
      exact iff_of_false (not_probed_self m) (fun hc => hc hn)
    · have hcalls : (m.loop nowMs).session.calls = m.session.calls ++ [.sendProbe] := by
        rw [he, Session.sendProbe]
      rw [probed_iff hcalls]
      exact iff_of_true ⟨.sendProbe, by simp, by simp [hs, ProbeOf]⟩ hn
    · have hcalls : (m.loop nowMs).session.calls =
          m.session.calls ++ [.sendProbe, .startReacquisition] := by
        simp [he, Session.sendProbe, Session.startReacquisition]
      rw [probed_iff hcalls]
      exact iff_of_true ⟨.sendProbe, by simp, by simp [hs, ProbeOf]⟩ hn
  · rcases loop_dynamic h hs nowMs with ⟨hn, he⟩ | ⟨hn, _, he⟩ | ⟨hn, _, he⟩
    · rw [he]
      exact iff_of_false (not_probed_self m) (fun hc => hc hn)
    · have hcalls : (m.loop nowMs).session.calls =
          m.session.calls ++ [.loopReacquisition nowMs] := by
        rw [he, Session.loopReacquisition]
      rw [probed_iff hcalls]
      exact iff_of_true ⟨.loopReacquisition nowMs, by simp, by simp [hs, ProbeOf]⟩ hn
    · have hcalls : (m.loop nowMs).session.calls =
          m.session.calls ++ [.loopReacquisition nowMs, .resetReacquisition] := by
        simp [he, recovered, Session.loopReacquisition, Session.resetReacquisition]
      rw [probed_iff hcalls]
      exact iff_of_true ⟨.loopReacquisition nowMs, by simp, by simp [hs, ProbeOf]⟩ hn

/-- A probing state is entered with its deadline at the present; within the state only a
probe moves the deadline, by the interval of the state. -/
theorem loop_nextProbeMs {m : ConnectionManager S} (h : m.FlagAgrees) (nowMs : UInt32)
    (hp : Probing (m.loop nowMs).state) :
    ((m.loop nowMs).state ≠ m.state ∧ (m.loop nowMs).nextProbeMs = nowMs) ∨
      ((m.loop nowMs).state = m.state ∧ nowMs < m.nextProbeMs ∧
        (m.loop nowMs).nextProbeMs = m.nextProbeMs) ∨
      ((m.loop nowMs).state = m.state ∧ ¬ nowMs < m.nextProbeMs ∧
        (m.loop nowMs).nextProbeMs = nowMs + m.config.probeInterval m.state) := by
  cases hs : m.state with
  | UNPAIRED_DISCOVERY =>
    rcases loop_unpaired h hs nowMs with ⟨_, he⟩ | ⟨_, he⟩ <;>
      simp [he, recovered, Probing, hs] at hp
  | PAIRED_CONNECTED =>
    rcases loop_connected h hs nowMs with ⟨_, he⟩ | ⟨_, he⟩ <;> simp [he, Probing, hs] at hp
  | PAIRED_DEGRADED =>
    rcases loop_degraded h hs nowMs with ⟨_, he⟩ | ⟨_, he⟩
    · simp [he, Probing, hs] at hp
    · rw [he]
      exact Or.inl ⟨by simp, rfl⟩
  | REACQUIRING_STATIC =>
    rcases loop_static h hs nowMs with ⟨hn, he⟩ | ⟨hn, _, he⟩ | ⟨_, _, he⟩
    · rw [he]
      exact Or.inr (Or.inl ⟨hs, hn, rfl⟩)
    · rw [he]
      exact Or.inr (Or.inr ⟨hs, hn, rfl⟩)
    · rw [he]
      exact Or.inl ⟨by simp, rfl⟩
  | REACQUIRING_DYNAMIC =>
    rcases loop_dynamic h hs nowMs with ⟨hn, he⟩ | ⟨hn, _, he⟩ | ⟨_, _, he⟩
    · rw [he]
      exact Or.inr (Or.inl ⟨hs, hn, rfl⟩)
    · rw [he]
      exact Or.inr (Or.inr ⟨hs, hn, rfl⟩)
    · simp [he, recovered, Probing] at hp

end Facts
end UngulaNet.Connection
