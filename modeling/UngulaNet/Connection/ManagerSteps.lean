import UngulaNet.Connection.ConnectionManager

/-!
# What one manager call can do

The outcomes of every handler, once the flag `connected` is known to agree with the
state. That agreement is an invariant of every call, so the `if (connected_)` branches
of the three recovery handlers are never taken.
-/

namespace UngulaNet.Connection
set_option autoImplicit false

namespace ConnectionManager
variable {S : Type}

/-- The manager has begun, and its flag says what its state says. -/
structure FlagAgrees (m : ConnectionManager S) : Prop where
  began : m.began = true
  connected : m.connected = true ↔ m.state = .PAIRED_CONNECTED

theorem FlagAgrees.not_connected {m : ConnectionManager S} (h : m.FlagAgrees)
    (hs : m.state ≠ .PAIRED_CONNECTED) : m.connected = false := by
  cases hc : m.connected with
  | false => rfl
  | true => exact absurd (h.connected.mp hc) hs

theorem FlagAgrees.setProvider {m : ConnectionManager S} (h : m.FlagAgrees) (provider : S) :
    (m.setProvider provider).FlagAgrees := ⟨h.began, h.connected⟩

/-- The state after the coordinator was found again, or found at all. -/
def recovered (m : ConnectionManager S) (session : Session S) (nowMs : UInt32) :
    ConnectionManager S :=
  { m with
    session := session, state := .PAIRED_CONNECTED, lastHeardMs := nowMs,
    stateEnteredMs := nowMs, probeCount := 0, connected := true }

theorem FlagAgrees.recovered {m : ConnectionManager S} (h : m.FlagAgrees) (session : Session S)
    (nowMs : UInt32) : (m.recovered session nowMs).FlagAgrees :=
  ⟨h.began, iff_of_true rfl rfl⟩

def TimedOut (m : ConnectionManager S) (nowMs : UInt32) : Prop :=
  m.lastHeardMs > 0 ∧ nowMs - m.lastHeardMs > m.config.heartbeatTimeoutMs

instance (m : ConnectionManager S) (nowMs : UInt32) : Decidable (m.TimedOut nowMs) :=
  inferInstanceAs (Decidable (_ ∧ _))

/-- The number of static probes after the next one reaches the maximum of a DYNAMIC
policy. -/
def Exhausted (m : ConnectionManager S) : Prop :=
  m.config.policy = .DYNAMIC ∧ m.probeCount + 1 ≥ m.config.staticMaxProbes

instance (m : ConnectionManager S) : Decidable m.Exhausted := inferInstanceAs (Decidable (_ ∧ _))

variable [ISessionProvider S]

/-- A message counts unless the node is unpaired or scanning for the coordinator. -/
def Heeds (m : ConnectionManager S) : Prop :=
  m.session.hasPairing = true ∧ m.state ≠ .REACQUIRING_DYNAMIC

instance (m : ConnectionManager S) : Decidable m.Heeds := inferInstanceAs (Decidable (_ ∧ _))

theorem begin_cases (m : ConnectionManager S) (nowMs : UInt32) :
    (m.session.hasPairing = true ∧ m.begin nowMs =
        { m with
          began := true, state := .PAIRED_DEGRADED, stateEnteredMs := nowMs, probeCount := 0,
          nextProbeMs := nowMs + m.config.bootGracePeriodMs }) ∨
      (m.session.hasPairing = false ∧ m.begin nowMs =
        { m with
          began := true, state := .UNPAIRED_DISCOVERY, stateEnteredMs := nowMs, probeCount := 0,
          session := m.session.startDiscovery }) := by
  unfold begin
  dsimp only
  split
  · rename_i h
    exact Or.inl ⟨h, rfl⟩
  · rename_i h
    exact Or.inr ⟨by simpa using h, rfl⟩

theorem begin_state (m : ConnectionManager S) (nowMs : UInt32) :
    (m.begin nowMs).state = .PAIRED_DEGRADED ∨ (m.begin nowMs).state = .UNPAIRED_DISCOVERY := by
  rcases m.begin_cases nowMs with ⟨_, h⟩ | ⟨_, h⟩
  · exact Or.inl (by rw [h])
  · exact Or.inr (by rw [h])

theorem loop_unpaired {m : ConnectionManager S} (h : m.FlagAgrees)
    (hs : m.state = .UNPAIRED_DISCOVERY) (nowMs : UInt32) :
    ((m.session.loopDiscovery nowMs).isDiscoveryComplete = false ∧
        m.loop nowMs = { m with session := m.session.loopDiscovery nowMs }) ∨
      ((m.session.loopDiscovery nowMs).isDiscoveryComplete = true ∧
        m.loop nowMs = m.recovered (m.session.loopDiscovery nowMs) nowMs) := by
  have hloop : m.loop nowMs = m.handleUnpairedDiscovery nowMs := by simp [loop, h.began, hs]
  rw [hloop, handleUnpairedDiscovery]
  by_cases hd : (m.session.loopDiscovery nowMs).isDiscoveryComplete = true
  · exact Or.inr ⟨hd, if_pos hd⟩
  · exact Or.inl ⟨by simpa using hd, if_neg hd⟩

theorem loop_connected {m : ConnectionManager S} (h : m.FlagAgrees)
    (hs : m.state = .PAIRED_CONNECTED) (nowMs : UInt32) :
    (¬ m.TimedOut nowMs ∧ m.loop nowMs = m) ∨
      (m.TimedOut nowMs ∧ m.loop nowMs =
        { m with
          connected := false, state := .PAIRED_DEGRADED, stateEnteredMs := nowMs,
          probeCount := 0 }) := by
  have hloop : m.loop nowMs = m.handlePairedConnected nowMs := by simp [loop, h.began, hs]
  rw [hloop, handlePairedConnected]
  by_cases ht : m.TimedOut nowMs
  · exact Or.inr ⟨ht, if_pos ht⟩
  · exact Or.inl ⟨ht, if_neg ht⟩

theorem loop_degraded {m : ConnectionManager S} (h : m.FlagAgrees)
    (hs : m.state = .PAIRED_DEGRADED) (nowMs : UInt32) :
    (nowMs - m.stateEnteredMs < m.config.degradedGracePeriodMs ∧ m.loop nowMs = m) ∨
      (¬ nowMs - m.stateEnteredMs < m.config.degradedGracePeriodMs ∧ m.loop nowMs =
        { m with
          state := .REACQUIRING_STATIC, stateEnteredMs := nowMs, probeCount := 0,
          nextProbeMs := nowMs }) := by
  have hc := h.not_connected (by simp [hs])
  have hloop : m.loop nowMs = m.handlePairedDegraded nowMs := by simp [loop, h.began, hs]
  rw [hloop, handlePairedDegraded, if_neg (by simp [hc])]
  by_cases hg : nowMs - m.stateEnteredMs < m.config.degradedGracePeriodMs
  · exact Or.inl ⟨hg, if_pos hg⟩
  · exact Or.inr ⟨hg, if_neg hg⟩

theorem loop_static {m : ConnectionManager S} (h : m.FlagAgrees)
    (hs : m.state = .REACQUIRING_STATIC) (nowMs : UInt32) :
    (nowMs < m.nextProbeMs ∧ m.loop nowMs = m) ∨
      (¬ nowMs < m.nextProbeMs ∧ ¬ m.Exhausted ∧ m.loop nowMs =
        { m with
          session := m.session.sendProbe, probeCount := m.probeCount + 1,
          nextProbeMs := nowMs + m.config.staticProbeIntervalMs }) ∨
      (¬ nowMs < m.nextProbeMs ∧ m.Exhausted ∧ m.loop nowMs =
        { m with
          session := m.session.sendProbe.startReacquisition, state := .REACQUIRING_DYNAMIC,
          stateEnteredMs := nowMs, probeCount := 0, nextProbeMs := nowMs }) := by
  have hc := h.not_connected (by simp [hs])
  have hloop : m.loop nowMs = m.handleReacquiringStatic nowMs := by simp [loop, h.began, hs]
  rw [hloop, handleReacquiringStatic, if_neg (by simp [hc])]
  by_cases hn : nowMs < m.nextProbeMs
  · exact Or.inl ⟨hn, if_pos hn⟩
  refine Or.inr ?_
  by_cases he : m.Exhausted
  · exact Or.inr ⟨hn, he, (if_neg hn).trans (if_pos he)⟩
  · exact Or.inl ⟨hn, he, (if_neg hn).trans (if_neg he)⟩

theorem loop_dynamic {m : ConnectionManager S} (h : m.FlagAgrees)
    (hs : m.state = .REACQUIRING_DYNAMIC) (nowMs : UInt32) :
    (nowMs < m.nextProbeMs ∧ m.loop nowMs = m) ∨
      (¬ nowMs < m.nextProbeMs ∧
        (m.session.loopReacquisition nowMs).isReacquisitionComplete = false ∧ m.loop nowMs =
        { m with
          session := m.session.loopReacquisition nowMs,
          nextProbeMs := nowMs + m.config.dynamicProbeIntervalMs }) ∨
      (¬ nowMs < m.nextProbeMs ∧
        (m.session.loopReacquisition nowMs).isReacquisitionComplete = true ∧ m.loop nowMs =
        { m.recovered (m.session.loopReacquisition nowMs).resetReacquisition nowMs with
          nextProbeMs := nowMs + m.config.dynamicProbeIntervalMs }) := by
  have hc := h.not_connected (by simp [hs])
  have hloop : m.loop nowMs = m.handleReacquiringDynamic nowMs := by simp [loop, h.began, hs]
  rw [hloop, handleReacquiringDynamic, if_neg (by simp [hc])]
  by_cases hn : nowMs < m.nextProbeMs
  · exact Or.inl ⟨hn, if_pos hn⟩
  refine Or.inr ?_
  by_cases hd : (m.session.loopReacquisition nowMs).isReacquisitionComplete = true
  · exact Or.inr ⟨hn, hd, (if_neg hn).trans (if_pos hd)⟩
  · exact Or.inl ⟨hn, by simpa using hd, (if_neg hn).trans (if_neg hd)⟩

theorem onMessageReceived_eq (m : ConnectionManager S) (nowMs : UInt32) :
    m.onMessageReceived nowMs = m.onHeartbeatReceived nowMs := rfl

theorem onHeartbeatReceived_cases {m : ConnectionManager S} (h : m.FlagAgrees)
    (nowMs : UInt32) :
    (¬ m.Heeds ∧ m.onHeartbeatReceived nowMs = m) ∨
      (m.Heeds ∧ m.state = .PAIRED_CONNECTED ∧
        m.onHeartbeatReceived nowMs = { m with lastHeardMs := nowMs }) ∨
      (m.Heeds ∧ m.state ≠ .PAIRED_CONNECTED ∧
        m.onHeartbeatReceived nowMs = m.recovered m.session.resetReacquisition nowMs) := by
  unfold onHeartbeatReceived
  by_cases hp : m.session.hasPairing = true
  · by_cases hd : m.state = .REACQUIRING_DYNAMIC
    · exact Or.inl ⟨fun hh => hh.2 hd, by simp [hp, hd]⟩
    refine Or.inr ?_
    by_cases hs : m.state = .PAIRED_CONNECTED
    · refine Or.inl ⟨⟨hp, hd⟩, hs, ?_⟩
      simp [hp, hd, handleMessageFromCoordinator, h.connected.mpr hs]
    · refine Or.inr ⟨⟨hp, hd⟩, hs, ?_⟩
      simp [hp, hd, handleMessageFromCoordinator, h.not_connected hs, transitionTo,
        ConnectionManager.recovered]
  · exact Or.inl ⟨fun hh => hp hh.1, by simp [hp]⟩

theorem onReacquisitionSuccess_eq (m : ConnectionManager S) (nowMs : UInt32) :
    m.onReacquisitionSuccess nowMs = m.recovered m.session.resetReacquisition nowMs := rfl

/-- Any other call recovers the connection, notes a contact, or changes nothing. -/
theorem apply_cases {m : ConnectionManager S} (h : m.FlagAgrees) {call : ManagerCall}
    (hcall : call ≠ .loop) (nowMs : UInt32) :
    call.apply m nowMs = m.recovered m.session.resetReacquisition nowMs ∨
      (m.state = .PAIRED_CONNECTED ∧ call.apply m nowMs = { m with lastHeardMs := nowMs }) ∨
      call.apply m nowMs = m := by
  cases call with
  | loop => exact absurd rfl hcall
  | onReacquisitionSuccess => exact Or.inl rfl
  | onHeartbeatReceived =>
    rcases onHeartbeatReceived_cases h nowMs with ⟨_, he⟩ | ⟨_, hs, he⟩ | ⟨_, _, he⟩
    · exact Or.inr (Or.inr he)
    · exact Or.inr (Or.inl ⟨hs, he⟩)
    · exact Or.inl he
  | onMessageReceived =>
    rcases onHeartbeatReceived_cases h nowMs with ⟨_, he⟩ | ⟨_, hs, he⟩ | ⟨_, _, he⟩
    · exact Or.inr (Or.inr he)
    · exact Or.inr (Or.inl ⟨hs, he⟩)
    · exact Or.inl he

theorem flagAgrees_begin (session : Session S) (config : ConnectionConfig) (nowMs : UInt32) :
    ((new session config).begin nowMs).FlagAgrees := by
  rcases (new session config).begin_cases nowMs with ⟨_, h⟩ | ⟨_, h⟩ <;>
    rw [h] <;> exact ⟨rfl, iff_of_false (by simp [new]) (by simp)⟩

theorem flagAgrees_loop {m : ConnectionManager S} (h : m.FlagAgrees) (nowMs : UInt32) :
    (m.loop nowMs).FlagAgrees := by
  cases hs : m.state with
  | UNPAIRED_DISCOVERY =>
    rcases loop_unpaired h hs nowMs with ⟨_, he⟩ | ⟨_, he⟩
    · rw [he]
      exact ⟨h.began, h.connected⟩
    · rw [he]
      exact h.recovered _ nowMs
  | PAIRED_CONNECTED =>
    rcases loop_connected h hs nowMs with ⟨_, he⟩ | ⟨_, he⟩
    · rw [he]
      exact h
    · rw [he]
      exact ⟨h.began, iff_of_false (by simp) (by simp)⟩
  | PAIRED_DEGRADED =>
    have hc := h.not_connected (by simp [hs])
    rcases loop_degraded h hs nowMs with ⟨_, he⟩ | ⟨_, he⟩
    · rw [he]
      exact h
    · rw [he]
      exact ⟨h.began, iff_of_false (by simp [hc]) (by simp)⟩
  | REACQUIRING_STATIC =>
    have hc := h.not_connected (by simp [hs])
    rcases loop_static h hs nowMs with ⟨_, he⟩ | ⟨_, _, he⟩ | ⟨_, _, he⟩
    · rw [he]
      exact h
    · rw [he]
      exact ⟨h.began, h.connected⟩
    · rw [he]
      exact ⟨h.began, iff_of_false (by simp [hc]) (by simp)⟩
  | REACQUIRING_DYNAMIC =>
    rcases loop_dynamic h hs nowMs with ⟨_, he⟩ | ⟨_, _, he⟩ | ⟨_, _, he⟩
    · rw [he]
      exact h
    · rw [he]
      exact ⟨h.began, h.connected⟩
    · rw [he]
      exact ⟨h.began, iff_of_true rfl rfl⟩

theorem flagAgrees_onHeartbeatReceived {m : ConnectionManager S} (h : m.FlagAgrees)
    (nowMs : UInt32) : (m.onHeartbeatReceived nowMs).FlagAgrees := by
  rcases onHeartbeatReceived_cases h nowMs with ⟨_, he⟩ | ⟨_, _, he⟩ | ⟨_, _, he⟩
  · rw [he]
    exact h
  · rw [he]
    exact ⟨h.began, h.connected⟩
  · rw [he]
    exact h.recovered _ nowMs

theorem flagAgrees_apply {m : ConnectionManager S} (h : m.FlagAgrees) (call : ManagerCall)
    (nowMs : UInt32) : (call.apply m nowMs).FlagAgrees := by
  cases call with
  | loop => exact flagAgrees_loop h nowMs
  | onHeartbeatReceived => exact flagAgrees_onHeartbeatReceived h nowMs
  | onMessageReceived => exact flagAgrees_onHeartbeatReceived h nowMs
  | onReacquisitionSuccess => exact h.recovered _ nowMs

end ConnectionManager
end UngulaNet.Connection
