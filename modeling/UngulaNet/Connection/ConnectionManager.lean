import UngulaNet.Connection.SessionProvider

/-!
# The connection manager

`ConnectionManager` as the code computes it: the state machine over heartbeats, probes
and timeouts, with one handler a state. All time arithmetic is that of `uint32_t`.
-/

namespace UngulaNet.Connection
set_option autoImplicit false

structure ConnectionManager (S : Type) where
  session : Session S
  config : ConnectionConfig
  state : ConnMgrState := .UNPAIRED_DISCOVERY
  lastHeardMs : UInt32 := 0
  stateEnteredMs : UInt32 := 0
  nextProbeMs : UInt32 := 0
  probeCount : UInt8 := 0
  connected : Bool := false
  began : Bool := false

namespace ConnectionManager
variable {S : Type}

def provider (m : ConnectionManager S) : S := m.session.provider

/-- The provider was changed behind the manager's back. -/
def setProvider (m : ConnectionManager S) (provider : S) : ConnectionManager S :=
  { m with session := { m.session with provider := provider } }

variable [ISessionProvider S]

def new (session : Session S) (config : ConnectionConfig) : ConnectionManager S :=
  { session := session, config := config }

def isConnected (m : ConnectionManager S) : Bool := m.connected

def getState (m : ConnectionManager S) : ConnMgrState := m.state

def transitionTo (m : ConnectionManager S) (newState : ConnMgrState) (nowMs : UInt32) :
    ConnectionManager S :=
  { m with state := newState, stateEnteredMs := nowMs, probeCount := 0 }

def begin (m : ConnectionManager S) (nowMs : UInt32) : ConnectionManager S :=
  let m := { m with began := true }
  if m.session.hasPairing then
    let m := m.transitionTo .PAIRED_DEGRADED nowMs
    { m with nextProbeMs := nowMs + m.config.bootGracePeriodMs }
  else
    let m := m.transitionTo .UNPAIRED_DISCOVERY nowMs
    { m with session := m.session.startDiscovery }

def handleMessageFromCoordinator (m : ConnectionManager S) (nowMs : UInt32) :
    ConnectionManager S :=
  let m := { m with lastHeardMs := nowMs }
  if !m.connected then
    let m := { m with connected := true, session := m.session.resetReacquisition }
    m.transitionTo .PAIRED_CONNECTED nowMs
  else m

def handleUnpairedDiscovery (m : ConnectionManager S) (nowMs : UInt32) : ConnectionManager S :=
  let m := { m with session := m.session.loopDiscovery nowMs }
  if m.session.isDiscoveryComplete then
    transitionTo { m with connected := true, lastHeardMs := nowMs } .PAIRED_CONNECTED nowMs
  else m

def handlePairedConnected (m : ConnectionManager S) (nowMs : UInt32) : ConnectionManager S :=
  if m.lastHeardMs > 0 ∧ nowMs - m.lastHeardMs > m.config.heartbeatTimeoutMs then
    transitionTo { m with connected := false } .PAIRED_DEGRADED nowMs
  else m

def handlePairedDegraded (m : ConnectionManager S) (nowMs : UInt32) : ConnectionManager S :=
  if m.connected then m.transitionTo .PAIRED_CONNECTED nowMs
  else if nowMs - m.stateEnteredMs < m.config.degradedGracePeriodMs then m
  else { m.transitionTo .REACQUIRING_STATIC nowMs with nextProbeMs := nowMs }

def handleReacquiringStatic (m : ConnectionManager S) (nowMs : UInt32) : ConnectionManager S :=
  if m.connected then m.transitionTo .PAIRED_CONNECTED nowMs
  else if nowMs < m.nextProbeMs then m
  else
    let m := { m with
      session := m.session.sendProbe, probeCount := m.probeCount + 1,
      nextProbeMs := nowMs + m.config.staticProbeIntervalMs }
    if m.config.policy = .DYNAMIC ∧ m.probeCount ≥ m.config.staticMaxProbes then
      let m := m.transitionTo .REACQUIRING_DYNAMIC nowMs
      { m with session := m.session.startReacquisition, nextProbeMs := nowMs }
    else m

def handleReacquiringDynamic (m : ConnectionManager S) (nowMs : UInt32) : ConnectionManager S :=
  if m.connected then m.transitionTo .PAIRED_CONNECTED nowMs
  else if nowMs < m.nextProbeMs then m
  else
    let m := { m with
      session := m.session.loopReacquisition nowMs,
      nextProbeMs := nowMs + m.config.dynamicProbeIntervalMs }
    if m.session.isReacquisitionComplete then
      let m := { m with
        connected := true, lastHeardMs := nowMs, session := m.session.resetReacquisition }
      m.transitionTo .PAIRED_CONNECTED nowMs
    else m

def loop (m : ConnectionManager S) (nowMs : UInt32) : ConnectionManager S :=
  if !m.began then m
  else
    match m.state with
    | .UNPAIRED_DISCOVERY => m.handleUnpairedDiscovery nowMs
    | .PAIRED_CONNECTED => m.handlePairedConnected nowMs
    | .PAIRED_DEGRADED => m.handlePairedDegraded nowMs
    | .REACQUIRING_STATIC => m.handleReacquiringStatic nowMs
    | .REACQUIRING_DYNAMIC => m.handleReacquiringDynamic nowMs

def onHeartbeatReceived (m : ConnectionManager S) (nowMs : UInt32) : ConnectionManager S :=
  if !m.session.hasPairing then m
  else if m.state = .REACQUIRING_DYNAMIC then m
  else m.handleMessageFromCoordinator nowMs

def onMessageReceived (m : ConnectionManager S) (nowMs : UInt32) : ConnectionManager S :=
  if !m.session.hasPairing then m
  else if m.state = .REACQUIRING_DYNAMIC then m
  else m.handleMessageFromCoordinator nowMs

def onReacquisitionSuccess (m : ConnectionManager S) (nowMs : UInt32) : ConnectionManager S :=
  let m := { m with
    lastHeardMs := nowMs, connected := true, session := m.session.resetReacquisition }
  m.transitionTo .PAIRED_CONNECTED nowMs

end ConnectionManager

/-- The public operations of a `ConnectionManager` after `begin`. -/
inductive ManagerCall where
  | loop
  | onHeartbeatReceived
  | onMessageReceived
  | onReacquisitionSuccess
  deriving DecidableEq

def ManagerCall.apply {S : Type} [ISessionProvider S] (m : ConnectionManager S)
    (call : ManagerCall) (nowMs : UInt32) : ConnectionManager S :=
  match call with
  | .loop => m.loop nowMs
  | .onHeartbeatReceived => m.onHeartbeatReceived nowMs
  | .onMessageReceived => m.onMessageReceived nowMs
  | .onReacquisitionSuccess => m.onReacquisitionSuccess nowMs

end UngulaNet.Connection
