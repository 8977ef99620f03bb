import Mathlib.Data.List.Basic

/-!
# Connection configuration and the session provider interface

`ConnectionConfig` with the defaults of the source, the five states of the lifecycle,
and `ISessionProvider`, through which the connection manager reaches the transport. A
`Session` is a provider together with the list of the calls made on it, oldest first.
The `bool` that `loopReacquisition` returns is read by no caller, so the wrapper drops it.
-/

namespace UngulaNet.Connection
set_option autoImplicit false

inductive ConnectionPolicy where
  | STATIC
  | DYNAMIC
  deriving DecidableEq

inductive ConnMgrState where
  | UNPAIRED_DISCOVERY
  | PAIRED_CONNECTED
  | PAIRED_DEGRADED
  | REACQUIRING_STATIC
  | REACQUIRING_DYNAMIC
  deriving DecidableEq

structure ConnectionConfig where
  policy : ConnectionPolicy := .DYNAMIC
  heartbeatTimeoutMs : UInt32 := 2000
  degradedGracePeriodMs : UInt32 := 500
  staticProbeIntervalMs : UInt32 := 1000
  staticMaxProbes : UInt8 := 5
  dynamicProbeIntervalMs : UInt32 := 500
  bootGracePeriodMs : UInt32 := 3000

class ISessionProvider (S : Type) where
  hasPairing : S → Bool
  startDiscovery : S → S
  loopDiscovery : S → UInt32 → S
  isDiscoveryComplete : S → Bool
  sendProbe : S → S
  startReacquisition : S → S
  loopReacquisition : S → UInt32 → Bool × S
  isReacquisitionComplete : S → Bool
  resetReacquisition : S → S

inductive SessionCall where
  | startDiscovery
  | loopDiscovery (nowMs : UInt32)
  | sendProbe
  | startReacquisition
  | loopReacquisition (nowMs : UInt32)
  | resetReacquisition
  deriving DecidableEq

structure Session (S : Type) where
  provider : S
  calls : List SessionCall := []

namespace Session
variable {S : Type} [ISessionProvider S]

def hasPairing (s : Session S) : Bool := ISessionProvider.hasPairing s.provider

def isDiscoveryComplete (s : Session S) : Bool := ISessionProvider.isDiscoveryComplete s.provider

def isReacquisitionComplete (s : Session S) : Bool :=
  ISessionProvider.isReacquisitionComplete s.provider

def startDiscovery (s : Session S) : Session S :=
  ⟨ISessionProvider.startDiscovery s.provider, s.calls ++ [.startDiscovery]⟩

def loopDiscovery (s : Session S) (nowMs : UInt32) : Session S :=
  ⟨ISessionProvider.loopDiscovery s.provider nowMs, s.calls ++ [.loopDiscovery nowMs]⟩

def sendProbe (s : Session S) : Session S :=
  ⟨ISessionProvider.sendProbe s.provider, s.calls ++ [.sendProbe]⟩

def startReacquisition (s : Session S) : Session S :=
  ⟨ISessionProvider.startReacquisition s.provider, s.calls ++ [.startReacquisition]⟩

def loopReacquisition (s : Session S) (nowMs : UInt32) : Session S :=
  ⟨(ISessionProvider.loopReacquisition s.provider nowMs).2,
    s.calls ++ [.loopReacquisition nowMs]⟩

def resetReacquisition (s : Session S) : Session S :=
  ⟨ISessionProvider.resetReacquisition s.provider, s.calls ++ [.resetReacquisition]⟩

end Session
end UngulaNet.Connection
