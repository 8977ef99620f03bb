import UngulaNet.Foundation.Runs
import UngulaNet.Connection.EspNowSessionProvider
import UngulaNet.Connection.ManagerSteps

/-!
# Consistency of the node

A node is a connection manager on an ESP-NOW session provider. The manager's state, its
`connected_` flag and the provider's `reacquiring_` flag say the same thing three times;
after `begin` they never contradict each other, whatever calls, acks and pairing changes
follow.
-/

namespace UngulaNet.Connection
open Comm Pairing Runs
set_option autoImplicit false

abbrev Node (σ : Type) := ConnectionManager (EspNowSessionProvider σ)

inductive NodeEvent where
  | call (call : ManagerCall) (nowMs : UInt32)
  | ack (ack : ReconnectAck)
  | pairing (op : ClientOp)

section Node
variable {σ : Type}

variable [ITransport σ]

def NodeEvent.apply (n : Node σ) : NodeEvent → Node σ
  | .call c nowMs => c.apply n nowMs
  | .ack a => n.setProvider (n.provider.onReconnectAck a).2
  | .pairing op => n.setProvider { n.provider with pairing := op.apply n.provider.pairing }

def Node.start (pairing : PairingClient σ)
    (probeCb : Option (MacAddress → Transport σ → Transport σ)) (config : ConnectionConfig)
    (nowMs : UInt32) : Node σ :=
  (ConnectionManager.new { provider := EspNowSessionProvider.new pairing probeCb } config).begin nowMs

/-- The flags of the two objects say what the state says, and an ack outside of a
reacquisition is refused without effect. -/
structure Consistent (n : Node σ) : Prop where
  connected : n.isConnected = true ↔ n.getState = .PAIRED_CONNECTED
  reacquiring : n.provider.reacquiring = true ↔ n.getState = .REACQUIRING_DYNAMIC
  ack : n.getState ≠ .REACQUIRING_DYNAMIC →
    ∀ ack, n.provider.onReconnectAck ack = (false, n.provider)

structure NodeInv (n : Node σ) : Prop where
  flag : n.FlagAgrees
  reacquiring : n.provider.reacquiring = true ↔ n.state = .REACQUIRING_DYNAMIC

omit [ITransport σ] in
theorem NodeInv.not_reacquiring {n : Node σ} (h : NodeInv n)
    (hs : n.state ≠ .REACQUIRING_DYNAMIC) : ¬ n.provider.reacquiring = true :=
  fun hr => hs (h.reacquiring.mp hr)

theorem NodeInv.consistent {n : Node σ} (h : NodeInv n) : Consistent n := by
  refine ⟨h.flag.connected, h.reacquiring, ?_⟩
  intro hs ack
  have hr : n.provider.reacquiring = false := by simpa using h.not_reacquiring hs
  exact EspNowSessionProvider.onReconnectAck_idle hr ack

open ConnectionManager

theorem start_nodeInv (pairing : PairingClient σ)
    (probeCb : Option (MacAddress → Transport σ → Transport σ)) (config : ConnectionConfig)
    (nowMs : UInt32) : NodeInv (Node.start pairing probeCb config nowMs) := by
  refine ⟨flagAgrees_begin _ config nowMs, ?_⟩
  unfold Node.start
  rcases begin_cases (ConnectionManager.new
    { provider := EspNowSessionProvider.new pairing probeCb } config) nowMs with ⟨_, he⟩ | ⟨_, he⟩
  · rw [he]
    exact iff_of_false Bool.false_ne_true (by simp)
  · rw [he]
    exact iff_of_false Bool.false_ne_true (by simp)

theorem start_paired {p : PairingClient σ} (hp : p.isPaired = true)
    (probeCb : Option (MacAddress → Transport σ → Transport σ)) (config : ConnectionConfig)
    (nowMs : UInt32) : Node.start p probeCb config nowMs =
      { ConnectionManager.new { provider := EspNowSessionProvider.new p probeCb } config with
        began := true, state := .PAIRED_DEGRADED, stateEnteredMs := nowMs,
        nextProbeMs := nowMs + config.bootGracePeriodMs } := by
  rcases (ConnectionManager.new { provider := EspNowSessionProvider.new p probeCb }
    config).begin_cases nowMs with ⟨_, he⟩ | ⟨hnone, _⟩
  · exact he
  · exact absurd (hp.symm.trans hnone) (by decide)

theorem start_unpaired {p : PairingClient σ} (hp : p.isPaired = false)
    (probeCb : Option (MacAddress → Transport σ → Transport σ)) (config : ConnectionConfig)
    (nowMs : UInt32) : (Node.start p probeCb config nowMs).state = .UNPAIRED_DISCOVERY ∧
      (Node.start p probeCb config nowMs).provider.pairing = p.startScanning := by
  unfold Node.start
  rcases (ConnectionManager.new { provider := EspNowSessionProvider.new p probeCb }
    config).begin_cases nowMs with ⟨hpaired, _⟩ | ⟨_, he⟩
  · exact absurd (hp.symm.trans hpaired) Bool.false_ne_true
  · rw [he]
    exact ⟨rfl, rfl⟩

/-- A call that leaves or enters REACQUIRING_DYNAMIC resets or starts the provider's
reacquisition, and no other call touches its flag. -/
theorem loop_reacquiring {n : Node σ} (h : NodeInv n) (nowMs : UInt32) :
    (n.loop nowMs).provider.reacquiring = true ↔
      (n.loop nowMs).state = .REACQUIRING_DYNAMIC := by
  cases hs : n.state with
  | UNPAIRED_DISCOVERY =>
    have hr := h.not_reacquiring (by simp [hs])
    rcases loop_unpaired h.flag hs nowMs with ⟨_, he⟩ | ⟨_, he⟩
    · rw [he]
      exact iff_of_false hr (by simp [hs])
    · rw [he]
      exact iff_of_false hr (by simp [recovered])
  | PAIRED_CONNECTED =>
    have hr := h.not_reacquiring (by simp [hs])
    rcases loop_connected h.flag hs nowMs with ⟨_, he⟩ | ⟨_, he⟩
    · rw [he]
      exact h.reacquiring
    · rw [he]
      exact iff_of_false hr (by simp)
  | PAIRED_DEGRADED =>
    have hr := h.not_reacquiring (by simp [hs])
    rcases loop_degraded h.flag hs nowMs with ⟨_, he⟩ | ⟨_, he⟩
    · rw [he]
      exact h.reacquiring
    · rw [he]
      exact iff_of_false hr (by simp)
  | REACQUIRING_STATIC =>
    have hr := h.not_reacquiring (by simp [hs])
    have hprobe := (EspNowSessionProvider.sendProbe_fields n.provider).1
    rcases loop_static h.flag hs nowMs with ⟨_, he⟩ | ⟨_, _, he⟩ | ⟨_, _, he⟩
    · rw [he]
      exact h.reacquiring
    · rw [he]
      exact iff_of_false (fun hc => hr (hprobe.symm.trans hc)) (by simp [hs])
    · rw [he]
      exact iff_of_true rfl rfl
  | REACQUIRING_DYNAMIC =>
    have hr := h.reacquiring.mpr hs
    have hloop := (EspNowSessionProvider.loopReacquisition_fields n.provider nowMs).1.trans hr
    rcases loop_dynamic h.flag hs nowMs with ⟨_, he⟩ | ⟨_, _, he⟩ | ⟨_, _, he⟩
    · rw [he]
      exact h.reacquiring
    · rw [he]
      exact iff_of_true hloop hs
    · rw [he]
      exact iff_of_false Bool.false_ne_true (by simp [recovered])

/-- But for a discovery, the pairing is left alone. -/
theorem loop_pairing {n : Node σ} (h : n.FlagAgrees) (hs : n.state ≠ .UNPAIRED_DISCOVERY)
    (nowMs : UInt32) :
    ∃ t, (n.loop nowMs).provider.pairing = { n.provider.pairing with transport := t } := by
  obtain ⟨t, ht⟩ := n.provider.sendProbe_eq
  have hprobe : n.provider.sendProbe.pairing = { n.provider.pairing with transport := t } :=
    congrArg EspNowSessionProvider.pairing ht
  cases hstate : n.state with
  | UNPAIRED_DISCOVERY => exact absurd hstate hs
  | PAIRED_CONNECTED =>
    rcases loop_connected h hstate nowMs with ⟨_, he⟩ | ⟨_, he⟩ <;>
      exact ⟨n.provider.transport, by rw [he]; rfl⟩
  | PAIRED_DEGRADED =>
    rcases loop_degraded h hstate nowMs with ⟨_, he⟩ | ⟨_, he⟩ <;>
      exact ⟨n.provider.transport, by rw [he]; rfl⟩
  | REACQUIRING_STATIC =>
    rcases loop_static h hstate nowMs with ⟨_, he⟩ | ⟨_, _, he⟩ | ⟨_, _, he⟩
    · exact ⟨n.provider.transport, by rw [he]; rfl⟩
    · exact ⟨t, by rw [he]; exact hprobe⟩
    · exact ⟨t, by rw [he]; exact hprobe⟩
  | REACQUIRING_DYNAMIC =>
    obtain ⟨t', i, hi⟩ := n.provider.loopReacquisition_eq nowMs
    have hscan : (n.provider.loopReacquisition nowMs).2.pairing =
        { n.provider.pairing with transport := t' } := congrArg EspNowSessionProvider.pairing hi
    rcases loop_dynamic h hstate nowMs with ⟨_, he⟩ | ⟨_, _, he⟩ | ⟨_, _, he⟩
    · exact ⟨n.provider.transport, by rw [he]; rfl⟩
    · exact ⟨t', by rw [he]; exact hscan⟩
    · exact ⟨t', by rw [he]; exact hscan⟩

theorem onHeartbeatReceived_nodeInv {n : Node σ} (h : NodeInv n) (nowMs : UInt32) :
    NodeInv (n.onHeartbeatReceived nowMs) := by
  rcases onHeartbeatReceived_cases h.flag nowMs with ⟨_, he⟩ | ⟨_, _, he⟩ | ⟨_, _, he⟩
  · rw [he]
    exact h
  · rw [he]
    exact ⟨⟨h.flag.began, h.flag.connected⟩, h.reacquiring⟩
  · rw [he]
    exact ⟨h.flag.recovered _ nowMs, iff_of_false Bool.false_ne_true (by simp [recovered])⟩

theorem onReconnectAck_reacquiring (s : EspNowSessionProvider σ) (ack : ReconnectAck) :
    (s.onReconnectAck ack).2.reacquiring = s.reacquiring := by
  cases hr : s.reacquiring with
  | false =>
    rw [EspNowSessionProvider.onReconnectAck_idle hr]
    exact hr
  | true =>
    rw [EspNowSessionProvider.onReconnectAck_accepts hr]
    exact hr

theorem apply_nodeInv {n : Node σ} (h : NodeInv n) (ev : NodeEvent) : NodeInv (ev.apply n) := by
  cases ev with
  | call call nowMs =>
    cases call with
    | loop => exact ⟨flagAgrees_loop h.flag nowMs, loop_reacquiring h nowMs⟩
    | onHeartbeatReceived => exact onHeartbeatReceived_nodeInv h nowMs
    | onMessageReceived => exact onHeartbeatReceived_nodeInv h nowMs
    | onReacquisitionSuccess =>
      exact ⟨h.flag.recovered _ nowMs, iff_of_false Bool.false_ne_true
        (by simp [NodeEvent.apply, ManagerCall.apply, onReacquisitionSuccess_eq, recovered])⟩
  | ack ack =>
    refine ⟨h.flag.setProvider _, ?_⟩
    change (n.provider.onReconnectAck ack).2.reacquiring = true ↔ _
    rw [onReconnectAck_reacquiring]
    exact h.reacquiring
  | pairing op => exact ⟨h.flag.setProvider _, h.reacquiring⟩

theorem eachState_nodeInv {n : Node σ} (h : NodeInv n) (evs : List NodeEvent) :
    EachState NodeEvent.apply NodeInv n evs :=
  eachState_invariant NodeInv h evs fun _ ev h => apply_nodeInv h ev

theorem run_nodeInv {n : Node σ} (h : NodeInv n) (evs : List NodeEvent) :
    NodeInv (run NodeEvent.apply n evs) :=
  (eachState_nodeInv h evs).last

/-- After `begin`, the node is consistent in every state of every run. -/
theorem node_consistent (pairing : PairingClient σ)
    (probeCb : Option (MacAddress → Transport σ → Transport σ)) (config : ConnectionConfig)
    (nowMs : UInt32) (evs : List NodeEvent) :
    EachState NodeEvent.apply Consistent (Node.start pairing probeCb config nowMs) evs :=
  (eachState_nodeInv (start_nodeInv pairing probeCb config nowMs) evs).imp
    fun _ h => h.consistent

end Node
end UngulaNet.Connection
