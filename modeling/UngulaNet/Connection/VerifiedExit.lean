import UngulaNet.Connection.ManagerClock
import UngulaNet.Connection.NodeConsistency

/-!
# The way out of a broad reacquisition

A node in REACQUIRING_DYNAMIC does not listen to ordinary messages. It leaves the state
when a success is reported, or in a `loop` that finds an accepted ack; and that ack was
accepted in the very stay it ends, because entering the state clears what an earlier stay
has left.
-/

namespace UngulaNet.Connection
open Comm Pairing Runs
set_option autoImplicit false

section Exit
variable {σ : Type} [ITransport σ]
open ConnectionManager

def Reacquiring (n : Node σ) : Prop := n.getState = .REACQUIRING_DYNAMIC

instance (n : Node σ) : Decidable (Reacquiring n) :=
  inferInstanceAs (Decidable (n.getState = .REACQUIRING_DYNAMIC))

def IsMessage : NodeEvent → Prop
  | .call .onHeartbeatReceived _ => True
  | .call .onMessageReceived _ => True
  | _ => False

/-- An ack was accepted since the `startReacquisition` of the stay that the run ends in. -/
def AckedThisStay (start : Node σ) (evs : List NodeEvent) : Prop :=
  ∃ before enter mid ack rest, evs = before ++ enter :: (mid ++ .ack ack :: rest) ∧
    Stay NodeEvent.apply Reacquiring start before enter (mid ++ .ack ack :: rest) ∧
    .startReacquisition ∈ newCalls (run NodeEvent.apply start before)
      (run NodeEvent.apply start (before ++ [enter])) ∧
    ((run NodeEvent.apply start (before ++ enter :: mid)).provider.onReconnectAck ack).1 = true

omit [ITransport σ] in
theorem onHeartbeatReceived_reacquiring {S : Type} [ISessionProvider S]
    {m : ConnectionManager S} (hs : m.state = .REACQUIRING_DYNAMIC) (nowMs : UInt32) :
    m.onHeartbeatReceived nowMs = m := by
  simp [onHeartbeatReceived, hs]

/-- A reacquiring node is deaf to any number of messages. -/
theorem run_messages {n : Node σ} (hs : Reacquiring n) {msgs : List NodeEvent}
    (hmsgs : ∀ ev ∈ msgs, IsMessage ev) : run NodeEvent.apply n msgs = n := by
  induction msgs with
  | nil => rfl
  | cons ev msgs ih =>
    have hev : ev.apply n = n := by
      have hmsg := hmsgs ev List.mem_cons_self
      match ev, hmsg with
      | .call .onHeartbeatReceived nowMs, _ => exact onHeartbeatReceived_reacquiring hs nowMs
      | .call .onMessageReceived nowMs, _ => exact onHeartbeatReceived_reacquiring hs nowMs
    rw [run_cons, hev]
    exact ih fun e he => hmsgs e (List.mem_cons_of_mem ev he)

/-- Entering the state starts a reacquisition and forgets the acks of earlier ones. -/
theorem enter_reacquiring {n : Node σ} (h : n.FlagAgrees) {ev : NodeEvent}
    (hout : ¬ Reacquiring n) (hin : Reacquiring (ev.apply n)) :
    (ev.apply n).provider.reacquisitionDone = false ∧
      .startReacquisition ∈ newCalls n (ev.apply n) := by
  cases ev with
  | ack ack => exact absurd hin hout
  | pairing op => exact absurd hin hout
  | call call nowMs =>
    have hin' : (call.apply n nowMs).state = .REACQUIRING_DYNAMIC := hin
    by_cases hcall : call = .loop
    · subst hcall
      rw [ManagerCall.apply] at hin'
      cases hs : n.state with
      | UNPAIRED_DISCOVERY =>
        rcases loop_unpaired h hs nowMs with ⟨_, he⟩ | ⟨_, he⟩ <;> simp [he, hs, recovered] at hin'
      | PAIRED_CONNECTED =>
        rcases loop_connected h hs nowMs with ⟨_, he⟩ | ⟨_, he⟩ <;> simp [he, hs] at hin'
      | PAIRED_DEGRADED =>
        rcases loop_degraded h hs nowMs with ⟨_, he⟩ | ⟨_, he⟩ <;> simp [he, hs] at hin'
      | REACQUIRING_STATIC =>
        rcases loop_static h hs nowMs with ⟨_, he⟩ | ⟨_, _, he⟩ | ⟨_, _, he⟩
        · simp [he, hs] at hin'
        · simp [he, hs] at hin'
        · have hcalls : (n.loop nowMs).session.calls =
              n.session.calls ++ [.sendProbe, .startReacquisition] := by
            simp [he, Session.sendProbe, Session.startReacquisition]
          rw [NodeEvent.apply, ManagerCall.apply, newCalls_eq hcalls]
          exact ⟨by rw [he]; rfl, by simp⟩
      | REACQUIRING_DYNAMIC => exact absurd hs hout
    · rcases apply_cases h hcall nowMs with he | ⟨_, he⟩ | he
      · simp [he, recovered] at hin'
      · rw [he] at hin'
        exact absurd hin' hout
      · rw [he] at hin'
        exact absurd hin' hout

theorem completes_by_ack {n : Node σ} (h : n.FlagAgrees) {ev : NodeEvent}
    (hs : Reacquiring n) (hstays : Reacquiring (ev.apply n))
    (hopen : ¬ n.provider.reacquisitionDone = true)
    (hdone : (ev.apply n).provider.reacquisitionDone = true) :
    ∃ ack, ev = .ack ack ∧ (n.provider.onReconnectAck ack).1 = true := by
  cases ev with
  | pairing op => exact absurd hdone hopen
  | ack ack =>
    refine ⟨ack, rfl, ?_⟩
    have hdone' : (n.provider.onReconnectAck ack).2.reacquisitionDone = true := hdone
    cases hr : n.provider.reacquiring with
    | false =>
      rw [EspNowSessionProvider.onReconnectAck_idle hr] at hdone'
      exact absurd hdone' hopen
    | true => rw [EspNowSessionProvider.onReconnectAck_accepts hr]
  | call call nowMs =>
    have hstays' : (call.apply n nowMs).state = .REACQUIRING_DYNAMIC := hstays
    have hdone' : (call.apply n nowMs).provider.reacquisitionDone = true := hdone
    by_cases hcall : call = .loop
    · subst hcall
      rw [ManagerCall.apply] at hstays' hdone'
      have hkeep := (EspNowSessionProvider.loopReacquisition_fields n.provider nowMs).2
      rcases loop_dynamic h hs nowMs with ⟨_, he⟩ | ⟨_, hnot, he⟩ | ⟨_, _, he⟩
      · rw [he] at hdone'
        exact absurd hdone' hopen
      · rw [he] at hdone'
        exact absurd (hkeep.symm.trans hdone') hopen
      · simp [he, recovered] at hstays'
    · rcases apply_cases h hcall nowMs with he | ⟨_, he⟩ | he
      · simp [he, recovered] at hstays'
      · rw [he] at hdone'
        exact absurd hdone' hopen
      · rw [he] at hdone'
        exact absurd hdone' hopen

/-- Only a reported success, or a `loop` on a completed reacquisition, leaves the state. -/
theorem exit_reacquiring {n : Node σ} (h : n.FlagAgrees) (hs : Reacquiring n) {ev : NodeEvent}
    (hout : ¬ Reacquiring (ev.apply n)) :
    (∃ nowMs, ev = .call .onReacquisitionSuccess nowMs) ∨
      ((∃ nowMs, ev = .call .loop nowMs) ∧ n.provider.reacquisitionDone = true) := by
  cases ev with
  | ack ack => exact absurd hs hout
  | pairing op => exact absurd hs hout
  | call call nowMs =>
    have hout' : ¬ (call.apply n nowMs).state = .REACQUIRING_DYNAMIC := hout
    cases call with
    | onReacquisitionSuccess => exact Or.inl ⟨nowMs, rfl⟩
    | onHeartbeatReceived =>
      rw [ManagerCall.apply, onHeartbeatReceived_reacquiring hs] at hout'
      exact absurd hs hout'
    | onMessageReceived =>
      rw [ManagerCall.apply, onMessageReceived_eq, onHeartbeatReceived_reacquiring hs] at hout'
      exact absurd hs hout'
    | loop =>
      have hkeep := (EspNowSessionProvider.loopReacquisition_fields n.provider nowMs).2
      rw [ManagerCall.apply] at hout'
      rcases loop_dynamic h hs nowMs with ⟨_, he⟩ | ⟨_, _, he⟩ | ⟨_, hyes, _⟩
      · rw [he] at hout'
        exact absurd hs hout'
      · rw [he] at hout'
        exact absurd hs hout'
      · exact Or.inr ⟨⟨nowMs, rfl⟩, hkeep.symm.trans hyes⟩

theorem acked_of_done {start : Node σ} (h : NodeInv start) (hstart : ¬ Reacquiring start)
    {evs : List NodeEvent} (hs : Reacquiring (run NodeEvent.apply start evs))
    (hdone : (run NodeEvent.apply start evs).provider.reacquisitionDone = true) :
    AckedThisStay start evs := by
  obtain ⟨before, enter, mid, rfl, hstay⟩ := exists_stay hstart hs
  have hentered : run NodeEvent.apply start (before ++ [enter]) =
      enter.apply (run NodeEvent.apply start before) := by
    rw [run_append]
    rfl
  have hsplit : ∀ mid', run NodeEvent.apply start (before ++ enter :: mid') =
      run NodeEvent.apply (run NodeEvent.apply start (before ++ [enter])) mid' := by
    intro mid'
    rw [← run_append, List.append_assoc]
    rfl
  have hin := eachState_iff.mp hstay.inside
  have hfresh := enter_reacquiring (run_nodeInv h before).flag hstay.outside
    (hentered ▸ hin [] mid rfl)
  rw [← hentered] at hfresh
  -- the step of the stay that completed the reacquisition
  rw [hsplit] at hdone
  obtain ⟨pre, ev, post, rfl, hopen, hflip⟩ := exists_flip
    (P := fun n : Node σ => n.provider.reacquisitionDone = true) (by simp [hfresh.1]) hdone
  have hbefore := hin pre (ev :: post) rfl
  have hafter := hin (pre ++ [ev]) post (by simp)
  rw [run_append] at hafter
  have hinv : NodeInv (run NodeEvent.apply (run NodeEvent.apply start (before ++ [enter])) pre) :=
    run_nodeInv (run_nodeInv h _) pre
  obtain ⟨ack, rfl, hack⟩ := completes_by_ack hinv.flag hbefore hafter hopen hflip
  exact ⟨before, enter, pre, ack, post, rfl, hstay, hfresh.2, by rw [hsplit]; exact hack⟩

theorem start_not_reacquiring (pairing : PairingClient σ)
    (probeCb : Option (MacAddress → Transport σ → Transport σ)) (config : ConnectionConfig)
    (nowMs : UInt32) : ¬ Reacquiring (Node.start pairing probeCb config nowMs) := by
  have hbegin := begin_state (ConnectionManager.new
    { provider := EspNowSessionProvider.new pairing probeCb } config) nowMs
  intro hs
  rcases hbegin with he | he <;> exact absurd (he.symm.trans hs) (by decide)

/-- Whenever a run from `begin` ends in REACQUIRING_DYNAMIC: no sequence of messages
changes anything, and an event that leaves the state is a reported success, or a `loop`
after an ack that was accepted since the `startReacquisition` of this very stay. -/
theorem broad_reacquisition_exit (pairing : PairingClient σ)
    (probeCb : Option (MacAddress → Transport σ → Transport σ)) (config : ConnectionConfig)
    (nowMs : UInt32) (evs : List NodeEvent)
    (hs : Reacquiring (run NodeEvent.apply (Node.start pairing probeCb config nowMs) evs)) :
    (∀ msgs, (∀ ev ∈ msgs, IsMessage ev) →
      run NodeEvent.apply (run NodeEvent.apply (Node.start pairing probeCb config nowMs) evs) msgs =
        run NodeEvent.apply (Node.start pairing probeCb config nowMs) evs) ∧
    ∀ ev : NodeEvent,
      ¬ Reacquiring (ev.apply (run NodeEvent.apply (Node.start pairing probeCb config nowMs) evs)) →
      (∃ t, ev = .call .onReacquisitionSuccess t) ∨
        ((∃ t, ev = .call .loop t) ∧
          AckedThisStay (Node.start pairing probeCb config nowMs) evs) := by
  have hinv := start_nodeInv pairing probeCb config nowMs
  have hstart := start_not_reacquiring pairing probeCb config nowMs
  refine ⟨fun msgs hmsgs => run_messages hs hmsgs, ?_⟩
  intro ev hout
  rcases exit_reacquiring (run_nodeInv hinv evs).flag hs hout with hsuccess | ⟨hloop, hdone⟩
  · exact Or.inl hsuccess
  · exact Or.inr ⟨hloop, acked_of_done hinv hstart hs hdone⟩

end Exit

section Example

/-- One ack in a first stay that a success ends, none so far in the second. -/
def secondStay : List NodeEvent :=
  [.call .loop 500, .call .loop 510, .ack (.init 6), .call .onReacquisitionSuccess 520,
    .call .loop 3000, .call .loop 3500, .call .loop 3510, .call .loop 3520]

/-- The second stay goes on, and the next ack of it ends it. -/
theorem broad_reacquisition_exit_second :
    AckedThisStay (Node.start pairedClient none { staticMaxProbes := 1 } 0)
      (secondStay ++ [.ack (.init 6)]) := by
  have hexit := (broad_reacquisition_exit pairedClient none { staticMaxProbes := 1 } 0
    (secondStay ++ [.ack (.init 6)]) (by decide)).2 (.call .loop 4020) (by decide)
  rcases hexit with ⟨t, h⟩ | ⟨_, h⟩
  · simp at h
  · exact h

end Example
end UngulaNet.Connection
