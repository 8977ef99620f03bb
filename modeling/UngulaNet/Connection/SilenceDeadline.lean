import UngulaNet.Foundation.Deadline
import UngulaNet.Connection.EscalationBudget
import UngulaNet.Connection.HeartbeatTimeout

/-!
# From silence to the scan

When the coordinator falls silent, a node with policy DYNAMIC waits for the timeout and the
grace period, sends all its probes, and starts to scan; and it does so by a deadline that the
configuration and the pace of the main loop give.
-/

namespace UngulaNet.Connection
open Runs WrapClock
set_option autoImplicit false

/-- The probes after the first, at their interval. -/
def ConnectionConfig.laterProbesMs (config : ConnectionConfig) (sent : Nat) : Nat :=
  (config.probeBudget - (sent + 1)) * config.staticProbeIntervalMs.toNat

/-- When a node that was last heard at `heard` scans at the latest, if its main loop comes
around every `gap` milliseconds. -/
def ConnectionConfig.scanDeadline (config : ConnectionConfig) (gap heard : Nat) : Nat :=
  heard + config.heartbeatTimeoutMs.toNat + config.degradedGracePeriodMs.toNat +
    config.laterProbesMs 0 + (config.probeBudget + 2) * gap

section Silence
variable {S : Type}
open ConnectionManager

/-- What the next stage of a silent node waits for, and the latest time of its scan. -/
def scanBound (gap : Nat) (m : ConnectionManager S) : Nat :=
  match m.state with
  | .PAIRED_CONNECTED => m.config.scanDeadline gap m.lastHeardMs.toNat
  | .PAIRED_DEGRADED =>
    m.stateEnteredMs.toNat + m.config.degradedGracePeriodMs.toNat + m.config.laterProbesMs 0 +
      (m.config.probeBudget + 1) * gap
  | .REACQUIRING_STATIC =>
    m.nextProbeMs.toNat + m.config.laterProbesMs m.probeCount.toNat +
      (m.config.probeBudget - m.probeCount.toNat) * gap
  | .UNPAIRED_DISCOVERY | .REACQUIRING_DYNAMIC => 0

/-- A silent node between its last contact and its scan, after a pass of its loop at `last`;
`sent` counts the probes sent before the silence. -/
inductive Silent (config : ConnectionConfig) (sent : Nat) (m : ConnectionManager S) (last : Nat) :
    Prop where
  | connected (inv : ConfigInv config m) (state : m.state = .PAIRED_CONNECTED)
      (heard : 0 < m.lastHeardMs.toNat) (since : m.lastHeardMs.toNat ≤ last)
      (waits : last ≤ m.lastHeardMs.toNat + config.heartbeatTimeoutMs.toNat)
      (count : probesSent m = sent)
  | degraded (inv : ConfigInv config m) (state : m.state = .PAIRED_DEGRADED)
      (since : m.stateEnteredMs.toNat ≤ last)
      (waits : last ≤ m.stateEnteredMs.toNat + config.degradedGracePeriodMs.toNat)
      (count : probesSent m = sent)
  | probing (inv : StayInv config sent m) (state : m.state = .REACQUIRING_STATIC)
      (waits : last ≤ m.nextProbeMs.toNat)

/-- The scan is on, after all the probes of the budget. -/
structure ScanBegun (config : ConnectionConfig) (sent : Nat) (m : ConnectionManager S) : Prop where
  state : m.state = .REACQUIRING_DYNAMIC
  count : probesSent m = sent + config.probeBudget

theorem probeBudget_pos (config : ConnectionConfig) : 0 < config.probeBudget :=
  Nat.lt_of_lt_of_le Nat.one_pos (Nat.le_max_left 1 _)

theorem stamp_toNat_of_lt {t : Nat} (h : t < 2 ^ 32) : (stamp t).toNat = t := by
  rw [stamp_toNat, Nat.mod_eq_of_lt h]

theorem stamp_add_toNat {t : Nat} {d : UInt32} (h : t + d.toNat < 2 ^ 32) :
    (stamp t + d).toNat = t + d.toNat := by
  rw [stamp_add, stamp_toNat_of_lt h]

variable {config : ConnectionConfig} {sent gap last t : Nat} {m : ConnectionManager S}

theorem Silent.room (h : Silent config sent m last) : last + gap ≤ scanBound gap m := by
  have hpos := probeBudget_pos config
  cases h with
  | connected inv state _ _ waits =>
    have hgap : gap ≤ (config.probeBudget + 2) * gap := Nat.le_mul_of_pos_left gap (by omega)
    rw [scanBound, state, inv.config]
    simp only [ConnectionConfig.scanDeadline]
    omega
  | degraded inv state _ waits =>
    have hgap : gap ≤ (config.probeBudget + 1) * gap := Nat.le_mul_of_pos_left gap (by omega)
    rw [scanBound, state, inv.config]
    dsimp only
    omega
  | probing inv state waits =>
    have hleft := inv.left
    have hgap : gap ≤ (config.probeBudget - m.probeCount.toNat) * gap :=
      Nat.le_mul_of_pos_left gap (by omega)
    rw [scanBound, state, inv.inv.config]
    dsimp only
    omega

theorem sub_toNat {x : UInt32} (hx : x.toNat ≤ t) (ht : t < 2 ^ 32) :
    (stamp t - x).toNat = t - x.toNat := by
  have hstamp : x = stamp x.toNat := (UInt32.ofNat_toNat).symm
  have hsub : (stamp t - stamp x.toNat).toNat = t - x.toNat :=
    stamp_sub_toNat_of_lt hx (by omega)
  rwa [← hstamp] at hsub

variable [ISessionProvider S]

theorem configInv_loop (h : ConfigInv config m) (nowMs : UInt32) :
    ConfigInv config (m.loop nowMs) :=
  ⟨flagAgrees_loop h.flag nowMs, (config_loop h.flag nowMs).trans h.config⟩

theorem Silent.step_connected (inv : ConfigInv config m) (state : m.state = .PAIRED_CONNECTED)
    (heard : 0 < m.lastHeardMs.toNat) (since : m.lastHeardMs.toNat ≤ last)
    (waits : last ≤ m.lastHeardMs.toNat + config.heartbeatTimeoutMs.toNat)
    (count : probesSent m = sent) (ht : t < 2 ^ 32) (hle : last ≤ t) (hgap : t ≤ last + gap) :
    Silent config sent (m.loop (stamp t)) t ∧
      scanBound gap (m.loop (stamp t)) ≤ scanBound gap m := by
  have hinv := configInv_loop inv (stamp t)
  have helapsed : (stamp t - m.lastHeardMs).toNat = t - m.lastHeardMs.toNat :=
    sub_toNat (by omega) ht
  rcases loop_connected inv.flag state (stamp t) with ⟨hearly, he⟩ | ⟨_, he⟩
  · have hin : t - m.lastHeardMs.toNat ≤ config.heartbeatTimeoutMs.toNat := by
      have hnot : ¬ config.heartbeatTimeoutMs.toNat < t - m.lastHeardMs.toNat := by
        intro hlt
        refine hearly ⟨UInt32.lt_iff_toNat_lt.mpr heard, UInt32.lt_iff_toNat_lt.mpr ?_⟩
        rwa [helapsed, inv.config]
      omega
    rw [he]
    exact ⟨.connected inv state heard (by omega) (by omega) count, Nat.le_refl _⟩
  · have hentered : (m.loop (stamp t)).stateEnteredMs.toNat = t := by
      rw [he]
      exact stamp_toNat_of_lt ht
    have hstate : (m.loop (stamp t)).state = .PAIRED_DEGRADED := by rw [he]
    have hcount : probesSent (m.loop (stamp t)) = sent := by
      rw [he]
      exact count
    refine ⟨.degraded hinv hstate (by omega) (by omega) hcount, ?_⟩
    have hsplit : (config.probeBudget + 2) * gap = (config.probeBudget + 1) * gap + gap :=
      Nat.succ_mul _ _
    rw [scanBound, scanBound, hstate, state, hinv.config, inv.config, hentered]
    simp only [ConnectionConfig.scanDeadline]
    omega

theorem Silent.step_degraded (inv : ConfigInv config m) (state : m.state = .PAIRED_DEGRADED)
    (since : m.stateEnteredMs.toNat ≤ last)
    (waits : last ≤ m.stateEnteredMs.toNat + config.degradedGracePeriodMs.toNat)
    (count : probesSent m = sent) (ht : t < 2 ^ 32) (hle : last ≤ t) (hgap : t ≤ last + gap) :
    Silent config sent (m.loop (stamp t)) t ∧
      scanBound gap (m.loop (stamp t)) ≤ scanBound gap m := by
  have hinv := configInv_loop inv (stamp t)
  have helapsed : (stamp t - m.stateEnteredMs).toNat = t - m.stateEnteredMs.toNat :=
    sub_toNat (by omega) ht
  rcases loop_degraded inv.flag state (stamp t) with ⟨hearly, he⟩ | ⟨_, he⟩
  · rw [UInt32.lt_iff_toNat_lt, helapsed, inv.config] at hearly
    rw [he]
    exact ⟨.degraded inv state (by omega) (by omega) count, Nat.le_refl _⟩
  · have hnext : (m.loop (stamp t)).nextProbeMs.toNat = t := by
      rw [he]
      exact stamp_toNat_of_lt ht
    have hstate : (m.loop (stamp t)).state = .REACQUIRING_STATIC := by rw [he]
    have hprobes : (m.loop (stamp t)).probeCount = 0 := by rw [he]
    have hcount : probesSent (m.loop (stamp t)) = sent := by
      rw [he]
      exact count
    have hstay : StayInv config sent (m.loop (stamp t)) := by
      refine ⟨hinv, by rw [hcount, hprobes]; rfl, ?_⟩
      rw [hprobes]
      exact probeBudget_pos config
    refine ⟨.probing hstay hstate (by omega), ?_⟩
    have hsplit : (config.probeBudget + 1) * gap = config.probeBudget * gap + gap :=
      Nat.succ_mul _ _
    rw [scanBound, scanBound, hstate, state, hinv.config, inv.config, hnext, hprobes]
    simp only [UInt8.toNat_zero, Nat.sub_zero]
    omega

theorem Silent.step_probing (hpolicy : config.policy = .DYNAMIC) (inv : StayInv config sent m)
    (state : m.state = .REACQUIRING_STATIC) (waits : last ≤ m.nextProbeMs.toNat)
    (ht : t + config.staticProbeIntervalMs.toNat < 2 ^ 32) (hgap : t ≤ last + gap) :
    ScanBegun config sent (m.loop (stamp t)) ∨ Silent config sent (m.loop (stamp t)) t ∧
      scanBound gap (m.loop (stamp t)) ≤ scanBound gap m := by
  have hnow : (stamp t).toNat = t := stamp_toNat_of_lt (by omega)
  rcases loop_static inv.inv.flag state (stamp t) with ⟨hearly, he⟩ | ⟨_, hleft, he⟩ | ⟨_, _, he⟩
  · rw [UInt32.lt_iff_toNat_lt, hnow] at hearly
    rw [he]
    exact Or.inr ⟨.probing inv state (by omega), Nat.le_refl _⟩
  · have hstate : (m.loop (stamp t)).state = .REACQUIRING_STATIC := by
      rw [he]
      exact state
    have hstays : InStatic (ManagerEvent.apply m (.call .loop (stamp t))) := hstate
    have hstay : StayInv config sent (m.loop (stamp t)) :=
      apply_stayInv hpolicy inv state hstays
    have hnext : (m.loop (stamp t)).nextProbeMs.toNat = t + config.staticProbeIntervalMs.toNat := by
      rw [he, inv.inv.config]
      exact stamp_add_toNat ht
    have hcount : (m.loop (stamp t)).probeCount.toNat = m.probeCount.toNat + 1 := by
      rw [he]
      exact (exhausted_iff hpolicy inv.inv.config inv.left).1
    refine Or.inr ⟨.probing hstay hstate (by omega), ?_⟩
    -- one probe less is left, with its interval and its pass of the loop
    have hmore := hstay.left
    rw [hcount] at hmore
    have hlater : config.laterProbesMs m.probeCount.toNat =
        config.laterProbesMs (m.probeCount.toNat + 1) + config.staticProbeIntervalMs.toNat := by
      have hone : config.probeBudget - (m.probeCount.toNat + 1) =
          config.probeBudget - (m.probeCount.toNat + 1 + 1) + 1 := by omega
      rw [ConnectionConfig.laterProbesMs, hone, Nat.succ_mul]
      rfl
    have hsplit : (config.probeBudget - m.probeCount.toNat) * gap =
        (config.probeBudget - (m.probeCount.toNat + 1)) * gap + gap := by
      have hone : config.probeBudget - m.probeCount.toNat =
          config.probeBudget - (m.probeCount.toNat + 1) + 1 := by omega
      rw [hone, Nat.succ_mul]
    rw [scanBound, scanBound, hstate, state, hstay.inv.config, inv.inv.config, hnext, hcount]
    dsimp only
    omega
  · have hstate : (m.loop (stamp t)).state = .REACQUIRING_DYNAMIC := by rw [he]
    exact Or.inl ⟨hstate, (last_probes hpolicy inv (.call .loop (stamp t))).2 hstate state⟩

/-- A pass of the loop brings a silent node on, and never puts its scan off. -/
theorem silent_approaches (hpolicy : config.policy = .DYNAMIC) (gap sent : Nat) :
    Approaches (fun (m : ConnectionManager S) t => m.loop (stamp t)) id gap
      (fun _ t => t + config.staticProbeIntervalMs.toNat < 2 ^ 32) (Silent config sent)
      (ScanBegun config sent) (scanBound gap) where
  room _ _ h := h.room
  step m last t h ht hle hgap := by
    cases h with
    | connected inv state heard since waits count =>
      exact Or.inr (Silent.step_connected inv state heard since waits count (by omega) hle hgap)
    | degraded inv state since waits count =>
      exact Or.inr (Silent.step_degraded inv state since waits count (by omega) hle hgap)
    | probing inv state waits => exact Silent.step_probing hpolicy inv state waits ht hgap

def TimedManager.loops (w : TimedManager S) (ts : List Nat) : TimedManager S :=
  run TimedManager.apply w (ts.map (TimedEvent.call .loop))

theorem loops_mgr (w : TimedManager S) (ts : List Nat) :
    (w.loops ts).mgr = run (fun m t => m.loop (stamp t)) w.mgr ts := by
  induction ts generalizing w with
  | nil => rfl
  | cons t ts ih => exact ih (w.apply (.call .loop t))

theorem timed_configInv (session : Session S) (config : ConnectionConfig) (time : Nat)
    (evs : List (TimedEvent S)) :
    ConfigInv config (run TimedManager.apply (TimedManager.start session config time) evs).mgr := by
  have hstart : ConfigInv config (TimedManager.start session config time).mgr := by
    refine ⟨flagAgrees_begin session config _, ?_⟩
    rcases (ConnectionManager.new session config).begin_cases (stamp time) with
      ⟨_, he⟩ | ⟨_, he⟩ <;> rw [TimedManager.start, he] <;> rfl
  refine (eachState_invariant (fun w : TimedManager S => ConfigInv config w.mgr) hstart evs
    (fun w ev h => ?_)).last
  cases ev with
  | environment provider => exact apply_configInv h (.environment provider)
  | call call time => exact apply_configInv h (.call call (stamp time))

/-- After any run, from the moment the coordinator was heard last, which is not at 0: if from
then on there are only passes of the loop, at most `gap` apart, the node scans by the deadline,
and has sent exactly its budget of probes before. -/
theorem silence_escalates (session : Session S) {config : ConnectionConfig}
    (hpolicy : config.policy = .DYNAMIC) (time : Nat) (evs : List (TimedEvent S))
    (hord : EachStep TimedManager.apply TimedManager.InOrder
      (TimedManager.start session config time) evs) (gap : Nat) (ts : List Nat) :
    let w := run TimedManager.apply (TimedManager.start session config time) evs
    w.mgr.state = .PAIRED_CONNECTED → w.heard = some w.now → 0 < w.now →
    Sampled gap w.now ts → (∀ t ∈ ts, t + config.staticProbeIntervalMs.toNat < 2 ^ 32) →
    (∃ t ∈ ts, config.scanDeadline gap w.now < t) →
    ∃ pre t post, ts = pre ++ t :: post ∧ t ≤ config.scanDeadline gap w.now ∧
      (w.loops (pre ++ [t])).mgr.getState = .REACQUIRING_DYNAMIC ∧
      probesSent (w.loops (pre ++ [t])).mgr = probesSent w.mgr + config.probeBudget := by
  intro w hstate hheard hpos hsampled hok hlate
  have hinv : ConfigInv config w.mgr := timed_configInv session config time evs
  have hheardInv : HeardInv w := (eachState_of_invariant HeardInv
    (start_heardInv session config time) hord fun _ _ h hev => apply_heardInv h hev).last
  obtain ⟨heard, hsome, hread, _⟩ := hheardInv.heard hstate
  obtain rfl : w.now = heard := Option.some.inj (hheard.symm.trans hsome)
  have hnow : w.mgr.lastHeardMs.toNat = w.now := by
    obtain ⟨t, ht, hlt⟩ := hlate
    have htime := hok t ht
    rw [hread]
    refine stamp_toNat_of_lt ?_
    unfold ConnectionConfig.scanDeadline at hlt
    omega
  have hbound : scanBound gap w.mgr = config.scanDeadline gap w.now := by
    rw [scanBound, hstate, hinv.config, hnow]
  have hsilent : Silent config (probesSent w.mgr) w.mgr w.now :=
    .connected hinv hstate (by omega) (by omega) (by omega) rfl
  obtain ⟨pre, t, post, heq, hle, hbegun⟩ :=
    (silent_approaches hpolicy gap (probesSent w.mgr)).reached hsilent (by rwa [List.map_id])
      (eachStep_of_forall hok w.mgr) (by rwa [hbound])
  rw [← loops_mgr] at hbegun
  exact ⟨pre, t, post, heq, by rwa [hbound] at hle, hbegun.state, hbegun.count⟩

end Silence

section Example

/-- One probe only, and a loop that comes around every second. -/
def briefConfig : ConnectionConfig := { staticMaxProbes := 1 }

theorem silence_escalates_once :
    let w := run TimedManager.apply (TimedManager.start pairedSession briefConfig 0)
      [.call .onHeartbeatReceived 100]
    ∃ pre t post, [1100, 2100, 3100, 4100, 5100, 6100] = pre ++ t :: post ∧
      t ≤ briefConfig.scanDeadline 1000 100 ∧
      (w.loops (pre ++ [t])).mgr.getState = .REACQUIRING_DYNAMIC ∧
      probesSent (w.loops (pre ++ [t])).mgr = probesSent w.mgr + briefConfig.probeBudget := by
  have hpolicy : briefConfig.policy = .DYNAMIC := rfl
  exact silence_escalates pairedSession hpolicy 0 [.call .onHeartbeatReceived 100] (by decide)
    1000 [1100, 2100, 3100, 4100, 5100, 6100] (by decide) (by decide) (by decide) (by decide)
    (by decide) (by decide)

end Example
end UngulaNet.Connection
