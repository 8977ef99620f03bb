import UngulaNet.Foundation.Outputs
import UngulaNet.Ntp.NtpClient

/-!
# The time service over a run of calls

The calls that `ntp_init` and `ntp_stop` make on the SNTP service, in any order: they open
and close one session after the other. All settings of a session are made before its start
and none until its stop, whatever is called in between.
-/

namespace UngulaNet.Ntp
set_option autoImplicit false

inductive NtpOp where
  | init (config : NtpConfig)
  | stop

def NtpClient.perform (client : NtpClient) : NtpOp → NtpClient
  | .init config => client.ntp_init config
  | .stop => client.ntp_stop

/-- What the caller asked for: the sessions that are over, oldest first, and the one that
is open, each by its configuration. -/
structure Sessions where
  closed : List NtpConfig := []
  current : Option NtpConfig := none

namespace Sessions

def perform (sessions : Sessions) : NtpOp → Sessions
  | .init config =>
    if sessions.current.isSome then sessions else { sessions with current := some config }
  | .stop => { closed := sessions.closed ++ sessions.current.toList, current := none }

def opened (sessions : Sessions) : List NtpConfig := sessions.closed ++ sessions.current.toList

def calls (sessions : Sessions) : List SntpCall :=
  (sessions.closed.flatMap fun config => NtpClient.startCalls config ++ [.stop]) ++
    sessions.current.toList.flatMap NtpClient.startCalls

/-- The client's variables and the calls it made are those of the sessions. A stop keeps the
offset of the last one. -/
structure Serves (client : NtpClient) (sessions : Sessions) : Prop where
  calls : client.calls = sessions.calls
  initialised : client.s_initialised = sessions.current.isSome
  offset : client.s_utcOffset =
    (sessions.opened.getLast?.map NtpConfig.utcOffsetSeconds).getD 0

variable {client : NtpClient} {sessions : Sessions}

theorem serves_init (h : sessions.Serves client) (config : NtpConfig) :
    (sessions.perform (.init config)).Serves (client.ntp_init config) := by
  cases hcurrent : sessions.current with
  | some config' =>
    have hinit : client.s_initialised = true := h.initialised.trans (by rw [hcurrent]; rfl)
    have hclient : client.ntp_init config = client := if_pos hinit
    have hsessions : sessions.perform (.init config) = sessions := by
      rw [perform, hcurrent]
      exact if_pos rfl
    rw [hclient, hsessions]
    exact h
  | none =>
    have hinit : client.s_initialised = false := h.initialised.trans (by rw [hcurrent]; rfl)
    have hsessions : sessions.perform (.init config) =
        { sessions with current := some config } := by
      rw [perform, hcurrent]
      exact if_neg Bool.false_ne_true
    have hbefore : client.calls =
        sessions.closed.flatMap fun config => NtpClient.startCalls config ++ [.stop] := by
      rw [h.calls, calls, hcurrent]
      exact List.append_nil _
    rw [NtpClient.ntp_init, hinit, hsessions]
    refine ⟨?_, rfl, ?_⟩
    · change client.calls ++ NtpClient.startCalls config = _
      rw [hbefore, calls, Option.toList_some, List.flatMap_singleton]
    · rw [opened, Option.toList_some, List.getLast?_concat]
      rfl

theorem serves_stop (h : sessions.Serves client) :
    (sessions.perform .stop).Serves client.ntp_stop := by
  cases hcurrent : sessions.current with
  | some config =>
    have hinit : client.s_initialised = true := h.initialised.trans (by rw [hcurrent]; rfl)
    have hstop : client.ntp_stop =
        { client with s_initialised := false, calls := client.calls ++ [.stop] } := if_pos hinit
    have hopened : (sessions.perform .stop).opened = sessions.opened := List.append_nil _
    rw [hstop]
    refine ⟨?_, rfl, ?_⟩
    · change client.calls ++ [.stop] = _
      rw [h.calls, calls, calls, perform, hcurrent]
      simp
    · rw [hopened]
      exact h.offset
  | none =>
    have hinit : ¬ client.s_initialised = true := by
      rw [h.initialised, hcurrent]
      exact Bool.false_ne_true
    have hsessions : sessions.perform .stop = sessions := by
      rw [perform, hcurrent, Option.toList_none, List.append_nil, ← hcurrent]
    rw [NtpClient.ntp_stop, if_neg hinit, hsessions]
    exact h

end Sessions

/-! ## The order of the calls -/

def startedStep (started : Bool) : SntpCall → Bool
  | .init => true
  | .stop => false
  | _ => started

/-- The last `esp_sntp_init` comes after the last `esp_sntp_stop`. -/
def started (calls : List SntpCall) : Bool := Runs.run startedStep false calls

/-- Only a stop is called once the service is started. -/
abbrev InOrder (started : Bool) (calls : List SntpCall) : Prop :=
  Runs.EachStep startedStep (fun started call => call = .stop ↔ started = true) started calls

/-- The settings and the start of a session. -/
theorem startCalls_inOrder (config : NtpConfig) :
    InOrder false (NtpClient.startCalls config) ∧
      Runs.run startedStep false (NtpClient.startCalls config) = true := by
  cases hfallback : config.fallbackServer <;>
    simp [NtpClient.startCalls, hfallback, Runs.EachStep, startedStep]

/-- A session that is over leaves the service as it was. -/
theorem session_inOrder (config : NtpConfig) :
    InOrder false (NtpClient.startCalls config ++ [.stop]) ∧
      Runs.run startedStep false (NtpClient.startCalls config ++ [.stop]) = false := by
  obtain ⟨horder, hstarted⟩ := startCalls_inOrder config
  constructor
  · refine Runs.eachStep_append.mpr ⟨horder, ?_⟩
    rw [hstarted]
    exact ⟨iff_of_true rfl rfl, trivial⟩
  · rw [Runs.run_append, hstarted]
    rfl

theorem closed_inOrder (closed : List NtpConfig) :
    InOrder false (closed.flatMap fun config => NtpClient.startCalls config ++ [.stop]) ∧
      Runs.run startedStep false
        (closed.flatMap fun config => NtpClient.startCalls config ++ [.stop]) = false := by
  induction closed with
  | nil => exact ⟨trivial, rfl⟩
  | cons config closed ih =>
    obtain ⟨horder, hstopped⟩ := session_inOrder config
    rw [List.flatMap_cons]
    constructor
    · refine Runs.eachStep_append.mpr ⟨horder, ?_⟩
      rw [hstopped]
      exact ih.1
    · rw [Runs.run_append, hstopped]
      exact ih.2

theorem Sessions.calls_inOrder (sessions : Sessions) : InOrder false sessions.calls := by
  obtain ⟨horder, hstopped⟩ := closed_inOrder sessions.closed
  refine Runs.eachStep_append.mpr ⟨horder, ?_⟩
  rw [hstopped]
  cases sessions.current with
  | none => exact trivial
  | some config =>
    rw [Option.toList_some, List.flatMap_singleton]
    exact (startCalls_inOrder config).1

/-- In every run the calls are those of the sessions that the caller has opened and closed,
the offset is that of the last one, and once the service is started nothing but its stop is
called. -/
theorem service_follows_session (ops : List NtpOp) :
    let client := Runs.run NtpClient.perform {} ops
    (Runs.run Sessions.perform {} ops).Serves client ∧
      ∀ pre call post, client.calls = pre ++ call :: post →
        (call = .stop ↔ started pre = true) := by
  intro client
  have hserves : (Runs.run Sessions.perform {} ops).Serves client := by
    refine Runs.run_related (R := fun client sessions => Sessions.Serves client sessions) ?_ ?_ ops
    · intro client sessions op h
      cases op with
      | init config => exact Sessions.serves_init h config
      | stop => exact Sessions.serves_stop h
    · exact ⟨rfl, rfl, rfl⟩
  refine ⟨hserves, fun pre call post hcalls => ?_⟩
  have horder := Sessions.calls_inOrder (Runs.run Sessions.perform {} ops)
  rw [← hserves.calls] at horder
  exact Runs.eachStep_iff.mp horder pre call post hcalls

end UngulaNet.Ntp
