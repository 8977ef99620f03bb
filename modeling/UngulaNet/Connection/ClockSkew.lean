import UngulaNet.Connection.HeartbeatTimeout
import UngulaNet.Pairing.AnsweredBeacon

/-!
# Timestamps from before the last event

The receive callback and the main loop read the clock on their own, so a `loop` may bring
a reading taken just before that of the last message. The unsigned difference of the two
is then close to a whole lap. A connected manager takes it for a timeout unless the
configured timeout is as long, or the message came at reading 0; a client that waits for
its confirm takes it for one always.
-/

namespace UngulaNet.Connection
open Comm Pairing Runs WrapClock
set_option autoImplicit false

section Manager
variable {S : Type} [ISessionProvider S]
open ConnectionManager

/-- A `loop` with a reading from before the last contact does not degrade the manager. -/
def NoSpuriousTimeout (w : TimedManager S) : TimedEvent S → Prop
  | .call .loop time => w.mgr.state = .PAIRED_CONNECTED →
      ∃ heard, w.heard = some heard ∧ (Earlier (stamp time) (stamp heard) →
        (w.mgr.loop (stamp time)).getState = .PAIRED_CONNECTED)
  | _ => True

/-- The last contact was at reading 0, or the configured timeout covers the lap that the
difference of the readings seems to be. -/
def SkewTolerated (w : TimedManager S) : TimedEvent S → Prop
  | .call .loop time => w.mgr.state = .PAIRED_CONNECTED →
      ∀ heard, w.heard = some heard → Earlier (stamp time) (stamp heard) →
        stamp heard = 0 ∨ stamp time - stamp heard ≤ w.mgr.config.heartbeatTimeoutMs
  | _ => True

/-- A connected manager remembers the reading of its last contact. No order of the calls
is needed for this. -/
structure ContactInv (w : TimedManager S) : Prop where
  flag : w.mgr.FlagAgrees
  contact : w.mgr.state = .PAIRED_CONNECTED →
    ∃ heard, w.heard = some heard ∧ w.mgr.lastHeardMs = stamp heard

theorem start_contactInv (session : Session S) (config : ConnectionConfig) (time : Nat) :
    ContactInv (TimedManager.start session config time) := by
  obtain ⟨hflag, hheard⟩ := start_heardInv session config time
  refine ⟨hflag, ?_⟩
  intro hs
  obtain ⟨heard, hsome, hread, _⟩ := hheard hs
  exact ⟨heard, hsome, hread⟩

theorem apply_contactInv {w : TimedManager S} (h : ContactInv w) (ev : TimedEvent S) :
    ContactInv (w.apply ev) := by
  cases ev with
  | environment provider => exact ⟨h.flag.setProvider provider, h.contact⟩
  | call call time =>
    refine ⟨flagAgrees_apply h.flag call _, ?_⟩
    intro hs
    rcases call_heard h.flag call (stamp time) with ⟨hh, he⟩ | ⟨hn, he, hkeep⟩
    · exact ⟨time, if_pos hh, he⟩
    · obtain ⟨heard, hsome, hread⟩ := h.contact (hkeep hs)
      exact ⟨heard, (if_neg hn).trans hsome, he.trans hread⟩

theorem skew_step {w : TimedManager S} (h : ContactInv w) (ev : TimedEvent S) :
    NoSpuriousTimeout w ev ↔ SkewTolerated w ev := by
  cases ev with
  | environment provider => exact Iff.rfl
  | call call time =>
    cases call with
    | loop =>
      refine forall_congr' ?_
      intro hs
      obtain ⟨heard, hsome, hread⟩ := h.contact hs
      simp only [hsome, Option.some.injEq, exists_eq_left', forall_eq']
      refine forall_congr' ?_
      intro _
      have hquiet : ¬ w.mgr.TimedOut (stamp time) ↔
          stamp heard = 0 ∨ stamp time - stamp heard ≤ w.mgr.config.heartbeatTimeoutMs := by
        rw [TimedOut, hread, not_and_or, gt_iff_lt, gt_iff_lt, UInt32.not_lt, UInt32.not_lt,
          UInt32.le_zero_iff]
      rw [← hquiet]
      rcases loop_connected h.flag hs (stamp time) with ⟨ht, he⟩ | ⟨ht, he⟩
      · rw [he]
        exact iff_of_true hs ht
      · rw [he]
        exact iff_of_false (by simp [getState]) (fun hn => hn ht)
    | _ => exact Iff.rfl

theorem manager_skew_iff (session : Session S) (config : ConnectionConfig) (time : Nat)
    (evs : List (TimedEvent S)) :
    EachStep TimedManager.apply NoSpuriousTimeout (TimedManager.start session config time) evs ↔
      EachStep TimedManager.apply SkewTolerated (TimedManager.start session config time) evs :=
  eachStep_congr ContactInv (start_contactInv session config time)
    (eachStep_true _ _)
    (fun _ ev h _ => apply_contactInv h ev) (fun _ ev h _ => skew_step h ev)

end Manager

section Client
variable {σ : Type} [ITransport σ]

def NoSpuriousRestart (w : WatchedClient σ) : ClientOp → Prop
  | .loop nowMs => w.client.state = .RESPONDING →
      ∃ mac t, w.beacon = some (mac, t) ∧
        (Earlier nowMs t → (w.client.loop nowMs).state = .RESPONDING)
  | _ => True

def NoEarlierLoop (w : WatchedClient σ) : ClientOp → Prop
  | .loop nowMs => w.client.state = .RESPONDING →
      ∀ mac t, w.beacon = some (mac, t) → ¬ Earlier nowMs t
  | _ => True

theorem restart_step {w : WatchedClient σ} (h : AnsweredInv w) (op : ClientOp) :
    NoSpuriousRestart w op ↔ NoEarlierLoop w op := by
  cases op with
  | loop nowMs =>
    refine forall_congr' ?_
    intro hs
    obtain ⟨mac, t, hanswered⟩ := h hs
    -- a reading from before the beacon is past the timeout
    have hrestarts : Earlier nowMs t → (w.client.loop nowMs).state = .SCANNING := by
      intro hearly
      have htimeout : PAIRING_TIMEOUT_MS ≤ nowMs - w.client.pairingStartMs := by
        rw [hanswered.pairingStartMs]
        exact UInt32.le_of_lt (UInt32.lt_trans (by decide) hearly.sub_gt)
      rcases PairingClient.loop_responding hs nowMs with ⟨_, he⟩ | ⟨hn, _⟩
      · rw [he]
        rfl
      · exact absurd htimeout hn
    constructor
    · rintro ⟨mac', t', hbeacon, hlaw⟩ mac'' t'' hbeacon' hearly
      obtain ⟨rfl, rfl⟩ : mac' = mac'' ∧ t' = t'' := by simpa using hbeacon.symm.trans hbeacon'
      obtain ⟨rfl, rfl⟩ : mac = mac' ∧ t = t' := by
        simpa using hanswered.beacon.symm.trans hbeacon
      exact absurd ((hrestarts hearly).symm.trans (hlaw hearly)) (by decide)
    · intro hcond
      exact ⟨mac, t, hanswered.beacon, fun hearly => absurd hearly (hcond mac t hanswered.beacon)⟩
  | _ => exact Iff.rfl

theorem client_skew_iff (transport : Transport σ) (prefs : Preferences) (deviceId : UInt8)
    (ops : List ClientOp) :
    EachStep WatchedClient.apply NoSpuriousRestart
        { client := PairingClient.new transport prefs deviceId } ops ↔
      EachStep WatchedClient.apply NoEarlierLoop
        { client := PairingClient.new transport prefs deviceId } ops :=
  eachStep_congr AnsweredInv (new_answeredInv transport prefs deviceId)
    (eachStep_true _ _)
    (fun _ op h _ => apply_answeredInv h op) (fun _ op h _ => restart_step h op)

end Client

/-- In runs with calls at any readings of the clock: no manager times out, and no client
restarts its scan, on a reading from before its last event, if and only if every such
`loop` of a connected manager is tolerated and no waiting client gets one. -/
theorem clock_skew_iff {S σ : Type} [ISessionProvider S] [ITransport σ] (session : Session S)
    (config : ConnectionConfig) (time : Nat) (evs : List (TimedEvent S))
    (transport : Transport σ) (prefs : Preferences) (deviceId : UInt8) (ops : List ClientOp) :
    EachStep TimedManager.apply NoSpuriousTimeout (TimedManager.start session config time) evs ∧
        EachStep WatchedClient.apply NoSpuriousRestart
          { client := PairingClient.new transport prefs deviceId } ops ↔
      EachStep TimedManager.apply SkewTolerated (TimedManager.start session config time) evs ∧
        EachStep WatchedClient.apply NoEarlierLoop
          { client := PairingClient.new transport prefs deviceId } ops :=
  and_congr (manager_skew_iff session config time evs)
    (client_skew_iff transport prefs deviceId ops)

section Example

/-- The heartbeat is stamped 1000, the next `loop` 995: the manager degrades. A client
restarts its scan under the same skew. -/
theorem timeout_five_ms_early :
    ¬ EachStep TimedManager.apply NoSpuriousTimeout (TimedManager.start pairedSession {} 0)
        [.call .onHeartbeatReceived 1000, .call .loop 995] ∧
      ¬ EachStep WatchedClient.apply NoSpuriousRestart
        { client := PairingClient.new (simTransport clientMac 1) Preferences.empty 7 }
        [.startScanning, .handleReceived coordMac (PairingBeacon.init 6).toBytes 1000,
          .loop 995] := by
  constructor
  · intro h
    obtain ⟨heard, hsome, hlaw⟩ := h.2.1 (by decide)
    obtain rfl : 1000 = heard := Option.some.inj hsome
    exact absurd (hlaw (by decide)) (by decide)
  · intro h
    obtain ⟨mac, t, hbeacon, hlaw⟩ := h.2.2.1 (by decide)
    obtain rfl : 1000 = t := congrArg (fun b => (b.map Prod.snd).getD 0) hbeacon
    exact absurd (hlaw (by decide)) (by decide)

end Example
end UngulaNet.Connection
