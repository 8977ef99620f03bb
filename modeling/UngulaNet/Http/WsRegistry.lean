import UngulaNet.Foundation.Registry
import UngulaNet.Http.WsBroadcast

/-!
# The registry of WebSocket clients over whole runs

The clients of a server are, in order of connection, those that connected while there was
room and were not dropped since: disconnected, closed while the server ran, failed by a
send, or dropped by a stop of the running server. `on_close` looks the server up through
the global that only a running server sets, so closes of a stopped one drop nobody.
-/

namespace UngulaNet.Http
open Runs Registry
set_option autoImplicit false

variable {H : Type}

namespace ServerOp

/-- The state after the operation; `getD` never applies, as `runs_in_bounds` shows. -/
def step (s : HttpServer H) (op : ServerOp H) : HttpServer H := (op.apply s).getD s

/-- The descriptor that the operation connects. -/
def connects (s : HttpServer H) : ServerOp H → Option Int
  | .httpd_ws_connect fd => some fd
  | .ws_handler method fd _ => if s.instance_ ∧ method = .HTTP_GET then some fd else none
  | _ => none

/-- The descriptor that the operation disconnects. -/
def disconnects (s : HttpServer H) : ServerOp H → Option Int
  | .httpd_ws_disconnect fd => some fd
  | .on_close fd => if s.instance_ then some fd else none
  | .ws_handler method fd received =>
    if s.instance_ ∧ method ≠ .HTTP_GET ∧ received.map (·.type) = some .HTTPD_WS_TYPE_CLOSE then
      some fd
    else none
  | _ => none

def stops (s : HttpServer H) : ServerOp H → Bool
  | .stop => s.impl
  | _ => false

/-- The sends that the operation makes. -/
def sends (s : HttpServer H) (op : ServerOp H) : List WsSend :=
  (step s op).sends.drop s.sends.length

/-- The descriptor that the operation adds: one that connects while there is room, and is
not there yet. -/
def adds (s : HttpServer H) (op : ServerOp H) : Option Int :=
  (op.connects s).filter fun fd => s.wsClientCount < MAX_WS_CLIENTS ∧ fd ∉ s.clients

def Drops (s : HttpServer H) (op : ServerOp H) (fd : Int) : Prop :=
  op.disconnects s = some fd ∨ fd ∈ HttpServer.failed (op.sends s) ∨ op.stops s = true

instance (s : HttpServer H) (op : ServerOp H) (fd : Int) : Decidable (Drops s op fd) :=
  inferInstanceAs (Decidable (_ ∨ _ ∨ _))

structure RegistryInv (s : HttpServer H) : Prop where
  count_le : s.wsClientCount ≤ MAX_WS_CLIENTS
  nodup : s.clients.Nodup

/-- What an operation does to the registry. -/
structure Moves (s : HttpServer H) (op : ServerOp H) (s' : HttpServer H) : Prop where
  apply : op.apply s = some s'
  inv : RegistryInv s'
  clients : s'.clients = s.clients.filter (fun fd => ¬Drops s op fd) ++ (adds s op).toList

variable {s s' : HttpServer H} {op : ServerOp H}

theorem step_eq (h : op.apply s = some s') : step s op = s' := by
  rw [step, h]
  rfl

theorem drops_iff (h : op.apply s = some s') (fd : Int) : Drops s op fd ↔
    op.disconnects s = some fd ∨ fd ∈ HttpServer.failed (s'.sends.drop s.sends.length) ∨
      op.stops s = true := by
  rw [Drops, sends, step_eq h]

theorem drops_iff_of_sends (h : op.apply s = some s') (hsends : s'.sends = s.sends) (fd : Int) :
    Drops s op fd ↔ op.disconnects s = some fd ∨ op.stops s = true := by
  rw [drops_iff h, hsends, List.drop_length]
  simp [HttpServer.failed]

theorem adds_none (h : op.connects s = none) : adds s op = none := by
  rw [adds, h]
  rfl

theorem filter_not_drops {p : Int → Prop} [DecidablePred p] (h : ∀ fd, Drops s op fd ↔ p fd) :
    s.clients.filter (fun fd => ¬Drops s op fd) = s.clients.filter fun fd => ¬p fd :=
  List.filter_congr fun fd _ => by simp only [h]

/-- An operation that sends nothing and names no descriptor. -/
theorem Moves.keeps (hinv : RegistryInv s) (h : op.apply s = some s')
    (hclients : s'.clients = s.clients) (hcount : s'.wsClientCount = s.wsClientCount)
    (hsends : s'.sends = s.sends) (hconnects : op.connects s = none)
    (hdisconnects : op.disconnects s = none) (hstops : op.stops s = false) : Moves s op s' := by
  have hdrops : ∀ fd, Drops s op fd ↔ False := by
    intro fd
    rw [drops_iff_of_sends h hsends, hdisconnects, hstops]
    simp
  refine ⟨h, ⟨hcount ▸ hinv.count_le, hclients ▸ hinv.nodup⟩, ?_⟩
  rw [filter_not_drops hdrops, adds_none hconnects, hclients]
  simp

theorem Moves.connect {fd : Int} (hinv : RegistryInv s)
    (happly : op.apply s = s.httpd_ws_connect fd) (hconnects : op.connects s = some fd)
    (hdisconnects : op.disconnects s = none) (hstops : op.stops s = false) :
    ∃ s', Moves s op s' := by
  obtain ⟨s', hs', hframe, hcount, hclients⟩ := HttpServer.connect_spec hinv.count_le fd
  have h := happly.trans hs'
  have hdrops : ∀ fd, Drops s op fd ↔ False := by
    intro fd
    rw [drops_iff_of_sends h (by rw [hframe]), hdisconnects, hstops]
    simp
  have hadds : (adds s op).toList =
      if s.wsClientCount < MAX_WS_CLIENTS ∧ fd ∉ s.clients then [fd] else [] := by
    rw [adds, hconnects, Option.filter_some]
    split
    · rename_i hnew
      rw [if_pos (of_decide_eq_true hnew)]
      rfl
    · rename_i hnew
      rw [if_neg (fun hp => hnew (decide_eq_true hp))]
      rfl
  refine ⟨s', h, ⟨hcount, ?_⟩, ?_⟩
  · rw [hclients]
    split
    · rename_i hnew
      exact List.nodup_append.mpr ⟨hinv.nodup, List.nodup_singleton fd, fun a ha b hb heq =>
        hnew.2 (List.mem_singleton.mp hb ▸ heq ▸ ha)⟩
    · rw [List.append_nil]
      exact hinv.nodup
  · rw [filter_not_drops hdrops, hadds, hclients]
    simp

theorem Moves.disconnect {fd : Int} (hinv : RegistryInv s)
    (happly : op.apply s = s.httpd_ws_disconnect fd) (hconnects : op.connects s = none)
    (hdisconnects : op.disconnects s = some fd) (hstops : op.stops s = false) :
    ∃ s', Moves s op s' := by
  obtain ⟨s', hs', hframe, hcount, hclients⟩ := HttpServer.disconnect_spec hinv.count_le fd
  have h := happly.trans hs'
  have hdrops : ∀ fd', Drops s op fd' ↔ fd' = fd := by
    intro fd'
    rw [drops_iff_of_sends h (by rw [hframe]), hdisconnects, hstops]
    simp [eq_comm]
  refine ⟨s', h, ⟨hcount, hclients ▸ hinv.nodup.erase fd⟩, ?_⟩
  rw [filter_not_drops hdrops, adds_none hconnects, hclients, hinv.nodup.erase_eq_filter,
    Option.toList_none, List.append_nil]
  refine List.filter_congr ?_
  intro x _
  by_cases hx : x = fd
  · simp [hx]
  · simp [hx]

theorem Moves.send {frame : WsFrame} {ok : Nat → Int → Bool} (hinv : RegistryInv s)
    (happly : op.apply s = (s.wsSend frame ok).map Prod.snd) (hconnects : op.connects s = none)
    (hdisconnects : op.disconnects s = none) (hstops : op.stops s = false) :
    ∃ s', Moves s op s' := by
  by_cases hrun : s.impl = true
  · obtain ⟨calls, s', hsend, hsent⟩ :=
      HttpServer.wsSend_spec frame ok hinv.count_le hinv.nodup hrun
    have h : op.apply s = some s' := by
      rw [happly, hsend]
      rfl
    have hclients := hsent.clients_eq hinv.nodup
    have hdrops : ∀ fd, Drops s op fd ↔ fd ∈ HttpServer.failed calls := by
      intro fd
      rw [drops_iff h, hsent.sends, List.drop_left, hdisconnects, hstops]
      simp
    refine ⟨s', h, ⟨hsent.count_le, hclients ▸ hinv.nodup.filter _⟩, ?_⟩
    rw [filter_not_drops hdrops, adds_none hconnects, hclients]
    exact (List.append_nil _).symm
  · have h : op.apply s = some s := by
      rw [happly, HttpServer.wsSend, if_pos (Or.inl (by simpa using hrun))]
      rfl
    exact ⟨s, Moves.keeps hinv h rfl rfl rfl hconnects hdisconnects hstops⟩

theorem Moves.stop (hinv : RegistryInv s) : Moves s .stop s.stop := by
  by_cases hrun : s.impl = true
  · have hnone : s.stop.clients = [] := by
      rw [HttpServer.stop, if_pos hrun]
      rfl
    have hdrops : ∀ fd, Drops s .stop fd ↔ True := fun fd =>
      iff_true_intro (Or.inr (Or.inr hrun))
    refine ⟨rfl, ⟨?_, ?_⟩, ?_⟩
    · rw [HttpServer.stop, if_pos hrun]
      exact Nat.zero_le _
    · rw [hnone]
      exact List.nodup_nil
    · rw [filter_not_drops hdrops, adds_none rfl, hnone]
      simp
  · have hsame : s.stop = s := if_neg hrun
    have hidle : ServerOp.stops s .stop = false := Bool.eq_false_iff.mpr hrun
    rw [hsame]
    exact Moves.keeps hinv (congrArg some hsame) rfl rfl rfl rfl rfl hidle

theorem setup_registry (s : HttpServer H) (call : SetupCall H) :
    (call.apply s).wsClientFds = s.wsClientFds ∧
      (call.apply s).wsClientCount = s.wsClientCount ∧ (call.apply s).sends = s.sends := by
  have hregister : ∀ (s : HttpServer H) uri ok,
      (s.registerUriHandler uri ok).wsClientFds = s.wsClientFds ∧
      (s.registerUriHandler uri ok).wsClientCount = s.wsClientCount ∧
      (s.registerUriHandler uri ok).sends = s.sends := by
    intro s uri ok
    cases ok <;> exact ⟨rfl, rfl, rfl⟩
  cases call with
  | route method path handler =>
    simp only [SetupCall.apply, HttpServer.route]
    split <;> exact ⟨rfl, rfl, rfl⟩
  | setNotFoundHandler handler => exact ⟨rfl, rfl, rfl⟩
  | start ok =>
    simp only [SetupCall.apply, HttpServer.start]
    split
    · exact ⟨rfl, rfl, rfl⟩
    · split <;> exact ⟨rfl, rfl, rfl⟩
  | ready getOk postOk putOk =>
    simp only [SetupCall.apply, HttpServer.ready]
    split
    · exact ⟨rfl, rfl, rfl⟩
    · simp only [hregister, and_self]
  | enableWebSocket path ok =>
    simp only [SetupCall.apply, HttpServer.enableWebSocket]
    split
    · exact ⟨rfl, rfl, rfl⟩
    · split <;> simp only [hregister, and_self]

theorem Moves.setup (hinv : RegistryInv s) (call : SetupCall H) :
    Moves s (.setup call) (call.apply s) := by
  obtain ⟨hfds, hcount, hsends⟩ := setup_registry s call
  refine Moves.keeps hinv rfl ?_ hcount hsends rfl rfl rfl
  rw [HttpServer.clients, hfds, hcount]
  rfl

theorem Moves.ws_handler (hinv : RegistryInv s) (method : HttpdMethod) (fd : Int)
    (received : Option WsFrame) : ∃ s', Moves s (.ws_handler method fd received) s' := by
  by_cases hset : s.instance_ = true
  · by_cases hget : method = .HTTP_GET
    · refine Moves.connect hinv ?_ (if_pos ⟨hset, hget⟩) (if_neg fun h => h.2.1 hget) rfl
      simp [ServerOp.apply, HttpServer.ws_handler, hset, hget]
    · by_cases hclose : received.map (·.type) = some .HTTPD_WS_TYPE_CLOSE
      · refine Moves.disconnect hinv ?_ (if_neg fun h => hget h.2) (if_pos ⟨hset, hget, hclose⟩) rfl
        obtain ⟨ws_pkt, rfl, htype⟩ := Option.map_eq_some_iff.mp hclose
        simp [ServerOp.apply, HttpServer.ws_handler, hset, hget, htype]
      · refine ⟨s, Moves.keeps hinv ?_ rfl rfl rfl (if_neg fun h => hget h.2)
          (if_neg fun h => hclose h.2.2) rfl⟩
        cases received with
        | none => simp [ServerOp.apply, HttpServer.ws_handler, hset, hget]
        | some ws_pkt =>
          have htype : ws_pkt.type ≠ .HTTPD_WS_TYPE_CLOSE := fun h => hclose (congrArg some h)
          simp [ServerOp.apply, HttpServer.ws_handler, hset, hget, htype]
  · refine ⟨s, Moves.keeps hinv ?_ rfl rfl rfl (if_neg fun h => hset h.1)
      (if_neg fun h => hset h.1) rfl⟩
    simp [ServerOp.apply, HttpServer.ws_handler, hset]

/-- No operation accesses the array of descriptors out of bounds, and each moves the
registry as it says. -/
theorem exists_moves (hinv : RegistryInv s) (op : ServerOp H) : ∃ s', Moves s op s' := by
  cases op with
  | setup call => exact ⟨_, Moves.setup hinv call⟩
  | stop => exact ⟨_, Moves.stop hinv⟩
  | httpd_ws_connect fd => exact Moves.connect hinv rfl rfl rfl rfl
  | httpd_ws_disconnect fd => exact Moves.disconnect hinv rfl rfl rfl rfl
  | wsBroadcast data ok => exact Moves.send hinv rfl rfl rfl rfl
  | wsPing ok => exact Moves.send hinv rfl rfl rfl rfl
  | on_close fd =>
    by_cases hset : s.instance_ = true
    · exact Moves.disconnect hinv (if_pos hset) rfl (if_pos hset) rfl
    · exact ⟨s, Moves.keeps hinv (if_neg hset) rfl rfl rfl rfl (if_neg hset) rfl⟩
  | ws_handler method fd received => exact Moves.ws_handler hinv method fd received

theorem step_moves (hinv : RegistryInv s) (op : ServerOp H) : Moves s op (step s op) := by
  obtain ⟨s', hmoves⟩ := exists_moves hinv op
  rwa [step_eq hmoves.apply]

theorem step_inv (s : HttpServer H) (op : ServerOp H) (hinv : RegistryInv s) :
    RegistryInv (step s op) := (step_moves hinv op).inv

theorem step_clients (s : HttpServer H) (op : ServerOp H) (hinv : RegistryInv s) :
    (step s op).clients = s.clients.filter (fun fd => ¬Drops s op fd) ++ (adds s op).toList :=
  (step_moves hinv op).clients

theorem runs_in_bounds (hinv : RegistryInv s) (ops : List (ServerOp H)) :
    ops.foldlM ServerOp.apply s = some (run step s ops) := by
  induction ops generalizing s with
  | nil => rfl
  | cons op ops ih =>
    rw [List.foldlM_cons, (step_moves hinv op).apply]
    exact ih (step_inv s op hinv)

theorem new_registryInv : RegistryInv (HttpServer.new : HttpServer H) :=
  ⟨Nat.zero_le _, List.nodup_nil⟩

theorem run_registryInv (ops : List (ServerOp H)) :
    RegistryInv (run step (HttpServer.new : HttpServer H) ops) :=
  (eachState_invariant RegistryInv new_registryInv ops step_inv).last

theorem apply_of_connects {fd : Int} (h : op.connects s = some fd) :
    op.apply s = s.httpd_ws_connect fd := by
  cases op with
  | httpd_ws_connect fd' =>
    obtain rfl := Option.some.inj h
    rfl
  | ws_handler method fd' received =>
    obtain ⟨⟨hset, hget⟩, hfd⟩ := Option.ite_none_right_eq_some.mp h
    obtain rfl := Option.some.inj hfd
    simp [ServerOp.apply, HttpServer.ws_handler, hset, hget]
  | setup | stop | httpd_ws_disconnect | on_close | wsBroadcast | wsPing => exact nomatch h

/-- A descriptor that connects while there is room is registered afterwards. -/
theorem mem_step_of_connects {fd : Int} (hinv : RegistryInv s) (h : op.connects s = some fd)
    (hroom : s.wsClientCount < MAX_WS_CLIENTS) : fd ∈ (step s op).clients := by
  obtain ⟨s', hs', _, _, hclients⟩ := HttpServer.connect_spec hinv.count_le fd
  rw [step_eq ((apply_of_connects h).trans hs'), hclients]
  by_cases hmem : fd ∈ s.clients
  · exact List.mem_append_left _ hmem
  · rw [if_pos ⟨hroom, hmem⟩]
    exact List.mem_append_right _ (List.mem_singleton_self fd)

/-- In every run from a new server no access is out of bounds, the clients are distinct and
no more than there is room for, they are those that were added and not dropped since, in
the order of their addition, and these are all that connected while there was room. -/
theorem registry_of_run (ops : List (ServerOp H)) :
    let s := run step (HttpServer.new : HttpServer H) ops
    ops.foldlM ServerOp.apply HttpServer.new = some s ∧
      s.wsClientCount ≤ MAX_WS_CLIENTS ∧ s.clients.length = s.wsClientCount ∧
      s.clients.Nodup ∧ s.clients = survivors step adds Drops HttpServer.new ops ∧
      ∀ fd, fd ∈ s.clients ↔ ∃ pre op post, ops = pre ++ op :: post ∧
        op.connects (run step HttpServer.new pre) = some fd ∧
        (run step HttpServer.new pre).wsClientCount < MAX_WS_CLIENTS ∧
        Stays step Drops fd (step (run step HttpServer.new pre) op) post := by
  intro s
  have hinv : RegistryInv s := run_registryInv ops
  have hsurvivors : s.clients = survivors step adds Drops HttpServer.new ops :=
    content_run step_inv step_clients new_registryInv ops
  refine ⟨runs_in_bounds new_registryInv ops, hinv.count_le, HttpServer.clients_length hinv.count_le,
    hinv.nodup, hsurvivors, ?_⟩
  intro fd
  constructor
  · intro hmem
    rw [hsurvivors, mem_survivors] at hmem
    obtain ⟨pre, op, post, heq, hadds, hstays⟩ := hmem
    obtain ⟨hconnects, hnew⟩ := Option.filter_eq_some_iff.mp hadds
    exact ⟨pre, op, post, heq, hconnects, (of_decide_eq_true hnew).1, hstays⟩
  · intro h
    obtain ⟨pre, op, post, heq, hconnects, hroom, hstays⟩ := h
    have hpre : RegistryInv (run step HttpServer.new pre) := run_registryInv pre
    have hadded := mem_step_of_connects hpre hconnects hroom
    have hrun : s = run step (step (run step HttpServer.new pre) op) post := by
      rw [← run_cons, ← run_append, ← heq]
    rw [hrun]
    exact mem_run_of_stays step_inv step_clients (step_inv _ op hpre) hadded hstays

end ServerOp

section Example

/-- A close that comes after the stop of the server drops nobody. -/
theorem close_after_stop_ignored :
    5 ∈ (run ServerOp.step (HttpServer.new : HttpServer Unit)
      ([.setup (.start true), .stop, .httpd_ws_connect 5] ++ [.on_close 5])).clients := by
  decide

example : (run ServerOp.step (HttpServer.new : HttpServer Unit)
    [.setup (.start true), .httpd_ws_connect 5, .httpd_ws_connect 7, .on_close 5]).clients =
      [7] := by decide

end Example
end UngulaNet.Http
