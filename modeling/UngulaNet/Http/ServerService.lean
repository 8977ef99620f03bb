import UngulaNet.Foundation.Outputs
import UngulaNet.Http.RouteDispatch
import UngulaNet.Http.WsRegistry

/-!
# The service that a server gives

What a server is for: who answers a method and a path. `Service` says it as functions of
the two. Every run of the server's calls, with stops, restarts and WebSocket traffic in any
order and however httpd answers, gives the service that the run of `Service` describes.
-/

namespace UngulaNet.Http
open Runs
set_option autoImplicit false

inductive Answer (H : Type) where
  | nobody
  | webSocket
  | notFound
  | handler (h : H)

/-- `table` is set once for a method and a path, by the first route with both; `spare` is
how many routes there is room for. -/
structure Service (H : Type) where
  running : Bool := false
  spare : Nat := MAX_ROUTES
  table : Method → CString → Option (Option H) := fun _ _ => none
  fallback : Option H := none
  catches : Method → Bool := fun _ => false
  sockets : CString → Bool := fun _ => false

namespace Service
variable {H : Type}

def addRoute (v : Service H) (method : Method) (path : CString) (handler : Option H) : Service H :=
  if v.spare = 0 then v
  else { v with
    spare := v.spare - 1,
    table := fun m p => (v.table m p).or (if method = m ∧ path = p then some handler else none) }

def addCatchAll (v : Service H) (method : Method) (ok : Bool) : Service H :=
  { v with catches := fun m => v.catches m || (decide (method = m) && ok) }

/-- A WebSocket path that comes after the catch-all for GET is never reached. -/
def addSocket (uriMatch : CString → CString → Bool) (v : Service H) (path : CString) : Service H :=
  { v with sockets := fun p => v.sockets p || (!v.catches .GET && uriMatch path p) }

def apply (uriMatch : CString → CString → Bool) (v : Service H) : ServerOp H → Service H
  | .setup (.route method path handler) => v.addRoute method path handler
  | .setup (.setNotFoundHandler handler) => { v with fallback := handler }
  | .setup (.start ok) => if ok then { v with running := true } else v
  | .setup (.ready getOk postOk putOk) =>
    if v.running then
      ((v.addCatchAll .GET getOk).addCatchAll .POST postOk).addCatchAll .PUT putOk
    else v
  | .setup (.enableWebSocket path ok) =>
    if v.running ∧ ok then v.addSocket uriMatch path else v
  | .stop => { v with running := false, catches := fun _ => false, sockets := fun _ => false }
  | _ => v

/-- Whom httpd chooses. -/
def picks (v : Service H) (m : Method) (path : CString) : Option UriHandler :=
  if m = .GET ∧ v.sockets path then some .ws_handler
  else if v.catches m then some .generic_handler
  else none

def lookup (v : Service H) (m : Method) (path : CString) : Option H :=
  ((v.table m path).bind id).or v.fallback

/-- The table has the paths as far as `char path[128]` holds them. -/
def dispatch (v : Service H) (m : Method) (path : CString) : Answer H :=
  match v.lookup m (path.take 127) with
  | none => .notFound
  | some h => .handler h

def answer (v : Service H) (m : Method) (path : CString) : Answer H :=
  match v.picks m path with
  | none => .nobody
  | some .ws_handler => .webSocket
  | some .generic_handler => v.dispatch m path

end Service

section Refinement
variable {H : Type} {uriMatch : CString → CString → Bool}

/-- The server gives the service. -/
structure Gives (uriMatch : CString → CString → Bool) (s : HttpServer H) (v : Service H) :
    Prop where
  impl : s.impl = v.running
  instance_ : s.instance_ = v.running
  idle : v.running = false → s.handlers = []
  spare : s.routes.length + v.spare = MAX_ROUTES
  table : ∀ m p, (s.routes.find? fun r => r.method = m ∧ r.path = p).map (·.handler) = v.table m p
  fallback : s.notFoundHandler = v.fallback
  picks : ∀ m path, path.val.head? = some 47 →
    (s.handlers.find? fun u => u.method = m.toHttpd ∧ uriMatch u.uri path = true).map (·.handler) =
      v.picks m path
  deletes : v.catches .DELETE_ = false

theorem gives_new : Gives uriMatch (HttpServer.new : HttpServer H) {} where
  impl := rfl
  instance_ := rfl
  idle _ := rfl
  spare := rfl
  table _ _ := rfl
  fallback := rfl
  picks _ _ _ := by simp [Service.picks, HttpServer.new]
  deletes := rfl

/-- Nothing that a request depends on differs. -/
structure SameService (s s' : HttpServer H) : Prop where
  impl : s'.impl = s.impl
  instance_ : s'.instance_ = s.instance_
  handlers : s'.handlers = s.handlers
  routes : s'.routes = s.routes
  notFoundHandler : s'.notFoundHandler = s.notFoundHandler

theorem SameService.refl (s : HttpServer H) : SameService s s := ⟨rfl, rfl, rfl, rfl, rfl⟩

theorem HttpServer.SameButClients.sameService {s s' : HttpServer H} (h : s.SameButClients s') :
    SameService s s' := by
  rw [HttpServer.SameButClients] at h
  rw [h]
  exact ⟨rfl, rfl, rfl, rfl, rfl⟩

theorem Gives.same {s s' : HttpServer H} {v : Service H} (h : Gives uriMatch s v)
    (hsame : SameService s s') : Gives uriMatch s' v where
  impl := hsame.impl.trans h.impl
  instance_ := hsame.instance_.trans h.instance_
  idle hstopped := hsame.handlers.trans (h.idle hstopped)
  spare := by rw [hsame.routes]; exact h.spare
  table := by rw [hsame.routes]; exact h.table
  fallback := hsame.notFoundHandler.trans h.fallback
  picks := by rw [hsame.handlers]; exact h.picks
  deletes := h.deletes

/-! ## Setting up -/

theorem Gives.route {s : HttpServer H} {v : Service H} (h : Gives uriMatch s v) (method : Method)
    (path : CString) (handler : Option H) :
    Gives uriMatch (s.route method path handler) (v.addRoute method path handler) := by
  have hspare := h.spare
  unfold HttpServer.route Service.addRoute
  by_cases hfull : s.routes.length ≥ MAX_ROUTES
  · rw [if_pos hfull, if_pos (by omega)]
    exact h
  · rw [if_neg hfull, if_neg (by omega)]
    refine { h with spare := ?_, table := fun m p => ?_ }
    · simp only [List.length_append, List.length_singleton]
      omega
    · have htable := h.table m p
      simp only [List.find?_append, ← htable]
      cases s.routes.find? fun r => r.method = m ∧ r.path = p with
      | some r => rfl
      | none => by_cases hnew : method = m ∧ path = p <;> simp [hnew]

theorem Gives.start {s : HttpServer H} {v : Service H} (h : Gives uriMatch s v) (ok : Bool) :
    Gives uriMatch (s.start ok) (v.apply uriMatch (.setup (.start ok))) := by
  have himpl := h.impl
  unfold HttpServer.start
  cases hrunning : v.running with
  | true =>
    have hsame : v.apply uriMatch (.setup (.start ok)) = v := by
      cases ok <;> simp [Service.apply, ← hrunning]
    rw [if_pos (himpl.trans hrunning), hsame]
    exact h
  | false =>
    rw [if_neg (by rw [himpl, hrunning]; exact Bool.false_ne_true)]
    cases ok with
    | false => exact h
    | true =>
      -- a server that is stopped has no handlers to lose
      have hpicks := h.picks
      rw [h.idle hrunning] at hpicks
      exact { h with impl := rfl, instance_ := rfl, idle := fun _ => rfl, picks := hpicks }

/-- One more handler is asked where the others do not match. -/
theorem Gives.register {s : HttpServer H} {v : Service H} {u : HttpdUri}
    {catches : Method → Bool} {sockets : CString → Bool} (h : Gives uriMatch s v)
    (hrunning : v.running = true) (hdeletes : catches .DELETE_ = false)
    (hpicks : ∀ m path, path.val.head? = some 47 → (v.picks m path).or
      (if u.method = m.toHttpd ∧ uriMatch u.uri path = true then some u.handler else none) =
        Service.picks { v with catches := catches, sockets := sockets } m path) :
    Gives uriMatch { s with handlers := s.handlers ++ [u] }
      { v with catches := catches, sockets := sockets } where
  impl := h.impl
  instance_ := h.instance_
  idle hstopped := nomatch hrunning.symm.trans hstopped
  spare := h.spare
  table := h.table
  fallback := h.fallback
  deletes := hdeletes
  picks m path hslash := by
    rw [← hpicks m path hslash, ← h.picks m path hslash]
    simp only [List.find?_append]
    cases s.handlers.find? fun u => u.method = m.toHttpd ∧ uriMatch u.uri path = true with
    | some u => rfl
    | none =>
      by_cases hmatch : u.method = m.toHttpd ∧ uriMatch u.uri path = true <;> simp [hmatch]

theorem toHttpd_inj {m m' : Method} : m.toHttpd = m'.toHttpd ↔ m = m' := by
  cases m <;> cases m' <;> simp [Method.toHttpd]

theorem Gives.registerCatchAll {s : HttpServer H} {v : Service H} (h : Gives uriMatch s v)
    (hwild : ∀ path : CString, path.val.head? = some 47 →
      uriMatch HttpServer.wildcard path = true)
    (hrunning : v.running = true) (method : Method) (hmethod : method ≠ .DELETE_) (ok : Bool) :
    Gives uriMatch (s.registerUriHandler
      { uri := HttpServer.wildcard, method := method.toHttpd, handler := .generic_handler } ok)
      (v.addCatchAll method ok) := by
  cases ok with
  | false =>
    have hsame : v.addCatchAll method false = v := by simp [Service.addCatchAll]
    rw [hsame]
    exact h
  | true =>
    refine h.register hrunning ?_ ?_
    · simp [h.deletes, hmethod]
    · intro m path hslash
      simp only [hwild path hslash, toHttpd_inj, Service.picks]
      by_cases hsocket : m = .GET ∧ v.sockets path = true
      · simp [hsocket]
      · by_cases heq : method = m <;> by_cases hcatch : v.catches m = true <;>
          simp [hsocket, heq, hcatch]

theorem Gives.ready {s : HttpServer H} {v : Service H} (h : Gives uriMatch s v)
    (hwild : ∀ path : CString, path.val.head? = some 47 →
      uriMatch HttpServer.wildcard path = true) (getOk postOk putOk : Bool) :
    Gives uriMatch (s.ready getOk postOk putOk)
      (v.apply uriMatch (.setup (.ready getOk postOk putOk))) := by
  have himpl := h.impl
  rw [HttpServer.ready, Service.apply]
  cases hrunning : v.running with
  | false =>
    rw [if_pos (by simp [himpl, hrunning]), if_neg Bool.false_ne_true]
    exact h
  | true =>
    rw [if_neg (by simp [himpl, hrunning]), if_pos rfl]
    have hget := h.registerCatchAll hwild hrunning .GET (by decide) getOk
    have hpost := hget.registerCatchAll hwild hrunning .POST (by decide) postOk
    exact hpost.registerCatchAll hwild hrunning .PUT (by decide) putOk

theorem Gives.enableWebSocket {s : HttpServer H} {v : Service H} (h : Gives uriMatch s v)
    (path : CString) (ok : Bool) : Gives uriMatch (s.enableWebSocket path ok).2
      (v.apply uriMatch (.setup (.enableWebSocket path ok))) := by
  have himpl := h.impl
  rw [HttpServer.enableWebSocket, Service.apply]
  cases hrunning : v.running with
  | false =>
    rw [if_pos (by simp [himpl, hrunning]), if_neg (by simp)]
    exact h
  | true =>
    rw [if_neg (by simp [himpl, hrunning])]
    cases ok with
    | false =>
      rw [if_neg (by simp)]
      exact h
    | true =>
      have hboth : true = true ∧ true = true := ⟨rfl, rfl⟩
      rw [if_pos hboth]
      have hregistered : Gives uriMatch { s with handlers := s.handlers ++ [wsUri path] }
          (v.addSocket uriMatch path) := by
        refine h.register hrunning h.deletes ?_
        intro m p hslash
        cases m <;> cases hsocket : v.sockets p <;> cases hcatch : v.catches .GET <;>
          cases hmatch : uriMatch path p <;>
            simp [Service.picks, wsUri, Method.toHttpd, hsocket, hcatch, hmatch]
      exact hregistered.same ⟨rfl, rfl, rfl, rfl, rfl⟩

/-! ## Traffic -/

theorem SameService.connect {s : HttpServer H} (h : ServerOp.RegistryInv s) (fd : Int) :
    SameService s ((s.httpd_ws_connect fd).getD s) := by
  obtain ⟨s', hrun, hsame, _⟩ := HttpServer.connect_spec h.count_le fd
  rw [hrun]
  exact hsame.sameService

theorem SameService.disconnect {s : HttpServer H} (h : ServerOp.RegistryInv s) (fd : Int) :
    SameService s ((s.httpd_ws_disconnect fd).getD s) := by
  obtain ⟨s', hrun, hsame, _⟩ := HttpServer.disconnect_spec h.count_le fd
  rw [hrun]
  exact hsame.sameService

theorem SameService.send {s : HttpServer H} (h : ServerOp.RegistryInv s) (frame : WsFrame)
    (ok : Nat → Int → Bool) : SameService s (((s.wsSend frame ok).map Prod.snd).getD s) := by
  cases hrun : s.impl with
  | false =>
    have hnone : s.wsSend frame ok = some (0, s) := if_pos (by simp [hrun])
    rw [hnone]
    exact .refl s
  | true =>
    obtain ⟨calls, s', hsend, hsent⟩ := HttpServer.wsSend_spec frame ok h.count_le h.nodup hrun
    have hsame := hsent.frame_eq.sameService
    rw [hsend]
    exact ⟨hsame.impl, hsame.instance_, hsame.handlers, hsame.routes, hsame.notFoundHandler⟩

/-- The operations that neither set up nor stop the server. -/
def IsTraffic : ServerOp H → Prop
  | .setup _ | .stop => False
  | _ => True

theorem SameService.traffic {s : HttpServer H} (h : ServerOp.RegistryInv s) {op : ServerOp H}
    (htraffic : IsTraffic op) : SameService s (ServerOp.step s op) := by
  cases op with
  | setup | stop => exact htraffic.elim
  | httpd_ws_connect fd => exact .connect h fd
  | httpd_ws_disconnect fd => exact .disconnect h fd
  | wsBroadcast data ok => exact .send h _ ok
  | wsPing ok => exact .send h _ ok
  | on_close fd =>
    rw [ServerOp.step, ServerOp.apply, HttpServer.on_close]
    split
    · exact .disconnect h fd
    · exact .refl s
  | ws_handler method fd received =>
    rw [ServerOp.step, ServerOp.apply, HttpServer.ws_handler.eq_def]
    split
    · exact .refl s
    · split
      · exact .connect h fd
      · split
        · exact .refl s
        · split
          · exact .disconnect h fd
          · exact .refl s

/-! ## Runs -/

theorem Gives.stop {s : HttpServer H} {v : Service H} (h : Gives uriMatch s v) :
    Gives uriMatch s.stop (v.apply uriMatch .stop) := by
  have hnobody : ∀ m path, Service.picks
      { v with running := false, catches := fun _ => false, sockets := fun _ => false } m path =
        none := fun m path => by simp [Service.picks]
  unfold HttpServer.stop
  cases himpl : s.impl with
  | true =>
    rw [if_pos rfl]
    exact { h with
      impl := rfl, instance_ := rfl, idle := fun _ => rfl, deletes := rfl,
      picks := fun m path _ => (hnobody m path).symm }
  | false =>
    rw [if_neg Bool.false_ne_true]
    have hstopped : v.running = false := h.impl.symm.trans himpl
    have hnone := h.idle hstopped
    exact { h with
      impl := himpl, instance_ := h.instance_.trans hstopped, idle := fun _ => hnone,
      deletes := rfl,
      picks := fun m path _ => by rw [hnone]; exact (hnobody m path).symm }

theorem Gives.step {s : HttpServer H} {v : Service H} (h : Gives uriMatch s v)
    (hinv : ServerOp.RegistryInv s) (hwild : ∀ path : CString, path.val.head? = some 47 →
      uriMatch HttpServer.wildcard path = true) (op : ServerOp H) :
    Gives uriMatch (ServerOp.step s op) (v.apply uriMatch op) := by
  cases op with
  | setup call =>
    cases call with
    | route method path handler => exact h.route method path handler
    | setNotFoundHandler handler => exact { h with fallback := rfl }
    | start ok => exact h.start ok
    | ready getOk postOk putOk => exact h.ready hwild getOk postOk putOk
    | enableWebSocket path ok => exact h.enableWebSocket path ok
  | stop => exact h.stop
  | httpd_ws_connect | httpd_ws_disconnect | ws_handler | on_close | wsBroadcast | wsPing =>
    exact h.same (.traffic hinv trivial)

def service (uriMatch : CString → CString → Bool) (ops : List (ServerOp H)) : Service H :=
  run (Service.apply uriMatch) {} ops

def serverAfter (ops : List (ServerOp H)) : HttpServer H := run ServerOp.step .new ops

theorem gives_run (hwild : ∀ path : CString, path.val.head? = some 47 →
      uriMatch HttpServer.wildcard path = true) (ops : List (ServerOp H)) :
    Gives uriMatch (serverAfter ops) (service uriMatch ops) := by
  have hrelated : ServerOp.RegistryInv (run ServerOp.step (.new : HttpServer H) ops) ∧
      Gives uriMatch (serverAfter ops) (service uriMatch ops) :=
    run_related (R := fun s v => ServerOp.RegistryInv s ∧ Gives uriMatch s v)
      (fun s _ op h => ⟨ServerOp.step_inv s op h.1, h.2.step h.1 hwild op⟩)
      ⟨ServerOp.new_registryInv, gives_new⟩ ops
  exact hrelated.2

/-- The answer is given, and a handler is handed the request. -/
inductive Answers (m : Method) (req : HttpdReq) : Option (Served H) → Answer H → Prop where
  | nobody : Answers m req (some .unhandled) .nobody
  | webSocket : Answers m req (some .webSocket) .webSocket
  | notFound : Answers m req (some (.handled .notFound)) .notFound
  | handler (h : H) (http_req : HttpRequest) (handed : HandedOver m req http_req) :
    Answers m req (some (.handled (.invoked h http_req))) (.handler h)

theorem Gives.handlerFor {s : HttpServer H} {v : Service H} (h : Gives uriMatch s v) (m : Method)
    (path : CString) : s.handlerFor m path = v.lookup m path := by
  rw [HttpServer.handlerFor, Service.lookup, ← h.table, h.fallback]
  cases s.routes.find? fun r => r.method = m ∧ r.path = path <;> rfl

theorem Gives.handles {s : HttpServer H} {v : Service H} (h : Gives uriMatch s v) {m : Method}
    {req : HttpdReq} (hmethod : req.method = m.toHttpd) (hrunning : v.running = true) :
    (v.lookup m ((uriPath req.uri).take 127) = none ∧ s.generic_handler req = some .notFound) ∨
      ∃ h http_req, v.lookup m ((uriPath req.uri).take 127) = some h ∧
        s.generic_handler req = some (.invoked h http_req) ∧ HandedOver m req http_req := by
  have hspec := generic_handler_spec (h.instance_.trans hrunning) hmethod
  rwa [h.handlerFor, requestPath_eq] at hspec

theorem Gives.answers {s : HttpServer H} {v : Service H} (h : Gives uriMatch s v) {m : Method}
    {req : HttpdReq} (hmethod : req.method = m.toHttpd)
    (hslash : (uriPath req.uri).val.head? = some 47) :
    Answers m req (s.serve uriMatch req) (v.answer m (uriPath req.uri)) := by
  have hpicks := h.picks m (uriPath req.uri) hslash
  rw [HttpServer.serve, httpd_find_uri_handler, hmethod, Service.answer, ← hpicks]
  cases hfind : s.handlers.find? fun u =>
      u.method = m.toHttpd ∧ uriMatch u.uri (uriPath req.uri) = true with
  | none => exact .nobody
  | some u =>
    -- httpd has a handler, so the server runs
    have hrunning : v.running = true := by
      by_contra hstopped
      rw [h.idle (Bool.eq_false_iff.mpr hstopped)] at hfind
      exact Option.some_ne_none u hfind.symm
    rw [Option.map_some]
    dsimp only
    cases u.handler with
    | ws_handler => exact .webSocket
    | generic_handler =>
      dsimp only [Service.dispatch]
      rcases h.handles hmethod hrunning with ⟨hnone, hrun⟩ | ⟨h', http_req, hsome, hrun, hover⟩
      · rw [hnone, hrun]
        exact .notFound
      · rw [hsome, hrun]
        exact .handler h' http_req hover

/-- Whatever calls a server has had, a request with one of its methods is answered as the
service says. -/
theorem service_of_run (hwild : ∀ path : CString, path.val.head? = some 47 →
      uriMatch HttpServer.wildcard path = true) (ops : List (ServerOp H)) {m : Method}
    {req : HttpdReq} (hmethod : req.method = m.toHttpd)
    (hslash : (uriPath req.uri).val.head? = some 47) :
    Answers m req ((serverAfter ops).serve uriMatch req)
      ((service uriMatch ops).answer m (uriPath req.uri)) :=
  (gives_run hwild ops).answers hmethod hslash

/-! ## Restarts -/

theorem Service.run_traffic {traffic : List (ServerOp H)} (h : ∀ op ∈ traffic, IsTraffic op)
    (v : Service H) : run (Service.apply uriMatch) v traffic = v := by
  induction traffic generalizing v with
  | nil => rfl
  | cons op traffic ih =>
    have hsame : v.apply uriMatch op = v := by
      have htraffic := h op List.mem_cons_self
      cases op with
      | setup | stop => exact htraffic.elim
      | httpd_ws_connect | httpd_ws_disconnect | ws_handler | on_close | wsBroadcast | wsPing => rfl
    rw [run_cons, hsame]
    exact ih (fun op' hop' => h op' (List.mem_cons_of_mem op hop')) v

/-- A stop, what the sockets do while the server is down, and a new start. -/
def restart (traffic : List (ServerOp H)) : List (ServerOp H) :=
  .stop :: (traffic ++ [.setup (.start true), .setup (.ready true true true)])

/-- The service forgets its WebSocket paths, and nothing else. -/
theorem service_restart {traffic : List (ServerOp H)} (h : ∀ op ∈ traffic, IsTraffic op)
    (ops : List (ServerOp H)) : service uriMatch (ops ++ restart traffic) =
      { service uriMatch ops with
        running := true, catches := fun m => m ≠ .DELETE_, sockets := fun _ => false } := by
  rw [service, run_append, restart, run_cons, run_append, Service.run_traffic h, service]
  simp only [run_cons, run_nil, Service.apply, if_true, Service.addCatchAll]
  congr 1
  funext m
  cases m <;> rfl

/-- After a restart every GET, POST and PUT is answered from the routes and the not-found
handler of all the calls before it, also one that a WebSocket took then. -/
theorem restart_keeps_routes (hwild : ∀ path : CString, path.val.head? = some 47 →
      uriMatch HttpServer.wildcard path = true) (ops : List (ServerOp H))
    {traffic : List (ServerOp H)} (h : ∀ op ∈ traffic, IsTraffic op) {m : Method}
    (hserved : m ≠ .DELETE_) {req : HttpdReq} (hmethod : req.method = m.toHttpd)
    (hslash : (uriPath req.uri).val.head? = some 47) :
    Answers m req ((serverAfter (ops ++ restart traffic)).serve uriMatch req)
      ((service uriMatch ops).dispatch m (uriPath req.uri)) := by
  have hanswer := (gives_run hwild (ops ++ restart traffic)).answers hmethod hslash
  have hpicks : (service uriMatch (ops ++ restart traffic)).picks m (uriPath req.uri) =
      some .generic_handler := by
    rw [service_restart h, Service.picks]
    simp [hserved]
  rw [Service.answer, hpicks, service_restart h] at hanswer
  exact hanswer

end Refinement

section Example

/-- A route, and a WebSocket on its path. -/
def socketOnRoute : List (ServerOp Nat) :=
  [.setup (.route .GET pathA (some 1)), .setup (.start true),
    .setup (.enableWebSocket pathA true), .setup (.ready true true true)]

theorem socketOnRoute_served :
    Answers .GET { method := .HTTP_GET, uri := uriAQuery }
      ((serverAfter socketOnRoute).serve simUriMatch { method := .HTTP_GET, uri := uriAQuery })
      .webSocket :=
  service_of_run simUriMatch_wildcard socketOnRoute (m := .GET) rfl (by decide)

theorem socketOnRoute_restarted :
    Answers .GET { method := .HTTP_GET, uri := uriAQuery }
      ((serverAfter (socketOnRoute ++ restart [.on_close 5])).serve simUriMatch
        { method := .HTTP_GET, uri := uriAQuery }) (.handler 1) :=
  restart_keeps_routes simUriMatch_wildcard socketOnRoute
    (by simp [IsTraffic]) (m := .GET) (by decide) rfl (by decide)

/-- Enabled after the catch-alls, the WebSocket is never reached. -/
example : (service simUriMatch [.setup (.route .GET pathA (some 1)), .setup (.start true),
    .setup (.ready true true true), .setup (.enableWebSocket pathA true)]).answer .GET pathA =
      .handler 1 := rfl

end Example
end UngulaNet.Http
