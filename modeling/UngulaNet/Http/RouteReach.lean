import UngulaNet.Foundation.Runs
import UngulaNet.Http.HttpServer

/-!
# From a request to a route

A request first goes through httpd's own handlers, in the order of their registration, and
only then to the route table. `ready` registers a catch-all for GET, POST and PUT; the
table and `generic_handler` know DELETE as well.
-/

namespace UngulaNet.Http
open Runs
set_option autoImplicit false

variable {H : Type}

/-- The path of a URI, which httpd matches against the templates. -/
def uriPath (uri : CString) : CString := uri.take ((uri.strchr 63).getD uri.val.length)

/-- httpd's choice: the first handler registered whose template and method match. -/
def httpd_find_uri_handler (uriMatch : CString → CString → Bool) (handlers : List HttpdUri)
    (req : HttpdReq) : Option HttpdUri :=
  handlers.find? fun u => u.method = req.method ∧ uriMatch u.uri (uriPath req.uri) = true

/-- Who gets a request. -/
inductive Served (H : Type) where
  | unhandled
  | webSocket
  | handled (result : HttpServer.Handled H)

def HttpServer.serve (uriMatch : CString → CString → Bool) (s : HttpServer H) (req : HttpdReq) :
    Option (Served H) :=
  match httpd_find_uri_handler uriMatch s.handlers req with
  | none => some .unhandled
  | some u =>
    match u.handler with
    | .ws_handler => some .webSocket
    | .generic_handler => (s.generic_handler req).map .handled

def Method.toHttpd : Method → HttpdMethod
  | .GET => .HTTP_GET
  | .POST => .HTTP_POST
  | .PUT => .HTTP_PUT
  | .DELETE_ => .HTTP_DELETE

theorem toMethod_toHttpd (m : Method) : HttpServer.toMethod m.toHttpd = some m := by
  cases m <;> rfl

/-- The URI is the path, with or without a query after it. -/
def HasPath (uri path : CString) : Prop :=
  uri = path ∨ ∃ query, uri.val = path.val ++ 63 :: query

/-- What a route path has to be. -/
structure RoutePath (path : CString) : Prop where
  slash : path.val.head? = some 47
  short : path.val.length < 128
  plain : 63 ∉ path.val

section Path
variable {uri path : CString}

theorem HasPath.strchr (h : HasPath uri path) (hplain : 63 ∉ path.val) :
    (uri.strchr 63 = none ∧ uri = path) ∨
      (uri.strchr 63 = some path.val.length ∧ uri.take path.val.length = path) := by
  rcases h with heq | ⟨query, heq⟩
  · exact Or.inl ⟨CString.strchr_none (heq ▸ hplain), heq⟩
  · refine Or.inr ⟨CString.strchr_append heq hplain, ?_⟩
    exact Subtype.ext (by simp [CString.take, CString.sublist, heq])

theorem HasPath.requestPath (h : HasPath uri path) (hpath : RoutePath path) :
    HttpServer.requestPath uri = path := by
  have hshort := hpath.short
  unfold HttpServer.requestPath
  rcases h.strchr hpath.plain with ⟨hnone, heq⟩ | ⟨hsome, htake⟩
  · rw [hnone, heq]
    exact Subtype.ext (List.take_of_length_le (by omega))
  · rw [hsome]
    dsimp only
    rw [if_neg (by omega), htake]

theorem HasPath.uriPath (h : HasPath uri path) (hplain : 63 ∉ path.val) :
    Http.uriPath uri = path := by
  unfold Http.uriPath
  rcases h.strchr hplain with ⟨hnone, heq⟩ | ⟨hsome, htake⟩
  · rw [hnone, heq]
    exact Subtype.ext (List.take_of_length_le (Nat.le_refl _))
  · rw [hsome]
    exact htake

end Path

/-! ## The run of the set-up calls -/

/-- The routes that the calls register, in order. -/
def routeCalls (calls : List (SetupCall H)) : List (Route H) :=
  calls.filterMap fun call =>
    match call with
    | .route method path handler => some { method := method, path := path, handler := handler }
    | _ => none

/-- The WebSocket templates that the calls register with a running httpd. -/
def webSockets (calls : List (SetupCall H)) : List CString :=
  calls.filterMap fun call =>
    match call with
    | .enableWebSocket path true => some path
    | _ => none

theorem routeCalls_append (calls calls' : List (SetupCall H)) :
    routeCalls (calls ++ calls') = routeCalls calls ++ routeCalls calls' := by
  simp only [routeCalls, List.filterMap_append]

theorem webSockets_append (calls calls' : List (SetupCall H)) :
    webSockets (calls ++ calls') = webSockets calls ++ webSockets calls' := by
  simp only [webSockets, List.filterMap_append]

/-- The calls that may come between the start and `ready`, and before and after them. -/
def Registers : SetupCall H → Prop
  | .start _ | .ready _ _ _ => False
  | _ => True

def wsUri (path : CString) : HttpdUri :=
  { uri := path, method := .HTTP_GET, handler := .ws_handler, is_websocket := true }

def catchAll (method : HttpdMethod) (ok : Bool) : List HttpdUri :=
  if ok then [{ uri := HttpServer.wildcard, method := method, handler := .generic_handler }]
  else []

/-- What a stretch of registrations does. -/
structure Registered (s : HttpServer H) (calls : List (SetupCall H)) (s' : HttpServer H) :
    Prop where
  impl : s'.impl = s.impl
  instance_ : s'.instance_ = s.instance_
  routes : s.routes.length + (routeCalls calls).length ≤ MAX_ROUTES →
    s'.routes = s.routes ++ routeCalls calls
  handlers : s'.handlers = s.handlers ++
    if s.impl then (webSockets calls).map wsUri else []

theorem Registered.keeps {s s' : HttpServer H} {call : SetupCall H}
    (hroute : routeCalls [call] = []) (hsocket : s.impl = true → webSockets [call] = [])
    (himpl : s'.impl = s.impl) (hinstance : s'.instance_ = s.instance_)
    (hroutes : s'.routes = s.routes) (hhandlers : s'.handlers = s.handlers) :
    Registered s [call] s' := by
  refine ⟨himpl, hinstance, fun _ => ?_, ?_⟩
  · rw [hroute, hroutes, List.append_nil]
  · rw [hhandlers]
    split
    · rename_i hrun
      rw [hsocket hrun, List.map_nil, List.append_nil]
    · rw [List.append_nil]

theorem registered_step (s : HttpServer H) {call : SetupCall H} (h : Registers call) :
    Registered s [call] (call.apply s) := by
  cases call with
  | start | ready => exact absurd h id
  | setNotFoundHandler handler => exact Registered.keeps rfl (fun _ => rfl) rfl rfl rfl rfl
  | route method path handler =>
    simp only [SetupCall.apply, HttpServer.route]
    split
    · rename_i hfull
      refine ⟨rfl, rfl, fun hroom => ?_, by simp [webSockets]⟩
      have hone : (routeCalls [SetupCall.route method path handler]).length = 1 := rfl
      omega
    · exact ⟨rfl, rfl, fun _ => rfl, by simp [webSockets]⟩
  | enableWebSocket path ok =>
    simp only [SetupCall.apply, HttpServer.enableWebSocket]
    cases hrun : s.impl with
    | false =>
      exact Registered.keeps rfl (fun h => absurd (hrun.symm.trans h) Bool.false_ne_true)
        rfl rfl rfl rfl
    | true =>
      cases ok with
      | false => exact Registered.keeps rfl (fun _ => rfl) rfl rfl rfl rfl
      | true => exact ⟨rfl, rfl, fun _ => (List.append_nil _).symm, by rw [hrun]; rfl⟩

theorem registered_run (s : HttpServer H) {calls : List (SetupCall H)}
    (h : ∀ call ∈ calls, Registers call) : Registered s calls (run SetupCall.apply s calls) := by
  induction calls generalizing s with
  | nil => exact ⟨rfl, rfl, fun _ => (List.append_nil _).symm, by simp [webSockets]⟩
  | cons call calls ih =>
    have hfirst := registered_step s (h call List.mem_cons_self)
    have hrest := ih (call.apply s) fun c hc => h c (List.mem_cons_of_mem _ hc)
    have hcalls : routeCalls (call :: calls) = routeCalls [call] ++ routeCalls calls :=
      routeCalls_append [call] calls
    have hsockets : webSockets (call :: calls) = webSockets [call] ++ webSockets calls :=
      webSockets_append [call] calls
    refine ⟨hrest.impl.trans hfirst.impl, hrest.instance_.trans hfirst.instance_, ?_, ?_⟩
    · intro hroom
      rw [hcalls, List.length_append] at hroom
      have hone := hfirst.routes (by omega)
      rw [run_cons, hrest.routes (by rw [hone, List.length_append]; omega), hone, hcalls,
        List.append_assoc]
    · rw [run_cons, hrest.handlers, hfirst.handlers, hfirst.impl, hsockets]
      split
      · rw [List.map_append, List.append_assoc]
      · rw [List.append_nil]

/-- A server that is set up, started, set up further, made ready, and set up further. -/
def setUp (before middle after : List (SetupCall H)) (getOk postOk putOk : Bool) : HttpServer H :=
  run SetupCall.apply HttpServer.new
    (before ++ .start true :: middle ++ .ready getOk postOk putOk :: after)

theorem ready_eq {s : HttpServer H} (h : s.impl = true) (getOk postOk putOk : Bool) :
    s.ready getOk postOk putOk = { s with
      handlers := s.handlers ++ (catchAll .HTTP_GET getOk ++ catchAll .HTTP_POST postOk ++
        catchAll .HTTP_PUT putOk) } := by
  rw [HttpServer.ready, if_neg (by simp [h])]
  cases getOk <;> cases postOk <;> cases putOk <;> simp [HttpServer.registerUriHandler, catchAll]

theorem setUp_spec {before middle after : List (SetupCall H)}
    (h : ∀ call ∈ before ++ middle ++ after, Registers call)
    (hmax : (routeCalls (before ++ middle ++ after)).length ≤ MAX_ROUTES)
    (getOk postOk putOk : Bool) :
    let s := setUp before middle after getOk postOk putOk
    s.instance_ = true ∧ s.routes = routeCalls (before ++ middle ++ after) ∧
      s.handlers = (webSockets middle).map wsUri ++
        (catchAll .HTTP_GET getOk ++ catchAll .HTTP_POST postOk ++ catchAll .HTTP_PUT putOk) ++
        (webSockets after).map wsUri := by
  intro s
  simp only [List.mem_append] at h
  have hbefore := registered_run HttpServer.new fun call hcall => h call (Or.inl (Or.inl hcall))
  generalize hs₀ : run SetupCall.apply HttpServer.new before = s₀ at hbefore
  have hstart : s₀.start true = { s₀ with impl := true, instance_ := true, handlers := [] } :=
    if_neg (by rw [hbefore.impl]; exact Bool.false_ne_true)
  have hmiddle := registered_run (s₀.start true) fun call hcall => h call (Or.inl (Or.inr hcall))
  generalize hs₂ : run SetupCall.apply (s₀.start true) middle = s₂ at hmiddle
  have hready := ready_eq (s := s₂) (by rw [hmiddle.impl, hstart]) getOk postOk putOk
  have hafter := registered_run (s₂.ready getOk postOk putOk) fun call hcall =>
    h call (Or.inr hcall)
  have hrun : s = run SetupCall.apply (s₂.ready getOk postOk putOk) after := by
    rw [← hs₂, ← hs₀]
    simp [s, setUp, run_append, SetupCall.apply]
  rw [← hrun] at hafter
  simp only [routeCalls_append, List.length_append] at hmax ⊢
  have hroutes₀ : s₀.routes = routeCalls before :=
    hbefore.routes (by simp only [HttpServer.new, List.length_nil]; omega)
  have hroutes₂ : s₂.routes = routeCalls before ++ routeCalls middle := by
    rw [hmiddle.routes (by rw [hstart, hroutes₀]; omega), hstart, hroutes₀]
  refine ⟨?_, ?_, ?_⟩
  · rw [hafter.instance_, hready, hmiddle.instance_, hstart]
  · rw [hafter.routes (by rw [hready, hroutes₂, List.length_append]; omega), hready, hroutes₂]
  · rw [hafter.handlers, hready, hmiddle.handlers, hmiddle.impl, hstart]
    rfl

/-! ## The dispatch of a request -/

/-- The catch-all of the method takes the path: it was accepted, and no WebSocket template
registered before it matches. There is none for DELETE. -/
def CatchAllTakes (uriMatch : CString → CString → Bool) (templates : List CString)
    (getOk postOk putOk : Bool) : Method → CString → Prop
  | .GET, path => getOk = true ∧ ∀ template ∈ templates, uriMatch template path = false
  | .POST, _ => postOk = true
  | .PUT, _ => putOk = true
  | .DELETE_, _ => False

section Dispatch
variable {uriMatch : CString → CString → Bool} {method : HttpdMethod} {path : CString}

theorem find_wsUri_handler {templates : List CString} {p : HttpdUri → Bool} {u : HttpdUri}
    (h : (templates.map wsUri).find? p = some u) : u.handler = .ws_handler := by
  obtain ⟨template, _, rfl⟩ := List.mem_map.mp (List.mem_of_find?_eq_some h)
  rfl

theorem find_wsUri_none {templates : List CString} :
    (templates.map wsUri).find? (fun u => u.method = method ∧ uriMatch u.uri path = true) = none ↔
      (method = .HTTP_GET → ∀ template ∈ templates, uriMatch template path = false) := by
  simp only [List.find?_eq_none, List.mem_map, forall_exists_index, and_imp,
    forall_apply_eq_imp_iff₂, wsUri, decide_eq_true_eq, not_and, Bool.not_eq_true]
  constructor
  · intro h hget template hmem
    exact h template hmem hget.symm
  · intro h template hmem hget
    exact h hget.symm template hmem

theorem find_catchAll (hwild : uriMatch HttpServer.wildcard path = true) (m : HttpdMethod)
    (ok : Bool) : (catchAll m ok).find? (fun u => u.method = method ∧ uriMatch u.uri path = true) =
      if ok = true ∧ m = method then
        some { uri := HttpServer.wildcard, method := m, handler := .generic_handler }
      else none := by
  cases ok with
  | false => simp [catchAll]
  | true => by_cases h : m = method <;> simp [catchAll, h, hwild]

theorem dispatch_generic_iff (hwild : uriMatch HttpServer.wildcard path = true)
    {templates templates' : List CString} {getOk postOk putOk : Bool} {req : HttpdReq}
    {m : Method} (hmethod : req.method = m.toHttpd) (huri : uriPath req.uri = path) :
    (httpd_find_uri_handler uriMatch (templates.map wsUri ++
        (catchAll .HTTP_GET getOk ++ catchAll .HTTP_POST postOk ++ catchAll .HTTP_PUT putOk) ++
        templates'.map wsUri) req).map (·.handler) = some .generic_handler ↔
      CatchAllTakes uriMatch templates getOk postOk putOk m path := by
  rw [httpd_find_uri_handler, huri, hmethod]
  simp only [List.find?_append, find_catchAll hwild]
  have hsocket : ∀ templates : List CString, ¬((templates.map wsUri).find? fun u =>
      u.method = m.toHttpd ∧ uriMatch u.uri path = true).map (·.handler) =
        some .generic_handler := by
    intro templates hfind
    obtain ⟨u, hu, hhandler⟩ := Option.map_eq_some_iff.mp hfind
    exact absurd ((find_wsUri_handler hu).symm.trans hhandler) (by decide)
  have hfirst := hsocket templates
  have hlast := hsocket templates'
  cases hmatch : (templates.map wsUri).find? fun u =>
      u.method = m.toHttpd ∧ uriMatch u.uri path = true with
  | some u =>
    -- a WebSocket handler comes first, so the request is a GET to one of its templates
    rw [hmatch] at hfirst
    refine iff_of_false (by simpa using hfirst) ?_
    intro htakes
    have hnone : (templates.map wsUri).find? (fun u =>
        u.method = m.toHttpd ∧ uriMatch u.uri path = true) = none := by
      rw [find_wsUri_none]
      intro hget
      cases m with
      | GET => exact htakes.2
      | POST | PUT | DELETE_ => exact absurd hget (by decide)
    exact nomatch hmatch.symm.trans hnone
  | none =>
    rw [find_wsUri_none] at hmatch
    cases m with
    | GET =>
      cases getOk with
      | true => simpa [Method.toHttpd, CatchAllTakes] using hmatch rfl
      | false => simpa [Method.toHttpd, CatchAllTakes] using hlast
    | POST =>
      cases postOk with
      | true => simp [Method.toHttpd, CatchAllTakes]
      | false => simpa [Method.toHttpd, CatchAllTakes] using hlast
    | PUT =>
      cases putOk with
      | true => simp [Method.toHttpd, CatchAllTakes]
      | false => simpa [Method.toHttpd, CatchAllTakes] using hlast
    | DELETE_ => simpa [Method.toHttpd, CatchAllTakes] using hlast

/-- The handler that a method and a path ask for: that of the first route with both, else
the one for what is not found. -/
def HttpServer.handlerFor (s : HttpServer H) (method : Method) (path : CString) : Option H :=
  ((s.routes.find? fun r => r.method = method ∧ r.path = path).bind (·.handler)).or
    s.notFoundHandler

/-- The request that a handler gets. -/
structure HandedOver (m : Method) (req : HttpdReq) (http_req : HttpRequest) : Prop where
  uri : http_req.uri = (CArray.replicate 96 0).strncpy (HttpServer.requestPath req.uri)
  body : m = .POST ∨ m = .PUT → http_req.body = .ofBytes BODY_SIZE (received req)

/-- A running server looks up the path that it has cut. -/
theorem generic_handler_spec {s : HttpServer H} {req : HttpdReq} {m : Method}
    (hset : s.instance_ = true) (hmethod : req.method = m.toHttpd) :
    (s.handlerFor m (HttpServer.requestPath req.uri) = none ∧
        s.generic_handler req = some .notFound) ∨
      ∃ h http_req, s.handlerFor m (HttpServer.requestPath req.uri) = some h ∧
        s.generic_handler req = some (.invoked h http_req) ∧ HandedOver m req http_req := by
  unfold HttpServer.generic_handler
  rw [hset, hmethod, toMethod_toHttpd]
  simp only [Bool.not_true, Bool.false_eq_true, if_false]
  cases hfor : s.handlerFor m (HttpServer.requestPath req.uri) with
  | none =>
    rw [HttpServer.handlerFor] at hfor
    rw [hfor]
    exact Or.inl ⟨rfl, rfl⟩
  | some h =>
    rw [HttpServer.handlerFor] at hfor
    rw [hfor]
    let fresh : HttpRequest :=
      { impl := req, uri := (CArray.replicate 96 0).strncpy (HttpServer.requestPath req.uri) }
    obtain ⟨huri, hbody⟩ := parseQueryParams_keeps req fresh
    refine Or.inr ⟨h, ?_⟩
    by_cases hreads : m = .POST ∨ m = .PUT
    · refine ⟨{ parseQueryParams req fresh with body := .ofBytes BODY_SIZE (received req) },
        rfl, ?_, huri, fun _ => rfl⟩
      simp only [if_pos hreads]
      rw [readBody_fresh req hbody]
      rfl
    · refine ⟨parseQueryParams req fresh, rfl, ?_, huri, fun h => absurd h hreads⟩
      simp only [if_neg hreads]
      rfl

theorem generic_handler_invokes {s : HttpServer H} {req : HttpdReq} {m : Method} {h : H}
    (hset : s.instance_ = true) (hmethod : req.method = m.toHttpd)
    (hfor : s.handlerFor m (HttpServer.requestPath req.uri) = some h) :
    ∃ http_req, s.generic_handler req = some (.invoked h http_req) := by
  rcases generic_handler_spec hset hmethod with ⟨hnone, _⟩ | ⟨h', http_req, hsome, hrun, _⟩
  · exact nomatch hnone.symm.trans hfor
  · obtain rfl := Option.some.inj (hsome.symm.trans hfor)
    exact ⟨http_req, hrun⟩

/-- After a set-up with at most `MAX_ROUTES` routes, a request with the method and the path
of a route, and any query, invokes the handler of the first such route exactly when the
catch-all of its method takes it. -/
theorem route_reached_iff (hwild : ∀ path : CString, path.val.head? = some 47 →
      uriMatch HttpServer.wildcard path = true)
    (before middle after : List (SetupCall H))
    (hcalls : ∀ call ∈ before ++ middle ++ after, Registers call)
    (hmax : (routeCalls (before ++ middle ++ after)).length ≤ MAX_ROUTES)
    (hhandlers : ∀ r ∈ routeCalls (before ++ middle ++ after), r.handler.isSome = true)
    (hpaths : ∀ r ∈ routeCalls (before ++ middle ++ after), RoutePath r.path)
    (getOk postOk putOk : Bool) (r : Route H) (hr : r ∈ routeCalls (before ++ middle ++ after))
    (req : HttpdReq) (hmethod : req.method = r.method.toHttpd) (huri : HasPath req.uri r.path) :
    (∃ first h http_req,
      (routeCalls (before ++ middle ++ after)).find?
        (fun r' => r'.method = r.method ∧ r'.path = r.path) = some first ∧
      first.handler = some h ∧
      (setUp before middle after getOk postOk putOk).serve uriMatch req =
        some (.handled (.invoked h http_req))) ↔
      CatchAllTakes uriMatch (webSockets middle) getOk postOk putOk r.method r.path := by
  obtain ⟨hset, hroutes, htable⟩ := setUp_spec hcalls hmax getOk postOk putOk
  have hpath := hpaths r hr
  have hdispatch : (httpd_find_uri_handler uriMatch
      (setUp before middle after getOk postOk putOk).handlers req).map (·.handler) =
        some .generic_handler ↔
      CatchAllTakes uriMatch (webSockets middle) getOk postOk putOk r.method r.path := by
    rw [htable]
    exact dispatch_generic_iff (hwild r.path hpath.slash) hmethod (huri.uriPath hpath.plain)
  rw [← hdispatch, HttpServer.serve]
  constructor
  · intro h
    obtain ⟨_, _, _, _, _, hserve⟩ := h
    split at hserve
    · exact nomatch hserve
    · rename_i u hu
      rw [hu]
      split at hserve
      · exact nomatch hserve
      · rename_i hgeneric
        exact congrArg some hgeneric
  · intro hfound
    obtain ⟨u, hu, hgeneric⟩ := Option.map_eq_some_iff.mp hfound
    have hsome : ((routeCalls (before ++ middle ++ after)).find?
        fun r' => r'.method = r.method ∧ r'.path = r.path).isSome = true :=
      List.find?_isSome.mpr ⟨r, hr, decide_eq_true ⟨rfl, rfl⟩⟩
    obtain ⟨first, hfirst⟩ := Option.isSome_iff_exists.mp hsome
    obtain ⟨h, hhandler⟩ := Option.isSome_iff_exists.mp
      (hhandlers first (List.mem_of_find?_eq_some hfirst))
    have hfor : (setUp before middle after getOk postOk putOk).handlerFor r.method
        (HttpServer.requestPath req.uri) = some h := by
      rw [HttpServer.handlerFor, huri.requestPath hpath, hroutes, hfirst, Option.bind_some,
        hhandler]
      rfl
    obtain ⟨http_req, hinvoked⟩ := generic_handler_invokes hset hmethod hfor
    refine ⟨first, h, http_req, hfirst, hhandler, ?_⟩
    rw [hu]
    dsimp only
    rw [hgeneric]
    dsimp only
    rw [hinvoked]
    rfl

end Dispatch

section Example

/-- `httpd_uri_match_wildcard` for templates that are exact or `/*`. -/
def simUriMatch (template path : CString) : Bool :=
  if template = HttpServer.wildcard then path.val.head? = some 47 else template = path

theorem simUriMatch_wildcard (path : CString) (h : path.val.head? = some 47) :
    simUriMatch HttpServer.wildcard path = true := by
  simp [simUriMatch, h]

/-- `"/a"` -/
def pathA : CString := ⟨[47, 97], by decide⟩

/-- `"/a?x"` -/
def uriAQuery : CString := ⟨[47, 97, 63, 120], by decide⟩

/-- Routes for POST and DELETE on one path. -/
def postAndDelete : List (SetupCall Nat) :=
  [.route .POST pathA (some 1), .route .DELETE_ pathA (some 2)]

theorem postAndDelete_registers : ∀ call ∈ [] ++ postAndDelete ++ [], Registers call := by
  intro call hcall
  rcases List.mem_cons.mp hcall with rfl | hcall
  · trivial
  · obtain rfl := List.mem_singleton.mp hcall
    trivial

theorem postAndDelete_routes : ∀ r ∈ routeCalls ([] ++ postAndDelete ++ []),
    r.handler.isSome = true ∧ RoutePath r.path := by
  intro r hr
  have hpath : RoutePath pathA := ⟨by decide, by decide, by decide⟩
  rcases List.mem_cons.mp hr with rfl | hr
  · exact ⟨rfl, hpath⟩
  · obtain rfl := List.mem_singleton.mp hr
    exact ⟨rfl, hpath⟩

theorem post_reached :
    ∃ http_req, (setUp [] postAndDelete [] true true true).serve simUriMatch
      { method := .HTTP_POST, uri := uriAQuery } = some (.handled (.invoked 1 http_req)) := by
  let r : Route Nat := { method := .POST, path := pathA, handler := some 1 }
  obtain ⟨first, h, http_req, hfirst, hhandler, hserve⟩ :=
    (route_reached_iff simUriMatch_wildcard [] postAndDelete [] postAndDelete_registers
      (by decide) (fun r hr => (postAndDelete_routes r hr).1)
      (fun r hr => (postAndDelete_routes r hr).2) true true true r List.mem_cons_self
      { method := .HTTP_POST, uri := uriAQuery } rfl (Or.inr ⟨[120], rfl⟩)).mpr rfl
  have hone : first = r := Option.some.inj (hfirst.symm.trans rfl)
  have hh : h = 1 := Option.some.inj (hhandler.symm.trans (hone ▸ rfl))
  exact ⟨http_req, hh ▸ hserve⟩

/-- No handler of httpd takes a DELETE, so its route is never asked. -/
theorem delete_unreachable :
    (setUp [] postAndDelete [] true true true).routes.map (·.method) = [.POST, .DELETE_] ∧
      (setUp [] postAndDelete [] true true true).serve simUriMatch
        { method := .HTTP_DELETE, uri := pathA } = some .unhandled :=
  ⟨rfl, rfl⟩

end Example
end UngulaNet.Http
