import UngulaNet.Http.RouteReach

/-!
# The dispatch of a request

Which handler of the route table runs for a method and a path, and the URI that it is given.
-/

namespace UngulaNet.Http
set_option autoImplicit false

/-- `char path[128]` holds the path of the URI as far as it fits. -/
theorem requestPath_eq (uri : CString) : HttpServer.requestPath uri = (uriPath uri).take 127 := by
  unfold HttpServer.requestPath uriPath
  refine Subtype.ext ?_
  cases uri.strchr 63 with
  | none => simp [CString.take, CString.sublist]
  | some path_len =>
    by_cases hlong : path_len ≥ 128
    · simp only [if_pos hlong, Option.getD_some, CString.take, CString.sublist, List.take_take]
      rw [Nat.min_eq_left (by omega)]
    · simp only [if_neg hlong, Option.getD_some, CString.take, CString.sublist, List.take_take]
      rw [Nat.min_eq_right (by omega)]

section Dispatch
variable {H : Type} {s : HttpServer H} {m : Method} {req : HttpdReq}

theorem HandedOver.uri_eq {http_req : HttpRequest} (h : HandedOver m req http_req) :
    http_req.uri.cstr = (uriPath req.uri).take 95 := by
  rw [h.uri, CArray.cstr_strncpy (CArray.replicate_drop_last 95), requestPath_eq]
  exact Subtype.ext (List.take_take.trans (by rfl))

/-- The handler that the method and the full path ask for is the one that runs, and it sees
that path. -/
structure DispatchExact (s : HttpServer H) (m : Method) (req : HttpdReq) : Prop where
  invoked : ∀ h, s.handlerFor m (uriPath req.uri) = some h →
    ∃ http_req, s.generic_handler req = some (.invoked h http_req)
  notFound : s.handlerFor m (uriPath req.uri) = none → s.generic_handler req = some .notFound
  uri : ∀ h http_req, s.generic_handler req = some (.invoked h http_req) →
    http_req.uri.cstr = uriPath req.uri

theorem DispatchExact.of_notFound (hfor : s.handlerFor m (uriPath req.uri) = none)
    (hrun : s.generic_handler req = some .notFound) : DispatchExact s m req where
  invoked _ hh := nomatch hfor.symm.trans hh
  notFound _ := hrun
  uri _ _ hinvoked := nomatch hrun.symm.trans hinvoked

theorem DispatchExact.of_invoked {h : H} {http_req : HttpRequest}
    (hfor : s.handlerFor m (uriPath req.uri) = some h)
    (hrun : s.generic_handler req = some (.invoked h http_req))
    (huri : http_req.uri.cstr = uriPath req.uri) : DispatchExact s m req where
  invoked h' hh' := by
    obtain rfl := Option.some.inj (hfor.symm.trans hh')
    exact ⟨http_req, hrun⟩
  notFound hnone := nomatch hnone.symm.trans hfor
  uri h' http_req' hinvoked := by
    obtain ⟨_, rfl⟩ := HttpServer.Handled.invoked.inj (Option.some.inj (hrun.symm.trans hinvoked))
    exact huri

theorem take_eq_self {path : CString} {k : Nat} : path.take k = path ↔ path.val.length ≤ k := by
  rw [Subtype.ext_iff]
  exact List.take_eq_self_iff path.val

/-- The dispatch is exact for the paths that fit `char uri_[96]`. A longer one is exact only
where no handler answers: none for the path, and none for the part that `char path[128]` holds. -/
theorem dispatch_exact_iff (s : HttpServer H) (m : Method) (req : HttpdReq)
    (hset : s.instance_ = true) (hmethod : req.method = m.toHttpd) :
    DispatchExact s m req ↔ (uriPath req.uri).val.length < 96 ∨
      s.handlerFor m (uriPath req.uri) = none ∧
        s.handlerFor m ((uriPath req.uri).take 127) = none := by
  have hspec := generic_handler_spec hset hmethod
  rw [requestPath_eq] at hspec
  constructor
  · intro hexact
    rcases hspec with ⟨hnone, hrun⟩ | ⟨h, http_req, hsome, hrun, hover⟩
    · by_cases hfor : s.handlerFor m (uriPath req.uri) = none
      · exact Or.inr ⟨hfor, hnone⟩
      · obtain ⟨h, hh⟩ := Option.ne_none_iff_exists'.mp hfor
        obtain ⟨http_req, hinvoked⟩ := hexact.invoked h hh
        exact nomatch hinvoked.symm.trans hrun
    · have huri := (hover.uri_eq).symm.trans (hexact.uri h http_req hrun)
      have hshort := take_eq_self.mp huri
      exact Or.inl (by omega)
  · rintro (hshort | ⟨hfor, hcut⟩)
    · have hpath : (uriPath req.uri).take 127 = uriPath req.uri := take_eq_self.mpr (by omega)
      have hseen : (uriPath req.uri).take 95 = uriPath req.uri := take_eq_self.mpr (by omega)
      rw [hpath] at hspec
      rcases hspec with ⟨hnone, hrun⟩ | ⟨h, http_req, hsome, hrun, hover⟩
      · exact DispatchExact.of_notFound hnone hrun
      · exact DispatchExact.of_invoked hsome hrun (hover.uri_eq.trans hseen)
    · rcases hspec with ⟨_, hrun⟩ | ⟨h, _, hsome, _⟩
      · exact DispatchExact.of_notFound hfor hrun
      · exact nomatch hcut.symm.trans hsome

end Dispatch

section Example

/-- `"/a"`, with a route. -/
theorem short_path_dispatched :
    ∃ http_req, ((HttpServer.new.route .GET pathA (some 1)).start true).generic_handler
      { method := .HTTP_GET, uri := uriAQuery } = some (.invoked 1 http_req) ∧
        http_req.uri.cstr = pathA := by
  have hpath : uriPath uriAQuery = pathA := rfl
  have hexact := (dispatch_exact_iff ((HttpServer.new.route .GET pathA (some 1)).start true)
    .GET { method := .HTTP_GET, uri := uriAQuery } rfl rfl).mpr (Or.inl (by decide))
  obtain ⟨http_req, hrun⟩ := hexact.invoked 1 (by rfl)
  exact ⟨http_req, hrun, (hexact.uri 1 http_req hrun).trans hpath⟩

/-- A slash and `n` times `a`. -/
def longPath (n : Nat) : CString :=
  ⟨47 :: List.replicate n 97, fun h => by simp at h⟩

theorem uriPath_longPath (n : Nat) : uriPath (longPath n) = longPath n :=
  HasPath.uriPath (Or.inl rfl) (by simp [longPath])

/-- A table with one route, whose path has 127 bytes. -/
def oneRoute : HttpServer Nat := (HttpServer.new.route .GET (longPath 126) (some 1)).start true

def longRequest : HttpdReq :=
  { method := .HTTP_GET, uri := longPath 127, query := pathA.take 0 }

/-- A path of 128 bytes runs the handler of the route that has its first 127, and the handler
sees 95 of them. -/
theorem long_path_aliased :
    oneRoute.handlerFor .GET (uriPath longRequest.uri) = none ∧
      (∃ http_req, oneRoute.generic_handler longRequest =
        some (.invoked 1 http_req) ∧ http_req.uri.cstr = longPath 94) ∧
      ¬DispatchExact oneRoute .GET longRequest := by
  have hnone : oneRoute.handlerFor .GET (uriPath longRequest.uri) = none := by
    rw [longRequest, uriPath_longPath]
    rfl
  refine ⟨hnone, ?_⟩
  have hcut : HttpServer.requestPath longRequest.uri = longPath 126 := by
    rw [requestPath_eq, longRequest, uriPath_longPath]
    rfl
  have hfound : oneRoute.handlerFor .GET (longPath 126) = some 1 := by rfl
  have hmethod : longRequest.method = Method.GET.toHttpd := rfl
  rcases generic_handler_spec (s := oneRoute) rfl hmethod with
    ⟨hmiss, _⟩ | ⟨h, http_req, hsome, hrun, hover⟩
  · rw [hcut, hfound] at hmiss
    exact nomatch hmiss
  · rw [hcut, hfound] at hsome
    obtain rfl := Option.some.inj hsome
    have huri : http_req.uri.cstr = longPath 94 := by
      rw [hover.uri_eq, longRequest, uriPath_longPath]
      rfl
    refine ⟨⟨http_req, hrun, huri⟩, ?_⟩
    intro hexact
    exact nomatch hrun.symm.trans (hexact.notFound hnone)

end Example
end UngulaNet.Http
