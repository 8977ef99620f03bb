import UngulaNet.Http.QueryParams
import UngulaNet.Http.RouteDispatch

/-!
# Parameters that a client sends

A client joins its parameters to a query, `name=value&name=value`. The handler of the route
finds them again, in their order, as far as the buffers of the request hold them.
-/

namespace UngulaNet.Http
set_option autoImplicit false

/-- A parameter as it may stand in a query. -/
structure Parameter where
  name : List UInt8
  value : List UInt8
  name_plain : 38 ∉ name ∧ 61 ∉ name ∧ 0 ∉ name
  value_plain : 38 ∉ value ∧ 0 ∉ value

namespace Parameter

def text (p : Parameter) : List UInt8 := p.name ++ 61 :: p.value

def pair (p : Parameter) : List UInt8 × List UInt8 := (p.name, p.value)

/-- What the buffers of a request hold of it. -/
def cut (p : Parameter) : List UInt8 × List UInt8 := (p.name.take 23, p.value.take 47)

theorem text_ne_nil (p : Parameter) : p.text ≠ [] :=
  List.append_ne_nil_of_right_ne_nil p.name (List.cons_ne_nil 61 p.value)

theorem ampersand_notMem (p : Parameter) : 38 ∉ p.text := by
  have hname := p.name_plain.1
  have hvalue := p.value_plain.1
  simp [text, hname, hvalue]

theorem nul_notMem (p : Parameter) : 0 ∉ p.text := by
  have hname := p.name_plain.2.2
  have hvalue := p.value_plain.2
  simp [text, hname, hvalue]

/-- The first `=` of the text is the one after the name. -/
theorem cutPair_text (p : Parameter) : cutPair p.text = p.cut := by
  have hplain : ∀ c ∈ p.name, (c != 61) = true := by
    intro c hc
    exact bne_iff_ne.mpr fun h61 => p.name_plain.2.1 (h61 ▸ hc)
  rw [cutPair, text, List.takeWhile_append_of_pos hplain, List.dropWhile_append_of_pos hplain,
    List.takeWhile_cons_of_neg (by decide), List.dropWhile_cons_of_neg (by decide),
    List.append_nil, List.drop_succ_cons, List.drop_zero, cut]

theorem cut_eq_iff (p : Parameter) :
    p.cut = p.pair ↔ p.name.length ≤ 23 ∧ p.value.length ≤ 47 := by
  rw [cut, pair, Prod.mk.injEq, List.take_eq_self_iff, List.take_eq_self_iff]

end Parameter

def queryText (ps : List Parameter) : List UInt8 := [38].intercalate (ps.map Parameter.text)

theorem nul_notMem_queryText (ps : List Parameter) : 0 ∉ queryText ps := by
  induction ps with
  | nil => exact List.not_mem_nil
  | cons p ps ih =>
    cases ps with
    | nil =>
      rw [queryText, List.map_singleton, List.intercalate_singleton]
      exact p.nul_notMem
    | cons q ps =>
      rw [queryText, List.map_cons, List.map_cons, List.intercalate_cons_cons]
      have hp := p.nul_notMem
      have hrest : 0 ∉ [38].intercalate (q.text :: ps.map Parameter.text) := ih
      simp [hp, hrest]

/-- The query as httpd finds it in the URI. -/
def queryString (ps : List Parameter) : CString := ⟨queryText ps, nul_notMem_queryText ps⟩

theorem pieces_queryText (ps : List Parameter) :
    CString.pieces (queryText ps) 38 = ps.map Parameter.text := by
  have hne : ∀ t ∈ ps.map Parameter.text, decide (t ≠ []) = true := by
    intro t ht
    obtain ⟨p, _, rfl⟩ := List.mem_map.mp ht
    exact decide_eq_true p.text_ne_nil
  cases ps with
  | nil => rfl
  | cons p ps =>
    have hplain : ∀ t ∈ (p :: ps).map Parameter.text, 38 ∉ t := by
      intro t ht
      obtain ⟨q, _, rfl⟩ := List.mem_map.mp ht
      exact q.ampersand_notMem
    have hsplit : (queryText (p :: ps)).splitOn 38 = (p :: ps).map Parameter.text :=
      List.splitOn_intercalate 38 hplain (List.cons_ne_nil _ _)
    rw [CString.pieces, hsplit]
    exact List.filter_eq_self.mpr hne

theorem queryPairs_queryText (ps : List Parameter) :
    queryPairs (queryText ps) = ps.map Parameter.cut := by
  have hall : ∀ t ∈ ps.map Parameter.text, decide (61 ∈ t) = true := by
    intro t ht
    obtain ⟨p, _, rfl⟩ := List.mem_map.mp ht
    exact decide_eq_true (List.mem_append_right p.name List.mem_cons_self)
  rw [queryPairs, pieces_queryText, List.filter_eq_self.mpr hall, List.map_map]
  exact List.map_congr_left fun p _ => p.cutPair_text

/-- A query that is not too long is parsed into its parameters. -/
theorem parse_queryString (ps : List Parameter) {req : HttpdReq} (out : HttpRequest)
    (hquery : req.query = queryString ps) (hshort : (queryText ps).length < 256) :
    (parseQueryParams req out).pairs = (ps.map Parameter.cut).take MAX_PARAMS := by
  have hlength : req.query.val.length = (queryText ps).length := by rw [hquery]; rfl
  obtain ⟨added, hparse, hadded, _⟩ :=
    parseTokens_spec (queryString ps) [] (Nat.lt_succ_self _) (Nat.zero_le _)
  have hpairs : added.map Param.pair = (ps.map Parameter.cut).take MAX_PARAMS := by
    rw [hadded]
    exact congrArg (List.take MAX_PARAMS) (queryPairs_queryText ps)
  unfold parseQueryParams HttpdReq.urlQueryStr
  dsimp only
  by_cases hempty : req.query.val.length = 0
  · rw [if_pos hempty]
    have hnone : queryPairs (queryText ps) = [] := by
      rw [List.eq_nil_of_length_eq_zero (hlength.symm.trans hempty)]
      rfl
    rw [← queryPairs_queryText, hnone]
    rfl
  · rw [if_neg hempty, if_pos (by omega), hquery]
    change (parseTokens (queryString ps) [] ((queryString ps).val.length + 1)).map Param.pair = _
    rw [hparse, List.nil_append, hpairs]

variable {H : Type}

/-- The parameters of the request that a handler gets are those that were parsed. -/
theorem invoked_params {s : HttpServer H} {req : HttpdReq} {h : H} {http_req : HttpRequest}
    (hrun : s.generic_handler req = some (.invoked h http_req)) :
    ∃ out, http_req.pairs = (parseQueryParams req out).pairs := by
  unfold HttpServer.generic_handler at hrun
  dsimp only at hrun
  split at hrun
  · exact nomatch hrun
  · split at hrun
    · exact nomatch hrun
    · split at hrun
      · exact nomatch hrun
      · rename_i m _ _ _ _
        let fresh : HttpRequest :=
          { impl := req, uri := (CArray.replicate 96 0).strncpy (HttpServer.requestPath req.uri) }
        refine ⟨fresh, ?_⟩
        by_cases hreads : m = .POST ∨ m = .PUT
        · obtain ⟨body, hbody, _⟩ := readBody_spec req (parseQueryParams req fresh)
          rw [if_pos hreads, hbody] at hrun
          obtain ⟨_, rfl⟩ := HttpServer.Handled.invoked.inj (Option.some.inj hrun)
          rfl
        · rw [if_neg hreads] at hrun
          obtain ⟨_, rfl⟩ := HttpServer.Handled.invoked.inj (Option.some.inj hrun)
          rfl

theorem map_cut_eq_iff (ps : List Parameter) :
    (ps.map Parameter.cut).take MAX_PARAMS = ps.map Parameter.pair ↔ ps.length ≤ MAX_PARAMS ∧
      ∀ p ∈ ps, p.name.length ≤ 23 ∧ p.value.length ≤ 47 := by
  constructor
  · intro heq
    have hlength := congrArg List.length heq
    rw [List.length_take, List.length_map, List.length_map] at hlength
    have hten : ps.length ≤ MAX_PARAMS := by omega
    rw [List.take_of_length_le (by rw [List.length_map]; exact hten)] at heq
    exact ⟨hten, fun p hp => p.cut_eq_iff.mp (List.map_inj_left.mp heq p hp)⟩
  · rintro ⟨hten, hfits⟩
    rw [List.take_of_length_le (by rw [List.length_map]; exact hten)]
    exact List.map_congr_left fun p hp => p.cut_eq_iff.mpr (hfits p hp)

/-- Whatever the route table, and whatever else is in the request: a handler that is invoked
for a query of less than 256 bytes sees the first ten parameters, each cut to its buffer.
They are those that were sent exactly when there are at most ten and each fits. -/
theorem query_comes_back {s : HttpServer H} {req : HttpdReq} {h : H} {http_req : HttpRequest}
    (ps : List Parameter) (hquery : req.query = queryString ps)
    (hshort : (queryText ps).length < 256)
    (hrun : s.generic_handler req = some (.invoked h http_req)) :
    http_req.pairs = (ps.map Parameter.cut).take MAX_PARAMS ∧
      (http_req.pairs = ps.map Parameter.pair ↔ ps.length ≤ MAX_PARAMS ∧
        ∀ p ∈ ps, p.name.length ≤ 23 ∧ p.value.length ≤ 47) ∧
      ∀ name : CString, (http_req.param name).val =
        ((((ps.map Parameter.cut).take MAX_PARAMS).find? (·.1 = name.val)).map Prod.snd).getD [] := by
  obtain ⟨out, hout⟩ := invoked_params hrun
  have hpairs : http_req.pairs = (ps.map Parameter.cut).take MAX_PARAMS :=
    hout.trans (parse_queryString ps out hquery hshort)
  refine ⟨hpairs, ?_, fun name => ?_⟩
  · rw [hpairs]
    exact map_cut_eq_iff ps
  · rw [param_eq, hpairs]

section Example

/-- `?id=7&name=oven` -/
def twoParameters : List Parameter :=
  [⟨[105, 100], [55], by decide, by decide⟩,
    ⟨[110, 97, 109, 101], [111, 118, 101, 110], by decide, by decide⟩]

theorem twoParameters_come_back :
    ∃ http_req, ((HttpServer.new.route .GET pathA (some 1)).start true).generic_handler
      { method := .HTTP_GET, uri := pathA, query := queryString twoParameters } =
        some (.invoked 1 http_req) ∧ http_req.pairs = twoParameters.map Parameter.pair := by
  let s := (HttpServer.new.route .GET pathA (some 1)).start true
  let req : HttpdReq := { method := .HTTP_GET, uri := pathA, query := queryString twoParameters }
  have hfor : s.handlerFor .GET (HttpServer.requestPath req.uri) = some 1 := rfl
  obtain ⟨http_req, hrun⟩ := generic_handler_invokes rfl rfl hfor
  exact ⟨http_req, hrun, (query_comes_back twoParameters rfl (by decide) hrun).2.1.mpr (by decide)⟩

end Example
end UngulaNet.Http
