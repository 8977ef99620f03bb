import UngulaNet.Http.HttpRequest

/-!
# The parameters of a query

What `parseQueryParams` stores, against the query as a list of pairs.
-/

namespace UngulaNet.Http
set_option autoImplicit false

/-- A piece cut at its first `=`, and both sides to what their buffers hold. -/
def cutPair (piece : List UInt8) : List UInt8 × List UInt8 :=
  ((piece.takeWhile (· != 61)).take 23, ((piece.dropWhile (· != 61)).drop 1).take 47)

/-- The pairs of a query: its pieces between the `&` that are not empty and have a `=`. -/
def queryPairs (query : List UInt8) : List (List UInt8 × List UInt8) :=
  ((CString.pieces query 38).filter (61 ∈ ·)).map cutPair

def Param.pair (p : Param) : List UInt8 × List UInt8 := (p.name.cstr.val, p.value.cstr.val)

def HttpRequest.pairs (r : HttpRequest) : List (List UInt8 × List UInt8) :=
  r.params.map Param.pair

/-- Both strings end inside their buffers. -/
structure Param.Terminated (p : Param) : Prop where
  name : p.name.Terminated
  value : p.value.Terminated

/-- The entry that a token with a `=` adds. -/
theorem stored_pair {token : CString} {eq : Nat} (h : token.strchr 61 = some eq) :
    let p : Param := {
      name := (CArray.replicate 24 0).strncpy (token.take eq),
      value := (CArray.replicate 48 0).strncpy (token.drop (eq + 1)) }
    p.pair = cutPair token.val ∧ p.Terminated := by
  intro p
  have hname := CArray.replicate_drop_last 23
  have hvalue := CArray.replicate_drop_last 47
  refine ⟨?_, CArray.strncpy_terminated hname _, CArray.strncpy_terminated hvalue _⟩
  obtain ⟨hcut, hplain⟩ := CString.strchr_some h
  have hfront : ∀ c ∈ token.val.take eq, (c != 61) = true := by
    intro c hc
    exact bne_iff_ne.mpr fun h61 => hplain (h61 ▸ hc)
  have htake : token.val.takeWhile (· != 61) = token.val.take eq := by
    rw [hcut, List.takeWhile_append_of_pos hfront, List.takeWhile_cons_of_neg (by decide),
      List.append_nil, ← hcut]
  have hdrop : token.val.dropWhile (· != 61) = 61 :: token.val.drop (eq + 1) := by
    rw [hcut, List.dropWhile_append_of_pos hfront, List.dropWhile_cons_of_neg (by decide), ← hcut]
  rw [Param.pair, cutPair, htake, hdrop, CArray.cstr_strncpy hname, CArray.cstr_strncpy hvalue]
  rfl

theorem queryPairs_cons {query rest : List UInt8} {token : CString}
    (h : CString.pieces query 38 = token.val :: CString.pieces rest 38) :
    queryPairs query =
      if 61 ∈ token.val then cutPair token.val :: queryPairs rest else queryPairs rest := by
  rw [queryPairs, h]
  split
  · rename_i hmem
    rw [List.filter_cons_of_pos (by simpa using hmem), List.map_cons]
    rfl
  · rename_i hmem
    rw [List.filter_cons_of_neg (by simpa using hmem)]
    rfl

/-- The loop adds the pairs of what is left of the query, as far as there is room. -/
theorem parseTokens_spec {fuel : Nat} (query : CString) (params : List Param)
    (hfuel : query.val.length < fuel) (hroom : params.length ≤ MAX_PARAMS) :
    ∃ added, parseTokens query params fuel = params ++ added ∧
      added.map Param.pair = (queryPairs query.val).take (MAX_PARAMS - params.length) ∧
      ∀ p ∈ added, p.Terminated := by
  induction fuel generalizing query params with
  | zero => omega
  | succ fuel ih =>
    rcases query.strtok_spec 38 with ⟨hnone, hpieces⟩ | ⟨token, rest, hsome, hpieces, hshorter⟩
    · refine ⟨[], ?_, ?_, fun p hp => nomatch hp⟩
      · rw [parseTokens, hnone, List.append_nil]
      · simp [queryPairs, hpieces]
    · rw [parseTokens, hsome, queryPairs_cons hpieces]
      dsimp only
      by_cases hfull : params.length < MAX_PARAMS
      · rw [if_pos hfull]
        cases heq : token.strchr 61 with
        | none =>
          have hplain : 61 ∉ token.val := by
            rw [← CString.strchr_isSome, heq]
            exact Bool.false_ne_true
          rw [if_neg hplain]
          exact ih rest params (by omega) hroom
        | some eq =>
          have hmem : 61 ∈ token.val := by
            rw [← CString.strchr_isSome, heq]
            rfl
          obtain ⟨hpair, hterminated⟩ := stored_pair heq
          dsimp only at hpair hterminated ⊢
          generalize hp : ({
            name := (CArray.replicate 24 0).strncpy (token.take eq),
            value := (CArray.replicate 48 0).strncpy (token.drop (eq + 1)) } : Param) = p at *
          obtain ⟨added, hparse, hadded, hall⟩ := ih rest (params ++ [p]) (by omega) (by
            rw [List.length_append]
            exact hfull)
          refine ⟨p :: added, ?_, ?_, ?_⟩
          · rw [hparse, List.append_assoc]
            rfl
          · have hleft : MAX_PARAMS - params.length = MAX_PARAMS - (params ++ [p]).length + 1 := by
              rw [List.length_append, List.length_singleton]
              omega
            rw [if_pos hmem, hleft, List.take_succ_cons, List.map_cons, hpair, hadded]
          · intro q hq
            rcases List.mem_cons.mp hq with rfl | hq
            · exact hterminated
            · exact hall q hq
      · rw [if_neg hfull]
        refine ⟨[], (List.append_nil _).symm, ?_, fun p hp => nomatch hp⟩
        rw [Nat.sub_eq_zero_of_le (by omega), List.take_zero, List.map_nil]

theorem hasParam_iff (r : HttpRequest) (x : CString) :
    r.hasParam x = true ↔ ∃ pair ∈ r.pairs, pair.1 = x.val := by
  simp only [HttpRequest.hasParam, List.any_eq_true, decide_eq_true_iff, Subtype.ext_iff]
  constructor
  · rintro ⟨p, hp, hname⟩
    exact ⟨p.pair, List.mem_map_of_mem hp, hname⟩
  · rintro ⟨pair, hpair, hname⟩
    obtain ⟨p, hp, rfl⟩ := List.mem_map.mp hpair
    exact ⟨p, hp, hname⟩

theorem param_eq (r : HttpRequest) (x : CString) :
    (r.param x).val = ((r.pairs.find? (·.1 = x.val)).map Prod.snd).getD [] := by
  have hname : (fun p : Param => decide (p.pair.1 = x.val)) =
      fun p => decide (p.name.cstr = x) := by
    funext p
    rw [decide_eq_decide]
    exact Subtype.ext_iff.symm
  rw [HttpRequest.param, HttpRequest.pairs, List.find?_map]
  change _ = (((r.params.find? fun p => decide (p.pair.1 = x.val)).map Param.pair).map
    Prod.snd).getD []
  rw [hname]
  cases r.params.find? fun p => decide (p.name.cstr = x) with
  | none => rfl
  | some p => rfl

/-- The parameters of a request are the first `MAX_PARAMS` pairs of a query that is not too
long, and `hasParam` and `param` look a name up among them. -/
theorem parseQueryParams_spec (req : HttpdReq) (out : HttpRequest) :
    let r := parseQueryParams req out
    r.pairs = (if 0 < req.query.val.length ∧ req.query.val.length < 256 then
        (queryPairs req.query.val).take MAX_PARAMS
      else []) ∧
    (∀ p ∈ r.params, p.Terminated) ∧
    ∀ x : CString, (r.hasParam x = true ↔ ∃ pair ∈ r.pairs, pair.1 = x.val) ∧
      (r.param x).val = ((r.pairs.find? (·.1 = x.val)).map Prod.snd).getD [] := by
  intro r
  obtain ⟨hpairs, hterminated⟩ : r.pairs = (if 0 < req.query.val.length ∧
      req.query.val.length < 256 then (queryPairs req.query.val).take MAX_PARAMS else []) ∧
        ∀ p ∈ r.params, p.Terminated := by
    simp only [r, parseQueryParams, HttpdReq.urlQueryStr]
    by_cases hempty : req.query.val.length = 0
    · rw [if_pos hempty, if_neg (by omega)]
      exact ⟨rfl, fun p hp => nomatch hp⟩
    · by_cases hshort : req.query.val.length < 256
      · rw [if_neg hempty, if_pos hshort, if_pos ⟨by omega, hshort⟩]
        obtain ⟨added, hparse, hadded, hall⟩ :=
          parseTokens_spec req.query [] (Nat.lt_succ_self _) (Nat.zero_le _)
        rw [List.nil_append] at hparse
        simp only [HttpRequest.pairs, hparse]
        exact ⟨hadded, hall⟩
      · rw [if_neg hempty, if_neg hshort, if_neg (by omega)]
        exact ⟨rfl, fun p hp => nomatch hp⟩
  exact ⟨hpairs, hterminated, fun x => ⟨hasParam_iff r x, param_eq r x⟩⟩

end UngulaNet.Http
