import UngulaNet.Foundation.CString

/-!
# Requests

`HttpRequest` as a route handler sees it, and how it is filled from the request that httpd
hands over: the query parameters and the body.
-/

namespace UngulaNet.Http
set_option autoImplicit false

/-- The `http_method` of a request; every one that is not served is `other`. -/
inductive HttpdMethod where
  | HTTP_GET
  | HTTP_POST
  | HTTP_PUT
  | HTTP_DELETE
  | other (code : Nat)
  deriving DecidableEq

/-- `httpd_req_t`, with the query as httpd's URL parser finds it in the URI, and what a
`httpd_req_recv` for so many bytes delivers (nothing when it fails). -/
structure HttpdReq where
  method : HttpdMethod
  uri : CString
  query : CString := ⟨[], by decide⟩
  content_len : UInt32 := 0
  recv : Nat → List UInt8 := fun _ => []

structure Param where
  name : CArray UInt8 24
  value : CArray UInt8 48

def MAX_PARAMS : Nat := 10

def BODY_SIZE : Nat := 384

structure HttpRequest where
  impl : HttpdReq
  params : List Param := []
  uri : CArray UInt8 96 := .replicate 96 0
  body : CArray UInt8 BODY_SIZE := .replicate BODY_SIZE 0

namespace HttpRequest

def hasParam (r : HttpRequest) (name : CString) : Bool :=
  r.params.any fun p => p.name.cstr = name

def param (r : HttpRequest) (name : CString) : CString :=
  match r.params.find? fun p => p.name.cstr = name with
  | some p => p.value.cstr
  | none => ⟨[], by decide⟩

end HttpRequest

/-- `httpd_req_get_url_query_str`, which fails when the string and its NUL do not fit. -/
def HttpdReq.urlQueryStr (req : HttpdReq) (size : Nat) : Option CString :=
  if req.query.val.length < size then some req.query else none

/-- The loop over the `&`-separated tokens. -/
def parseTokens (query : CString) (params : List Param) : Nat → List Param
  | 0 => params
  | fuel + 1 =>
    match query.strtok 38 with
    | none => params
    | some (token, rest) =>
      if params.length < MAX_PARAMS then
        match token.strchr 61 with
        | some eq => parseTokens rest (params ++ [{
            name := (CArray.replicate 24 0).strncpy (token.take eq),
            value := (CArray.replicate 48 0).strncpy (token.drop (eq + 1)) }]) fuel
        | none => parseTokens rest params fuel
      else params

def parseQueryParams (req : HttpdReq) (out : HttpRequest) : HttpRequest :=
  let out := { out with params := [] }
  if req.query.val.length = 0 then out
  else
    match req.urlQueryStr 256 with
    | none => out
    | some query => { out with params := parseTokens query [] (query.val.length + 1) }

def readBody (req : HttpdReq) (out : HttpRequest) : Option HttpRequest := do
  let body ← out.body.write 0 0
  let content_len := req.content_len.toInt32.toInt
  if content_len ≤ 0 then return { out with body := body }
  else
    let content_len := if content_len ≥ BODY_SIZE then BODY_SIZE - 1 else content_len.toNat
    let received := (req.recv content_len).take content_len
    let body ← body.memcpy received
    if received.length > 0 then
      let body ← body.write received.length 0
      return { out with body := body }
    else return { out with body := body }

theorem parseQueryParams_keeps (req : HttpdReq) (out : HttpRequest) :
    (parseQueryParams req out).uri = out.uri ∧ (parseQueryParams req out).body = out.body := by
  unfold parseQueryParams
  dsimp only
  split
  · exact ⟨rfl, rfl⟩
  · split
    · exact ⟨rfl, rfl⟩
    · exact ⟨rfl, rfl⟩

/-- What the one `httpd_req_recv` of `readBody` delivers. -/
def received (req : HttpdReq) : List UInt8 :=
  let content_len := req.content_len.toInt32.toInt
  if content_len ≤ 0 then []
  else
    let content_len := if content_len ≥ BODY_SIZE then BODY_SIZE - 1 else content_len.toNat
    (req.recv content_len).take content_len

theorem received_length (req : HttpdReq) : (received req).length < BODY_SIZE := by
  have hsize : BODY_SIZE = 384 := rfl
  unfold received
  dsimp only
  split
  · exact Nat.zero_lt_succ _
  · refine Nat.lt_of_le_of_lt (List.length_take_le _ _) ?_
    split
    · omega
    · omega

/-- No access of `readBody` is outside the buffer. It puts what it receives and a NUL before
the bytes that stood there. -/
theorem readBody_spec (req : HttpdReq) (out : HttpRequest) :
    ∃ body, readBody req out = some { out with body := body } ∧
      body.cells = received req ++ 0 :: out.body.cells.drop ((received req).length + 1) := by
  obtain ⟨cleared, hcleared, hzero⟩ := out.body.write_spec (i := 0) (by decide) 0
  have hlength := received_length req
  unfold readBody
  rw [hcleared]
  unfold received at hlength ⊢
  dsimp only [Option.bind_eq_bind, Option.bind_some] at hlength ⊢
  by_cases hlen : req.content_len.toInt32.toInt ≤ 0
  · rw [if_pos hlen, if_pos hlen]
    exact ⟨cleared, rfl, hzero⟩
  · rw [if_neg hlen, if_neg hlen]
    rw [if_neg hlen] at hlength
    generalize hbytes : (req.recv (if req.content_len.toInt32.toInt ≥ BODY_SIZE then
      BODY_SIZE - 1 else req.content_len.toInt32.toInt.toNat)).take (if
        req.content_len.toInt32.toInt ≥ BODY_SIZE then BODY_SIZE - 1
        else req.content_len.toInt32.toInt.toNat) = bytes at hlength ⊢
    obtain ⟨filled, hfilled, hcells⟩ := cleared.memcpy_spec (Nat.le_of_lt hlength)
    rw [hfilled]
    dsimp only [Option.bind_some]
    by_cases hsome : bytes.length > 0
    · obtain ⟨ended, hended, hlast⟩ := filled.write_spec hlength 0
      rw [if_pos hsome, hended]
      refine ⟨ended, rfl, ?_⟩
      have hrest : filled.cells.drop (bytes.length + 1) =
          out.body.cells.drop (bytes.length + 1) := by
        rw [hcells, List.drop_length_add_append, List.drop_drop, hzero, List.take_zero,
          List.nil_append, List.drop_succ_cons, List.drop_drop, Nat.zero_add, Nat.add_comm 1]
      rw [hlast, hrest, hcells, List.take_left]
    · rw [if_neg hsome]
      refine ⟨filled, rfl, ?_⟩
      have hnil : bytes = [] := List.length_eq_zero_iff.mp (by omega)
      rw [hcells, hnil]
      exact hzero

/-- On a request with an empty body buffer, only what it receives is in it. -/
theorem readBody_fresh (req : HttpdReq) {out : HttpRequest}
    (h : out.body = .replicate BODY_SIZE 0) :
    readBody req out = some { out with body := .ofBytes BODY_SIZE (received req) } := by
  obtain ⟨body, hread, hcells⟩ := readBody_spec req out
  have hzeros : (CArray.replicate BODY_SIZE (0 : UInt8)).cells.drop ((received req).length + 1) =
      List.replicate (BODY_SIZE - (received req).length - 1) 0 := List.drop_replicate
  have hbody : body = .ofBytes BODY_SIZE (received req) := by
    refine CArray.ext ?_
    rw [hcells, h, hzeros, CArray.cells_ofBytes_nul (received_length req)]
  rw [hread, hbody]

end UngulaNet.Http
