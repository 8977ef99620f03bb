import Mathlib.Algebra.Group.Nat.Defs
import UngulaNet.Foundation.CString

/-!
# The HTTP client

A response arrives in chunks, which the callback of the platform's HTTP library collects in
an `HttpResult`. An access outside a buffer is `none`.
-/

namespace UngulaNet.Http
set_option autoImplicit false

/-- `sizeof(HttpResult::body)` -/
def RESULT_SIZE : Nat := 1024

structure HttpResult where
  success : Bool := false
  statusCode : Int := 0
  body : CArray UInt8 RESULT_SIZE := .replicate RESULT_SIZE 0
  bodyLen : Nat := 0

/-- `a - b` in a `size_t` of `w` bits. -/
def sizeSub (w a b : Nat) : Nat := (a + 2 ^ w - b) % 2 ^ w

namespace HttpResult

def bodyContains (r : HttpResult) (needle : CString) : Bool :=
  r.bodyLen > 0 && (r.body.cstr.strstr needle).isSome

/-- `sizeof(result->body) - result->bodyLen - 1` -/
def space (r : HttpResult) (w : Nat) : Nat := sizeSub w (sizeSub w RESULT_SIZE r.bodyLen) 1

/-- What both callbacks do with the `len` bytes at `data`, where a `size_t` has `w` bits. -/
def append (r : HttpResult) (w : Nat) (data : List UInt8) (len : Nat) : Option HttpResult :=
  let space := r.space w
  if space > 0 then do
    let copy := if len < space then len else space
    let body ← r.body.memcpyAt r.bodyLen data copy
    let bodyLen := r.bodyLen + copy
    let body ← body.write bodyLen 0
    return { r with body := body, bodyLen := bodyLen }
  else some r

end HttpResult

/-! ## ESP-IDF -/

inductive EspEventId where
  | HTTP_EVENT_ON_DATA
  | other
  deriving DecidableEq

/-- `esp_http_client_event_t`; `data_len` is the length of `data`. -/
structure EspEvent where
  event_id : EspEventId
  data : List UInt8 := []

def on_data (result : HttpResult) (evt : EspEvent) : Option HttpResult :=
  if evt.event_id = .HTTP_EVENT_ON_DATA then result.append 32 evt.data evt.data.length
  else some result

/-! ## libcurl -/

/-- The arguments of a write callback: `nmemb` members of `size` bytes at `ptr`, all of them
in memory. -/
structure CurlChunk where
  ptr : List UInt8
  size : Nat
  nmemb : Nat
  length_eq : ptr.length = size * nmemb

/-- The bytes that it takes, and the result after it. -/
def curlWriteCallback (result : HttpResult) (chunk : CurlChunk) : Option (Nat × HttpResult) := do
  let total := chunk.size * chunk.nmemb
  let result ← result.append 64 chunk.ptr total
  return (total, result)

/-! ## Transfers -/

/-- A response that libcurl delivers, with what the callback reports for each chunk. -/
def curlDeliver (s : List Nat × HttpResult) (chunk : CurlChunk) :
    Option (List Nat × HttpResult) := do
  let (total, result) ← curlWriteCallback s.2 chunk
  return (s.1 ++ [total], result)

/-- The end of a request: what the library says of the transfer. -/
def HttpResult.finish (result : HttpResult) (ok : Bool) (status : Int) : HttpResult :=
  if ok then
    { result with statusCode := status, success := 200 ≤ status ∧ status < 300 }
  else result

/-- What a request meets once there is a client: the chunks of the response, the success of
the transfer and the status code. -/
structure Transfer (Chunk : Type) where
  chunks : List Chunk
  ok : Bool
  status : Int

/-- A request of the device once its client is asked for, `none` when it cannot be made. -/
def espRequest (client : Option (Transfer EspEvent)) : Option HttpResult :=
  match client with
  | none => some {}
  | some t => do
    let result ← t.chunks.foldlM on_data {}
    return result.finish t.ok t.status

/-- The same on the desktop. -/
def curlRequest (client : Option (Transfer CurlChunk)) : Option HttpResult :=
  match client with
  | none => some {}
  | some t => do
    let (_, result) ← t.chunks.foldlM curlDeliver ([], {})
    return result.finish t.ok t.status

/-- The two calls; `json_len` is the length of `json`. -/
inductive HttpCall where
  | httpGet (url : CString) (timeout_ms : Int)
  | httpPost (url : CString) (json : List UInt8) (timeout_ms : Int)

inductive EspMethod where
  | HTTP_METHOD_GET
  | HTTP_METHOD_POST
  deriving DecidableEq

/-- What an `esp_http_client` is told to do. -/
structure EspClient where
  url : CString
  method : EspMethod
  timeout_ms : Int
  headers : List (String × String) := []
  post_field : List UInt8 := []

def HttpCall.espClient : HttpCall → EspClient
  | .httpGet url timeout_ms => { url, method := .HTTP_METHOD_GET, timeout_ms }
  | .httpPost url json timeout_ms =>
    { url, method := .HTTP_METHOD_POST, timeout_ms,
      headers := [("Content-Type", "application/json")], post_field := json }

/-- The options of a `CURL` handle. -/
structure CurlHandle where
  url : CString
  post : Bool := false
  timeout_ms : Int
  followlocation : Bool := true
  httpheader : List String := []
  postfields : List UInt8 := []

def HttpCall.curlHandle : HttpCall → CurlHandle
  | .httpGet url timeout_ms => { url, timeout_ms }
  | .httpPost url json timeout_ms =>
    { url, post := true, timeout_ms, httpheader := ["Content-Type: application/json"],
      postfields := json }

section Calls
variable (esp : EspClient → Option (Transfer EspEvent))
variable (curl : CurlHandle → Option (Transfer CurlChunk))

def Esp.httpGet (url : CString) (timeout_ms : Int) : Option HttpResult :=
  espRequest (esp (HttpCall.httpGet url timeout_ms).espClient)

def Esp.httpPost (url : CString) (json : List UInt8) (timeout_ms : Int) : Option HttpResult :=
  espRequest (esp (HttpCall.httpPost url json timeout_ms).espClient)

def Curl.httpGet (url : CString) (timeout_ms : Int) : Option HttpResult :=
  curlRequest (curl (HttpCall.httpGet url timeout_ms).curlHandle)

def Curl.httpPost (url : CString) (json : List UInt8) (timeout_ms : Int) : Option HttpResult :=
  curlRequest (curl (HttpCall.httpPost url json timeout_ms).curlHandle)

def HttpCall.onDevice : HttpCall → Option HttpResult
  | .httpGet url timeout_ms => Esp.httpGet esp url timeout_ms
  | .httpPost url json timeout_ms => Esp.httpPost esp url json timeout_ms

def HttpCall.onDesktop : HttpCall → Option HttpResult
  | .httpGet url timeout_ms => Curl.httpGet curl url timeout_ms
  | .httpPost url json timeout_ms => Curl.httpPost curl url json timeout_ms

theorem HttpCall.onDevice_eq (call : HttpCall) :
    call.onDevice esp = espRequest (esp call.espClient) := by
  cases call <;> rfl

theorem HttpCall.onDesktop_eq (call : HttpCall) :
    call.onDesktop curl = curlRequest (curl call.curlHandle) := by
  cases call <;> rfl

end Calls

/-! ## What is collected -/

/-- The result that has collected these bytes as far as they fit. -/
def collected (data : List UInt8) : HttpResult where
  body := .ofBytes RESULT_SIZE (data.take (RESULT_SIZE - 1))
  bodyLen := min data.length (RESULT_SIZE - 1)

section Append
variable {w : Nat}

/-- No subtraction of the free space goes below zero. -/
theorem space_collected (hw : 10 < w) (data : List UInt8) :
    (collected data).space w = RESULT_SIZE - (collected data).bodyLen - 1 ∧
      (collected data).bodyLen + 1 ≤ RESULT_SIZE := by
  have hsize : RESULT_SIZE = 1024 := rfl
  have hroom : (collected data).bodyLen + 1 ≤ RESULT_SIZE := by
    change min data.length (RESULT_SIZE - 1) + 1 ≤ RESULT_SIZE
    omega
  have hword : 2 ^ 11 ≤ 2 ^ w := Nat.pow_le_pow_right (by decide) hw
  have hsub : ∀ {a b : Nat}, b ≤ a → a < 2 ^ w → sizeSub w a b = a - b := by
    intro a b hba ha
    have hshift : a + 2 ^ w - b = a - b + 2 ^ w := by omega
    rw [sizeSub, hshift, Nat.add_mod_right, Nat.mod_eq_of_lt (by omega)]
  have hinner : sizeSub w RESULT_SIZE (collected data).bodyLen =
      RESULT_SIZE - (collected data).bodyLen := hsub (by omega) (by omega)
  refine ⟨?_, hroom⟩
  rw [HttpResult.space, hinner, hsub (by omega) (by omega)]

theorem append_collected (hw : 10 < w) (data chunk : List UInt8) :
    (collected data).append w chunk chunk.length = some (collected (data ++ chunk)) := by
  have hsize : RESULT_SIZE = 1024 := rfl
  have hlen : (collected data).bodyLen = min data.length (RESULT_SIZE - 1) := rfl
  have hboth : (data ++ chunk).length = data.length + chunk.length := List.length_append
  unfold HttpResult.append
  rw [(space_collected hw data).1]
  dsimp only
  by_cases hroom : RESULT_SIZE - (collected data).bodyLen - 1 > 0
  · rw [if_pos hroom]
    -- there is room, so everything so far is in the buffer
    have hdata : (collected data).bodyLen = data.length := by omega
    have hwhole : data.take (RESULT_SIZE - 1) = data := List.take_of_length_le (by omega)
    have hbody : (collected data).body = .ofBytes RESULT_SIZE data :=
      congrArg (CArray.ofBytes RESULT_SIZE) hwhole
    rw [hdata, hbody]
    rw [hdata] at hroom
    generalize hcopy : (if chunk.length < RESULT_SIZE - data.length - 1 then chunk.length
      else RESULT_SIZE - data.length - 1) = copy
    have hmin : copy = min chunk.length (RESULT_SIZE - data.length - 1) := by
      rw [← hcopy]
      split
      · omega
      · omega
    have hsrc : copy ≤ chunk.length := by omega
    have hdst : data.length + copy < RESULT_SIZE := by omega
    obtain ⟨filled, hfilled, hended⟩ := CArray.append_ofBytes hsrc hdst
    have hcut : chunk.take (RESULT_SIZE - 1 - data.length) = chunk.take copy :=
      List.take_eq_take_iff.mpr (by omega)
    have hnew : (data ++ chunk).take (RESULT_SIZE - 1) = data ++ chunk.take copy := by
      rw [List.take_append, List.take_of_length_le (by omega), hcut]
    have hbodyLen : min (data ++ chunk).length (RESULT_SIZE - 1) = data.length + copy := by omega
    have hresult : collected (data ++ chunk) =
        { body := .ofBytes RESULT_SIZE (data ++ chunk.take copy),
          bodyLen := data.length + copy } := by
      rw [collected, hnew, hbodyLen]
    rw [hfilled, hresult]
    dsimp only [Option.bind_eq_bind, Option.bind_some]
    rw [hended]
    rfl
  · rw [if_neg hroom]
    have htake : (data ++ chunk).take (RESULT_SIZE - 1) = data.take (RESULT_SIZE - 1) :=
      List.take_append_of_le_length (by omega)
    have hmin : min (data ++ chunk).length (RESULT_SIZE - 1) =
        min data.length (RESULT_SIZE - 1) := by omega
    simp only [collected, htake, hmin]

end Append

/-- The chunk as the device's library announces it. -/
def CurlChunk.event (chunk : CurlChunk) : EspEvent :=
  { event_id := .HTTP_EVENT_ON_DATA, data := chunk.ptr }

theorem on_data_other (r : HttpResult) {evt : EspEvent} (h : evt.event_id = .other) :
    on_data r evt = some r := by
  unfold on_data
  rw [if_neg (by rw [h]; decide)]

theorem on_data_collected (data : List UInt8) (chunk : CurlChunk) :
    on_data (collected data) chunk.event = some (collected (data ++ chunk.ptr)) := by
  have hid : chunk.event.event_id = .HTTP_EVENT_ON_DATA := rfl
  unfold on_data
  rw [if_pos hid]
  exact append_collected (by decide) data chunk.ptr

theorem curlDeliver_collected (counts : List Nat) (data : List UInt8) (chunk : CurlChunk) :
    curlDeliver (counts, collected data) chunk =
      some (counts ++ [chunk.ptr.length], collected (data ++ chunk.ptr)) := by
  have happend := append_collected (w := 64) (by decide) data chunk.ptr
  unfold curlDeliver curlWriteCallback
  dsimp only
  rw [← chunk.length_eq, happend]
  rfl

theorem esp_collected (data : List UInt8) (chunks : List CurlChunk) :
    (chunks.map CurlChunk.event).foldlM on_data (collected data) =
      some (collected (data ++ chunks.flatMap (·.ptr))) := by
  induction chunks generalizing data with
  | nil => exact congrArg (fun d => some (collected d)) (List.append_nil data).symm
  | cons chunk chunks ih =>
    rw [List.map_cons, List.foldlM_cons, on_data_collected, List.flatMap_cons,
      ← List.append_assoc]
    exact ih (data ++ chunk.ptr)

theorem curl_collected (counts : List Nat) (data : List UInt8) (chunks : List CurlChunk) :
    chunks.foldlM curlDeliver (counts, collected data) =
      some (counts ++ chunks.map (·.ptr.length), collected (data ++ chunks.flatMap (·.ptr))) := by
  induction chunks generalizing counts data with
  | nil => exact congrArg some (Prod.ext (List.append_nil counts).symm
      (congrArg collected (List.append_nil data).symm))
  | cons chunk chunks ih =>
    rw [List.map_cons, List.append_cons, List.flatMap_cons, ← List.append_assoc,
      List.foldlM_cons, curlDeliver_collected]
    exact ih (counts ++ [chunk.ptr.length]) (data ++ chunk.ptr)

theorem collected_fits (data : List UInt8) :
    (data.take (RESULT_SIZE - 1)).length < RESULT_SIZE :=
  Nat.lt_of_le_of_lt (List.length_take_le _ _) (by decide)

theorem cstr_collected {data : List UInt8} (h : 0 ∉ data) :
    (collected data).body.cstr.val = data.take (RESULT_SIZE - 1) := by
  have hplain : 0 ∉ data.take (RESULT_SIZE - 1) := fun h0 => h (List.mem_of_mem_take h0)
  have hcstr : (collected data).body.cstr = ⟨data.take (RESULT_SIZE - 1), hplain⟩ :=
    CArray.cstr_ofBytes hplain (collected_fits data)
  rw [hcstr]

theorem bodyContains_collected {data : List UInt8} (h : 0 ∉ data) {needle : CString}
    (hne : needle.val ≠ []) :
    (collected data).bodyContains needle = true ↔
      needle.val <:+: data.take (RESULT_SIZE - 1) := by
  rw [HttpResult.bodyContains, Bool.and_eq_true, CString.strstr_isSome, cstr_collected h,
    decide_eq_true_iff]
  refine ⟨fun hboth => hboth.2, fun hinfix => ⟨?_, hinfix⟩⟩
  have hneedle := List.length_pos_iff.mpr hne
  have hlength := hinfix.length_le
  rw [List.length_take] at hlength
  change 0 < min data.length (RESULT_SIZE - 1)
  omega

/-- Both platforms collect the chunks of a response into one state, which depends only on
their concatenation: as much of it as fits, and a NUL. No access is outside the buffer, the
free space never goes below zero, and every chunk is reported as taken. -/
theorem chunks_collected (chunks : List CurlChunk) :
    let data := chunks.flatMap (·.ptr)
    ∃ r, (chunks.map CurlChunk.event).foldlM on_data {} = some r ∧
      chunks.foldlM curlDeliver ([], {}) = some (chunks.map (·.ptr.length), r) ∧
      r.bodyLen = min data.length 1023 ∧
      r.body.cells.take r.bodyLen = data.take r.bodyLen ∧
      r.body.read r.bodyLen = some 0 ∧
      (∀ pre, pre <+: chunks → ∃ r', (pre.map CurlChunk.event).foldlM on_data {} = some r' ∧
        pre.foldlM curlDeliver ([], {}) = some (pre.map (·.ptr.length), r') ∧
        (r'.space 32 : Int) = 1024 - r'.bodyLen - 1 ∧
        (r'.space 64 : Int) = 1024 - r'.bodyLen - 1) ∧
      ∀ needle : CString, needle.val ≠ [] → (∀ chunk ∈ chunks, 0 ∉ chunk.ptr) →
        (r.bodyContains needle = true ↔ needle.val <:+: data.take 1023) := by
  intro data
  have hsize : RESULT_SIZE = 1024 := rfl
  have hesp : ∀ chunks : List CurlChunk, (chunks.map CurlChunk.event).foldlM on_data {} =
      some (collected (chunks.flatMap (·.ptr))) := esp_collected []
  have hcurl : ∀ chunks : List CurlChunk, chunks.foldlM curlDeliver ([], {}) =
      some (chunks.map (·.ptr.length), collected (chunks.flatMap (·.ptr))) := curl_collected [] []
  have hbodyLen : (collected data).bodyLen = min data.length (RESULT_SIZE - 1) := rfl
  have hlength : (data.take (RESULT_SIZE - 1)).length = (collected data).bodyLen := by
    rw [List.length_take, Nat.min_comm, hbodyLen]
  have hcells := CArray.cells_ofBytes_nul (collected_fits data)
  change (collected data).body.cells = _ at hcells
  refine ⟨collected data, hesp chunks, hcurl chunks, rfl, ?_, ?_, ?_, ?_⟩
  · rw [hcells, List.take_left' hlength]
    exact List.take_eq_take_iff.mpr (by omega)
  · rw [CArray.read, hcells, List.getElem?_append_right (Nat.le_of_eq hlength), hlength,
      Nat.sub_self]
    rfl
  · intro pre _
    refine ⟨_, hesp pre, hcurl pre, ?_, ?_⟩
    · obtain ⟨hspace, hroom⟩ := space_collected (w := 32) (by decide) (pre.flatMap (·.ptr))
      omega
    · obtain ⟨hspace, hroom⟩ := space_collected (w := 64) (by decide) (pre.flatMap (·.ptr))
      omega
  · intro needle hne hplain
    refine bodyContains_collected ?_ hne
    intro h0
    obtain ⟨chunk, hchunk, hmem⟩ := List.mem_flatMap.mp h0
    exact hplain chunk hchunk hmem

def oneByte (b : UInt8) : CurlChunk := { ptr := [b], size := 1, nmemb := 1, length_eq := rfl }

/-- `"ab"` is found in a response that comes byte by byte. -/
theorem found_across_chunks :
    ∃ r, ([oneByte 97, oneByte 98].map CurlChunk.event).foldlM on_data {} = some r ∧
      r.bodyLen = 2 ∧ r.bodyContains ⟨[97, 98], by decide⟩ = true := by
  obtain ⟨r, hesp, _, hlen, _, _, _, hcontains⟩ := chunks_collected [oneByte 97, oneByte 98]
  have hplain : ∀ chunk ∈ [oneByte 97, oneByte 98], 0 ∉ chunk.ptr := by
    intro chunk hchunk
    rcases List.mem_cons.mp hchunk with rfl | hchunk
    · decide
    · obtain rfl := List.mem_singleton.mp hchunk
      decide
  have hinfix : [97, 98] <:+: [(97 : UInt8), 98] := ⟨[], [], rfl⟩
  exact ⟨r, hesp, hlen, (hcontains ⟨[97, 98], by decide⟩ (List.cons_ne_nil _ _) hplain).mpr hinfix⟩

/-! ## Requests -/

/-- A response by its bytes, whatever pieces they come in and whatever events come between
them, and how its transfer ends. -/
structure Response where
  data : List UInt8
  ok : Bool
  status : Int
  deriving DecidableEq

def espResponse (t : Transfer EspEvent) : Response where
  data := (t.chunks.filter (·.event_id = .HTTP_EVENT_ON_DATA)).flatMap (·.data)
  ok := t.ok
  status := t.status

def curlResponse (t : Transfer CurlChunk) : Response where
  data := t.chunks.flatMap (·.ptr)
  ok := t.ok
  status := t.status

/-- What a caller gets for a response, or when no client could be made. -/
def resultFor : Option Response → HttpResult
  | none => {}
  | some r => (collected r.data).finish r.ok r.status

theorem events_collected (data : List UInt8) (events : List EspEvent) :
    events.foldlM on_data (collected data) = some (collected
      (data ++ (events.filter (·.event_id = .HTTP_EVENT_ON_DATA)).flatMap (·.data))) := by
  induction events generalizing data with
  | nil => exact congrArg (fun d => some (collected d)) (List.append_nil data).symm
  | cons evt events ih =>
    rw [List.foldlM_cons]
    cases hid : evt.event_id with
    | HTTP_EVENT_ON_DATA =>
      have happend : on_data (collected data) evt = some (collected (data ++ evt.data)) := by
        rw [on_data, if_pos hid]
        exact append_collected (by decide) data evt.data
      have hfilter : (evt :: events).filter (·.event_id = .HTTP_EVENT_ON_DATA) =
          evt :: events.filter (·.event_id = .HTTP_EVENT_ON_DATA) :=
        List.filter_cons_of_pos (decide_eq_true hid)
      rw [happend, hfilter, List.flatMap_cons, ← List.append_assoc]
      exact ih (data ++ evt.data)
    | other =>
      have hfilter : (evt :: events).filter (·.event_id = .HTTP_EVENT_ON_DATA) =
          events.filter (·.event_id = .HTTP_EVENT_ON_DATA) :=
        List.filter_cons_of_neg (by rw [hid]; decide)
      rw [on_data_other _ hid, hfilter]
      exact ih data

theorem espRequest_eq (client : Option (Transfer EspEvent)) :
    espRequest client = some (resultFor (client.map espResponse)) := by
  cases client with
  | none => rfl
  | some t =>
    have hfold := events_collected [] t.chunks
    change (do
      let result ← t.chunks.foldlM on_data (collected [])
      return result.finish t.ok t.status) = _
    rw [hfold]
    rfl

theorem curlRequest_eq (client : Option (Transfer CurlChunk)) :
    curlRequest client = some (resultFor (client.map curlResponse)) := by
  cases client with
  | none => rfl
  | some t =>
    have hfold : t.chunks.foldlM curlDeliver ([], {}) =
        some (t.chunks.map (·.ptr.length), collected (t.chunks.flatMap (·.ptr))) :=
      curl_collected [] [] t.chunks
    unfold curlRequest
    dsimp only
    rw [hfold]
    rfl

theorem resultFor_success (r : Option Response) : (resultFor r).success = true ↔
    ∃ response, r = some response ∧ response.ok = true ∧ 200 ≤ response.status ∧
      response.status < 300 := by
  cases r with
  | none => simp [resultFor]
  | some response =>
    cases hok : response.ok with
    | false => simp [resultFor, HttpResult.finish, collected, hok]
    | true => simp [resultFor, HttpResult.finish, hok]

theorem resultFor_body (r : Option Response) :
    (resultFor r).body.cells.take (resultFor r).bodyLen =
      ((r.map Response.data).getD []).take (RESULT_SIZE - 1) := by
  cases r with
  | none => rfl
  | some response =>
    have hkeeps : (resultFor (some response)).body = (collected response.data).body ∧
        (resultFor (some response)).bodyLen = (collected response.data).bodyLen := by
      cases hok : response.ok <;> simp [resultFor, HttpResult.finish, hok]
    have hlength : (response.data.take (RESULT_SIZE - 1)).length =
        (collected response.data).bodyLen := by
      rw [List.length_take, Nat.min_comm]
      rfl
    rw [hkeeps.1, hkeeps.2]
    change (CArray.ofBytes RESULT_SIZE (response.data.take (RESULT_SIZE - 1))).cells.take _ = _
    rw [CArray.cells_ofBytes_nul (collected_fits response.data), List.take_left' hlength]
    rfl

/-- Whatever the call, both platforms give one result for one response, however it is cut into
pieces: a success exactly for a completed transfer with a status of the 200s, and the bytes as
far as they fit, whether or not it is a success. -/
theorem requests_agree {esp : EspClient → Option (Transfer EspEvent)}
    {curl : CurlHandle → Option (Transfer CurlChunk)} {call : HttpCall}
    (h : (esp call.espClient).map espResponse = (curl call.curlHandle).map curlResponse) :
    ∃ r, call.onDevice esp = some r ∧ call.onDesktop curl = some r ∧
      (r.success = true ↔ ∃ t, curl call.curlHandle = some t ∧ t.ok = true ∧ 200 ≤ t.status ∧
        t.status < 300) ∧
      r.body.cells.take r.bodyLen =
        (((curl call.curlHandle).map fun t => t.chunks.flatMap (·.ptr)).getD []).take 1023 := by
  rw [call.onDevice_eq, call.onDesktop_eq]
  generalize curl call.curlHandle = desktop at h ⊢
  refine ⟨resultFor (desktop.map curlResponse), ?_, curlRequest_eq desktop, ?_, ?_⟩
  · rw [espRequest_eq, h]
  · rw [resultFor_success]
    cases desktop with
    | none => simp
    | some t => simp [curlResponse]
  · rw [resultFor_body]
    cases desktop with
    | none => rfl
    | some t => rfl

/-- A device and a desktop that answer every GET with 404 and a page, in one piece after the
event for the connection and byte by byte, and do not reach a server that takes a POST. -/
def pageOnDevice (client : EspClient) : Option (Transfer EspEvent) :=
  if client.method = .HTTP_METHOD_GET then
    some ⟨[⟨.other, []⟩, ⟨.HTTP_EVENT_ON_DATA, [97, 98]⟩], true, 404⟩
  else none

def pageOnDesktop (handle : CurlHandle) : Option (Transfer CurlChunk) :=
  if handle.post then none else some ⟨[oneByte 97, oneByte 98], true, 404⟩

/-- `"http://a"` -/
def pageUrl : CString := ⟨[104, 116, 116, 112, 58, 47, 47, 97], by decide⟩

theorem two_platforms_agree :
    ∃ r, Esp.httpGet pageOnDevice pageUrl 10000 = some r ∧
      Curl.httpGet pageOnDesktop pageUrl 10000 = some r ∧ ¬r.success = true := by
  have hsame : (pageOnDevice (HttpCall.httpGet pageUrl 10000).espClient).map espResponse =
      (pageOnDesktop (HttpCall.httpGet pageUrl 10000).curlHandle).map curlResponse := by
    decide
  obtain ⟨r, hdevice, hdesktop, hsuccess, _⟩ := requests_agree hsame
  refine ⟨r, hdevice, hdesktop, ?_⟩
  rw [hsuccess]
  rintro ⟨t, ht, _, _, hbelow⟩
  obtain rfl := Option.some.inj ht
  exact absurd hbelow (by decide)

end UngulaNet.Http
