import UngulaNet.Http.HttpRequest

/-!
# The HTTP server

`HttpServer` over ESP-IDF's httpd. The answers of httpd are arguments of the calls that
ask it: whether a start or a registration succeeds, and the result of every frame sent.
A handler is of any type `H`, a null function pointer is `none`. An access outside the
array of client descriptors is `none`, too.
-/

namespace UngulaNet.Http
set_option autoImplicit false

inductive Method where
  | GET
  | POST
  | PUT
  | DELETE_
  deriving DecidableEq

def MAX_ROUTES : Nat := 40

def MAX_WS_CLIENTS : Nat := 4

structure Route (H : Type) where
  method : Method
  path : CString
  handler : Option H

inductive UriHandler where
  | generic_handler
  | ws_handler
  deriving DecidableEq

structure HttpdUri where
  uri : CString
  method : HttpdMethod
  handler : UriHandler
  is_websocket : Bool := false
  deriving DecidableEq

inductive WsFrameType where
  | HTTPD_WS_TYPE_TEXT
  | HTTPD_WS_TYPE_PING
  | HTTPD_WS_TYPE_CLOSE
  | other
  deriving DecidableEq

structure WsFrame where
  type : WsFrameType
  payload : List UInt8 := []
  deriving DecidableEq

/-- A frame given to `httpd_ws_send_frame_async`, and its answer. -/
structure WsSend where
  fd : Int
  frame : WsFrame
  ok : Bool
  deriving DecidableEq

/-- The server object. `impl` and `instance_` stand for `impl_` and `s_instance` being set;
`handlers` and `sends` are what the running httpd has accepted and been given. -/
structure HttpServer (H : Type) where
  impl : Bool := false
  instance_ : Bool := false
  handlers : List HttpdUri := []
  sends : List WsSend := []
  routes : List (Route H) := []
  notFoundHandler : Option H := none
  wsClientFds : CArray Int MAX_WS_CLIENTS := .replicate MAX_WS_CLIENTS 0
  wsClientCount : Nat := 0
  wsEnabled : Bool := false

namespace HttpServer
variable {H : Type}

def new : HttpServer H := {}

/-! ## Setting up -/

def start (s : HttpServer H) (ok : Bool) : HttpServer H :=
  if s.impl then s
  else if ok then { s with impl := true, instance_ := true, handlers := [] }
  else s

def stop (s : HttpServer H) : HttpServer H :=
  if s.impl then { s with impl := false, instance_ := false, handlers := [], wsClientCount := 0 }
  else s

def route (s : HttpServer H) (method : Method) (path : CString) (handler : Option H) :
    HttpServer H :=
  if s.routes.length ≥ MAX_ROUTES then s
  else { s with routes := s.routes ++ [{ method := method, path := path, handler := handler }] }

def setNotFoundHandler (s : HttpServer H) (handler : Option H) : HttpServer H :=
  { s with notFoundHandler := handler }

/-- `httpd_register_uri_handler`. -/
def registerUriHandler (s : HttpServer H) (uri : HttpdUri) (ok : Bool) : HttpServer H :=
  if ok then { s with handlers := s.handlers ++ [uri] } else s

/-- `"/*"` -/
def wildcard : CString := ⟨[47, 42], by decide⟩

def ready (s : HttpServer H) (getOk postOk putOk : Bool) : HttpServer H :=
  if !s.impl then s
  else
    let get_uri : HttpdUri :=
      { uri := wildcard, method := .HTTP_GET, handler := .generic_handler }
    let post_uri : HttpdUri :=
      { uri := wildcard, method := .HTTP_POST, handler := .generic_handler }
    let put_uri : HttpdUri :=
      { uri := wildcard, method := .HTTP_PUT, handler := .generic_handler }
    ((s.registerUriHandler get_uri getOk).registerUriHandler post_uri postOk).registerUriHandler
      put_uri putOk

def enableWebSocket (s : HttpServer H) (path : CString) (ok : Bool) : Bool × HttpServer H :=
  if !s.impl then (false, s)
  else
    let ws_uri : HttpdUri :=
      { uri := path, method := .HTTP_GET, handler := .ws_handler, is_websocket := true }
    let s := s.registerUriHandler ws_uri ok
    if ok then (true, { s with wsEnabled := true }) else (false, s)

/-! ## Requests -/

/-- What `generic_handler` does with a request. -/
inductive Handled (H : Type) where
  | fail
  | notFound
  | invoked (handler : H) (req : HttpRequest)

/-- The path of a URI as `char path[128]` receives it: what stands before the first `?`. -/
def requestPath (uri : CString) : CString :=
  match uri.strchr 63 with
  | some path_len => uri.take (if path_len ≥ 128 then 128 - 1 else path_len)
  | none => uri.take (128 - 1)

def toMethod : HttpdMethod → Option Method
  | .HTTP_GET => some .GET
  | .HTTP_POST => some .POST
  | .HTTP_PUT => some .PUT
  | .HTTP_DELETE => some .DELETE_
  | .other _ => none

/-- `none` only for an access outside the body buffer. -/
def generic_handler (s : HttpServer H) (req : HttpdReq) : Option (Handled H) :=
  if !s.instance_ then some .fail
  else
    match toMethod req.method with
    | none => some .fail
    | some method =>
      let path := requestPath req.uri
      let found := s.routes.find? fun r => r.method = method ∧ r.path = path
      match (found.bind (·.handler)).or s.notFoundHandler with
      | none => some .notFound
      | some handler => do
        let http_req : HttpRequest := { impl := req }
        let http_req := { http_req with uri := http_req.uri.strncpy path }
        let http_req := parseQueryParams req http_req
        let http_req ←
          if method = .POST ∨ method = .PUT then readBody req http_req else some http_req
        return .invoked handler http_req

/-! ## WebSocket clients -/

/-- The descriptors of the registered clients. -/
def clients (s : HttpServer H) : List Int := s.wsClientFds.filled s.wsClientCount

def httpd_ws_connect (s : HttpServer H) (fd_val : Int) : Option (HttpServer H) :=
  if s.wsClientCount ≥ MAX_WS_CLIENTS then some s
  else do
    match ← s.wsClientFds.findFrom fd_val 0 s.wsClientCount with
    | some _ => return s
    | none =>
      let fds ← s.wsClientFds.write s.wsClientCount fd_val
      return { s with wsClientFds := fds, wsClientCount := s.wsClientCount + 1 }

def httpd_ws_disconnect (s : HttpServer H) (fd_val : Int) : Option (HttpServer H) := do
  match ← s.wsClientFds.findFrom fd_val 0 s.wsClientCount with
  | none => return s
  | some idx =>
    let fds ← s.wsClientFds.shiftFrom idx (s.wsClientCount - 1 - idx)
    return { s with wsClientFds := fds, wsClientCount := s.wsClientCount - 1 }

/-- `received` is the frame that `httpd_ws_recv_frame` finds, if it succeeds. -/
def ws_handler (s : HttpServer H) (method : HttpdMethod) (fd : Int) (received : Option WsFrame) :
    Option (HttpServer H) :=
  if !s.instance_ then some s
  else if method = .HTTP_GET then s.httpd_ws_connect fd
  else
    match received with
    | none => some s
    | some ws_pkt =>
      if ws_pkt.type = .HTTPD_WS_TYPE_CLOSE then s.httpd_ws_disconnect fd else some s

def on_close (s : HttpServer H) (sockfd : Int) : Option (HttpServer H) :=
  if s.instance_ then s.httpd_ws_disconnect sockfd else some s

/-- The loop `for (idx = wsClientCount_ - 1; idx >= 0; --idx)` of a broadcast, `idx + 1`
turns before its end. `ok n fd` answers the send to `fd` that comes after `n` others. -/
def sendFrom (s : HttpServer H) (frame : WsFrame) (ok : Nat → Int → Bool) (sent : Nat) :
    Nat → Option (Nat × HttpServer H)
  | 0 => some (sent, s)
  | idx + 1 => do
    let fd ← s.wsClientFds.read idx
    let ret := ok s.sends.length fd
    let call : WsSend := { fd := fd, frame := frame, ok := ret }
    let s := { s with sends := s.sends ++ [call] }
    if ret then s.sendFrom frame ok (sent + 1) idx
    else do
      let fd ← s.wsClientFds.read idx
      let s ← s.httpd_ws_disconnect fd
      s.sendFrom frame ok sent idx

def wsSend (s : HttpServer H) (frame : WsFrame) (ok : Nat → Int → Bool) :
    Option (Nat × HttpServer H) :=
  if !s.impl ∨ s.wsClientCount = 0 then some (0, s)
  else s.sendFrom frame ok 0 s.wsClientCount

def wsBroadcast (s : HttpServer H) (data : List UInt8) (ok : Nat → Int → Bool) :
    Option (Nat × HttpServer H) :=
  s.wsSend { type := .HTTPD_WS_TYPE_TEXT, payload := data } ok

def wsPing (s : HttpServer H) (ok : Nat → Int → Bool) : Option (Nat × HttpServer H) :=
  s.wsSend { type := .HTTPD_WS_TYPE_PING } ok

end HttpServer

/-- The calls that set a server up, with the answers of httpd. -/
inductive SetupCall (H : Type) where
  | route (method : Method) (path : CString) (handler : Option H)
  | setNotFoundHandler (handler : Option H)
  | start (ok : Bool)
  | ready (getOk postOk putOk : Bool)
  | enableWebSocket (path : CString) (ok : Bool)

def SetupCall.apply {H : Type} (s : HttpServer H) : SetupCall H → HttpServer H
  | .route method path handler => s.route method path handler
  | .setNotFoundHandler handler => s.setNotFoundHandler handler
  | .start ok => s.start ok
  | .ready getOk postOk putOk => s.ready getOk postOk putOk
  | .enableWebSocket path ok => (s.enableWebSocket path ok).2

/-- Everything that changes a server: the calls of the application, and those that httpd
makes for its sockets. -/
inductive ServerOp (H : Type) where
  | setup (call : SetupCall H)
  | stop
  | httpd_ws_connect (fd : Int)
  | httpd_ws_disconnect (fd : Int)
  | ws_handler (method : HttpdMethod) (fd : Int) (received : Option WsFrame)
  | on_close (fd : Int)
  | wsBroadcast (data : List UInt8) (ok : Nat → Int → Bool)
  | wsPing (ok : Nat → Int → Bool)

/-- `none` only for an access outside the array of descriptors. -/
def ServerOp.apply {H : Type} (s : HttpServer H) : ServerOp H → Option (HttpServer H)
  | .setup call => some (call.apply s)
  | .stop => some s.stop
  | .httpd_ws_connect fd => s.httpd_ws_connect fd
  | .httpd_ws_disconnect fd => s.httpd_ws_disconnect fd
  | .ws_handler method fd received => s.ws_handler method fd received
  | .on_close fd => s.on_close fd
  | .wsBroadcast data ok => (s.wsBroadcast data ok).map Prod.snd
  | .wsPing ok => (s.wsPing ok).map Prod.snd

end UngulaNet.Http
