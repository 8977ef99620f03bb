import Mathlib.Algebra.Group.Nat.Defs
import UngulaNet.Http.RouteDispatch

/-!
# The body of a request

`readBody` asks for the body once and takes what comes. What a handler gets is the part of
the body that this one read delivered.
-/

namespace UngulaNet.Http
set_option autoImplicit false

/-- A healthy connection that has this body to deliver: a read gets at least one byte, and
at most as many as it asks for and are left. -/
structure Delivers (req : HttpdReq) (body : List UInt8) : Prop where
  length : req.content_len.toNat = body.length
  read : ∀ n, 0 < n → ∃ k, 1 ≤ k ∧ k ≤ min n body.length ∧ req.recv n = body.take k

def HoldsBody (http_req : HttpRequest) (body : List UInt8) : Prop :=
  http_req.body.cells.take (min body.length (BODY_SIZE - 1) + 1) =
    body.take (BODY_SIZE - 1) ++ [0]

/-- What the first read leaves out are NULs. -/
def FirstReadSuffices (req : HttpdReq) (body : List UInt8) : Prop :=
  ∀ c ∈ (body.take (BODY_SIZE - 1)).drop
    (req.recv (min body.length (BODY_SIZE - 1))).length, c = 0

structure HandsBody {H : Type} (s : HttpServer H) (body : List UInt8) (req : HttpdReq)
    (http_req : HttpRequest) : Prop where
  running : s.instance_ = true
  method : req.method = .HTTP_POST ∨ req.method = .HTTP_PUT
  delivers : Delivers req body
  invoked : ∃ h, s.generic_handler req = some (.invoked h http_req)

theorem toInt_content_len {len : UInt32} (h : len.toNat < 2 ^ 31) :
    len.toInt32.toInt = len.toNat :=
  BitVec.toInt_eq_toNat_of_lt (by
    change 2 * len.toNat < 2 ^ 32
    omega)

theorem received_eq {req : HttpdReq} {body : List UInt8} (h : Delivers req body)
    (hpos : 0 < body.length) (hlen : body.length < 2 ^ 31) :
    received req = req.recv (min body.length (BODY_SIZE - 1)) := by
  have hsize : BODY_SIZE = 384 := rfl
  have hint := toInt_content_len (h.length ▸ hlen)
  rw [h.length] at hint
  unfold received
  rw [hint]
  dsimp only
  have hmin : (if (body.length : Int) ≥ BODY_SIZE then BODY_SIZE - 1
      else (body.length : Int).toNat) = min body.length (BODY_SIZE - 1) := by
    split
    · omega
    · omega
  rw [if_neg (by omega), hmin]
  obtain ⟨k, _, hk, hread⟩ := h.read (min body.length (BODY_SIZE - 1)) (by omega)
  rw [hread, List.take_take, Nat.min_eq_right (by omega)]

section Body
variable {H : Type} {s : HttpServer H} {body : List UInt8} {req : HttpdReq}
  {http_req : HttpRequest}

theorem HandsBody.handedOver (h : HandsBody s body req http_req) :
    ∃ m, (m = .POST ∨ m = .PUT) ∧ HandedOver m req http_req := by
  obtain ⟨handler, hrun⟩ := h.invoked
  have hover : ∀ m : Method, req.method = m.toHttpd → HandedOver m req http_req := by
    intro m hmethod
    rcases generic_handler_spec h.running hmethod with ⟨_, hnone⟩ | ⟨_, _, _, hinvoked, hover⟩
    · exact nomatch hnone.symm.trans hrun
    · obtain ⟨_, rfl⟩ := HttpServer.Handled.invoked.inj (Option.some.inj (hrun.symm.trans hinvoked))
      exact hover
  rcases h.method with hpost | hput
  · exact ⟨.POST, Or.inl rfl, hover .POST hpost⟩
  · exact ⟨.PUT, Or.inr rfl, hover .PUT hput⟩

theorem HandsBody.body_eq (h : HandsBody s body req http_req) (hpos : 0 < body.length)
    (hlen : body.length < 2 ^ 31) :
    ∃ k, k ≤ min body.length (BODY_SIZE - 1) ∧
      (req.recv (min body.length (BODY_SIZE - 1))).length = k ∧
      http_req.body = .ofBytes BODY_SIZE (body.take k) := by
  have hsize : BODY_SIZE = 384 := rfl
  obtain ⟨m, hm, hover⟩ := h.handedOver
  obtain ⟨k, _, hk, hread⟩ := h.delivers.read (min body.length (BODY_SIZE - 1)) (by omega)
  have hlength : (body.take k).length = k := List.length_take_of_le (by omega)
  refine ⟨k, by omega, hread ▸ hlength, ?_⟩
  rw [hover.body hm, received_eq h.delivers hpos hlen, hread]

/-- What was left out are NULs exactly when NULs in its place make the whole body. -/
theorem suffices_iff {k : Nat} (hk : k ≤ min body.length (BODY_SIZE - 1))
    (hread : (req.recv (min body.length (BODY_SIZE - 1))).length = k) :
    FirstReadSuffices req body ↔ body.take (BODY_SIZE - 1) =
      body.take k ++ List.replicate (min body.length (BODY_SIZE - 1) - k) 0 := by
  have hlength : ((body.take (BODY_SIZE - 1)).drop k).length =
      min body.length (BODY_SIZE - 1) - k := by
    rw [List.length_drop, List.length_take, Nat.min_comm]
  have hcut : body.take (BODY_SIZE - 1) = body.take k ++ (body.take (BODY_SIZE - 1)).drop k := by
    have htake : (body.take (BODY_SIZE - 1)).take k = body.take k := by
      rw [List.take_take, Nat.min_eq_left (by omega)]
    rw [← htake, List.take_append_drop]
  rw [FirstReadSuffices, hread, hcut, List.append_cancel_left_eq, ← hcut, List.eq_replicate_iff]
  exact ⟨fun h => ⟨hlength, h⟩, fun h => h.2⟩

theorem HandsBody.body_whole (h : HandsBody s body req http_req) (hpos : 0 < body.length)
    (hlen : body.length < 2 ^ 31) (hfirst : FirstReadSuffices req body) :
    http_req.body = .ofBytes BODY_SIZE (body.take (BODY_SIZE - 1)) := by
  have hsize : BODY_SIZE = 384 := rfl
  obtain ⟨k, hk, hread, hbody⟩ := h.body_eq hpos hlen
  have hlength : (body.take k).length = k := List.length_take_of_le (by omega)
  rw [hbody, (suffices_iff hk hread).mp hfirst, CArray.ofBytes_append_nuls (by omega)]

/-- A handler gets the body up to what the buffer holds exactly when the first read delivered
that much, and two deliveries of one body that did so give the same buffer. -/
theorem body_held_iff (hpos : 0 < body.length) (hlen : body.length < 2 ^ 31)
    (h : HandsBody s body req http_req) :
    (HoldsBody http_req body ↔ FirstReadSuffices req body) ∧
      ∀ req' http_req', HandsBody s body req' http_req' →
        FirstReadSuffices req body → FirstReadSuffices req' body →
          http_req'.body = http_req.body := by
  have hsize : BODY_SIZE = 384 := rfl
  constructor
  · obtain ⟨k, hk, hread, hbody⟩ := h.body_eq hpos hlen
    have hlength : (body.take k).length = k := List.length_take_of_le (by omega)
    have hnuls : min body.length (BODY_SIZE - 1) + 1 - k =
        min body.length (BODY_SIZE - 1) - k + 1 := by omega
    have hfront : http_req.body.cells.take (min body.length (BODY_SIZE - 1) + 1) =
        body.take k ++ List.replicate (min body.length (BODY_SIZE - 1) - k) 0 ++ [0] := by
      rw [hbody, CArray.cells_ofBytes (by omega), hlength, List.take_append, hlength,
        List.take_of_length_le (by omega), List.take_replicate, Nat.min_eq_left (by omega),
        hnuls, List.replicate_succ', List.append_assoc]
    rw [HoldsBody, hfront, List.append_cancel_right_eq, suffices_iff hk hread]
    exact eq_comm
  · intro req' http_req' h' hfirst hfirst'
    rw [h.body_whole hpos hlen hfirst, h'.body_whole hpos hlen hfirst']

end Body

section Example

def postServer : HttpServer Nat := (HttpServer.new.route .POST pathA (some 1)).start true

/-- A POST to it with the body `"ab"`, of which the first read delivers at most `first`
bytes. -/
def postAB (first : Nat) : HttpdReq :=
  { method := .HTTP_POST, uri := pathA, query := pathA.take 0, content_len := 2,
    recv := fun n => [97, 98].take (min n first) }

theorem postAB_delivers {first : Nat} (h : 0 < first) : Delivers (postAB first) [97, 98] := by
  refine ⟨rfl, fun n hn => ⟨min (min n first) 2, ?_, ?_, ?_⟩⟩
  · omega
  · change _ ≤ min n 2
    omega
  · exact List.take_eq_take_min

theorem postAB_handed (first : Nat) (h : 0 < first) :
    ∃ http_req, HandsBody postServer [97, 98] (postAB first) http_req := by
  have hmethod : (postAB first).method = Method.POST.toHttpd := rfl
  have hfor : postServer.handlerFor .POST (HttpServer.requestPath (postAB first).uri) = some 1 :=
    rfl
  obtain ⟨http_req, hrun⟩ := generic_handler_invokes (s := postServer) rfl hmethod hfor
  exact ⟨http_req, rfl, Or.inl rfl, postAB_delivers h, 1, hrun⟩

theorem whole_body_held : ∃ http_req, HandsBody postServer [97, 98] (postAB 2) http_req ∧
    HoldsBody http_req [97, 98] := by
  obtain ⟨http_req, h⟩ := postAB_handed 2 (by decide)
  refine ⟨http_req, h, ?_⟩
  have hfirst : FirstReadSuffices (postAB 2) [97, 98] := fun c hc => nomatch hc
  exact (body_held_iff (by decide) (by decide) h).1.mpr hfirst

/-- The same body in two segments: the handler gets the first of them. -/
theorem fragmented_body_lost : ∃ http_req http_req',
    HandsBody postServer [97, 98] (postAB 2) http_req ∧
      HandsBody postServer [97, 98] (postAB 1) http_req' ∧
      http_req.body.cstr.val = [97, 98] ∧ http_req'.body.cstr.val = [97] ∧
      ¬HoldsBody http_req' [97, 98] := by
  obtain ⟨http_req, h⟩ := postAB_handed 2 (by decide)
  obtain ⟨http_req', h'⟩ := postAB_handed 1 (by decide)
  obtain ⟨k, _, hread, hbody⟩ := h.body_eq (by decide) (by decide)
  obtain ⟨k', _, hread', hbody'⟩ := h'.body_eq (by decide) (by decide)
  obtain rfl : 2 = k := hread
  obtain rfl : 1 = k' := hread'
  have hab : http_req.body.cstr = ⟨[97, 98], by decide⟩ := by
    rw [hbody]
    exact CArray.cstr_ofBytes _ (by decide)
  have ha : http_req'.body.cstr = ⟨[97], by decide⟩ := by
    rw [hbody']
    exact CArray.cstr_ofBytes _ (by decide)
  refine ⟨http_req, http_req', h, h', by rw [hab], by rw [ha], ?_⟩
  rw [HoldsBody, hbody']
  decide

end Example
end UngulaNet.Http
