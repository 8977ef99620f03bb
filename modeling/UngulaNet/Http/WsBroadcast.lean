import Mathlib.Data.List.Induction
import Mathlib.Data.List.Nodup
import UngulaNet.Http.HttpServer

/-!
# Registering and reaching WebSocket clients

What the three loops over the array of descriptors do to the list it holds: a connect
appends, a disconnect erases, a broadcast keeps those that could be sent to. The broadcast
goes from the back, so an erased entry moves only clients that have had their turn.
-/

namespace UngulaNet.Http
set_option autoImplicit false

namespace HttpServer
variable {H : Type} {s s' : HttpServer H}

def SameButClients (s s' : HttpServer H) : Prop :=
  s' = { s with wsClientFds := s'.wsClientFds, wsClientCount := s'.wsClientCount }

theorem clients_length (h : s.wsClientCount ≤ MAX_WS_CLIENTS) :
    s.clients.length = s.wsClientCount :=
  s.wsClientFds.filled_length h

theorem connect_spec (h : s.wsClientCount ≤ MAX_WS_CLIENTS) (fd : Int) :
    ∃ s', s.httpd_ws_connect fd = some s' ∧ SameButClients s s' ∧
      s'.wsClientCount ≤ MAX_WS_CLIENTS ∧
      s'.clients = s.clients ++
        if s.wsClientCount < MAX_WS_CLIENTS ∧ fd ∉ s.clients then [fd] else [] := by
  unfold httpd_ws_connect
  by_cases hfull : s.wsClientCount ≥ MAX_WS_CLIENTS
  · refine ⟨s, if_pos hfull, rfl, h, ?_⟩
    rw [if_neg (fun hroom => absurd hroom.1 (Nat.not_lt.mpr hfull)), List.append_nil]
  · have hroom := Nat.not_le.mp hfull
    rw [if_neg hfull, CArray.find_filled _ fd h]
    cases hfind : (s.wsClientFds.filled s.wsClientCount).idxOf? fd with
    | some idx =>
      have hmem : fd ∈ s.clients := List.isSome_idxOf?.mp (by rw [clients, hfind]; rfl)
      refine ⟨s, rfl, rfl, h, ?_⟩
      rw [if_neg (fun hnew => hnew.2 hmem), List.append_nil]
    | none =>
      have hnew : fd ∉ s.clients := List.idxOf?_eq_none_iff.mp hfind
      obtain ⟨fds, hwrite, hfilled⟩ := s.wsClientFds.write_push hroom fd
      refine ⟨{ s with wsClientFds := fds, wsClientCount := s.wsClientCount + 1 }, ?_, rfl,
        hroom, ?_⟩
      · rw [Option.bind_eq_bind, Option.bind_some]
        dsimp only
        rw [hwrite]
        rfl
      · rw [if_pos ⟨hroom, hnew⟩]
        exact hfilled

theorem disconnect_spec (h : s.wsClientCount ≤ MAX_WS_CLIENTS) (fd : Int) :
    ∃ s', s.httpd_ws_disconnect fd = some s' ∧ SameButClients s s' ∧
      s'.wsClientCount ≤ MAX_WS_CLIENTS ∧ s'.clients = s.clients.erase fd := by
  unfold httpd_ws_disconnect
  rw [CArray.find_filled _ fd h]
  cases hfind : (s.wsClientFds.filled s.wsClientCount).idxOf? fd with
  | none =>
    have hnew : fd ∉ s.clients := List.idxOf?_eq_none_iff.mp hfind
    exact ⟨s, rfl, rfl, h, (List.erase_of_not_mem hnew).symm⟩
  | some idx =>
    obtain ⟨_, fds, hshift, hfilled⟩ := s.wsClientFds.shift_found h hfind
    refine ⟨{ s with wsClientFds := fds, wsClientCount := s.wsClientCount - 1 }, ?_, rfl, ?_,
      hfilled⟩
    · rw [Option.bind_eq_bind, Option.bind_some]
      dsimp only
      rw [hshift]
      rfl
    · exact Nat.le_trans (Nat.sub_le _ _) h

/-- The clients that the sends of a broadcast reached, in the order of the sends. -/
def reached (sends : List WsSend) : List Int := (sends.filter (·.ok)).map (·.fd)

theorem reached_append (calls calls' : List WsSend) :
    reached (calls ++ calls') = reached calls ++ reached calls' := by
  rw [reached, List.filter_append, List.map_append]
  rfl

def failed (sends : List WsSend) : List Int := (sends.filter (!·.ok)).map (·.fd)

/-- With one send to each client, those that were reached are all the others. -/
theorem reached_eq_filter {calls : List WsSend} (h : (calls.map (·.fd)).Nodup) :
    reached calls = (calls.map (·.fd)).filter fun fd => fd ∉ failed calls := by
  induction calls with
  | nil => rfl
  | cons call calls ih =>
    rw [List.map_cons, List.nodup_cons] at h
    obtain ⟨hnew, hrest⟩ := h
    have hfailed : call.fd ∉ failed calls := by
      intro hmem
      obtain ⟨c, hc, hfd⟩ := List.mem_map.mp hmem
      exact hnew (hfd ▸ List.mem_map_of_mem (List.mem_of_mem_filter hc))
    cases hok : call.ok with
    | true =>
      have hreached : reached (call :: calls) = call.fd :: reached calls := by
        simp [reached, hok]
      have hsame : failed (call :: calls) = failed calls := by simp [failed, hok]
      rw [hreached, hsame, List.map_cons, List.filter_cons_of_pos (by simp [hfailed]),
        ih hrest]
    | false =>
      have hreached : reached (call :: calls) = reached calls := by simp [reached, hok]
      have hmore : failed (call :: calls) = call.fd :: failed calls := by simp [failed, hok]
      rw [hreached, hmore, List.map_cons, List.filter_cons_of_neg (by simp), ih hrest]
      refine List.filter_congr ?_
      intro fd hfd
      have hne : fd ≠ call.fd := fun heq => hnew (heq ▸ hfd)
      simp [hne]

structure SentTo (s : HttpServer H) (frame : WsFrame) (todo done : List Int)
    (calls : List WsSend) (s' : HttpServer H) : Prop where
  sends : s'.sends = s.sends ++ calls
  frames : ∀ call ∈ calls, call.frame = frame
  attempts : calls.map (·.fd) = todo.reverse
  clients : s'.clients = (reached calls).reverse ++ done
  count_le : s'.wsClientCount ≤ MAX_WS_CLIENTS
  frame_eq : SameButClients { s with sends := s'.sends } s'

theorem SentTo.cons {frame : WsFrame} {todo done done' : List Int} {call : WsSend}
    {calls : List WsSend} {s₁ s₂ s' : HttpServer H}
    (hcall : call.frame = frame) (hs₁ : s₁ = { s with sends := s.sends ++ [call] })
    (hs₂ : SameButClients s₁ s₂) (hdone : done' = (reached [call]) ++ done)
    (h : SentTo s₂ frame todo done' calls s') :
    SentTo s frame (todo ++ [call.fd]) done (call :: calls) s' := by
  have hsends : s₂.sends = s.sends ++ [call] := by rw [hs₂, hs₁]
  have hreached : reached (call :: calls) = reached [call] ++ reached calls :=
    reached_append [call] calls
  have hone : (reached [call]).reverse = reached [call] := by
    cases hok : call.ok <;> simp [reached, hok]
  refine ⟨?_, ?_, ?_, ?_, h.count_le, ?_⟩
  · rw [h.sends, hsends, List.append_assoc]
    rfl
  · intro c hc
    rcases List.mem_cons.mp hc with rfl | hc
    · exact hcall
    · exact h.frames c hc
  · rw [List.map_cons, h.attempts, List.reverse_append]
    rfl
  · rw [h.clients, hreached, List.reverse_append, hone, hdone, List.append_assoc]
  · have hframe := h.frame_eq
    rw [SameButClients, hs₂, hs₁] at hframe
    exact hframe

theorem sendFrom_spec (frame : WsFrame) (ok : Nat → Int → Bool) {todo done : List Int}
    (hcount : s.wsClientCount ≤ MAX_WS_CLIENTS) (hclients : s.clients = todo ++ done)
    (hnodup : (todo ++ done).Nodup) (sent : Nat) :
    ∃ calls s', s.sendFrom frame ok sent todo.length =
        some (sent + (reached calls).length, s') ∧ SentTo s frame todo done calls s' := by
  induction todo using List.reverseRecOn generalizing s done sent with
  | nil =>
    exact ⟨[], s, rfl, (List.append_nil _).symm, by simp, rfl, hclients, hcount, rfl⟩
  | append_singleton todo fd ih =>
    have hread : s.wsClientFds.read todo.length = some fd := by
      have hlt : todo.length < s.wsClientCount := by
        rw [← clients_length hcount, hclients]
        simp
      rw [CArray.read_filled _ hlt]
      change s.clients[todo.length]? = some fd
      rw [hclients]
      simp
    let call : WsSend := { fd := fd, frame := frame, ok := ok s.sends.length fd }
    let s₁ : HttpServer H := { s with sends := s.sends ++ [call] }
    have hs₁ : s₁ = { s with sends := s.sends ++ [call] } := rfl
    rw [List.length_append, List.length_singleton, sendFrom, hread]
    dsimp only [Option.bind_eq_bind, Option.bind_some]
    by_cases hret : ok s.sends.length fd = true
    · have hreached : reached [call] = [fd] := by simp [reached, call, hret]
      have hdone : s₁.clients = todo ++ fd :: done := hclients.trans (List.append_assoc _ _ _)
      have hperm : (todo ++ fd :: done).Nodup := by simpa using hnodup
      obtain ⟨calls, s', hrun, hsent⟩ := ih (s := s₁) hcount hdone hperm (sent + 1)
      refine ⟨call :: calls, s', ?_, hsent.cons rfl hs₁ (show SameButClients s₁ s₁ from rfl)
        (by rw [hreached]; rfl)⟩
      rw [if_pos hret, hrun, ← List.singleton_append, reached_append, hreached,
        List.singleton_append, List.length_cons, Nat.add_right_comm]
      rfl
    · have hreached : reached [call] = [] := by simp [reached, call, hret]
      obtain ⟨s₂, hdrop, hframe, hcount₂, hclients₂⟩ := disconnect_spec (s := s₁) hcount fd
      have hdone : s₂.clients = todo ++ done := by
        have hfd : fd ∉ todo := by
          intro hmem
          have hdisjoint := (List.nodup_append.mp (List.nodup_append.mp hnodup).1).2.2
          exact hdisjoint fd hmem fd (List.mem_singleton_self fd) rfl
        rw [hclients₂, show s₁.clients = s.clients from rfl, hclients, List.append_assoc,
          List.erase_append_right _ hfd]
        simp
      have hperm : (todo ++ done).Nodup := hdone ▸ hclients₂ ▸ (hclients ▸ hnodup).erase fd
      obtain ⟨calls, s', hrun, hsent⟩ := ih hcount₂ hdone hperm sent
      refine ⟨call :: calls, s', ?_, hsent.cons rfl hs₁ hframe (by rw [hreached]; rfl)⟩
      rw [if_neg hret, hread]
      dsimp only [Option.bind_some]
      rw [hdrop]
      dsimp only [Option.bind_some]
      rw [hrun, ← List.singleton_append, reached_append, hreached]
      rfl

theorem wsSend_spec (frame : WsFrame) (ok : Nat → Int → Bool)
    (hcount : s.wsClientCount ≤ MAX_WS_CLIENTS) (hnodup : s.clients.Nodup) (hrun : s.impl = true) :
    ∃ calls s', s.wsSend frame ok = some ((reached calls).length, s') ∧
      SentTo s frame s.clients [] calls s' := by
  unfold wsSend
  by_cases hnone : s.wsClientCount = 0
  · have hempty : s.clients = [] := by rw [clients, hnone, CArray.filled_zero]
    refine ⟨[], s, if_pos (Or.inr hnone), ?_⟩
    rw [hempty]
    exact ⟨(List.append_nil _).symm, by simp, rfl, hempty, hcount, rfl⟩
  · rw [if_neg (by simp [hrun, hnone])]
    have hall := sendFrom_spec frame ok hcount (List.append_nil s.clients).symm
      ((List.append_nil s.clients).symm ▸ hnodup) 0
    rw [clients_length hcount] at hall
    simpa only [Nat.zero_add] using hall

theorem SentTo.clients_eq {frame : WsFrame} {calls : List WsSend}
    (h : SentTo s frame s.clients [] calls s') (hnodup : s.clients.Nodup) :
    s'.clients = s.clients.filter fun fd => fd ∉ failed calls := by
  rw [h.clients, List.append_nil, reached_eq_filter (by
    rw [h.attempts]
    exact List.nodup_reverse.mpr hnodup), h.attempts, List.filter_reverse, List.reverse_reverse]

/-- One send of the frame to every client, and afterwards the list of those it reached. -/
def ReachesEveryClient (s : HttpServer H) (frame : WsFrame)
    (result : Option (Nat × HttpServer H)) : Prop :=
  ∃ calls count s', result = some (count, s') ∧ s'.sends = s.sends ++ calls ∧
    (∀ call ∈ calls, call.frame = frame) ∧ calls.map (·.fd) = s.clients.reverse ∧
    s'.clients = s.clients.filter (fun fd => fd ∉ failed calls) ∧
    count = (reached calls).length ∧ count = s'.wsClientCount

theorem wsSend_reaches (frame : WsFrame) (ok : Nat → Int → Bool)
    (hcount : s.wsClientCount ≤ MAX_WS_CLIENTS) (hnodup : s.clients.Nodup) (hrun : s.impl = true) :
    ReachesEveryClient s frame (s.wsSend frame ok) := by
  obtain ⟨calls, s', hsend, hsent⟩ := wsSend_spec frame ok hcount hnodup hrun
  have hlength : (reached calls).length = s'.wsClientCount := by
    rw [← clients_length hsent.count_le, hsent.clients, List.append_nil, List.length_reverse]
  exact ⟨calls, _, s', hsend, hsent.sends, hsent.frames, hsent.attempts,
    hsent.clients_eq hnodup, rfl, hlength⟩

/-- On a running server with distinct clients, a broadcast and a ping each try every client
once, keep those they reached in their order, and report how many these are. -/
theorem broadcast_reaches_every_client (s : HttpServer H)
    (hcount : s.wsClientCount ≤ MAX_WS_CLIENTS) (hnodup : s.clients.Nodup) (hrun : s.impl = true)
    (data : List UInt8) (ok : Nat → Int → Bool) :
    ReachesEveryClient s { type := .HTTPD_WS_TYPE_TEXT, payload := data } (s.wsBroadcast data ok) ∧
      ReachesEveryClient s { type := .HTTPD_WS_TYPE_PING } (s.wsPing ok) :=
  ⟨wsSend_reaches _ ok hcount hnodup hrun, wsSend_reaches _ ok hcount hnodup hrun⟩

section Example

def threeClients : HttpServer Unit :=
  { impl := true, instance_ := true, wsClientFds := ⟨[7, 5, 9, 0], rfl⟩, wsClientCount := 3 }

theorem ping_drops_five :
    ReachesEveryClient threeClients { type := .HTTPD_WS_TYPE_PING }
        (threeClients.wsPing fun _ fd => fd ≠ 5) ∧
      (threeClients.wsPing fun _ fd => fd ≠ 5).map (fun r => (r.1, r.2.clients)) =
        some (2, [7, 9]) :=
  ⟨(broadcast_reaches_every_client threeClients (by decide) (by decide) rfl [] _).2, by decide⟩

end Example
end HttpServer
end UngulaNet.Http
