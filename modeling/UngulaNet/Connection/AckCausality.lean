import UngulaNet.Connection.Reacquisition
import UngulaNet.Pairing.PairingAgreement

/-!
# Every accepted ack answers a probe

A node and its coordinator on a network that loses, delays, duplicates and reorders frames
but does not make them up. Acks carry no number and no address, so an ack may be an old one.
It was caused all the same: by a probe the node sent while it was searching, which the
coordinator heard while it knew the node, on the channel the ack names.
-/

namespace UngulaNet.Connection
open Comm Comm.Transport Pairing Runs
set_option autoImplicit false

/-- `nodeHears` is a frame that the node's receive handler takes. By `coordinatorMoves` the
application of the coordinator changes the channel of its radio. -/
inductive RadioEvent where
  | node (ev : NodeEvent)
  | nodeHears (data : List UInt8)
  | coordinator (op : CoordinatorOp)
  | coordinatorMoves (channel : UInt8)

/-- A frame for `dst` is heard at `addr`. -/
def Reaches (dst addr : MacAddress) : Prop := dst = addr ∨ dst = .broadcast

instance (dst addr : MacAddress) : Decidable (Reaches dst addr) :=
  inferInstanceAs (Decidable (_ ∨ _))

/-- One of these frames is heard at `addr` as `data`. -/
def OnAir (frames : List Frame) (addr : MacAddress) (data : List UInt8) : Prop :=
  ∃ f ∈ frames, Reaches f.1 addr ∧ f.2 = data

instance (frames : List Frame) (addr : MacAddress) (data : List UInt8) :
    Decidable (OnAir frames addr data) := inferInstanceAs (Decidable (∃ _ ∈ _, _))

theorem onAir_append {frames added : List Frame} {addr : MacAddress} {data : List UInt8} :
    OnAir (frames ++ added) addr data ↔ OnAir frames addr data ∨ OnAir added addr data := by
  unfold OnAir
  simp only [List.mem_append, or_and_right, exists_or]

theorem framesSince_sends {ρ : Type} {P : List UInt8 → Prop} {t t' : Transport ρ}
    (h : CallsOnly (Sends P) t t') {f : Frame} (hf : f ∈ framesSince t t') : P f.2 := by
  obtain ⟨added, hadded, hP⟩ := h
  rw [framesSince_eq hadded] at hf
  obtain ⟨call, hcall, hframe⟩ := List.mem_filterMap.mp hf
  have hsends := hP call hcall
  cases call with
  | send dst data =>
    obtain rfl := Option.some.inj hframe
    exact hsends
  | setChannel | addPeer | removePeer => exact absurd hframe (Option.some_ne_none f).symm

theorem onAir_of_sends {ρ : Type} {P : List UInt8 → Prop} {t t' : Transport ρ}
    (h : CallsOnly (Sends P) t t') {addr : MacAddress} {data : List UInt8}
    (hdata : OnAir t'.frames addr data) : OnAir t.frames addr data ∨ P data := by
  obtain ⟨added, hadded, _⟩ := id h
  rw [frames_eq hadded, onAir_append] at hdata
  rcases hdata with hold | ⟨f, hf, _, rfl⟩
  · exact Or.inl hold
  · exact Or.inr (framesSince_sends h hf)

section Node
variable {τ : Type} [ITransport τ]

/-- What the application's probe callback sends is not mistaken for a reconnect probe. -/
def PlainCallback (s : EspNowSessionProvider τ) : Prop :=
  ∀ cb, s.probeCb = some cb → ∀ mac t,
    CallsOnly (Sends fun data => ¬ IsReconnectProbe data) t (cb mac t)

/-- A step of the node that sends no reconnect probe. -/
def Quiet (s s' : EspNowSessionProvider τ) : Prop :=
  s'.probeCb = s.probeCb ∧
    CallsOnly (Sends fun data => ¬ IsReconnectProbe data) s.transport s'.transport

theorem ClientFrame.not_isReconnectProbe {data : List UInt8} (h : ClientFrame data) :
    ¬ IsReconnectProbe data := by
  obtain ⟨deviceId, rfl⟩ := h
  rintro ⟨_, hvalid⟩
  exact absurd hvalid (show ¬ (false = true) by decide)

theorem clientOp_calls (c : PairingClient τ) (op : ClientOp) :
    CallsOnly (Sends ClientFrame) c.transport (op.apply c).transport := by
  cases op with
  | loadStoredPairing =>
    have htuned : ∀ (ch : UInt8) (mac : MacAddress), CallsOnly (Sends ClientFrame) c.transport
        ((c.transport.setChannel ch).addPeer mac 0) := fun ch mac =>
      (CallsOnly.snoc (calls_setChannel _ ch) trivial).trans
        (CallsOnly.snoc (calls_addPeer _ mac 0) trivial)
    change CallsOnly _ c.transport c.loadStoredPairing.2.transport
    unfold PairingClient.loadStoredPairing
    dsimp only
    split
    · exact CallsOnly.refl _
    · split
      · exact CallsOnly.refl _
      · split <;> exact htuned _ _
  | setScanChannels channels => exact CallsOnly.refl _
  | startScanning => exact startScanning_calls c
  | stopScanning =>
    change CallsOnly _ c.transport c.stopScanning.transport
    unfold PairingClient.stopScanning
    split <;> exact CallsOnly.refl _
  | loop nowMs => exact clientLoop_calls c nowMs
  | handleReceived src data nowMs => exact clientReceives_calls c src data nowMs
  | onPaired => exact CallsOnly.refl _
  | setPairedChannel channel =>
    change CallsOnly _ c.transport (c.setPairedChannel channel).transport
    unfold PairingClient.setPairedChannel
    split <;> exact CallsOnly.refl _
  | clearPairing => exact CallsOnly.refl _

omit [ITransport τ] in
theorem quiet_pairing (s : EspNowSessionProvider τ) {c : PairingClient τ}
    (h : CallsOnly (Sends ClientFrame) s.transport c.transport) :
    Quiet s { s with pairing := c } := by
  refine ⟨rfl, h.imp ?_⟩
  intro call hcall
  cases call with
  | send dst data => exact ClientFrame.not_isReconnectProbe hcall
  | _ => trivial

omit [ITransport τ] in
theorem quiet_refl (s : EspNowSessionProvider τ) : Quiet s s := ⟨rfl, CallsOnly.refl _⟩

theorem sendProbe_calls {P : List UInt8 → Prop} {s : EspNowSessionProvider τ}
    (hcb : ∀ cb, s.probeCb = some cb → ∀ mac t, CallsOnly (Sends P) t (cb mac t)) :
    CallsOnly (Sends P) s.transport s.sendProbe.transport := by
  unfold EspNowSessionProvider.sendProbe
  split
  · exact CallsOnly.refl _
  · cases hsome : s.probeCb with
    | none => exact CallsOnly.refl _
    | some cb =>
      exact (CallsOnly.snoc (calls_addPeer s.transport _ 0) trivial).trans (hcb cb hsome _ _)

theorem quiet_sendProbe {s : EspNowSessionProvider τ} (hplain : PlainCallback s) :
    Quiet s s.sendProbe := by
  obtain ⟨t, he⟩ := s.sendProbe_eq
  exact ⟨by rw [he]; rfl, sendProbe_calls hplain⟩

theorem quiet_onReconnectAck (s : EspNowSessionProvider τ) (ack : ReconnectAck) :
    Quiet s (s.onReconnectAck ack).2 := by
  cases hr : s.reacquiring with
  | false =>
    rw [EspNowSessionProvider.onReconnectAck_idle hr]
    exact ⟨rfl, CallsOnly.refl _⟩
  | true =>
    rw [EspNowSessionProvider.onReconnectAck_accepts hr]
    exact ⟨rfl, (CallsOnly.snoc (calls_setChannel _ _) trivial).trans
      (CallsOnly.snoc (calls_addPeer _ _ 0) trivial)⟩

/-- A step that probes: the one frame it sends is a probe for the coordinator of the node's
pairing. -/
structure Probes (n n' : Node τ) : Prop where
  state : n.getState = .REACQUIRING_DYNAMIC
  paired : n.provider.pairing.isPaired = true
  callback : n'.provider.probeCb = n.provider.probeCb
  calls : ∃ ch, n'.provider.transport.calls = n.provider.transport.calls ++
    [.setChannel ch, .addPeer n.provider.pairing.coordinatorMac 0,
      .send n.provider.pairing.coordinatorMac
        (ReconnectProbe.init n.provider.pairing.deviceId).toBytes]

open ConnectionManager

theorem loopReacquisition_quiet_or (s : EspNowSessionProvider τ) (nowMs : UInt32) :
    (s.loopReacquisition nowMs).2 = s ∨
      (s.pairing.isPaired = true ∧ ∃ ch, (s.loopReacquisition nowMs).2.transport.calls =
        s.transport.calls ++ [.setChannel ch, .addPeer s.pairing.coordinatorMac 0,
          .send s.pairing.coordinatorMac (ReconnectProbe.init s.pairing.deviceId).toBytes]) := by
  unfold EspNowSessionProvider.loopReacquisition
  split
  · exact Or.inl rfl
  · rename_i hgo
    have hactive : s.reacquiring = true ∧ s.pairing.isPaired = true := by simpa using hgo
    refine Or.inr ⟨hactive.2, s.scanChannel, ?_⟩
    simp [EspNowSessionProvider.sendReconnectProbeOnChannel, EspNowSessionProvider.setTransport,
      EspNowSessionProvider.transport]

theorem loop_quiet_or {n : Node τ} (h : n.FlagAgrees) (hplain : PlainCallback n.provider)
    (nowMs : UInt32) : Quiet n.provider (n.loop nowMs).provider ∨ Probes n (n.loop nowMs) := by
  have hprobe := quiet_sendProbe hplain
  cases hs : n.state with
  | UNPAIRED_DISCOVERY =>
    have hdiscovery := quiet_pairing n.provider (clientLoop_calls n.provider.pairing nowMs)
    rcases loop_unpaired h hs nowMs with ⟨_, he⟩ | ⟨_, he⟩ <;> rw [he] <;>
      exact Or.inl hdiscovery
  | PAIRED_CONNECTED =>
    rcases loop_connected h hs nowMs with ⟨_, he⟩ | ⟨_, he⟩ <;> rw [he] <;>
      exact Or.inl (quiet_refl _)
  | PAIRED_DEGRADED =>
    rcases loop_degraded h hs nowMs with ⟨_, he⟩ | ⟨_, he⟩ <;> rw [he] <;>
      exact Or.inl (quiet_refl _)
  | REACQUIRING_STATIC =>
    rcases loop_static h hs nowMs with ⟨_, he⟩ | ⟨_, _, he⟩ | ⟨_, _, he⟩
    · rw [he]
      exact Or.inl (quiet_refl _)
    · rw [he]
      exact Or.inl hprobe
    · rw [he]
      exact Or.inl hprobe
  | REACQUIRING_DYNAMIC =>
    have hcallback : (n.provider.loopReacquisition nowMs).2.probeCb = n.provider.probeCb := by
      obtain ⟨t, i, hi⟩ := n.provider.loopReacquisition_eq nowMs
      rw [hi]
      rfl
    rcases loop_dynamic h hs nowMs with ⟨_, he⟩ | ⟨_, _, he⟩ | ⟨_, _, he⟩
    · rw [he]
      exact Or.inl (quiet_refl _)
    all_goals
      rcases loopReacquisition_quiet_or n.provider nowMs with hsame | ⟨hpaired, hcalls⟩
      · have htransport := congrArg EspNowSessionProvider.transport hsame
        rw [he]
        exact Or.inl ⟨hcallback, CallsOnly.of_eq htransport⟩
      · refine Or.inr ⟨hs, hpaired, ?_, ?_⟩ <;> rw [he]
        · exact hcallback
        · exact hcalls

/-- Of all events of the node only a pass of its loop in REACQUIRING_DYNAMIC probes. -/
theorem event_quiet_or {n : Node τ} (h : n.FlagAgrees) (hplain : PlainCallback n.provider)
    (ev : NodeEvent) : Quiet n.provider (ev.apply n).provider ∨
      ∃ nowMs, ev = .call .loop nowMs ∧ Probes n (ev.apply n) := by
  cases ev with
  | ack ack => exact Or.inl (quiet_onReconnectAck n.provider ack)
  | pairing op => exact Or.inl (quiet_pairing n.provider (clientOp_calls n.provider.pairing op))
  | call call nowMs =>
    by_cases hcall : call = .loop
    · subst hcall
      rcases loop_quiet_or h hplain nowMs with hquiet | hprobes
      · exact Or.inl hquiet
      · exact Or.inr ⟨nowMs, rfl, hprobes⟩
    · refine Or.inl ?_
      change Quiet n.provider (call.apply n nowMs).provider
      rcases apply_cases h hcall nowMs with he | ⟨_, he⟩ | he <;> rw [he] <;>
        exact quiet_refl _

theorem hear_quiet (n : Node τ) (data : List UInt8) : Quiet n.provider (n.hear data).provider := by
  unfold Node.hear
  split
  · exact quiet_onReconnectAck n.provider (.ofBytes data)
  · exact quiet_refl _

omit [ITransport τ] in
theorem PlainCallback.congr {s s' : EspNowSessionProvider τ} (h : PlainCallback s)
    (hsame : s'.probeCb = s.probeCb) : PlainCallback s' := by
  intro cb hcb
  exact h cb (hsame.symm.trans hcb)

theorem hear_nodeInv {n : Node τ} (h : NodeInv n) (data : List UInt8) : NodeInv (n.hear data) := by
  unfold Node.hear
  split
  · exact apply_nodeInv h _
  · exact h

end Node

section Coordinator
variable {σ : Type} [ITransport σ]

theorem isReconnectAck_iff (ch : UInt8) (o : Outbound) :
    IsReconnectAck (o.bytes ch) ↔ o = .ack := by
  cases o with
  | ack => exact iff_of_true (isReconnectAck_init ch) rfl
  | beacon =>
    refine iff_of_false ?_ (by simp)
    rintro ⟨_, hvalid⟩
    exact absurd hvalid (show ¬ (false = true) by decide)
  | confirm accepted =>
    refine iff_of_false ?_ (by simp)
    rintro ⟨_, hvalid⟩
    exact absurd hvalid (show ¬ (false = true) by decide)

omit [ITransport σ] in
theorem inbound_eq_probe {op : CoordinatorOp} {src : MacAddress} (h : op.inbound = .probe src) :
    ∃ data, op = .handleReceived src data ∧ IsReconnectProbe data := by
  cases op with
  | handleReceived src' data =>
    by_cases hp : IsReconnectProbe data
    · rw [inbound_probe src' hp] at h
      obtain rfl := Inbound.probe.inj h
      exact ⟨data, rfl, hp⟩
    · by_cases hr : PairingCoordinator.IsRequest data
      · rw [inbound_request src' hr] at h
        exact Inbound.noConfusion h
      · rw [inbound_other src' hp hr] at h
        exact Inbound.noConfusion h
  | loadPairedClients | enablePairing | disablePairing | loop | onClientPaired | unpairAll =>
    exact Inbound.noConfusion h

/-- An ack goes out only in answer to a probe, to its sender, who is in the table; it names
the channel of the moment. -/
theorem ack_sent [ChannelFrame σ] {c : PairingCoordinator σ} {op : CoordinatorOp} {f : Frame}
    (hf : f ∈ framesSince c.transport (op.apply c).transport) (hack : IsReconnectAck f.2) :
    ∃ probe, op = .handleReceived f.1 probe ∧ IsReconnectProbe probe ∧
      c.isPaired f.1 = true ∧ f.2 = (ReconnectAck.init c.transport.getChannel).toBytes := by
  rw [(apply_radio c op).2.1] at hf
  obtain ⟨⟨dst, o⟩, ho, rfl⟩ := List.mem_map.mp hf
  obtain rfl := (isReconnectAck_iff _ o).mp hack
  cases hin : op.inbound with
  | probe src =>
    obtain ⟨data, rfl, hprobe⟩ := inbound_eq_probe hin
    rw [hin, Responder.answers] at ho
    split at ho
    · rename_i hknows
      obtain rfl : dst = src := by simpa using ho
      refine ⟨data, rfl, hprobe, ?_, rfl⟩
      rw [PairingCoordinator.isPaired_eq_knows]
      exact hknows
    · exact absurd ho List.not_mem_nil
  | tick nowMs =>
    rw [hin, Responder.answers] at ho
    split at ho <;> simp at ho
  | request src deviceId =>
    rw [hin, Responder.answers] at ho
    simp at ho
  | enable | disable | forgetAll | nothing =>
    rw [hin] at ho
    exact absurd ho List.not_mem_nil

end Coordinator

section Net
variable {σ τ : Type} [ITransport σ] [ITransport τ]

namespace ReacqNet

def react (net : ReacqNet σ τ) : RadioEvent → ReacqNet σ τ
  | .node ev => { net with node := ev.apply net.node }
  | .nodeHears data => { net with node := net.node.hear data }
  | .coordinator op => { net with coordinator := op.apply net.coordinator }
  | .coordinatorMoves channel =>
    { net with coordinator :=
      { net.coordinator with transport := net.coordinator.transport.setChannel channel } }

/-- The network hands over what was sent, at any time and any number of times. Frames from
others, too, reach the coordinator. -/
def Faithful (coordAddr nodeAddr : MacAddress) (net : ReacqNet σ τ) : RadioEvent → Prop
  | .node ev => ∀ ack, ev ≠ .ack ack
  | .nodeHears data => OnAir net.coordinator.transport.frames nodeAddr data
  | .coordinator op => ∀ src data, op = .handleReceived src data →
      src ≠ .broadcast ∧ (src = nodeAddr → OnAir net.node.provider.transport.frames coordAddr data)
  | .coordinatorMoves channel => UsableChannel channel

/-- The probe that made the coordinator say on which channel it is: sent by the node in a
search for the coordinator of its pairing, and heard while the node was in the table. -/
def CausedByProbe (coordAddr nodeAddr : MacAddress) (net : ReacqNet σ τ) (evs : List RadioEvent)
    (channel : UInt8) : Prop :=
  ∃ sent nowMs between probe rest,
    evs = sent ++ .node (.call .loop nowMs) ::
      (between ++ .coordinator (.handleReceived nodeAddr probe) :: rest) ∧
    let sender := (run react net sent).node
    let hearer := (run react net (sent ++ .node (.call .loop nowMs) :: between)).coordinator
    sender.getState = .REACQUIRING_DYNAMIC ∧
      Reaches sender.provider.pairing.coordinatorMac coordAddr ∧
      probe = (ReconnectProbe.init sender.provider.pairing.deviceId).toBytes ∧
      hearer.isPaired nodeAddr = true ∧ hearer.transport.getChannel = channel

variable {coordAddr nodeAddr : MacAddress} {net : ReacqNet σ τ} {ev : RadioEvent}

structure Sound (net : ReacqNet σ τ) : Prop where
  node : NodeInv net.node
  callback : PlainCallback net.node.provider
  channel : UsableChannel net.coordinator.transport.getChannel

theorem Sound.react [ChannelFrame σ] [TunesValidChannels σ] (h : Sound net)
    (hev : Faithful coordAddr nodeAddr net ev) : Sound (net.react ev) := by
  cases ev with
  | node ev =>
    refine ⟨apply_nodeInv h.node ev, ?_, h.channel⟩
    rcases event_quiet_or h.node.flag h.callback ev with hquiet | ⟨_, _, hprobes⟩
    · exact h.callback.congr hquiet.1
    · exact h.callback.congr hprobes.callback
  | nodeHears data =>
    exact ⟨hear_nodeInv h.node data, h.callback.congr (hear_quiet net.node data).1, h.channel⟩
  | coordinator op =>
    refine ⟨h.node, h.callback, ?_⟩
    change UsableChannel (op.apply net.coordinator).transport.getChannel
    rw [(apply_radio net.coordinator op).2.2]
    exact h.channel
  | coordinatorMoves channel =>
    refine ⟨h.node, h.callback, ?_⟩
    change UsableChannel (net.coordinator.transport.setChannel channel).getChannel
    rw [Transport.getChannel_setChannel _ hev.1 hev.2]
    exact hev

/-- The step that puts a probe on the air is a pass of the node's loop in its search. -/
theorem probe_origin (h : Sound net) {data : List UInt8} (hprobe : IsReconnectProbe data)
    (hbefore : ¬ OnAir net.node.provider.transport.frames coordAddr data)
    (hafter : OnAir (net.react ev).node.provider.transport.frames coordAddr data) :
    ∃ nowMs, ev = .node (.call .loop nowMs) ∧ net.node.getState = .REACQUIRING_DYNAMIC ∧
      Reaches net.node.provider.pairing.coordinatorMac coordAddr ∧
      data = (ReconnectProbe.init net.node.provider.pairing.deviceId).toBytes := by
  cases ev with
  | coordinator op => exact absurd hafter hbefore
  | coordinatorMoves channel => exact absurd hafter hbefore
  | nodeHears data' =>
    rcases onAir_of_sends (hear_quiet net.node data').2 hafter with hold | hnot
    · exact absurd hold hbefore
    · exact absurd hprobe hnot
  | node ev =>
    rcases event_quiet_or h.node.flag h.callback ev with hquiet | ⟨nowMs, rfl, hprobes⟩
    · rcases onAir_of_sends hquiet.2 hafter with hold | hnot
      · exact absurd hold hbefore
      · exact absurd hprobe hnot
    · obtain ⟨ch, hcalls⟩ := hprobes.calls
      change OnAir (NodeEvent.apply net.node (.call .loop nowMs)).provider.transport.frames
        coordAddr data at hafter
      rw [frames_eq hcalls, onAir_append, framesSince_eq hcalls] at hafter
      rcases hafter with hold | ⟨f, hf, hreaches, rfl⟩
      · exact absurd hold hbefore
      · obtain rfl : f = (net.node.provider.pairing.coordinatorMac, _) :=
          List.mem_singleton.mp hf
        exact ⟨nowMs, rfl, hprobes.state, hreaches, rfl⟩

/-- The step that puts an ack on the air is a pass of the coordinator's receive handler. -/
theorem ack_origin [ChannelFrame σ] (hev : Faithful coordAddr nodeAddr net ev) {data : List UInt8}
    (hack : IsReconnectAck data) (hbefore : ¬ OnAir net.coordinator.transport.frames nodeAddr data)
    (hafter : OnAir (net.react ev).coordinator.transport.frames nodeAddr data) :
    ∃ probe, ev = .coordinator (.handleReceived nodeAddr probe) ∧ IsReconnectProbe probe ∧
      net.coordinator.isPaired nodeAddr = true ∧
      data = (ReconnectAck.init net.coordinator.transport.getChannel).toBytes := by
  cases ev with
  | node ev => exact absurd hafter hbefore
  | nodeHears data' => exact absurd hafter hbefore
  | coordinatorMoves channel =>
    have hcalls : CallsOnly (Sends fun _ => False) net.coordinator.transport
        (net.coordinator.transport.setChannel channel) :=
      CallsOnly.snoc (calls_setChannel _ _) trivial
    rcases onAir_of_sends hcalls hafter with hold | hfalse
    · exact absurd hold hbefore
    · exact hfalse.elim
  | coordinator op =>
    obtain ⟨added, hadded, _⟩ := (apply_radio net.coordinator op).1
    change OnAir (op.apply net.coordinator).transport.frames nodeAddr data at hafter
    rw [frames_eq hadded, onAir_append] at hafter
    rcases hafter with hold | ⟨f, hf, hreaches, rfl⟩
    · exact absurd hold hbefore
    · obtain ⟨probe, rfl, hprobe, hknown, hdata⟩ := ack_sent hf hack
      -- the answer goes to the sender of the probe, and no sender has the broadcast address
      have hsrc : f.1 = nodeAddr := hreaches.resolve_right (hev f.1 probe rfl).1
      rw [hsrc] at hknown
      exact ⟨probe, by rw [hsrc], hprobe, hknown, hdata⟩

/-- No reconnect frame of either party is on the air yet. -/
structure Unsent (coordAddr nodeAddr : MacAddress) (net : ReacqNet σ τ) : Prop where
  probes : ∀ data, IsReconnectProbe data →
    ¬ OnAir net.node.provider.transport.frames coordAddr data
  acks : ∀ data, IsReconnectAck data → ¬ OnAir net.coordinator.transport.frames nodeAddr data

theorem run_sound [ChannelFrame σ] [TunesValidChannels σ] (h : Sound net) {evs : List RadioEvent}
    (hnet : EachStep react (Faithful coordAddr nodeAddr) net evs) :
    EachState react Sound net evs :=
  eachState_of_invariant Sound h hnet fun _ _ hs hev => hs.react hev

theorem delivered_ack_caused [ChannelFrame σ] [TunesValidChannels σ] (h : Sound net)
    (hunsent : Unsent coordAddr nodeAddr net) {evs : List RadioEvent} {data : List UInt8}
    (hnet : EachStep react (Faithful coordAddr nodeAddr) net evs) (hack : IsReconnectAck data)
    (hair : OnAir (run react net evs).coordinator.transport.frames nodeAddr data) :
    ∃ channel, UsableChannel channel ∧ data = (ReconnectAck.init channel).toBytes ∧
      CausedByProbe coordAddr nodeAddr net evs channel := by
  have hstep := eachStep_iff.mp hnet
  have hsound := eachState_iff.mp (run_sound h hnet)
  obtain ⟨heard, a, rest, rfl, hbefore, hafter⟩ := exists_flip
    (P := fun s : ReacqNet σ τ => OnAir s.coordinator.transport.frames nodeAddr data)
    (hunsent.acks data hack) hair
  have hdelivery := hstep heard a rest rfl
  obtain ⟨probe, rfl, hprobe, hknown, hdata⟩ := ack_origin hdelivery hack hbefore hafter
  -- the network handed the probe over, so the node sent it before
  have hsent := (hdelivery nodeAddr probe rfl).2 rfl
  obtain ⟨sent, b, between, rfl, hunsent', hsent'⟩ := exists_flip
    (P := fun s : ReacqNet σ τ => OnAir s.node.provider.transport.frames coordAddr probe)
    (hunsent.probes probe hprobe) hsent
  obtain ⟨nowMs, rfl, hstate, hreaches, hinit⟩ :=
    probe_origin (hsound sent _ (List.append_assoc _ _ _)) hprobe hunsent' hsent'
  refine ⟨_, (hsound _ _ rfl).channel, hdata, sent, nowMs, between, probe, rest, ?_, hstate,
    hreaches, hinit, hknown, rfl⟩
  rw [List.append_assoc, List.cons_append]

/-- Whatever the network does with the frames: if the node accepts an ack, a probe of its own
caused it, and the node is then on the channel on which the coordinator heard that probe. -/
theorem accepted_ack_caused [ChannelFrame σ] [ChannelFrame τ] [TunesValidChannels σ]
    [TunesValidChannels τ] (h : Sound net) (hunsent : Unsent coordAddr nodeAddr net)
    {evs : List RadioEvent} {data : List UInt8}
    (hnet : EachStep react (Faithful coordAddr nodeAddr) net (evs ++ [.nodeHears data]))
    (hack : IsReconnectAck data)
    (hwaits : (run react net evs).node.provider.reacquiring = true) :
    ∃ channel, CausedByProbe coordAddr nodeAddr net evs channel ∧
      OnChannel (run react net (evs ++ [.nodeHears data])).node.provider channel := by
  obtain ⟨hbefore, hdelivery, _⟩ := eachStep_append.mp hnet
  obtain ⟨channel, husable, rfl, hcaused⟩ :=
    delivered_ack_caused h hunsent hbefore hack hdelivery
  have hheard : (run react net (evs ++ [.nodeHears (ReconnectAck.init channel).toBytes])).node =
      (run react net evs).node.setProvider
        ((run react net evs).node.provider.onReconnectAck (ReconnectAck.init channel)).2 := by
    rw [run_append]
    change (run react net evs).node.hear (ReconnectAck.init channel).toBytes = _
    rw [Node.hear, if_pos (isReconnectAck_init channel)]
    rfl
  refine ⟨channel, hcaused, ?_⟩
  rw [hheard]
  exact (onReconnectAck_onChannel hwaits husable).2.2

end ReacqNet
end Net

section Example

/-- The node of the examples before its first probe; the coordinator is on channel 1. -/
def searchNet : ReacqNet (EspNowTransport SimRadio) (EspNowTransport SimRadio) :=
  { coordinator := ((PairingCoordinator.new (simTransport coordMac 1)
      Preferences.empty).storePairedClient clientMac 7).2,
    node := scanningNode.node }

/-- The probe is heard on channel 1, and the ack arrives after the coordinator has moved. -/
def lateAck : List RadioEvent :=
  firstScanProbe.map .node ++
    [.coordinator (.handleReceived clientMac (ReconnectProbe.init 7).toBytes), .coordinatorMoves 11]

theorem lateAck_caused : ∃ channel,
    ReacqNet.CausedByProbe coordMac clientMac searchNet lateAck channel ∧
      OnChannel (run ReacqNet.react searchNet
        (lateAck ++ [.nodeHears (ReconnectAck.init 1).toBytes])).node.provider channel := by
  have hframes : searchNet.node.provider.transport.frames =
      [(coordMac, (PairingRequest.init 7).toBytes)] := by decide
  have hsilent : searchNet.coordinator.transport.frames = [] := by decide
  refine ReacqNet.accepted_ack_caused
    ⟨start_nodeInv pairedClient none { staticMaxProbes := 1 } 0, ?_, ⟨by decide, by decide⟩⟩
    ⟨?_, ?_⟩ ?_ (isReconnectAck_init 1) (by decide)
  · intro cb hcb
    exact absurd hcb.symm (Option.some_ne_none cb)
  · rintro data hprobe ⟨f, hf, _, rfl⟩
    rw [hframes, List.mem_singleton] at hf
    rw [hf] at hprobe
    exact ClientFrame.not_isReconnectProbe ⟨7, rfl⟩ hprobe
  · rintro data _ ⟨f, hf, _⟩
    rw [hsilent] at hf
    exact List.not_mem_nil hf
  · refine ⟨?_, ?_, ?_, ?_, ⟨by decide, by decide⟩, ?_, trivial⟩
    · simp [ReacqNet.Faithful]
    · simp [ReacqNet.Faithful]
    · simp [ReacqNet.Faithful]
    · intro src data heq
      obtain ⟨rfl, rfl⟩ := CoordinatorOp.handleReceived.inj heq
      exact ⟨by decide, fun _ => by decide⟩
    · change OnAir _ _ _
      decide

end Example
end UngulaNet.Connection
