import UngulaNet.Foundation.RoundRobin
import UngulaNet.Pairing.ScanOrder
import UngulaNet.Connection.EspNowSessionProvider

/-!
# The scan of a reacquisition

The scan index is a `uint8_t` that is never reduced; the channel is taken at the index
modulo the number of channels. 256 is a multiple of few such numbers, so most scans start
over early whenever the index wraps. No channel has to wait for two rounds.
-/

namespace UngulaNet.Connection
open Comm Comm.Transport Pairing Runs RoundRobin
set_option autoImplicit false

section Scan
variable {σ : Type}

def scanPlace (s : EspNowSessionProvider σ) : Nat :=
  s.scanIndex.toNat % s.pairing.scanChannels.roundLength

theorem scanPlace_lt (s : EspNowSessionProvider σ) :
    scanPlace s < s.pairing.scanChannels.roundLength :=
  Nat.mod_lt _ s.pairing.scanChannels.roundLength_pos

theorem scanChannel_eq (s : EspNowSessionProvider σ) :
    s.scanChannel = s.pairing.scanChannels.channelAt (scanPlace s) := by
  have hcount := s.pairing.scanChannels.count_toNat
  unfold EspNowSessionProvider.scanChannel scanPlace ScanChannels.channelAt
    ScanChannels.roundLength
  by_cases hlist : s.pairing.scanChannels.configured = true
  · have hpos : s.pairing.scanChannels.count > 0 := by
      rw [gt_iff_lt, UInt8.lt_iff_toNat_lt, hcount]
      exact ScanChannels.entries_length_pos hlist
    simp only [hlist, hpos, and_self, if_true, UInt8.toNat_mod, hcount]
  · have hplace : UInt8.ofNat (s.scanIndex.toNat % MAX_SCAN_CHANNELS.toNat) =
        s.scanIndex % MAX_SCAN_CHANNELS := by
      rw [← UInt8.toNat_mod, UInt8.ofNat_toNat]
    simp [hlist, hplace]

variable [ITransport σ]

def probeCalls (c : PairingClient σ) (channel : UInt8) : List TransportCall :=
  [.setChannel channel, .addPeer c.coordinatorMac 0,
    .send c.coordinatorMac (ReconnectProbe.init c.deviceId).toBytes]

def loopStep (s : EspNowSessionProvider σ) (nowMs : UInt32) : EspNowSessionProvider σ :=
  (s.loopReacquisition nowMs).2

/-- The places in the round that a run of calls probes, one for each call that reports a
probe. -/
def probedPlaces (s : EspNowSessionProvider σ) : List UInt32 → List Nat
  | [] => []
  | nowMs :: times =>
    if (s.loopReacquisition nowMs).1 then scanPlace s :: probedPlaces (loopStep s nowMs) times
    else probedPlaces (loopStep s nowMs) times

/-- A provider that probes, with its scan index after `k` probes. -/
structure Scanning (p : PairingClient σ) (k : Nat) (s : EspNowSessionProvider σ) : Prop where
  reacquiring : s.reacquiring = true
  paired : s.pairing.isPaired = true
  pairing : s.pairing = { p with transport := s.transport }
  index : s.scanIndex.toNat = k % 256

variable {p : PairingClient σ} {k : Nat} {s : EspNowSessionProvider σ}

omit [ITransport σ] in
theorem Scanning.place (h : Scanning p k s) :
    scanPlace s = slot 256 p.scanChannels.roundLength k := by
  rw [scanPlace, h.index, h.pairing]
  rfl

theorem Scanning.probe (h : Scanning p k s) (nowMs : UInt32) :
    (s.loopReacquisition nowMs).1 = true ∧
      (loopStep s nowMs).transport.calls = s.transport.calls ++
        probeCalls p (p.scanChannels.channelAt (scanPlace s)) ∧
      Scanning p (k + 1) (loopStep s nowMs) := by
  have hchannel : s.scanChannel = p.scanChannels.channelAt (scanPlace s) := by
    rw [scanChannel_eq, h.pairing]
  have hmac : s.pairing.coordinatorMac = p.coordinatorMac := by rw [h.pairing]
  have hdevice : s.pairing.deviceId = p.deviceId := by rw [h.pairing]
  have hloop := EspNowSessionProvider.loopReacquisition_probes h.reacquiring h.paired nowMs
  have hstep : loopStep s nowMs = { s.sendReconnectProbeOnChannel s.scanChannel with
      scanIndex := s.scanIndex + 1 } := congrArg Prod.snd hloop
  refine ⟨congrArg Prod.fst hloop, ?_, ?_⟩
  · rw [hstep, hchannel, EspNowSessionProvider.sendReconnectProbeOnChannel, hmac, hdevice]
    simp [EspNowSessionProvider.transport, EspNowSessionProvider.setTransport, probeCalls]
  · rw [hstep]
    refine ⟨h.reacquiring, h.paired, ?_, ?_⟩
    · let t := (s.sendReconnectProbeOnChannel s.scanChannel).transport
      exact congrArg (fun c : PairingClient σ => { c with transport := t }) h.pairing
    · rw [UInt8.toNat_add, h.index, UInt8.toNat_one]
      omega

/-- What a run of calls probes, and what the radio sees of it. -/
theorem Scanning.run (h : Scanning p k s) (times : List UInt32) :
    probedPlaces s times = turns 256 p.scanChannels.roundLength k times.length ∧
      (Runs.run loopStep s times).transport.calls = s.transport.calls ++
        (probedPlaces s times).flatMap fun i => probeCalls p (p.scanChannels.channelAt i) := by
  induction times generalizing s k with
  | nil => exact ⟨rfl, (List.append_nil _).symm⟩
  | cons nowMs times ih =>
    obtain ⟨hprobes, hcalls, hnext⟩ := h.probe nowMs
    obtain ⟨hplaces, hradio⟩ := ih hnext
    rw [probedPlaces, if_pos hprobes]
    constructor
    · rw [hplaces, h.place]
      rfl
    · rw [run_cons, hradio, hcalls, List.flatMap_cons, List.append_assoc]

theorem loopReacquisition_unpaired_run {s : EspNowSessionProvider σ}
    (h : s.pairing.isPaired = false) (times : List UInt32) :
    probedPlaces s times = [] ∧ Runs.run loopStep s times = s := by
  have hloop := EspNowSessionProvider.loopReacquisition_unpaired h
  induction times with
  | nil => exact ⟨rfl, rfl⟩
  | cons nowMs times ih => simpa [probedPlaces, loopStep, hloop] using ih

/-- However long a scan runs, its probes go to places of the round, each right after the
radio was set to the channel there, and no place is missing in any `2 * n - 1` probes in a
row. -/
theorem scan_starves_no_channel (s : EspNowSessionProvider σ) (times : List UInt32) :
    let scan := s.pairing.scanChannels
    let probes := probedPlaces s.startReacquisition times
    Transport.newCalls s.transport (Runs.run loopStep s.startReacquisition times).transport =
        probes.flatMap (fun i => probeCalls s.pairing (scan.channelAt i)) ∧
      (s.pairing.isPaired = true → probes.length = times.length) ∧
      (∀ i ∈ probes, i < scan.roundLength) ∧
      ∀ window, window <:+: probes → window.length = 2 * scan.roundLength - 1 →
        ∀ i < scan.roundLength, i ∈ window := by
  intro scan probes
  have hpos : 0 < scan.roundLength := scan.roundLength_pos
  cases hp : s.pairing.isPaired with
  | false =>
    obtain ⟨hplaces, hrun⟩ := loopReacquisition_unpaired_run
      (s := s.startReacquisition) hp times
    have hnone : probes = [] := hplaces
    refine ⟨?_, fun h => absurd h Bool.false_ne_true, ?_, ?_⟩
    · rw [hrun, hnone]
      exact Transport.newCalls_eq (List.append_nil _).symm
    · simp [hnone]
    · intro window hwindow hlen
      have hempty := List.eq_nil_of_infix_nil (hnone ▸ hwindow)
      rw [hempty, List.length_nil] at hlen
      omega
  | true =>
    have hstart : Scanning s.pairing 0 s.startReacquisition := ⟨rfl, hp, rfl, rfl⟩
    obtain ⟨hplaces, hradio⟩ := hstart.run times
    have hturns : probes = turns 256 scan.roundLength 0 times.length := hplaces
    refine ⟨Transport.newCalls_eq hradio, fun _ => ?_, ?_, ?_⟩
    · rw [hturns, turns, List.length_map, List.length_range']
    · intro i hi
      rw [hturns, turns] at hi
      obtain ⟨k, _, rfl⟩ := List.mem_map.mp hi
      exact slot_lt hpos k
    · intro window hwindow hlen i hi
      rw [hturns] at hwindow
      exact mem_of_infix_turns hpos scan.roundLength_lt.le hwindow hlen hi

end Scan
end UngulaNet.Connection
