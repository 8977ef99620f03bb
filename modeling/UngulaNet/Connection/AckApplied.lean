import UngulaNet.Connection.PairingDurability

/-!
# Acks that can be applied

`onReconnectAck` hands the channel of the ack to the transport and to the pairing client,
looks at neither answer, and reports success. The client refuses what is not in 1..13, the
transport whatever its driver refuses.
-/

namespace UngulaNet.Connection
open Comm Pairing Runs
set_option autoImplicit false

section Ack
variable {σ : Type} [ITransport σ]

/-- An ack reported as applied is applied in the radio, in memory and in the store; one
that is not changes nothing. -/
def AckLaw (s : EspNowSessionProvider σ) : ProviderOp → Prop
  | .onReconnectAck ack =>
    let result := s.onReconnectAck ack
    let s' := result.2
    ack.isValid = true →
      (result.1 = true → UsableChannel ack.channel ∧ s'.transport.getChannel = ack.channel ∧
        s'.pairing.pairedChannel = ack.channel ∧ storedChannel s'.pairing.prefs = ack.channel) ∧
      (result.1 = false → s' = s)
  | _ => True

/-- A valid ack that a reacquisition waits for names a channel in 1..13 that the transport
takes. -/
def AckApplicable (s : EspNowSessionProvider σ) : ProviderOp → Prop
  | .onReconnectAck ack => ack.isValid = true → s.reacquiring = true →
      UsableChannel ack.channel ∧ (s.transport.setChannel ack.channel).getChannel = ack.channel
  | _ => True

variable [ChannelFrame σ]

theorem ackLaw_iff (s : EspNowSessionProvider σ) (op : ProviderOp) :
    AckLaw s op ↔ AckApplicable s op := by
  cases op with
  | onReconnectAck ack =>
    cases hre : s.reacquiring with
    | false =>
      have hidle := EspNowSessionProvider.onReconnectAck_idle hre ack
      constructor
      · intro _ _ hwaits
        exact absurd (hre.symm.trans hwaits) (by decide)
      · intro _ _
        rw [hidle]
        exact ⟨fun hdone => absurd hdone Bool.false_ne_true, fun _ => rfl⟩
    | true =>
      have haccepts := EspNowSessionProvider.onReconnectAck_accepts hre ack
      have hresult : (s.onReconnectAck ack).1 = true := congrArg Prod.fst haccepts
      have hradio : (s.onReconnectAck ack).2.transport.getChannel =
          (s.transport.setChannel ack.channel).getChannel := by
        rw [haccepts]
        exact Transport.getChannel_addPeer _ _ _
      constructor
      · intro hlaw hvalid _
        obtain ⟨husable, htuned, _⟩ := (hlaw hvalid).1 hresult
        exact ⟨husable, hradio.symm.trans htuned⟩
      · intro happlies hvalid
        obtain ⟨husable, htuned⟩ := happlies hvalid hre
        have hset := s.pairing.setPairedChannel_usable husable
        constructor
        · intro _
          refine ⟨husable, hradio.trans htuned, ?_, ?_⟩
          · rw [haccepts, hset]
          · rw [haccepts, hset]
            exact (putChannel_fields s.pairing.prefs ack.channel).2.2
        · intro hrefused
          exact absurd (hresult.symm.trans hrefused) (by decide)
  | client | startDiscovery | loopDiscovery | sendProbe | startReacquisition
  | loopReacquisition | resetReacquisition => exact Iff.rfl

/-- In a run of the session provider from any state, every ack is reported as it is
applied exactly when every ack that comes in can be applied. -/
theorem acks_applied_iff (s : EspNowSessionProvider σ) (ops : List ProviderOp) :
    EachStep ProviderOp.apply AckLaw s ops ↔ EachStep ProviderOp.apply AckApplicable s ops :=
  eachStep_congr (fun _ => True) trivial (eachStep_true s ops) (fun _ _ _ _ => trivial)
    fun s op _ _ => ackLaw_iff s op

end Ack

section Example

def reacquiringProvider : EspNowSessionProvider (EspNowTransport SimRadio) :=
  (EspNowSessionProvider.new pairedClient none).startReacquisition

theorem ack_on_channel_eleven_applied :
    EachStep ProviderOp.apply AckLaw reacquiringProvider
      [.loopReacquisition 9000, .onReconnectAck (.init 11)] :=
  (acks_applied_iff reacquiringProvider _).mpr
    ⟨trivial, fun _ _ => ⟨by decide, by decide⟩, trivial⟩

/-- An ack with channel 14 completes the reacquisition; the radio stays on the channel of
the last probe and the pairing on its old one. -/
theorem ack_on_channel_fourteen_accepted :
    (reacquiringProvider.onReconnectAck (.init 14)).1 = true ∧
    (reacquiringProvider.onReconnectAck (.init 14)).2.isReacquisitionComplete = true ∧
    (reacquiringProvider.onReconnectAck (.init 14)).2.pairing.pairedChannel = 6 ∧
    ¬AckLaw reacquiringProvider (.onReconnectAck (.init 14)) := by
  refine ⟨by decide, by decide, by decide, ?_⟩
  intro hlaw
  have husable := ((hlaw (by decide)).1 (by decide)).1
  exact absurd husable (by decide)

end Example
end UngulaNet.Connection
