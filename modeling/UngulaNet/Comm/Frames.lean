import UngulaNet.Comm.CallLog

/-!
# Frames on the air

Of the calls made on a transport only the sends reach anybody else. `framesSince t t'` are
the frames handed to the radio on the way from `t` to `t'`, with their destinations.
-/

namespace UngulaNet.Comm
set_option autoImplicit false

abbrev Frame := MacAddress × List UInt8

def TransportCall.frame : TransportCall → Option Frame
  | .send dst data => some (dst, data)
  | _ => none

/-- What a receiver with this address takes from the air. -/
def framesFor (dst : MacAddress) (frames : List Frame) : List (List UInt8) :=
  (frames.filter fun f => f.1 == dst).map Prod.snd

@[simp] theorem framesFor_nil (dst : MacAddress) : framesFor dst [] = [] := rfl

@[simp] theorem framesFor_single (dst : MacAddress) (data : List UInt8) :
    framesFor dst [(dst, data)] = [data] := by
  simp [framesFor]

namespace Transport
variable {σ : Type} {t t' t'' : Transport σ}

/-- All frames handed to the radio so far. -/
def frames (t : Transport σ) : List Frame := t.calls.filterMap TransportCall.frame

def framesSince (t t' : Transport σ) : List Frame :=
  (newCalls t t').filterMap TransportCall.frame

theorem framesSince_eq {added : List TransportCall} (h : t'.calls = t.calls ++ added) :
    framesSince t t' = added.filterMap TransportCall.frame := by
  rw [framesSince, newCalls_eq h]

@[simp] theorem framesSince_self (t : Transport σ) : framesSince t t = [] :=
  framesSince_eq (List.append_nil _).symm

theorem frames_eq {added : List TransportCall} (h : t'.calls = t.calls ++ added) :
    t'.frames = t.frames ++ framesSince t t' := by
  rw [framesSince_eq h, frames, frames, h, List.filterMap_append]

/-- Calls of which none is a send put nothing on the air. -/
theorem framesSince_of_callsOnly (h : CallsOnly (fun call => call.frame = none) t t') :
    framesSince t t' = [] := by
  obtain ⟨added, hadded, hnone⟩ := h
  rw [framesSince_eq hadded]
  exact List.filterMap_eq_nil_iff.mpr hnone

/-- Both steps of a path put their frames on the air, one after the other. -/
theorem framesSince_trans (h : CallsOnly (fun _ => True) t t')
    (h' : CallsOnly (fun _ => True) t' t'') :
    framesSince t t'' = framesSince t t' ++ framesSince t' t'' := by
  obtain ⟨xs, hxs, _⟩ := h
  obtain ⟨ys, hys, _⟩ := h'
  have hall : t''.calls = t.calls ++ (xs ++ ys) := by rw [hys, hxs, List.append_assoc]
  rw [framesSince_eq hall, framesSince_eq hxs, framesSince_eq hys, List.filterMap_append]

variable [ITransport σ]

/-- The usual answer: the peer is added, then one frame goes to it. -/
theorem framesSince_addPeer_send (t : Transport σ) (mac : MacAddress) (ch : UInt8)
    (data : List UInt8) : framesSince t ((t.addPeer mac ch).send mac data) = [(mac, data)] := by
  have hcalls : ((t.addPeer mac ch).send mac data).calls =
      t.calls ++ [.addPeer mac ch, .send mac data] := by simp
  rw [framesSince_eq hcalls]
  rfl

end Transport
end UngulaNet.Comm
