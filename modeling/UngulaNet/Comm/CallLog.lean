import UngulaNet.Comm.TransportTypes

/-!
# The log of transport calls over a run

A `Transport` remembers every call made on it. `CallsOnly P t t'` says that `t'` has the
calls of `t` and, after them, only calls that satisfy `P`.
-/

namespace UngulaNet.Comm.Transport
set_option autoImplicit false

variable {σ : Type}

/-- The calls made on the way from `t` to `t'`. -/
def newCalls (t t' : Transport σ) : List TransportCall := t'.calls.drop t.calls.length

theorem newCalls_eq {t t' : Transport σ} {added : List TransportCall}
    (h : t'.calls = t.calls ++ added) : newCalls t t' = added := by
  simp [newCalls, h]

def CallsOnly (P : TransportCall → Prop) (t t' : Transport σ) : Prop :=
  ∃ added, t'.calls = t.calls ++ added ∧ ∀ call ∈ added, P call

variable {P Q : TransportCall → Prop} {t t' t'' : Transport σ}

theorem CallsOnly.refl (t : Transport σ) : CallsOnly P t t := ⟨[], by simp, by simp⟩

theorem CallsOnly.of_eq (h : t' = t) : CallsOnly P t t' := by
  subst h
  exact CallsOnly.refl _

theorem CallsOnly.trans (h : CallsOnly P t t') (h' : CallsOnly P t' t'') :
    CallsOnly P t t'' := by
  obtain ⟨xs, hxs, hP⟩ := h
  obtain ⟨ys, hys, hP'⟩ := h'
  refine ⟨xs ++ ys, by rw [hys, hxs, List.append_assoc], ?_⟩
  intro call hcall
  rcases List.mem_append.mp hcall with hx | hy
  · exact hP call hx
  · exact hP' call hy

theorem CallsOnly.imp (h : CallsOnly P t t') (hPQ : ∀ call, P call → Q call) :
    CallsOnly Q t t' := by
  obtain ⟨xs, hxs, hP⟩ := h
  exact ⟨xs, hxs, fun call hcall => hPQ call (hP call hcall)⟩

theorem CallsOnly.snoc {call : TransportCall} (h : t'.calls = t.calls ++ [call])
    (hP : P call) : CallsOnly P t t' :=
  ⟨[call], h, by simpa using hP⟩

theorem callsOnly_iff {added : List TransportCall} (h : t'.calls = t.calls ++ added) :
    CallsOnly P t t' ↔ ∀ call ∈ added, P call := by
  constructor
  · rintro ⟨xs, hxs, hP⟩
    rw [List.append_cancel_left (h.symm.trans hxs)]
    exact hP
  · intro hP
    exact ⟨added, h, hP⟩

theorem CallsOnly.mem (h : CallsOnly P t t') {call : TransportCall} (hcall : call ∈ t'.calls) :
    call ∈ t.calls ∨ P call := by
  obtain ⟨xs, hxs, hP⟩ := h
  rw [hxs] at hcall
  rcases List.mem_append.mp hcall with hold | hnew
  · exact Or.inl hold
  · exact Or.inr (hP call hnew)

/-- What holds of all calls made over a run holds of those made in one stretch of it. -/
theorem CallsOnly.stretch {t₁ t₂ : Transport σ} (h : CallsOnly P t t')
    (h₁ : CallsOnly (fun _ => True) t t₁) (h₁₂ : CallsOnly (fun _ => True) t₁ t₂)
    (h₂ : CallsOnly (fun _ => True) t₂ t') : CallsOnly P t₁ t₂ := by
  obtain ⟨all, hall, hP⟩ := h
  obtain ⟨xs, hxs, _⟩ := h₁
  obtain ⟨ys, hys, _⟩ := h₁₂
  obtain ⟨zs, hzs, _⟩ := h₂
  have hcalls : all = xs ++ (ys ++ zs) := by
    apply List.append_cancel_left
    rw [← hall, hzs, hys, hxs]
    simp only [List.append_assoc]
  refine ⟨ys, hys, fun call hcall => hP call ?_⟩
  rw [hcalls]
  exact List.mem_append_right xs (List.mem_append_left zs hcall)

end UngulaNet.Comm.Transport
