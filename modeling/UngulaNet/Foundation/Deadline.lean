import UngulaNet.Foundation.Runs

/-!
# Deadlines of a sampled system

Every step of a system has a time, at most `gap` after that of the step before. `Approaches`
names for each state a latest time of reaching a goal, which no step puts off; then the goal
is reached by that time.
-/

namespace UngulaNet.Runs
set_option autoImplicit false

universe u v
variable {S : Type u} {A : Type v} {step : S → A → S} {time : A → Nat} {gap : Nat}
variable {Ok : S → A → Prop} {I : S → Nat → Prop} {Goal : S → Prop} {bound : S → Nat}

/-- `I s last` holds of a state on the way, sampled at `last`; `Ok` is what is known of the
steps. -/
structure Approaches (step : S → A → S) (time : A → Nat) (gap : Nat) (Ok : S → A → Prop)
    (I : S → Nat → Prop) (Goal : S → Prop) (bound : S → Nat) : Prop where
  step : ∀ s last a, I s last → Ok s a → last ≤ time a → time a ≤ last + gap →
    Goal (step s a) ∨ I (step s a) (time a) ∧ bound (step s a) ≤ bound s
  room : ∀ s last, I s last → last + gap ≤ bound s

/-- Times in order and at most `gap` apart, the first after `last`. -/
def Sampled (gap last : Nat) (ts : List Nat) : Prop :=
  (last :: ts).IsChain fun a b => a ≤ b ∧ b ≤ a + gap

instance (gap last : Nat) (ts : List Nat) : Decidable (Sampled gap last ts) :=
  inferInstanceAs (Decidable (List.IsChain _ _))

theorem Approaches.reached (h : Approaches step time gap Ok I Goal bound) {s : S} {last : Nat}
    (hs : I s last) {as : List A} (hsampled : Sampled gap last (as.map time))
    (hok : EachStep step Ok s as) (hlate : ∃ a ∈ as, bound s < time a) :
    ∃ pre a post, as = pre ++ a :: post ∧ time a ≤ bound s ∧ Goal (run step s (pre ++ [a])) := by
  induction as generalizing s last with
  | nil =>
    obtain ⟨a, ha, _⟩ := hlate
    exact nomatch ha
  | cons a as ih =>
    obtain ⟨⟨hle, hgap⟩, hrest⟩ := List.isChain_cons_cons.mp hsampled
    have hroom := h.room s last hs
    rcases h.step s last a hs hok.1 hle hgap with hgoal | ⟨hs', hbound⟩
    · exact ⟨[], a, as, rfl, by omega, hgoal⟩
    · -- the late sample is not this one, which still has room
      have hroom' := h.room (step s a) (time a) hs'
      have hlate' : ∃ b ∈ as, bound (step s a) < time b := by
        obtain ⟨b, hb, hlt⟩ := hlate
        rcases List.mem_cons.mp hb with rfl | hmem
        · omega
        · exact ⟨b, hmem, by omega⟩
      obtain ⟨pre, b, post, rfl, hle', hgoal⟩ := ih hs' hrest hok.2 hlate'
      exact ⟨a :: pre, b, post, rfl, by omega, hgoal⟩

end UngulaNet.Runs
