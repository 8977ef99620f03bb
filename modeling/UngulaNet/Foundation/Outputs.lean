import UngulaNet.Foundation.Runs

/-!
# Systems with outputs

A system that answers its inputs puts out, along a run, the answers of its steps in order.
A step-by-step simulation carries states and outputs of whole runs over to the simulating
system.
-/

namespace UngulaNet.Runs
set_option autoImplicit false

universe u v w
variable {S : Type u} {A : Type v} {O : Type w}

/-- What a run puts out, oldest first. -/
def outputs (step : S → A → S) (out : S → A → List O) : S → List A → List O
  | _, [] => []
  | s, a :: as => out s a ++ outputs step out (step s a) as

section Outputs
variable {step : S → A → S} {out : S → A → List O}

@[simp] theorem outputs_nil (s : S) : outputs step out s [] = [] := rfl

@[simp] theorem outputs_cons (s : S) (a : A) (as : List A) :
    outputs step out s (a :: as) = out s a ++ outputs step out (step s a) as := rfl

theorem outputs_map {O' : Type w} (f : O → O') (s : S) (as : List A) :
    (outputs step out s as).map f = outputs step (fun s a => (out s a).map f) s as := by
  induction as generalizing s with
  | nil => rfl
  | cons a as ih => rw [outputs_cons, List.map_append, ih, outputs_cons]

/-- A log that grows by the output of each step grows by the outputs of the run. -/
theorem log_run {I : S → Prop} {G : S → A → Prop} (log : S → List O)
    (keep : ∀ s a, I s → G s a → I (step s a))
    (grows : ∀ s a, I s → G s a → log (step s a) = log s ++ out s a) {s : S} (hs : I s)
    {as : List A} (hG : EachStep step G s as) :
    log (run step s as) = log s ++ outputs step out s as := by
  induction as generalizing s with
  | nil => exact (List.append_nil _).symm
  | cons a as ih =>
    rw [run_cons, ih (keep s a hs hG.1) hG.2, grows s a hs hG.1, outputs_cons,
      List.append_assoc]

end Outputs

section Simulation
universe u' v'
variable {T : Type u'} {B : Type v'}
variable {step : S → A → S} {step' : T → B → T}
variable {I : S → Prop} {G : S → A → Prop} {abs : S → T} {inp : A → B}

/-- What each pair of steps keeps relates the states that two runs end in. -/
theorem run_related {R : S → T → Prop} {step'' : T → A → T}
    (keep : ∀ s t a, R s t → R (step s a) (step'' t a)) {s : S} {t : T} (h : R s t)
    (as : List A) : R (run step s as) (run step'' t as) := by
  induction as generalizing s t with
  | nil => exact h
  | cons a as ih => exact ih (keep s t a h)

/-- A step-by-step simulation relates the states that two runs end in. -/
theorem run_simulates (keep : ∀ s a, I s → G s a → I (step s a))
    (simulates : ∀ s a, I s → G s a → abs (step s a) = step' (abs s) (inp a))
    {s : S} (hs : I s) {as : List A} (hG : EachStep step G s as) :
    abs (run step s as) = run step' (abs s) (as.map inp) := by
  induction as generalizing s with
  | nil => rfl
  | cons a as ih =>
    rw [run_cons, ih (keep s a hs hG.1) hG.2, simulates s a hs hG.1, List.map_cons, run_cons]

theorem outputs_simulate {out : S → A → List O} {out' : T → B → List O}
    (keep : ∀ s a, I s → G s a → I (step s a))
    (simulates : ∀ s a, I s → G s a → abs (step s a) = step' (abs s) (inp a))
    (answers : ∀ s a, I s → G s a → out s a = out' (abs s) (inp a))
    {s : S} (hs : I s) {as : List A} (hG : EachStep step G s as) :
    outputs step out s as = outputs step' out' (abs s) (as.map inp) := by
  induction as generalizing s with
  | nil => rfl
  | cons a as ih =>
    rw [outputs_cons, ih (keep s a hs hG.1) hG.2, answers s a hs hG.1, simulates s a hs hG.1,
      List.map_cons, outputs_cons]

end Simulation
end UngulaNet.Runs
