import UngulaNet.Foundation.Runs

/-!
# Registries

A registry is a list that a system keeps beside its state: a step may drop entries and may
add one at the end. After a run it holds what was added and never dropped since, in the
order of the additions.

Nothing here knows what the states, the steps or the entries are.
-/

namespace UngulaNet.Registry
open Runs
set_option autoImplicit false

universe u v w
variable {S : Type u} {A : Type v} {α : Type w} (step : S → A → S)
  (adds : S → A → Option α) (Drops : S → A → α → Prop)

/-- No step of the run drops `x`. -/
def Stays (x : α) (s : S) (as : List A) : Prop := EachStep step (fun s a => ¬Drops s a x) s as

variable [∀ s a x, Decidable (Drops s a x)]

instance (x : α) (s : S) (as : List A) : Decidable (Stays step Drops x s as) :=
  decidableEachStep step s as

/-- What the run adds and does not drop afterwards, in order. -/
def survivors : S → List A → List α
  | _, [] => []
  | s, a :: as =>
    (adds s a).toList.filter (fun x => Stays step Drops x (step s a) as) ++
      survivors (step s a) as

variable {step adds Drops}

theorem mem_survivors {x : α} {s : S} {as : List A} :
    x ∈ survivors step adds Drops s as ↔ ∃ pre a post, as = pre ++ a :: post ∧
      adds (run step s pre) a = some x ∧ Stays step Drops x (step (run step s pre) a) post := by
  induction as generalizing s with
  | nil => simp [survivors]
  | cons a as ih =>
    rw [survivors, List.mem_append, List.mem_filter, Option.mem_toList, decide_eq_true_iff, ih]
    constructor
    · intro h
      rcases h with ⟨hadds, hstays⟩ | ⟨pre, b, post, heq, hadds, hstays⟩
      · exact ⟨[], a, as, rfl, hadds, hstays⟩
      · exact ⟨a :: pre, b, post, by rw [heq]; rfl, hadds, hstays⟩
    · intro h
      obtain ⟨pre, b, post, heq, hadds, hstays⟩ := h
      cases pre with
      | nil =>
        obtain ⟨rfl, rfl⟩ := List.cons.inj heq
        exact Or.inl ⟨hadds, hstays⟩
      | cons c pre =>
        obtain ⟨rfl, htail⟩ := List.cons.inj heq
        exact Or.inr ⟨pre, b, post, htail, hadds, hstays⟩

section Content
variable {content : S → List α} {I : S → Prop} (keep : ∀ s a, I s → I (step s a))
  (moves : ∀ s a, I s →
    content (step s a) = (content s).filter (fun x => ¬Drops s a x) ++ (adds s a).toList)
include keep moves

/-- Run rule: the entries there at the start that stay, and after them the survivors. -/
theorem content_run {s : S} (hs : I s) (as : List A) :
    content (run step s as) = (content s).filter (fun x => Stays step Drops x s as) ++
      survivors step adds Drops s as := by
  induction as generalizing s with
  | nil =>
    have hall : (content s).filter (fun x => Stays step Drops x s []) = content s :=
      List.filter_eq_self.mpr fun x _ => decide_eq_true trivial
    rw [survivors, List.append_nil, hall]
    rfl
  | cons a as ih =>
    rw [run_cons, ih (keep s a hs), moves s a hs, List.filter_append, List.filter_filter,
      List.append_assoc]
    congr 1
    refine List.filter_congr ?_
    intro x _
    rw [← Bool.decide_and, decide_eq_decide]
    exact And.comm

theorem mem_run_of_stays {s : S} (hs : I s) {as : List A} {x : α} (hx : x ∈ content s)
    (h : Stays step Drops x s as) : x ∈ content (run step s as) := by
  rw [content_run keep moves hs]
  exact List.mem_append_left _ (List.mem_filter.mpr ⟨hx, decide_eq_true h⟩)

end Content
end UngulaNet.Registry
