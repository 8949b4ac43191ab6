import Mathlib.Data.List.Induction
set_option autoImplicit false

/-!
Runs as left folds of a step function: what each step keeps, and what a run has
exactly when every step of it meets a condition.
-/

namespace Folds

variable {σ μ : Type} {step : σ → μ → σ}

theorem foldl_concat (s : σ) (ms : List μ) (m : μ) :
    (ms ++ [m]).foldl step s = step (ms.foldl step s) m := by
  simp [List.foldl_append]

/-- Every step of the run meets a condition on its state and its move. -/
def Every (Ok : σ → μ → Prop) (step : σ → μ → σ) (s : σ) (ms : List μ) : Prop :=
  ∀ pre m post, ms = pre ++ m :: post → Ok (pre.foldl step s) m

theorem every_nil {Ok : σ → μ → Prop} (s : σ) : Every Ok step s [] := by
  intro pre m post h
  cases pre <;> cases h

theorem every_concat {Ok : σ → μ → Prop} (s : σ) (ms : List μ) (x : μ) :
    Every Ok step s (ms ++ [x]) ↔ Every Ok step s ms ∧ Ok (ms.foldl step s) x := by
  constructor
  · intro h
    exact ⟨fun pre m post heq => h pre m (post ++ [x]) (by simp [heq]),h ms x [] rfl⟩
  · rintro ⟨h,hx⟩ pre m post heq
    obtain rfl | ⟨post,y,rfl⟩ := post.eq_nil_or_concat
    · obtain ⟨rfl,hm⟩ := List.append_inj' heq rfl
      cases hm
      exact hx
    · rw [List.concat_eq_append,← List.cons_append,← List.append_assoc] at heq
      obtain ⟨rfl,-⟩ := List.append_inj' heq rfl
      exact h pre m post rfl

theorem every_cons {Ok : σ → μ → Prop} (s : σ) (x : μ) (ms : List μ) :
    Every Ok step s (x :: ms) ↔ Ok s x ∧ Every Ok step (step s x) ms := by
  constructor
  · intro h
    exact ⟨h [] x ms rfl,fun pre m post heq => h (x :: pre) m post (by simp [heq])⟩
  · rintro ⟨hx,h⟩ pre m post heq
    cases pre with
    | nil =>
      cases heq
      exact hx
    | cons y pre =>
      cases heq
      exact h pre m post rfl

/-- What every step keeps, given its condition, holds at the end of a run. -/
theorem invariant {I : σ → Prop} {Ok : σ → μ → Prop}
    (h : ∀ s m, I s → Ok s m → I (step s m)) {s : σ} {ms : List μ} (hs : I s)
    (hok : Every Ok step s ms) : I (ms.foldl step s) := by
  induction ms generalizing s with
  | nil => exact hs
  | cons m ms ih =>
    obtain ⟨hm,hms⟩ := (every_cons s m ms).mp hok
    exact ih (h s m hs hm) hms

/-- A property that a step keeps exactly when it meets its condition. -/
theorem good_iff {Good : σ → Prop} {Ok : σ → μ → Prop}
    (h : ∀ s m, Good (step s m) ↔ Good s ∧ Ok s m) (s : σ) (ms : List μ) :
    Good (ms.foldl step s) ↔ Good s ∧ Every Ok step s ms := by
  induction ms using List.reverseRecOn with
  | nil => simp [every_nil]
  | append_singleton ms m ih => rw [foldl_concat,h,ih,every_concat,and_assoc]

/-- A property that a step from a state with it keeps exactly when it meets its condition
holds all along a run exactly when every step meets its condition. -/
theorem always_iff {Good : σ → Prop} {Ok : σ → μ → Prop}
    (h : ∀ s m, Good s → (Good (step s m) ↔ Ok s m)) {s : σ} (hs : Good s) (ms : List μ) :
    (∀ pre post, ms = pre ++ post → Good (pre.foldl step s)) ↔ Every Ok step s ms := by
  constructor
  · intro hgood pre m post heq
    have hnext := hgood (pre ++ [m]) post (by simp [heq])
    rw [foldl_concat] at hnext
    exact (h _ _ (hgood pre (m :: post) heq)).mp hnext
  · intro hok pre post heq
    refine invariant (I := Good) (fun s m hs hm => (h s m hs).mpr hm) hs ?_
    exact fun before m after hpre => hok before m (after ++ post) (by simp [heq,hpre])

/-- A run of steps that each stand still or add to a measure stands still throughout, when
it ends where it began. -/
theorem still {size : σ → Nat} (h : ∀ s m,step s m = s ∨ size s < size (step s m)) (s : σ)
    (ms : List μ) : size s ≤ size (ms.foldl step s) ∧
      (ms.foldl step s = s → ∀ m ∈ ms,step s m = s) := by
  induction ms generalizing s with
  | nil => simp
  | cons m ms ih =>
    obtain ⟨hgrows,hstill⟩ := ih (step s m)
    rw [List.foldl_cons]
    obtain heq | hlt := h s m
    · rw [heq] at hgrows hstill ⊢
      refine ⟨hgrows,fun hend x hx => ?_⟩
      obtain rfl | hx := List.mem_cons.mp hx
      · exact heq
      · exact hstill hend x hx
    · refine ⟨by omega,fun hend => ?_⟩
      rw [hend] at hgrows
      omega

theorem idle {s : σ} {ms : List μ} (h : ∀ m ∈ ms,step s m = s) : ms.foldl step s = s := by
  induction ms with
  | nil => rfl
  | cons m ms ih =>
    rw [List.foldl_cons,h m (by simp)]
    exact ih fun x hx => h x (by simp [hx])
end Folds
