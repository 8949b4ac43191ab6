import Mathlib.Data.List.Basic
set_option autoImplicit false

/-!
Two stateful computations run side by side: both return the same value or both raise,
and a relation between their states is kept.
-/

/-- `Q` relates the states where both return, `E` those where both raise. -/
inductive Lockstep {ε σ τ α : Type} (Q E : σ → τ → Prop) :
    EStateM.Result ε σ α → EStateM.Result ε τ α → Prop where
  | ok {a : α} {s : σ} {t : τ} (h : Q s t) : Lockstep Q E (.ok a s) (.ok a t)
  | error {e e' : ε} {s : σ} {t : τ} (h : E s t) : Lockstep Q E (.error e s) (.error e' t)

namespace Lockstep

variable {ε σ τ α β : Type} {Q Q' E E' : σ → τ → Prop} {s : σ} {t : τ}

theorem mono {r : EStateM.Result ε σ α} {r' : EStateM.Result ε τ α} (h : Lockstep Q E r r')
    (hq : ∀ s t, Q s t → Q' s t) (he : ∀ s t, E s t → E' s t) : Lockstep Q' E' r r' := by
  cases h with
  | ok h => exact .ok (hq _ _ h)
  | error h => exact .error (he _ _ h)

theorem bind {m : EStateM ε σ α} {m' : EStateM ε τ α} {f : α → EStateM ε σ β}
    {f' : α → EStateM ε τ β} (hm : Lockstep Q E (m s) (m' t))
    (hf : ∀ a s t, Q s t → Lockstep Q' E (f a s) (f' a t)) :
    Lockstep Q' E ((m >>= f) s) ((m' >>= f') t) := by
  change Lockstep Q' E (EStateM.bind m f s) (EStateM.bind m' f' t)
  unfold EStateM.bind
  cases hs : m s with
  | ok a s₁ =>
    cases ht : m' t with
    | ok b t₁ =>
      rw [hs,ht] at hm
      cases hm with
      | ok h => exact hf _ _ _ h
    | error e t₁ =>
      rw [hs,ht] at hm
      cases hm
  | error e s₁ =>
    cases ht : m' t with
    | ok b t₁ =>
      rw [hs,ht] at hm
      cases hm
    | error e' t₁ =>
      rw [hs,ht] at hm
      cases hm with
      | error h => exact .error h

/-- A loop: the invariant speaks of the items gone through. -/
theorem forM {m : α → EStateM ε σ PUnit} {m' : α → EStateM ε τ PUnit} {l : List α}
    (I : List α → σ → τ → Prop)
    (hstep : ∀ done a rest s t, l = done ++ a :: rest → I done s t →
      Lockstep (I (done ++ [a])) E (m a s) (m' a t))
    (h : I [] s t) : Lockstep (I l) E (l.forM m s) (l.forM m' t) := by
  suffices hrun : ∀ done rest s t, l = done ++ rest → I done s t →
      Lockstep (I l) E (rest.forM m s) (rest.forM m' t) from hrun [] l s t rfl h
  intro done rest
  induction rest generalizing done with
  | nil =>
    intro s t hl hdone
    rw [List.append_nil] at hl
    subst hl
    exact .ok hdone
  | cons a rest ih =>
    intro s t hl hdone
    have hcons : (a :: rest).forM m = (m a >>= fun _ => rest.forM m) := rfl
    have hcons' : (a :: rest).forM m' = (m' a >>= fun _ => rest.forM m') := rfl
    rw [hcons,hcons']
    refine (hstep done a rest s t hl hdone).bind fun _ s' t' hnext => ?_
    exact ih (done ++ [a]) s' t' (by simp [hl]) hnext

end Lockstep
