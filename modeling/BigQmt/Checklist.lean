import Mathlib.Data.List.Forall2
set_option autoImplicit false

/-!
Lists of checks, each with the finding it reports when it is violated: what is found, when
nothing is, and when one list of checks finds no more than another.
-/

/-- A check and the finding it reports. -/
structure Check (φ : Type) where
  violated : Bool
  finding : φ

namespace Checklist

variable {φ : Type}

/-- The findings, in the order of the checks. -/
def findings (checks : List (Check φ)) : List φ := (checks.filter Check.violated).map Check.finding

/-- No check is violated. -/
def Passes (checks : List (Check φ)) : Prop := ∀ c ∈ checks, c.violated = false

instance (checks : List (Check φ)) : Decidable (Passes checks) :=
  inferInstanceAs (Decidable (∀ c ∈ checks, c.violated = false))

theorem findings_eq_nil {checks : List (Check φ)} : findings checks = [] ↔ Passes checks := by
  simp [findings,Passes,List.filter_eq_nil_iff]

theorem findings_ne_nil {checks : List (Check φ)} :
    findings checks ≠ [] ↔ ∃ c ∈ checks, c.violated = true := by
  rw [Ne,findings_eq_nil,Passes]
  simp

theorem passes_append {checks checks' : List (Check φ)} :
    Passes (checks ++ checks') ↔ Passes checks ∧ Passes checks' := by
  simp only [Passes,List.mem_append]
  constructor
  · intro h
    exact ⟨fun c hc => h c (.inl hc),fun c hc => h c (.inr hc)⟩
  · rintro ⟨h,h'⟩ c (hc | hc)
    · exact h c hc
    · exact h' c hc

@[simp] theorem passes_cons {c : Check φ} {checks : List (Check φ)} :
    Passes (c :: checks) ↔ c.violated = false ∧ Passes checks := by
  simp [Passes]

@[simp] theorem passes_nil : Passes ([] : List (Check φ)) := by simp [Passes]

/-- Check by check, the first list finds only what the second does. -/
def Milder (checks checks' : List (Check φ)) : Prop :=
  List.Forall₂ (fun c c' => c.violated = true → c'.violated = true) checks checks'

theorem Milder.passes {checks checks' : List (Check φ)} (h : Milder checks checks')
    (hpass : Passes checks') : Passes checks := by
  induction h with
  | nil => exact passes_nil
  | @cons c c' checks checks' hmild _ ih =>
    rw [passes_cons] at hpass ⊢
    obtain ⟨hc,hrest⟩ := hpass
    refine ⟨?_,ih hrest⟩
    by_contra hviolated
    rw [Bool.not_eq_false] at hviolated
    rw [hmild hviolated] at hc
    cases hc

theorem Milder.append {checks₁ checks₁' checks₂ checks₂' : List (Check φ)}
    (h : Milder checks₁ checks₁') (h' : Milder checks₂ checks₂') :
    Milder (checks₁ ++ checks₂) (checks₁' ++ checks₂') :=
  List.rel_append h h'

end Checklist
