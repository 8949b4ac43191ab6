import Mathlib.Data.List.Pairwise
import Mathlib.Data.List.Rotate
set_option autoImplicit false

/-!
A journal of facts, some of which exclude each other: a fact that is in the journal is taken
note of again, one that clashes with another fact is refused, and all others are added.
-/

namespace FactJournal

inductive Outcome where
  | added | replayed | conflict
  deriving DecidableEq, Repr

variable {α : Type} [DecidableEq α] (clash : α → α → Bool)

/-- One fact, compared with the one of those it clashes with that happens to be found. -/
def record (choice : Nat) (log : List α) (a : α) : Outcome × List α :=
  match ((log.filter (clash a)).rotate choice).head? with
  | none => (.added,log ++ [a])
  | some b => if b = a then (.replayed,log) else (.conflict,log)

/-- No two facts clash. -/
def Apart (log : List α) : Prop := log.Pairwise (fun a b => clash a b = false)

/-- A fact clashes with itself, and clashes are mutual. -/
structure Clashes : Prop where
  refl : ∀ a,clash a a = true
  symm : ∀ a b,clash a b = clash b a

variable {clash} {choice : Nat} {log : List α} {a : α}

omit [DecidableEq α] in
theorem Apart.eq_of_clash (hclash : Clashes clash) (h : Apart clash log) {b c : α} (hb : b ∈ log)
    (hc : c ∈ log) (hbc : clash b c = true) : b = c := by
  induction log with
  | nil => cases hb
  | cons d log ih =>
    obtain ⟨hd,hrest⟩ := List.pairwise_cons.1 h
    have hcb := hclash.symm b c
    obtain hb | hb := List.mem_cons.1 hb
    · obtain hc | hc := List.mem_cons.1 hc
      · rw [hb,hc]
      · rw [hb,hd c hc] at hbc
        cases hbc
    · obtain hc | hc := List.mem_cons.1 hc
      · rw [hcb,hc,hd b hb] at hbc
        cases hbc
      · exact ih hrest hb hc

omit [DecidableEq α] in
theorem Apart.nodup (hclash : Clashes clash) (h : Apart clash log) : log.Nodup := by
  apply List.Pairwise.imp _ h
  rintro b c hbc rfl
  rw [hclash.refl] at hbc
  cases hbc

omit [DecidableEq α] in
/-- What is found clashes. -/
theorem found_mem {b : α} (h : ((log.filter (clash a)).rotate choice).head? = some b) :
    b ∈ log ∧ clash a b = true := by
  have hmem := List.mem_rotate.1 (List.mem_of_head? h)
  exact List.mem_filter.1 hmem

omit [DecidableEq α] in
theorem found_none : ((log.filter (clash a)).rotate choice).head? = none ↔
    ∀ b ∈ log,clash a b = false := by
  rw [List.head?_eq_none_iff,List.rotate_eq_nil_iff,List.filter_eq_nil_iff]
  simp

theorem record_conflict_iff (hclash : Clashes clash) (h : Apart clash log) :
    (record clash choice log a).1 = .conflict ↔ ∃ b ∈ log,clash a b = true ∧ b ≠ a := by
  unfold record
  split
  next hnone =>
    have hall := found_none.1 hnone
    simp only [reduceCtorEq,false_iff,not_exists,not_and]
    intro b hb hab
    rw [hall b hb] at hab
    cases hab
  next b hb =>
    obtain ⟨hmem,hab⟩ := found_mem hb
    split_ifs with heq
    · subst heq
      simp only [false_iff,not_exists,not_and,not_not]
      intro c hc hbc
      exact (h.eq_of_clash hclash hmem hc hbc).symm
    · simp only [true_iff]
      exact ⟨b,hmem,hab,heq⟩

/-- A journal keeps what it has and adds nothing but the fact it is told. -/
theorem mem_record {x : α} : x ∈ (record clash choice log a).2 ↔
    x ∈ log ∨ x = a ∧ (record clash choice log a).1 ≠ .conflict := by
  unfold record
  split
  next => simp
  next b hb =>
    obtain ⟨hmem,-⟩ := found_mem hb
    split_ifs with heq
    · subst heq
      simp only [ne_eq,reduceCtorEq,not_false_eq_true,and_true]
      constructor
      · exact .inl
      · rintro (h | rfl)
        · exact h
        · exact hmem
    · simp

theorem record_apart (hclash : Clashes clash) (h : Apart clash log) :
    Apart clash (record clash choice log a).2 := by
  unfold record
  split
  next hnone =>
    refine List.pairwise_append.2 ⟨h,List.pairwise_singleton _ _,?_⟩
    intro b hb c hc
    obtain rfl := List.mem_singleton.1 hc
    rw [hclash.symm]
    exact found_none.1 hnone b hb
  next => split_ifs <;> exact h

/-- Only a fact that is added changes the journal. -/
theorem record_unchanged (h : (record clash choice log a).1 ≠ .added) :
    (record clash choice log a).2 = log := by
  unfold record at h ⊢
  split
  next hnone =>
    rw [hnone] at h
    exact absurd rfl h
  next b hb => split_ifs <;> rfl

end FactJournal
