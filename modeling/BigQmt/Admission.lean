import BigQmt.Table
import Mathlib.Data.List.Induction
import Mathlib.Order.Lattice
set_option autoImplicit false

/-!
A register that takes a reading only where it is newer than the one it holds, and tables
of such registers.
-/

namespace Admission

section register
variable {α : Type} (newer : α → α → Bool)

/-- The register after one more reading. -/
def take (held : Option α) (a : α) : Option α :=
  match held with
  | none => some a
  | some b => if newer a b then some a else some b

/-- `v` is one of the readings, and none of those after it was newer. -/
def Holds (readings : List α) (v : α) : Prop :=
  ∃ before after, readings = before ++ v :: after ∧ ∀ a ∈ after, newer a v = false

variable {newer}

theorem Holds.snoc {readings : List α} {v a : α} (h : Holds newer readings v)
    (ha : newer a v = false) : Holds newer (readings ++ [a]) v := by
  obtain ⟨before,after,rfl,hafter⟩ := h
  refine ⟨before,after ++ [a],by simp,fun b hb => ?_⟩
  rcases List.mem_append.mp hb with hb | hb
  · exact hafter b hb
  · rw [List.mem_singleton.mp hb]
    exact ha

theorem holds_snoc (newer : α → α → Bool) (readings : List α) (a : α) :
    Holds newer (readings ++ [a]) a := ⟨readings,[],rfl,by simp⟩

/-- A register that was empty holds the last reading that it took. -/
theorem holds_foldl {readings : List α} {v : α}
    (h : readings.foldl (take newer) none = some v) : Holds newer readings v := by
  induction readings using List.reverseRecOn generalizing v with
  | nil => cases h
  | append_singleton readings a ih =>
    rw [List.foldl_append] at h
    simp only [List.foldl_cons,List.foldl_nil] at h
    cases hheld : readings.foldl (take newer) none with
    | none =>
      simp only [hheld,take,Option.some.injEq] at h
      subst h
      exact holds_snoc newer readings a
    | some b =>
      simp only [hheld,take] at h
      split at h
      · cases h
        exact holds_snoc newer readings a
      · rename_i hnewer
        cases h
        exact (ih hheld).snoc (by simpa using hnewer)

variable {τ : Type} [LinearOrder τ] {time : α → τ}

theorem foldl_isSome (readings : List α) (held : α) :
    (readings.foldl (take newer) (some held)).isSome = true := by
  induction readings generalizing held with
  | nil => rfl
  | cons a readings ih =>
    simp only [List.foldl_cons,take]
    split
    · exact ih a
    · exact ih held

variable (time) in
/-- `v` is the first of the readings of the latest time. -/
def FirstOfLatest (readings : List α) (v : α) : Prop :=
  ∃ before after, readings = before ++ v :: after ∧ (∀ b ∈ before, time b < time v) ∧
    ∀ a ∈ after, time a ≤ time v

theorem FirstOfLatest.le {readings : List α} {v a : α} (h : FirstOfLatest time readings v)
    (ha : a ∈ readings) : time a ≤ time v := by
  obtain ⟨before,after,rfl,hbefore,hafter⟩ := h
  rcases List.mem_append.mp ha with ha | ha
  · exact (hbefore a ha).le
  · rcases List.mem_cons.mp ha with rfl | ha
    · exact le_rfl
    · exact hafter a ha

/-- Where a reading is newer when its time is later, the register holds the first of the
latest readings. -/
theorem firstOfLatest_foldl (hnewer : ∀ a b, newer a b = true ↔ time b < time a)
    {readings : List α} {v : α} (h : readings.foldl (take newer) none = some v) :
    FirstOfLatest time readings v := by
  induction readings using List.reverseRecOn generalizing v with
  | nil => cases h
  | append_singleton readings a ih =>
    rw [List.foldl_append] at h
    simp only [List.foldl_cons,List.foldl_nil] at h
    cases hheld : readings.foldl (take newer) none with
    | none =>
      cases readings with
      | nil =>
        cases h
        exact ⟨[],[],rfl,by simp,by simp⟩
      | cons b readings =>
        have hsome : (readings.foldl (take newer) (some b)).isSome = true := foldl_isSome _ _
        change readings.foldl (take newer) (some b) = none at hheld
        simp [hheld] at hsome
    | some b =>
      have hb := ih hheld
      simp only [hheld,take] at h
      split at h
      · rename_i hadmit
        cases h
        have hlt : time b < time a := (hnewer a b).mp hadmit
        exact ⟨readings,[],rfl,fun c hc => lt_of_le_of_lt (hb.le hc) hlt,by simp⟩
      · rename_i hadmit
        cases h
        obtain ⟨before,after,rfl,hbefore,hafter⟩ := hb
        have hle : time a ≤ time v := by
          by_contra hlt
          exact hadmit ((hnewer a v).mpr (not_le.mp hlt))
        refine ⟨before,after ++ [a],by simp,hbefore,fun c hc => ?_⟩
        rcases List.mem_append.mp hc with hc | hc
        · exact hafter c hc
        · rw [List.mem_singleton.mp hc]
          exact hle

end register

section table
variable {ρ κ : Type} [DecidableEq κ] (key : ρ → κ) (newer : ρ → ρ → Bool)

/-- A table with a register for each key, after one more reading. -/
def ingest (table : List ρ) (a : ρ) : List ρ :=
  match Keyed.find key (key a) table with
  | none => Keyed.put key a table
  | some b => if newer a b then Keyed.put key a table else table

theorem find_ingest_self (table : List ρ) (a : ρ) :
    Keyed.find key (key a) (ingest key newer table a) =
      take newer (Keyed.find key (key a) table) a := by
  unfold ingest take
  cases hfind : Keyed.find key (key a) table with
  | none => exact Keyed.find_put_self
  | some b =>
    dsimp only
    split
    · exact Keyed.find_put_self
    · exact hfind

theorem find_ingest_ne {k : κ} {table : List ρ} {a : ρ} (hk : k ≠ key a) :
    Keyed.find key k (ingest key newer table a) = Keyed.find key k table := by
  unfold ingest
  cases Keyed.find key (key a) table with
  | none => exact Keyed.find_put_ne hk
  | some b =>
    dsimp only
    split
    · exact Keyed.find_put_ne hk
    · rfl

/-- Each key is a register of its own readings. -/
theorem find_foldl (k : κ) (readings table : List ρ) :
    Keyed.find key k (readings.foldl (ingest key newer) table) =
      (readings.filter fun a => key a = k).foldl (take newer) (Keyed.find key k table) := by
  induction readings generalizing table with
  | nil => rfl
  | cons a readings ih =>
    rw [List.foldl_cons,ih]
    by_cases hk : key a = k
    · subst hk
      simp [find_ingest_self]
    · simp [hk,find_ingest_ne key newer (Ne.symm hk)]

end table
end Admission
