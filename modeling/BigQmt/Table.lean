import Mathlib.Data.List.Basic
set_option autoImplicit false

/-!
Rows in insertion order, found and rewritten by a key: what `SELECT`, `UPDATE`
and `INSERT` on one primary key do to a table.
-/

namespace Keyed

variable {κ ρ : Type} [DecidableEq κ] (key : ρ → κ)

def find (k : κ) (t : List ρ) : Option ρ := t.find? (fun r => key r = k)

def modify (k : κ) (f : ρ → ρ) (t : List ρ) : List ρ :=
  t.map (fun r => if key r = k then f r else r)

variable {key} {k k' : κ} {f : ρ → ρ} {t : List ρ} {r : ρ}

theorem find_key (h : find key k t = some r) : key r = k := by
  have h' := List.find?_some h
  simpa using h'

theorem find_mem (h : find key k t = some r) : r ∈ t := List.mem_of_find?_eq_some h

theorem mem_modify (h : r ∈ t) : (if key r = k then f r else r) ∈ modify key k f t :=
  List.mem_map.mpr ⟨r,h,rfl⟩

theorem find_modify_self (hf : ∀ r, key (f r) = key r) :
    find key k (modify key k f t) = (find key k t).map f := by
  induction t with
  | nil => rfl
  | cons a t ih =>
    by_cases ha : key a = k
    · simp [find,modify,ha,hf]
    · simp only [find,modify] at ih
      simp [find,modify,ha,ih]

theorem find_modify_ne (hf : ∀ r, key (f r) = key r) (hk : k' ≠ k) :
    find key k' (modify key k f t) = find key k' t := by
  induction t with
  | nil => rfl
  | cons a t ih =>
    simp only [find,modify] at ih
    by_cases ha : key a = k
    · have hne : k ≠ k' := Ne.symm hk
      simp [find,modify,ha,hf,hne,ih]
    · by_cases ha' : key a = k'
      · simp [find,modify,ha',hk]
      · simp [find,modify,ha,ha',ih]

theorem find_modify (hf : ∀ r, key (f r) = key r) :
    find key k' (modify key k f t) =
      if k' = k then (find key k t).map f else find key k' t := by
  by_cases h : k' = k
  · subst h
    simp [find_modify_self hf]
  · simp [h,find_modify_ne hf h]

theorem modify_keys (hf : ∀ r, key (f r) = key r) : (modify key k f t).map key = t.map key := by
  simp only [modify,List.map_map]
  refine List.map_congr_left fun r _ => ?_
  simp only [Function.comp_apply]
  split
  · exact hf r
  · rfl

theorem find_of_mem (hu : (t.map key).Nodup) (hr : r ∈ t) : find key (key r) t = some r := by
  induction t with
  | nil => simp at hr
  | cons a t ih =>
    simp only [List.map_cons,List.nodup_cons,List.mem_map,not_exists,not_and] at hu
    rcases List.mem_cons.mp hr with rfl | hr
    · simp [find]
    · have hne : key a ≠ key r := fun h => hu.1 r hr h.symm
      have hih := ih hu.2 hr
      simp only [find] at hih ⊢
      simp [hne,hih]

theorem find_append_self (h : find key (key r) t = none) :
    find key (key r) (t ++ [r]) = some r := by
  simp only [find] at h
  simp [find,List.find?_append,h]

theorem find_append_ne (hk : k ≠ key r) : find key k (t ++ [r]) = find key k t := by
  have hne : key r ≠ k := Ne.symm hk
  cases ht : List.find? (fun r => decide (key r = k)) t <;>
    simp [find,List.find?_append,ht,hne]

theorem find_append (h : find key (key r) t = none) :
    find key k (t ++ [r]) = if k = key r then some r else find key k t := by
  by_cases hk : k = key r
  · subst hk
    simp [find_append_self h]
  · simp [hk,find_append_ne hk]

theorem find_eq_none_iff : find key k t = none ↔ ∀ r ∈ t, key r ≠ k := by
  simp [find]

variable (key) in
/-- `d[key(r)] = r` on a dictionary, and an insert that updates on conflict. -/
def put (r : ρ) (t : List ρ) : List ρ :=
  if (find key (key r) t).isSome then modify key (key r) (fun _ => r) t else t ++ [r]

theorem put_keys : (put key r t).map key =
    if key r ∈ t.map key then t.map key else t.map key ++ [key r] := by
  have hfind : (find key (key r) t).isSome = true ↔ key r ∈ t.map key := by
    simp [find]
  unfold put
  by_cases h : key r ∈ t.map key
  · rw [if_pos (hfind.mpr h),if_pos h]
    simp only [modify,List.map_map]
    refine List.map_congr_left fun r' _ => ?_
    simp only [Function.comp_apply]
    split
    · rename_i hr
      exact hr.symm
    · rfl
  · rw [if_neg (fun hs => h (hfind.mp hs)),if_neg h]
    simp

theorem mem_put {r' : ρ} (h : r' ∈ put key r t) : r' = r ∨ r' ∈ t := by
  unfold put at h
  split at h
  · simp only [modify,List.mem_map] at h
    obtain ⟨a,ha,rfl⟩ := h
    split
    · exact .inl rfl
    · exact .inr ha
  · simp only [List.mem_append,List.mem_singleton] at h
    exact h.symm

theorem find_put_self : find key (key r) (put key r t) = some r := by
  unfold put
  by_cases h : (find key (key r) t).isSome = true
  · rw [if_pos h]
    induction t with
    | nil => simp [find] at h
    | cons a t ih =>
      by_cases ha : key a = key r
      · simp [find,modify,ha]
      · simp only [find,modify] at ih h ⊢
        simp only [List.find?_cons,ha,decide_false] at h
        simpa [ha] using ih h
  · rw [if_neg h]
    exact find_append_self (by simpa using h)

theorem find_put_ne (hk : k ≠ key r) : find key k (put key r t) = find key k t := by
  unfold put
  split
  · clear * - hk
    induction t with
    | nil => rfl
    | cons a t ih =>
      simp only [find,modify] at ih
      by_cases ha : key a = key r
      · have hne : key r ≠ k := Ne.symm hk
        simp [find,modify,ha,hne,ih]
      · by_cases hak : key a = k
        · simp [find,modify,hak,hk]
        · simp [find,modify,ha,hak,ih]
  · exact find_append_ne hk

/-- Marking the rows of a key changes nothing, or there are more marked rows. -/
theorem modify_marks (key : ρ → κ) (k : κ) (t : List ρ) {marked : ρ → Bool}
    (hf : ∀ r,marked (f r) = true)
    (hidle : ∀ r,marked r = true → f r = r) :
    t.countP marked ≤ (modify key k f t).countP marked ∧
      (modify key k f t = t ∨ t.countP marked < (modify key k f t).countP marked) := by
  induction t with
  | nil => simp [modify]
  | cons r t ih =>
    obtain ⟨hle,hmarks⟩ := ih
    have hcons : modify key k f (r :: t) = (if key r = k then f r else r) :: modify key k f t := rfl
    rw [hcons]
    by_cases hsame : (if key r = k then f r else r) = r
    · rw [hsame]
      obtain heq | hlt := hmarks
      · simp [heq]
      · simp only [List.countP_cons]
        exact ⟨by omega,.inr (by omega)⟩
    · have hunmarked : marked r = false := by
        by_contra hr
        rw [Bool.not_eq_false] at hr
        simp [hidle r hr] at hsame
      have hmarked : marked (if key r = k then f r else r) = true := by
        split
        · exact hf r
        · rename_i hk
          simp [hk] at hsame
      rw [List.countP_cons_of_pos hmarked,List.countP_cons_of_neg (by simp [hunmarked])]
      exact ⟨by omega,.inr (by omega)⟩
end Keyed
