import Mathlib.Data.List.Perm.Subperm
import Mathlib.Data.List.Nodup
import Mathlib.Data.List.ProdSigma
import Mathlib.Logic.Function.Basic
set_option autoImplicit false

/-!
Folders: contents under names that are all different, and the first of numbered names that is
free in one.
-/

structure Folder (ν γ : Type) where
  entries : List (ν × γ)
  nodup : (entries.map Prod.fst).Nodup

namespace Folder

variable {ν γ : Type} [DecidableEq ν]

def names (d : Folder ν γ) : List ν := d.entries.map Prod.fst

def contents (d : Folder ν γ) : List γ := d.entries.map Prod.snd

def lookup (d : Folder ν γ) (name : ν) : Option γ :=
  (d.entries.find? (fun p => p.1 = name)).map Prod.snd

def remove (d : Folder ν γ) (name : ν) : Folder ν γ where
  entries := d.entries.filter (fun p => p.1 ≠ name)
  nodup := d.nodup.sublist (List.filter_sublist.map Prod.fst)

def add (d : Folder ν γ) (name : ν) (content : γ) (h : name ∉ d.names) : Folder ν γ where
  entries := d.entries ++ [(name,content)]
  nodup := by
    rw [List.map_append,List.nodup_append]
    refine ⟨d.nodup,by simp,?_⟩
    intro a ha b hb
    have hname : b = name := by simpa using hb
    rintro rfl
    exact h (hname ▸ ha)

variable {d : Folder ν γ}

omit [DecidableEq ν] in
theorem mem_unique {name : ν} {a b : γ} (ha : (name,a) ∈ d.entries) (hb : (name,b) ∈ d.entries) :
    a = b := by
  have hpair := List.inj_on_of_nodup_map d.nodup ha hb rfl
  exact congrArg Prod.snd hpair

theorem lookup_of_mem {name : ν} {a : γ} (h : (name,a) ∈ d.entries) :
    d.lookup name = some a := by
  unfold lookup
  cases hfind : d.entries.find? (fun p => p.1 = name) with
  | none => exact absurd (List.find?_eq_none.1 hfind _ h) (by simp)
  | some p =>
    obtain ⟨name',b⟩ := p
    have hname : name' = name := by simpa using List.find?_some hfind
    subst hname
    simp [mem_unique h (List.mem_of_find?_eq_some hfind)]

/-- A folder holds the file that is removed from it, and the rest. -/
theorem remove_perm {name : ν} {a : γ} (h : (name,a) ∈ d.entries) :
    d.entries.Perm ((name,a) :: (d.remove name).entries) := by
  obtain ⟨front,back,hsplit⟩ := List.append_of_mem h
  have hnodup := d.nodup
  rw [hsplit,List.map_append,List.map_cons,List.nodup_middle,List.nodup_cons] at hnodup
  have hother : ∀ p ∈ front ++ back,p.1 ≠ name := by
    intro p hp heq
    have hmem : p.1 ∈ (front ++ back).map Prod.fst := List.mem_map_of_mem hp
    rw [heq,List.map_append] at hmem
    exact hnodup.1 hmem
  have hrest : (d.remove name).entries = front ++ back := by
    have hfront : front.filter (fun p => decide (p.1 ≠ name)) = front :=
      List.filter_eq_self.2 fun p hp => by simpa using hother p (by simp [hp])
    have hback : back.filter (fun p => decide (p.1 ≠ name)) = back :=
      List.filter_eq_self.2 fun p hp => by simpa using hother p (by simp [hp])
    simp only [remove,hsplit,List.filter_append,List.filter_cons,hfront,hback]
    simp
  rw [hrest,hsplit]
  exact List.perm_middle

/-- The first of the names from a number on that is not taken. -/
def firstFree (taken : List ν) (name : Nat → ν) : Nat → Nat → Option ν
  | 0,_ => none
  | fuel + 1,index =>
    if name index ∈ taken then firstFree taken name fuel (index + 1) else some (name index)

variable {taken : List ν} {name : Nat → ν} {fuel index : Nat}

theorem firstFree_spec {n : ν} (h : firstFree taken name fuel index = some n) :
    n ∉ taken ∧ ∃ i,n = name i := by
  induction fuel generalizing index with
  | zero => cases h
  | succ fuel ih =>
    unfold firstFree at h
    split_ifs at h with hin
    · exact ih h
    · cases h
      exact ⟨hin,index,rfl⟩

theorem firstFree_mono {fuel' : Nat} {n : ν} (h : firstFree taken name fuel index = some n)
    (hle : fuel ≤ fuel') : firstFree taken name fuel' index = some n := by
  induction fuel generalizing index fuel' with
  | zero => cases h
  | succ fuel ih =>
    obtain ⟨rest,rfl⟩ := Nat.exists_eq_add_of_le' (Nat.lt_of_lt_of_le (Nat.succ_pos fuel) hle)
    unfold firstFree at h ⊢
    split_ifs at h ⊢ with hin
    · exact ih h (by omega)
    · exact h

theorem taken_of_firstFree_none (h : firstFree taken name fuel index = none) :
    ∀ i,i < fuel → name (index + i) ∈ taken := by
  induction fuel generalizing index with
  | zero =>
    intro i hi
    omega
  | succ fuel ih =>
    unfold firstFree at h
    split_ifs at h with hin
    intro i hi
    cases i with
    | zero => exact hin
    | succ i =>
      have hnext := ih h i (by omega)
      rwa [Nat.add_right_comm,Nat.add_assoc] at hnext

/-- One more name than there are taken is enough to find a free one. -/
theorem firstFree_exists (hname : Function.Injective name) (hfuel : taken.length < fuel) :
    ∃ n,firstFree taken name fuel index = some n := by
  cases h : firstFree taken name fuel index with
  | some n => exact ⟨n,rfl⟩
  | none =>
    have hall := taken_of_firstFree_none h
    have hnodup : ((List.range fuel).map (fun i => name (index + i))).Nodup := by
      refine List.nodup_range.map ?_
      intro i j hij
      have heq := hname hij
      omega
    have hsub : (List.range fuel).map (fun i => name (index + i)) ⊆ taken := by
      intro n hn
      obtain ⟨i,hi,rfl⟩ := List.mem_map.1 hn
      exact hall i (List.mem_range.1 hi)
    have hlen := (List.subperm_of_subset hnodup hsub).length_le
    simp only [List.length_map,List.length_range] at hlen
    omega

end Folder
