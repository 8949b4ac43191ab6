import Mathlib.Data.List.MinMax
import Mathlib.Order.Lattice
set_option autoImplicit false

/-!
The largest item of sources that are read newest bound first, where reading stops at the
first source that can hold nothing as late as what was found.
-/

namespace EarlyStop

section Largest

variable {α κ : Type} [LinearOrder κ] (key : α → κ)

def larger (held : Option α) (a : α) : Option α :=
  match held with
  | none => some a
  | some b => if key b < key a then some a else some b

/-- `max(items, key=key)`: the first of the largest items. -/
def largest (as : List α) : Option α := as.foldl (larger key) none

variable {key}

theorem larger_ne_none (held : Option α) (a : α) : larger key held a ≠ none := by
  unfold larger
  split
  · simp
  · split_ifs <;> simp

theorem foldl_larger_none {as : List α} {held : Option α} :
    as.foldl (larger key) held = none ↔ held = none ∧ as = [] := by
  induction as generalizing held with
  | nil => simp
  | cons a as ih => simp [ih,larger_ne_none]

theorem largest_eq_none {as : List α} : largest key as = none ↔ as = [] := by
  simp [largest,foldl_larger_none]

theorem larger_spec {held : Option α} {a m : α} (h : larger key held a = some m) :
    (held = some m ∨ a = m) ∧ key a ≤ key m ∧ ∀ b ∈ held,key b ≤ key m := by
  unfold larger at h
  split at h
  · cases h
    simp
  · split_ifs at h with hlt
    · cases h
      simp [hlt.le]
    · cases h
      simp [not_lt.1 hlt]

theorem foldl_larger_spec {as : List α} {held : Option α} {m : α}
    (h : as.foldl (larger key) held = some m) :
    (held = some m ∨ m ∈ as) ∧ (∀ a ∈ as,key a ≤ key m) ∧ ∀ b ∈ held,key b ≤ key m := by
  induction as generalizing held with
  | nil =>
    simp only [List.foldl_nil] at h
    subst h
    simp
  | cons a as ih =>
    obtain ⟨hmem,hall,hheld⟩ := ih h
    cases hstep : larger key held a with
    | none => exact absurd hstep (larger_ne_none held a)
    | some b =>
      obtain ⟨hone,hle,hrest⟩ := larger_spec hstep
      have hb := hheld b hstep
      refine ⟨?_,?_,fun c hc => (hrest c hc).trans hb⟩
      · obtain hm | hm := hmem
        · rw [hstep] at hm
          cases hm
          obtain hold | rfl := hone
          · exact .inl hold
          · simp
        · simp [hm]
      · intro c hc
        obtain rfl | hc := List.mem_cons.1 hc
        · exact hle.trans hb
        · exact hall c hc

/-- The largest item is one of the items, and none is larger. -/
theorem largest_spec {as : List α} {m : α} (h : largest key as = some m) :
    m ∈ as ∧ ∀ a ∈ as,key a ≤ key m := by
  obtain ⟨hmem,hall,-⟩ := foldl_larger_spec h
  simpa using And.intro hmem hall

/-- Items that are smaller than one before them change nothing. -/
theorem largest_append {as bs : List α} (h : ∀ b ∈ bs,∃ a ∈ as,key b < key a) :
    largest key (as ++ bs) = largest key as := by
  induction bs using List.reverseRecOn with
  | nil => simp
  | append_singleton bs b ih =>
    have hbs := ih (fun c hc => h c (by simp [hc]))
    obtain ⟨a,ha,hlt⟩ := h b (by simp)
    cases hm : largest key as with
    | none =>
      rw [largest_eq_none] at hm
      simp [hm] at ha
    | some m =>
      have hle := (largest_spec hm).2 a ha
      rw [hm] at hbs
      have hkeep : ¬key m < key b := not_lt.2 (hlt.le.trans hle)
      rw [← List.append_assoc]
      unfold largest at hbs ⊢
      rw [List.foldl_append,hbs]
      simp [larger,hkeep]

end Largest

section Scan

variable {α β ε τ κ : Type} [LinearOrder τ] [LinearOrder κ]
variable (time : α → τ) (bound : β → τ) (read : β → Except ε (List α))

/-- The latest time known after reading `as`. -/
def advance (best : τ) (as : List α) : τ :=
  match (as.map time).max? with
  | none => best
  | some t => max best t

/-- Reads the sources until one is bounded below the best time. -/
def scan (best : τ) (found : List α) : List β → Except ε (List α)
  | [] => .ok found
  | b :: bs =>
    if bound b < best then .ok found
    else
      match read b with
      | .error e => .error e
      | .ok as => scan (advance time best as) (found ++ as) bs

/-- Reads all sources. -/
def scanAll (found : List α) : List β → Except ε (List α)
  | [] => .ok found
  | b :: bs =>
    match read b with
    | .error e => .error e
    | .ok as => scanAll (found ++ as) bs

variable {time bound read}

/-- The best time is that of an item found, or the floor that all items reach. -/
def Known (time : α → τ) (floor best : τ) (found : List α) : Prop :=
  best = floor ∨ ∃ a ∈ found,best = time a

theorem advance_known {floor best : τ} {found as : List α} (h : Known time floor best found) :
    Known time floor (advance time best as) (found ++ as) := by
  unfold advance
  split
  next => 
    obtain h | ⟨a,ha,hbest⟩ := h
    · exact .inl h
    · exact .inr ⟨a,List.mem_append_left _ ha,hbest⟩
  next t ht =>
    obtain ⟨a,ha,rfl⟩ := List.mem_map.1 (List.max?_mem ht)
    obtain hle | hle := le_total best (time a)
    · exact .inr ⟨a,List.mem_append_right _ ha,max_eq_right hle⟩
    · rw [max_eq_left hle]
      obtain h | ⟨b,hb,hbest⟩ := h
      · exact .inl h
      · exact .inr ⟨b,List.mem_append_left _ hb,hbest⟩

/-- A source that can be read, with items between the floor and its bound. -/
def Bounded (time : α → τ) (bound : β → τ) (read : β → Except ε (List α)) (floor : τ) (b : β) :
    Prop := ∃ as,read b = .ok as ∧ ∀ a ∈ as,floor ≤ time a ∧ time a ≤ bound b

theorem scanAll_append (found : List α) {bs : List β} (h : ∀ b ∈ bs,∃ as,read b = .ok as) :
    ∃ rest,scanAll read found bs = .ok (found ++ rest) ∧
      ∀ a ∈ rest,∃ b ∈ bs,∃ as,read b = .ok as ∧ a ∈ as := by
  induction bs generalizing found with
  | nil => exact ⟨[],by simp [scanAll],by simp⟩
  | cons b bs ih =>
    obtain ⟨as,has⟩ := h b (by simp)
    obtain ⟨rest,hrest,hmem⟩ := ih (found ++ as) (fun c hc => h c (by simp [hc]))
    refine ⟨as ++ rest,?_,?_⟩
    · rw [← List.append_assoc,← hrest]
      simp [scanAll,has]
    · intro a ha
      obtain ha | ha := List.mem_append.1 ha
      · exact ⟨b,by simp,as,has,ha⟩
      · obtain ⟨c,hc,hread⟩ := hmem a ha
        exact ⟨c,by simp [hc],hread⟩

theorem mem_scanAll {found all : List α} {bs : List β} (h : scanAll read found bs = .ok all)
    {a : α} : a ∈ all ↔ a ∈ found ∨ ∃ b ∈ bs,∃ as,read b = .ok as ∧ a ∈ as := by
  induction bs generalizing found with
  | nil =>
    cases h
    simp
  | cons b bs ih =>
    unfold scanAll at h
    cases has : read b with
    | error e => simp [has] at h
    | ok as =>
      simp only [has] at h
      simp [ih h,has,or_assoc]

/-- The scan that stops leaves out items only that are earlier than one it found. -/
theorem scan_prefix {floor best : τ} {found : List α} {bs : List β}
    (hsorted : bs.Pairwise (fun b c => bound c ≤ bound b))
    (hread : ∀ b ∈ bs,Bounded time bound read floor b) (hknown : Known time floor best found) :
    ∃ kept rest,scan time bound read best found bs = .ok kept ∧
      scanAll read found bs = .ok (kept ++ rest) ∧ ∀ b ∈ rest,∃ a ∈ kept,time b < time a := by
  induction bs generalizing best found with
  | nil => exact ⟨found,[],by simp [scan],by simp [scanAll],by simp⟩
  | cons b bs ih =>
    obtain ⟨hhead,htail⟩ := List.pairwise_cons.1 hsorted
    by_cases hstop : bound b < best
    · obtain ⟨rest,hrest,hmem⟩ := scanAll_append found
        (fun c hc => (hread c hc).imp fun as has => has.1)
      refine ⟨found,rest,by simp [scan,hstop],hrest,?_⟩
      intro a ha
      obtain ⟨c,hc,as,has,ha⟩ := hmem a ha
      obtain ⟨as',has',hbounds⟩ := hread c hc
      rw [has] at has'
      cases has'
      obtain ⟨hfloor,hle⟩ := hbounds a ha
      have hlt : time a < best := by
        obtain rfl | hc := List.mem_cons.1 hc
        · exact hle.trans_lt hstop
        · exact (hle.trans (hhead c hc)).trans_lt hstop
      obtain rfl | ⟨d,hd,rfl⟩ := hknown
      · exact absurd hlt (not_lt.2 hfloor)
      · exact ⟨d,hd,hlt⟩
    · obtain ⟨as,has,-⟩ := hread b (by simp)
      obtain ⟨kept,rest,hscan,hall,hlt⟩ := ih htail (fun c hc => hread c (by simp [hc]))
        (advance_known hknown)
      exact ⟨kept,rest,by simpa [scan,hstop,has] using hscan,by simpa [scanAll,has] using hall,hlt⟩

end Scan

end EarlyStop
