import Mathlib.Order.Basic
import Mathlib.Data.Set.Insert
set_option autoImplicit false

/-!
A register that keeps the latest of the readings it is told. Readings that disagree
about one time leave a conflict of that time in the register, which is compared with
what arrives later like any reading.
-/

namespace LatestWins

variable {τ α : Type} [LinearOrder τ]
variable (time : α → τ) (conflict : τ → α)

/-- The register after one more reading. -/
def observe [DecidableEq α] (held : Option α) (a : α) : Option α :=
  match held with
  | none => some a
  | some b =>
    if time a < time b then some b
    else if time a = time b then if a = b then some b else some (conflict (time a))
    else some a

/-- `a` is read, and nothing is read of a later time. -/
structure Latest (seen : Set α) (a : α) : Prop where
  read : a ∈ seen
  last : ∀ b ∈ seen, time b ≤ time a

/-- `a` is the only reading of the latest time. -/
structure Unique (seen : Set α) (a : α) : Prop extends Latest time seen a where
  alone : ∀ b ∈ seen, time b = time a → b = a

/-- What the readings say, whatever the order they came in. -/
def Verdict (seen : Set α) : Option α → Prop
  | none => seen = ∅
  | some v => Unique time seen v ∨
      ∃ a b, Latest time seen a ∧ Latest time seen b ∧ a ≠ b ∧ v = conflict (time a)

variable {time conflict}

theorem Latest.time_eq {seen : Set α} {a b : α} (ha : Latest time seen a)
    (hb : Latest time seen b) : time a = time b :=
  le_antisymm (hb.last a ha.read) (ha.last b hb.read)

theorem Unique.not_latest {seen : Set α} {a b : α} (ha : Unique time seen a) (hne : b ≠ a) :
    ¬Latest time seen b := by
  intro hb
  exact hne (ha.alone b hb.read (hb.time_eq ha.toLatest))

/-- The readings leave the register no choice. -/
theorem Verdict.unique {seen : Set α} {v w : Option α} (hv : Verdict time conflict seen v)
    (hw : Verdict time conflict seen w) : v = w := by
  have hempty : ∀ {x : α}, Verdict time conflict seen (some x) → seen ≠ ∅ := by
    intro x hx hnone
    subst hnone
    obtain h | ⟨a,b,h,-⟩ := hx
    · exact h.read
    · exact h.read
  have hapart : ∀ {x a b : α}, Unique time seen x → Latest time seen a → Latest time seen b →
      a ≠ b → False := by
    intro x a b hx ha hb hne
    have hax : a = x := by
      by_contra hax
      exact hx.not_latest hax ha
    have hbx : b = x := by
      by_contra hbx
      exact hx.not_latest hbx hb
    exact hne (hax.trans hbx.symm)
  cases v with
  | none =>
    cases w with
    | none => rfl
    | some y => exact absurd hv (hempty hw)
  | some x =>
    cases w with
    | none => exact absurd hw (hempty hv)
    | some y =>
      obtain hx | ⟨a,b,ha,hb,hne,rfl⟩ := hv
      · obtain hy | ⟨c,d,hc,hd,hne,-⟩ := hw
        · exact congrArg some (hy.alone x hx.read (hx.toLatest.time_eq hy.toLatest))
        · exact (hapart hx hc hd hne).elim
      · obtain hy | ⟨c,d,hc,hd,-,rfl⟩ := hw
        · exact (hapart hy ha hb hne).elim
        · rw [ha.time_eq hc]

section Observe

variable (htime : ∀ t, time (conflict t) = t)
include htime

/-- The register holds a reading of the latest time. -/
theorem Verdict.time_latest {seen : Set α} {v : α}
    (hv : Verdict time conflict seen (some v)) :
    ∃ a, Latest time seen a ∧ time a = time v := by
  obtain h | ⟨a,-,ha,-,-,rfl⟩ := hv
  · exact ⟨v,h.toLatest,rfl⟩
  · exact ⟨a,ha,(htime _).symm⟩

/-- One reading more: late ones change nothing, later ones replace, and one of the same
time agrees or leaves the conflict. -/
theorem verdict_observe [DecidableEq α] {seen : Set α} {held : Option α} (a : α)
    (h : Verdict time conflict seen held) :
    Verdict time conflict (insert a seen) (observe time conflict held a) := by
  cases held with
  | none =>
    have hnone : seen = ∅ := h
    subst hnone
    refine Or.inl ⟨⟨by simp,?_⟩,?_⟩
    · simp
    · simp
  | some v =>
    obtain ⟨l,hl,hlv⟩ := h.time_latest htime
    have hkeep : ∀ {b : α}, time a ≤ time b → Latest time seen b →
        Latest time (insert a seen) b := by
      intro b hab hb
      refine ⟨Set.mem_insert_of_mem a hb.read,?_⟩
      rintro c (rfl | hc)
      · exact hab
      · exact hb.last c hc
    have hnew : time l ≤ time a → Latest time (insert a seen) a := by
      intro hla
      refine ⟨Set.mem_insert a seen,?_⟩
      rintro c (rfl | hc)
      · exact le_rfl
      · exact (hl.last c hc).trans hla
    simp only [observe]
    split_ifs with hlate hsame heq
    · -- a late reading
      obtain hv | ⟨b,c,hb,hc,hne,rfl⟩ := h
      · refine Or.inl ⟨hkeep hlate.le hv.toLatest,?_⟩
        rintro d (rfl | hd) hdv
        · exact absurd hdv hlate.ne
        · exact hv.alone d hd hdv
      · rw [htime] at hlate
        have hcb : time a ≤ time c := by rw [← hb.time_eq hc]; exact hlate.le
        exact Or.inr ⟨b,c,hkeep hlate.le hb,hkeep hcb hc,hne,rfl⟩
    · -- the reading the register holds
      subst heq
      obtain hv | ⟨b,c,hb,hc,hne,hbc⟩ := h
      · refine Or.inl ⟨hkeep le_rfl hv.toLatest,?_⟩
        rintro d (rfl | hd) hdv
        · rfl
        · exact hv.alone d hd hdv
      · have hab : time a = time b := by rw [hbc,htime]
        have hac : time a = time c := by rw [hab,hb.time_eq hc]
        exact Or.inr ⟨b,c,hkeep hab.le hb,hkeep hac.le hc,hne,hbc⟩
    · -- another reading of the latest time: one of those read differs from it
      have hla : time l = time a := hlv.trans hsame.symm
      have hother : ∃ b, Latest time seen b ∧ b ≠ a := by
        obtain hv | ⟨b,c,hb,hc,hne,-⟩ := h
        · exact ⟨v,hv.toLatest,Ne.symm heq⟩
        · by_cases hba : b = a
          · exact ⟨c,hc,fun hca => hne (hba.trans hca.symm)⟩
          · exact ⟨b,hb,hba⟩
      obtain ⟨b,hb,hne⟩ := hother
      have hab : time a = time b := by rw [← hla,hl.time_eq hb]
      exact Or.inr ⟨a,b,hnew hla.le,hkeep hab.le hb,Ne.symm hne,rfl⟩
    · -- a later reading
      have hlt : time v < time a := lt_of_le_of_ne (not_lt.mp hlate) (Ne.symm hsame)
      rw [← hlv] at hlt
      refine Or.inl ⟨hnew hlt.le,?_⟩
      rintro d (rfl | hd) hda
      · rfl
      · exact absurd (hda ▸ hl.last d hd) (not_le.mpr hlt)

/-- After any readings the register holds their verdict. -/
theorem verdict_foldl [DecidableEq α] {seen : Set α} {held : Option α} (l : List α)
    (h : Verdict time conflict seen held) :
    Verdict time conflict (seen ∪ {a | a ∈ l}) (l.foldl (observe time conflict) held) := by
  induction l generalizing seen held with
  | nil => simpa using h
  | cons a l ih =>
    have hset : seen ∪ {b | b ∈ a :: l} = insert a seen ∪ {b | b ∈ l} := by
      ext b
      simp [or_assoc,or_left_comm]
    rw [hset]
    exact ih (verdict_observe htime a h)

end Observe

end LatestWins
