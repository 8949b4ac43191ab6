import Mathlib.Data.List.Basic
set_option autoImplicit false

/-!
The proleptic Gregorian calendar: dates, their ordinals, and that both are ordered alike.
Day 1 of the ordinals is the first day of year 1.
-/

namespace Gregorian

def isLeap (year : Nat) : Bool := year % 4 = 0 && (year % 100 ≠ 0 || year % 400 = 0)

def daysInMonth (leap : Bool) : Nat → Nat
  | 2 => if leap then 29 else 28
  | 4 | 6 | 9 | 11 => 30
  | _ => 31

/-- The days of the year before the first of the month. -/
def daysBeforeMonth (leap : Bool) : Nat → Nat
  | 0 | 1 => 0
  | month + 2 => daysBeforeMonth leap (month + 1) + daysInMonth leap (month + 1)

def daysBeforeYear (year : Nat) : Nat :=
  (year - 1) * 365 + (year - 1) / 4 - (year - 1) / 100 + (year - 1) / 400

structure Date where
  year : Nat
  month : Nat
  day : Nat
  deriving DecidableEq, Repr

structure Date.Valid (d : Date) : Prop where
  year : 1 ≤ d.year
  month : 1 ≤ d.month ∧ d.month ≤ 12
  day : 1 ≤ d.day ∧ d.day ≤ daysInMonth (isLeap d.year) d.month

def Date.toOrdinal (d : Date) : Nat :=
  daysBeforeYear d.year + daysBeforeMonth (isLeap d.year) d.month + d.day

/-- The month and the day of a day of the year, counted from 0. -/
def monthDay (leap : Bool) (n : Nat) : Nat × Nat :=
  let month := (n + 50) / 32
  let preceding := daysBeforeMonth leap month
  if n < preceding then (month - 1,n - daysBeforeMonth leap (month - 1) + 1)
  else (month,n - preceding + 1)

/-- Cycles of 400, 100, 4 years and 1 year; the last day of a cycle belongs to no shorter one. -/
def Date.ofOrdinal (ordinal : Nat) : Date :=
  let n := ordinal - 1
  let n400 := n / 146097
  let n100 := n % 146097 / 36524
  let n4 := n % 146097 % 36524 / 1461
  let n1 := n % 146097 % 36524 % 1461 / 365
  let year := n400 * 400 + n100 * 100 + n4 * 4 + n1 + 1
  let md := monthDay (isLeap year) (n % 146097 % 36524 % 1461 % 365)
  if n1 = 4 || n100 = 4 then ⟨year - 1,12,31⟩ else ⟨year,md.1,md.2⟩

theorem daysInMonth_le (leap : Bool) (month : Nat) : daysInMonth leap month ≤ 31 := by
  unfold daysInMonth
  split <;> try split
  all_goals omega

theorem daysBeforeMonth_next (leap : Bool) {month : Nat} (h : 1 ≤ month) :
    daysBeforeMonth leap (month + 1) = daysBeforeMonth leap month + daysInMonth leap month := by
  obtain ⟨m,rfl⟩ := Nat.exists_eq_add_of_le' h
  rfl

theorem daysBeforeMonth_mono (leap : Bool) {a b : Nat} (ha : 1 ≤ a) (h : a < b) :
    daysBeforeMonth leap a + daysInMonth leap a ≤ daysBeforeMonth leap b := by
  induction b with
  | zero => omega
  | succ b ih =>
    have hnext := daysBeforeMonth_next leap (show 1 ≤ b by omega)
    by_cases hab : a = b
    · subst hab
      omega
    · have hle := ih (by omega)
      omega

theorem daysBeforeMonth_year (leap : Bool) :
    daysBeforeMonth leap 13 = if leap then 366 else 365 := by
  cases leap <;> decide

theorem daysBeforeYear_next {year : Nat} (h : 1 ≤ year) : daysBeforeYear (year + 1) =
    daysBeforeYear year + if isLeap year then 366 else 365 := by
  obtain ⟨y,rfl⟩ := Nat.exists_eq_add_of_le' h
  have hfour : (y + 1) / 4 = y / 4 + if 4 ∣ y + 1 then 1 else 0 := Nat.succ_div
  have hcentury : (y + 1) / 100 = y / 100 + if 100 ∣ y + 1 then 1 else 0 := Nat.succ_div
  have hcycle : (y + 1) / 400 = y / 400 + if 400 ∣ y + 1 then 1 else 0 := Nat.succ_div
  have hle : y / 100 ≤ y / 4 := by omega
  unfold daysBeforeYear
  simp only [Nat.add_sub_cancel,Nat.dvd_iff_mod_eq_zero] at hfour hcentury hcycle ⊢
  by_cases h4 : (y + 1) % 4 = 0
  · by_cases h100 : (y + 1) % 100 = 0
    · by_cases h400 : (y + 1) % 400 = 0
      · have hleap : isLeap (y + 1) = true := by simp [isLeap,h4,h400]
        simp only [hleap,h4,h100,h400,if_true] at hfour hcentury hcycle ⊢
        omega
      · have hleap : isLeap (y + 1) = false := by simp [isLeap,h100,h400]
        simp only [hleap,h4,h100,h400,if_true,if_false] at hfour hcentury hcycle ⊢
        simp only [Bool.false_eq_true,if_false]
        omega
    · have h400 : ¬ (y + 1) % 400 = 0 := by omega
      have hleap : isLeap (y + 1) = true := by simp [isLeap,h4,h100]
      simp only [hleap,h4,h100,h400,if_true,if_false] at hfour hcentury hcycle ⊢
      omega
  · have h100 : ¬ (y + 1) % 100 = 0 := by omega
    have h400 : ¬ (y + 1) % 400 = 0 := by omega
    have hleap : isLeap (y + 1) = false := by simp [isLeap,h4]
    simp only [hleap,h4,h100,h400,if_false] at hfour hcentury hcycle ⊢
    simp only [Bool.false_eq_true,if_false]
    omega

/-- The years lie one behind the other. -/
theorem daysBeforeYear_mono {a b : Nat} (ha : 1 ≤ a) (h : a < b) :
    daysBeforeYear (a + 1) ≤ daysBeforeYear b := by
  induction b with
  | zero => omega
  | succ b ih =>
    by_cases hab : a = b
    · subst hab
      omega
    · have hle := ih (by omega)
      have hnext := daysBeforeYear_next (show 1 ≤ b by omega)
      omega

namespace Date

variable {d e : Date}

theorem Valid.ordinal_pos (h : d.Valid) : 1 ≤ d.toOrdinal := by
  have hday := h.day.1
  unfold toOrdinal
  omega

/-- The ordinal of a date lies within its year. -/
theorem Valid.ordinal_le (h : d.Valid) : d.toOrdinal ≤ daysBeforeYear (d.year + 1) := by
  have hmonth := daysBeforeMonth_mono (isLeap d.year) h.month.1 (show d.month < 13 by
    have hle := h.month.2
    omega)
  have hday := h.day.2
  rw [daysBeforeMonth_year] at hmonth
  rw [daysBeforeYear_next h.year]
  unfold toOrdinal
  omega

/-- Dates are ordered as their years, months and days are. -/
theorem toOrdinal_lt (hd : d.Valid) (he : e.Valid)
    (h : [d.year,d.month,d.day] < [e.year,e.month,e.day]) : d.toOrdinal < e.toOrdinal := by
  simp only [List.cons_lt_cons_iff,List.lt_irrefl,and_false,or_false] at h
  obtain h | ⟨hyear,h | ⟨hmonth,h⟩⟩ := h
  · have hd' := hd.ordinal_le
    have hmono := daysBeforeYear_mono hd.year h
    have hday := he.day.1
    unfold toOrdinal at hd' ⊢
    omega
  · have hmono := daysBeforeMonth_mono (isLeap d.year) hd.month.1 h
    have hday := hd.day.2
    have hday' := he.day.1
    unfold toOrdinal
    rw [← hyear]
    omega
  · unfold toOrdinal
    rw [← hyear,← hmonth]
    omega

/-- Of two dates the one with the smaller ordinal has the smaller fields. -/
theorem lt_of_toOrdinal_lt (hd : d.Valid) (he : e.Valid) (h : d.toOrdinal < e.toOrdinal) :
    [d.year,d.month,d.day] < [e.year,e.month,e.day] := by
  by_contra hle
  obtain heq | hlt := List.le_iff_lt_or_eq.1 (List.not_lt.1 hle) |>.symm
  · simp only [List.cons.injEq,and_true] at heq
    obtain ⟨hyear,hmonth,hday⟩ := heq
    unfold toOrdinal at h
    rw [hyear,hmonth,hday] at h
    exact Nat.lt_irrefl _ h
  · have hord := toOrdinal_lt he hd hlt
    omega

end Date

/-- Every day of a year has its month and day. -/
theorem monthDay_spec (leap : Bool) {n : Nat} (h : n < if leap then 366 else 365) :
    1 ≤ (monthDay leap n).1 ∧ (monthDay leap n).1 ≤ 12 ∧ 1 ≤ (monthDay leap n).2 ∧
      (monthDay leap n).2 ≤ daysInMonth leap (monthDay leap n).1 ∧
      daysBeforeMonth leap (monthDay leap n).1 + (monthDay leap n).2 = n + 1 := by
  have hall : ∀ leap : Bool,∀ n : Fin 366,n.val < (if leap then 366 else 365) →
      1 ≤ (monthDay leap n).1 ∧ (monthDay leap n).1 ≤ 12 ∧ 1 ≤ (monthDay leap n).2 ∧
        (monthDay leap n).2 ≤ daysInMonth leap (monthDay leap n).1 ∧
        daysBeforeMonth leap (monthDay leap n).1 + (monthDay leap n).2 = n + 1 := by
    decide +kernel
  have hn : n < 366 := by
    split at h <;> omega
  exact hall leap ⟨n,hn⟩ h

/-- The days before a year within its cycles of 400, 100 and 4 years. -/
theorem daysBeforeYear_cycles (a : Nat) {b c d : Nat} (hb : b ≤ 3) (hc : c ≤ 24) (hd : d ≤ 3) :
    daysBeforeYear (a * 400 + b * 100 + c * 4 + d + 1) =
      a * 146097 + b * 36524 + c * 1461 + d * 365 := by
  have hfour : (a * 400 + b * 100 + c * 4 + d) / 4 = a * 100 + b * 25 + c := by omega
  have hcentury : (a * 400 + b * 100 + c * 4 + d) / 100 = a * 4 + b := by omega
  have hcycle : (a * 400 + b * 100 + c * 4 + d) / 400 = a := by omega
  simp only [daysBeforeYear,Nat.add_sub_cancel,hfour,hcentury,hcycle]
  omega

namespace Date

theorem valid_lastDay {year : Nat} (h : 1 ≤ year) : (⟨year,12,31⟩ : Date).Valid where
  year := h
  month := ⟨(by decide : 1 ≤ 12),Nat.le_refl 12⟩
  day := ⟨(by decide : 1 ≤ 31),Nat.le_refl 31⟩

theorem toOrdinal_lastDay {year : Nat} (h : 1 ≤ year) :
    (⟨year,12,31⟩ : Date).toOrdinal = daysBeforeYear (year + 1) := by
  have hyear := daysBeforeMonth_year (isLeap year)
  have hnext : daysBeforeMonth (isLeap year) 13 = daysBeforeMonth (isLeap year) 12 + 31 := rfl
  rw [daysBeforeYear_next h]
  unfold toOrdinal
  simp only
  omega

/-- Every ordinal is that of one valid date. -/
theorem ofOrdinal_spec {n : Nat} (h : 1 ≤ n) :
    (ofOrdinal n).Valid ∧ (ofOrdinal n).toOrdinal = n := by
  obtain ⟨m,rfl⟩ := Nat.exists_eq_add_of_le' h
  have h100 : m % 146097 / 36524 ≤ 4 := by omega
  have h4 : m % 146097 % 36524 / 1461 ≤ 24 := by omega
  have h1 : m % 146097 % 36524 % 1461 / 365 ≤ 4 := by omega
  unfold ofOrdinal
  simp only [Nat.add_sub_cancel,Bool.or_eq_true,decide_eq_true_eq]
  split_ifs with hlast
  · have hpos : 1 ≤ m / 146097 * 400 + m % 146097 / 36524 * 100 +
        m % 146097 % 36524 / 1461 * 4 + m % 146097 % 36524 % 1461 / 365 := by omega
    refine ⟨valid_lastDay hpos,?_⟩
    rw [toOrdinal_lastDay hpos]
    obtain hfour | hcentury := hlast
    · have hcycles := daysBeforeYear_cycles (m / 146097) (b := m % 146097 / 36524)
        (c := m % 146097 % 36524 / 1461 + 1) (d := 0) (by omega) (by omega) (by omega)
      have hyear : m / 146097 * 400 + m % 146097 / 36524 * 100 +
          (m % 146097 % 36524 / 1461 + 1) * 4 + 0 = m / 146097 * 400 +
            m % 146097 / 36524 * 100 + m % 146097 % 36524 / 1461 * 4 +
              m % 146097 % 36524 % 1461 / 365 := by omega
      rw [← hyear,hcycles]
      clear hyear hcycles hpos
      omega
    · have hcycles := daysBeforeYear_cycles (m / 146097 + 1) (b := 0) (c := 0) (d := 0)
        (by omega) (by omega) (by omega)
      have hyear : (m / 146097 + 1) * 400 + 0 * 100 + 0 * 4 + 0 = m / 146097 * 400 +
          m % 146097 / 36524 * 100 + m % 146097 % 36524 / 1461 * 4 +
            m % 146097 % 36524 % 1461 / 365 := by omega
      rw [← hyear,hcycles]
      clear hyear hcycles hpos
      omega
  · obtain ⟨hfour,hcentury⟩ := not_or.1 hlast
    have hcycles := daysBeforeYear_cycles (m / 146097) (b := m % 146097 / 36524)
      (c := m % 146097 % 36524 / 1461) (d := m % 146097 % 36524 % 1461 / 365)
        (by omega) (by omega) (by omega)
    obtain ⟨hlow,hhigh,hday,hdays,hsum⟩ := monthDay_spec
      (isLeap (m / 146097 * 400 + m % 146097 / 36524 * 100 + m % 146097 % 36524 / 1461 * 4 +
        m % 146097 % 36524 % 1461 / 365 + 1)) (n := m % 146097 % 36524 % 1461 % 365)
        (by split <;> omega)
    refine ⟨⟨Nat.le_add_left 1 _,⟨hlow,hhigh⟩,⟨hday,hdays⟩⟩,?_⟩
    unfold toOrdinal
    simp only
    rw [hcycles]
    omega

end Date

end Gregorian
