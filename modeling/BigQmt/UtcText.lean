import BigQmt.Gregorian
import BigQmt.Padded
import BigQmt.RiskModels
import Mathlib.Data.String.Basic
set_option autoImplicit false

/-!
Texts of aware times in UTC, as the alert store and the daily risk ledger keep them.
The stores compare the texts; the order of the texts is that of the instants.
-/

namespace BigQmt

open Gregorian

def dateLayout : List (List Char × Nat) := [([],4),(['-'],2),(['-'],2)]

/-- `date.isoformat()`. -/
def isoDate (d : Date) : String :=
  String.ofList (Padded.stamp dateLayout [d.year,d.month,d.day])

/-- `'%04d-%02d-%02dT%02d:%02d:%02d'`. -/
def secondLayout : List (List Char × Nat) :=
  [([],4),(['-'],2),(['-'],2),(['T'],2),([':'],2),([':'],2)]

/-- The fields of an instant in UTC, in microseconds since the start of year 1. -/
def utcFields (t : Nat) : List Nat :=
  let date := Date.ofOrdinal (t / 86400000000 + 1)
  let second := t / 1000000 % 86400
  [date.year,date.month,date.day,second / 3600,second / 60 % 60,second % 60]

/-- `isoformat` omits the microseconds where they are zero. -/
def utcFraction (t : Nat) : List Char :=
  if t % 1000000 = 0 then [] else '.' :: Padded.decimal 6 (t % 1000000)

def utcText (t : Nat) : List Char :=
  Padded.stamp secondLayout (utcFields t) ++ (utcFraction t ++ ['+','0','0',':','0','0'])

/-- `value.astimezone(timezone.utc).isoformat()`; outside the years 1 to 9999 the conversion
raises `OverflowError`. -/
def utcIso (value : Risk.AwareTime) : Except Risk.RiskError String :=
  if value.hasUtc then .ok (String.ofList (utcText value.instant.toNat))
  else .error (.overflowError "date value out of range")

/-- The microseconds of a text after its seconds, and what follows them. -/
def readFraction : List Char → Nat × List Char
  | '.' :: cs => (Nat.ofDigitChars 10 (cs.take 6) 0,cs.drop 6)
  | cs => (0,cs)

/-- `_parse_utc` of a text that `_utc_iso` wrote. -/
def readUtc (text : String) : Option Nat :=
  match Padded.unstamp secondLayout text.toList with
  | some ([year,month,day,hour,minute,second],rest) =>
    if (readFraction rest).2 = ['+','0','0',':','0','0'] then
      some (((Date.toOrdinal ⟨year,month,day⟩ - 1) * 86400 + hour * 3600 + minute * 60 + second) *
        1000000 + (readFraction rest).1)
    else none
  | _ => none

theorem isoDate_injective {d e : Date} (hd : d.Valid) (hdYear : d.year < 10000) (he : e.Valid)
    (heYear : e.year < 10000) (h : isoDate d = isoDate e) : d = e := by
  have hfits : ∀ {d : Date},d.Valid → d.year < 10000 →
      Padded.Fits dateLayout [d.year,d.month,d.day] := by
    intro d hd hyear
    have hmonth := hd.month.2
    have hday := hd.day.2
    have hdays := daysInMonth_le (isLeap d.year) d.month
    unfold Padded.Fits dateLayout
    simp only [List.forall₂_cons,List.Forall₂.nil,and_true]
    omega
  have hnumbers := Padded.stamp_injective (hfits hd hdYear) (hfits he heYear)
    (String.ofList_injective h)
  cases d
  cases e
  simpa using hnumbers

theorem year_lt {t : Nat} (h : t < 315537897600000000) :
    (Date.ofOrdinal (t / 86400000000 + 1)).year < 10000 := by
  obtain ⟨hvalid,hord⟩ := Date.ofOrdinal_spec (Nat.le_add_left 1 (t / 86400000000))
  by_contra hyear
  have hmono := daysBeforeYear_mono (a := 9999) (by decide)
    (show 9999 < (Date.ofOrdinal (t / 86400000000 + 1)).year by omega)
  have hstart : daysBeforeYear (9999 + 1) = 3652059 := by decide
  have hday := hvalid.day.1
  unfold Date.toOrdinal at hord
  omega

theorem utcFields_fits {t : Nat} (h : t < 315537897600000000) :
    Padded.Fits secondLayout (utcFields t) := by
  have hyear := year_lt h
  have hvalid := (Date.ofOrdinal_spec (Nat.le_add_left 1 (t / 86400000000))).1
  have hmonth := hvalid.month.2
  have hday := hvalid.day.2
  have hdays := daysInMonth_le (isLeap (Date.ofOrdinal (t / 86400000000 + 1)).year)
    (Date.ofOrdinal (t / 86400000000 + 1)).month
  unfold Padded.Fits secondLayout utcFields
  simp only [List.forall₂_cons,List.Forall₂.nil,and_true]
  omega

theorem readFraction_text (t : Nat) : readFraction (utcFraction t ++ ['+','0','0',':','0','0']) =
    (t % 1000000,['+','0','0',':','0','0']) := by
  unfold utcFraction
  split_ifs with hzero
  · rw [hzero]
    rfl
  · have hlen : (Padded.decimal 6 (t % 1000000)).length = 6 :=
      Padded.decimal_length (by decide) (by omega)
    simp only [List.cons_append,readFraction]
    rw [List.take_left' hlen,List.drop_left' hlen,Padded.ofDigitChars_decimal]

/-- The text of a time reads back as that time. -/
theorem readUtc_text {t : Nat} (h : t < 315537897600000000) :
    readUtc (String.ofList (utcText t)) = some t := by
  obtain ⟨-,hord⟩ := Date.ofOrdinal_spec (Nat.le_add_left 1 (t / 86400000000))
  have hread := Padded.unstamp_stamp (utcFields_fits h)
    (utcFraction t ++ ['+','0','0',':','0','0'])
  unfold readUtc utcText
  rw [String.toList_ofList,hread]
  simp only [utcFields,readFraction_text,if_true]
  rw [hord]
  congr 1
  omega

/-- Times of different seconds differ in a field, the later one upwards. -/
theorem utcFields_lt {s t : Nat} (h : s / 1000000 < t / 1000000) : utcFields s < utcFields t := by
  obtain ⟨hs,hsOrd⟩ := Date.ofOrdinal_spec (Nat.le_add_left 1 (s / 86400000000))
  obtain ⟨ht,htOrd⟩ := Date.ofOrdinal_spec (Nat.le_add_left 1 (t / 86400000000))
  unfold utcFields
  by_cases hday : s / 86400000000 = t / 86400000000
  · rw [hday]
    simp only [List.cons_lt_cons_iff,Nat.lt_irrefl,false_or,true_and]
    omega
  · have hdate := Date.lt_of_toOrdinal_lt hs ht (by omega)
    simp only [List.cons_lt_cons_iff,List.lt_irrefl,and_false,or_false] at hdate ⊢
    omega

theorem utcText_lt {s t : Nat} (h : s < t) (ht : t < 315537897600000000) :
    utcText s < utcText t := by
  have hsFits := utcFields_fits (show s < 315537897600000000 by omega)
  have htFits := utcFields_fits ht
  unfold utcText
  by_cases hsecond : s / 1000000 = t / 1000000
  · have hfields : utcFields s = utcFields t := by
      have hday : s / 86400000000 = t / 86400000000 := by omega
      unfold utcFields
      rw [hday,hsecond]
    have hmicro : s % 1000000 < t % 1000000 := by omega
    rw [hfields]
    apply List.append_left_lt
    unfold utcFraction
    have hpos : ¬ t % 1000000 = 0 := by omega
    rw [if_neg hpos]
    split_ifs with hzero
    · -- Without microseconds the sign of the offset stands against the dot.
      exact List.cons_lt_cons_iff.2 (.inl (by decide))
    · have hdigits : Padded.decimal 6 (s % 1000000) < Padded.decimal 6 (t % 1000000) :=
        Padded.decimal_lt (by decide) hmicro (by omega)
      have hlen : (Padded.decimal 6 (s % 1000000)).length = 6 :=
        Padded.decimal_length (by decide) (by omega)
      have hlen' : (Padded.decimal 6 (t % 1000000)).length = 6 :=
        Padded.decimal_length (by decide) (by omega)
      exact List.cons_lt_cons_iff.2
        (.inr ⟨rfl,Padded.append_lt (hlen.trans hlen'.symm) hdigits _ _⟩)
  · exact Padded.stamp_lt hsFits htFits (utcFields_lt (by omega)) _ _

/-- The texts of two times that have one are ordered as the times are. -/
theorem utcText_lt_iff {s t : Nat} (hs : s < 315537897600000000) (ht : t < 315537897600000000) :
    utcText s < utcText t ↔ s < t := by
  constructor
  · intro h
    by_contra hle
    obtain rfl | hlt := (show t = s ∨ t < s by omega)
    · exact absurd h (List.lt_irrefl _)
    · exact absurd (List.lt_trans h (utcText_lt hlt hs)) (List.lt_irrefl _)
  · intro h
    exact utcText_lt h ht

theorem utcText_injective {s t : Nat} (hs : s < 315537897600000000)
    (ht : t < 315537897600000000) (h : utcText s = utcText t) : s = t := by
  have hst := (utcText_lt_iff hs ht).not
  have hts := (utcText_lt_iff ht hs).not
  rw [h] at hst hts
  have hle := hst.1 (List.lt_irrefl _)
  have hge := hts.1 (List.lt_irrefl _)
  omega

theorem utcIso_eq_ok {a : Risk.AwareTime} {x : String} : utcIso a = .ok x ↔
    a.hasUtc = true ∧ x = String.ofList (utcText a.instant.toNat) := by
  unfold utcIso
  split_ifs with h <;> simp [h,eq_comm]

/-- The texts are ordered as the instants, and one instant has one text. -/
theorem utcIso_order {a b : Risk.AwareTime} {x y : String} (ha : utcIso a = .ok x)
    (hb : utcIso b = .ok y) :
    (x < y ↔ a.instant < b.instant) ∧ (x = y ↔ a.instant = b.instant) := by
  obtain ⟨haUtc,rfl⟩ := utcIso_eq_ok.1 ha
  obtain ⟨hbUtc,rfl⟩ := utcIso_eq_ok.1 hb
  simp only [Risk.AwareTime.hasUtc,Bool.and_eq_true,decide_eq_true_eq] at haUtc hbUtc
  have haLt : a.instant.toNat < 315537897600000000 := by omega
  have hbLt : b.instant.toNat < 315537897600000000 := by omega
  constructor
  · rw [String.lt_iff_toList_lt,String.toList_ofList,String.toList_ofList,
      utcText_lt_iff haLt hbLt]
    omega
  · constructor
    · intro h
      have hnat := utcText_injective haLt hbLt (String.ofList_injective h)
      omega
    · intro h
      rw [h]

/-- A time has a text exactly if its instant lies in the years 1 to 9999 of UTC, and two texts
are ordered as the instants are: the one that omits the microseconds included. -/
theorem utcIso_chronological (a b : Risk.AwareTime) :
    ((∃ x,utcIso a = .ok x) ↔ 0 ≤ a.instant ∧ a.instant < 315537897600000000) ∧
      ∀ x y,utcIso a = .ok x → utcIso b = .ok y →
        (x < y ↔ a.instant < b.instant) ∧ (x = y ↔ a.instant = b.instant) := by
  constructor
  · unfold utcIso Risk.AwareTime.hasUtc
    simp only [Bool.and_eq_true,decide_eq_true_eq]
    split_ifs with h <;> simp [h]
  · intro x y ha hb
    exact utcIso_order ha hb

theorem utcIso_chronological_fraction :
    "2024-02-29T00:00:00+00:00" < "2024-02-29T00:00:00.000001+00:00" := by
  have horder := (utcIso_chronological
    ⟨63844790400000000,28800000000,by decide,by decide⟩ ⟨63844761600000001,0,by decide,by decide⟩).2
      "2024-02-29T00:00:00+00:00" "2024-02-29T00:00:00.000001+00:00"
      (by decide +kernel) (by decide +kernel)
  exact horder.1.2 (by decide)

end BigQmt
