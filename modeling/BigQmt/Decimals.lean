import Mathlib.Algebra.Order.Field.Rat
import Mathlib.Algebra.Order.Field.Basic
import Mathlib.Tactic.Linarith
import Mathlib.Tactic.Ring
import Mathlib.Tactic.Positivity
set_option autoImplicit false

/-!
Finite decimal numbers with a sign, a coefficient and an exponent of ten: the numeral of one,
which tells it apart from all others, and sums that are rounded to a precision.
-/

namespace Decimals

structure Dec where
  negative : Bool
  coefficient : Nat
  exponent : Int
  deriving DecidableEq, Repr

/-- The coefficient with its sign. -/
def Dec.signed (d : Dec) : Int := if d.negative then -(d.coefficient : Int) else d.coefficient

def Dec.value (d : Dec) : ℚ := d.signed * (10 : ℚ) ^ d.exponent

section Numeral

def exponentText (e : Int) : List Char :=
  if e = 0 then [] else 'E' :: (if e < 0 then '-' else '+') :: Nat.toDigits 10 e.natAbs

/-- Digits with a point after some of them. -/
def pointText (whole fraction : List Char) : List Char :=
  if fraction = [] then whole else whole ++ '.' :: fraction

/-- Digits with the point at a place. -/
def placeText (digits : List Char) (dotPlace : Int) : List Char :=
  if dotPlace ≤ 0 then pointText ['0'] (List.replicate (-dotPlace).toNat '0' ++ digits)
  else if (digits.length : Int) ≤ dotPlace then
    pointText (digits ++ List.replicate (dotPlace - digits.length).toNat '0') []
  else pointText (digits.take dotPlace.toNat) (digits.drop dotPlace.toNat)

/-- Where the point stands: the plain way where few zeros are needed, or behind one digit. -/
def dotPlace (exponent leftDigits : Int) : Int :=
  if exponent ≤ 0 ∧ -6 < leftDigits then leftDigits else 1

/-- The scientific string of a decimal. -/
def Dec.text (d : Dec) : List Char :=
  let digits := Nat.toDigits 10 d.coefficient
  let leftDigits := d.exponent + digits.length
  let place := dotPlace d.exponent leftDigits
  (if d.negative then ['-'] else []) ++ (placeText digits place ++ exponentText (leftDigits - place))

def readDigits (cs : List Char) : Option Nat :=
  if cs ≠ [] && cs.all Char.isDigit then some (Nat.ofDigitChars 10 cs 0) else none

def readExponent : List Char → Option Int
  | [] => some 0
  | 'E' :: '+' :: cs => (readDigits cs).map fun (n : Nat) => (n : Int)
  | 'E' :: '-' :: cs => (readDigits cs).map fun (n : Nat) => -(n : Int)
  | _ => none

/-- The digits after a point, and what follows them. -/
def readFraction : List Char → List Char × List Char
  | '.' :: cs => (cs.takeWhile Char.isDigit,cs.dropWhile Char.isDigit)
  | cs => ([],cs)

def readUnsigned (negative : Bool) (cs : List Char) : Option Dec :=
  let whole := cs.takeWhile Char.isDigit
  let (fraction,rest) := readFraction (cs.dropWhile Char.isDigit)
  if whole ++ fraction = [] then none
  else (readExponent rest).map fun e =>
    ⟨negative,Nat.ofDigitChars 10 (whole ++ fraction) 0,e - fraction.length⟩

/-- What a numeral stands for. -/
def read : List Char → Option Dec
  | '-' :: cs => readUnsigned true cs
  | cs => readUnsigned false cs

theorem isDigit_toDigits {n : Nat} {c : Char} (h : c ∈ Nat.toDigits 10 n) : c.isDigit = true :=
  Nat.isDigit_of_mem_toDigits (by decide) (by decide) h

theorem readDigits_toDigits (n : Nat) : readDigits (Nat.toDigits 10 n) = some n := by
  have hne : Nat.toDigits 10 n ≠ [] := Nat.toDigits_ne_nil
  have hall : (Nat.toDigits 10 n).all Char.isDigit = true :=
    List.all_eq_true.2 fun c hc => isDigit_toDigits hc
  simp [readDigits,hne,hall]

theorem readExponent_text (e : Int) : readExponent (exponentText e) = some e := by
  unfold exponentText
  split_ifs with hzero hneg
  · rw [hzero]
    rfl
  · have habs : -(e.natAbs : Int) = e := by omega
    rw [readExponent,readDigits_toDigits,Option.map_some,habs]
  · have habs : (e.natAbs : Int) = e := by omega
    rw [readExponent,readDigits_toDigits,Option.map_some,habs]

/-- An exponent does not begin with a digit or a point. -/
theorem exponentText_head (e : Int) :
    (exponentText e).takeWhile Char.isDigit = [] ∧ readFraction (exponentText e) =
      ([],exponentText e) := by
  unfold exponentText
  split_ifs
  · exact ⟨rfl,rfl⟩
  · exact ⟨rfl,rfl⟩
  · exact ⟨rfl,rfl⟩

theorem span_digits {digits : List Char} (rest : List Char) (h : ∀ c ∈ digits,c.isDigit = true)
    (hrest : rest.takeWhile Char.isDigit = []) :
    (digits ++ rest).takeWhile Char.isDigit = digits ∧
      (digits ++ rest).dropWhile Char.isDigit = rest := by
  have hdrop : rest.dropWhile Char.isDigit = rest := by
    have hsplit := List.takeWhile_append_dropWhile (p := Char.isDigit) (l := rest)
    rwa [hrest,List.nil_append] at hsplit
  rw [List.takeWhile_append_of_pos h,List.dropWhile_append_of_pos h,hrest,hdrop,List.append_nil]
  exact ⟨rfl,rfl⟩

theorem readUnsigned_text {whole fraction : List Char} (negative : Bool) (e : Int)
    (hwhole : ∀ c ∈ whole,c.isDigit = true) (hfraction : ∀ c ∈ fraction,c.isDigit = true)
    (hne : whole ≠ []) : readUnsigned negative (pointText whole fraction ++ exponentText e) =
      some ⟨negative,Nat.ofDigitChars 10 (whole ++ fraction) 0,e - fraction.length⟩ := by
  obtain ⟨hhead,hpoint⟩ := exponentText_head e
  unfold readUnsigned pointText
  split_ifs with hnil
  · obtain ⟨htake,hdrop⟩ := span_digits _ hwhole hhead
    simp [htake,hdrop,hpoint,hnil,hne,readExponent_text]
  · rw [List.append_assoc,List.cons_append]
    obtain ⟨htake,hdrop⟩ := span_digits ('.' :: (fraction ++ exponentText e)) hwhole rfl
    obtain ⟨htake',hdrop'⟩ := span_digits _ hfraction hhead
    simp [htake,hdrop,readFraction,htake',hdrop',hne,readExponent_text]

theorem ofDigitChars_zeros (n : Nat) (digits : List Char) :
    Nat.ofDigitChars 10 (List.replicate n '0' ++ digits) 0 = Nat.ofDigitChars 10 digits 0 := by
  rw [Nat.ofDigitChars_append]
  simp

/-- A sign is told from the digit that a number begins with. -/
theorem read_signed {negative : Bool} {body : List Char} {c : Char} (h : body.head? = some c)
    (hc : c.isDigit = true) :
    read ((if negative then ['-'] else []) ++ body) = readUnsigned negative body := by
  cases negative with
  | true => rfl
  | false =>
    cases body with
    | nil => simp at h
    | cons b body =>
      obtain rfl : b = c := by simpa using h
      have hne : b ≠ '-' := fun heq => by
        subst heq
        exact absurd hc (by decide)
      simp [read,hne]

/-- The parts of a number around its point. -/
theorem placeText_spec {digits : List Char} {place : Int}
    (hdigits : ∀ c ∈ digits,c.isDigit = true) (hne : digits ≠ [])
    (hplace : (digits.length : Int) ≤ place → place = digits.length) :
    ∃ whole fraction,placeText digits place = pointText whole fraction ∧
      (∀ c ∈ whole ++ fraction,c.isDigit = true) ∧ whole ≠ [] ∧
      Nat.ofDigitChars 10 (whole ++ fraction) 0 = Nat.ofDigitChars 10 digits 0 ∧
      (fraction.length : Int) = digits.length - place := by
  have hlen := List.length_pos_iff.2 hne
  unfold placeText
  split_ifs with hfront hbehind
  · refine ⟨_,_,rfl,?_,by simp,ofDigitChars_zeros ((-place).toNat + 1) digits,?_⟩
    · intro c hc
      simp only [List.cons_append,List.nil_append,List.mem_cons,List.mem_append,
        List.mem_replicate] at hc
      obtain rfl | ⟨-,rfl⟩ | hc := hc
      · decide
      · decide
      · exact hdigits c hc
    · simp only [List.length_append,List.length_replicate]
      omega
  · have heq := hplace hbehind
    have hnone : (place - digits.length).toNat = 0 := by omega
    rw [hnone,List.replicate_zero,List.append_nil]
    exact ⟨digits,[],rfl,by simpa using hdigits,hne,by simp,by simp [heq]⟩
  · refine ⟨_,_,rfl,?_,?_,?_,?_⟩
    · rw [List.take_append_drop]
      exact hdigits
    · intro hnil
      have hzero : (digits.take place.toNat).length = 0 := by rw [hnil]; rfl
      rw [List.length_take] at hzero
      omega
    · rw [List.take_append_drop]
    · rw [List.length_drop]
      omega

/-- The numeral of a decimal reads back as that decimal. -/
theorem read_text (d : Dec) : read d.text = some d := by
  have hplace : ((Nat.toDigits 10 d.coefficient).length : Int) ≤
      dotPlace d.exponent (d.exponent + (Nat.toDigits 10 d.coefficient).length) →
      dotPlace d.exponent (d.exponent + (Nat.toDigits 10 d.coefficient).length) =
        (Nat.toDigits 10 d.coefficient).length := by
    have hlen : 0 < (Nat.toDigits 10 d.coefficient).length :=
      List.length_pos_iff.2 Nat.toDigits_ne_nil
    unfold dotPlace
    split_ifs <;> omega
  obtain ⟨whole,fraction,hnumber,hdigits,hne,hvalue,hlen⟩ :=
    placeText_spec (fun c => isDigit_toDigits) Nat.toDigits_ne_nil hplace
  obtain ⟨c,rest,rfl⟩ := List.exists_cons_of_ne_nil hne
  have hexponent : ∀ x : Int,x - dotPlace d.exponent
      (d.exponent + (Nat.toDigits 10 d.coefficient).length) - fraction.length =
        x - (Nat.toDigits 10 d.coefficient).length := by
    intro x
    omega
  unfold Dec.text
  simp only
  rw [hnumber,read_signed (c := c),readUnsigned_text d.negative _
    (fun b hb => hdigits b (List.mem_append_left _ hb))
    (fun b hb => hdigits b (List.mem_append_right _ hb)) hne,hvalue,hexponent,
    Nat.ofDigitChars_ten_toDigits,Int.add_sub_cancel]
  · unfold pointText
    split_ifs <;> rfl
  · exact hdigits c (by simp)

theorem text_injective {c d : Dec} (h : c.text = d.text) : c = d := by
  have hread := read_text c
  rw [h,read_text] at hread
  exact (Option.some.inj hread).symm

end Numeral

section Sum

/-- Digits that are kept, and the exponents of the leading digit of a result. -/
structure Context where
  precision : Nat
  emin : Int
  emax : Int

/-- The exponent of the last digit of the smallest result. -/
def Context.etiny (c : Context) : Int := c.emin - c.precision + 1

/-- The exponent of the last digit of the largest result. -/
def Context.etop (c : Context) : Int := c.emax - c.precision + 1

/-- The number without its last `k` digits, rounded to the nearest one; a tie to the even one. -/
def halfEven (n k : Nat) : Nat :=
  if 10 ^ k < 2 * (n % 10 ^ k) ∨ 2 * (n % 10 ^ k) = 10 ^ k ∧ n / 10 ^ k % 2 = 1 then
    n / 10 ^ k + 1
  else n / 10 ^ k

def numDigits (n : Nat) : Nat := (Nat.toDigits 10 n).length

/-- A decimal in the precision of a context, if there is no overflow. -/
def Context.fix (c : Context) (d : Dec) : Option Dec :=
  if d.coefficient = 0 then
    some { d with exponent := min (max d.exponent c.etiny) c.emax }
  else if c.etop < numDigits d.coefficient + d.exponent - c.precision then none
  else
    let expMin := max (numDigits d.coefficient + d.exponent - c.precision) c.etiny
    if d.exponent < expMin then
      let rounded := halfEven d.coefficient (expMin - d.exponent).toNat
      if c.precision < numDigits rounded then
        if c.etop < expMin + 1 then none else some ⟨d.negative,rounded / 10,expMin + 1⟩
      else some ⟨d.negative,rounded,expMin⟩
    else some d

/-- The decimal of a coefficient with a sign; a zero has the given one. -/
def Dec.ofSigned (negativeZero : Bool) (n exponent : Int) : Dec :=
  ⟨if n = 0 then negativeZero else n < 0,n.natAbs,exponent⟩

/-- The exact sum, at the smaller exponent. -/
def Dec.plus (x y : Dec) : Dec :=
  let exponent := min x.exponent y.exponent
  .ofSigned (x.negative && y.negative) (x.signed * 10 ^ (x.exponent - exponent).toNat +
    y.signed * 10 ^ (y.exponent - exponent).toNat) exponent

def Context.add (c : Context) (x y : Dec) : Option Dec := c.fix (x.plus y)

/-- `sum(ds, Decimal("0"))`. -/
def Context.sum (c : Context) (ds : List Dec) : Option Dec :=
  ds.foldlM c.add ⟨false,0,0⟩

theorem ten_zpow_pos (e : Int) : (0 : ℚ) < (10 : ℚ) ^ e := zpow_pos (by norm_num) e

theorem shift_value (n : Int) {e exponent : Int} (h : exponent ≤ e) :
    ((n * 10 ^ (e - exponent).toNat : Int) : ℚ) * (10 : ℚ) ^ exponent = n * (10 : ℚ) ^ e := by
  have hpow : (10 : ℚ) ^ (e - exponent).toNat * (10 : ℚ) ^ exponent = (10 : ℚ) ^ e := by
    rw [← zpow_natCast,← zpow_add₀ (by norm_num)]
    congr 1
    omega
  push_cast
  rw [mul_assoc,hpow]

theorem signed_ofSigned (negativeZero : Bool) (n exponent : Int) :
    (Dec.ofSigned negativeZero n exponent).signed = n := by
  unfold Dec.ofSigned Dec.signed
  by_cases hn : n = 0
  · simp [hn]
  · simp only [hn,if_false]
    by_cases hneg : n < 0
    · simp only [hneg,decide_true,if_true]
      omega
    · simp only [hneg,decide_false,Bool.false_eq_true,if_false]
      omega

theorem plus_value (x y : Dec) : (x.plus y).value = x.value + y.value := by
  have hx := shift_value x.signed (min_le_left x.exponent y.exponent)
  have hy := shift_value y.signed (min_le_right x.exponent y.exponent)
  unfold Dec.plus Dec.value
  simp only [signed_ofSigned,Int.cast_add,add_mul]
  exact congrArg₂ (· + ·) hx hy

theorem numDigits_le_iff {n k : Nat} (h : 0 < k) : numDigits n ≤ k ↔ n < 10 ^ k :=
  Nat.length_toDigits_le_iff (by decide) h

theorem pow_numDigits_le {n : Nat} (h : n ≠ 0) : 10 ^ (numDigits n - 1) ≤ n := by
  by_contra hlt
  by_cases hone : numDigits n - 1 = 0
  · rw [hone] at hlt
    omega
  · have hle := (numDigits_le_iff (Nat.pos_of_ne_zero hone)).2 (Nat.lt_of_not_le hlt)
    omega

/-- Digits that are all zero are dropped without rounding. -/
theorem halfEven_of_dvd {n k : Nat} (h : 10 ^ k ∣ n) : halfEven n k = n / 10 ^ k := by
  have hpos : 0 < 10 ^ k := Nat.pow_pos (by decide)
  have hmod : n % 10 ^ k = 0 := Nat.mod_eq_zero_of_dvd h
  unfold halfEven
  rw [hmod,if_neg]
  omega

theorem abs_value (d : Dec) : |d.value| = d.coefficient * (10 : ℚ) ^ d.exponent := by
  unfold Dec.value Dec.signed
  rw [abs_mul,abs_of_pos (ten_zpow_pos d.exponent)]
  congr 1
  split_ifs <;> simp

/-- A decimal that has a multiple of `10 ^ e` for its value and fits the precision there. -/
def Fits (c : Context) (e : Int) (x : ℚ) : Prop :=
  ∃ n : Int,x = n * (10 : ℚ) ^ e ∧ n.natAbs < 10 ^ c.precision

section Exact

variable {c : Context} {d : Dec} {e : Int} {n : Nat}

theorem digits_bound (hvalue : (d.coefficient : ℚ) * (10 : ℚ) ^ d.exponent = n * (10 : ℚ) ^ e)
    (hn : n < 10 ^ c.precision) (hne : d.coefficient ≠ 0) :
    numDigits d.coefficient + d.exponent ≤ c.precision + e := by
  have hlow : ((10 ^ (numDigits d.coefficient - 1) : Nat) : ℚ) ≤ d.coefficient := by
    exact_mod_cast pow_numDigits_le hne
  have hhigh : (n : ℚ) < ((10 ^ c.precision : Nat) : ℚ) := by exact_mod_cast hn
  have hdigits : 0 < numDigits d.coefficient := List.length_pos_iff.2 Nat.toDigits_ne_nil
  have hlt : (10 : ℚ) ^ ((numDigits d.coefficient - 1 : Nat) + d.exponent : Int) <
      (10 : ℚ) ^ ((c.precision : Int) + e) := by
    rw [zpow_add₀ (by norm_num),zpow_add₀ (by norm_num),zpow_natCast,zpow_natCast]
    push_cast at hlow hhigh
    calc (10 : ℚ) ^ (numDigits d.coefficient - 1) * 10 ^ d.exponent
        ≤ d.coefficient * 10 ^ d.exponent := mul_le_mul_of_nonneg_right hlow (ten_zpow_pos _).le
      _ = n * 10 ^ e := hvalue
      _ < 10 ^ c.precision * 10 ^ e := mul_lt_mul_of_pos_right hhigh (ten_zpow_pos e)
  have hexp := (zpow_lt_zpow_iff_right₀ (by norm_num : (1 : ℚ) < 10)).1 hlt
  omega

theorem coefficient_eq (hvalue : (d.coefficient : ℚ) * (10 : ℚ) ^ d.exponent = n * (10 : ℚ) ^ e)
    (he : d.exponent ≤ e) : d.coefficient = n * 10 ^ (e - d.exponent).toNat := by
  have hshift := shift_value (n : Int) he
  have heq : (d.coefficient : ℚ) = ((n * 10 ^ (e - d.exponent).toNat : Nat) : ℚ) := by
    apply mul_right_cancel₀ (ten_zpow_pos d.exponent).ne'
    rw [hvalue]
    push_cast at hshift ⊢
    exact hshift.symm
  exact_mod_cast heq

/-- Dropping zeros changes the exponent only. -/
theorem drop_value {k : Int} (hk : d.exponent ≤ k)
    (h : 10 ^ (k - d.exponent).toNat ∣ d.coefficient) :
    (⟨d.negative,d.coefficient / 10 ^ (k - d.exponent).toNat,k⟩ : Dec).value = d.value := by
  have hsigned : d.signed = (⟨d.negative,d.coefficient / 10 ^ (k - d.exponent).toNat,k⟩ : Dec).signed *
      10 ^ (k - d.exponent).toNat := by
    have hmul := Nat.div_mul_cancel h
    unfold Dec.signed
    simp only
    split_ifs
    · rw [Int.neg_mul]
      exact_mod_cast congrArg (fun n : Nat => -(n : Int)) hmul.symm
    · exact_mod_cast hmul.symm
  have hshift := shift_value
    (⟨d.negative,d.coefficient / 10 ^ (k - d.exponent).toNat,k⟩ : Dec).signed hk
  rw [← hsigned] at hshift
  exact hshift.symm

/-- What fits the precision is not rounded. -/
theorem fix_exact (hlow : c.etiny ≤ e) (hhigh : e ≤ c.etop) (hprecision : 0 < c.precision)
    (h : Fits c e d.value) : ∃ d',c.fix d = some d' ∧ d'.value = d.value := by
  obtain ⟨n,hn,hfits⟩ := h
  have hvalue : (d.coefficient : ℚ) * (10 : ℚ) ^ d.exponent = n.natAbs * (10 : ℚ) ^ e := by
    rw [← abs_value,hn,abs_mul,abs_of_pos (ten_zpow_pos e),Nat.cast_natAbs,Int.cast_abs]
  unfold Context.fix
  by_cases hzero : d.coefficient = 0
  · rw [if_pos hzero]
    refine ⟨_,rfl,?_⟩
    simp [Dec.value,Dec.signed,hzero]
  · have hbound := digits_bound hvalue hfits hzero
    have hnone : ¬c.etop < numDigits d.coefficient + d.exponent - c.precision := by omega
    rw [if_neg hzero,if_neg hnone]
    simp only
    by_cases hround : d.exponent < max (numDigits d.coefficient + d.exponent - c.precision) c.etiny
    · have hle : max (numDigits d.coefficient + d.exponent - c.precision) c.etiny ≤ e := by omega
      generalize hmin : max (numDigits d.coefficient + d.exponent - c.precision) c.etiny = k at *
      have hcoefficient := coefficient_eq hvalue (by omega)
      have hdvd : 10 ^ (k - d.exponent).toNat ∣ d.coefficient := by
        have hpow := Nat.pow_dvd_pow 10 (show (k - d.exponent).toNat ≤ (e - d.exponent).toNat by omega)
        rw [hcoefficient]
        exact hpow.mul_left _
      have hshort : numDigits (d.coefficient / 10 ^ (k - d.exponent).toNat) ≤ c.precision := by
        rw [numDigits_le_iff hprecision,Nat.div_lt_iff_lt_mul (Nat.pow_pos (by decide)),
          ← Nat.pow_add]
        exact (numDigits_le_iff (by omega)).1 (by omega)
      rw [if_pos hround,halfEven_of_dvd hdvd,if_neg (by omega)]
      exact ⟨_,rfl,drop_value hround.le hdvd⟩
    · rw [if_neg hround]
      exact ⟨d,rfl,rfl⟩

theorem foldlM_exact {ds : List Dec} (hlow : c.etiny ≤ e) (hhigh : e ≤ c.etop)
    (hprecision : 0 < c.precision) (hds : ∀ d ∈ ds,∃ n : Nat,d.value = n * (10 : ℚ) ^ e)
    (held : Dec) {n : Nat} (hheld : held.value = n * (10 : ℚ) ^ e)
    (hsum : held.value + (ds.map Dec.value).sum < (10 : ℚ) ^ (c.precision + e)) :
    ∃ d,ds.foldlM c.add held = some d ∧ d.value = held.value + (ds.map Dec.value).sum := by
  induction ds generalizing held n with
  | nil => exact ⟨held,rfl,by simp⟩
  | cons x ds ih =>
    obtain ⟨m,hm⟩ := hds x (by simp)
    have hrest : 0 ≤ (ds.map Dec.value).sum := by
      apply List.sum_nonneg
      intro y hy
      obtain ⟨d,hd,rfl⟩ := List.mem_map.1 hy
      obtain ⟨k,hk⟩ := hds d (by simp [hd])
      rw [hk]
      exact mul_nonneg (Nat.cast_nonneg k) (ten_zpow_pos e).le
    rw [List.map_cons,List.sum_cons,← add_assoc] at hsum
    have hvalue : (held.plus x).value = ((n + m : Nat) : ℚ) * (10 : ℚ) ^ e := by
      rw [plus_value,hheld,hm]
      push_cast
      ring
    have hfits : Fits c e (held.plus x).value := by
      refine ⟨(n + m : Nat),hvalue,?_⟩
      have hlt : ((n + m : Nat) : ℚ) * (10 : ℚ) ^ e < (10 : ℚ) ^ c.precision * (10 : ℚ) ^ e := by
        rw [← hvalue,plus_value,← zpow_natCast,← zpow_add₀ (by norm_num)]
        linarith
      have hcast := lt_of_mul_lt_mul_right hlt (ten_zpow_pos e).le
      exact_mod_cast hcast
    obtain ⟨d',hfix,hd'⟩ := fix_exact hlow hhigh hprecision hfits
    have hstep : d'.value = held.value + x.value := by rw [hd',plus_value]
    obtain ⟨d,hfold,hd⟩ := ih (fun y hy => hds y (by simp [hy])) d' (hd'.trans hvalue)
      (by rw [hstep]; exact hsum)
    refine ⟨d,?_,?_⟩
    · rw [List.foldlM_cons]
      unfold Context.add at hfold ⊢
      rw [hfix]
      exact hfold
    · rw [hd,hstep,List.map_cons,List.sum_cons,add_assoc]

/-- Amounts whose sum fits the precision are summed exactly, in any order. -/
theorem sum_exact {ds : List Dec} (hlow : c.etiny ≤ e) (hhigh : e ≤ c.etop)
    (hprecision : 0 < c.precision) (hds : ∀ d ∈ ds,∃ n : Nat,d.value = n * (10 : ℚ) ^ e)
    (hsum : (ds.map Dec.value).sum < (10 : ℚ) ^ (c.precision + e)) :
    ∃ d,c.sum ds = some d ∧ d.value = (ds.map Dec.value).sum := by
  have hzero : (⟨false,0,0⟩ : Dec).value = 0 := by simp [Dec.value,Dec.signed]
  have hfold := foldlM_exact hlow hhigh hprecision hds ⟨false,0,0⟩ (n := 0)
    (by rw [hzero]; simp) (by rw [hzero,zero_add]; exact hsum)
  rw [hzero,zero_add] at hfold
  exact hfold

end Exact

end Sum

end Decimals
