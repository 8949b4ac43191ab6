import Mathlib.Data.List.Basic
import Mathlib.Tactic.IntervalCases
set_option autoImplicit false

/-!
Decimal numerals padded with zeros to a width, and their order as texts.
-/

namespace Padded

/-- `'%0*d' % (width, n)`. -/
def decimal (width n : Nat) : List Char :=
  List.replicate (width - (Nat.toDigits 10 n).length) '0' ++ Nat.toDigits 10 n

/-- The last `width` decimal digits of a number. -/
def digits : Nat → Nat → List Char
  | 0,_ => []
  | width + 1,n => digits width (n / 10) ++ [Nat.digitChar (n % 10)]

@[simp] theorem digits_length (width n : Nat) : (digits width n).length = width := by
  induction width generalizing n with
  | zero => rfl
  | succ width ih => simp [digits,ih]

theorem digits_zero (width : Nat) : digits width 0 = List.replicate width '0' := by
  induction width with
  | zero => rfl
  | succ width ih =>
    rw [digits,Nat.zero_div,ih,List.replicate_succ']
    rfl

/-- A numeral that fits its width has exactly its digits. -/
theorem decimal_eq_digits {width n : Nat} (hw : 0 < width) (h : n < 10 ^ width) :
    decimal width n = digits width n := by
  induction width generalizing n with
  | zero => omega
  | succ width ih =>
    by_cases hn : n < 10
    · have hone : Nat.toDigits 10 n = [n.digitChar] := Nat.toDigits_of_lt_base hn
      have hdiv : n / 10 = 0 := by omega
      have hmod : n % 10 = n := by omega
      simp [decimal,digits,hone,hdiv,hmod,digits_zero]
    · have hpos : 0 < n / 10 := by omega
      have hlt : n / 10 < 10 ^ width := by
        rw [Nat.pow_succ] at h
        omega
      have hwidth : 0 < width := by
        by_contra hzero
        have : width = 0 := by omega
        subst this
        omega
      have hsplit : Nat.toDigits 10 n = Nat.toDigits 10 (n / 10) ++ [(n % 10).digitChar] := by
        have := Nat.toDigits_append_toDigits (b := 10) (n := n / 10) (d := n % 10) (by omega)
          hpos (by omega)
        rw [Nat.toDigits_of_lt_base (by omega : n % 10 < 10)] at this
        rw [this]
        congr 1
        omega
      have hrest := ih hwidth hlt
      unfold decimal at hrest ⊢
      rw [digits,← hrest,hsplit,List.length_append,List.length_singleton,List.append_assoc]
      congr 2
      omega

theorem digitChar_lt {a b : Nat} (h : a < b) (hb : b < 10) :
    Nat.digitChar a < Nat.digitChar b := by
  interval_cases b <;> interval_cases a <;> decide

theorem append_lt {α : Type} [LT α] {xs ys : List α} (hlen : xs.length = ys.length) (h : xs < ys)
    (us vs : List α) : xs ++ us < ys ++ vs := by
  induction xs generalizing ys with
  | nil =>
    cases ys with
    | nil => exact absurd h (by simp)
    | cons y ys => simp at hlen
  | cons x xs ih =>
    cases ys with
    | nil => simp at hlen
    | cons y ys =>
      rw [List.cons_lt_cons_iff] at h
      rw [List.cons_append,List.cons_append,List.cons_lt_cons_iff]
      obtain h | ⟨rfl,h⟩ := h
      · exact .inl h
      · exact .inr ⟨rfl,ih (by simpa using hlen) h⟩

theorem digits_lt {width a b : Nat} (h : a < b) (hb : b < 10 ^ width) :
    digits width a < digits width b := by
  induction width generalizing a b with
  | zero => omega
  | succ width ih =>
    rw [Nat.pow_succ] at hb
    rw [digits,digits]
    by_cases hdiv : a / 10 = b / 10
    · rw [hdiv]
      have hlast := digitChar_lt (show a % 10 < b % 10 by omega) (by omega)
      exact List.append_left_lt (List.cons_lt_cons_iff.mpr (.inl hlast))
    · have hdivlt := ih (show a / 10 < b / 10 by omega) (by omega)
      exact append_lt (by simp) hdivlt _ _

/-- Within the width, the smaller number comes first. -/
theorem decimal_lt {width a b : Nat} (hw : 0 < width) (h : a < b) (hb : b < 10 ^ width) :
    decimal width a < decimal width b := by
  rw [decimal_eq_digits hw (by omega),decimal_eq_digits hw hb]
  exact digits_lt h hb

theorem decimal_length {width n : Nat} (hw : 0 < width) (h : n < 10 ^ width) :
    (decimal width n).length = width := by
  rw [decimal_eq_digits hw h,digits_length]

/-- The value of a numeral does not depend on its padding. -/
theorem ofDigitChars_decimal (width n : Nat) : Nat.ofDigitChars 10 (decimal width n) 0 = n := by
  simp [decimal,Nat.ofDigitChars_append]

theorem decimal_injective {width a b : Nat} (h : decimal width a = decimal width b) : a = b := by
  have ha := ofDigitChars_decimal width a
  rw [h,ofDigitChars_decimal] at ha
  exact ha.symm

theorem isDigit_of_mem_decimal {width n : Nat} {c : Char} (h : c ∈ decimal width n) :
    c.isDigit = true := by
  obtain hzero | hdigit := List.mem_append.mp h
  · rw [List.eq_of_mem_replicate hzero]
    decide
  · exact Nat.isDigit_of_mem_toDigits (by decide) (by decide) hdigit

/-- A numeral ends where the first character that is no digit stands. -/
theorem takeWhile_decimal (width n : Nat) (rest : List Char) :
    (decimal width n ++ '_' :: rest).takeWhile Char.isDigit = decimal width n := by
  rw [List.takeWhile_append_of_pos (fun c hc => isDigit_of_mem_decimal hc)]
  have hstop : '_'.isDigit = false := by decide
  simp [hstop]

/-- Numbers, each after its literal and padded to its width. -/
def stamp : List (List Char × Nat) → List Nat → List Char
  | (literal,width) :: layout,n :: numbers => literal ++ decimal width n ++ stamp layout numbers
  | _,_ => []

/-- Every number has a digit and at most its width of them. -/
def Fits (layout : List (List Char × Nat)) (numbers : List Nat) : Prop :=
  List.Forall₂ (fun field n => 0 < field.2 ∧ n < 10 ^ field.2) layout numbers

/-- The numbers of a stamp, and what follows it. -/
def unstamp : List (List Char × Nat) → List Char → Option (List Nat × List Char)
  | [],cs => some ([],cs)
  | (literal,width) :: layout,cs =>
    let number := (cs.drop literal.length).take width
    if literal.isPrefixOf cs && number.length = width && number.all Char.isDigit then
      (unstamp layout (cs.drop (literal.length + width))).map fun read =>
        (Nat.ofDigitChars 10 number 0 :: read.1,read.2)
    else none

/-- The numbers of a stamp are read back. -/
theorem unstamp_stamp {layout : List (List Char × Nat)} {numbers : List Nat}
    (h : Fits layout numbers) (rest : List Char) :
    unstamp layout (stamp layout numbers ++ rest) = some (numbers,rest) := by
  induction h with
  | nil => rfl
  | @cons field n layout numbers hfield hrest ih =>
    obtain ⟨literal,width⟩ := field
    obtain ⟨hwidth,hlt⟩ := hfield
    have hlen : (decimal width n).length = width := decimal_length hwidth hlt
    have hdigits : (decimal width n).all Char.isDigit = true :=
      List.all_eq_true.2 fun c hc => isDigit_of_mem_decimal hc
    have hnumber : ((literal ++ (decimal width n ++ (stamp layout numbers ++ rest))).drop
        literal.length).take width = decimal width n := by
      rw [List.drop_left,List.take_left' hlen]
    have htail : (literal ++ (decimal width n ++ (stamp layout numbers ++ rest))).drop
        (literal.length + width) = stamp layout numbers ++ rest := by
      rw [← List.drop_drop,List.drop_left,List.drop_left' hlen]
    have hliteral : literal.isPrefixOf
        (literal ++ (decimal width n ++ (stamp layout numbers ++ rest))) = true :=
      List.isPrefixOf_iff_prefix.2 (List.prefix_append _ _)
    simp only [stamp,List.append_assoc,unstamp,hnumber,htail,hliteral,hlen,hdigits,ih,
      decide_true,Bool.and_self,if_true,Option.map_some,ofDigitChars_decimal]

theorem stamp_injective {layout : List (List Char × Nat)} {xs ys : List Nat} (hx : Fits layout xs)
    (hy : Fits layout ys) (h : stamp layout xs = stamp layout ys) : xs = ys := by
  have hread := unstamp_stamp hx []
  rw [h,unstamp_stamp hy] at hread
  simpa using hread.symm

/-- Stamps of one layout are ordered as their numbers are, whatever follows them. -/
theorem stamp_lt {layout : List (List Char × Nat)} {xs ys : List Nat} (hx : Fits layout xs)
    (hy : Fits layout ys) (h : xs < ys) (us vs : List Char) :
    stamp layout xs ++ us < stamp layout ys ++ vs := by
  induction hx generalizing ys with
  | nil =>
    cases hy
    exact absurd h (by simp)
  | @cons field x layout xs hfield hxs ih =>
    obtain ⟨hwidth,hlt⟩ := hfield
    cases hy with
    | @cons _ y _ ys hy hys =>
      simp only [stamp,List.append_assoc]
      apply List.append_left_lt
      obtain hxy | ⟨rfl,hrest⟩ := List.cons_lt_cons_iff.1 h
      · have hlen : (decimal field.2 x).length = (decimal field.2 y).length := by
          rw [decimal_length hwidth hlt,decimal_length hwidth hy.2]
        exact append_lt hlen (decimal_lt hwidth hxy hy.2) _ _
      · exact List.append_left_lt (ih hys hrest)

end Padded
