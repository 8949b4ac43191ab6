import Mathlib.Data.List.DropRight
set_option autoImplicit false

/-!
A text read line by line against the texts it was written from: each line keeps its
separator, and a text that lacks one at its end is given one.
-/

namespace Lines

variable {α : Type} [DecidableEq α] (nl : α)

/-- The lines of a text, each up to and with its separator. -/
def lines : List α → List (List α)
  | [] => []
  | a :: rest =>
    if a = nl then [a] :: lines rest
    else
      match lines rest with
      | [] => [[a]]
      | line :: more => (a :: line) :: more

/-- The text without the separators at its end. -/
def stripEnd (t : List α) : List α := t.rdropWhile (fun a => decide (a = nl))

/-- How many separators the text ends with. -/
def endings (t : List α) : Nat := (t.rtakeWhile (fun a => decide (a = nl))).length

/-- The text, with a separator at its end. -/
def closed (t : List α) : List α := if t.getLast? = some nl then t else t ++ [nl]

variable {nl}

theorem lines_eq_nil {t : List α} : lines nl t = [] ↔ t = [] := by
  cases t with
  | nil => simp [lines]
  | cons a rest =>
    simp only [lines]
    split
    · simp
    · split <;> simp

theorem lines_cons_ne {a : α} {rest line : List α} {more : List (List α)} (ha : a ≠ nl)
    (h : lines nl rest = line :: more) : lines nl (a :: rest) = (a :: line) :: more := by
  simp only [lines,if_neg ha,h]

/-- Reading goes on where a separator has ended the text before. -/
theorem lines_append {t rest : List α} (ht : t = [] ∨ t.getLast? = some nl) :
    lines nl (t ++ rest) = lines nl t ++ lines nl rest := by
  induction t with
  | nil => rfl
  | cons a t ih =>
    by_cases ha : a = nl
    · have hrest : t = [] ∨ t.getLast? = some nl := by
        cases t with
        | nil => exact .inl rfl
        | cons b t => exact .inr (by simpa using ht)
      simp only [List.cons_append,lines,if_pos ha,ih hrest]
    · cases t with
      | nil => simp [ha] at ht
      | cons b t =>
        have hrest := ih (.inr (by simpa using ht))
        cases hlines : lines nl (b :: t) with
        | nil => simp [lines_eq_nil] at hlines
        | cons line more =>
          rw [hlines] at hrest
          rw [lines_cons_ne ha hlines,List.cons_append,lines_cons_ne ha hrest]
          rfl

theorem closed_ended (t : List α) : (closed nl t).getLast? = some nl := by
  unfold closed
  split
  · assumption
  · simp

theorem lines_flatten_closed (ts : List (List α)) :
    lines nl (ts.map (closed nl)).flatten = (ts.map (fun t => lines nl (closed nl t))).flatten := by
  induction ts with
  | nil => rfl
  | cons t ts ih =>
    rw [List.map_cons,List.flatten_cons,lines_append (.inr (closed_ended t)),ih]
    rfl

theorem lines_body {body : List α} (h : nl ∉ body) : lines nl (body ++ [nl]) = [body ++ [nl]] := by
  induction body with
  | nil => simp [lines]
  | cons a body ih =>
    obtain ⟨ha,hbody⟩ : nl ≠ a ∧ nl ∉ body := by simpa using h
    exact lines_cons_ne (Ne.symm ha) (ih hbody)

theorem lines_replicate (k : Nat) : lines nl (List.replicate k nl) = List.replicate k [nl] := by
  induction k with
  | zero => rfl
  | succ k ih => simp [List.replicate_succ,lines,ih]

theorem stripEnd_endings (t : List α) : stripEnd nl t ++ List.replicate (endings nl t) nl = t := by
  have hall : t.rtakeWhile (fun a => decide (a = nl)) = List.replicate (endings nl t) nl :=
    List.eq_replicate_iff.mpr ⟨rfl,fun a ha => by simpa using List.mem_rtakeWhile_imp ha⟩
  rw [← hall]
  exact List.rdropWhile_append_rtakeWhile

theorem endings_eq_zero {t : List α} : endings nl t = 0 ↔ t.getLast? ≠ some nl := by
  unfold endings
  rw [List.length_eq_zero_iff,List.rtakeWhile_eq_nil_iff]
  cases t using List.reverseRecOn with
  | nil => simp
  | append_singleton t a => simp

theorem closed_eq (t : List α) :
    closed nl t = stripEnd nl t ++ nl :: List.replicate (endings nl t - 1) nl := by
  have hsplit : stripEnd nl t ++ List.replicate (endings nl t) nl = t := stripEnd_endings t
  unfold closed
  split
  · rename_i hlast
    cases hcount : endings nl t with
    | zero => exact absurd hlast (endings_eq_zero.mp hcount)
    | succ k =>
      rw [hcount,List.replicate_succ] at hsplit
      simpa using hsplit.symm
  · rename_i hlast
    have hcount := endings_eq_zero.mpr hlast
    rw [hcount,List.replicate_zero,List.append_nil] at hsplit
    rw [hcount,hsplit]
    rfl

/-- A text of one line gives that line, and an empty line for every separator too many. -/
theorem lines_closed {t : List α} (h : nl ∉ stripEnd nl t) :
    lines nl (closed nl t) =
      (stripEnd nl t ++ [nl]) :: List.replicate (endings nl t - 1) [nl] := by
  have hsplit : stripEnd nl t ++ nl :: List.replicate (endings nl t - 1) nl =
      (stripEnd nl t ++ [nl]) ++ List.replicate (endings nl t - 1) nl := by simp
  rw [closed_eq,hsplit,lines_append (.inr (by simp)),lines_body h,lines_replicate]
  rfl

theorem stripEnd_concat (t : List α) : stripEnd nl (t ++ [nl]) = stripEnd nl t :=
  List.rdropWhile_concat_pos _ _ _ (by simp)

theorem closed_of_ended {t : List α} (h : t.getLast? = some nl) : closed nl t = t := by
  simp [closed,h]

theorem closed_closed (t : List α) : closed nl (closed nl t) = closed nl t :=
  closed_of_ended (closed_ended t)

/-- A text of one line with at most one separator is the line it gives. -/
theorem lines_closed_single {t : List α} (h : nl ∉ stripEnd nl t) (hend : endings nl t ≤ 1) :
    lines nl (closed nl t) = [closed nl t] := by
  have hnone : endings nl t - 1 = 0 := by omega
  rw [lines_closed h,closed_eq,hnone]
  rfl

end Lines
