import BigQmt.Json
import Mathlib.Data.List.Sort
set_option autoImplicit false

/-!
The command directories that the Host and the Bridge share. A file is known by
its directory and its stem; `os.replace` takes the place of what was there.
-/

namespace BigQmt

inductive SpoolDir where
  | inbox | claimed | processed | rejected | unknown
  deriving DecidableEq, Repr

/-- `_STATE_DIRS`, in the order in which they are scanned. -/
def SpoolDir.all : List SpoolDir := [.inbox,.claimed,.processed,.rejected,.unknown]

/-- The place of a directory in that order. -/
def SpoolDir.rank : SpoolDir → Nat
  | .inbox => 0
  | .claimed => 1
  | .processed => 2
  | .rejected => 3
  | .unknown => 4

structure SpoolFile where
  dir : SpoolDir
  name : String
  raw : Raw
  deriving DecidableEq

abbrev Spool : Type := List SpoolFile

namespace Spool

def lookup (s : Spool) (dir : SpoolDir) (name : String) : Option Raw :=
  (s.find? (fun f => f.dir = dir ∧ f.name = name)).map SpoolFile.raw

def has (s : Spool) (dir : SpoolDir) (name : String) : Bool := (s.lookup dir name).isSome

def remove (s : Spool) (dir : SpoolDir) (name : String) : Spool :=
  s.filter (fun f => ¬ (f.dir = dir ∧ f.name = name))

def put (s : Spool) (dir : SpoolDir) (name : String) (raw : Raw) : Spool :=
  ⟨dir,name,raw⟩ :: s.remove dir name

/-- `os.replace(source, target)`; `none` when there is no source. -/
def move (s : Spool) (source target : SpoolDir) (name : String) : Option Spool :=
  (s.lookup source name).map (fun raw => (s.remove source name).put target name raw)

/-- The stems of `sorted(dir.glob("*.json"))`. -/
def names (s : Spool) (dir : SpoolDir) : List String :=
  ((s.filter (fun f => f.dir = dir)).map SpoolFile.name).insertionSort
    (fun a b => a ++ ".json" ≤ b ++ ".json")

/-- The directories in which a command has a copy. -/
def copies (s : Spool) (name : String) : List SpoolDir :=
  SpoolDir.all.filter (fun dir => s.has dir name)

theorem SpoolDir_mem_all (d : SpoolDir) : d ∈ SpoolDir.all := by
  cases d <;> decide

theorem lookup_remove (s : Spool) (d d' : SpoolDir) (n n' : String) :
    (s.remove d n).lookup d' n' = if d' = d ∧ n' = n then none else s.lookup d' n' := by
  unfold lookup remove
  rw [List.find?_filter]
  by_cases h : d' = d ∧ n' = n
  · obtain ⟨rfl,rfl⟩ := h
    simp only [and_self,if_true,Option.map_eq_none_iff,List.find?_eq_none]
    intro f _ hf
    simp only [decide_eq_true_eq] at hf
    exact hf.1 hf.2
  · rw [if_neg h]
    congr 2
    funext f
    by_cases hf : f.dir = d' ∧ f.name = n'
    · obtain ⟨rfl,rfl⟩ := hf
      simp [h]
    · simp [hf]

theorem lookup_put (s : Spool) (d d' : SpoolDir) (n n' : String) (raw : Raw) :
    (s.put d n raw).lookup d' n' = if d' = d ∧ n' = n then some raw else s.lookup d' n' := by
  by_cases h : d' = d ∧ n' = n
  · obtain ⟨rfl,rfl⟩ := h
    simp [put,lookup]
  · have hne : ¬ (d = d' ∧ n = n') := fun hc => h ⟨hc.1.symm,hc.2.symm⟩
    rw [if_neg h]
    have hr := lookup_remove s d d' n n'
    rw [if_neg h] at hr
    rw [← hr]
    simp [put,lookup,hne]

theorem lookup_move {s s' : Spool} {source target : SpoolDir} {n : String}
    (h : s.move source target n = some s') (hne : source ≠ target) (d : SpoolDir) (n' : String) :
    s'.lookup d n' =
      if n' = n then
        if d = target then s.lookup source n
        else if d = source then none else s.lookup d n
      else s.lookup d n' := by
  unfold move at h
  cases hl : s.lookup source n with
  | none => simp [hl] at h
  | some raw =>
    simp only [hl,Option.map_some,Option.some.injEq] at h
    subst h
    rw [lookup_put,lookup_remove]
    by_cases hn : n' = n
    · subst hn
      by_cases hd : d = target
      · simp [hd]
      · by_cases hs : d = source <;> simp [hd,hs,hne]
    · simp [hn]

theorem move_isSome {s : Spool} {source target : SpoolDir} {n : String} :
    (s.move source target n).isSome = s.has source n := by
  simp [move,has]

theorem has_move {s s' : Spool} {source target : SpoolDir} {n : String}
    (h : s.move source target n = some s') (hne : source ≠ target) (d : SpoolDir) (n' : String) :
    s'.has d n' = if n' = n then
      if d = target then true else if d = source then false else s.has d n else s.has d n' := by
  have hsource : s.has source n = true := by
    rw [← @move_isSome s source target n,h]
    rfl
  unfold has at hsource ⊢
  rw [lookup_move h hne]
  split_ifs
  · exact hsource
  · rfl
  · rfl
  · rfl

/-- Files only ever go to later directories, and none is lost. -/
structure Forward (s s' : Spool) : Prop where
  origin : ∀ d n, s'.has d n = true → ∃ d', s.has d' n = true ∧ d'.rank ≤ d.rank
  kept : ∀ d n, s.has d n = true → ∃ d', s'.has d' n = true

theorem Forward.refl (s : Spool) : s.Forward s :=
  ⟨fun d _ h => ⟨d,h,le_rfl⟩,fun d _ h => ⟨d,h⟩⟩

theorem Forward.trans {s s' s'' : Spool} (h : s.Forward s') (h' : s'.Forward s'') :
    s.Forward s'' := by
  constructor
  · intro d n hd
    obtain ⟨d₁,hd₁,hle₁⟩ := h'.origin d n hd
    obtain ⟨d₂,hd₂,hle₂⟩ := h.origin d₁ n hd₁
    exact ⟨d₂,hd₂,hle₂.trans hle₁⟩
  · intro d n hd
    obtain ⟨d₁,hd₁⟩ := h.kept d n hd
    exact h'.kept d₁ n hd₁

theorem Forward.move {s s' : Spool} {source target : SpoolDir} {n : String}
    (h : s.move source target n = some s') (hlt : source.rank < target.rank) : s.Forward s' := by
  have hne : source ≠ target := by
    rintro rfl
    exact lt_irrefl _ hlt
  have hsource : s.has source n = true := by
    rw [← @move_isSome s source target n,h]
    rfl
  constructor
  · intro d n' hd
    rw [has_move h hne] at hd
    by_cases hn : n' = n
    · subst hn
      by_cases ht : d = target
      · exact ⟨source,hsource,ht ▸ hlt.le⟩
      · by_cases hs : d = source
        · simp [hs,hne] at hd
        · exact ⟨d,by simpa [ht,hs] using hd,le_rfl⟩
    · exact ⟨d,by simpa [hn] using hd,le_rfl⟩
  · intro d n' hd
    by_cases hn : n' = n
    · exact ⟨target,by simp [has_move h hne,hn]⟩
    · exact ⟨d,by simpa [has_move h hne,hn] using hd⟩

theorem mem_copies {s : Spool} {d : SpoolDir} {n : String} :
    d ∈ s.copies n ↔ s.has d n = true := by
  simp [copies,SpoolDir_mem_all]

theorem copies_eq_nil {s : Spool} {n : String} :
    s.copies n = [] ↔ ∀ d, s.has d n = false := by
  rw [List.eq_nil_iff_forall_not_mem]
  simp [mem_copies]

end Spool
end BigQmt
