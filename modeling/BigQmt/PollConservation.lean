import BigQmt.EventFrames
import BigQmt.EventSpool
import BigQmt.Folder
import BigQmt.PathNames
import Mathlib.Algebra.Order.Group.Multiset
import Mathlib.Tactic.Abel
set_option autoImplicit false

/-!
One call of `FileSpoolReceiver.poll_once` of `qmt/spool.py` over directories with any
contents: where the files of the inbox go, and that none is lost or overwritten.
-/

namespace BigQmt

/-- What `_read_decoded` does: an event, an `OSError` or `QmtProtocolError`, or another error. -/
inductive DecodeOutcome (ε : Type) where
  | event (e : ε)
  | refused
  | escaped (error : PyError)
  deriving DecidableEq

/-- How a call for an event ends: it returns, raises `QmtIngressIdentityError`, or another
error. -/
inductive CallOutcome where
  | returned
  | identity
  | raised (error : PyError)
  deriving DecidableEq

/-- What happens at the file of each name, whatever it depends on. -/
structure SpoolReceiver (γ ε : Type) where
  readDecoded : String → γ → DecodeOutcome ε
  ingest : String → ε → CallOutcome
  onEvent : String → ε → CallOutcome

structure ReceiverDirs (γ : Type) where
  inbox : Folder String γ
  target : EventDir → Folder String γ

/-- `SpoolPollResult`. -/
structure SpoolPollResult where
  processed : Nat := 0
  quarantined : Nat := 0
  conflicted : Nat := 0
  pending : Nat := 0
  deriving DecidableEq, Repr

/-- `f"{stem}.{index}{suffix}"`. -/
def numberedName (name : String) (index : Nat) : String :=
  pathStem name ++ "." ++ toString index ++ pathSuffix name

/-- The name at which the loop of `_move_unique` ends within `fuel` rounds. -/
def uniqueName (fuel : Nat) (taken : List String) (name : String) : Option String :=
  if name ∈ taken then Folder.firstFree taken (numberedName name) fuel 1 else some name

theorem uniqueName_fresh {fuel : Nat} {taken : List String} {name target : String}
    (h : uniqueName fuel taken name = some target) : target ∉ taken := by
  unfold uniqueName at h
  split_ifs at h with hin
  · exact (Folder.firstFree_spec h).1
  · cases h
    exact hin

theorem numberedName_injective (name : String) : Function.Injective (numberedName name) := by
  intro i j h
  have hlist := congrArg String.toList h
  simp only [numberedName,String.toList_append,List.append_cancel_right_eq,
    List.append_cancel_left_eq] at hlist
  have hdigits : Nat.toDigits 10 i = Nat.toDigits 10 j := by
    simpa only [Nat.toString_eq_repr,Nat.toList_repr] using hlist
  have hread := congrArg (fun digits => Nat.ofDigitChars 10 digits 0) hdigits
  simpa using hread

theorem uniqueName_exists {fuel : Nat} {taken : List String} (h : taken.length < fuel)
    (name : String) : ∃ target,uniqueName fuel taken name = some target := by
  unfold uniqueName
  split_ifs with hin
  · exact Folder.firstFree_exists (numberedName_injective name) h
  · exact ⟨name,rfl⟩

theorem uniqueName_mono {fuel fuel' : Nat} {taken : List String} {name target : String}
    (h : uniqueName fuel taken name = some target) (hle : fuel ≤ fuel') :
    uniqueName fuel' taken name = some target := by
  unfold uniqueName at h ⊢
  split_ifs at h ⊢ with hin
  · exact Folder.firstFree_mono h hle
  · exact h

namespace ReceiverDirs

variable {γ : Type}

def contents (s : ReceiverDirs γ) : List γ :=
  s.inbox.contents ++ ((s.target .processed).contents ++
    ((s.target .quarantine).contents ++ (s.target .conflicts).contents))

/-- `sorted(self.inbox.glob("*.json"))[:max_files]`. -/
def batch (s : ReceiverDirs γ) (maxFiles : Int) : List (String × γ) :=
  ((s.inbox.entries.filter (fun f => isJsonName f.1)).insertionSort
    (fun a b => a.1 ≤ b.1)).take maxFiles.toNat

/-- `_move_unique`. -/
def moveUnique (s : ReceiverDirs γ) (fuel : Nat) (name : String) (content : γ) (d : EventDir) :
    Option (ReceiverDirs γ) :=
  match h : uniqueName fuel (s.target d).names name with
  | none => none
  | some target => some {
      inbox := s.inbox.remove name
      target := Function.update s.target d ((s.target d).add target content (uniqueName_fresh h)) }

end ReceiverDirs

namespace SpoolReceiver

variable {γ ε : Type} (r : SpoolReceiver γ ε)

/-- `self.ingress.ingest(item.event)` and `self.on_event(result)`. -/
def handle (name : String) (e : ε) : CallOutcome :=
  match r.ingest name e with
  | .returned => r.onEvent name e
  | outcome => outcome

/-- The loop of `poll_once`. -/
def pollFiles (fuel : Nat) : List String → ReceiverDirs γ → SpoolPollResult →
    Option (Except PyError SpoolPollResult × ReceiverDirs γ)
  | [],s,counted => some (.ok counted,s)
  | name :: rest,s,counted =>
    match s.inbox.lookup name with
    | none => some (.error (.osError "no such file"),s)
    | some content =>
      match r.readDecoded name content with
      | .refused => (s.moveUnique fuel name content .quarantine).bind fun s =>
          pollFiles fuel rest s { counted with quarantined := counted.quarantined + 1 }
      | .escaped error => some (.error error,s)
      | .event e =>
        match r.handle name e with
        | .identity => (s.moveUnique fuel name content .conflicts).bind fun s =>
            pollFiles fuel rest s { counted with conflicted := counted.conflicted + 1 }
        | .raised error => some (.error error,s)
        | .returned => (s.moveUnique fuel name content .processed).bind fun s =>
            pollFiles fuel rest s { counted with processed := counted.processed + 1 }

/-- `poll_once`, where each file is renamed within `fuel` rounds. -/
def pollOnce (fuel : Nat) (maxFiles : Int) (s : ReceiverDirs γ) :
    Option (Except PyError SpoolPollResult × ReceiverDirs γ) :=
  if maxFiles ≤ 0 then some (.error (.valueError "max_files must be positive"),s)
  else (r.pollFiles fuel ((s.batch maxFiles).map Prod.fst) s {}).map fun (outcome,s) =>
    (outcome.map fun counted => { counted with
      pending := (s.inbox.names.filter isJsonName).length },s)

/-- The ingress or `on_event` raises another error than a conflict of identity. -/
def Raised (f : String × γ) : Prop :=
  ∃ e error,r.readDecoded f.1 f.2 = .event e ∧ r.handle f.1 e = .raised error

/-- Where a file is to go. -/
def Verdict (f : String × γ) : EventDir → Prop
  | .quarantine => r.readDecoded f.1 f.2 = .refused
  | .conflicts => ∃ e,r.readDecoded f.1 f.2 = .event e ∧ r.handle f.1 e = .identity
  | .processed => ∃ e,r.readDecoded f.1 f.2 = .event e ∧ r.handle f.1 e = .returned

/-- The files of a batch up to one of them. -/
def upTo (batch : List (String × γ)) (f : String × γ) : List (String × γ) :=
  batch.takeWhile (fun g => g.1 ≠ f.1) ++ [f]

/-- No file is lost, overwritten or renamed, and every file of the batch is in one place: in
the inbox only if the ingress or `on_event` raised at it or before it. -/
structure Conserves (batch : List (String × γ)) (before after : ReceiverDirs γ) : Prop where
  contents : after.contents.Perm before.contents
  inbox : ∀ f ∈ after.inbox.entries,f ∈ before.inbox.entries
  untouched : ∀ f ∈ before.inbox.entries,f ∉ batch → f ∈ after.inbox.entries
  target : ∀ d,(before.target d).entries <+: (after.target d).entries
  fates : ∃ (kept : List (String × γ)) (moved : EventDir → List (String × γ)),
    batch.Perm (kept ++ (moved .processed ++ (moved .quarantine ++ moved .conflicts))) ∧
      (∀ f ∈ kept,f ∈ after.inbox.entries ∧ ∃ g ∈ upTo batch f,r.Raised g) ∧
      ∀ d,(∀ f ∈ moved d,f ∉ after.inbox.entries ∧ r.Verdict f d) ∧
        (after.target d).contents = (before.target d).contents ++ (moved d).map Prod.snd

/-- Decoding a file raises what `poll_once` does not catch, and nothing raised before. -/
def Escapes (batch : List (String × γ)) : Prop :=
  ∃ f ∈ batch,(∃ error,r.readDecoded f.1 f.2 = .escaped error) ∧ ∀ g ∈ upTo batch f,¬r.Raised g

/-- The directory of a file that is moved. -/
def fate (f : String × γ) : Option EventDir :=
  match r.readDecoded f.1 f.2 with
  | .refused => some .quarantine
  | .escaped _ => none
  | .event e =>
    match r.handle f.1 e with
    | .identity => some .conflicts
    | .raised _ => none
    | .returned => some .processed

variable {r} {f : String × γ} {fs : List (String × γ)} {s after : ReceiverDirs γ}

theorem fate_eq_some {d : EventDir} : r.fate f = some d ↔ r.Verdict f d := by
  unfold fate Verdict
  cases hread : r.readDecoded f.1 f.2 with
  | refused => cases d <;> simp
  | escaped error => cases d <;> simp
  | event e => cases hhandle : r.handle f.1 e <;> cases d <;> simp [hhandle]

theorem fate_eq_none : r.fate f = none ↔
    (∃ error,r.readDecoded f.1 f.2 = .escaped error) ∨ r.Raised f := by
  unfold fate Raised
  cases hread : r.readDecoded f.1 f.2 with
  | refused => simp
  | escaped error => simp
  | event e => cases hhandle : r.handle f.1 e <;> simp [hhandle]

/-- The files of a batch that are moved: those before the first that ends the call. -/
def done (r : SpoolReceiver γ ε) (fs : List (String × γ)) : List (String × γ) :=
  fs.takeWhile (fun f => (r.fate f).isSome)

/-- The files of the batch that go to a directory. -/
def sent (r : SpoolReceiver γ ε) (fs : List (String × γ)) (d : EventDir) : List (String × γ) :=
  (done r fs).filter (fun f => r.fate f = some d)

/-- How the directories are left. -/
structure Sorts (r : SpoolReceiver γ ε) (fs : List (String × γ)) (s after : ReceiverDirs γ) :
    Prop where
  contents : after.contents.Perm s.contents
  inbox : after.inbox.entries = s.inbox.entries.filter (fun g => g.1 ∉ (done r fs).map Prod.fst)
  target : ∀ d,∃ named,(after.target d).entries = (s.target d).entries ++ named ∧
    named.map Prod.snd = (sent r fs d).map Prod.snd

end SpoolReceiver

namespace ReceiverDirs

variable {γ : Type} {s s' : ReceiverDirs γ} {fuel : Nat} {name : String} {content : γ}
  {d : EventDir}

theorem moveUnique_spec (h : s.moveUnique fuel name content d = some s') :
    s'.inbox = s.inbox.remove name ∧ ∃ target,target ∉ (s.target d).names ∧
      (s'.target d).entries = (s.target d).entries ++ [(target,content)] ∧
      ∀ d',d' ≠ d → s'.target d' = s.target d' := by
  unfold moveUnique at h
  split at h
  · cases h
  · rename_i target htarget
    cases h
    refine ⟨rfl,target,uniqueName_fresh htarget,?_,?_⟩
    · simp only [Function.update_self]
      rfl
    · intro d' hd
      exact Function.update_of_ne hd _ _

/-- A move carries one content from the inbox to the directory. -/
theorem moveUnique_contents (h : s.moveUnique fuel name content d = some s')
    (hf : (name,content) ∈ s.inbox.entries) : s'.contents.Perm s.contents := by
  obtain ⟨hinbox,target,-,htarget,hothers⟩ := moveUnique_spec h
  have hfrom := Multiset.coe_eq_coe.2 ((Folder.remove_perm hf).map Prod.snd)
  have hto : (s'.target d).contents = (s.target d).contents ++ [content] := by
    simp [Folder.contents,htarget]
  have hrest : s'.inbox.contents = (s.inbox.remove name).contents := by rw [hinbox]
  rw [← Multiset.coe_eq_coe]
  unfold contents
  simp only [← Multiset.coe_add]
  have hhead : (s.inbox.contents : Multiset γ) =
      ([content] : List γ) + ((s'.inbox.contents : List γ) : Multiset γ) := by
    rw [hrest]
    simpa [Folder.contents] using hfrom
  rw [hhead]
  cases d with
  | processed =>
    rw [hothers .quarantine (by decide),hothers .conflicts (by decide),hto,← Multiset.coe_add]
    abel
  | quarantine =>
    rw [hothers .processed (by decide),hothers .conflicts (by decide),hto,← Multiset.coe_add]
    abel
  | conflicts =>
    rw [hothers .processed (by decide),hothers .quarantine (by decide),hto,← Multiset.coe_add]
    abel

/-- With more rounds than files, the loop ends, and it ends at one name. -/
theorem moveUnique_exists (s : ReceiverDirs γ) (d : EventDir) (name : String) (content : γ) :
    ∃ s',∀ fuel,(s.target d).names.length < fuel → s.moveUnique fuel name content d = some s' := by
  obtain ⟨target,htarget⟩ := uniqueName_exists (Nat.lt_succ_self (s.target d).names.length) name
  refine ⟨⟨s.inbox.remove name,Function.update s.target d
    ((s.target d).add target content (uniqueName_fresh htarget))⟩,?_⟩
  intro fuel hfuel
  have hmore := uniqueName_mono htarget hfuel
  unfold moveUnique
  split
  · rename_i hnone
    rw [hnone] at hmore
    cases hmore
  · rename_i target' hsome
    rw [hsome] at hmore
    cases hmore
    rfl

theorem names_length_le (s : ReceiverDirs γ) (d : EventDir) :
    (s.target d).names.length ≤ s.contents.length := by
  unfold contents Folder.contents Folder.names
  cases d <;> simp <;> omega

end ReceiverDirs

namespace SpoolReceiver

variable {γ ε : Type} {r : SpoolReceiver γ ε} {f : String × γ} {fs : List (String × γ)}
  {s s' after : ReceiverDirs γ} {counted : SpoolPollResult} {fuel : Nat} {rest : List String}

theorem pollFiles_ends (rest : List String) (counted : SpoolPollResult)
    (hf : f ∈ s.inbox.entries) (h : r.fate f = none) :
    ∃ error,∀ fuel,r.pollFiles fuel (f.1 :: rest) s counted = some (.error error,s) := by
  have hlookup := Folder.lookup_of_mem hf
  obtain ⟨error,hread⟩ | ⟨e,error,hread,hhandle⟩ := fate_eq_none.1 h
  · exact ⟨error,fun fuel => by simp [pollFiles,hlookup,hread]⟩
  · exact ⟨error,fun fuel => by simp [pollFiles,hlookup,hread,hhandle]⟩

theorem pollFiles_moves (rest : List String) (counted : SpoolPollResult) {d : EventDir}
    (hf : f ∈ s.inbox.entries) (h : r.fate f = some d) :
    ∃ counted',∀ fuel s',s.moveUnique fuel f.1 f.2 d = some s' →
      r.pollFiles fuel (f.1 :: rest) s counted = r.pollFiles fuel rest s' counted' := by
  have hlookup := Folder.lookup_of_mem hf
  have hverdict := fate_eq_some.1 h
  cases d with
  | quarantine =>
    refine ⟨{ counted with quarantined := counted.quarantined + 1 },fun fuel s' hmove => ?_⟩
    unfold Verdict at hverdict
    simp only [pollFiles,hlookup,hverdict,hmove,Option.bind_some]
  | conflicts =>
    obtain ⟨e,hread,hhandle⟩ := hverdict
    refine ⟨{ counted with conflicted := counted.conflicted + 1 },fun fuel s' hmove => ?_⟩
    simp only [pollFiles,hlookup,hread,hhandle,hmove,Option.bind_some]
  | processed =>
    obtain ⟨e,hread,hhandle⟩ := hverdict
    refine ⟨{ counted with processed := counted.processed + 1 },fun fuel s' hmove => ?_⟩
    simp only [pollFiles,hlookup,hread,hhandle,hmove,Option.bind_some]

theorem Sorts.ends (h : r.fate f = none) : r.Sorts (f :: fs) s s where
  contents := .refl _
  inbox := by simp [done,h]
  target d := ⟨[],by simp,by simp [sent,done,h]⟩

/-- A move and what the rest of the batch does after it. -/
theorem Sorts.moves {d : EventDir} (h : r.fate f = some d) (hf : f ∈ s.inbox.entries)
    (hmove : s.moveUnique fuel f.1 f.2 d = some s') (hrest : r.Sorts fs s' after) :
    r.Sorts (f :: fs) s after := by
  obtain ⟨hinbox,target,-,htarget,hothers⟩ := ReceiverDirs.moveUnique_spec hmove
  have hdone : r.done (f :: fs) = f :: r.done fs := by simp [done,h]
  constructor
  · exact hrest.contents.trans (ReceiverDirs.moveUnique_contents hmove hf)
  · rw [hrest.inbox,hinbox,hdone]
    simp only [Folder.remove,List.filter_filter]
    apply List.filter_congr
    intro g _
    simp only [List.map_cons,List.mem_cons,not_or,Bool.decide_and]
    rw [Bool.and_comm]
  · intro d'
    obtain ⟨named,hnamed,hcontents⟩ := hrest.target d'
    by_cases hd : d' = d
    · subst hd
      refine ⟨(target,f.2) :: named,by simp [hnamed,htarget],?_⟩
      simp [sent,hdone,h,hcontents]
    · have hnot : ¬d = d' := fun heq => hd heq.symm
      refine ⟨named,by rw [hnamed,hothers d' hd],?_⟩
      simp [hcontents,sent,hdone,h,hnot]

/-- The loop ends, and leaves the files of the batch sorted. -/
theorem pollFiles_sorts (hnodup : (fs.map Prod.fst).Nodup) (hfs : ∀ f ∈ fs,f ∈ s.inbox.entries)
    (counted : SpoolPollResult) : ∃ outcome after,r.Sorts fs s after ∧
      ∀ fuel,s.contents.length < fuel →
        r.pollFiles fuel (fs.map Prod.fst) s counted = some (outcome,after) := by
  induction fs generalizing s counted with
  | nil => exact ⟨.ok counted,s,⟨.refl _,by simp [done],fun d => ⟨[],by simp,by simp [sent,done]⟩⟩,
      fun fuel _ => rfl⟩
  | cons f fs ih =>
    have hf := hfs f (by simp)
    cases hfate : r.fate f with
    | none =>
      obtain ⟨error,hends⟩ := pollFiles_ends (fs.map Prod.fst) counted hf hfate
      exact ⟨.error error,s,.ends hfate,fun fuel _ => hends fuel⟩
    | some d =>
      obtain ⟨s',hmove⟩ := s.moveUnique_exists d f.1 f.2
      obtain ⟨counted',hmoves⟩ := pollFiles_moves (fs.map Prod.fst) counted hf hfate
      have hfew := s.names_length_le d
      have hone := hmove _ (Nat.lt_succ_self _)
      obtain ⟨hinbox,-⟩ := ReceiverDirs.moveUnique_spec hone
      have hlater : ∀ g ∈ fs,g ∈ s'.inbox.entries := by
        intro g hg
        rw [hinbox]
        refine List.mem_filter.2 ⟨hfs g (by simp [hg]),?_⟩
        have hne : g.1 ≠ f.1 := fun heq =>
          (List.nodup_cons.1 hnodup).1 (heq ▸ List.mem_map_of_mem hg)
        simpa using hne
      obtain ⟨outcome,after,hsorts,hpoll⟩ := ih (List.nodup_cons.1 hnodup).2 hlater counted'
      have hsize := (ReceiverDirs.moveUnique_contents hone hf).length_eq
      refine ⟨outcome,after,.moves hfate hf hone hsorts,?_⟩
      intro fuel hfuel
      have hstep := hmoves fuel s' (hmove fuel (by omega))
      rw [List.map_cons,hstep]
      exact hpoll fuel (by omega)

theorem sent_perm {fs : List (String × γ)} (h : ∀ f ∈ fs,(r.fate f).isSome = true) :
    fs.Perm (fs.filter (fun f => r.fate f = some .processed) ++
      (fs.filter (fun f => r.fate f = some .quarantine) ++
        fs.filter (fun f => r.fate f = some .conflicts))) := by
  induction fs with
  | nil => simp
  | cons f fs ih =>
    have hrest := ih fun g hg => h g (by simp [hg])
    obtain ⟨d,hd⟩ := Option.isSome_iff_exists.1 (h f (by simp))
    cases d with
    | processed => simpa [hd] using hrest
    | quarantine =>
      simp only [List.filter_cons,hd]
      simpa using (hrest.cons f).trans List.perm_middle.symm
    | conflicts =>
      simp only [List.filter_cons,hd]
      simp only [← List.append_assoc] at hrest ⊢
      simpa using (hrest.cons f).trans List.perm_middle.symm

/-- A batch has files of the inbox, under different names. -/
theorem batch_spec (s : ReceiverDirs γ) (maxFiles : Int) :
    ((s.batch maxFiles).map Prod.fst).Nodup ∧ ∀ f ∈ s.batch maxFiles,f ∈ s.inbox.entries := by
  have hperm := List.perm_insertionSort (fun a b : String × γ => a.1 ≤ b.1)
    (s.inbox.entries.filter (fun f => isJsonName f.1))
  constructor
  · have hsorted := (hperm.map Prod.fst).nodup_iff.2
      (s.inbox.nodup.sublist (List.filter_sublist.map Prod.fst))
    exact hsorted.sublist ((List.take_sublist _ _).map Prod.fst)
  · intro f hf
    exact (List.mem_filter.1 (hperm.mem_iff.1 (List.mem_of_mem_take hf))).1

section Order

variable {front back : List (String × γ)} {g : String × γ}

theorem name_ne (hnodup : ((front ++ f :: back).map Prod.fst).Nodup) (hg : g ∈ front)
    {k : String × γ} (hk : k ∈ f :: back) : g.1 ≠ k.1 := by
  rw [List.map_append,List.nodup_append] at hnodup
  exact hnodup.2.2 _ (List.mem_map_of_mem hg) _ (List.mem_map_of_mem hk)

theorem upTo_split (hnodup : ((front ++ f :: back).map Prod.fst).Nodup) :
    upTo (front ++ f :: back) f = front ++ [f] := by
  unfold upTo
  rw [List.takeWhile_append_of_pos fun g hg => by simpa using name_ne hnodup hg (by simp)]
  simp

theorem mem_upTo (hnodup : ((front ++ f :: back).map Prod.fst).Nodup) (hg : g ∈ f :: back) :
    f ∈ upTo (front ++ f :: back) g := by
  unfold upTo
  rw [List.takeWhile_append_of_pos fun k hk => by simpa using name_ne hnodup hk hg]
  obtain rfl | hback := List.mem_cons.1 hg
  · simp
  · rw [List.map_append,List.nodup_append,List.map_cons,List.nodup_cons] at hnodup
    have hne : f.1 ≠ g.1 := fun heq => hnodup.2.1.1 (heq ▸ List.mem_map_of_mem hback)
    simp [hne]

end Order

theorem fate_of_done (h : f ∈ r.done fs) : (r.fate f).isSome = true :=
  List.mem_takeWhile_imp (p := fun f => (r.fate f).isSome) h

/-- A file that is left over stands at or behind one at which a call raised. -/
theorem raised_upTo (hnodup : (fs.map Prod.fst).Nodup) (hescapes : ¬r.Escapes fs)
    (hf : f ∈ fs.dropWhile (fun f => (r.fate f).isSome)) : ∃ g ∈ upTo fs f,r.Raised g := by
  obtain ⟨front,hfront⟩ : ∃ front,front = r.done fs := ⟨_,rfl⟩
  have hsplit := List.takeWhile_append_dropWhile (p := fun f => (r.fate f).isSome) (l := fs)
  cases hdrop : fs.dropWhile (fun f => (r.fate f).isSome) with
  | nil => simp [hdrop] at hf
  | cons k back =>
    have hk : r.fate k = none := by
      have hnot := List.head_dropWhile_not (fun f => (r.fate f).isSome) (l := fs) (by simp [hdrop])
      simpa [hdrop] using hnot
    have heq : fs = front ++ k :: back := by rw [hfront,done,← hdrop,hsplit]
    rw [heq] at hnodup hescapes ⊢
    rw [hdrop] at hf
    refine ⟨k,mem_upTo hnodup hf,?_⟩
    obtain hescaped | hraised := fate_eq_none.1 hk
    · refine absurd ⟨k,by simp,hescaped,?_⟩ hescapes
      rw [upTo_split hnodup]
      intro g hg hraises
      obtain hg | hg := List.mem_append.1 hg
      · have hsome : (r.fate g).isSome = true := by
          rw [hfront] at hg
          exact fate_of_done hg
        rw [fate_eq_none.2 (.inr hraises)] at hsome
        cases hsome
      · obtain rfl := List.mem_singleton.1 hg
        obtain ⟨error,hescaped⟩ := hescaped
        obtain ⟨e,_,hread,_⟩ := hraises
        rw [hescaped] at hread
        cases hread
    · exact hraised

theorem conserves_of_sorts (hnodup : (fs.map Prod.fst).Nodup)
    (hfs : ∀ f ∈ fs,f ∈ s.inbox.entries) (hsorts : r.Sorts fs s after)
    (hescapes : ¬r.Escapes fs) : r.Conserves fs s after := by
  have hsplit := List.takeWhile_append_dropWhile (p := fun f => (r.fate f).isSome) (l := fs)
  have hdone : ∀ f ∈ r.done fs,f ∈ fs := fun f hf => (List.takeWhile_sublist _).subset hf
  have hmem : ∀ f,f ∈ after.inbox.entries ↔
      f ∈ s.inbox.entries ∧ f.1 ∉ (r.done fs).map Prod.fst := by
    intro f
    rw [hsorts.inbox,List.mem_filter,decide_eq_true_eq]
  constructor
  · exact hsorts.contents
  · intro f hf
    exact ((hmem f).1 hf).1
  · intro f hf hnot
    refine (hmem f).2 ⟨hf,?_⟩
    intro hname
    obtain ⟨⟨name,content⟩,hg,rfl⟩ := List.mem_map.1 hname
    have hsame := Folder.mem_unique (hfs _ (hdone _ hg)) hf
    subst hsame
    exact hnot (hdone _ hg)
  · intro d
    obtain ⟨named,hnamed,-⟩ := hsorts.target d
    exact ⟨named,hnamed.symm⟩
  · refine ⟨fs.dropWhile (fun f => (r.fate f).isSome),r.sent fs,?_,?_,?_⟩
    · have hsent := sent_perm (r := r) fun f (hf : f ∈ r.done fs) => fate_of_done hf
      calc fs.Perm (r.done fs ++ fs.dropWhile (fun f => (r.fate f).isSome)) := by
            unfold done
            rw [hsplit]
        _ |>.Perm (fs.dropWhile (fun f => (r.fate f).isSome) ++ r.done fs) := List.perm_append_comm
        _ |>.Perm _ := hsent.append_left _
    · intro f hf
      refine ⟨(hmem f).2 ⟨hfs f ((List.dropWhile_sublist _).subset hf),?_⟩,
        raised_upTo hnodup hescapes hf⟩
      rw [← hsplit,List.map_append,List.nodup_append] at hnodup
      intro hname
      exact hnodup.2.2 _ hname _ (List.mem_map_of_mem hf) rfl
    · intro d
      constructor
      · intro f hf
        obtain ⟨hf,hfate⟩ := List.mem_filter.1 hf
        refine ⟨?_,fate_eq_some.1 (by simpa using hfate)⟩
        intro hkept
        exact ((hmem f).1 hkept).2 (List.mem_map_of_mem hf)
      · obtain ⟨named,hnamed,hcontents⟩ := hsorts.target d
        rw [Folder.contents,hnamed,List.map_append,hcontents]
        rfl

theorem not_escapes_of_conserves (h : r.Conserves fs s after) : ¬r.Escapes fs := by
  rintro ⟨f,hf,⟨error,hread⟩,hraised⟩
  obtain ⟨kept,moved,hperm,hkept,hmoved⟩ := h.fates
  have hnone : r.fate f = none := fate_eq_none.2 (.inl ⟨error,hread⟩)
  have hnot : ∀ d,f ∉ moved d := by
    intro d hd
    have hverdict := fate_eq_some.2 ((hmoved d).1 f hd).2
    rw [hnone] at hverdict
    cases hverdict
  have hmem := hperm.mem_iff.1 hf
  simp only [List.mem_append,hnot,or_false] at hmem
  obtain ⟨g,hg,hraises⟩ := (hkept f hmem).2
  exact hraised g hg hraises

/-- A call of `poll_once` ends, and it conserves the files unless decoding one of them raises
what is not caught. -/
theorem pollOnce_conserves_iff (r : SpoolReceiver γ ε) (before : ReceiverDirs γ) (maxFiles : Int) :
    ∃ outcome after,(∀ fuel,before.contents.length < fuel →
        r.pollOnce fuel maxFiles before = some (outcome,after)) ∧
      (r.Conserves (before.batch maxFiles) before after ↔ ¬r.Escapes (before.batch maxFiles)) := by
  obtain ⟨hnodup,hfs⟩ := batch_spec before maxFiles
  obtain ⟨outcome,after,hsorts,hpoll⟩ := pollFiles_sorts hnodup hfs {}
  by_cases hmax : maxFiles ≤ 0
  · have hbatch : before.batch maxFiles = [] := by
      unfold ReceiverDirs.batch
      rw [Int.toNat_of_nonpos hmax,List.take_zero]
    refine ⟨.error (.valueError "max_files must be positive"),before,fun fuel _ => ?_,?_⟩
    · simp [pollOnce,hmax]
    · rw [hbatch]
      have hescapes : ¬r.Escapes [] := by simp [Escapes]
      exact iff_of_true (conserves_of_sorts (by simp) (by simp)
        ⟨.refl _,by simp [done],fun d => ⟨[],by simp,by simp [sent,done]⟩⟩ hescapes) hescapes
  · refine ⟨outcome.map fun counted => { counted with
      pending := (after.inbox.names.filter isJsonName).length },after,fun fuel hfuel => ?_,
        not_escapes_of_conserves,conserves_of_sorts hnodup hfs hsorts⟩
    rw [pollOnce,if_neg hmax,hpoll fuel hfuel]
    rfl

end SpoolReceiver

/-- `_read_decoded` of a file that can be read. -/
def readFrame (raw : Raw) : DecodeOutcome QmtEvent :=
  match decodeTransportFrame raw with
  | .ok e => .event e
  | .error err => if Host.unreadable err then .refused else .escaped err

/-- An ingress and an `on_event` that raise nothing. -/
def calmReceiver : SpoolReceiver Raw QmtEvent :=
  ⟨fun _ raw => readFrame raw,fun _ _ => .returned,fun _ _ => .returned⟩

/-- A file of the inbox whose name is taken in `processed`. -/
def clashDirs : ReceiverDirs Raw where
  inbox := ⟨[("7.json",(sampleEvent "session-a" 1 .bridgeReady .nil).frame)],by simp⟩
  target
    | .processed => ⟨[("7.json",Raw.dumps .null)],by simp⟩
    | _ => ⟨[],by simp⟩

theorem pollOnce_conserves_iff_clash : ∃ outcome after,
    calmReceiver.pollOnce 3 256 clashDirs = some (outcome,after) ∧
      calmReceiver.Conserves (clashDirs.batch 256) clashDirs after := by
  obtain ⟨outcome,after,hpoll,hiff⟩ := calmReceiver.pollOnce_conserves_iff clashDirs 256
  refine ⟨outcome,after,hpoll 3 (by decide +kernel),hiff.2 ?_⟩
  have hread : readFrame (sampleEvent "session-a" 1 .bridgeReady .nil).frame =
      .event (sampleEvent "session-a" 1 .bridgeReady .nil) := by decide +kernel
  have hbatch : clashDirs.batch 256 =
      [("7.json",(sampleEvent "session-a" 1 .bridgeReady .nil).frame)] := by decide +kernel
  rintro ⟨f,hf,⟨error,hescaped⟩,-⟩
  rw [hbatch] at hf
  obtain rfl := List.mem_singleton.1 hf
  have hnot := hread.symm.trans hescaped
  cases hnot

/-- A frame whose event type is a list. -/
def listTypeFrame : Raw :=
  Raw.dumps <| .object <|
    .cons "transport_version" (.text "1") <|
    .cons "event" (.object <|
      .cons "protocol_version" (.text "0.2") <|
      .cons "session_id" (.text "session-a") <|
      .cons "sequence" (.int 1) <|
      .cons "timestamp_ms" (.int 1700000000000) <|
      .cons "event_type" (.array .nil) <|
      .cons "source" (.text "callback") <|
      .cons "account_fingerprint" (.text sampleFingerprint) <|
      .cons "payload" (.object .nil) .nil) .nil

def listTypeDirs : ReceiverDirs Raw :=
  ⟨⟨[("1700000000000_session-a_1.json",listTypeFrame)],by simp⟩,fun _ => ⟨[],by simp⟩⟩

/-- The file stays in the inbox, though neither the ingress nor `on_event` raised. -/
theorem pollOnce_conserves_escaped :
    (∀ fuel,calmReceiver.pollOnce fuel 256 listTypeDirs =
      some (.error (.typeError "unhashable type"),listTypeDirs)) ∧
      ¬calmReceiver.Conserves (listTypeDirs.batch 256) listTypeDirs listTypeDirs := by
  have hescaped : readFrame listTypeFrame = .escaped (.typeError "unhashable type") := by
    decide +kernel
  have hbatch : listTypeDirs.batch 256 = [("1700000000000_session-a_1.json",listTypeFrame)] := by
    decide +kernel
  constructor
  · intro fuel
    have hlookup : listTypeDirs.inbox.lookup "1700000000000_session-a_1.json" =
        some listTypeFrame := by decide +kernel
    simp [SpoolReceiver.pollOnce,SpoolReceiver.pollFiles,hbatch,hlookup,calmReceiver,hescaped,
      Except.map]
  · intro hconserves
    refine SpoolReceiver.not_escapes_of_conserves hconserves ?_
    rw [hbatch]
    refine ⟨_,List.mem_singleton_self _,⟨_,hescaped⟩,?_⟩
    rintro g - ⟨e,error,-,hhandle⟩
    cases hhandle

end BigQmt
