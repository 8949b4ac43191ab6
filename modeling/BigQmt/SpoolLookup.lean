import BigQmt.BridgePrograms
set_option autoImplicit false

/-!
`QmtCommandSpool.locate` while the Bridge moves files: its five checks see five moments.
-/

namespace Resumption

theorem Prog.bind_bind {F : Type → Type 1} {α β γ : Type} (p : Prog F α) (f : α → Prog F β)
    (g : β → Prog F γ) : (p.bind f).bind g = p.bind (fun a => (f a).bind g) := by
  induction p with
  | pure a => rfl
  | op o k ih =>
    simp only [Prog.op_bind,ih]

/-- One turn while a program runs: its next effect, or a step of another party. -/
inductive Turn (E : Type) where
  | own
  | other (e : E)
  deriving DecidableEq

/-- What a program returns in the given turns, and the world it leaves. -/
def among {F : Type → Type 1} {W E α : Type} (exec : {β : Type} → F β → W → β × W)
    (act : E → W → W) : Prog F α → W → List (Turn E) → Option (α × W)
  | .pure a,w,[] => some (a,w)
  | .pure _,_,.own :: _ => none
  | .pure a,w,.other e :: ts => among exec act (.pure a) (act e w) ts
  | .op _ _,_,[] => none
  | .op o k,w,.own :: ts => among exec act (k (exec o w).1) (exec o w).2 ts
  | .op o k,w,.other e :: ts => among exec act (.op o k) (act e w) ts

/-- How many effects the program takes. -/
def ownTurns {E : Type} (ts : List (Turn E)) : Nat :=
  ts.countP (fun t => match t with | .own => true | .other _ => false)

section
variable {E : Type} {e : E} {ts ts' : List (Turn E)}

@[simp] theorem ownTurns_nil : ownTurns ([] : List (Turn E)) = 0 := rfl

@[simp] theorem ownTurns_own : ownTurns (.own :: ts) = ownTurns ts + 1 := by simp [ownTurns]

@[simp] theorem ownTurns_other : ownTurns (.other e :: ts) = ownTurns ts := by simp [ownTurns]

@[simp] theorem ownTurns_append : ownTurns (ts ++ ts') = ownTurns ts + ownTurns ts' := by
  simp [ownTurns]

end

end Resumption

namespace BigQmt

open Resumption Proc

/-- A file taken to a later directory by `os.replace`. -/
structure LaterMove where
  source : SpoolDir
  target : SpoolDir
  name : String
  later : source.rank < target.rank
  deriving DecidableEq

/-- The spool after the move; without its source it fails. -/
def LaterMove.act (m : LaterMove) (w : World) : World :=
  (exec (.move m.source m.target m.name) {} w).2

/-- What an effect of the Bridge does to the spool. -/
theorem exec_forward {β : Type} {o : Eff β} (h : o.forward = true) (c : Choice) (w : World) :
    (exec o c w).2.spool = w.spool ∨ ∃ m : LaterMove, (exec o c w).2.spool = (m.act w).spool := by
  cases o with
  | move source target name =>
    have hlater : source.rank < target.rank := by simpa [Eff.forward] using h
    cases hfault : c.fault with
    | some err => exact .inl (by simp [exec,hfault])
    | none =>
      refine .inr ⟨⟨source,target,name,hlater⟩,?_⟩
      cases hmove : w.spool.move source target name <;> simp [LaterMove.act,exec,hfault,hmove]
  | txn t => cases h
  | renameTemp commandId raw expiresMs nowMs => cases h
  | readFile dir name =>
    refine .inl ?_
    simp only [exec]
    split <;> rfl
  | _ => exact .inl rfl

/-- All a Bridge process ever does to the spool is to take files to later directories. -/
theorem bridge_moves (account : Bridge.Account) (ticks : Nat) :
    (Bridge.process account ticks).All (fun o => ∀ c w, (exec o c w).2.spool = w.spool ∨
      ∃ m : LaterMove, (exec o c w).2.spool = (m.act w).spool) :=
  Bridge.process_all (fun _ h c w => exec_forward h c w) account ticks

namespace LaterMove

variable {m : LaterMove} {w : World} {id : String}

theorem act_idle (h : w.spool.has m.source m.name = false) : (m.act w).spool = w.spool := by
  have hmove : w.spool.move m.source m.target m.name = none := by
    rw [← Option.not_isSome_iff_eq_none,Spool.move_isSome,h]
    decide
  simp [act,exec,hmove]

theorem act_other (h : m.name ≠ id) (d : SpoolDir) :
    (m.act w).spool.has d id = w.spool.has d id := by
  have hne : m.source ≠ m.target := by
    intro heq
    have := m.later
    rw [heq] at this
    omega
  cases hmove : w.spool.move m.source m.target m.name with
  | none => simp [act,exec,hmove]
  | some spool => simp [act,exec,hmove,Spool.has_move hmove hne,Ne.symm h]

/-- The copies of the command after a move of its file. -/
theorem act_has (h : w.spool.has m.source m.name = true) (d : SpoolDir) :
    (m.act w).spool.has d m.name =
      if d = m.target then true else if d = m.source then false else w.spool.has d m.name := by
  have hne : m.source ≠ m.target := by
    intro heq
    have := m.later
    rw [heq] at this
    omega
  cases hmove : w.spool.move m.source m.target m.name with
  | none =>
    rw [← @Spool.move_isSome w.spool m.source m.target m.name,hmove] at h
    cases h
  | some spool => simp [act,exec,hmove,Spool.has_move hmove hne]

/-- A copy stays, here or in a later directory. -/
theorem act_kept {d : SpoolDir} (h : w.spool.has d id = true) :
    ∃ d', (m.act w).spool.has d' id = true ∧ d.rank ≤ d'.rank := by
  by_cases hname : m.name = id
  · subst hname
    cases hsource : w.spool.has m.source m.name with
    | false => exact ⟨d,by rw [act_idle hsource]; exact h,Nat.le_refl _⟩
    | true =>
      by_cases hd : d = m.source
      · exact ⟨m.target,by simp [act_has hsource],by rw [hd]; exact Nat.le_of_lt m.later⟩
      · exact ⟨d,by simp [act_has hsource,hd,h],Nat.le_refl _⟩
  · exact ⟨d,by rw [act_other hname]; exact h,Nat.le_refl _⟩

end LaterMove

/-- Two directories hold the command. -/
def World.Twice (w : World) (id : String) : Prop :=
  ∃ d d', d ≠ d' ∧ w.spool.has d id = true ∧ w.spool.has d' id = true

/-- A move never makes a second copy. -/
theorem LaterMove.twice_of_act {m : LaterMove} {w : World} {id : String}
    (h : (m.act w).Twice id) : w.Twice id := by
  obtain ⟨d,d',hne,hd,hd'⟩ := h
  by_cases hname : m.name = id
  · subst hname
    cases hsource : w.spool.has m.source m.name with
    | false =>
      rw [act_idle hsource] at hd hd'
      exact ⟨d,d',hne,hd,hd'⟩
    | true =>
      have hback : ∀ x, x ≠ m.target → (m.act w).spool.has x m.name = true →
          x ≠ m.source ∧ w.spool.has x m.name = true := by
        intro x hx hhas
        rw [act_has hsource,if_neg hx] at hhas
        by_cases hs : x = m.source
        · simp [hs] at hhas
        · exact ⟨hs,by simpa [hs] using hhas⟩
      by_cases ht : d = m.target
      · obtain ⟨hs,hold⟩ := hback d' (fun heq => hne (ht.trans heq.symm)) hd'
        exact ⟨d',m.source,hs,hold,hsource⟩
      · obtain ⟨hs,hold⟩ := hback d ht hd
        exact ⟨d,m.source,hs,hold,hsource⟩
  · rw [act_other hname] at hd hd'
    exact ⟨d,d',hne,hd,hd'⟩

/-- The world after some turns of a lookup and of the Bridge. -/
def World.after (w : World) (ts : List (Turn LaterMove)) : World :=
  ts.foldl (fun w t => match t with | .own => w | .other m => m.act w) w

section
variable {w : World} {m : LaterMove} {ts ts' : List (Turn LaterMove)}

@[simp] theorem after_nil : w.after [] = w := rfl

@[simp] theorem after_own : w.after (.own :: ts) = w.after ts := rfl

@[simp] theorem after_other : w.after (.other m :: ts) = (m.act w).after ts := rfl

theorem after_append : w.after (ts ++ ts') = (w.after ts).after ts' := by
  simp [World.after,List.foldl_append]

end

/-- Two copies at some instant were there from the start. -/
theorem twice_of_after {w : World} {id : String} {ts : List (Turn LaterMove)}
    (h : (w.after ts).Twice id) : w.Twice id := by
  induction ts generalizing w with
  | nil => exact h
  | cons t ts ih =>
    cases t with
    | own => exact ih h
    | other m => exact LaterMove.twice_of_act (ih h)

/-- A call of `locate` in the given turns: what it returns or raises. -/
def locateAmong (id : String) (w : World) (ts : List (Turn LaterMove)) :
    Option (Except PyError (Option SpoolDir)) :=
  (among (fun o w => exec o {} w) LaterMove.act (locate id ()) w ts).map (fun r => r.1.1)

/-- The directories in which the checks that are left find a copy. -/
def seen (id : String) : List SpoolDir → World → List (Turn LaterMove) → List SpoolDir
  | _,_,[] => []
  | [],w,.own :: ts => seen id [] w ts
  | d :: ds,w,.own :: ts =>
    if w.spool.has d id then d :: seen id ds w ts else seen id ds w ts
  | ds,w,.other m :: ts => seen id ds (m.act w) ts

theorem among_pure {α : Type} (a : α) {w : World} {ts : List (Turn LaterMove)}
    (h : ownTurns ts = 0) : (among (fun o w => exec o {} w) LaterMove.act
      (.pure a : Prog Eff α) w ts).map Prod.fst = some a := by
  induction ts generalizing w with
  | nil => rfl
  | cons t ts ih =>
    cases t with
    | own => simp at h
    | other m => exact ih (by simpa using h)

theorem among_foundIn {α : Type} (id : String) (g : Except PyError (List SpoolDir) × Unit → α)
    (ds : List SpoolDir) (w : World) (ts : List (Turn LaterMove)) (h : ownTurns ts = ds.length) :
    (among (fun o w => exec o {} w) LaterMove.act
      ((foundIn id ds () : Prog Eff _).bind (fun r => .pure (g r))) w ts).map Prod.fst =
      some (g (.ok (seen id ds w ts),())) := by
  induction ts generalizing ds w g with
  | nil =>
    cases ds with
    | nil => rfl
    | cons d ds => simp at h
  | cons t ts ih =>
    cases t with
    | other m =>
      have hrest : ownTurns ts = ds.length := by simpa using h
      cases ds with
      | nil => exact ih g [] (m.act w) hrest
      | cons d ds => exact ih g (d :: ds) (m.act w) hrest
    | own =>
      cases ds with
      | nil => simp at h
      | cons d ds =>
        have hrest : ownTurns ts = ds.length := by simpa using h
        let next : Except PyError (List SpoolDir) × Unit → Except PyError (List SpoolDir) × Unit :=
          fun
          | (.ok rest,s) => (.ok (if w.spool.has d id then d :: rest else rest),s)
          | (.error e,s) => (.error e,s)
        have hstep := ih (fun r => g (next r)) ds w hrest
        have hnext : next (.ok (seen id ds w ts),()) = (.ok (seen id (d :: ds) w (.own :: ts)),()) := by
          simp only [next,seen]
        rw [hnext] at hstep
        rw [← hstep]
        change (among _ _ (((foundIn id ds () : Prog Eff _).bind _).bind _) w ts).map _ = _
        rw [Prog.bind_bind]
        congr 3
        funext r
        rcases r with ⟨_ | _,_⟩ <;> rfl

/-- What `locate` makes of the directories that hold a copy. -/
def located (found : List SpoolDir) : Except PyError (Option SpoolDir) :=
  if 1 < found.length then
    .error (.commandConflict "command appears in more than one spool state")
  else .ok found.head?

theorem locateAmong_eq (id : String) (w : World) {ts : List (Turn LaterMove)}
    (h : ownTurns ts = 5) : locateAmong id w ts = some (located (seen id SpoolDir.all w ts)) := by
  let answer : Except PyError (List SpoolDir) × Unit → Except PyError (Option SpoolDir) × Unit :=
    fun
    | (.ok found,s) => (located found,s)
    | (.error e,s) => (.error e,s)
  have hrun := among_foundIn id answer SpoolDir.all w ts h
  have hlocate : (locate id () : Prog Eff _) =
      (foundIn id SpoolDir.all ()).bind (fun r => .pure (answer r)) := by
    change (foundIn id SpoolDir.all () : Prog Eff _).bind _ = _
    congr 1
    funext r
    rcases r with ⟨e | found,u⟩
    · rfl
    · by_cases hmany : 1 < found.length
      · simp only [answer,located,hmany,if_true]
        rfl
      · simp only [answer,located,hmany,if_false]
        rfl
  obtain ⟨r,hr,hfst⟩ := Option.map_eq_some_iff.mp hrun
  rw [locateAmong,hlocate]
  exact Option.map_eq_some_iff.mpr ⟨r,hr,congrArg Prod.fst hfst⟩

theorem SpoolDir.drop_rank (d : SpoolDir) :
    SpoolDir.all.drop d.rank = d :: SpoolDir.all.drop (d.rank + 1) := by
  cases d <;> rfl

theorem SpoolDir.rank_injective {d d' : SpoolDir} (h : d.rank = d'.rank) : d = d' := by
  cases d <;> cases d' <;> first | rfl | cases h

theorem SpoolDir.exists_rank {n : Nat} (h : n < 5) : ∃ d : SpoolDir, d.rank = n :=
  match n,h with
  | 0,_ => ⟨.inbox,rfl⟩
  | 1,_ => ⟨.claimed,rfl⟩
  | 2,_ => ⟨.processed,rfl⟩
  | 3,_ => ⟨.rejected,rfl⟩
  | 4,_ => ⟨.unknown,rfl⟩

/-- A copy in a directory that is still to be checked is found there or in a later one. -/
theorem seen_of_has {id : String} {n : Nat} {w : World} {ts : List (Turn LaterMove)}
    {d : SpoolDir} (hturns : ownTurns ts + n = 5) (hd : w.spool.has d id = true) (hn : n ≤ d.rank) :
    seen id (SpoolDir.all.drop n) w ts ≠ [] := by
  induction ts generalizing n w d with
  | nil =>
    have hrank : d.rank < 5 := by cases d <;> decide
    simp at hturns
    omega
  | cons t ts ih =>
    cases t with
    | other m =>
      obtain ⟨d',hd',hle⟩ := LaterMove.act_kept (m := m) hd
      have hrest := ih (n := n) (by simpa using hturns) hd' (by omega)
      cases hds : SpoolDir.all.drop n <;> rw [hds] at hrest <;> exact hrest
    | own =>
      rw [ownTurns_own] at hturns
      obtain ⟨x,rfl⟩ := SpoolDir.exists_rank (n := n) (by omega)
      rw [x.drop_rank]
      simp only [seen]
      split
      · simp
      · rename_i hmissing
        have hne : x.rank ≠ d.rank := by
          intro hrank
          rw [SpoolDir.rank_injective hrank] at hmissing
          exact hmissing hd
        exact ih (n := x.rank + 1) (by omega) hd (by omega)

/-- A check sees the command in a directory, and a move then takes it into a directory that is
still to be checked. -/
def TakenAhead (id : String) (w : World) (ts : List (Turn LaterMove)) : Prop :=
  ∃ pre mid post m d, ts = pre ++ .own :: (mid ++ .other m :: post) ∧
    d.rank = ownTurns pre ∧ (w.after pre).spool.has d id = true ∧
    m.name = id ∧ (w.after (pre ++ .own :: mid)).spool.has m.source id = true ∧
    ownTurns (pre ++ .own :: mid) ≤ m.target.rank

theorem seen_nil (id : String) (w : World) (ts : List (Turn LaterMove)) : seen id [] w ts = [] := by
  induction ts generalizing w with
  | nil => rfl
  | cons t ts ih => cases t <;> exact ih _

theorem seen_other (id : String) (ds : List SpoolDir) (w : World) (m : LaterMove)
    (ts : List (Turn LaterMove)) : seen id ds w (.other m :: ts) = seen id ds (m.act w) ts := by
  cases ds <;> rfl

/-- The checks of the first turns, and then those of the others. -/
theorem seen_append (id : String) (ds : List SpoolDir) (w : World) (ts ts' : List (Turn LaterMove)) :
    ∃ before, seen id ds w (ts ++ ts') =
      before ++ seen id (ds.drop (ownTurns ts)) (w.after ts) ts' := by
  induction ts generalizing ds w with
  | nil => exact ⟨[],rfl⟩
  | cons t ts ih =>
    cases t with
    | other m =>
      obtain ⟨before,hbefore⟩ := ih ds (m.act w)
      exact ⟨before,by rw [List.cons_append,seen_other,hbefore,ownTurns_other,after_other]⟩
    | own =>
      cases ds with
      | nil =>
        obtain ⟨before,hbefore⟩ := ih [] w
        exact ⟨before,by simpa [seen] using hbefore⟩
      | cons d ds =>
        obtain ⟨before,hbefore⟩ := ih ds w
        by_cases hd : w.spool.has d id = true
        · exact ⟨d :: before,by simp [seen,hd,hbefore]⟩
        · exact ⟨before,by simp [seen,hd,hbefore]⟩

/-- A command that a check has seen and that is taken on is seen again. -/
theorem TakenAhead.seen_twice {id : String} {w : World} {ts : List (Turn LaterMove)}
    (hturns : ownTurns ts = 5) (h : TakenAhead id w ts) : 1 < (seen id SpoolDir.all w ts).length := by
  obtain ⟨pre,mid,post,m,d,rfl,hrank,hd,rfl,hsource,htarget⟩ := h
  obtain ⟨before,hbefore⟩ := seen_append m.name SpoolDir.all w pre
    (.own :: (mid ++ .other m :: post))
  have hfirst : seen m.name (SpoolDir.all.drop (ownTurns pre)) (w.after pre)
      (.own :: (mid ++ .other m :: post)) = d :: seen m.name (SpoolDir.all.drop (d.rank + 1))
        (w.after pre) (mid ++ .other m :: post) := by
    rw [← hrank,d.drop_rank]
    simp only [seen,hd,if_true]
  obtain ⟨between,hbetween⟩ := seen_append m.name (SpoolDir.all.drop (d.rank + 1)) (w.after pre) mid
    (.other m :: post)
  rw [after_append,after_own] at hsource
  have hagain : seen m.name (SpoolDir.all.drop (d.rank + 1 + ownTurns mid))
      (m.act ((w.after pre).after mid)) post ≠ [] := by
    refine seen_of_has (d := m.target) ?_ (by simp [LaterMove.act_has hsource]) ?_
    · simp at hturns
      omega
    · simp at htarget
      omega
  have hpos := List.length_pos_iff.mpr hagain
  rw [hbefore,hfirst,hbetween,seen_other,List.drop_drop]
  simp only [List.length_append,List.length_cons]
  omega

/-- A command with one copy, in a directory behind the checks, is seen again only when a move
takes it in front of them. -/
theorem exists_move_of_seen {id : String} {n : Nat} {w : World} {ts : List (Turn LaterMove)}
    {d : SpoolDir} (hone : ¬w.Twice id) (hd : w.spool.has d id = true) (hn : d.rank < n)
    (hseen : seen id (SpoolDir.all.drop n) w ts ≠ []) :
    ∃ mid post m, ts = mid ++ .other m :: post ∧ m.name = id ∧
      (w.after mid).spool.has m.source id = true ∧ n + ownTurns mid ≤ m.target.rank := by
  induction ts generalizing n w d with
  | nil => simp [seen] at hseen
  | cons t ts ih =>
    cases t with
    | other m =>
      rw [seen_other] at hseen
      have hone' : ¬(m.act w).Twice id := fun h => hone (LaterMove.twice_of_act h)
      by_cases hmoves : m.name = id ∧ w.spool.has m.source id = true
      · obtain ⟨rfl,hsource⟩ := hmoves
        by_cases hahead : n ≤ m.target.rank
        · exact ⟨[],ts,m,rfl,rfl,hsource,by simpa using hahead⟩
        · have htarget : (m.act w).spool.has m.target m.name = true := by
            simp [LaterMove.act_has hsource]
          obtain ⟨mid,post,m',rfl,hname,hhas,hle⟩ := ih hone' htarget (by omega) hseen
          exact ⟨.other m :: mid,post,m',rfl,hname,hhas,by simpa using hle⟩
      · have hstays : (m.act w).spool.has d id = true := by
          by_cases hname : m.name = id
          · subst hname
            have hsource : w.spool.has m.source m.name = false := by simpa using hmoves
            rw [LaterMove.act_idle hsource]
            exact hd
          · rw [LaterMove.act_other hname]
            exact hd
        obtain ⟨mid,post,m',rfl,hname,hhas,hle⟩ := ih hone' hstays hn hseen
        exact ⟨.other m :: mid,post,m',rfl,hname,hhas,by simpa using hle⟩
    | own =>
      by_cases hlast : n < 5
      · obtain ⟨x,rfl⟩ := SpoolDir.exists_rank hlast
        have hmissing : ¬w.spool.has x id = true := by
          intro hx
          refine hone ⟨x,d,?_,hx,hd⟩
          rintro rfl
          omega
        rw [x.drop_rank] at hseen
        simp only [seen,hmissing] at hseen
        obtain ⟨mid,post,m,rfl,hname,hhas,hle⟩ := ih hone hd (by omega) hseen
        exact ⟨.own :: mid,post,m,rfl,hname,hhas,by simp; omega⟩
      · have hnone : SpoolDir.all.drop n = [] :=
          List.drop_of_length_le (by simp [SpoolDir.all]; omega)
        rw [hnone,seen_nil] at hseen
        exact absurd rfl hseen

/-- A command with one copy is found twice only when a move overtakes the checks. -/
theorem takenAhead_of_seen {id : String} {n : Nat} {w : World} {ts : List (Turn LaterMove)}
    (hone : ¬w.Twice id) (hseen : 1 < (seen id (SpoolDir.all.drop n) w ts).length) :
    ∃ pre mid post m d, ts = pre ++ .own :: (mid ++ .other m :: post) ∧
      d.rank = n + ownTurns pre ∧ (w.after pre).spool.has d id = true ∧
      m.name = id ∧ (w.after (pre ++ .own :: mid)).spool.has m.source id = true ∧
      n + ownTurns (pre ++ .own :: mid) ≤ m.target.rank := by
  induction ts generalizing n w with
  | nil => simp [seen] at hseen
  | cons t ts ih =>
    cases t with
    | other m =>
      rw [seen_other] at hseen
      obtain ⟨pre,mid,post,m',d,rfl,hrank,hd,hname,hhas,hle⟩ :=
        ih (fun h => hone (LaterMove.twice_of_act h)) hseen
      exact ⟨.other m :: pre,mid,post,m',d,rfl,by simpa using hrank,hd,hname,hhas,by simpa using hle⟩
    | own =>
      by_cases hlast : n < 5
      · obtain ⟨x,rfl⟩ := SpoolDir.exists_rank hlast
        rw [x.drop_rank] at hseen
        by_cases hx : w.spool.has x id = true
        · -- this check sees the command, so the next one that does is after a move
          simp only [seen,hx,if_true,List.length_cons] at hseen
          have hagain : seen id (SpoolDir.all.drop (x.rank + 1)) w ts ≠ [] :=
            List.length_pos_iff.mp (by omega)
          obtain ⟨mid,post,m,rfl,hname,hhas,hle⟩ :=
            exists_move_of_seen hone hx (Nat.lt_succ_self _) hagain
          exact ⟨[],mid,post,m,x,rfl,rfl,hx,hname,hhas,by simp; omega⟩
        · simp only [seen,hx] at hseen
          obtain ⟨pre,mid,post,m,d,rfl,hrank,hd,hname,hhas,hle⟩ := ih hone hseen
          refine ⟨.own :: pre,mid,post,m,d,rfl,?_,hd,hname,hhas,?_⟩
          · simp only [ownTurns_own]
            omega
          · simp only [List.cons_append,ownTurns_own]
            omega
      · have hnone : SpoolDir.all.drop n = [] :=
          List.drop_of_length_le (by simp [SpoolDir.all]; omega)
        rw [hnone,seen_nil] at hseen
        simp at hseen

/-- At some instant of the call two directories hold the command. -/
def EverTwice (id : String) (w : World) (ts : List (Turn LaterMove)) : Prop :=
  ∃ pre post, ts = pre ++ post ∧ (w.after pre).Twice id

/-- `None` means that there was no copy at the start, and a conflict that there were two copies
at one instant. -/
def LocateTrue (id : String) (w : World) (ts : List (Turn LaterMove))
    (r : Except PyError (Option SpoolDir)) : Prop :=
  (r = .ok none → w.spool.copies id = []) ∧
    ((∃ message, r = .error (.commandConflict message)) → EverTwice id w ts)

/-- The five checks among any moves of files to later directories return or raise, `None` is
always right, and a conflict is right exactly when no move overtakes the checks or there
were two copies. -/
theorem locate_true_iff (id : String) (w : World) (ts : List (Turn LaterMove))
    (h : ownTurns ts = 5) : ∃ r, locateAmong id w ts = some r ∧
      (r = .ok none → w.spool.copies id = []) ∧
      (LocateTrue id w ts r ↔ EverTwice id w ts ∨ ¬TakenAhead id w ts) := by
  have hmiss : located (seen id SpoolDir.all w ts) = .ok none → w.spool.copies id = [] := by
    intro hnone
    by_contra hcopies
    obtain ⟨d,hd⟩ := List.exists_mem_of_ne_nil _ hcopies
    have hfound := seen_of_has (n := 0) (by simpa using h) (Spool.mem_copies.mp hd) (Nat.zero_le _)
    rw [List.drop_zero] at hfound
    cases hseen : seen id SpoolDir.all w ts with
    | nil => exact hfound hseen
    | cons x rest =>
      rw [hseen,located] at hnone
      split at hnone <;> cases hnone
  have hconflict : (∃ message, located (seen id SpoolDir.all w ts) =
      .error (.commandConflict message)) ↔ 1 < (seen id SpoolDir.all w ts).length := by
    unfold located
    split <;> simp [*]
  refine ⟨_,locateAmong_eq id w h,hmiss,?_⟩
  rw [LocateTrue,hconflict]
  constructor
  · rintro ⟨-,htwice⟩
    by_cases hahead : TakenAhead id w ts
    · exact .inl (htwice (hahead.seen_twice h))
    · exact .inr hahead
  · rintro (htwice | hstill)
    · exact ⟨hmiss,fun _ => htwice⟩
    · refine ⟨hmiss,fun hmany => ?_⟩
      by_contra hnever
      have hone : ¬w.Twice id := fun htwice => hnever ⟨[],ts,rfl,htwice⟩
      obtain ⟨pre,mid,post,m,d,hsplit,hrank,hd,hname,hhas,hle⟩ :=
        takenAhead_of_seen (n := 0) hone (by simpa using hmany)
      exact hstill ⟨pre,mid,post,m,d,hsplit,by simpa using hrank,hd,hname,hhas,by simpa using hle⟩

/-- A command waiting in the inbox. -/
def waitingCommand : World :=
  { World.initial with spool := [⟨.inbox,"cmd-1",Raw.dumps .null⟩] }

def fiveChecks : List (Turn LaterMove) := [.own,.own,.own,.own,.own]

/-- The Bridge claims the command after the first check. -/
def claimAfterFirst : List (Turn LaterMove) :=
  [.own,.other ⟨.inbox,.claimed,"cmd-1",by decide⟩,.own,.own,.own,.own]

theorem locate_true_unmoved : ∃ r, locateAmong "cmd-1" waitingCommand fiveChecks = some r ∧
    (r = .ok none → waitingCommand.spool.copies "cmd-1" = []) ∧
    (LocateTrue "cmd-1" waitingCommand fiveChecks r ↔
      EverTwice "cmd-1" waitingCommand fiveChecks ∨
        ¬TakenAhead "cmd-1" waitingCommand fiveChecks) :=
  locate_true_iff "cmd-1" waitingCommand fiveChecks (by decide)

/-- The command is never in two directories, and `locate` reports that it is. -/
theorem locate_false_conflict : ¬EverTwice "cmd-1" waitingCommand claimAfterFirst ∧
    locateAmong "cmd-1" waitingCommand claimAfterFirst =
      some (.error (.commandConflict "command appears in more than one spool state")) := by
  have hone : ¬waitingCommand.Twice "cmd-1" := by
    have honly : ∀ d, waitingCommand.spool.has d "cmd-1" = true → d = .inbox := by
      intro d hd
      cases d with
      | inbox => rfl
      | _ => cases hd
    rintro ⟨d,d',hne,hd,hd'⟩
    exact hne ((honly d hd).trans (honly d' hd').symm)
  constructor
  · rintro ⟨pre,post,-,htwice⟩
    exact hone (twice_of_after htwice)
  · rw [locateAmong_eq _ _ (by decide)]
    rfl

end BigQmt
