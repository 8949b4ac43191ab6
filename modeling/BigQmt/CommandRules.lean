import BigQmt.BridgePrograms
import BigQmt.CommandLife
import BigQmt.SpoolLookup
set_option autoImplicit false

/-!
One Host and one Bridge on a command spool: what each may assume of the other, and the
Host's side of it.
-/

namespace BigQmt

open Resumption Proc Relation

/-- What the Host does to the files and the calls: it adds a command that has no copy. -/
structure HostMove (w w' : World) : Prop where
  calls : w'.brokerCalls = w.brokerCalls
  kept : ∀ d n raw, w.spool.lookup d n = some raw → w'.spool.lookup d n = some raw
  copies : ∀ n, w.spool.copies n ≠ [] → w'.spool.copies n = w.spool.copies n

theorem HostMove.refl (w : World) : HostMove w w := ⟨rfl,fun _ _ _ h => h,fun _ _ => rfl⟩

theorem HostMove.trans {a b c : World} (h₁ : HostMove a b) (h₂ : HostMove b c) : HostMove a c := by
  refine ⟨h₂.calls.trans h₁.calls,fun d n raw h => h₂.kept d n raw (h₁.kept d n raw h),fun n h => ?_⟩
  have hb : b.spool.copies n ≠ [] := by
    rw [h₁.copies n h]
    exact h
  rw [h₂.copies n hb,h₁.copies n h]

/-- Every file is a command's own, and every command has lived its life so far. -/
structure CommandsSafe (w : World) : Prop where
  framed : Framed w.spool
  lives : ∀ id, ReflTransGen Life .absent (w.command id)

theorem CommandsSafe.lived {w : World} (h : CommandsSafe w) (id : String) : (w.command id).Lived :=
  lived_of_reach (h.lives id) .absent

theorem CommandsSafe.initial : CommandsSafe World.initial :=
  ⟨fun _ _ _ h => (by cases h),fun _ => .refl⟩

/-- Every command goes on with its life. -/
def LivesOn (w w' : World) : Prop := ∀ id, ReflTransGen Life (w.command id) (w'.command id)

/-- The Host runs in slot 0 and the Bridge in slot 1. -/
def commandRules : Rules Eff Choice World where
  exec := exec
  cond _ _ _ := True
  need _ _ := True
  inv := CommandsSafe
  rely i w w' := (i = 0 → w.spool.Forward w'.spool) ∧ (i = 1 → HostMove w w')
  guar i w w' := LivesOn w w' ∧ (i ≠ 1 → HostMove w w') ∧ (i ≠ 0 → w.spool.Forward w'.spool)
  rely_refl _ w := ⟨fun _ => .refl w.spool,fun _ => .refl w⟩
  rely_trans _ _ _ _ h₁ h₂ :=
    ⟨fun hi => (h₁.1 hi).trans (h₂.1 hi),fun hi => (h₁.2 hi).trans (h₂.2 hi)⟩

theorem commandRules_compat (i j : Nat) (hne : i ≠ j) (w w' : World)
    (h : commandRules.guar i w w') : commandRules.rely j w w' :=
  ⟨fun hj => h.2.2 (by omega),fun hj => h.2.1 (by omega)⟩

/-- A request that leaves the files and the broker alone. -/
def Eff.still : {β : Type} → Eff β → Bool
  | _,.renameTemp _ _ _ _ | _,.move _ _ _ | _,.broker _ => false
  | _,_ => true

theorem Eff.still_of_plain {β : Type} {o : Eff β} (h : o.plain = true) : o.still = true := by
  cases o <;> first | rfl | cases h

theorem Eff.still_of_hosted {β : Type} {o : Eff β} (h : o.hosted) : o.still = true := by
  cases o <;> first | rfl | exact h.elim

/-- A request that leaves the database alone as well. -/
def Eff.idle : {β : Type} → Eff β → Bool
  | _,.txn _ | _,.renameTemp _ _ _ _ | _,.move _ _ _ | _,.broker _ => false
  | _,_ => true

theorem Eff.still_of_idle {β : Type} {o : Eff β} (h : o.idle = true) : o.still = true := by
  cases o <;> first | rfl | cases h

theorem Eff.silent_of_idle {β : Type} {o : Eff β} (h : o.idle = true) : o.transacts = false := by
  cases o <;> first | rfl | cases h

structure SameFiles (w w' : World) : Prop where
  spool : w'.spool = w.spool
  calls : w'.brokerCalls = w.brokerCalls

theorem exec_still {β : Type} {o : Eff β} (h : o.still = true) (c : Choice) (w : World) :
    SameFiles w (exec o c w).2 := by
  cases o with
  | renameTemp commandId raw expiresMs nowMs => cases h
  | move source target name => cases h
  | broker call => cases h
  | readFile dir name => cases hl : w.spool.lookup dir name <;> exact ⟨by simp [exec,hl],by simp [exec,hl]⟩
  | _ => exact ⟨rfl,rfl⟩

namespace SameFiles

variable {w w' : World} (h : SameFiles w w')
include h

theorem command (id : String) : w'.command id = w.command id := by
  simp only [World.command,World.callsOf,h.spool,h.calls]

theorem safe (hw : CommandsSafe w) : CommandsSafe w' :=
  ⟨h.spool ▸ hw.framed,fun id => h.command id ▸ hw.lives id⟩

theorem livesOn : LivesOn w w' := fun id => h.command id ▸ .refl

theorem forward : w.spool.Forward w'.spool := by
  rw [h.spool]
  exact .refl _

theorem hostMove : HostMove w w' :=
  ⟨h.calls,fun d n raw hl => h.spool ▸ hl,fun n _ => by rw [h.spool]⟩

end SameFiles

/-- What is known of the files and the calls only. -/
def OfFiles (A : World → Prop) : Prop := ∀ w w', SameFiles w w' → A w → A w'

/-- A request that leaves them alone keeps what is known of them. -/
theorem still_keeps {β : Type} {o : Eff β} (ho : o.still = true) {A : World → Prop} (hA : OfFiles A)
    (i : Nat) : commandRules.Keeps i A o := by
  intro w hi hw
  refine ⟨trivial,fun c _ => ?_⟩
  have hsame : SameFiles w (exec o c w).2 := exec_still ho c w
  exact ⟨hsame.safe hi,⟨hsame.livesOn,fun _ => hsame.hostMove,fun _ => hsame.forward⟩,hA _ _ hsame hw⟩

theorem ofFiles_true : OfFiles fun _ => True := fun _ _ _ _ => trivial

theorem stable_true (i : Nat) : commandRules.Stable i fun _ => True := fun _ _ _ _ _ => trivial

section host
variable {σ : Type} {s : σ} {w : World}

/-- The directories before the first `n` hold no copy of the command. -/
def MissingBefore (id : String) (n : Nat) (w : World) : Prop :=
  ∀ d : SpoolDir, d.rank < n → w.spool.has d id = false

theorem missingBefore_ofFiles (id : String) (n : Nat) : OfFiles (MissingBefore id n) := by
  intro w w' hsame hw d hd
  rw [hsame.spool]
  exact hw d hd

/-- A file does not go back behind the scan. -/
theorem missingBefore_stable (id : String) (n : Nat) :
    commandRules.Stable 0 (MissingBefore id n) := by
  intro w w' hrely _ hw d hd
  by_contra hhas
  obtain ⟨d',hd',hle⟩ := (hrely.1 rfl).origin d id (by simpa using hhas)
  have hnone := hw d' (by omega)
  rw [hnone] at hd'
  cases hd'

theorem missingBefore_all {id : String} (h : MissingBefore id 5 w) : w.spool.copies id = [] := by
  rw [Spool.copies_eq_nil]
  intro d
  exact h d (by cases d <;> decide)

/-- A scan that finds nothing has shown that there is no copy. -/
theorem findExisting_missing (id : String) (n : Nat) (hn : n ≤ 5) (hi : commandRules.inv w)
    (hw : MissingBefore id n w) :
    commandRules.Ok 0 (findExisting id (SpoolDir.all.drop n) : Proc Eff PyError σ _) s
      (fun r _ w => r = .ok none → MissingBefore id 5 w) w := by
  induction hk : 5 - n generalizing n s w with
  | zero =>
    have hfive : n = 5 := by omega
    subst hfive
    exact fun u hu hi _ => missingBefore_stable id 5 _ _ hu hi hw
  | succ k ih =>
    obtain ⟨x,rfl⟩ := SpoolDir.exists_rank (n := n) (by omega)
    rw [x.drop_rank]
    refine Rules.Ok.bind_ask (A := fun found w => MissingBefore id x.rank w ∧
      (found = false → w.spool.has x id = false)) (fun u hu hi => ?_) fun found w hi hw => ?_
    · have hstay := missingBefore_stable id x.rank _ _ hu hi hw
      refine ⟨trivial,fun c hc => ?_⟩
      have hsame : SameFiles u (exec (.isFile x id) c u).2 := ⟨rfl,rfl⟩
      exact ⟨hsame.safe hi,⟨hsame.livesOn,fun _ => hsame.hostMove,fun _ => hsame.forward⟩,
        hstay,fun hfound => hfound⟩
    · cases found with
      | true => exact Rules.Ok.pure fun u hu hi hr => by cases hr
      | false =>
        refine ih (x.rank + 1) (by omega) hi (fun d hd => ?_) (by omega)
        by_cases hx : d.rank = x.rank
        · rw [SpoolDir.rank_injective hx]
          exact hw.2 rfl
        · exact hw.1 d (by omega)

/-- The rename of a command without a copy publishes it. -/
theorem rename_lives {id : String} {raw : Raw} {expiresMs nowMs : Int} (hi : CommandsSafe w)
    (hnone : w.spool.copies id = [])
    (hraw : ∀ account command, Bridge.readCommandFrame account raw = .ok command →
      command.commandId = id) :
    CommandsSafe (w.rename id raw expiresMs nowMs) ∧ LivesOn w (w.rename id raw expiresMs nowMs) ∧
      HostMove w (w.rename id raw expiresMs nowMs) := by
  have hself : w.command id = .absent := (hi.lived id).absent_of_nil hnone
  have hcopies : (w.spool.put .inbox id raw).copies id = [.inbox] := Spool.copies_put hnone _ _
  have hlives : LivesOn w (w.rename id raw expiresMs nowMs) := by
    intro n
    by_cases hn : n = id
    · subst hn
      have hafter : (w.rename n raw expiresMs nowMs).command n = ⟨[.inbox],0⟩ := by
        have hcalls : w.callsOf n = 0 := congrArg CommandView.calls hself
        rw [World.command]
        exact congr (congrArg CommandView.mk hcopies) hcalls
      rw [hself,hafter]
      exact .single .publish
    · have hafter : (w.rename id raw expiresMs nowMs).command n = w.command n :=
        congrArg (fun copies => (⟨copies,w.callsOf n⟩ : CommandView)) (Spool.copies_put_other _ _ _ hn)
      rw [hafter]
  refine ⟨⟨?_,fun n => (hi.lives n).trans (hlives n)⟩,hlives,rfl,?_,?_⟩
  · intro d n raw' hlookup account command hread
    change (w.spool.put .inbox id raw).lookup d n = some raw' at hlookup
    rw [Spool.lookup_put] at hlookup
    split at hlookup
    · rename_i heq
      cases hlookup
      exact heq.2 ▸ hraw account command hread
    · exact hi.framed d n raw' hlookup account command hread
  · intro d n raw' hlookup
    change (w.spool.put .inbox id raw).lookup d n = some raw'
    rw [Spool.lookup_put,if_neg]
    · exact hlookup
    · rintro ⟨rfl,rfl⟩
      have hhas := Spool.copies_eq_nil.mp hnone .inbox
      simp [Spool.has,hlookup] at hhas
  · intro n hn
    refine Spool.copies_put_other _ _ _ ?_
    rintro rfl
    exact hn hnone

theorem exec_rename_lives {id : String} {raw : Raw} {expiresMs nowMs : Int} (hi : CommandsSafe w)
    (hnone : w.spool.copies id = [])
    (hraw : ∀ account command, Bridge.readCommandFrame account raw = .ok command →
      command.commandId = id) (c : Choice) :
    CommandsSafe (exec (.renameTemp id raw expiresMs nowMs) c w).2 ∧
      LivesOn w (exec (.renameTemp id raw expiresMs nowMs) c w).2 ∧
      HostMove w (exec (.renameTemp id raw expiresMs nowMs) c w).2 := by
  cases hf : c.fault with
  | some e =>
    simp only [exec,hf]
    exact ⟨hi,fun _ => .refl,.refl w⟩
  | none =>
    simp only [exec,hf]
    exact rename_lives hi hnone hraw

theorem publish_lives (command : QmtCommand) (hi : commandRules.inv w) :
    commandRules.Ok 0 (publish command : Proc Eff PyError σ _) s (fun _ _ _ => True) w := by
  have hstill : ∀ {β : Type} {o : Eff β}, o.still = true → commandRules.Keeps 0 (fun _ => True) o :=
    fun ho => still_keeps ho ofFiles_true 0
  refine Rules.Ok.bind_ofExcept (fun _ _ _ _ => trivial) fun raw hraw => ?_
  have hframe : ∀ account command', Bridge.readCommandFrame account raw = .ok command' →
      command'.commandId = command.commandId := fun _ _ hread => Bridge.readCommandFrame_id hraw hread
  refine Rules.Ok.bind_all (stable_true 0) (all_bind (all_ask (hstill rfl)) fun _ => all_pure _)
    hi trivial fun nowMs s w hi _ => ?_
  split
  · exact Rules.Ok.of_all (stable_true 0) (all_throw _) trivial
  · refine Rules.Ok.bind hi (Rules.Ok.mono (findExisting_missing command.commandId 0 (by omega) hi
      fun d hd => by omega) fun r s w hi hr => ?_)
    cases r with
    | error e => exact fun _ _ _ => trivial
    | ok existing =>
      cases existing with
      | some dir =>
        refine Rules.Ok.of_all (stable_true 0) (all_bind (all_call (hstill rfl)) fun content => ?_) trivial
        split
        · exact all_pure _
        · exact all_throw _
      | none =>
        refine Rules.Ok.bind_keeps (missingBefore_stable command.commandId 5)
          (all_call (still_keeps rfl (missingBefore_ofFiles _ _) 0)) hi (hr rfl)
          (fun _ _ _ _ _ => trivial) fun _ s w hi hw => ?_
        refine Rules.Ok.call (Q := fun _ _ => True) (fun _ => stable_true 0) fun u hu hi => ?_
        have hnone := missingBefore_all (missingBefore_stable _ _ _ _ hu hi hw)
        refine ⟨trivial,fun c _ => ?_⟩
        obtain ⟨hsafe,hlives,hmove⟩ := exec_rename_lives hi hnone hframe c
        exact ⟨hsafe,⟨hlives,fun _ => hmove,fun h => absurd rfl h⟩,trivial⟩

/-- The pieces of the runtime leave the files alone. -/
theorem host_closed : RuntimeClosed (fun x => ∀ s w, commandRules.inv w → True →
    commandRules.Ok 0 x s (fun _ _ _ => True) w) := by
  have hkeeps : ∀ {α : Type} {x : Runtime α}, x.All (commandRules.Keeps 0 fun _ => True) →
      ∀ s w, commandRules.inv w → True → commandRules.Ok 0 x s (fun _ _ _ => True) w :=
    fun hx _ _ _ _ => Rules.Ok.of_all (stable_true 0) hx trivial
  have hstill : ∀ {β : Type} {o : Eff β}, o.still = true → commandRules.Keeps 0 (fun _ => True) o :=
    fun ho => still_keeps ho ofFiles_true 0
  have hhosted : ∀ {β : Type} (o : Eff β), o.hosted → o.advances = none → o.reserves = false →
      commandRules.Keeps 0 (fun _ => True) o := fun _ ho _ _ => hstill (Eff.still_of_hosted ho)
  exact {
    toClosed := Rules.Ok.closed (stable_true 0)
    ask := fun h => hkeeps (all_ask (hstill (Eff.still_of_plain h)))
    call := fun h => hkeeps (all_call (hstill (Eff.still_of_plain h)))
    durable := fun _ _ => hkeeps (all_bind all_self fun _ => all_call (hstill rfl))
    maintain := hkeeps (Runtime.maintain_all hhosted)
    close := hkeeps (Runtime.close_all hhosted)
    mapper := fun _ => hkeeps (all_update _) }

end host

theorem runtime_lives (inst : QmtInstance) (ops : List Runtime.Op) {w : World}
    (hi : commandRules.inv w) :
    commandRules.Wp 0 (fun _ _ => True) (Runtime.process inst ops) w := by
  have hconstruct : (Runtime.construct inst ()).All (commandRules.Keeps 0 fun _ => True) :=
    Runtime.construct_all (fun _ ho _ _ => still_keeps (Eff.still_of_hosted ho) ofFiles_true 0) inst ()
  refine Rules.Wp.bind hi (Rules.Wp.mono (Rules.Wp.of_all (stable_true 0) hconstruct trivial)
    fun r w hi _ => ?_)
  rcases r with ⟨e | s,u⟩
  · exact fun _ _ _ => trivial
  · exact Rules.Wp.bind hi (Rules.Wp.mono (Runtime.serve_holds host_closed
      (fun command _ _ hi _ => publish_lives command hi) ops s w hi trivial) fun _ _ _ _ _ _ _ => trivial)

theorem publishAll_lives (commands : List QmtCommand) {w : World} (hi : commandRules.inv w) :
    commandRules.Wp 0 (fun _ _ => True) (publishAll commands) w :=
  Rules.Wp.bind hi (Rules.Wp.mono (Rules.Ok.each (stable_true 0) (fun command _ _ _ hi _ =>
    Rules.Ok.tryCatch_all (stable_true 0) hi (publish_lives command hi) fun _ _ _ _ _ =>
      Rules.Ok.of_all (stable_true 0) (all_pure _) trivial) hi trivial) fun _ _ _ _ _ _ _ => trivial)

end BigQmt
