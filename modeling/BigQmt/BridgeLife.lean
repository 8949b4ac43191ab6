import BigQmt.CommandRules
set_option autoImplicit false

/-!
The Bridge on the command spool, ticking, crashing and restarting beside one Host: every
command is executed at most once, and a claim that its Bridge left behind never again.
-/

namespace BigQmt

open Resumption Proc Relation

/-- The commands that no Bridge holds: where they are, and the calls made for them. -/
def Halted (frozen : String → Option Nat) (w : World) : Prop :=
  ∀ id n, frozen id = some n → w.command id = ⟨[.claimed],n⟩ ∨ w.command id = ⟨[.unknown],n⟩

def bridgeRules (frozen : String → Option Nat) : Rules Eff Choice World :=
  commandRules.also (Halted frozen)

/-- The Bridge has claimed the command and not yet executed it. -/
def ClaimHeld (name : String) (w : World) : Prop := w.command name = ⟨[.claimed],0⟩

theorem HostMove.command {w w' : World} (h : HostMove w w') {id : String}
    (hne : w.spool.copies id ≠ []) : w'.command id = w.command id := by
  simp only [World.command,World.callsOf,h.copies id hne,h.calls]

theorem HostMove.halted {w w' : World} {frozen : String → Option Nat} (h : HostMove w w')
    (hw : Halted frozen w) : Halted frozen w' := by
  intro id n hfrozen
  have hview := hw id n hfrozen
  have hne : w.spool.copies id ≠ [] := by
    have hcopies : (w.command id).copies ≠ [] := by rcases hview with hv | hv <;> simp [hv]
    exact hcopies
  rw [h.command hne]
  exact hview

theorem halted_ofFiles (frozen : String → Option Nat) : OfFiles (Halted frozen) := by
  intro w w' hsame hw id n hfrozen
  rw [hsame.command]
  exact hw id n hfrozen

theorem held_ofFiles (name : String) : OfFiles (ClaimHeld name) := by
  intro w w' hsame hw
  rw [ClaimHeld,hsame.command]
  exact hw

theorem OfFiles.and {A B : World → Prop} (hA : OfFiles A) (hB : OfFiles B) :
    OfFiles fun w => A w ∧ B w := fun w w' hsame h => ⟨hA w w' hsame h.1,hB w w' hsame h.2⟩

section
variable {frozen : String → Option Nat} {name : String} {w : World}

theorem held_stable : (bridgeRules frozen).Stable 1 (ClaimHeld name) := by
  intro w w' hrely _ hw
  have hne : w.spool.copies name ≠ [] := by
    have hcopies : (w.command name).copies = [.claimed] := congrArg CommandView.copies hw
    intro hnil
    rw [World.command,hnil] at hcopies
    cases hcopies
  rw [ClaimHeld,(hrely.2 rfl).command hne]
  exact hw

theorem bridge_stable_true : (bridgeRules frozen).Stable 1 fun _ => True :=
  fun _ _ _ _ _ => trivial

theorem bridge_still {β : Type} {o : Eff β} (ho : o.still = true) {A : World → Prop}
    (hA : OfFiles A) : (bridgeRules frozen).Keeps 1 A o :=
  Rules.Keeps.also (still_keeps ho (hA.and (halted_ofFiles frozen)) 1)

/-- A view of the world after a file of a command was taken on. -/
theorem command_move {source target : SpoolDir} {spool : Spool}
    (h : w.spool.move source target name = some spool) (hne : source ≠ target)
    (hone : w.spool.copies name = [source]) (id : String) :
    World.command { w with spool := spool } id =
      if id = name then ⟨[target],w.callsOf name⟩ else w.command id := by
  split
  · rename_i heq
    subst heq
    exact congrArg (fun copies => (⟨copies,w.callsOf id⟩ : CommandView)) (Spool.copies_move h hne hone)
  · rename_i hother
    exact congrArg (fun copies => (⟨copies,w.callsOf id⟩ : CommandView))
      (Spool.copies_move_other h hne hother)

theorem framed_move {source target : SpoolDir} {spool : Spool} (hf : Framed w.spool)
    (h : w.spool.move source target name = some spool) (hne : source ≠ target) : Framed spool := by
  intro d n raw hlookup
  rw [Spool.lookup_move h hne] at hlookup
  split at hlookup
  · rename_i heq
    subst heq
    split at hlookup
    · exact hf source n raw hlookup
    · split at hlookup
      · cases hlookup
      · exact hf d n raw hlookup
  · exact hf d n raw hlookup

/-- A move that takes the command a step further in its life. -/
theorem move_lives {source target : SpoolDir} {spool : Spool} (hi : (bridgeRules frozen).inv w)
    (h : w.spool.move source target name = some spool) (hlt : source.rank < target.rank)
    (hlife : ∀ n, w.command name = ⟨[source],n⟩ → Life ⟨[source],n⟩ ⟨[target],n⟩)
    (hfrozen : ∀ n, frozen name = some n → target = .unknown) :
    (bridgeRules frozen).inv { w with spool := spool } ∧
      (bridgeRules frozen).guar 1 w { w with spool := spool } ∧
      World.command { w with spool := spool } name = ⟨[target],w.callsOf name⟩ := by
  obtain ⟨hsafe,hhalt⟩ := hi
  have hne : source ≠ target := by
    intro heq
    rw [heq] at hlt
    omega
  have hone : w.spool.copies name = [source] :=
    (hsafe.lived name).copies_eq (Spool.source_of_move h)
  have hview : w.command name = ⟨[source],w.callsOf name⟩ := by rw [World.command,hone]
  have hafter := command_move h hne hone
  have hlives : LivesOn w { w with spool := spool } := by
    intro id
    rw [hafter]
    split
    · rename_i heq
      subst heq
      rw [hview]
      exact .single (hlife _ hview)
    · exact .refl
  refine ⟨⟨⟨framed_move hsafe.framed h hne,fun id => (hsafe.lives id).trans (hlives id)⟩,?_⟩,
    ⟨hlives,fun hi => absurd rfl hi,fun _ => .move h hlt⟩,by rw [hafter,if_pos rfl]⟩
  intro id n hid
  rw [hafter]
  split
  · rename_i heq
    subst heq
    have hcalls : w.callsOf id = n := by
      rcases hhalt id n hid with hv | hv
      · exact congrArg CommandView.calls hv
      · exact congrArg CommandView.calls hv
    exact .inr (by rw [hfrozen n hid,hcalls])
  · exact hhalt id n hid

/-- A move out of `claimed`; of a command that no Bridge holds only into `unknown`. -/
theorem settle_keeps {target : SpoolDir} (hlt : SpoolDir.claimed.rank < target.rank)
    (hfrozen : ∀ n, frozen name = some n → target = .unknown) :
    (bridgeRules frozen).Keeps 1 (fun _ => True) (.move .claimed target name) := by
  intro w hi _
  refine ⟨trivial,fun c _ => ?_⟩
  have hstay : (bridgeRules frozen).inv w ∧ (bridgeRules frozen).guar 1 w w ∧ True :=
    ⟨hi,⟨fun _ => .refl,fun _ => .refl w,fun _ => .refl w.spool⟩,trivial⟩
  change (bridgeRules frozen).inv (exec (.move .claimed target name) c w).2 ∧
    (bridgeRules frozen).guar 1 w (exec (.move .claimed target name) c w).2 ∧ True
  cases hf : c.fault with
  | some e =>
    simp only [exec,hf]
    exact hstay
  | none =>
    cases hm : w.spool.move .claimed target name with
    | none =>
      simp only [exec,hf,hm]
      exact hstay
    | some spool =>
      simp only [exec,hf,hm]
      obtain ⟨hinv,hguar,-⟩ := move_lives hi hm hlt (fun n _ => .settle n target hlt) hfrozen
      exact ⟨hinv,hguar,trivial⟩

/-- The claim succeeds for a command in the inbox only, which no earlier Bridge held. -/
theorem claim_after {u : World} (hi : (bridgeRules frozen).inv u) :
    (bridgeRules frozen).After 1 (.move .inbox .claimed name)
      (fun r w => r = .ok () → ClaimHeld name w ∧ frozen name = none) u := by
  refine ⟨trivial,fun c _ => ?_⟩
  change (bridgeRules frozen).inv (exec (.move .inbox .claimed name) c u).2 ∧
    (bridgeRules frozen).guar 1 u (exec (.move .inbox .claimed name) c u).2 ∧
    ((exec (.move .inbox .claimed name) c u).1 = .ok () →
      ClaimHeld name (exec (.move .inbox .claimed name) c u).2 ∧ frozen name = none)
  have hstay : (bridgeRules frozen).inv u ∧ (bridgeRules frozen).guar 1 u u :=
    ⟨hi,fun _ => .refl,fun _ => .refl u,fun _ => .refl u.spool⟩
  cases hf : c.fault with
  | some e =>
    simp only [exec,hf]
    exact ⟨hstay.1,hstay.2,fun h => by cases h⟩
  | none =>
    cases hm : u.spool.move .inbox .claimed name with
    | none =>
      simp only [exec,hf,hm]
      exact ⟨hstay.1,hstay.2,fun h => by cases h⟩
    | some spool =>
      simp only [exec,hf,hm]
      have hfresh : u.command name = ⟨[.inbox],0⟩ :=
        (hi.1.lived name).uncalled_of_copies (Spool.source_of_move hm) rfl
      have hzero : u.callsOf name = 0 := congrArg CommandView.calls hfresh
      have hfree : frozen name = none := by
        cases hfrozen : frozen name with
        | none => rfl
        | some n =>
          have hview := hi.2 name n hfrozen
          rw [hfresh] at hview
          rcases hview with hv | hv <;> cases hv
      obtain ⟨hinv,hguar,hview⟩ := move_lives hi hm (by decide)
        (fun n hn => by
          rw [hfresh] at hn
          cases hn
          exact .claim)
        (fun n hn => by
          rw [hfree] at hn
          cases hn)
      rw [hzero] at hview
      exact ⟨hinv,hguar,fun _ => ⟨hview,hfree⟩⟩

/-- The call for a command that was claimed and not yet executed. -/
theorem broker_after {u : World} (hi : (bridgeRules frozen).inv u) (hheld : ClaimHeld name u)
    (hfree : frozen name = none) {call : BrokerCall} (hid : call.commandId = name) :
    (bridgeRules frozen).After 1 (.broker call) (fun _ _ => True) u := by
  refine ⟨trivial,fun c _ => ?_⟩
  have hcalls : ∀ id, (exec (.broker call) c u).2.callsOf id =
      u.callsOf id + if id = name then 1 else 0 := by
    intro id
    simp only [World.callsOf,exec,List.countP_append,List.countP_singleton,hid]
    by_cases hn : id = name
    · simp [hn]
    · simp [hn,Ne.symm hn]
  have hview : ∀ id, (exec (.broker call) c u).2.command id =
      if id = name then ⟨[.claimed],1⟩ else u.command id := by
    intro id
    rw [World.command,hcalls]
    split
    · rename_i heq
      subst heq
      have hzero : u.callsOf id = 0 := congrArg CommandView.calls hheld
      have hcopies : u.spool.copies id = [.claimed] := congrArg CommandView.copies hheld
      rw [hzero]
      exact congrArg (fun copies => (⟨copies,0 + 1⟩ : CommandView)) hcopies
    · rfl
  have hlives : LivesOn u (exec (.broker call) c u).2 := by
    intro id
    rw [hview]
    split
    · rename_i heq
      rw [heq,hheld]
      exact .single .execute
    · exact .refl
  refine ⟨⟨⟨hi.1.framed,fun id => (hi.1.lives id).trans (hlives id)⟩,fun id n hfrozen => ?_⟩,
    ⟨hlives,fun h => absurd rfl h,fun _ => .refl u.spool⟩,trivial⟩
  change (exec (.broker call) c u).2.command id = _ ∨ (exec (.broker call) c u).2.command id = _
  have hne : id ≠ name := by
    rintro rfl
    rw [hfree] at hfrozen
    cases hfrozen
  rw [hview,if_neg hne]
  exact hi.2 id n hfrozen

end

namespace Bridge

section pieces
variable {P : {β : Type} → Eff β → Prop} (hidle : ∀ {β : Type} (o : Eff β), o.idle = true → P o)
include hidle

theorem readClaimed_idle (name : String) : (readClaimed name).All P :=
  all_bind all_self fun _ => all_bind (all_call (hidle _ rfl)) fun _ => all_ofExcept _

theorem cancelTarget_idle (command : Command) : (cancelTarget command).All P := by
  refine all_bind (all_call (hidle _ rfl)) fun rows => ?_
  cases rows with
  | none => exact all_throw _
  | some rows =>
    dsimp only
    split
    · exact all_throw _
    · exact all_pure _

theorem abandon_moves (name : String) (hmove : P (.move .claimed .unknown name)) :
    (abandon name).All P := by
  refine all_bind (all_ask (hidle _ rfl)) fun present => ?_
  split
  · exact all_bind (attempt_all (all_call hmove)) fun _ => all_pure _
  · exact all_pure _

theorem recoverOrphan_moves (name : String) (hmove : P (.move .claimed .unknown name)) :
    (recoverOrphan name).All P := by
  refine all_tryCatch (all_bind (readClaimed_idle hidle name) fun command =>
    all_bind (all_call hmove) fun _ => ?_) fun _ => abandon_moves hidle name hmove
  split
  · exact all_call (hidle _ rfl)
  · exact all_call (hidle _ rfl)

theorem recoverOrphanedClaims_moves (hmove : ∀ name, P (.move .claimed .unknown name)) :
    recoverOrphanedClaims.All P := by
  refine all_bind all_self fun s => ?_
  split
  · exact all_pure _
  · refine all_bind (all_update _) fun _ =>
      all_bind (attempt_all (all_call (hidle _ rfl))) fun names => ?_
    cases names with
    | error e => exact all_pure _
    | ok names => exact all_each (fun name => recoverOrphan_moves hidle name (hmove name)) names

variable {name : String}
variable (hmove : ∀ target, SpoolDir.claimed.rank < target.rank → P (.move .claimed target name))
include hmove

theorem finish_moves (command : Command) {target : SpoolDir} (status : String) (live : Bool)
    (ht : SpoolDir.claimed.rank < target.rank) : (finish command name target status live).All P :=
  all_bind (all_call (hmove _ ht)) fun _ => all_call (hidle _ rfl)

theorem rejectClaimed_moves : (rejectClaimed name).All P := by
  refine all_bind (all_ask (hidle _ rfl)) fun present => ?_
  split
  · exact all_call (hmove _ (by decide))
  · exact all_pure _

theorem processSnapshotRequest_moves (command : Command) :
    (processSnapshotRequest command name).All P := by
  refine all_bind (attempt_all (all_call (hidle _ rfl))) fun outcome => ?_
  cases outcome with
  | error e => exact all_call (hmove _ (by decide))
  | ok u => exact finish_moves hidle hmove _ _ _ (by decide)

end pieces

section
variable {frozen : String → Option Nat} {name : String} {s : BridgeState} {w : World}

theorem bridge_ok {α : Type} {x : Bridge α} (hx : x.All ((bridgeRules frozen).Keeps 1 fun _ => True)) :
    (bridgeRules frozen).Ok 1 x s (fun _ _ _ => True) w :=
  Rules.Ok.of_all bridge_stable_true hx trivial

theorem pieces_idle {β : Type} (o : Eff β) (ho : o.idle = true) :
    (bridgeRules frozen).Keeps 1 (fun _ => True) o := bridge_still (Eff.still_of_idle ho) ofFiles_true

/-- The moves of a command that no earlier Bridge held. -/
theorem free_moves (hfree : frozen name = none) (target : SpoolDir)
    (ht : SpoolDir.claimed.rank < target.rank) :
    (bridgeRules frozen).Keeps 1 (fun _ => True) (.move .claimed target name) :=
  settle_keeps ht fun n hn => by
    rw [hfree] at hn
    cases hn

theorem abandoned_moves (name : String) :
    (bridgeRules frozen).Keeps 1 (fun _ => True) (.move .claimed .unknown name) :=
  settle_keeps (by decide) fun _ _ => rfl

/-- A method that leaves the files alone, before one that starts with the claim held. -/
theorem bind_held {α β : Type} {x : Bridge α} {f : α → Bridge β}
    (hx : x.All ((bridgeRules frozen).Keeps 1 (ClaimHeld name))) (hi : (bridgeRules frozen).inv w)
    (hw : ClaimHeld name w) (hf : ∀ a s w, (bridgeRules frozen).inv w → ClaimHeld name w →
      (bridgeRules frozen).Ok 1 (f a) s (fun _ _ _ => True) w) :
    (bridgeRules frozen).Ok 1 (x >>= f) s (fun _ _ _ => True) w :=
  Rules.Ok.bind_keeps held_stable hx hi hw (fun _ _ _ _ _ => trivial) hf

theorem held_idle {β : Type} (o : Eff β) (ho : o.idle = true) :
    (bridgeRules frozen).Keeps 1 (ClaimHeld name) o :=
  bridge_still (Eff.still_of_idle ho) (held_ofFiles name)

/-- The call itself, and then nothing but counting. -/
theorem broker_ok {β : Type} {call : BrokerCall} {f : Bool → Bridge β} (hid : call.commandId = name)
    (hfree : frozen name = none) (hw : ClaimHeld name w)
    (hf : ∀ sent, (f sent).All ((bridgeRules frozen).Keeps 1 fun _ => True)) :
    (bridgeRules frozen).Ok 1 (Proc.call (.broker call) >>= f) s (fun _ _ _ => True) w := by
  refine Rules.Ok.bind_call (A := fun _ _ => True) (fun u hu hi => ?_)
    (fun _ _ _ _ _ _ _ => trivial) fun sent _ _ _ => bridge_ok (hf sent)
  exact broker_after hi (held_stable _ _ hu hi hw) hfree hid

variable {command : Command} (hid : command.commandId = name) (hfree : frozen name = none)
include hid hfree

theorem executeSubmit_lives (checkedMs : Int) (hi : (bridgeRules frozen).inv w)
    (hw : ClaimHeld name w) :
    (bridgeRules frozen).Ok 1 (executeSubmit command checkedMs) s (fun _ _ _ => True) w := by
  refine bind_held all_self hi hw fun s' s w hi hw => ?_
  dsimp only
  split
  · exact bridge_ok (all_throw _)
  · split
    · exact bridge_ok (all_throw _)
    · split
      · exact bridge_ok (all_throw _)
      · split
        · exact bridge_ok (all_throw _)
        · split
          · exact bridge_ok (all_throw _)
          · split
            · exact bridge_ok (all_throw _)
            · exact broker_ok hid hfree hw fun _ => all_bind (all_update _) fun _ => all_pure _

theorem executeCancel_lives (checkedMs : Int) (hi : (bridgeRules frozen).inv w)
    (hw : ClaimHeld name w) :
    (bridgeRules frozen).Ok 1 (executeCancel command checkedMs) s (fun _ _ _ => True) w := by
  refine bind_held all_self hi hw fun s' s w hi hw => ?_
  split
  · exact bridge_ok (all_throw _)
  · refine bind_held (cancelTarget_idle held_idle command) hi hw fun brokerOrderId s w hi hw =>
      bind_held (all_call (held_idle _ rfl)) hi hw fun cancellable s w hi hw => ?_
    split
    · exact bridge_ok (all_pure _)
    · exact broker_ok hid hfree hw fun _ => all_bind (all_update _) fun _ => all_pure _

theorem executeOrderCommand_lives (checkedMs : Int) (hi : (bridgeRules frozen).inv w)
    (hw : ClaimHeld name w) :
    (bridgeRules frozen).Ok 1 (executeOrderCommand command checkedMs) s (fun _ _ _ => True) w := by
  refine bind_held all_self hi hw fun s' s w hi hw => ?_
  split
  · exact bridge_ok (all_throw _)
  · split
    · exact bridge_ok (all_throw _)
    · split
      · exact executeSubmit_lives hid hfree checkedMs hi hw
      · exact executeCancel_lives hid hfree checkedMs hi hw
      · exact bridge_ok (all_throw _)

theorem processOrderCommand_lives (checkedMs : Int) (hi : (bridgeRules frozen).inv w)
    (hw : ClaimHeld name w) : (bridgeRules frozen).Ok 1 (processOrderCommand command name checkedMs) s
      (fun _ _ _ => True) w := by
  have hattempt : (bridgeRules frozen).Ok 1 (attempt (executeOrderCommand command checkedMs)) s
      (fun _ _ _ => True) w :=
    Rules.Ok.tryCatch_all bridge_stable_true hi (Rules.Ok.seq bridge_stable_true hi
      (executeOrderCommand_lives hid hfree checkedMs hi hw) fun _ _ _ _ _ => bridge_ok (all_pure _))
      fun _ _ _ _ _ => bridge_ok (all_pure _)
  refine Rules.Ok.seq bridge_stable_true hi hattempt fun outcome s w hi _ => ?_
  have hfinish := fun (target : SpoolDir) (status : String) (live : Bool)
    (ht : SpoolDir.claimed.rank < target.rank) =>
    bridge_ok (s := s) (w := w)
      (finish_moves pieces_idle (free_moves hfree) command status live ht)
  cases outcome with
  | ok result => exact hfinish _ _ _ (by decide)
  | error e =>
    dsimp only
    split
    · exact hfinish _ _ _ (by decide)
    · exact hfinish _ _ _ (by decide)

end

section
variable {frozen : String → Option Nat} {name : String} {s : BridgeState} {w : World}

/-- What a method is known to return or raise is known of its outcome. -/
theorem attempt_ok {R : Rules Eff Choice World} {i : Nat} {α : Type} {x : Bridge α}
    {Q : Except PyError α → BridgeState → World → Prop} (hQ : ∀ r s, R.Stable i (Q r s))
    (hi : R.inv w) (h : R.Ok i x s Q w) :
    R.Ok i (attempt x) s (fun r s w => ∃ r', r = .ok r' ∧ Q r' s w) w := by
  refine Rules.Ok.tryCatch hi (Rules.Ok.bind hi (Rules.Ok.mono h fun r s w hi hr => ?_))
  cases r with
  | ok a => exact fun u hu hi v hv hi' => ⟨_,rfl,hQ _ _ _ _ hv hi' (hQ _ _ _ _ hu hi hr)⟩
  | error e =>
    exact fun u hu hi v hv hi' => ⟨_,rfl,hQ _ _ _ _ hv hi' (hQ _ _ _ _ hu hi hr)⟩

/-- A command that is read from a claimed file is the one the file is named after. -/
def ReadOf (name : String) (r : Except PyError Command) (w : World) : Prop :=
  ClaimHeld name w ∧ ∀ command, r = .ok command → command.commandId = name

theorem readOf_stable (r : Except PyError Command) :
    (bridgeRules frozen).Stable 1 (ReadOf name r) := fun _ _ hrely hi h =>
  ⟨held_stable _ _ hrely hi h.1,h.2⟩

theorem readClaimed_ok (hi : (bridgeRules frozen).inv w) (hw : ClaimHeld name w) :
    (bridgeRules frozen).Ok 1 (readClaimed name) s (fun r _ w => ReadOf name r w) w := by
  refine Rules.Ok.bind_keeps held_stable all_self hi hw (fun _ _ _ _ hw => ⟨hw,by simp⟩)
    fun s' s w hi hw => ?_
  refine Rules.Ok.bind_call (A := fun r w => ClaimHeld name w ∧ ∀ raw, r = .ok raw →
    ∀ account command, readCommandFrame account raw = .ok command → command.commandId = name)
    (fun u hu hi => ?_) (fun _ _ _ hA u hu hi => ⟨held_stable _ _ hu hi hA.1,by simp⟩)
    fun raw w hi hA => ?_
  · have hheld := held_stable _ _ hu hi hw
    have hread : (bridgeRules frozen).Keeps 1 (ClaimHeld name) (.readFile .claimed name) :=
      held_idle _ rfl
    obtain ⟨hneed,hkeeps⟩ := hread u hi hheld
    refine ⟨hneed,fun c hc => ?_⟩
    obtain ⟨hinv,hguar,hafter⟩ := hkeeps c hc
    refine ⟨hinv,hguar,hafter,fun raw hraw => ?_⟩
    change (exec (.readFile .claimed name) c u).1 = .ok raw at hraw
    cases hlookup : u.spool.lookup .claimed name with
    | none => simp [exec,hlookup] at hraw
    | some content =>
      have hcontent : content = raw := by
        simp only [exec,hlookup,answer] at hraw
        split at hraw
        · exact Except.ok.inj hraw
        · cases hraw
      exact hi.1.framed .claimed name raw (hcontent ▸ hlookup)
  · cases hread : readCommandFrame s'.accountFingerprint raw with
    | error e => exact fun u hu hi => ⟨held_stable _ _ hu hi hA.1,by simp⟩
    | ok command =>
      refine Rules.Ok.pure fun u hu hi => ⟨held_stable _ _ hu hi hA.1,fun command' heq => ?_⟩
      cases heq
      exact hA.2 raw rfl _ _ hread

theorem processClaimed_lives (hfree : frozen name = none) (hi : (bridgeRules frozen).inv w)
    (hw : ClaimHeld name w) :
    (bridgeRules frozen).Ok 1 (processClaimed name) s (fun _ _ _ => True) w := by
  refine Rules.Ok.bind hi (Rules.Ok.mono (attempt_ok (fun r _ => readOf_stable r) hi (readClaimed_ok hi hw))
    fun r s w hi hr => ?_)
  obtain ⟨decoded,rfl,hheld,hid⟩ := hr
  cases decoded with
  | error e => exact bridge_ok (rejectClaimed_moves pieces_idle (free_moves hfree))
  | ok command =>
    refine bind_held (all_bind (all_ask (held_idle _ rfl)) fun _ => all_pure _) hi hheld
      fun nowMs s w hi hw => ?_
    split
    · exact bridge_ok (finish_moves pieces_idle (free_moves hfree) _ _ _ (by decide))
    · split
      · exact bridge_ok (processSnapshotRequest_moves pieces_idle (free_moves hfree) _)
      · exact processOrderCommand_lives (hid command rfl) hfree nowMs hi hw

theorem claim_lives (hi : (bridgeRules frozen).inv w) :
    (bridgeRules frozen).Ok 1 (claim name) s (fun _ _ _ => True) w := by
  refine Rules.Ok.tryCatch_all bridge_stable_true hi ?_
    fun e s w hi _ => bridge_ok (abandon_moves pieces_idle name (abandoned_moves name))
  refine Rules.Ok.bind_all bridge_stable_true (all_ask (pieces_idle _ rfl)) hi trivial
    fun taken s w hi _ => ?_
  split
  · exact bridge_ok (all_pure _)
  · refine Rules.Ok.bind_call (A := fun r w => r = .ok () → ClaimHeld name w ∧ frozen name = none)
      (fun u hu hi => claim_after hi) (fun _ _ _ _ _ _ _ => trivial) fun _ w hi hA => ?_
    obtain ⟨hheld,hfree⟩ := hA rfl
    exact processClaimed_lives hfree hi hheld

theorem drainCommandInbox_lives (hi : (bridgeRules frozen).inv w) :
    (bridgeRules frozen).Ok 1 drainCommandInbox s (fun _ _ _ => True) w := by
  refine Rules.Ok.bind_all bridge_stable_true
    (recoverOrphanedClaims_moves pieces_idle abandoned_moves) hi trivial fun _ s w hi _ =>
    Rules.Ok.bind_all bridge_stable_true (attempt_all (all_call (pieces_idle _ rfl))) hi trivial
      fun names s w hi _ => ?_
  cases names with
  | error e => exact bridge_ok (all_pure _)
  | ok names =>
    exact Rules.Ok.each bridge_stable_true (fun _ _ _ _ hi _ => claim_lives hi) hi trivial

theorem process_lives (account : Account) (ticks : Nat) :
    (bridgeRules frozen).Wp 1 (fun _ _ => True) (process account ticks) w := by
  intro u hu hi
  refine ⟨trivial,fun c hc => ?_⟩
  have hload : (bridgeRules frozen).Keeps 1 (fun _ => True) .uuid4 := pieces_idle _ rfl
  obtain ⟨-,hkeeps⟩ := hload u hi trivial
  obtain ⟨hinv,hguar,-⟩ := hkeeps c hc
  refine ⟨hinv,hguar,?_⟩
  split
  · exact Rules.Wp.bind hinv (Rules.Wp.mono (Rules.Ok.each bridge_stable_true
      (fun _ _ _ _ hi _ => drainCommandInbox_lives hi) hinv trivial) fun _ _ _ _ _ _ _ => trivial)
  · exact fun _ _ _ => trivial

end
end Bridge

/-- One Host and one Bridge: the Host is a runtime or publishes commands by itself. -/
def oneHost (pid : Nat) : Start → Bool
  | .publisher _ | .runtime _ _ => pid = 0
  | .bridge _ _ => pid = 1
  | .oms _ _ => false

theorem oneHost_boot {pid : Nat} {start : Start} (h : oneHost pid start = true) {w : World}
    (hi : commandRules.inv w) : commandRules.Wp pid (fun _ _ => True) start.boot w := by
  cases start with
  | oms secs ops => simp [oneHost] at h
  | runtime inst ops =>
    obtain rfl : pid = 0 := by simpa [oneHost] using h
    exact runtime_lives inst ops hi
  | publisher commands =>
    obtain rfl : pid = 0 := by simpa [oneHost] using h
    exact publishAll_lives commands hi
  | bridge account ticks =>
    obtain rfl : pid = 1 := by simpa [oneHost] using h
    have hnone : ∀ w, Halted (fun _ => none) w := fun w id n hn => by cases hn
    exact (Bridge.process_lives account ticks (w := w)).of_also hnone

/-- The same, where no Bridge holds the commands that were left behind. -/
theorem oneHost_boot_halted {frozen : String → Option Nat} {pid : Nat} {start : Start}
    (h : oneHost pid start = true) {w : World} (hi : (bridgeRules frozen).inv w) :
    (bridgeRules frozen).Wp pid (fun _ _ => True) start.boot w := by
  by_cases hpid : pid = 1
  · cases start with
    | bridge account ticks =>
      subst hpid
      exact Bridge.process_lives account ticks
    | _ => simp [oneHost,hpid] at h
  · exact (oneHost_boot h hi.1).also fun w w' hguar hw => (hguar.2.1 hpid).halted hw

section runs
variable {before after : List (Move Choice Start)} {s t : Sys Eff World}

theorem oneHost_meets (h : (system oneHost).run (Machine.boots World.initial) before = some s) :
    commandRules.Meets s :=
  Machine.Reach.rules commandRules (fun _ _ _ => rfl) commandRules_compat
    (fun _ _ hallowed _ hi => oneHost_boot hallowed hi) (w := World.initial) .initial
    ((Machine.Reach.of_run _ h).mono _ fun _ _ _ h => h)

/-- In every run of one Host and one Bridge, crashing and restarting at any step, every
command goes through its life from anywhere to anywhere later: it is published when it is
nowhere, claimed from the inbox, executed at most once and while it is claimed only, and
nothing happens to it after its end. -/
theorem commands_live_once
    (hs : (system oneHost).run (Machine.boots World.initial) before = some s)
    (ht : (system oneHost).run s after = some t) (id : String) :
    ReflTransGen Life .absent (s.world.command id) ∧
      ReflTransGen Life (s.world.command id) (t.world.command id) ∧
      (t.world.command id).calls ≤ 1 := by
  have hmeets := oneHost_meets hs
  have hlives : LivesOn s.world t.world :=
    Machine.Reach.guaranteed commandRules (fun _ _ _ => rfl) commandRules_compat
      (fun _ _ hallowed _ hi => oneHost_boot hallowed hi) (fun _ _ => .refl)
      (fun _ _ _ h₁ h₂ id => (h₁ id).trans (h₂ id)) (fun _ _ _ hguar => hguar.1) hmeets
      ((Machine.Reach.of_run _ ht).mono _ fun _ _ _ h => h)
  have hend := (hmeets.inv.lives id).trans (hlives id)
  exact ⟨hmeets.inv.lives id,hlives id,(lived_of_reach hend .absent).once⟩

/-- A submit that the Host publishes, and what one Bridge process then does with it. -/
def waitingOrder : QmtCommand :=
  ⟨"cmd-1",1,2,Bridge.authorizedAccountFingerprint,.submitLimit,some "order-1",
    some (tokenText Bridge.authorizedAccountFingerprint "order-1"),
    Runtime.submitPayload "qmt-1" sampleIntent⟩

def publishedOnce : List (Move Choice Start) :=
  .start 0 (.publisher [waitingOrder]) :: List.replicate 9 (.step 0 {})

def bridgeTurn (steps : Nat) : List (Move Choice Start) :=
  .start 1 (.bridge ⟨Bridge.authorizedAccountFingerprint,"STOCK"⟩ 1) ::
    .step 1 { uuid := "qmt-1" } :: List.replicate steps (.step 1 {})

theorem bridgeTurn_nine :
    bridgeTurn 9 = bridgeTurn 7 ++ List.replicate 2 (.step 1 { }) := rfl

/-- From the broker call on: the Bridge settles the command, or it dies and the next Bridge
finds the command claimed. -/
theorem submit_taken_up : ∃ s m t u v,
    (system oneHost).run (Machine.boots World.initial) publishedOnce = some s ∧
      s.world.command "cmd-1" = ⟨[.inbox],0⟩ ∧ (system oneHost).run s (bridgeTurn 7) = some m ∧
      (system oneHost).run m (List.replicate 2 (.step 1 { })) = some t ∧
      t.world.command "cmd-1" = ⟨[.processed],1⟩ ∧ (system oneHost).run m [.crash 1] = some u ∧
      u.world.command "cmd-1" = ⟨[.claimed],1⟩ ∧ u.threads 1 = none ∧
      (system oneHost).run u (bridgeTurn 6) = some v ∧
      v.world.command "cmd-1" ≠ ⟨[.claimed],1⟩ := by
  have hrun : ((system oneHost).run (Machine.boots World.initial) publishedOnce).any (fun s =>
      decide (s.world.command "cmd-1" = ⟨[.inbox],0⟩) &&
      ((system oneHost).run s (bridgeTurn 7)).any fun m =>
        ((system oneHost).run m (List.replicate 2 (.step 1 { }))).any (fun t =>
          decide (t.world.command "cmd-1" = ⟨[.processed],1⟩)) &&
        ((system oneHost).run m [.crash 1]).any fun u =>
          decide (u.world.command "cmd-1" = ⟨[.claimed],1⟩) && (u.threads 1).isNone &&
          ((system oneHost).run u (bridgeTurn 6)).any fun v =>
            !decide (v.world.command "cmd-1" = ⟨[.claimed],1⟩)) = true := by
    decide +kernel
  simp only [Option.any_eq_true,Bool.and_eq_true,decide_eq_true_eq,Bool.not_eq_true',
    decide_eq_false_iff_not,Option.isNone_iff_eq_none] at hrun
  obtain ⟨s,hs,hinbox,m,hm,⟨t,ht,hprocessed⟩,u,hu,⟨hclaimed,hdown⟩,v,hv,hmoved⟩ := hrun
  exact ⟨s,m,t,u,v,hs,hinbox,hm,ht,hprocessed,hu,hclaimed,hdown,hv,hmoved⟩

/-- The Host publishes one submit; the Bridge claims it, submits it and settles it. -/
theorem commands_live_once_processed : ∃ s t,
    (system oneHost).run (Machine.boots World.initial) publishedOnce = some s ∧
      (system oneHost).run s (bridgeTurn 9) = some t ∧
      s.world.command "cmd-1" = ⟨[.inbox],0⟩ ∧ t.world.command "cmd-1" = ⟨[.processed],1⟩ ∧
      ReflTransGen Life (s.world.command "cmd-1") (t.world.command "cmd-1") := by
  obtain ⟨s,m,t,-,-,hs,hinbox,hm,ht,hprocessed,-⟩ := submit_taken_up
  have hturn : (system oneHost).run s (bridgeTurn 9) = some t := by
    rw [bridgeTurn_nine,Machine.run_append,hm,Option.bind_some,ht]
  exact ⟨s,t,hs,hturn,hinbox,hprocessed,(commands_live_once hs hturn "cmd-1").2.1⟩

/-- A command that is found claimed while no Bridge runs is never executed by a later one,
whatever the Host publishes: its file stays or goes to `unknown`. -/
theorem orphans_never_executed
    (hs : (system oneHost).run (Machine.boots World.initial) before = some s)
    (hdown : s.threads 1 = none) {id : String} {n : Nat}
    (hclaimed : s.world.command id = ⟨[.claimed],n⟩)
    (ht : (system oneHost).run s after = some t) :
    t.world.command id = ⟨[.claimed],n⟩ ∨ t.world.command id = ⟨[.unknown],n⟩ := by
  have hmeets := oneHost_meets hs
  let frozen : String → Option Nat := fun i => if i = id then some n else none
  have hhalted : Halted frozen s.world := by
    intro i m hm
    simp only [frozen] at hm
    split at hm
    · rename_i heq
      cases hm
      exact .inl (heq ▸ hclaimed)
    · cases hm
  have hfrozen : (bridgeRules frozen).Meets s := by
    refine ⟨⟨hmeets.inv,hhalted⟩,fun pid p hp => ?_⟩
    have hpid : pid ≠ 1 := by
      rintro rfl
      rw [hdown] at hp
      cases hp
    exact (hmeets.threads pid p hp).also fun w w' hguar hw => (hguar.2.1 hpid).halted hw
  have hend := Machine.Reach.rules_from (bridgeRules frozen) (fun _ _ _ => rfl) commandRules_compat
    (fun _ _ hallowed _ hi => oneHost_boot_halted hallowed hi) hfrozen
    ((Machine.Reach.of_run _ ht).mono _ fun _ _ _ h => h)
  exact hend.inv.2 id n (by simp [frozen])

/-- A Bridge dies between the broker call and the settlement of its command; the next one
moves the file to `unknown` and does not submit again. -/
theorem orphans_never_executed_unknown : ∃ s t,
    (system oneHost).run (Machine.boots World.initial)
        (publishedOnce ++ (bridgeTurn 7 ++ [.crash 1])) = some s ∧
      s.threads 1 = none ∧ s.world.command "cmd-1" = ⟨[.claimed],1⟩ ∧
      (system oneHost).run s (bridgeTurn 6) = some t ∧ t.world.command "cmd-1" = ⟨[.unknown],1⟩ := by
  obtain ⟨s,m,-,u,v,hs,-,hm,-,-,hu,hclaimed,hdown,hv,hmoved⟩ := submit_taken_up
  have hdied : (system oneHost).run (Machine.boots World.initial)
      (publishedOnce ++ (bridgeTurn 7 ++ [.crash 1])) = some u := by
    rw [Machine.run_append,hs,Option.bind_some,Machine.run_append,hm,Option.bind_some,hu]
  have hend := orphans_never_executed hdied hdown hclaimed hv
  exact ⟨u,v,hdied,hdown,hclaimed,hv,hend.resolve_left hmoved⟩

end runs

end BigQmt
