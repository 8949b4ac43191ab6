import BigQmt.HealthHalt
import Mathlib.Data.List.Chain
import Mathlib.Data.List.Induction
set_option autoImplicit false

/-!
The mode of a runtime session and its rows of `runtime_mode_transitions`, over every
sequence of calls into its controller and of rows other sessions write between them.
-/

namespace BigQmt

namespace RuntimeModeController

/-- The constructor. -/
def start (disk : Disk) (runtimeSessionId : String) (startedAt : Int) (s : RuntimeServices) :
    Except OperationsError RuntimeServices :=
  if !nonblank runtimeSessionId then
    .error (.valueError "runtime_session_id must be a non-empty string")
  else
    match s.db.recordTransition disk ⟨"startup:" ++ runtimeSessionId,runtimeSessionId,.disabled,
      .disabled,"system","runtime start defaults to DISABLED",startedAt⟩ with
    | .error e => .error e
    | .ok (_,db) => .ok { s with db := db,modes := ⟨runtimeSessionId,.disabled⟩ }

/-- The constructors of a process run it. -/
theorem start_of_services {disk : Disk} {runtimeSessionId : String} {startedAt : Int}
    {journaled : Bool} {healthMaxAgeSeconds : Int} {db db' : OperationsDb} {s : RuntimeServices}
    (h : RuntimeServices.start disk runtimeSessionId startedAt journaled healthMaxAgeSeconds db =
      (.ok s,db')) :
    start disk runtimeSessionId startedAt { s with db := db } = .ok s := by
  unfold RuntimeServices.start at h
  unfold start
  by_cases hblank : (!nonblank runtimeSessionId) = true
  · simp [hblank] at h
  rw [if_neg hblank] at h ⊢
  cases hr : db.recordTransition disk ⟨"startup:" ++ runtimeSessionId,runtimeSessionId,.disabled,
      .disabled,"system","runtime start defaults to DISABLED",startedAt⟩ with
  | error e => simp [hr] at h
  | ok p =>
    cases ht : OperationsTelemetry.start journaled p.2 with
    | error e => simp [hr,ht] at h
    | ok telemetry =>
      simp only [hr,ht] at h
      by_cases hage : healthMaxAgeSeconds ≤ 0
      · simp [hage] at h
      · rw [if_neg hage,Prod.mk.injEq,Except.ok.injEq] at h
        rw [← h.1]

end RuntimeModeController

/-- A call of the controller, with its arguments. -/
inductive ModeCall where
  | requestMode (requestId : String) (target : RuntimeMode) (actor reason : String)
      (changedAt : Int) (health : RuntimeHealth)
  | halt (requestId actor reason : String) (changedAt : Int)
  | enforceHealth (requestId : String) (health : RuntimeHealth) (changedAt : Int)

namespace ModeCall

def perform (disk : Disk) : ModeCall → Ops Bool
  | .requestMode requestId target actor reason changedAt health =>
      RuntimeModeController.requestMode disk requestId target actor reason changedAt health
  | .halt requestId actor reason changedAt =>
      RuntimeModeController.halt disk requestId actor reason changedAt
  | .enforceHealth requestId health changedAt =>
      RuntimeModeController.enforceHealth disk requestId health changedAt

def health : ModeCall → Option RuntimeHealth
  | .requestMode _ _ _ _ _ health => some health
  | .halt _ _ _ _ => none
  | .enforceHealth _ health _ => some health

end ModeCall

/-- What happens to the controller and its table: a call, or a transition another session
records. -/
inductive ModeEvent where
  | call (disk : Disk) (c : ModeCall)
  | elsewhere (disk : Disk) (row : ModeTransition)

/-- The rows of a session, in the order of their insertion. -/
def OperationsDb.sessionRows (db : OperationsDb) (runtimeSessionId : String) :
    List ModeTransition :=
  db.transitions.filter (fun row => row.runtimeSessionId = runtimeSessionId)

theorem OperationsDb.sessionRows_append (db : OperationsDb) (row : ModeTransition)
    (runtimeSessionId : String) :
    sessionRows { db with transitions := db.transitions ++ [row] } runtimeSessionId =
      if row.runtimeSessionId = runtimeSessionId then db.sessionRows runtimeSessionId ++ [row]
      else db.sessionRows runtimeSessionId := by
  by_cases h : row.runtimeSessionId = runtimeSessionId <;> simp [sessionRows,h]

theorem OperationsDb.mem_of_recordTransition {db db' : OperationsDb} {disk : Disk}
    {row : ModeTransition} (h : db.recordTransition disk row = .ok (false,db')) :
    row ∈ db.transitions := by
  unfold OperationsDb.recordTransition at h
  cases hdisk : disk (.transition row.requestId) with
  | some e => simp [hdisk] at h
  | none =>
    cases hfind : db.findRequest row.requestId with
    | none => simp [hdisk,hfind] at h
    | some stored =>
      simp only [hdisk,hfind] at h
      split_ifs at h with hstored
      rw [← not_ne_iff.mp hstored]
      exact Keyed.find_mem hfind

namespace RuntimeServices

def modeStep (s : RuntimeServices) : ModeEvent → RuntimeServices
  | .call disk c => (c.perform disk).leaves s
  | .elsewhere disk row =>
    if row.runtimeSessionId = s.modes.runtimeSessionId then s
    else
      match s.db.recordTransition disk row with
      | .ok (_,db) => { s with db := db }
      | .error _ => s

def modeRun (s : RuntimeServices) (events : List ModeEvent) : RuntimeServices :=
  events.foldl modeStep s

theorem modeRun_snoc (s : RuntimeServices) (events : List ModeEvent) (e : ModeEvent) :
    s.modeRun (events ++ [e]) = (s.modeRun events).modeStep e := by
  simp [modeRun,List.foldl_append]

/-- The rows of the controller's session. -/
def sessionRows (s : RuntimeServices) : List ModeTransition :=
  s.db.sessionRows s.modes.runtimeSessionId

/-- A transition of the session: its row is the last of the table, and the mode follows. -/
def transit (s : RuntimeServices) (requestId : String) (target : RuntimeMode)
    (actor reason : String) (changedAt : Int) : RuntimeServices :=
  { s with
    db := { s.db with transitions := s.db.transitions ++
      [⟨requestId,s.modes.runtimeSessionId,s.modes.mode,target,actor,reason,changedAt⟩] }
    modes := { s.modes with mode := target } }

theorem sessionRows_transit (s : RuntimeServices) (requestId : String) (target : RuntimeMode)
    (actor reason : String) (changedAt : Int) :
    (s.transit requestId target actor reason changedAt).sessionRows = s.sessionRows ++
      [⟨requestId,s.modes.runtimeSessionId,s.modes.mode,target,actor,reason,changedAt⟩] := by
  rw [sessionRows,transit,OperationsDb.sessionRows_append,if_pos rfl]
  rfl

end RuntimeServices

namespace RuntimeModeController

variable {s : RuntimeServices} {disk : Disk}

/-- The last step of a new request: the row, then the mode. -/
theorem record_cases (disk : Disk) (s : RuntimeServices) (requestId : String)
    (target : RuntimeMode) (actor reason : String) (changedAt : Int)
    (hnew : s.db.findRequest requestId = none) :
    (∃ e, (do
        let changed ← recordTransition disk requestId s.modes.mode target actor reason changedAt
        if changed then setMode target
        return changed : Ops Bool) s = .error e s) ∨
      (do
        let changed ← recordTransition disk requestId s.modes.mode target actor reason changedAt
        if changed then setMode target
        return changed : Ops Bool) s =
          .ok true (s.transit requestId target actor reason changedAt) := by
  unfold recordTransition
  rw [Ops.bind_apply,Ops.get_bind]
  obtain ⟨e,he⟩ | he | ⟨-,-,he⟩ := s.db.recordTransition_cases disk
    ⟨requestId,s.modes.runtimeSessionId,s.modes.mode,target,actor,reason,changedAt⟩
  · left
    exact ⟨e,by rw [Ops.journal_error he]⟩
  · unfold OperationsDb.recordTransition at he
    simp only [hnew] at he
    split at he <;> simp at he
  · right
    rw [Ops.journal_ok he]
    rfl

/-- What a method does after one of its checks, when the check lets it. -/
theorem nonempty_bind {α : Type} (name value : String) (m : Ops α) (s : RuntimeServices) :
    (∃ e, (requireNonempty name value >>= fun _ => m) s = .error e s) ∨
      (requireNonempty name value >>= fun _ => m) s = m s := by
  unfold requireNonempty
  split_ifs
  · exact .inr rfl
  · exact .inl ⟨_,rfl⟩

/-- A request is refused, repeats a transition, or is a transition nothing refuses. -/
theorem requestMode_cases (disk : Disk) (s : RuntimeServices) (requestId : String)
    (target : RuntimeMode) (actor reason : String) (changedAt : Int) (health : RuntimeHealth) :
    (∃ e, requestMode disk requestId target actor reason changedAt health s = .error e s) ∨
      requestMode disk requestId target actor reason changedAt health s = .ok false s ∨
      refusal s.modes.mode target health = none ∧
        requestMode disk requestId target actor reason changedAt health s =
          .ok true (s.transit requestId target actor reason changedAt) := by
  unfold requestMode
  obtain he | hid := nonempty_bind "request_id" requestId _ s
  · exact .inl he
  obtain he | hactor := nonempty_bind "actor" actor _ s
  · exact .inl (by rw [hid]; exact he)
  obtain he | hreason := nonempty_bind "reason" reason _ s
  · exact .inl (by rw [hid,hactor]; exact he)
  rw [hid,hactor,hreason,Ops.get_bind]
  cases hfind : s.db.findRequest requestId with
  | some prior =>
    dsimp only
    split_ifs
    · exact .inl ⟨_,rfl⟩
    · exact .inr (.inl rfl)
  | none =>
    cases hrefusal : refusal s.modes.mode target health with
    | some e => exact .inl ⟨e,rfl⟩
    | none =>
      obtain he | hok := record_cases disk s requestId target actor reason changedAt hfind
      · exact .inl he
      · exact .inr (.inr ⟨rfl,hok⟩)

/-- A halt is refused, repeats a transition, or halts. -/
theorem halt_cases (disk : Disk) (s : RuntimeServices) (requestId actor reason : String)
    (changedAt : Int) :
    (∃ e, halt disk requestId actor reason changedAt s = .error e s) ∨
      halt disk requestId actor reason changedAt s = .ok false s ∨
      halt disk requestId actor reason changedAt s =
        .ok true (s.transit requestId .halted actor reason changedAt) := by
  unfold halt
  obtain he | hid := nonempty_bind "request_id" requestId _ s
  · exact .inl he
  obtain he | hactor := nonempty_bind "actor" actor _ s
  · exact .inl (by rw [hid]; exact he)
  obtain he | hreason := nonempty_bind "reason" reason _ s
  · exact .inl (by rw [hid,hactor]; exact he)
  rw [hid,hactor,hreason,Ops.get_bind]
  cases hfind : s.db.findRequest requestId with
  | some prior =>
    dsimp only
    split_ifs
    · exact .inl ⟨_,rfl⟩
    · exact .inr (.inl rfl)
  | none =>
    obtain he | hok := record_cases disk s requestId .halted actor reason changedAt hfind
    · exact .inl he
    · exact .inr (.inr hok)

/-- What `refusal` lets through. -/
theorem refusal_none {current target : RuntimeMode} {health : RuntimeHealth}
    (h : refusal current target health = none) :
    target ≠ .liveCanary ∧ target ≠ .liveArmed ∧ (current = .halted → target = .disabled) ∧
      (target = .shadow ∨ target = .simulation → health.readyForMutation = true) := by
  unfold refusal at h
  split_ifs at h with hlive hhalted hcurrent hallowed hready
  refine ⟨fun heq => hlive (by simp [heq]),fun heq => hlive (by simp [heq]),?_,?_⟩
  · intro heq
    by_contra hne
    exact hcurrent (by simp [heq,hne])
  · intro htarget
    by_contra hne
    exact hready (by simp [htarget,hne])

end RuntimeModeController

namespace ModeCall

/-- A call raises, changes nothing, or makes one transition. -/
theorem perform_cases (disk : Disk) (c : ModeCall) (s : RuntimeServices) :
    (∃ e, c.perform disk s = .error e s) ∨ c.perform disk s = .ok false s ∨
      ∃ requestId target actor reason changedAt,
        c.perform disk s = .ok true (s.transit requestId target actor reason changedAt) ∧
        (target = .halted ∨
          ∃ health, c.health = some health ∧
            RuntimeModeController.refusal s.modes.mode target health = none) := by
  cases c with
  | requestMode requestId target actor reason changedAt health =>
    obtain he | hsame | ⟨hrefusal,hok⟩ := RuntimeModeController.requestMode_cases disk s requestId
      target actor reason changedAt health
    · exact .inl he
    · exact .inr (.inl hsame)
    · exact .inr (.inr ⟨requestId,target,actor,reason,changedAt,hok,.inr ⟨health,rfl,hrefusal⟩⟩)
  | halt requestId actor reason changedAt =>
    obtain he | hsame | hok := RuntimeModeController.halt_cases disk s requestId actor reason
      changedAt
    · exact .inl he
    · exact .inr (.inl hsame)
    · exact .inr (.inr ⟨requestId,.halted,actor,reason,changedAt,hok,.inl rfl⟩)
  | enforceHealth requestId health changedAt =>
    have hunfold : (ModeCall.enforceHealth requestId health changedAt).perform disk s =
        if s.modes.mode = .simulation && !health.readyForMutation then
          RuntimeModeController.halt disk requestId "health-monitor"
            "mutation runtime health prerequisite lost" changedAt s
        else .ok false s := by
      dsimp only [perform,RuntimeModeController.enforceHealth]
      rw [Ops.get_bind]
      split <;> rfl
    rw [hunfold]
    split_ifs
    · obtain he | hsame | hok := RuntimeModeController.halt_cases disk s requestId "health-monitor"
        "mutation runtime health prerequisite lost" changedAt
      · exact .inl he
      · exact .inr (.inl hsame)
      · exact .inr (.inr ⟨requestId,.halted,_,_,changedAt,hok,.inl rfl⟩)
    · exact .inr (.inl rfl)

end ModeCall

namespace RuntimeServices

/-- The mode is not a live one, the session's last row says it, and each of its rows
starts where the one before ends. -/
structure Audited (s : RuntimeServices) : Prop where
  canary : s.modes.mode ≠ .liveCanary
  armed : s.modes.mode ≠ .liveArmed
  last : s.sessionRows.getLast?.map ModeTransition.toMode = some s.modes.mode
  chain : s.sessionRows.IsChain (fun prior row => row.fromMode = prior.toMode)

/-- What the next event may do to the mode. -/
structure Authorized (s : RuntimeServices) (e : ModeEvent) : Prop where
  ready : (s.modeStep e).modes.mode = .shadow ∨ (s.modeStep e).modes.mode = .simulation →
    (s.modeStep e).modes.mode ≠ s.modes.mode →
    ∃ disk c health, e = .call disk c ∧ c.health = some health ∧ health.readyForMutation = true
  halted : s.modes.mode = .halted → (s.modeStep e).modes.mode ≠ .halted →
    (s.modeStep e).modes.mode = .disabled
  raises : ∀ disk c err s', e = .call disk c → c.perform disk s = .error err s' →
    s'.modes = s.modes ∧ s'.db = s.db

variable {s : RuntimeServices}

theorem Audited.transit (h : s.Audited) (requestId : String) {target : RuntimeMode}
    (actor reason : String) (changedAt : Int) (hcanary : target ≠ .liveCanary)
    (harmed : target ≠ .liveArmed) : (s.transit requestId target actor reason changedAt).Audited := by
  refine ⟨hcanary,harmed,?_,?_⟩
  · rw [sessionRows_transit,List.getLast?_append]
    rfl
  · rw [sessionRows_transit,List.isChain_append]
    refine ⟨h.chain,List.isChain_singleton _,fun prior hprior row hrow => ?_⟩
    simp only [List.head?_cons,Option.mem_def,Option.some.injEq] at hrow
    have hlast := h.last
    rw [Option.mem_def.mp hprior,Option.map_some,Option.some.injEq] at hlast
    rw [← hrow,hlast]

/-- Rows of other sessions are none of the session's. -/
theorem sessionRows_elsewhere {disk : Disk} {row : ModeTransition} {changed : Bool}
    {db : OperationsDb} {runtimeSessionId : String}
    (hother : row.runtimeSessionId ≠ runtimeSessionId)
    (h : s.db.recordTransition disk row = .ok (changed,db)) :
    db.sessionRows runtimeSessionId = s.db.sessionRows runtimeSessionId := by
  obtain ⟨e,he⟩ | he | ⟨-,-,he⟩ := s.db.recordTransition_cases disk row
  · rw [h] at he
    cases he
  · rw [h] at he
    cases he
    rfl
  · rw [h] at he
    cases he
    rw [OperationsDb.sessionRows_append,if_neg hother]

theorem Audited.step (h : s.Audited) (e : ModeEvent) : (s.modeStep e).Audited := by
  cases e with
  | call disk c =>
    rw [modeStep]
    obtain ⟨e,he⟩ | hsame | ⟨requestId,target,actor,reason,changedAt,hok,hallowed⟩ :=
      c.perform_cases disk s
    · rw [Ops.leaves_error he]
      exact h
    · rw [Ops.leaves_ok hsame]
      exact h
    · rw [Ops.leaves_ok hok]
      obtain rfl | ⟨health,-,hrefusal⟩ := hallowed
      · exact h.transit requestId actor reason changedAt (by simp) (by simp)
      · obtain ⟨hcanary,harmed,-⟩ := RuntimeModeController.refusal_none hrefusal
        exact h.transit requestId actor reason changedAt hcanary harmed
  | elsewhere disk row =>
    rw [modeStep]
    split_ifs with hown
    · exact h
    · cases hr : s.db.recordTransition disk row with
      | error e => exact h
      | ok p =>
        have hrows : p.2.sessionRows s.modes.runtimeSessionId = s.sessionRows :=
          sessionRows_elsewhere hown hr
        exact ⟨h.canary,h.armed,by rw [sessionRows,hrows]; exact h.last,
          by rw [sessionRows,hrows]; exact h.chain⟩

/-- The first row of a fresh session is the one its constructor writes. -/
theorem Audited.start {disk : Disk} {runtimeSessionId : String} {startedAt : Int}
    {s₀ : RuntimeServices} (hfresh : s₀.db.sessionRows runtimeSessionId = [])
    (hstart : RuntimeModeController.start disk runtimeSessionId startedAt s₀ = .ok s) :
    s.Audited := by
  unfold RuntimeModeController.start at hstart
  split_ifs at hstart
  obtain ⟨e,he⟩ | he | ⟨-,-,he⟩ := s₀.db.recordTransition_cases disk
    ⟨"startup:" ++ runtimeSessionId,runtimeSessionId,.disabled,.disabled,"system",
      "runtime start defaults to DISABLED",startedAt⟩
  · simp [he] at hstart
  · -- the row would be one of the session already
    have hrow := OperationsDb.mem_of_recordTransition he
    have hnone := List.filter_eq_nil_iff.mp hfresh _ hrow
    simp at hnone
  · simp only [he,Except.ok.injEq] at hstart
    have hrows : s.sessionRows = [⟨"startup:" ++ runtimeSessionId,runtimeSessionId,.disabled,
        .disabled,"system","runtime start defaults to DISABLED",startedAt⟩] := by
      rw [← hstart,sessionRows,OperationsDb.sessionRows_append,if_pos rfl,hfresh,List.nil_append]
    have hmode : s.modes.mode = .disabled := by rw [← hstart]
    refine ⟨by simp [hmode],by simp [hmode],?_,?_⟩
    · rw [hrows,hmode]
      rfl
    · rw [hrows]
      exact List.isChain_singleton _

theorem Authorized.of_step (s : RuntimeServices) (e : ModeEvent) : s.Authorized e := by
  cases e with
  | call disk c =>
    have hmoved : (s.modeStep (.call disk c)).modes.mode = s.modes.mode ∨
        (s.modeStep (.call disk c)).modes.mode = .halted ∨
        ∃ health, c.health = some health ∧ RuntimeModeController.refusal s.modes.mode
          (s.modeStep (.call disk c)).modes.mode health = none := by
      rw [modeStep]
      obtain ⟨e,he⟩ | hsame | ⟨requestId,target,actor,reason,changedAt,hok,hallowed⟩ :=
        c.perform_cases disk s
      · exact .inl (by rw [Ops.leaves_error he])
      · exact .inl (by rw [Ops.leaves_ok hsame])
      · rw [Ops.leaves_ok hok]
        exact .inr hallowed
    refine ⟨fun hentered hchanged => ?_,fun hhalted hleft => ?_,fun disk' c' err s' heq herr => ?_⟩
    · obtain hsame | hhalted | ⟨health,hhealth,hrefusal⟩ := hmoved
      · exact absurd hsame hchanged
      · simp [hhalted] at hentered
      · obtain ⟨-,-,-,hready⟩ := RuntimeModeController.refusal_none hrefusal
        exact ⟨disk,c,health,rfl,hhealth,hready hentered⟩
    · obtain hsame | hstill | ⟨health,-,hrefusal⟩ := hmoved
      · exact absurd (hsame.trans hhalted) hleft
      · exact absurd hstill hleft
      · obtain ⟨-,-,hdisabled,-⟩ := RuntimeModeController.refusal_none hrefusal
        exact hdisabled hhalted
    · cases heq
      obtain ⟨e,he⟩ | hsame | ⟨requestId,target,actor,reason,changedAt,hok,-⟩ :=
        c.perform_cases disk s
      · rw [herr] at he
        cases he
        exact ⟨rfl,rfl⟩
      · rw [herr] at hsame
        cases hsame
      · rw [herr] at hok
        cases hok
  | elsewhere disk row =>
    have hsame : (s.modeStep (.elsewhere disk row)).modes.mode = s.modes.mode := by
      rw [modeStep]
      split_ifs
      · rfl
      · split <;> rfl
    refine ⟨fun _ hchanged => absurd hsame hchanged,fun hhalted hleft => ?_,?_⟩
    · exact absurd (hsame.trans hhalted) hleft
    · intro disk' c err s' heq
      cases heq

/-- The mode of a fresh session and its rows, after any calls and whatever other sessions
record between them. -/
theorem mode_audited {disk : Disk} {runtimeSessionId : String} {startedAt : Int}
    {s₀ : RuntimeServices} (hfresh : s₀.db.sessionRows runtimeSessionId = [])
    (hstart : RuntimeModeController.start disk runtimeSessionId startedAt s₀ = .ok s)
    (events : List ModeEvent) :
    (s.modeRun events).Audited ∧ ∀ e, (s.modeRun events).Authorized e := by
  refine ⟨?_,fun e => .of_step _ e⟩
  induction events using List.reverseRecOn with
  | nil => exact .start hfresh hstart
  | append_singleton events e ih =>
    rw [modeRun_snoc]
    exact ih.step e

/-- A session observes, goes to simulation and is halted, while another one records a
row of its own. -/
theorem mode_audited_halt :
    ∃ s, RuntimeModeController.start Disk.healthy "s" 0
        ⟨.empty,⟨"",.disabled⟩,.empty,OperationsTelemetry.fresh false,30⟩ = .ok s ∧
      (s.modeRun [.call Disk.healthy (.requestMode "r1" .observe "op" "open" 1
          ⟨true,true,true,true,true,true,true⟩),
        .elsewhere Disk.healthy ⟨"r2","t",.disabled,.observe,"op","open",2⟩,
        .call Disk.healthy (.requestMode "r3" .simulation "op" "arm" 3
          ⟨true,true,true,true,true,true,true⟩),
        .call Disk.healthy (.halt "r4" "op" "stop" 4)]).Audited := by
  obtain ⟨s,hs⟩ : ∃ s, RuntimeModeController.start Disk.healthy "s" 0
      ⟨.empty,⟨"",.disabled⟩,.empty,OperationsTelemetry.fresh false,30⟩ = .ok s := ⟨_,rfl⟩
  exact ⟨s,hs,(mode_audited rfl hs _).1⟩

end RuntimeServices

end BigQmt
