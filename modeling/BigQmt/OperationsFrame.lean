import BigQmt.HealthHalt
import BigQmt.ModeAudit
set_option autoImplicit false

/-!
What a relation between the services before and after has to allow for every method of the
operations package to keep it, and two such relations: the registry is the same, and the
mode is the same or HALTED.
-/

namespace BigQmt

namespace RuntimeServices

/-- The relation allows any write to the database and to the display, and a change to the modes
that are given. -/
structure Frame (R : RuntimeServices → RuntimeServices → Prop) (modes : RuntimeMode → Prop) :
    Prop where
  refl : ∀ s, R s s
  trans : ∀ {a b c}, R a b → R b c → R a c
  db : ∀ s db, R s { s with db := db }
  telemetry : ∀ s t, R s { s with telemetry := t }
  mode : ∀ s mode, modes mode → R s { s with modes := { s.modes with mode := mode } }

/-- A method that keeps the relation. -/
structure Kept (R : RuntimeServices → RuntimeServices → Prop) {α : Type} (m : Ops α) : Prop where
  keeps : Ops.Keeps R m

namespace Frame

variable {α β : Type} {R : RuntimeServices → RuntimeServices → Prop} {modes : RuntimeMode → Prop}

section
variable (hR : Frame R modes)
include hR

theorem pure (a : α) : Kept R (pure a : Ops α) := ⟨hR.refl⟩

theorem throw (e : OperationsError) : Kept R (throw e : Ops α) := ⟨hR.refl⟩

theorem bind {m : Ops α} {f : α → Ops β} (hm : Kept R m) (hf : ∀ a, Kept R (f a)) :
    Kept R (m >>= f) :=
  ⟨hm.keeps.bind (fun a => (hf a).keeps) hR.trans⟩

theorem ofExcept (r : Except OperationsError α) : Kept R (Ops.ofExcept r) := by
  cases r with
  | ok a => exact hR.pure a
  | error e => exact hR.throw e

theorem forM {l : List α} {f : α → Ops PUnit} (hf : ∀ a, Kept R (f a)) :
    Kept R (l.forM f) := ⟨Ops.Keeps.forM hR.refl (fun a _ => (hf a).keeps) hR.trans⟩

theorem marks (f : OperationsTelemetry → OperationsTelemetry) : Kept R (Ops.telemetry f) :=
  ⟨fun s => hR.telemetry s _⟩

theorem journal (write : OperationsDb → Except OperationsError (α × OperationsDb)) :
    Kept R (Ops.journal write) := by
  refine ⟨fun s => ?_⟩
  cases h : write s.db with
  | error e =>
    rw [Ops.leaves_error (Ops.journal_error h)]
    exact hR.refl s
  | ok p =>
    rw [Ops.leaves_ok (Ops.journal_ok h)]
    exact hR.db s p.2

end

theorem get {f : RuntimeServices → Ops β} (hf : ∀ s, Kept R (f s)) :
    Kept R (MonadState.get >>= f) := ⟨fun s => (hf s).keeps s⟩

theorem ite {c : Prop} [Decidable c] {m m' : Ops α} (hm : Kept R m) (hm' : Kept R m') :
    Kept R (if c then m else m') := by
  split
  · exact hm
  · exact hm'

theorem discard {m : Ops α} (hm : Kept R m) : Kept R (discard m) := by
  refine ⟨fun s => ?_⟩
  rw [discard_leaves]
  exact hm.keeps s

section
variable (hR : Frame R modes) (disk : Disk)
include hR

theorem display (row : PersistedAlertState) : Kept R (OperationsTelemetry.display row) :=
  hR.bind (hR.ofExcept _) fun _ => hR.marks _

theorem upsert (key : String) (severity : AlertSeverity) (detail : String) (observedAt : Int)
    (source : String) :
    Kept R (OperationsTelemetry.upsert disk key severity detail observedAt source) := by
  unfold OperationsTelemetry.upsert
  refine get fun s => ite (hR.bind (hR.journal _) fun row => ite (hR.display _) (hR.marks _)) ?_
  cases s.telemetry.refreshed key severity detail observedAt with
  | none => exact hR.pure _
  | some a => exact hR.bind (hR.ofExcept _) fun _ => hR.marks _

theorem resolve (key : String) (observedAt : Int) (source : String) :
    Kept R (OperationsTelemetry.resolve disk key observedAt source) := by
  unfold OperationsTelemetry.resolve
  refine get fun s => ite (hR.bind (hR.journal _) fun row => ?_) (hR.marks _)
  cases row.filter fun row => row.status = .active with
  | none => exact hR.marks _
  | some row => exact hR.display _

theorem syncHealth (snapshot : HealthSnapshot) (observedAt : Int) :
    Kept R (OperationsTelemetry.syncHealth disk snapshot observedAt) := by
  unfold OperationsTelemetry.syncHealth OperationsTelemetry.resolvePrefix
  refine get fun s => ite (hR.pure _) (hR.bind (hR.marks _) fun _ => hR.bind ?_ fun _ => ?_)
  · exact hR.forM fun a => hR.upsert ..
  · exact get fun s => hR.forM fun key => hR.resolve ..

theorem syncMode (mode : RuntimeMode) (observedAt : Int) :
    Kept R (OperationsTelemetry.syncMode disk mode observedAt) :=
  get fun _ => ite (hR.pure _)
    (hR.bind (hR.marks _) fun _ => ite (hR.upsert ..) (hR.resolve ..))

theorem syncExecutionAmbiguity (unknown manual observedAt : Int) :
    Kept R (OperationsTelemetry.syncExecutionAmbiguity disk unknown manual observedAt) := by
  have hcount : ∀ name value, Kept R (OperationsTelemetry.validateCount name value) :=
    fun _ _ => ite (hR.throw _) (hR.pure _)
  have hsync : ∀ key count detail,
      Kept R (OperationsTelemetry.syncCount disk key count detail observedAt) :=
    fun _ _ _ => ite (hR.upsert ..) (hR.resolve ..)
  unfold OperationsTelemetry.syncExecutionAmbiguity
  refine hR.bind (hcount _ _) fun _ => hR.bind (hcount _ _) fun _ => get fun s => ?_
  exact ite (hR.pure _) (hR.bind (hR.marks _) fun _ => hR.bind (hsync ..) fun _ => hsync ..)

theorem snapshot (now maxAge : Int) : Kept R (OperationsControl.snapshot now maxAge) :=
  get fun _ => hR.ofExcept _

theorem transit (s : RuntimeServices) (requestId : String) {target : RuntimeMode}
    (htarget : modes target) (actor reason : String) (changedAt : Int) :
    R s (s.transit requestId target actor reason changedAt) :=
  hR.trans (hR.db s _) (hR.mode _ target htarget)

theorem requestMode (requestId : String) {target : RuntimeMode} (htarget : modes target)
    (actor reason : String) (changedAt : Int) (health : RuntimeHealth) :
    Kept R (RuntimeModeController.requestMode disk requestId target actor reason changedAt
      health) := by
  refine ⟨fun s => ?_⟩
  obtain ⟨e,he⟩ | hsame | ⟨-,hok⟩ := RuntimeModeController.requestMode_cases disk s requestId target
    actor reason changedAt health
  · rw [Ops.leaves_error he]
    exact hR.refl s
  · rw [Ops.leaves_ok hsame]
    exact hR.refl s
  · rw [Ops.leaves_ok hok]
    exact hR.transit s requestId htarget actor reason changedAt

variable (hhalted : modes .halted)
include hhalted

theorem halt (requestId actor reason : String) (changedAt : Int) :
    Kept R (RuntimeModeController.halt disk requestId actor reason changedAt) := by
  refine ⟨fun s => ?_⟩
  obtain ⟨e,he⟩ | hsame | hok := RuntimeModeController.halt_cases disk s requestId actor reason
    changedAt
  · rw [Ops.leaves_error he]
    exact hR.refl s
  · rw [Ops.leaves_ok hsame]
    exact hR.refl s
  · rw [Ops.leaves_ok hok]
    exact hR.transit s requestId hhalted actor reason changedAt

theorem enforceHealth (requestId : String) (now maxAge : Int) :
    Kept R (OperationsControl.enforceHealth disk requestId now maxAge) :=
  hR.bind (hR.snapshot _ _) fun _ => get fun _ => ite (hR.halt disk hhalted ..) (hR.pure _)

theorem tick (now unknown manual : Int) (haltRequestId : String) :
    Kept R (RuntimeSupervisor.tick disk now unknown manual haltRequestId) := by
  unfold RuntimeSupervisor.tick OperationsControl.status RuntimeSupervisor.observe
    RuntimeSupervisor.enforce
  refine get fun s => hR.bind (hR.bind (hR.snapshot _ _) fun _ => get fun _ => hR.pure _)
    fun status => hR.bind ?_ fun _ => hR.bind ?_ fun _ => get fun _ => hR.pure _
  · exact hR.bind (hR.syncHealth ..) fun _ => hR.bind (hR.syncMode ..) fun _ =>
      hR.syncExecutionAmbiguity ..
  · refine ite (hR.bind (hR.enforceHealth disk hhalted ..) fun autoHalted => ?_) (hR.pure _)
    cases autoHalted with
    | true => exact hR.bind (hR.syncMode ..) fun _ => hR.pure _
    | false => exact hR.pure _

theorem shutdown (now : Int) (reason : String) :
    Kept R (RuntimeLifecycleController.shutdown disk now reason) :=
  get fun _ => ite
    (hR.bind (hR.halt disk hhalted ..) fun _ => hR.bind (hR.syncMode ..) fun _ => hR.pure _)
    (hR.throw _)

end
end Frame
end RuntimeServices

/-- The mode that a call asks for. -/
def OperationsCall.target : OperationsCall → Option RuntimeMode
  | .enterObserve _ _ _ _ _ => some .observe
  | .armSimulation _ _ _ _ _ => some .simulation
  | .requestMode _ target _ _ _ _ => some target
  | _ => none

/-- What a call makes of the registry. -/
def OperationsCall.registry (r : HealthRegistry) : OperationsCall → HealthRegistry
  | .observe o => (r.observe o).2
  | .clear => .empty
  | _ => r

namespace RuntimeServices

/-- A call keeps a relation that allows what it makes of the registry and the mode it asks
for. -/
theorem Frame.leaves {R : RuntimeServices → RuntimeServices → Prop} {modes : RuntimeMode → Prop}
    (hR : Frame R modes) (hhalted : modes .halted) (disk : Disk) {c : OperationsCall}
    {s : RuntimeServices} (hregistry : R s { s with health := c.registry s.health })
    (htarget : ∀ target, c.target = some target → modes target) : R s (c.leaves disk s) := by
  cases c with
  | observe o => exact hregistry
  | clear => exact hregistry
  | enterObserve requestId actor reason now maxAge =>
    exact (discard (hR.bind (hR.snapshot ..) fun _ =>
      hR.requestMode disk _ (htarget _ rfl) ..)).keeps s
  | armSimulation requestId actor reason now maxAge =>
    exact (discard (hR.bind (hR.snapshot ..) fun _ =>
      ite (hR.throw _) (hR.requestMode disk _ (htarget _ rfl) ..))).keeps s
  | requestMode requestId target actor reason changedAt health =>
    exact (discard (hR.requestMode disk _ (htarget _ rfl) ..)).keeps s
  | emergencyHalt requestId actor reason now => exact (discard (hR.halt disk hhalted ..)).keeps s
  | enforceHealth requestId now maxAge =>
    exact (discard (hR.enforceHealth disk hhalted ..)).keeps s
  | syncHealth snapshot observedAt => exact (hR.syncHealth disk ..).keeps s
  | syncMode mode observedAt => exact (hR.syncMode disk ..).keeps s
  | syncExecutionAmbiguity unknown manual observedAt =>
    exact (hR.syncExecutionAmbiguity disk ..).keeps s
  | tick now unknown manual haltRequestId => exact (discard (hR.tick disk hhalted ..)).keeps s
  | shutdown now reason => exact (discard (hR.shutdown disk hhalted ..)).keeps s

/-- The registry after a call is what the call makes of it. -/
theorem leaves_health (disk : Disk) (c : OperationsCall) (s : RuntimeServices) :
    (c.leaves disk s).healthMaxAgeSeconds = s.healthMaxAgeSeconds ∧
      (c.leaves disk s).health = c.registry s.health := by
  have hframe : Frame (fun s s' => s'.healthMaxAgeSeconds = s.healthMaxAgeSeconds ∧
      s'.health = s.health) (fun _ => True) :=
    { refl := fun _ => ⟨rfl,rfl⟩
      trans := fun h h' => ⟨h'.1.trans h.1,h'.2.trans h.2⟩
      db := fun _ _ => ⟨rfl,rfl⟩
      telemetry := fun _ _ => ⟨rfl,rfl⟩
      mode := fun _ _ _ => ⟨rfl,rfl⟩ }
  cases c with
  | observe o => exact ⟨rfl,rfl⟩
  | clear => exact ⟨rfl,rfl⟩
  | _ => exact hframe.leaves trivial disk ⟨rfl,rfl⟩ fun _ _ => trivial

/-- The mode after a call is the one before, HALTED, or the one it asks for. -/
theorem leaves_mode (disk : Disk) (c : OperationsCall) (s : RuntimeServices) :
    (c.leaves disk s).modes.mode = s.modes.mode ∨ (c.leaves disk s).modes.mode = .halted ∨
      c.target = some (c.leaves disk s).modes.mode := by
  have hframe : Frame (fun s s' => s'.modes.mode = s.modes.mode ∨ s'.modes.mode = .halted ∨
      c.target = some s'.modes.mode) (fun mode => mode = .halted ∨ c.target = some mode) :=
    { refl := fun _ => .inl rfl
      trans := by
        rintro a b c' h (h' | h')
        · rwa [h']
        · exact .inr h'
      db := fun _ _ => .inl rfl
      telemetry := fun _ _ => .inl rfl
      mode := fun _ _ h => .inr h }
  exact hframe.leaves (.inl rfl) disk (.inl rfl) fun _ h => .inr h

/-- SIMULATION is entered by a call that asks for it, with a health that is ready: the one the
registry shows, or the one the caller gives. -/
theorem enters_simulation {disk : Disk} {c : OperationsCall} {s : RuntimeServices}
    (hbefore : s.modes.mode ≠ .simulation) (hafter : (c.leaves disk s).modes.mode = .simulation) :
    (∃ requestId actor reason now maxAge snapshot,
        c = .armSimulation requestId actor reason now maxAge ∧
          s.health.snapshot now maxAge = .ok snapshot ∧
          snapshot.runtime.readyForMutation = true) ∨
      ∃ requestId actor reason changedAt health,
        c = .requestMode requestId .simulation actor reason changedAt health ∧
          health.readyForMutation = true := by
  have htarget : c.target = some .simulation := by
    obtain hsame | hhalted | htarget := leaves_mode disk c s
    · exact absurd (hsame.symm.trans hafter) hbefore
    · rw [hafter] at hhalted
      cases hhalted
    · rwa [hafter] at htarget
  cases c with
  | armSimulation requestId actor reason now maxAge =>
    left
    have hleaves : (OperationsCall.armSimulation requestId actor reason now maxAge).leaves disk s =
        (OperationsControl.armSimulation disk requestId actor reason now maxAge).leaves s :=
      discard_leaves _ s
    have harm : OperationsControl.armSimulation disk requestId actor reason now maxAge s =
        (Ops.ofExcept (s.health.snapshot now maxAge) >>= fun snapshot =>
          if !snapshot.runtime.readyForMutation then
            throw (.modeTransitionDenied "runtime health is not ready for simulation")
          else RuntimeModeController.requestMode disk requestId .simulation actor reason now
            snapshot.runtime : Ops Bool) s := rfl
    cases hs : s.health.snapshot now maxAge with
    | error e =>
      rw [hs] at harm
      rw [hleaves,Ops.leaves_error harm] at hafter
      exact absurd hafter hbefore
    | ok snapshot =>
      refine ⟨requestId,actor,reason,now,maxAge,snapshot,rfl,hs,?_⟩
      cases hready : snapshot.runtime.readyForMutation with
      | true => rfl
      | false =>
        rw [hs] at harm
        simp only [Ops.ofExcept_ok,Ops.pure_bind_apply,hready,Bool.not_false,if_true] at harm
        rw [hleaves,Ops.leaves_error harm] at hafter
        exact absurd hafter hbefore
  | requestMode requestId target actor reason changedAt health =>
    right
    cases htarget
    have hleaves : (OperationsCall.requestMode requestId .simulation actor reason changedAt
        health).leaves disk s = (RuntimeModeController.requestMode disk requestId .simulation actor
          reason changedAt health).leaves s := discard_leaves _ s
    rw [hleaves] at hafter
    refine ⟨requestId,actor,reason,changedAt,health,rfl,?_⟩
    obtain ⟨e,he⟩ | hok | ⟨hrefusal,-⟩ := RuntimeModeController.requestMode_cases disk s requestId
      .simulation actor reason changedAt health
    · rw [Ops.leaves_error he] at hafter
      exact absurd hafter hbefore
    · rw [Ops.leaves_ok hok] at hafter
      exact absurd hafter hbefore
    · exact (RuntimeModeController.refusal_none hrefusal).2.2.2 (.inr rfl)
  | _ => cases htarget

end RuntimeServices

end BigQmt
