import BigQmt.Frames
import BigQmt.RuntimePrograms
set_option autoImplicit false

/-!
The table of the dispatch plans, and the events of the reservations they belong to:
what each transaction of the runtime does to them.
-/

namespace BigQmt

open Transact Keyed

theorem currentStatus_moves {G : Db → Db → Prop} [IsPreorder Db G] (k : OrderKey) :
    Tx.Moves G (currentStatus k) := by
  intro db st db' h
  unfold currentStatus at h
  split at h
  · cases h
  · obtain ⟨-,rfl⟩ := Prod.mk.inj (Except.ok.inj h)
    exact refl db

section
variable {G : Db → Db → Prop} [IsPreorder Db G] (F : Frame G)
variable (hkeys : ∀ db row, G db { db with evidenceKeys := db.evidenceKeys ++ [row] })
variable (hobservations : ∀ db row, G db { db with observations := db.observations ++ [row] })
include F

omit F in
include hkeys in
theorem insertEvidenceKey_moves (row : EvidenceKey) : Tx.Moves G (insertEvidenceKey row) :=
  Tx.moves_bind (Tx.moves_reads _) fun _ => Tx.moves_bind (Tx.moves_raiseIf _ _) fun _ =>
    Tx.moves_writes fun db => hkeys db row

omit F in
include hobservations in
theorem insertObservation_moves (row : Observation) : Tx.Moves G (insertObservation row) :=
  Tx.moves_bind (Frame.requireIntent_moves _ _) fun _ =>
    Tx.moves_writes fun db => hobservations db row

include hkeys hobservations

/-- A relation that the writes of the journal keep as well. -/
theorem Frame.ingestInTx_moves (e : BrokerEvidenceV1) : Tx.Moves G (ingestInTx e) := by
  have hkey := fun row => insertEvidenceKey_moves hkeys row
  have hobs := fun row => insertObservation_moves hobservations row
  have hmark := fun k filled => F.markConflictInTx_moves k filled
  refine Tx.moves_bind (Tx.moves_reads _) fun identity => ?_
  split
  · refine Tx.moves_bind (hobs _) fun _ => Tx.moves_bind (Tx.moves_reads _) fun original => ?_
    cases original with
    | none => exact Tx.moves_bind (hmark _ _) fun _ => Tx.moves_pure _
    | some k =>
      refine Tx.moves_bind (hmark _ _) fun _ => ?_
      dsimp only
      split
      · exact Tx.moves_bind (hmark _ _) fun _ => Tx.moves_pure _
      · exact Tx.moves_pure _
  · refine Tx.moves_bind (Tx.moves_reads _) fun known => ?_
    cases known with
    | some row =>
      refine Tx.moves_bind (hobs _) fun _ => Tx.moves_bind (currentStatus_moves _) fun _ => ?_
      split
      · exact Tx.moves_pure _
      · exact Tx.moves_pure _
    | none =>
      have hduplicate : Tx.Moves G (semanticDuplicateExists e) := by
        refine Tx.moves_bind (currentStatus_moves _) fun current => ?_
        split
        · exact Tx.moves_pure _
        · split
          · exact Tx.moves_pure _
          · exact Tx.moves_reads _
      refine Tx.moves_bind hduplicate fun suppressed => ?_
      split
      · exact Tx.moves_bind (hkey _) fun _ => Tx.moves_bind (hobs _) fun _ =>
          Tx.moves_bind (currentStatus_moves _) fun _ => Tx.moves_pure _
      · refine Tx.moves_bind (Tx.moves_attempt (F.transitionInTx_moves _ _)) fun merged => ?_
        cases merged with
        | ok outcome =>
          exact Tx.moves_bind (hkey _) fun _ => Tx.moves_bind (hobs _) fun _ => Tx.moves_pure _
        | error err =>
          exact Tx.moves_bind (Tx.moves_ofExcept _) fun _ => Tx.moves_bind (hkey _) fun _ =>
            Tx.moves_bind (hobs _) fun _ => Tx.moves_bind (hmark _ _) fun _ => Tx.moves_pure _

end

/-- The event of a reservation. -/
def OrderEvent.reserves (ev : OrderEvent) : Bool :=
  ev.eventType = .submitReserved || ev.eventType = .cancelReserved

/-- The dispatch plans, and the events of the reservations. -/
def Db.plans (db : Db) : List Dispatch × List OrderEvent :=
  (db.dispatches,db.orderEvents.filter OrderEvent.reserves)

def SamePlans (db db' : Db) : Prop := db'.plans = db.plans

instance : IsPreorder Db SamePlans where
  refl _ := rfl
  trans _ _ _ h₁ h₂ := Eq.trans h₂ h₁

theorem plansFrame : Frame SamePlans := by
  constructor
  case events =>
    rintro db ev ⟨text,htext⟩
    simp [SamePlans,Db.plans,OrderEvent.reserves,htext]
  all_goals
    intros
    rfl

/-- The kind of command that a reservation is for. -/
def OrderEvent.commandType (ev : OrderEvent) : QmtCommandType :=
  if ev.eventType = .cancelReserved then .cancelOrder else .submitLimit

/-- The event of the reservation that comes with a command. -/
def QmtCommand.reservation (command : QmtCommand) (ev : OrderEvent) : Prop :=
  ev.key = command.orderKey ∧ ev.commandType = command.commandType

/-- What a transaction of the runtime does to the plans. A reservation comes with its
plan: a row that has its frame already, or a new one. -/
inductive PlanStep (db db' : Db) : Option (String × DispatchState) → Prop
  | same (plans : SamePlans db db') : PlanStep db db' none
  | advanced (commandId : String) (state : DispatchState) (forward : state ≠ .planned)
      (plans : db'.plans = (modify Dispatch.commandId commandId
        (fun r => { r with dispatchState := state }) db.dispatches,db.plans.2)) :
      PlanStep db db' (some (commandId,state))
  | known (command : QmtCommand) (row : Dispatch) (ev : OrderEvent)
      (encoded : encodeCommandFrame command = .ok row.frameBlob) (event : command.reservation ev)
      (found : db.dispatch? command.commandId = some row)
      (plans : db'.plans = (db.dispatches,db.plans.2 ++ [ev])) : PlanStep db db' none
  | fresh (session : String) (command : QmtCommand) (brokerOrderId : Option String) (raw : Raw)
      (ev : OrderEvent) (encoded : encodeCommandFrame command = .ok raw)
      (event : command.reservation ev)
      (allowed : dispatchRefused (plannedDispatch session command brokerOrderId raw) db = false)
      (plans : db'.plans =
        (db.dispatches ++ [plannedDispatch session command brokerOrderId raw],db.plans.2 ++ [ev])) :
      PlanStep db db' none

section
variable {db db' : Db} {session : String} {command : QmtCommand} {brokerOrderId : Option String}
variable {raw : Raw} {row : Dispatch}

/-- The plan of a command is a row that has its frame already, or a new one. -/
theorem persistDispatchInTx_plans
    (h : persistDispatchInTx session command brokerOrderId raw db = .ok (row,db')) :
    db'.dispatch? row.commandId = some row ∧
      (db.dispatch? command.commandId = some row ∧ row.frameBlob = raw ∧ db' = db ∨
        dispatchRefused (plannedDispatch session command brokerOrderId raw) db = false ∧
        db'.plans = (db.dispatches ++ [plannedDispatch session command brokerOrderId raw],
          db.plans.2)) := by
  rw [persistDispatchInTx,Tx.reads_bind] at h
  cases hx : db.dispatch? command.commandId with
  | some row' =>
    simp only [hx,Tx.bind_eq_ok,Tx.raiseIf_eq_ok,Tx.pure_eq_ok] at h
    obtain ⟨_,_,⟨hsame,rfl⟩,rfl,rfl⟩ := h
    simp only [Bool.or_eq_false_iff,decide_eq_false_iff_not,not_not] at hsame
    have hid : row.commandId = command.commandId := find_key hx
    exact ⟨hid ▸ hx,.inl ⟨rfl,hsame.2,rfl⟩⟩
  | none =>
    simp only [hx,insertDispatch,Tx.bind_eq_ok,requireIntent_eq_ok,Tx.reads_eq_ok,Tx.raiseIf_eq_ok,
      Tx.writes_eq_ok,insertEvent_eq_ok,Tx.pure_eq_ok] at h
    obtain ⟨_,_,⟨_,_,⟨-,rfl⟩,_,_,⟨rfl,rfl⟩,_,_,⟨hallowed,rfl⟩,rfl⟩,_,_,hs,_,_,⟨-,rfl⟩,rfl,rfl⟩ := h
    obtain ⟨_,_,_,rfl⟩ := getStatusInTx_ok hs
    refine ⟨find_append_self hx,.inr ⟨hallowed,?_⟩⟩
    simp [Db.plans,OrderEvent.reserves]

theorem reserveInTx_plans {k : OrderKey} {target : OrderStatus} {eventType : OrderEventType}
    {already : PyError} {started : BrokerOrder → Bool} {reserve : BrokerOrder → BrokerOrder} {u : Unit}
    (hevent : eventType = .submitReserved ∨ eventType = .cancelReserved)
    (h : reserveInTx k target eventType already started reserve db = .ok (u,db')) :
    ∃ ev : OrderEvent, ev.key = k ∧ ev.eventType = eventType ∧
      db'.plans = (db.dispatches,db.plans.2 ++ [ev]) := by
  obtain ⟨r,i,o,-,-,-,-,-,rfl⟩ := reserveInTx_ok h
  refine ⟨⟨k,eventType,some r.status,target,o.disposition⟩,rfl,rfl,?_⟩
  rcases hevent with rfl | rfl <;> simp [Db.plans,OrderEvent.reserves,Db.updateOrder]

theorem reserveAndPersistInTx_plans {cancel : Bool} (hraw : encodeCommandFrame command = .ok raw)
    (htype : command.commandType = if cancel then .cancelOrder else .submitLimit)
    (h : reserveAndPersistDispatchInTx session command brokerOrderId cancel raw db =
      .ok (row,db')) : PlanStep db db' none ∧ db'.dispatch? row.commandId = some row := by
  have hreserve : ∃ db₁ ev, command.reservation ev ∧
      db₁.plans = (db.dispatches,db.plans.2 ++ [ev]) ∧
      persistDispatchInTx session command brokerOrderId raw db₁ = .ok (row,db') := by
    rw [reserveAndPersistDispatchInTx] at h
    cases cancel with
    | true =>
      simp only [if_true,Tx.bind_eq_ok] at h htype
      obtain ⟨_,db₁,hres,hpersist⟩ := h
      obtain ⟨ev,hkey,hev,hplans⟩ := reserveInTx_plans (.inr rfl) hres
      exact ⟨db₁,ev,⟨hkey,by simp [OrderEvent.commandType,hev,htype]⟩,hplans,hpersist⟩
    | false =>
      simp only [Bool.false_eq_true,if_false,Tx.bind_eq_ok] at h htype
      obtain ⟨_,db₁,hres,hpersist⟩ := h
      obtain ⟨ev,hkey,hev,hplans⟩ := reserveInTx_plans (.inl rfl) hres
      exact ⟨db₁,ev,⟨hkey,by simp [OrderEvent.commandType,hev,htype]⟩,hplans,hpersist⟩
  obtain ⟨db₁,ev,hev,hplans,hpersist⟩ := hreserve
  have hdispatches : db₁.dispatches = db.dispatches := (Prod.mk.inj hplans).1
  obtain ⟨hrow,⟨hfound,rfl,rfl⟩ | ⟨hallowed,hnew⟩⟩ := persistDispatchInTx_plans hpersist
  · refine ⟨.known command row ev hraw hev ?_ hplans,hrow⟩
    rw [Db.dispatch?,← hdispatches]
    exact hfound
  · refine ⟨.fresh session command brokerOrderId raw ev hraw hev ?_ ?_,hrow⟩
    · rw [dispatchRefused,← hdispatches]
      exact hallowed
    · rw [hnew,hdispatches,hplans]

/-- The plans after any transaction of the runtime. -/
theorem Txn.plan_step {α : Type} {t : Txn α} {now : Nat} {a : α} (ht : t.hosted)
    (h : t.body now db = .ok (a,db')) : PlanStep db db' t.advances := by
  have hmoves : ∀ {x : DbTx α} {g : Guard}, Tx.Moves SamePlans x →
      guarded g now x db = .ok (a,db') → PlanStep db db' none :=
    fun hx h => .same (hx db a db' (guarded_ok.mp h).2)
  cases t with
  | acquire =>
    obtain ⟨row,rfl⟩ := acquire_ok h
    exact .same rfl
  | heartbeat =>
    obtain ⟨row,rfl⟩ := heartbeat_ok h
    exact .same rfl
  | release =>
    obtain ⟨row,rfl⟩ := release_ok h
    exact .same rfl
  | prepareSubmit => exact ht.elim
  | prepareCancel => exact ht.elim
  | ingestEvidence g e =>
    exact hmoves (plansFrame.ingestInTx_moves (fun _ _ => rfl) (fun _ _ => rfl) e) h
  | ingestCommandResult g r =>
    exact hmoves (plansFrame.ingestCommandResultInTx_moves (fun _ _ => rfl) r) h
  | reserveAndPersistDispatch =>
    exact (reserveAndPersistInTx_plans ht.1 ht.2 (guarded_ok.mp h).2).1
  | setDispatchState g commandId state =>
    refine .advanced commandId state ht ?_
    have hw := (guarded_ok.mp h).2
    simp only [setDispatchStateInTx,Tx.writes_eq_ok] at hw
    rw [hw]
    rfl
  | failDispatchManualReview g command eventType =>
    refine .advanced command.commandId .manualReview (by decide) ?_
    have hw := (guarded_ok.mp h).2
    simp only [failDispatchManualReviewInTx,setDispatchStateInTx,Tx.writes_bind] at hw
    have hmark := plansFrame.markManualReviewInTx_moves _ _ _ _ _ _ hw
    exact hmark
  | _ => exact .same (plansFrame.txn_moves rfl now db a db' h)

end

/-- The row carries the frame of a command with its own identity. -/
def Dispatch.Framed (d : Dispatch) : Prop :=
  ∃ c : QmtCommand, encodeCommandFrame c = .ok d.frameBlob ∧ d.frameDigest = d.frameBlob ∧
    d.commandId = c.commandId ∧ d.key = c.orderKey ∧ d.commandType = c.commandType ∧
    d.expiresMs = c.expiresMs

/-- The table of the plans, and a plan for every reservation. -/
structure Plans (db : Db) : Prop where
  framed : ∀ d ∈ db.dispatches, d.Framed
  ids : (db.dispatches.map Dispatch.commandId).Nodup
  orders : (db.dispatches.map fun d => (d.key,d.commandType)).Nodup
  reserved : ∀ ev ∈ db.plans.2, ∃ d ∈ db.dispatches, d.key = ev.key ∧ d.commandType = ev.commandType

theorem Plans.empty : Plans Db.empty := by
  constructor <;> simp [Db.empty,Db.plans]

/-- A row of the first table is still there, with a state that did not go back. -/
structure Dispatch.Kept (d d' : Dispatch) : Prop where
  row : d' = { d with dispatchState := d'.dispatchState }
  forward : d.dispatchState ≠ .planned → d'.dispatchState ≠ .planned

def PlansKept (db db' : Db) : Prop := ∀ d ∈ db.dispatches, ∃ d' ∈ db'.dispatches, d.Kept d'

theorem Dispatch.Kept.refl (d : Dispatch) : d.Kept d := ⟨rfl,id⟩

theorem Dispatch.Kept.trans {a b c : Dispatch} (h₁ : a.Kept b) (h₂ : b.Kept c) : a.Kept c := by
  refine ⟨?_,fun h => h₂.forward (h₁.forward h)⟩
  rw [h₂.row,h₁.row]

instance : IsPreorder Db PlansKept where
  refl _ := fun d hd => ⟨d,hd,.refl d⟩
  trans _ _ _ h₁ h₂ := fun d hd => by
    obtain ⟨d₁,hd₁,hk₁⟩ := h₁ d hd
    obtain ⟨d₂,hd₂,hk₂⟩ := h₂ d₁ hd₁
    exact ⟨d₂,hd₂,hk₁.trans hk₂⟩

theorem plannedDispatch_framed {session : String} {command : QmtCommand}
    {brokerOrderId : Option String} {raw : Raw} (h : encodeCommandFrame command = .ok raw) :
    (plannedDispatch session command brokerOrderId raw).Framed :=
  ⟨command,h,rfl,rfl,rfl,rfl,rfl⟩

theorem Dispatch.Framed.state {d : Dispatch} (h : d.Framed) (state : DispatchState) :
    Dispatch.Framed { d with dispatchState := state } := h

/-- Two commands with one frame are for the same order and of the same kind. -/
theorem Dispatch.Framed.command {d : Dispatch} (h : d.Framed) {command : QmtCommand}
    (hraw : encodeCommandFrame command = .ok d.frameBlob) :
    d.commandId = command.commandId ∧ d.key = command.orderKey ∧
      d.commandType = command.commandType ∧ d.expiresMs = command.expiresMs := by
  obtain ⟨c,hc,-,hid,hkey,htype,hexpires⟩ := h
  obtain ⟨-,hframe,-⟩ := encodeCommandFrame_ok hc
  obtain ⟨-,hframe',-⟩ := encodeCommandFrame_ok hraw
  obtain ⟨hid',hfp,hclient,htype',hexpires'⟩ := frame_injective (hframe.symm.trans hframe')
  refine ⟨hid.trans hid',?_,htype.trans htype',hexpires.trans hexpires'⟩
  rw [hkey,QmtCommand.orderKey,QmtCommand.orderKey,hfp,hclient]

section
variable {db db' : Db}

theorem PlanStep.kept {change : Option (String × DispatchState)} (h : PlanStep db db' change) :
    PlansKept db db' := by
  have hsame : db'.dispatches = db.dispatches → PlansKept db db' :=
    fun heq d hd => ⟨d,heq ▸ hd,.refl d⟩
  cases h with
  | same plans => exact hsame (Prod.mk.inj plans).1
  | advanced commandId state forward plans =>
    intro d hd
    have hdispatches : db'.dispatches = _ := congrArg Prod.fst plans
    refine ⟨_,by rw [hdispatches]; exact mem_modify hd,?_⟩
    split
    · exact ⟨rfl,fun _ => forward⟩
    · exact .refl d
  | known command row ev encoded event found plans => exact hsame (Prod.mk.inj plans).1
  | fresh session command brokerOrderId raw ev encoded event allowed plans =>
    intro d hd
    refine ⟨d,?_,.refl d⟩
    rw [(Prod.mk.inj plans).1]
    exact List.mem_append_left _ hd

/-- One transaction of the runtime keeps the plans. -/
theorem Plans.step {change : Option (String × DispatchState)} (hp : Plans db)
    (h : PlanStep db db' change) : Plans db' := by
  cases h with
  | same plans =>
    have hd : db'.dispatches = _ := congrArg Prod.fst plans
    have hev : db'.plans.2 = _ := congrArg Prod.snd plans
    exact ⟨hd ▸ hp.framed,hd ▸ hp.ids,hd ▸ hp.orders,fun ev hmem => hd ▸ hp.reserved ev (hev ▸ hmem)⟩
  | advanced commandId state forward plans =>
    have hd : db'.dispatches = _ := congrArg Prod.fst plans
    have hev : db'.plans.2 = _ := congrArg Prod.snd plans
    have hmap : ∀ {β : Type} (f : Dispatch → β), (∀ d s, f { d with dispatchState := s } = f d) →
        db'.dispatches.map f = db.dispatches.map f := by
      intro β f hf
      rw [hd,Keyed.modify,List.map_map]
      refine List.map_congr_left fun d _ => ?_
      simp only [Function.comp_apply]
      split
      · exact hf d state
      · rfl
    refine ⟨fun d hmem => ?_,?_,?_,fun ev hmem => ?_⟩
    · rw [hd] at hmem
      obtain ⟨d₀,hmem₀,rfl⟩ := List.mem_map.mp hmem
      split
      · exact (hp.framed d₀ hmem₀).state state
      · exact hp.framed d₀ hmem₀
    · rw [hmap _ fun _ _ => rfl]
      exact hp.ids
    · rw [hmap _ fun _ _ => rfl]
      exact hp.orders
    · obtain ⟨d,hd₀,hkey,htype⟩ := hp.reserved ev (hev ▸ hmem)
      have hpair : (ev.key,ev.commandType) ∈ db'.dispatches.map fun d => (d.key,d.commandType) := by
        rw [hmap _ fun _ _ => rfl]
        exact List.mem_map.mpr ⟨d,hd₀,by rw [hkey,htype]⟩
      obtain ⟨d',hd',heq⟩ := List.mem_map.mp hpair
      exact ⟨d',hd',(Prod.mk.inj heq).1,(Prod.mk.inj heq).2⟩
  | known command row ev encoded event found plans =>
    have hd : db'.dispatches = _ := congrArg Prod.fst plans
    have hev : db'.plans.2 = _ := congrArg Prod.snd plans
    refine ⟨hd ▸ hp.framed,hd ▸ hp.ids,hd ▸ hp.orders,fun ev' hmem => ?_⟩
    rw [hd]
    rw [hev,List.mem_append,List.mem_singleton] at hmem
    rcases hmem with hmem | rfl
    · exact hp.reserved ev' hmem
    · obtain ⟨-,hkey,htype,-⟩ := (hp.framed row (find_mem found)).command encoded
      exact ⟨row,find_mem found,hkey.trans event.1.symm,htype.trans event.2.symm⟩
  | fresh session command brokerOrderId raw ev encoded event allowed plans =>
    have hd : db'.dispatches = _ := congrArg Prod.fst plans
    have hev : db'.plans.2 = _ := congrArg Prod.snd plans
    simp only [dispatchRefused,Bool.or_eq_false_iff,List.any_eq_false] at allowed
    obtain ⟨⟨hrows,-⟩,-⟩ := allowed
    have hid : ∀ d ∈ db.dispatches, d.commandId ≠ command.commandId := by
      intro d hmem heq
      exact hrows d hmem (by simp [plannedDispatch,heq])
    have horder : ∀ d ∈ db.dispatches, (d.key,d.commandType) ≠ (command.orderKey,command.commandType) := by
      intro d hmem heq
      obtain ⟨hkey,htype⟩ := Prod.mk.inj heq
      exact hrows d hmem (by simp [plannedDispatch,hkey,htype])
    refine ⟨fun d hmem => ?_,?_,?_,fun ev' hmem => ?_⟩
    · rw [hd,List.mem_append,List.mem_singleton] at hmem
      rcases hmem with hmem | rfl
      · exact hp.framed d hmem
      · exact plannedDispatch_framed encoded
    · rw [hd,List.map_append,List.nodup_append]
      refine ⟨hp.ids,by simp,?_⟩
      rintro x hx y hy rfl
      obtain ⟨d,hmem,rfl⟩ := List.mem_map.mp hx
      exact hid d hmem (by simpa [plannedDispatch] using hy)
    · rw [hd,List.map_append,List.nodup_append]
      refine ⟨hp.orders,by simp,?_⟩
      rintro x hx y hy rfl
      obtain ⟨d,hmem,rfl⟩ := List.mem_map.mp hx
      exact horder d hmem (by simpa [plannedDispatch] using hy)
    · rw [hev,List.mem_append,List.mem_singleton] at hmem
      rw [hd]
      rcases hmem with hmem | rfl
      · obtain ⟨d,hmem',hd'⟩ := hp.reserved ev' hmem
        exact ⟨d,List.mem_append_left _ hmem',hd'⟩
      · exact ⟨plannedDispatch session command brokerOrderId raw,by simp,event.1.symm,event.2.symm⟩

end

end BigQmt
