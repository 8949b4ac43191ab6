import BigQmt.Txn
set_option autoImplicit false

/-!
Which tables a transaction leaves alone: the journal of the evidence, and the
dispatch plans with the events of the reservations.
-/

namespace BigQmt

open Transact Keyed

/-- A relation that the writes of the order tables and of the sessions keep. -/
structure Frame (G : Db → Db → Prop) : Prop where
  intents : ∀ db rows, G db { db with orderIntents := rows }
  orders : ∀ db rows, G db { db with brokerOrders := rows }
  risk : ∀ db rows, G db { db with riskDecisions := rows }
  events : ∀ db ev, (∃ text, ev.eventType = .named text) →
    G db { db with orderEvents := db.orderEvents ++ [ev] }
  sessions : ∀ db rows, G db { db with runtimeSessions := rows }
  identities : ∀ db rows, G db { db with durableIdentities := rows }

namespace Frame

variable {G : Db → Db → Prop} [IsPreorder Db G] (F : Frame G)

theorem requireIntent_moves (k : OrderKey) (table : String) :
    Tx.Moves G (requireIntent k table) :=
  Tx.moves_bind (Tx.moves_reads _) fun _ => Tx.moves_raiseIf _ _

theorem fetch_moves {α : Type} (k : OrderKey) (select : Db → Option α) :
    Tx.Moves G (fetch k select) := by
  intro db a db' h
  rw [(fetch_eq_ok.mp h).2]
  exact refl db

theorem getStatus_moves (k : OrderKey) : Tx.Moves G (getStatusInTx k) :=
  Tx.moves_bind (fetch_moves k _) fun _ => Tx.moves_pure _

section writers
include F

theorem insertEvent_moves (k : OrderKey) (text : String) (previous : Option OrderStatus)
    (current : OrderStatus) (d : TransitionDisposition) :
    Tx.Moves G (insertEvent ⟨k,.named text,previous,current,d⟩) :=
  Tx.moves_bind (requireIntent_moves k _) fun _ =>
    Tx.moves_writes fun db => F.events db _ ⟨text,rfl⟩

theorem insertIntent_moves (row : IntentColumns) : Tx.Moves G (insertIntent row) :=
  Tx.moves_bind (Tx.moves_reads _) fun _ => Tx.moves_bind (Tx.moves_raiseIf _ _) fun _ =>
    Tx.moves_writes fun db => F.intents db _

theorem insertOrder_moves (row : BrokerOrder) : Tx.Moves G (insertOrder row) :=
  Tx.moves_bind (requireIntent_moves _ _) fun _ => Tx.moves_bind (Tx.moves_reads _) fun _ =>
    Tx.moves_bind (Tx.moves_raiseIf _ _) fun _ => Tx.moves_writes fun db => F.orders db _

theorem insertRisk_moves (row : RiskRow) : Tx.Moves G (insertRisk row) :=
  Tx.moves_bind (requireIntent_moves _ _) fun _ => Tx.moves_bind (Tx.moves_reads _) fun _ =>
    Tx.moves_bind (Tx.moves_raiseIf _ _) fun _ => Tx.moves_writes fun db => F.risk db _

theorem transitionInTx_moves (k : OrderKey) (req : TransitionRequest) :
    Tx.Moves G (transitionInTx k req) :=
  Tx.moves_bind (fetch_moves k _) fun _ => Tx.moves_bind (Tx.moves_ofExcept _) fun _ =>
    Tx.moves_bind (Tx.moves_writes fun db => F.orders db _) fun _ =>
    Tx.moves_bind (F.insertEvent_moves _ _ _ _ _) fun _ => Tx.moves_pure _

theorem markManualReviewInTx_moves (k : OrderKey) (eventType : String) (resolved : Option Bool) :
    Tx.Moves G (markManualReviewInTx k eventType resolved) :=
  Tx.moves_bind (fetch_moves k _) fun _ =>
    Tx.moves_bind (Tx.moves_writes fun db => F.orders db _) fun _ => F.insertEvent_moves _ _ _ _ _

theorem markConflictInTx_moves (k : OrderKey) (filled : Option Int) :
    Tx.Moves G (markBrokerConflictManualReviewInTx k filled) :=
  Tx.moves_bind (fetch_moves k _) fun _ => Tx.moves_bind (Tx.moves_ofExcept _) fun _ =>
    Tx.moves_bind (Tx.moves_writes fun db => F.orders db _) fun _ => F.insertEvent_moves _ _ _ _ _

theorem createIntentInTx_moves (intent : OrderIntent) : Tx.Moves G (createIntentInTx intent) :=
  Tx.moves_bind (Tx.moves_attempt (F.insertIntent_moves _)) fun _ =>
    Tx.moves_bind (Tx.moves_raiseIf _ _) fun _ => Tx.moves_bind (F.insertOrder_moves _) fun _ =>
    F.insertEvent_moves _ _ _ _ _

theorem recordRiskDecisionInTx_moves (k : OrderKey) (decision : RiskDecision) :
    Tx.Moves G (recordRiskDecisionInTx k decision) :=
  Tx.moves_bind (F.insertRisk_moves _) fun _ => Tx.moves_bind (F.transitionInTx_moves _ _) fun _ =>
    Tx.moves_pure _

theorem ingestCommandResultInTx_moves
    (hresults : ∀ db row, G db { db with commandResults := db.commandResults ++ [row] })
    (r : CommandResult) : Tx.Moves G (ingestCommandResultInTx r) := by
  refine Tx.moves_bind (Tx.moves_reads _) fun existing => ?_
  cases existing with
  | some row =>
    refine Tx.moves_bind (Tx.moves_raiseIf _ _) fun _ => ?_
    cases r.clientOrderId with
    | none => exact Tx.moves_pure _
    | some c => exact Tx.moves_bind (getStatus_moves _) fun _ => Tx.moves_pure _
  | none =>
    refine Tx.moves_bind (Tx.moves_reads _) fun _ => Tx.moves_bind (Tx.moves_raiseIf _ _) fun _ => ?_
    cases r.clientOrderId with
    | none =>
      exact Tx.moves_bind (Tx.moves_writes fun db => hresults db _) fun _ => Tx.moves_pure _
    | some c =>
      refine Tx.moves_bind (requireIntent_moves _ _) fun _ =>
        Tx.moves_bind (Tx.moves_writes fun db => hresults db _) fun _ => ?_
      refine Tx.moves_bind (Tx.moves_bind (getStatus_moves _) fun _ => F.transitionInTx_moves _ _)
        fun _ => ?_
      exact Tx.moves_bind (Tx.moves_raiseIf _ _) fun _ => Tx.moves_pure _

theorem insertIdentity_moves (row : DurableIdentity) : Tx.Moves G (insertIdentity row) :=
  Tx.moves_bind (requireIntent_moves _ _) fun _ => Tx.moves_bind (Tx.moves_reads _) fun _ =>
    Tx.moves_bind (Tx.moves_raiseIf _ _) fun _ => Tx.moves_writes fun db => F.identities db _

theorem registerInTx_moves (row : DurableIdentity) (allow : Bool) :
    Tx.Moves G (registerQmtDurableSubmitInTx row allow) := by
  refine Tx.moves_bind (Tx.moves_reads _) fun stored => ?_
  cases stored with
  | some r =>
    change Tx.Moves G (knownIdentity row r)
    unfold knownIdentity
    split
    · exact Tx.moves_bind (Tx.moves_writes fun db => F.identities db _) fun _ => Tx.moves_pure _
    · exact Tx.moves_bind (Tx.moves_raiseIf _ _) fun _ => Tx.moves_pure _
  | none =>
    refine Tx.moves_bind (Tx.moves_reads _) fun existing => ?_
    split
    · exact Tx.moves_bind (Tx.moves_raiseIf _ _) fun _ =>
        Tx.moves_bind (F.insertIdentity_moves _) fun _ => Tx.moves_bind (getStatus_moves _) fun _ =>
        Tx.moves_bind (F.insertEvent_moves _ _ _ _ _) fun _ => Tx.moves_pure _
    · exact Tx.moves_bind (Tx.moves_raiseIf _ _) fun _ =>
        Tx.moves_bind (F.insertIntent_moves _) fun _ =>
        Tx.moves_bind (F.insertOrder_moves _) fun _ => Tx.moves_bind (F.insertIdentity_moves _)
        fun _ => Tx.moves_bind (F.insertEvent_moves _ _ _ _ _) fun _ => Tx.moves_pure _

theorem startSessionInTx_moves (sessionId : String) : Tx.Moves G (startSessionInTx sessionId) :=
  Tx.moves_bind (Tx.moves_reads _) fun _ => Tx.moves_bind (Tx.moves_raiseIf _ _) fun _ =>
    Tx.moves_writes fun db => F.sessions db _

end writers

theorem guarded_moves {α : Type} {x : DbTx α} (g : Guard) (now : Nat) (hx : Tx.Moves G x) :
    Tx.Moves G (guarded g now x) := by
  refine Tx.moves_bind (fun db u db' h => ?_) fun _ => hx
  rw [(guardWrite_eq_ok.mp h).2]
  exact refl db

end Frame

section plans
variable {G : Db → Db → Prop} [IsPreorder Db G] (F : Frame G)
include F

theorem Frame.reserveInTx_moves (hevents : ∀ db ev, G db { db with orderEvents := db.orderEvents ++ [ev] })
    (k : OrderKey) (target : OrderStatus) (eventType : OrderEventType)
    (already : PyError) (started : BrokerOrder → Bool) (reserve : BrokerOrder → BrokerOrder) :
    Tx.Moves G (reserveInTx k target eventType already started reserve) := by
  intro db u db' h
  obtain ⟨r,i,o,-,-,-,-,-,rfl⟩ := reserveInTx_ok h
  exact IsTrans.trans _ _ _ (F.orders db _) (hevents (db.updateOrder k reserve) _)

variable (hdispatches : ∀ db rows, G db { db with dispatches := rows })
include hdispatches

theorem Frame.persistDispatchInTx_moves (sessionId : String) (command : QmtCommand)
    (brokerOrderId : Option String) (raw : Raw) :
    Tx.Moves G (persistDispatchInTx sessionId command brokerOrderId raw) := by
  refine Tx.moves_bind (Tx.moves_reads _) fun existing => ?_
  cases existing with
  | some row => exact Tx.moves_bind (Tx.moves_raiseIf _ _) fun _ => Tx.moves_pure _
  | none =>
    refine Tx.moves_bind (Tx.moves_bind (requireIntent_moves _ _) fun _ =>
      Tx.moves_bind (Tx.moves_reads _) fun _ => Tx.moves_bind (Tx.moves_raiseIf _ _) fun _ =>
      Tx.moves_writes fun db => hdispatches db _) fun _ => ?_
    exact Tx.moves_bind (getStatus_moves _) fun _ =>
      Tx.moves_bind (F.insertEvent_moves _ _ _ _ _) fun _ => Tx.moves_pure _

theorem Frame.reserveAndPersistInTx_moves
    (hevents : ∀ db ev, G db { db with orderEvents := db.orderEvents ++ [ev] }) (sessionId : String)
    (command : QmtCommand) (brokerOrderId : Option String) (cancel : Bool) (raw : Raw) :
    Tx.Moves G (reserveAndPersistDispatchInTx sessionId command brokerOrderId cancel raw) := by
  have hpersist := F.persistDispatchInTx_moves hdispatches sessionId command brokerOrderId raw
  cases cancel with
  | true => exact Tx.moves_bind (F.reserveInTx_moves hevents _ _ _ _ _ _) fun _ => hpersist
  | false => exact Tx.moves_bind (F.reserveInTx_moves hevents _ _ _ _ _ _) fun _ => hpersist

theorem Frame.failDispatchInTx_moves (command : QmtCommand) (eventType : String) :
    Tx.Moves G (failDispatchManualReviewInTx command eventType) :=
  Tx.moves_bind (Tx.moves_writes fun db => hdispatches db _) fun _ =>
    F.markManualReviewInTx_moves _ _ _

end plans

/-- The transactions that write the tables of the orders only. -/
def Txn.orderTables : {α : Type} → Txn α → Bool
  | _,.acquire _ _ _ _ | _,.heartbeat _ _ _ | _,.release _ | _,.prepareSubmit _ _
  | _,.prepareCancel _ _ | _,.ingestEvidence _ _ | _,.ingestCommandResult _ _
  | _,.reserveAndPersistDispatch _ _ _ _ _ _ | _,.setDispatchState _ _ _
  | _,.failDispatchManualReview _ _ _ => false
  | _,_ => true

theorem Frame.txn_moves {G : Db → Db → Prop} [IsPreorder Db G] (F : Frame G) {α : Type} {t : Txn α}
    (ht : t.orderTables = true) (now : Nat) : Tx.Moves G (t.body now) := by
  cases t with
  | startSession => exact guarded_moves _ _ (F.startSessionInTx_moves _)
  | markSessionReconciled =>
    exact guarded_moves _ _ (Tx.moves_writes fun db => F.sessions db _)
  | createIntent => exact guarded_moves _ _ (F.createIntentInTx_moves _)
  | recordRiskDecision => exact guarded_moves _ _ (F.recordRiskDecisionInTx_moves _ _)
  | transitionOrder => exact guarded_moves _ _ (F.transitionInTx_moves _ _)
  | registerDurableSubmit => exact guarded_moves _ _ (F.registerInTx_moves _ _)
  | markManualReview => exact guarded_moves _ _ (F.markManualReviewInTx_moves _ _ _)
  | _ => simp [Txn.orderTables] at ht

/-- A relation that also the plans keep: every transaction moves along it, the two
journals and the lease calls apart. -/
theorem Frame.txn_cases {G : Db → Db → Prop} [IsPreorder Db G] (F : Frame G)
    (hevents : ∀ db ev, G db { db with orderEvents := db.orderEvents ++ [ev] })
    (hdispatches : ∀ db rows, G db { db with dispatches := rows }) {α : Type} {t : Txn α}
    {now : Nat} {a : α} {db db' : Db} (h : t.body now db = .ok (a,db')) :
    G db db' ∨ (∃ e res, ingestInTx e db = .ok (res,db')) ∨
      (∃ r res, ingestCommandResultInTx r db = .ok (res,db')) ∨
      (t.guard? = none ∧ ∃ row, db' = { db with omsLeader := row }) := by
  have hmoves : ∀ {x : DbTx α} {g : Guard}, Tx.Moves G x →
      guarded g now x db = .ok (a,db') → G db db' :=
    fun hx h => hx db a db' (guarded_ok.mp h).2
  cases t with
  | ingestEvidence g e => exact .inr (.inl ⟨e,a,(guarded_ok.mp h).2⟩)
  | ingestCommandResult g r => exact .inr (.inr (.inl ⟨r,a,(guarded_ok.mp h).2⟩))
  | acquire =>
    obtain ⟨row,hrow⟩ := acquire_ok h
    exact .inr (.inr (.inr ⟨rfl,_,hrow⟩))
  | heartbeat =>
    obtain ⟨row,hrow⟩ := heartbeat_ok h
    exact .inr (.inr (.inr ⟨rfl,_,hrow⟩))
  | release =>
    obtain ⟨row,hrow⟩ := release_ok h
    exact .inr (.inr (.inr ⟨rfl,_,hrow⟩))
  | prepareSubmit => exact .inl (hmoves (F.reserveInTx_moves hevents _ _ _ _ _ _) h)
  | prepareCancel => exact .inl (hmoves (F.reserveInTx_moves hevents _ _ _ _ _ _) h)
  | reserveAndPersistDispatch =>
    exact .inl (hmoves (F.reserveAndPersistInTx_moves hdispatches hevents _ _ _ _ _) h)
  | setDispatchState g commandId state =>
    have hset : Tx.Moves G (setDispatchStateInTx commandId state) :=
      Tx.moves_writes fun db => hdispatches db _
    exact .inl (hmoves hset h)
  | failDispatchManualReview =>
    exact .inl (hmoves (F.failDispatchInTx_moves hdispatches _ _) h)
  | _ => exact .inl (F.txn_moves rfl now db a db' h)

/-- The two tables that `EvidenceJournal` keeps. -/
def Db.journal (db : Db) : List EvidenceKey × List Observation := (db.evidenceKeys,db.observations)

def SameJournal (db db' : Db) : Prop := db'.journal = db.journal

instance : IsPreorder Db SameJournal where
  refl _ := rfl
  trans _ _ _ h₁ h₂ := Eq.trans h₂ h₁

theorem journalFrame : Frame SameJournal := by
  constructor <;> (intros; rfl)

/-- Only an ingest writes the journal. -/
theorem Txn.journal_cases {α : Type} {t : Txn α} {now : Nat} {a : α} {db db' : Db}
    (h : t.body now db = .ok (a,db')) :
    SameJournal db db' ∨ ∃ e res, ingestInTx e db = .ok (res,db') := by
  obtain hj | hin | ⟨r,res,hin⟩ | ⟨-,row,rfl⟩ :=
    journalFrame.txn_cases (fun _ _ => rfl) (fun _ _ => rfl) h
  · exact .inl hj
  · exact .inr hin
  · exact .inl (journalFrame.ingestCommandResultInTx_moves (fun _ _ => rfl) r db res db' hin)
  · exact .inl rfl

def SameResults (db db' : Db) : Prop := db'.commandResults = db.commandResults

instance : IsPreorder Db SameResults where
  refl _ := rfl
  trans _ _ _ h₁ h₂ := Eq.trans h₂ h₁

theorem resultsFrame : Frame SameResults := by
  constructor <;> (intros; rfl)

theorem ingest_results {e : BrokerEvidenceV1} {db db' : Db}
    {res : Except String EvidenceIngestResult} (h : ingestInTx e db = .ok (res,db')) :
    SameResults db db' := by
  cases ingest_cases h with
  | applied o db₁ hn hm => exact resultsFrame.transitionInTx_moves _ _ db o db₁ hm
  | conflict err reason filled _ hn _ _ hm =>
    have hmark : SameResults _ db' := resultsFrame.markConflictInTx_moves _ _ _ _ _ hm
    exact hmark
  | _ => rfl

/-- Only the journal of the command results writes their table. -/
theorem Txn.results_cases {α : Type} {t : Txn α} {now : Nat} {a : α} {db db' : Db}
    (h : t.body now db = .ok (a,db')) :
    SameResults db db' ∨ ∃ r res, ingestCommandResultInTx r db = .ok (res,db') := by
  obtain hr | ⟨e,res,hin⟩ | hin | ⟨-,row,rfl⟩ :=
    resultsFrame.txn_cases (fun _ _ => rfl) (fun _ _ => rfl) h
  · exact .inl hr
  · exact .inl (ingest_results hin)
  · exact .inr hin
  · exact .inl rfl

/-- The tables that are only ever appended to. -/
structure Appends (db db' : Db) : Prop where
  keys : db.evidenceKeys <+: db'.evidenceKeys
  observations : db.observations <+: db'.observations
  results : db.commandResults <+: db'.commandResults

namespace Appends

theorem refl (db : Db) : Appends db db :=
  ⟨List.prefix_refl _,List.prefix_refl _,List.prefix_refl _⟩

theorem trans {a b c : Db} (h₁ : Appends a b) (h₂ : Appends b c) : Appends a c :=
  ⟨h₁.keys.trans h₂.keys,h₁.observations.trans h₂.observations,h₁.results.trans h₂.results⟩

end Appends

instance : IsPreorder Db Appends where
  refl := Appends.refl
  trans _ _ _ h₁ h₂ := h₁.trans h₂

theorem Appends.of_eq {db db' : Db} (hj : SameJournal db db')
    (hr : db'.commandResults = db.commandResults) : Appends db db' := by
  obtain ⟨hk,ho⟩ := Prod.mk.inj hj
  exact ⟨hk ▸ List.prefix_refl _,ho ▸ List.prefix_refl _,hr ▸ List.prefix_refl _⟩

theorem appendsFrame : Frame Appends := by
  constructor <;> (intros; exact Appends.of_eq rfl rfl)

theorem Appends.record (e : BrokerEvidenceV1) (c : Classification) (db : Db) :
    Appends db (db.record e c) :=
  ⟨List.prefix_refl _,List.prefix_append _ _,List.prefix_refl _⟩

theorem Appends.recordKey (row : EvidenceKey) (db : Db) : Appends db (db.recordKey row) :=
  ⟨List.prefix_append _ _,List.prefix_refl _,List.prefix_refl _⟩

theorem ingest_appends {e : BrokerEvidenceV1} {db db' : Db}
    {res : Except String EvidenceIngestResult} (h : ingestInTx e db = .ok (res,db')) :
    Appends db db' := by
  cases ingest_cases h with
  | reused row rows events =>
    exact (Appends.record e .conflict db).trans (.of_eq rfl rfl)
  | known => exact .record _ _ _
  | knownConflict => exact .record _ _ _
  | suppressed => exact (Appends.recordKey _ db).trans (.record _ _ _)
  | applied o db₁ hn hm =>
    have h₁ : Appends db db₁ := appendsFrame.transitionInTx_moves _ _ db o db₁ hm
    have h₂ := h₁.trans (.recordKey ⟨evidenceFingerprint e,true,some o.disposition,none⟩ db₁)
    exact h₂.trans (.record _ _ _)
  | conflict err reason filled _ hn _ _ hm =>
    have h₁ := (Appends.recordKey ⟨evidenceFingerprint e,false,none,some reason⟩ db).trans
      (.record e .conflict _)
    exact h₁.trans (appendsFrame.markConflictInTx_moves _ _ _ _ _ hm)

theorem Txn.appends {α : Type} {t : Txn α} {now : Nat} {a : α} {db db' : Db}
    (h : t.body now db = .ok (a,db')) : Appends db db' := by
  obtain happ | ⟨e,res,hin⟩ | ⟨r,res,hin⟩ | ⟨-,row,rfl⟩ :=
    appendsFrame.txn_cases (fun _ _ => .of_eq rfl rfl) (fun _ _ => .of_eq rfl rfl) h
  · exact happ
  · exact ingest_appends hin
  · refine appendsFrame.ingestCommandResultInTx_moves (fun db row => ?_) r db res db' hin
    exact ⟨List.prefix_refl _,List.prefix_refl _,List.prefix_append _ _⟩
  · exact .of_eq rfl rfl

def SameLeader (db db' : Db) : Prop := db'.omsLeader = db.omsLeader

instance : IsPreorder Db SameLeader where
  refl _ := rfl
  trans _ _ _ h₁ h₂ := Eq.trans h₂ h₁

theorem leaderFrame : Frame SameLeader := by
  constructor <;> (intros; rfl)

theorem ingest_leader {e : BrokerEvidenceV1} {db db' : Db}
    {res : Except String EvidenceIngestResult} (h : ingestInTx e db = .ok (res,db')) :
    SameLeader db db' := by
  cases ingest_cases h with
  | applied o db₁ hn hm => exact leaderFrame.transitionInTx_moves _ _ db o db₁ hm
  | conflict err reason filled _ hn _ _ hm =>
    have hmark : SameLeader _ db' := leaderFrame.markConflictInTx_moves _ _ _ _ _ hm
    exact hmark
  | _ => rfl

/-- A guarded transaction leaves the lease row alone, and a lease call everything else. -/
theorem Txn.leader_cases {α : Type} {t : Txn α} {now : Nat} {a : α} {db db' : Db}
    (h : t.body now db = .ok (a,db')) :
    SameLeader db db' ∨ (t.guard? = none ∧ ∃ row, db' = { db with omsLeader := row }) := by
  obtain hl | ⟨e,res,hin⟩ | ⟨r,res,hin⟩ | hrow :=
    leaderFrame.txn_cases (fun _ _ => rfl) (fun _ _ => rfl) h
  · exact .inl hl
  · exact .inl (ingest_leader hin)
  · exact .inl (leaderFrame.ingestCommandResultInTx_moves (fun _ _ => rfl) r db res db' hin)
  · exact .inr hrow

end BigQmt
