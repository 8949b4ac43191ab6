import BigQmt.Frames
import BigQmt.Learning
import BigQmt.Lease
import BigQmt.RuntimePrograms
set_option autoImplicit false

/-!
Write fencing: which process can change the durable tables, whatever the others
do to the lease.
-/

namespace BigQmt

open Resumption Proc Transact

/-- The leases that an answer hands to its process. -/
def Eff.leases : {β : Type} → Eff β → β → List LeaderLease
  | _,.txn (.acquire _ _ _ _),.ok lease => [lease]
  | _,.txn (.heartbeat _ _ _),.ok lease => [lease]
  | _,_,_ => []

/-- A transaction on behalf of a lease that the process was given. A process takes
one lease in its life. -/
def Txn.backed : {α : Type} → Txn α → List LeaderLease → Prop
  | _,.acquire _ _ _ _,known => known = []
  | _,.heartbeat lease _ _,known => ∃ l ∈ known, l.same lease
  | _,t,known => ∀ g, t.guard? = some g → ∃ l ∈ known, l.same g.lease

def Eff.backed : {β : Type} → Eff β → List LeaderLease → Prop
  | _,.txn t,known => t.backed known
  | _,_,_ => True

def leaseLearning : Learning Eff LeaderLease := ⟨Eff.leases,Eff.backed⟩

theorem LeaderLease.same.refl (l : LeaderLease) : l.same l := ⟨rfl,rfl,rfl⟩

theorem Txn.backed_of_guard {α : Type} {t : Txn α} {g : Guard} {known : List LeaderLease}
    (hg : t.guard? = some g) (hl : ∃ l ∈ known, l.same g.lease) : t.backed known := by
  cases t <;> first | cases hg; exact fun _ h => Option.some.inj h ▸ hl | cases hg

theorem Txn.guard_of_backed {α : Type} {t : Txn α} {g : Guard} {known : List LeaderLease}
    (hb : t.backed known) (hg : t.guard? = some g) : ∃ l ∈ known, l.same g.lease := by
  cases t <;> first | exact hb g hg | cases hg

/-- The object holds a lease that its process was given. -/
def Holds {σ : Type} (lease : σ → LeaderLease) (known : List LeaderLease) (s : σ) : Prop :=
  ∃ l ∈ known, l.same (lease s)

section
variable {σ : Type} {lease : σ → LeaderLease}

theorem Holds.grow {known : List LeaderLease} {s : σ} (h : Holds lease known s)
    (more : List LeaderLease) : Holds lease (more ++ known) s := by
  obtain ⟨l,hl,hsame⟩ := h
  exact ⟨l,List.mem_append.mpr (.inr hl),hsame⟩

theorem follows_ask {α : Type} {o : Eff α} (ho : ∀ known, o.backed known) :
    (ask o : Proc Eff PyError σ α).Follows leaseLearning (Holds lease) :=
  fun _ known hs => ⟨ho known,fun _ => hs.grow _⟩

theorem follows_call {α : Type} {o : Eff (Except PyError α)} (ho : ∀ known, o.backed known) :
    (call o : Proc Eff PyError σ α).Follows leaseLearning (Holds lease) :=
  fun _ known hs => ⟨ho known,fun _ => hs.grow _⟩

theorem Eff.backed_of_plain {β : Type} {o : Eff β} (h : o.plain = true)
    (known : List LeaderLease) : o.backed known := by
  cases o <;> trivial

theorem follows_guarded {α : Type} {t : Guard → Txn α} {guard : σ → Guard}
    (ht : ∀ g, (t g).guard? = some g) (hl : ∀ s, (guard s).lease = lease s) :
    (self >>= fun s => call (.txn (t (guard s))) : Proc Eff PyError σ α).Follows leaseLearning
      (Holds lease) := by
  intro s known hs
  refine ⟨Txn.backed_of_guard (ht (guard s)) ?_,fun _ => hs.grow _⟩
  rw [hl]
  exact hs

end

theorem omsHeartbeat_follows : omsHeartbeat.Follows leaseLearning (Holds OmsState.lease) := by
  refine follows_self fun s known hs => ?_
  split
  · exact hs
  · refine ⟨trivial,fun now => ⟨hs,fun r => ?_⟩⟩
    cases r with
    | error e => exact hs
    | ok lease => exact ⟨lease,by simp [leaseLearning,Eff.leases],.refl lease⟩

theorem omsClose_follows : omsClose.Follows leaseLearning (Holds OmsState.lease) := by
  refine follows_self fun s known hs => ?_
  split
  · exact hs
  · refine ⟨fun g hg => ?_,fun r => ?_⟩
    · cases hg
    · cases r with
      | error e => exact hs
      | ok b => exact hs

theorem durable_follows {α : Type} {t : Guard → Txn α} (ht : ∀ g, (t g).guard? = some g) :
    (durable t).Follows leaseLearning (Holds OmsState.lease) := follows_guarded ht fun _ => rfl

theorem oms_closed : OmsClosed (fun x => x.Follows leaseLearning (Holds OmsState.lease)) where
  toClosed := follows_closed
  ask h := follows_ask (Eff.backed_of_plain h)
  call h := follows_call (Eff.backed_of_plain h)
  durable h _ := durable_follows h
  heartbeat := omsHeartbeat_follows
  close := omsClose_follows
  ready _ _ hs := hs

theorem follows_asked {α β : Type} {o : Eff α} {f : α → Runtime β} {s : RuntimeState}
    {known : List LeaderLease} (ho : o.backed known)
    (h : ∀ a, (f a s).Follows leaseLearning (fun known r => Holds RuntimeState.lease known r.2)
      (o.leases a ++ known)) :
    ((ask o >>= f) s).Follows leaseLearning (fun known r => Holds RuntimeState.lease known r.2)
      known := ⟨ho,h⟩

theorem maintain_follows :
    Runtime.maintain.Follows leaseLearning (Holds RuntimeState.lease) := by
  refine follows_self fun s known hs => follows_asked trivial fun started => ?_
  by_cases hdue : s.lastHeartbeat + 10000000 ≤ started
  · rw [if_pos hdue]
    refine follows_asked trivial fun now => ⟨hs,fun r => ?_⟩
    cases r with
    | error e => exact hs
    | ok lease =>
      refine ⟨trivial,fun ended => ?_⟩
      exact ⟨lease,by simp [leaseLearning,Eff.leases],.refl lease⟩
  · rw [if_neg hdue]
    exact hs

theorem close_follows : Runtime.close.Follows leaseLearning (Holds RuntimeState.lease) := by
  refine follows_self fun s known hs => ?_
  split
  · exact hs
  · refine ⟨fun g hg => ?_,fun r => ?_⟩
    · cases hg
    · cases r with
      | error e => exact hs
      | ok b => exact hs

theorem runtime_closed :
    RuntimeClosed (fun x => x.Follows leaseLearning (Holds RuntimeState.lease)) where
  toClosed := follows_closed
  ask h := follows_ask (Eff.backed_of_plain h)
  call h := follows_call (Eff.backed_of_plain h)
  durable h _ := follows_guarded h fun _ => rfl
  maintain := maintain_follows
  close := close_follows
  mapper _ _ _ hs := hs

theorem constructOms_follows (secs : Nat) : (constructOms secs ()).Follows leaseLearning
    (fun known r => ∀ s, r.1 = .ok s → Holds OmsState.lease known s) [] := by
  unfold constructOms
  split
  · intro s hs
    cases hs
  · refine ⟨trivial,fun sessionId => ⟨trivial,fun now => ⟨trivial,fun token => ⟨rfl,fun r => ?_⟩⟩⟩⟩
    cases r with
    | error e =>
      intro s hs
      cases hs
    | ok lease =>
      refine ⟨fun g hg => ?_,fun started => ?_⟩
      · cases hg
        exact ⟨lease,by simp [leaseLearning,Eff.leases],.refl lease⟩
      · cases started with
        | ok u =>
          rintro s hs
          cases hs
          exact ⟨lease,by simp [leaseLearning,Eff.leases],.refl lease⟩
        | error e =>
          refine ⟨fun g hg => ?_,fun released => ?_⟩
          · cases hg
          cases released with
          | ok b =>
            intro s hs
            cases hs
          | error e =>
            intro s hs
            cases hs

theorem omsProcess_follows (secs : Nat) (ops : List OmsOp) :
    (omsProcess secs ops).Follows leaseLearning (fun _ _ => True) [] := by
  refine Prog.Follows.bind ((constructOms_follows secs).mono fun known r hr => ?_)
  rcases r with ⟨e | s,u⟩
  · trivial
  · have hT : ∀ k req, (transitionOrder k req).Follows leaseLearning (Holds OmsState.lease) :=
      fun _ _ => durable_follows fun _ => rfl
    have hperform := perform_holds oms_closed (fun k req _ => hT k req) (fun _ => follows_ask fun _ => trivial)
      (fun _ => follows_ask fun _ => trivial)
    have hops := oms_closed.each hperform ops
    refine Prog.Follows.bind ((hops s known (hr s rfl)).mono fun _ _ _ => ?_)
    trivial

theorem construct_follows (inst : QmtInstance) : (Runtime.construct inst ()).Follows leaseLearning
    (fun known r => ∀ s, r.1 = .ok s → Holds RuntimeState.lease known s) [] := by
  unfold Runtime.construct
  split
  · intro s hs
    cases hs
  · refine ⟨trivial,fun now => ⟨trivial,fun token => ⟨rfl,fun r => ?_⟩⟩⟩
    cases r with
    | error e =>
      intro s hs
      cases hs
    | ok lease =>
      refine ⟨trivial,fun started s hs => ?_⟩
      cases hs
      exact ⟨lease,by simp [leaseLearning,Eff.leases],.refl lease⟩

theorem runtime_follows (inst : QmtInstance) (ops : List Runtime.Op) :
    (Runtime.process inst ops).Follows leaseLearning (fun _ _ => True) [] := by
  refine Prog.Follows.bind ((construct_follows inst).mono fun known r hr => ?_)
  rcases r with ⟨e | s,u⟩
  · trivial
  · have hpublish := Runtime.publish_holds runtime_closed.calm
      (fun _ _ _ _ => follows_call fun _ => trivial)
    have hserve := Runtime.serve_holds runtime_closed hpublish ops
    refine Prog.Follows.bind ((hserve s known (hr s rfl)).mono fun _ _ _ => ?_)
    trivial

/-- An `OfflineOms` or a `GuojinSimOmsRuntime`. -/
def Start.isOms : Start → Bool
  | .oms _ _ | .runtime _ _ => true
  | _ => false

/-- Any number of OMS processes on one database. -/
def omsSystem : Machine Eff Choice World Start := system fun _ start => start.isOms

theorem boot_follows {start : Start} (h : start.isOms = true) :
    start.boot.Follows leaseLearning (fun _ _ => True) [] := by
  cases start with
  | oms secs ops => exact omsProcess_follows secs ops
  | runtime inst ops => exact runtime_follows inst ops
  | publisher commands => cases h
  | bridge account ticks => cases h

/-- The leases that the process in a slot was given since it was started. -/
def leases (before : List (Move Choice Start)) : Nat → List LeaderLease :=
  omsSystem.known leaseLearning (Machine.boots World.initial) (fun _ => []) before

/-- The token of an `acquire`. -/
def Eff.tokens : {β : Type} → Eff β → List String
  | _,.txn (.acquire _ token _ _) => [token]
  | _,_ => []

/-- The tables that the lease guards. -/
def Db.fenced (db : Db) : List BrokerOrder × List OrderEvent × List RiskRow × List EvidenceKey ×
    List Observation × List CommandResultRow × List DurableIdentity × List Dispatch :=
  (db.brokerOrders,db.orderEvents,db.riskDecisions,db.evidenceKeys,db.observations,
    db.commandResults,db.durableIdentities,db.dispatches)

theorem Guard.row_of_check {g : Guard} {now : Nat} {db : Db} (h : g.check now db = .ok ()) :
    ∃ r, db.omsLeader = some r ∧ g.lease.matches r = true ∧ now < r.expiresAt := by
  unfold Guard.check refuse at h
  split at h
  · cases h
  · refine assertHeld_isOk.mp ?_
    rw [h]
    rfl

/-- A transaction that changes these tables has checked its lease against the row. -/
theorem Txn.fenced_cases {α : Type} {t : Txn α} {now : Nat} {a : α} {db db' : Db}
    (h : t.body now db = .ok (a,db')) :
    db'.fenced = db.fenced ∨ ∃ g r, t.guard? = some g ∧ db.omsLeader = some r ∧
      g.lease.matches r = true ∧ now < r.expiresAt := by
  have hguard : ∀ {g : Guard} {x : DbTx α}, guarded g now x db = .ok (a,db') →
      ∃ r, db.omsLeader = some r ∧ g.lease.matches r = true ∧ now < r.expiresAt :=
    fun h => Guard.row_of_check (guarded_ok.mp h).1
  cases t with
  | acquire =>
    obtain ⟨row,rfl⟩ := acquire_ok h
    exact .inl rfl
  | heartbeat =>
    obtain ⟨row,rfl⟩ := heartbeat_ok h
    exact .inl rfl
  | release =>
    obtain ⟨row,rfl⟩ := release_ok h
    exact .inl rfl
  | _ => exact .inr ⟨_,_,rfl,(hguard h).choose_spec⟩

/-- A step that changes the database commits a transaction. -/
theorem step_commits {allows : Nat → Start → Bool} {s t : Sys Eff World} {pid : Nat} {c : Choice}
    (h : (system allows).move s (.step pid c) = some t) (hdb : t.world.db ≠ s.world.db) :
    ∃ (α : Type) (x : Txn α) (a : α) (k : Except PyError α → Prog Eff Unit),
      s.threads pid = some (.op (.txn x) k) ∧
      x.body c.now s.world.db = .ok (a,t.world.db) := by
  obtain ⟨_,_,_,_,rfl⟩ | ⟨_,rfl⟩ | ⟨pid',c',β,o,k,hm,ho,rfl⟩ := (system allows).move_cases h
  · exact absurd rfl hdb
  · exact absurd rfl hdb
  · cases hm
    cases o with
    | txn x =>
      obtain ⟨e,he⟩ | ⟨a,db',hb,he⟩ := x.run_cases c s.world.db
      · have hsame : ((exec (.txn x) c s.world).2).db = s.world.db := by simp [exec,he]
        exact absurd hsame hdb
      · refine ⟨_,x,a,k,ho,?_⟩
        have hnew : ((exec (.txn x) c s.world).2).db = db' := by simp [exec,he]
        change x.body c.now s.world.db = .ok (a,((exec (.txn x) c s.world).2).db)
        rw [hnew]
        exact hb
    | readFile dir name => 
      cases hl : s.world.spool.lookup dir name <;> simp [system,exec,hl] at hdb
    | renameTemp id raw e n => cases hf : c.fault <;> simp [system,exec,hf,World.rename] at hdb
    | move a b n =>
      cases hf : c.fault with
      | some e => simp [system,exec,hf] at hdb
      | none => cases hl : s.world.spool.move a b n <;> simp [system,exec,hf,hl] at hdb
    | _ => exact absurd rfl hdb

theorem heartbeat_token {lease l : LeaderLease} {secs now : Nat} {db db' : Db}
    (h : heartbeat lease secs now db = .ok (l,db')) : l.leaseToken = lease.leaseToken := by
  rw [heartbeat,Tx.reads_bind] at h
  cases hr : db.omsLeader with
  | none => simp [hr] at h
  | some r =>
    simp only [hr,Tx.bind_eq_ok,Tx.raiseIf_eq_ok,Tx.writes_bind,Tx.pure_eq_ok] at h
    obtain ⟨_,_,_,_,_,_,hl,-⟩ := h
    rw [hl]

/-- A lease that an answer hands over is the grant of an `acquire`, or the renewal of a
lease that is in the row. -/
theorem learned_cases {β : Type} {o : Eff β} {c : Choice} {w : World} {l : LeaderLease}
    (h : l ∈ o.leases (exec o c w).1) :
    (∃ sessionId token secs now,
      (∀ P : {γ : Type} → Eff γ → Prop, P o → P (.txn (.acquire sessionId token secs now))) ∧
        l.leaseToken ∈ o.tokens) ∨
      ∃ lease secs now, (∀ P : {γ : Type} → Eff γ → Prop, P o → P (.txn (.heartbeat lease secs now))) ∧
        l.leaseToken = lease.leaseToken ∧
        ∃ r, w.db.omsLeader = some r ∧ lease.matches r = true := by
  cases o with
  | txn t =>
    cases t with
    | acquire sessionId token secs now =>
      obtain ⟨e,he⟩ | ⟨a,db',hb,he⟩ := (Txn.acquire sessionId token secs now).run_cases c w.db
      · simp [exec,he,Eff.leases] at h
      · simp only [exec,he,Eff.leases,List.mem_singleton] at h
        obtain ⟨-,hl,-⟩ := acquire_row hb
        rw [h,hl]
        exact .inl ⟨sessionId,token,secs,now,fun _ hP => hP,List.mem_singleton.mpr rfl⟩
    | heartbeat lease secs now =>
      obtain ⟨e,he⟩ | ⟨a,db',hb,he⟩ := (Txn.heartbeat lease secs now).run_cases c w.db
      · simp [exec,he,Eff.leases] at h
      · simp only [exec,he,Eff.leases,List.mem_singleton] at h
        obtain ⟨r,hr,hm,-,-⟩ := heartbeat_row hb
        exact .inr ⟨lease,secs,now,fun _ hP => hP,h ▸ heartbeat_token hb,r,hr,hm⟩
    | _ => simp [Eff.leases] at h
  | _ => simp [Eff.leases] at h

section
variable {s t : Sys Eff World} {kn : Nat → List LeaderLease}

/-- Every live process stands on the leases it was given. -/
def Standing (s : Sys Eff World) (kn : Nat → List LeaderLease) : Prop :=
  ∀ pid p, s.threads pid = some p → p.Follows leaseLearning (fun _ _ => True) (kn pid)

theorem Standing.move {m : Move Choice Start} (h : Standing s kn)
    (hm : omsSystem.move s m = some t) : Standing t (omsSystem.note leaseLearning s kn m) :=
  omsSystem.follows_move leaseLearning (fun _ _ ha => boot_follows ha) h hm

theorem Standing.run {ms : List (Move Choice Start)} (h : Standing s kn)
    (hrun : omsSystem.run s ms = some t) : Standing t (omsSystem.known leaseLearning s kn ms) :=
  omsSystem.follows_run leaseLearning (fun _ _ ha => boot_follows ha) h hrun

theorem standing_initial : Standing (Machine.boots World.initial) (fun _ => []) := by
  intro pid p hp
  cases hp

/-- The tokens of the leases in a process's hands come from the acquires of the run. -/
theorem Standing.tokens {ms : List (Move Choice Start)} {used : List String} (h : Standing s kn)
    (hused : ∀ pid, ∀ l ∈ kn pid, l.leaseToken ∈ used) (hrun : omsSystem.run s ms = some t) :
    ∀ pid, ∀ l ∈ omsSystem.known leaseLearning s kn ms pid,
      l.leaseToken ∈ used ++ omsSystem.shown Eff.tokens s ms := by
  induction ms generalizing s kn used with
  | nil =>
    intro pid l hl
    exact List.mem_append.mpr (.inl (hused pid l hl))
  | cons m ms ih =>
    simp only [Machine.run] at hrun
    cases hm : omsSystem.move s m with
    | none => simp [hm] at hrun
    | some u =>
      rw [hm] at hrun
      rw [omsSystem.known_cons leaseLearning hm,omsSystem.shown_cons Eff.tokens hm,
        ← List.append_assoc]
      refine ih (h.move hm) (fun pid l hl => ?_) hrun
      obtain ⟨hn,-⟩ | ⟨hn,-⟩ | ⟨c,β,o,k,rfl,ho,hn⟩ := omsSystem.note_cases leaseLearning hm kn pid
      · rw [hn] at hl
        cases hl
      · rw [hn] at hl
        exact List.mem_append.mpr (.inl (hused pid l hl))
      · rw [hn] at hl
        have hbacked : o.backed (kn pid) := (h pid _ ho).1
        rcases List.mem_append.mp hl with hnew | hold
        · obtain ⟨_,_,_,_,-,htok⟩ | ⟨lease,secs,now,hP,htok,-⟩ := learned_cases hnew
          · refine List.mem_append.mpr (.inr ?_)
            simpa [Machine.reveal,ho] using htok
          · obtain ⟨l₀,hl₀,hsame⟩ := hP (fun o => o.backed (kn pid)) hbacked
            have hmem := hused pid l₀ hl₀
            rw [hsame.2.1,← htok] at hmem
            exact List.mem_append.mpr (.inl hmem)
        · exact List.mem_append.mpr (.inl (hused pid l hold))

end

/-- The token in the row was there before, or it is the one of an `acquire`. -/
theorem Txn.leader_token {α : Type} {t : Txn α} {now : Nat} {a : α} {db db' : Db} {r : LeaderRow}
    (h : t.body now db = .ok (a,db')) (hr : db'.omsLeader = some r) :
    (∃ r₀, db.omsLeader = some r₀ ∧ r₀.leaseToken = r.leaseToken) ∨
      r.leaseToken ∈ (Eff.txn t).tokens := by
  obtain hsame | ⟨hg,-⟩ := Txn.leader_cases h
  · exact .inl ⟨r,hsame ▸ hr,rfl⟩
  · cases t with
    | acquire sessionId token secs n =>
      obtain ⟨-,-,rfl⟩ := acquire_row h
      obtain rfl := Option.some.inj hr
      exact .inr (List.mem_singleton.mpr rfl)
    | heartbeat lease secs n =>
      obtain ⟨r₀,hr₀,-,-,rfl⟩ := heartbeat_row h
      obtain rfl := Option.some.inj hr
      exact .inl ⟨r₀,hr₀,rfl⟩
    | release lease =>
      obtain rfl | ⟨r₀,-,-,rfl⟩ := release_row h
      · exact .inl ⟨r,hr,rfl⟩
      · cases hr
    | _ => cases hg

/-- The process in this slot has leases with these tokens only, if it still runs, and
the row has none of them. -/
structure Superseded (pid : Nat) (tokens : List String) (s : Sys Eff World)
    (kn : Nat → List LeaderLease) : Prop where
  row : ∀ r, s.world.db.omsLeader = some r → r.leaseToken ∉ tokens
  own : s.threads pid = none ∨ kn pid ≠ [] ∧ ∀ l ∈ kn pid, l.leaseToken ∈ tokens

namespace Superseded

variable {pid : Nat} {tokens : List String} {s t : Sys Eff World} {kn : Nat → List LeaderLease}

theorem no_match (h : Superseded pid tokens s kn) {l lease : LeaderLease} {r : LeaderRow}
    (hl : l.leaseToken ∈ tokens) (hsame : l.same lease) (hr : s.world.db.omsLeader = some r)
    (hm : lease.matches r = true) : False := by
  obtain ⟨-,htoken,-⟩ := LeaderLease.matches_iff.mp hm
  refine h.row r hr ?_
  rw [htoken,← hsame.2.1]
  exact hl

theorem quiet (h : Superseded pid tokens s kn) (hstand : Standing s kn) {c : Choice}
    (hm : omsSystem.move s (.step pid c) = some t) : t.world.db.fenced = s.world.db.fenced := by
  by_contra hne
  obtain ⟨α,x,a,k,hx,hb⟩ := step_commits hm fun heq => hne (by rw [heq])
  obtain hsame | ⟨g,r,hg,hr,hmatch,-⟩ := Txn.fenced_cases hb
  · exact hne hsame
  · have hbacked : x.backed (kn pid) := (hstand pid _ hx).1
    obtain ⟨l,hl,hsame⟩ := Txn.guard_of_backed hbacked hg
    obtain hdead | ⟨-,hown⟩ := h.own
    · rw [hdead] at hx
      cases hx
    · exact h.no_match (hown l hl) hsame hr hmatch

theorem step_row (h : Superseded pid tokens s kn) {m : Move Choice Start}
    (hm : omsSystem.move s m = some t)
    (hfresh : ∀ token ∈ Machine.reveal Eff.tokens s m, token ∉ tokens) :
    ∀ r, t.world.db.omsLeader = some r → r.leaseToken ∉ tokens := by
  intro r hr
  by_cases hdb : t.world.db = s.world.db
  · exact h.row r (hdb ▸ hr)
  · cases m with
    | start i req =>
      obtain ⟨_,_,_,_,rfl⟩ | ⟨_,rfl⟩ | ⟨_,_,_,_,_,hm',_⟩ := omsSystem.move_cases hm
      · exact absurd rfl hdb
      · exact absurd rfl hdb
      · cases hm'
    | crash i =>
      obtain rfl := Option.some.inj hm
      exact absurd rfl hdb
    | step i c =>
      obtain ⟨α,x,a,k,hx,hb⟩ := step_commits hm hdb
      obtain ⟨r₀,hr₀,htoken⟩ | htoken := Txn.leader_token hb hr
      · rw [← htoken]
        exact h.row r₀ hr₀
      · exact hfresh _ (by simpa [Machine.reveal,hx] using htoken)

theorem move (h : Superseded pid tokens s kn) (hstand : Standing s kn) {m : Move Choice Start}
    (hm : omsSystem.move s m = some t) (hstart : ∀ req, m ≠ .start pid req)
    (hfresh : ∀ token ∈ Machine.reveal Eff.tokens s m, token ∉ tokens) :
    Superseded pid tokens t (omsSystem.note leaseLearning s kn m) := by
  refine ⟨h.step_row hm hfresh,?_⟩
  obtain ⟨-,hend | ⟨req,hreq⟩⟩ | ⟨hn,hthread⟩ | ⟨c,β,o,k,rfl,ho,hn⟩ :=
    omsSystem.note_cases leaseLearning hm kn pid
  · exact .inl hend
  · exact absurd hreq (hstart req)
  · rw [hn,hthread]
    exact h.own
  · obtain hdead | ⟨hsome,hown⟩ := h.own
    · rw [hdead] at ho
      cases ho
    · rw [hn]
      refine .inr ⟨fun hnil => hsome (List.append_eq_nil_iff.mp hnil).2,fun l hl => ?_⟩
      have hbacked : o.backed (kn pid) := (hstand pid _ ho).1
      rcases List.mem_append.mp hl with hnew | hold
      · obtain ⟨_,_,_,_,hP,-⟩ | ⟨lease,secs,now,hP,-,r,hr,hmatch⟩ := learned_cases hnew
        · exact absurd (hP (fun o => o.backed (kn pid)) hbacked) hsome
        · obtain ⟨l₀,hl₀,hsame⟩ := hP (fun o => o.backed (kn pid)) hbacked
          exact (h.no_match (hown l₀ hl₀) hsame hr hmatch).elim
      · exact hown l hold

theorem run {ms : List (Move Choice Start)} (h : Superseded pid tokens s kn)
    (hstand : Standing s kn) (hrun : omsSystem.run s ms = some t)
    (hstart : ∀ req, .start pid req ∉ ms)
    (hfresh : ∀ token ∈ omsSystem.shown Eff.tokens s ms, token ∉ tokens) :
    Superseded pid tokens t (omsSystem.known leaseLearning s kn ms) := by
  induction ms generalizing s kn with
  | nil =>
    obtain rfl : s = t := Option.some.inj hrun
    exact h
  | cons m ms ih =>
    simp only [Machine.run] at hrun
    cases hm : omsSystem.move s m with
    | none => simp [hm] at hrun
    | some u =>
      rw [hm] at hrun
      rw [omsSystem.shown_cons Eff.tokens hm] at hfresh
      rw [omsSystem.known_cons leaseLearning hm]
      have hu : Superseded pid tokens u (omsSystem.note leaseLearning s kn m) :=
        h.move hstand hm (fun req heq => hstart req (by simp [heq]))
          fun token ht => hfresh token (List.mem_append.mpr (.inl ht))
      exact ih hu (hstand.move hm) hrun (fun req hmem => hstart req (by simp [hmem]))
        fun token ht => hfresh token (List.mem_append.mpr (.inr ht))

end Superseded

/-- The token with which the process in a slot is about to acquire the lease. -/
def acquiring (s : Sys Eff World) (pid : Nat) : Option String :=
  match s.threads pid with
  | some (.op o _) => o.tokens.head?
  | _ => none

theorem Txn.acquired {α : Type} {x : Txn α} {token : String} {now : Nat} {a : α} {db db' : Db}
    (htoken : (Eff.txn x).tokens.head? = some token) (h : x.body now db = .ok (a,db')) :
    (Eff.txn x).tokens = [token] ∧ ∀ r, db'.omsLeader = some r → r.leaseToken = token := by
  cases x with
  | acquire sessionId token' secs n =>
    obtain rfl : token' = token := by simpa [Eff.tokens] using htoken
    obtain ⟨-,-,rfl⟩ := acquire_row h
    refine ⟨rfl,fun r hr => ?_⟩
    obtain rfl := Option.some.inj hr
    rfl
  | _ => simp [Eff.tokens] at htoken

/-- Whoever changes the tables holds the lease in the row. Once a successor's `acquire`
has committed, the process that held the lease before changes nothing any more, as long
as no token is drawn twice; restarted, it is another session. -/
theorem write_fencing {before : List (Move Choice Start)} {s : Sys Eff World}
    (hs : omsSystem.run (Machine.boots World.initial) before = some s) :
    (∀ pid c t, omsSystem.move s (.step pid c) = some t →
      t.world.db.fenced ≠ s.world.db.fenced →
      ∃ l ∈ leases before pid, ∃ r, s.world.db.omsLeader = some r ∧ l.matches r = true ∧
        c.now < r.expiresAt) ∧
    ∀ q c t token, acquiring s q = some token → omsSystem.move s (.step q c) = some t →
      t.world.db.omsLeader ≠ s.world.db.omsLeader →
      ∀ pid, pid ≠ q → leases before pid ≠ [] →
      ∀ after u, omsSystem.run t after = some u → (∀ req, .start pid req ∉ after) →
      (omsSystem.shown Eff.tokens (Machine.boots World.initial)
        (before ++ .step q c :: after)).Nodup →
      ∀ c' v, omsSystem.move u (.step pid c') = some v →
        v.world.db.fenced = u.world.db.fenced := by
  have hstand : Standing s (leases before) := standing_initial.run hs
  refine ⟨fun pid c t hm hne => ?_,fun q c t token hacq hm hcommit pid hpid hheld after u hrun
    hstart hdistinct c' v hv => ?_⟩
  · obtain ⟨α,x,a,k,hx,hb⟩ := step_commits hm fun heq => hne (by rw [heq])
    obtain hsame | ⟨g,r,hg,hr,hmatch,halive⟩ := Txn.fenced_cases hb
    · exact absurd hsame hne
    · have hbacked : x.backed (leases before pid) := (hstand pid _ hx).1
      obtain ⟨l,hl,hsame⟩ := Txn.guard_of_backed hbacked hg
      exact ⟨l,hl,r,hr,hsame.matches hmatch,halive⟩
  · obtain ⟨α,x,a,k,hx,hb⟩ := step_commits hm fun heq => hcommit (by rw [heq])
    obtain ⟨htoken,hrow⟩ := Txn.acquired (by simpa [acquiring,hx] using hacq) hb
    -- what the successor's token and the later ones are to the tokens drawn before
    have hreveal : Machine.reveal Eff.tokens s (.step q c : Move Choice Start) = [token] := by
      simp [Machine.reveal,hx,htoken]
    rw [omsSystem.shown_append Eff.tokens hs,omsSystem.shown_cons Eff.tokens hm,hreveal,
      List.nodup_append] at hdistinct
    have hdrawn : ∀ l ∈ leases before pid, l.leaseToken ∈ [] ++
        omsSystem.shown Eff.tokens (Machine.boots World.initial) before :=
      standing_initial.tokens (by simp) hs pid
    let tokens := (leases before pid).map LeaderLease.leaseToken
    have hfresh : ∀ x ∈ [token] ++ omsSystem.shown Eff.tokens t after, x ∉ tokens := by
      intro x hx hmem
      obtain ⟨l,hl,rfl⟩ := List.mem_map.mp hmem
      exact hdistinct.2.2 _ (hdrawn l hl) _ hx rfl
    have hnote : omsSystem.note leaseLearning s (leases before) (.step q c) pid =
        leases before pid := by simp [Machine.note,hx,hpid]
    have hold : Superseded pid tokens t (omsSystem.note leaseLearning s (leases before)
        (.step q c)) := by
      refine ⟨fun r hr => ?_,.inr ?_⟩
      · rw [hrow r hr]
        exact hfresh token (by simp)
      · rw [hnote]
        exact ⟨hheld,fun l hl => List.mem_map.mpr ⟨l,hl,rfl⟩⟩
    have hstand' := hstand.move hm
    have hlater := hold.run hstand' hrun hstart
      fun x hx => hfresh x (List.mem_append.mpr (.inr hx))
    exact hlater.quiet (hstand'.run hrun) hv

/-- A process stops right before it stores an intent; another one starts later and is
about to acquire the lease. -/
def stalledRun : List (Move Choice Start) :=
  .start 0 (.oms 30 [.recover,.submitIntent sampleIntent none]) ::
    List.replicate 16 (.step 0 { uuid := "first" })

def successorRun : List (Move Choice Start) :=
  stalledRun ++ .start 1 (.oms 30 []) ::
    List.replicate 3 (.step 1 { uuid := "second", now := 40000000 })

def successorAcquires : Move Choice Start := .step 1 { now := 40000000 }

theorem write_fencing_stalled :
    (∃ s t, omsSystem.run (Machine.boots World.initial) stalledRun = some s ∧
      omsSystem.move s (.step 0 {}) = some t ∧ t.world.db.fenced ≠ s.world.db.fenced ∧
      ∃ l ∈ leases stalledRun 0, ∃ r, s.world.db.omsLeader = some r ∧ l.matches r = true ∧
        0 < r.expiresAt) ∧
    ∃ s t v, omsSystem.run (Machine.boots World.initial) successorRun = some s ∧
      omsSystem.move s successorAcquires = some t ∧
      omsSystem.move t (.step 0 {}) = some v ∧ v.world.db.fenced = t.world.db.fenced := by
  constructor
  · have hs : ((omsSystem.run (Machine.boots World.initial) stalledRun).bind fun s =>
        (omsSystem.move s (.step 0 {})).map fun t =>
          decide (t.world.db.brokerOrders ≠ s.world.db.brokerOrders)) = some true := by
      decide +kernel
    obtain ⟨s,hs,hmap⟩ := Option.bind_eq_some_iff.mp hs
    obtain ⟨t,ht,hne⟩ := Option.map_eq_some_iff.mp hmap
    have hchanged : t.world.db.fenced ≠ s.world.db.fenced := by
      intro heq
      exact of_decide_eq_true hne (congrArg Prod.fst heq)
    exact ⟨s,t,hs,ht,hchanged,(write_fencing hs).1 0 {} t ht hchanged⟩
  · have hs : ((omsSystem.run (Machine.boots World.initial) successorRun).bind fun s =>
        (omsSystem.move s successorAcquires).bind fun t =>
        (omsSystem.move t (.step 0 {})).map fun _ =>
          decide (acquiring s 1 = some "second" ∧
            t.world.db.omsLeader ≠ s.world.db.omsLeader)) = some true := by
      decide +kernel
    obtain ⟨s,hs,hmap⟩ := Option.bind_eq_some_iff.mp hs
    obtain ⟨t,ht,hmap⟩ := Option.bind_eq_some_iff.mp hmap
    obtain ⟨v,hv,hdec⟩ := Option.map_eq_some_iff.mp hmap
    obtain ⟨hacq,hcommit⟩ := of_decide_eq_true hdec
    have hheld : leases successorRun 0 ≠ [] := by decide +kernel
    have htokens : (omsSystem.shown Eff.tokens (Machine.boots World.initial)
        (successorRun ++ [successorAcquires])).Nodup := by decide +kernel
    exact ⟨s,t,v,hs,ht,hv,(write_fencing hs).2 1 _ t "second" hacq ht hcommit 0 (by decide) hheld
      [] t rfl (by simp) htokens {} v hv⟩

end BigQmt
