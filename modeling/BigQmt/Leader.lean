import BigQmt.Database
set_option autoImplicit false

/-!
`oms/leader.py`: the lease row, and the guard it gives every durable write.
-/

namespace BigQmt

open Transact

structure LeaderLease where
  sessionId : String
  leaseToken : String
  epoch : Nat
  expiresAt : Nat
  deriving DecidableEq, Repr

def LeaderLease.matches (lease : LeaderLease) (row : LeaderRow) : Bool :=
  row.sessionId == lease.sessionId && row.leaseToken == lease.leaseToken &&
    row.epoch == lease.epoch

/-- `LeaderCoordinator.acquire`, from its `BEGIN IMMEDIATE` on. -/
def acquire (sessionId token : String) (leaseSeconds now : Nat) : DbTx LeaderLease := do
  let expiresAt := now + leaseSeconds * 1000000
  let row ← Tx.reads (fun db : Db => db.omsLeader)
  match row with
  | none =>
    Tx.writes (fun db => { db with omsLeader := some ⟨sessionId,token,1,expiresAt⟩ })
    return ⟨sessionId,token,1,expiresAt⟩
  | some r =>
    Tx.raiseIf (now < r.expiresAt) (.leaderUnavailable r.sessionId)
    let epoch := r.epoch + 1
    Tx.writes (fun db => { db with omsLeader := some ⟨sessionId,token,epoch,expiresAt⟩ })
    return ⟨sessionId,token,epoch,expiresAt⟩

/-- `assert_held`. -/
def assertHeld (lease : LeaderLease) (now : Nat) (db : Db) : Except PyError Unit :=
  match db.omsLeader with
  | none => .error (.leaderLost "OMS leader row is missing")
  | some row =>
    refuse (!lease.matches row) (.leaderLost "OMS leader lease was fenced by another session") <|
    refuse (row.expiresAt ≤ now) (.leaderLost "OMS leader lease has expired") (.ok ())

def heartbeat (lease : LeaderLease) (leaseSeconds now : Nat) : DbTx LeaderLease := do
  let expiresAt := now + leaseSeconds * 1000000
  let row ← Tx.reads (fun db : Db => db.omsLeader)
  match row with
  | none => Tx.raises (.leaderLost "OMS leader row is missing")
  | some r =>
    Tx.raiseIf (!lease.matches r) (.leaderLost "OMS leader lease was fenced by another session")
    Tx.raiseIf (r.expiresAt ≤ now) (.leaderLost "expired OMS leader lease cannot be resurrected")
    Tx.writes (fun db => { db with omsLeader := some { r with expiresAt := expiresAt } })
    return { lease with expiresAt := expiresAt }

/-- `release`: the lease row goes only when it is still this lease's. -/
def release (lease : LeaderLease) : DbTx Bool := do
  let row ← Tx.reads (fun db : Db => db.omsLeader)
  if row.any lease.matches then
    Tx.writes (fun db => { db with omsLeader := none })
    return true
  else
    return false

/-- What `assert_leader` of an OMS object looks at: whether the object was
closed, and the lease it believes to hold. -/
structure Guard where
  owner : String
  closed : Bool
  lease : LeaderLease
  deriving DecidableEq, Repr

def Guard.check (g : Guard) (now : Nat) (db : Db) : Except PyError Unit :=
  refuse g.closed (.runtimeError (g.owner ++ " is closed")) (assertHeld g.lease now db)

/-- `_guard_write_in_tx`. Every clock reading inside a transaction is `now`: the
write slot is held throughout, and a later reading could only fail the same check. -/
def guardWrite (g : Guard) (now : Nat) : DbTx Unit := fun db =>
  (g.check now db).map (fun _ => ((),db))

@[simp] theorem guardWrite_eq_ok {g : Guard} {now : Nat} {db db' : Db} {u : Unit} :
    guardWrite g now db = .ok (u,db') ↔ g.check now db = .ok () ∧ db' = db := by
  unfold guardWrite
  cases h : g.check now db with
  | error e => simp [Except.map]
  | ok v => simp [Except.map,eq_comm]

/-- The lease transactions write the lease row and nothing else. -/
theorem acquire_ok {sessionId token : String} {secs now : Nat} {db db' : Db} {l : LeaderLease}
    (h : acquire sessionId token secs now db = .ok (l,db')) :
    ∃ row, db' = { db with omsLeader := some row } := by
  rw [acquire,Tx.reads_bind] at h
  cases hr : db.omsLeader with
  | none =>
    simp only [hr,Tx.writes_bind,Tx.pure_eq_ok] at h
    exact ⟨_,h.2⟩
  | some r =>
    simp only [hr,Tx.bind_eq_ok,Tx.raiseIf_eq_ok,Tx.writes_bind,Tx.pure_eq_ok] at h
    obtain ⟨_,_,⟨-,rfl⟩,-,rfl⟩ := h
    exact ⟨_,rfl⟩

theorem heartbeat_ok {lease : LeaderLease} {secs now : Nat} {db db' : Db} {l : LeaderLease}
    (h : heartbeat lease secs now db = .ok (l,db')) :
    ∃ row, db' = { db with omsLeader := some row } := by
  rw [heartbeat,Tx.reads_bind] at h
  cases hr : db.omsLeader with
  | none => simp [hr] at h
  | some r =>
    simp only [hr,Tx.bind_eq_ok,Tx.raiseIf_eq_ok,Tx.writes_bind,Tx.pure_eq_ok] at h
    obtain ⟨_,_,⟨-,rfl⟩,_,_,⟨-,rfl⟩,-,rfl⟩ := h
    exact ⟨_,rfl⟩

theorem release_ok {lease : LeaderLease} {db db' : Db} {b : Bool}
    (h : release lease db = .ok (b,db')) : ∃ row, db' = { db with omsLeader := row } := by
  rw [release,Tx.reads_bind] at h
  split at h
  · simp only [Tx.writes_bind,Tx.pure_eq_ok] at h
    exact ⟨_,h.2⟩
  · simp only [Tx.pure_eq_ok] at h
    exact ⟨db.omsLeader,h.2⟩

end BigQmt
