import BigQmt.World
import Mathlib.Data.List.Induction
set_option autoImplicit false

/-!
`LeaderCoordinator` used by any number of sessions on one database: the calls in
the order in which they reach the database, each with the clock reading it took.
-/

namespace BigQmt

open Transact

inductive LeaseCall where
  | acquire (sessionId token : String) (leaseSeconds now : Nat)
  | heartbeat (lease : LeaderLease) (leaseSeconds now : Nat)
  | assertHeld (lease : LeaderLease) (now : Nat)
  | release (lease : LeaderLease)

namespace LeaseCall

/-- One call: the lease it returns, or what it raises. The environment may refuse the
write slot of a transaction. -/
def exec (call : LeaseCall) (c : Choice) (db : Db) : Except PyError (Option LeaderLease) × Db :=
  match call with
  | .acquire sessionId token secs now =>
    if secs = 0 then (.error (.valueError "lease_seconds must be positive"),db)
    else (((Txn.acquire sessionId token secs now).run c db).1.map some,
      ((Txn.acquire sessionId token secs now).run c db).2)
  | .heartbeat lease secs now =>
    if secs = 0 then (.error (.valueError "lease_seconds must be positive"),db)
    else (((Txn.heartbeat lease secs now).run c db).1.map some,
      ((Txn.heartbeat lease secs now).run c db).2)
  | .assertHeld lease now => ((BigQmt.assertHeld lease now db).map (fun _ => none),db)
  | .release lease => (((Txn.release lease).run c db).1.map (fun _ => none),
      ((Txn.release lease).run c db).2)

/-- The lease that a successful `acquire` issues. -/
def granted (call : LeaseCall) (c : Choice) (db : Db) : List LeaderLease :=
  match call,(call.exec c db).1 with
  | .acquire _ _ _ _,.ok (some lease) => [lease]
  | _,_ => []

def token? : LeaseCall → Option String
  | .acquire _ token _ _ => some token
  | _ => none

/-- The lease that a check or a renewal is about, with the clock reading. -/
def reading? : LeaseCall → Option (LeaderLease × Nat)
  | .heartbeat lease _ now => some (lease,now)
  | .assertHeld lease now => some (lease,now)
  | _ => none

/-- The check passes, or the renewal succeeds. -/
def confirms (call : LeaseCall) (c : Choice) (db : Db) : Bool :=
  call.reading?.isSome && (call.exec c db).1.isOk

end LeaseCall

/-- The same lease, whatever renewals did to its expiry. -/
def LeaderLease.same (a b : LeaderLease) : Prop :=
  a.sessionId = b.sessionId ∧ a.leaseToken = b.leaseToken ∧ a.epoch = b.epoch

abbrev LeaseCalls : Type := List (LeaseCall × Choice)

/-- The database after the calls, and the leases that were issued on the way. -/
def leaseDb (db : Db) (calls : LeaseCalls) : Db :=
  calls.foldl (fun db call => (call.1.exec call.2 db).2) db

def grants (db : Db) : LeaseCalls → List LeaderLease
  | [] => []
  | call :: calls => call.1.granted call.2 db ++ grants (call.1.exec call.2 db).2 calls

theorem leaseDb_append (db : Db) (xs ys : LeaseCalls) :
    leaseDb db (xs ++ ys) = leaseDb (leaseDb db xs) ys := by
  simp [leaseDb]

theorem grants_append (db : Db) (xs ys : LeaseCalls) :
    grants db (xs ++ ys) = grants db xs ++ grants (leaseDb db xs) ys := by
  induction xs generalizing db with
  | nil => rfl
  | cons call xs ih =>
    simp only [List.cons_append,grants,ih,List.append_assoc]
    rfl

/-- The epoch that `acquire` writes. -/
def nextEpoch (row : Option LeaderRow) : Nat :=
  match row with
  | none => 1
  | some r => r.epoch + 1

/-- The row that `acquire` writes, and the lease of a row. -/
def grantedRow (sessionId token : String) (secs now : Nat) (db : Db) : LeaderRow :=
  ⟨sessionId,token,nextEpoch db.omsLeader,now + secs * 1000000⟩

def LeaderRow.lease (r : LeaderRow) : LeaderLease := ⟨r.sessionId,r.leaseToken,r.epoch,r.expiresAt⟩

section rows
variable {db db' : Db} {l lease : LeaderLease} {secs now : Nat} {sessionId token : String}

theorem acquire_row (h : acquire sessionId token secs now db = .ok (l,db')) :
    (∀ r, db.omsLeader = some r → r.expiresAt ≤ now) ∧
      l = (grantedRow sessionId token secs now db).lease ∧
      db' = { db with omsLeader := some (grantedRow sessionId token secs now db) } := by
  rw [acquire,Tx.reads_bind] at h
  simp only [grantedRow,LeaderRow.lease]
  cases hr : db.omsLeader with
  | none =>
    simp only [hr,Tx.writes_bind,Tx.pure_eq_ok] at h
    exact ⟨by simp,h.1,h.2⟩
  | some r =>
    simp only [hr,Tx.bind_eq_ok,Tx.raiseIf_eq_ok,Tx.writes_bind,Tx.pure_eq_ok,
      decide_eq_false_iff_not,Nat.not_lt] at h
    obtain ⟨_,_,⟨hexp,rfl⟩,hl,hdb⟩ := h
    exact ⟨fun r' hr' => Option.some.inj hr' ▸ hexp,hl,hdb⟩

theorem heartbeat_row (h : heartbeat lease secs now db = .ok (l,db')) :
    ∃ r, db.omsLeader = some r ∧ lease.matches r = true ∧ now < r.expiresAt ∧
      db' = { db with omsLeader := some { r with expiresAt := now + secs * 1000000 } } := by
  rw [heartbeat,Tx.reads_bind] at h
  cases hr : db.omsLeader with
  | none => simp [hr] at h
  | some r =>
    simp only [hr,Tx.bind_eq_ok,Tx.raiseIf_eq_ok,Tx.writes_bind,Tx.pure_eq_ok,
      decide_eq_false_iff_not,Nat.not_le,Bool.not_eq_false'] at h
    obtain ⟨_,_,⟨hmatch,rfl⟩,_,_,⟨hexp,rfl⟩,-,hdb⟩ := h
    exact ⟨r,rfl,hmatch,hexp,hdb⟩

theorem release_row {b : Bool} (h : release lease db = .ok (b,db')) :
    db' = db ∨ ∃ r, db.omsLeader = some r ∧ lease.matches r = true ∧
      db' = { db with omsLeader := none } := by
  rw [release,Tx.reads_bind] at h
  cases hr : db.omsLeader with
  | none =>
    simp only [hr,Option.any_none,Bool.false_eq_true,if_false,Tx.pure_eq_ok] at h
    exact .inl h.2
  | some r =>
    simp only [hr,Option.any_some] at h
    split at h
    · rename_i hmatch
      simp only [Tx.writes_bind,Tx.pure_eq_ok] at h
      exact .inr ⟨r,rfl,hmatch,h.2⟩
    · simp only [Tx.pure_eq_ok] at h
      exact .inl h.2

end rows

/-- What a call does to the lease row. -/
inductive LeaseStep (call : LeaseCall) (c : Choice) (db : Db) : Prop
  | idle (unchanged : (call.exec c db).2 = db) (none : call.granted c db = [])
  | granted (sessionId token : String) (secs now : Nat)
      (acquire : call = .acquire sessionId token secs now) (positive : 0 < secs)
      (unlocked : c.fault = .none) (expired : ∀ r, db.omsLeader = some r → r.expiresAt ≤ now)
      (lease : call.granted c db = [(grantedRow sessionId token secs now db).lease])
      (row : (call.exec c db).2 =
        { db with omsLeader := some (grantedRow sessionId token secs now db) })
  | renewed (lease : LeaderLease) (secs now : Nat) (r : LeaderRow)
      (heartbeat : call = .heartbeat lease secs now) (held : db.omsLeader = some r)
      (current : lease.matches r = true) (alive : now < r.expiresAt)
      (none : call.granted c db = [])
      (row : (call.exec c db).2 =
        { db with omsLeader := some { r with expiresAt := now + secs * 1000000 } })
  | released (lease : LeaderLease) (r : LeaderRow) (release : call = .release lease)
      (held : db.omsLeader = some r) (current : lease.matches r = true)
      (none : call.granted c db = [])
      (row : (call.exec c db).2 = { db with omsLeader := .none })

theorem LeaseCall.step (call : LeaseCall) (c : Choice) (db : Db) : LeaseStep call c db := by
  cases call with
  | acquire sessionId token secs now =>
    by_cases hs : secs = 0
    · exact .idle (by simp [exec,hs]) (by simp [granted,exec,hs])
    · obtain ⟨e,he⟩ | ⟨l,db',hb,he⟩ := (Txn.acquire sessionId token secs now).run_cases c db
      · exact .idle (by simp [exec,hs,he]) (by simp [granted,exec,hs,he,Except.map])
      · have hf : c.fault = none := by
          cases hf : c.fault with
          | none => rfl
          | some e => simp [Txn.run,hf] at he
        obtain ⟨hexp,rfl,rfl⟩ := acquire_row hb
        exact .granted sessionId token secs now rfl (Nat.pos_of_ne_zero hs) hf hexp
          (by simp [granted,exec,hs,he,Except.map]) (by simp [exec,hs,he])
  | heartbeat lease secs now =>
    by_cases hs : secs = 0
    · exact .idle (by simp [exec,hs]) (by simp [granted])
    · obtain ⟨e,he⟩ | ⟨l,db',hb,he⟩ := (Txn.heartbeat lease secs now).run_cases c db
      · exact .idle (by simp [exec,hs,he]) (by simp [granted])
      · obtain ⟨r,hr,hmatch,halive,rfl⟩ := heartbeat_row hb
        exact .renewed lease secs now r rfl hr hmatch halive (by simp [granted])
          (by simp [exec,hs,he])
  | assertHeld lease now => exact .idle rfl (by simp [granted])
  | release lease =>
    obtain ⟨e,he⟩ | ⟨b,db',hb,he⟩ := (Txn.release lease).run_cases c db
    · exact .idle (by simp [exec,he]) (by simp [granted])
    · obtain rfl | ⟨r,hr,hmatch,rfl⟩ := release_row hb
      · exact .idle (by simp [exec,he]) (by simp [granted])
      · exact .released lease r rfl hr hmatch (by simp [granted]) (by simp [exec,he])

/-- Fresh tokens; checks and renewals of issued leases only; and a clock that does not go
back between two calls about one lease, as when one clock times all the calls in their
order, and as when the holder of a lease makes its calls one after the other. -/
structure Orderly (db : Db) (calls : LeaseCalls) : Prop where
  fresh : (calls.filterMap (fun call => call.1.token?)).Nodup
  issued : ∀ before call after, calls = before ++ call :: after →
    ∀ l now, call.1.reading? = some (l,now) → ∃ g ∈ grants db before, l.same g
  clock : calls.Pairwise (fun a b => ∀ l now l' now', a.1.reading? = some (l,now) →
    b.1.reading? = some (l',now') → l.same l' → now ≤ now')

/-- The lease does not pass `assert_held` at this time. -/
def Lapsed (l : LeaderLease) (now : Nat) (db : Db) : Prop :=
  ∀ r, db.omsLeader = some r → l.matches r = true → r.expiresAt ≤ now

theorem LeaderLease.matches_iff {l : LeaderLease} {r : LeaderRow} :
    l.matches r = true ↔
      r.sessionId = l.sessionId ∧ r.leaseToken = l.leaseToken ∧ r.epoch = l.epoch := by
  simp [LeaderLease.matches,and_assoc]

theorem LeaderLease.same_of_matches {l l' : LeaderLease} {r : LeaderRow}
    (h : l.matches r = true) (h' : l'.matches r = true) : l.same l' := by
  obtain ⟨hs,ht,he⟩ := matches_iff.mp h
  obtain ⟨hs',ht',he'⟩ := matches_iff.mp h'
  exact ⟨hs.symm.trans hs',ht.symm.trans ht',he.symm.trans he'⟩

theorem LeaderLease.same.matches {l l' : LeaderLease} {r : LeaderRow} (h : l.same l')
    (hm : l'.matches r = true) : l.matches r = true := by
  obtain ⟨hs,ht,he⟩ := matches_iff.mp hm
  exact matches_iff.mpr ⟨hs.trans h.1.symm,ht.trans h.2.1.symm,he.trans h.2.2.symm⟩

theorem assertHeld_isOk {l : LeaderLease} {now : Nat} {db : Db} :
    (assertHeld l now db).isOk = true ↔
      ∃ r, db.omsLeader = some r ∧ l.matches r = true ∧ now < r.expiresAt := by
  unfold assertHeld
  cases hr : db.omsLeader with
  | none => simp [Except.isOk,Except.toBool]
  | some r =>
    cases hm : l.matches r with
    | false => simp [refuse,hm,Except.isOk,Except.toBool]
    | true =>
      by_cases he : r.expiresAt ≤ now
      · simp [refuse,hm,he,Except.isOk,Except.toBool]
      · simp only [refuse,hm,he,Except.isOk,Except.toBool,Bool.not_true,Bool.false_eq_true,
          if_false,decide_false,true_iff,Option.some.injEq]
        exact ⟨r,rfl,hm,by omega⟩

theorem lapsed_of_fails {l : LeaderLease} {now : Nat} {db : Db}
    (h : (assertHeld l now db).isOk = false) : Lapsed l now db := by
  intro r hr hm
  by_contra he
  have hlt : now < r.expiresAt := by omega
  have hok := assertHeld_isOk.mpr ⟨r,hr,hm,hlt⟩
  rw [h] at hok
  cases hok

section
variable {db : Db} {l : LeaderLease} {now : Nat}

/-- No call revives a lapsed lease. -/
theorem Lapsed.step {call : LeaseCall} {c : Choice} (h : Lapsed l now db)
    (htoken : call.token? ≠ some l.leaseToken)
    (hclock : ∀ l' now', call.reading? = some (l',now') → l.same l' → now ≤ now') :
    Lapsed l now (call.exec c db).2 := by
  cases call.step c db with
  | idle hdb =>
    rw [hdb]
    exact h
  | granted sessionId token secs now' hcall _ _ _ _ hrow =>
    rw [hrow]
    intro r hr hm
    obtain rfl := Option.some.inj hr
    obtain ⟨-,ht,-⟩ := LeaderLease.matches_iff.mp hm
    have ht' : token = l.leaseToken := ht
    rw [hcall] at htoken
    exact absurd (congrArg some ht') htoken
  | renewed lease secs now' r hcall hr hm halive _ hrow =>
    rw [hrow]
    intro r' hr' hm'
    obtain rfl := Option.some.inj hr'
    have hml : l.matches r = true := by
      rw [LeaderLease.matches_iff] at hm' ⊢
      exact hm'
    have hle := h r hr hml
    have hnow := hclock lease now' (by rw [hcall]; rfl) (LeaderLease.same_of_matches hml hm)
    omega
  | released lease r hcall hr hm _ hrow =>
    rw [hrow]
    intro r' hr'
    cases hr'

theorem Lapsed.refuses {call : LeaseCall} {c : Choice} {l' : LeaderLease} {now' : Nat}
    (h : Lapsed l now db) (hread : call.reading? = some (l',now')) (hsame : l.same l')
    (hnow : now ≤ now') : call.confirms c db = false := by
  have hno : ∀ r, db.omsLeader = some r → l'.matches r = true → ¬ now' < r.expiresAt := by
    intro r hr hm hlt
    have hle := h r hr (hsame.matches hm)
    omega
  cases call with
  | acquire => cases hread
  | release => cases hread
  | assertHeld lease t =>
    cases hread
    have hfail : (assertHeld l' now' db).isOk = false := by
      rw [Bool.eq_false_iff]
      intro hok
      obtain ⟨r,hr,hm,hlt⟩ := assertHeld_isOk.mp hok
      exact hno r hr hm hlt
    simp only [LeaseCall.confirms,LeaseCall.exec,LeaseCall.reading?,Option.isSome_some,
      Bool.true_and]
    cases hheld : assertHeld l' now' db with
    | error e => rfl
    | ok u => simp [hheld,Except.isOk,Except.toBool] at hfail
  | heartbeat lease secs t =>
    cases hread
    by_cases hs : secs = 0
    · simp [LeaseCall.confirms,LeaseCall.exec,hs,Except.isOk,Except.toBool]
    · obtain ⟨e,he⟩ | ⟨v,db',hb,-⟩ := (Txn.heartbeat l' secs now').run_cases c db
      · simp [LeaseCall.confirms,LeaseCall.exec,hs,he,Except.isOk,Except.toBool,Except.map]
      · obtain ⟨r,hr,hm,hlt,-⟩ := heartbeat_row hb
        exact absurd hlt (hno r hr hm)

theorem Lapsed.run {calls : LeaseCalls} (h : Lapsed l now db)
    (htoken : ∀ call ∈ calls, call.1.token? ≠ some l.leaseToken)
    (hclock : ∀ call ∈ calls, ∀ l' now', call.1.reading? = some (l',now') → l.same l' →
      now ≤ now') : Lapsed l now (leaseDb db calls) := by
  induction calls generalizing db with
  | nil => exact h
  | cons call calls ih =>
    have hstep : Lapsed l now (call.1.exec call.2 db).2 :=
      h.step (htoken call (by simp)) (hclock call (by simp))
    exact ih hstep (fun x hx => htoken x (by simp [hx])) (fun x hx => hclock x (by simp [hx]))

end

/-- Issued leases carry the tokens of their acquires, in order. -/
theorem grants_tokens (db : Db) (calls : LeaseCalls) :
    ((grants db calls).map LeaderLease.leaseToken).Sublist
      (calls.filterMap (fun call => call.1.token?)) := by
  induction calls generalizing db with
  | nil => exact List.Sublist.slnil
  | cons call calls ih =>
    have hrest := ih (call.1.exec call.2 db).2
    simp only [grants,List.map_append,List.filterMap_cons]
    cases call.1.step call.2 db with
    | granted sessionId token secs now hcall _ _ _ hlease _ =>
      rw [hlease,hcall]
      rw [hcall] at hrest
      exact hrest.cons_cons token
    | idle _ hnone =>
      rw [hnone]
      cases call.1.token? with
      | none => exact hrest
      | some token => exact hrest.cons token
    | renewed lease secs now r hcall _ _ _ hnone _ =>
      rw [hnone]
      simpa [hcall,LeaseCall.token?] using hrest
    | released lease r hcall _ _ hnone _ =>
      rw [hnone]
      simpa [hcall,LeaseCall.token?] using hrest

/-- A list with distinct values, cut down to the elements with one value. -/
theorem length_filter_le_one {α β : Type} {f : α → β} {p : α → Bool} {v : β} {xs : List α}
    (hnodup : (xs.map f).Nodup) (hp : ∀ x, p x = true → f x = v) : (xs.filter p).length ≤ 1 := by
  have hsub : ((xs.filter p).map f).Nodup := hnodup.sublist (List.filter_sublist.map f)
  have hall : ∀ x ∈ xs.filter p, f x = v := fun x hx => hp x (List.mem_filter.mp hx).2
  match hys : xs.filter p with
  | [] => simp
  | [x] => simp
  | x :: y :: rest =>
    rw [hys] at hsub hall
    have hxy : f x = f y := (hall x (by simp)).trans (hall y (by simp)).symm
    simp [hxy] at hsub

/-- At most one issued lease passes `assert_held` at any instant, and a lease that has
failed it once never passes it again and is never renewed. -/
theorem lease_fencing {db : Db} {calls : LeaseCalls} (h : Orderly db calls) :
    (∀ before after now, calls = before ++ after →
      ((grants db before).filter (fun l =>
        (assertHeld l now (leaseDb db before)).isOk)).length ≤ 1) ∧
      (∀ before between after l now c call c', calls =
          before ++ (LeaseCall.assertHeld l now,c) :: (between ++ (call,c') :: after) →
        (assertHeld l now (leaseDb db before)).isOk = false →
        ∀ l' now', call.reading? = some (l',now') → l.same l' →
          call.confirms c'
            (leaseDb db (before ++ (LeaseCall.assertHeld l now,c) :: between)) = false) := by
  constructor
  · intro before after now hcalls
    have hfresh := h.fresh
    rw [hcalls,List.filterMap_append] at hfresh
    have hnodup : ((grants db before).map LeaderLease.leaseToken).Nodup :=
      (List.nodup_append.mp hfresh).1.sublist (grants_tokens db before)
    cases hr : (leaseDb db before).omsLeader with
    | none => simp [assertHeld,hr,Except.isOk,Except.toBool]
    | some r =>
      refine length_filter_le_one (v := r.leaseToken) hnodup fun l hl => ?_
      obtain ⟨r',hr',hm,-⟩ := assertHeld_isOk.mp hl
      obtain rfl := Option.some.inj (hr.symm.trans hr')
      exact (LeaderLease.matches_iff.mp hm).2.1.symm
  · intro before between after l now c call c' hcalls hfail l' now' hread hsame
    -- the failed check leaves a lapsed lease, and the calls in between keep it so
    obtain ⟨g,hg,hlg⟩ := h.issued before _ _ hcalls l now rfl
    have hused : l.leaseToken ∈ before.filterMap (fun call => call.1.token?) := by
      rw [hlg.2.1]
      exact (grants_tokens db before).subset (List.mem_map_of_mem hg)
    have hfresh := h.fresh
    rw [hcalls,List.filterMap_append] at hfresh
    have htoken : ∀ x ∈ between, x.1.token? ≠ some l.leaseToken := by
      intro x hx hxl
      refine (List.nodup_append.mp hfresh).2.2 _ hused l.leaseToken ?_ rfl
      refine List.mem_filterMap.mpr ⟨x,?_,hxl⟩
      simp [hx]
    have hclock := h.clock
    rw [hcalls] at hclock
    have hafter := (List.pairwise_cons.mp (List.pairwise_append.mp hclock).2.1).1
    have hlapsed : Lapsed l now (leaseDb db before) := lapsed_of_fails hfail
    have hkept : Lapsed l now (leaseDb (leaseDb db before) between) :=
      hlapsed.run htoken fun x hx l' now' hr hs =>
        hafter x (by simp [hx]) l now l' now' rfl hr hs
    have hdb : leaseDb db (before ++ (LeaseCall.assertHeld l now,c) :: between) =
        leaseDb (leaseDb db before) between := by
      rw [leaseDb_append]
      rfl
    rw [hdb]
    exact hkept.refuses hread hsame
      (hafter (call,c') (by simp) l now l' now' rfl hread hsame)

/-- One session takes the lease, lets it expire, fails its check and cannot renew. -/
def expiredCalls : LeaseCalls :=
  [(.acquire "A" "a" 1 0,{}),(.assertHeld ⟨"A","a",1,1000000⟩ 1000000,{}),
    (.heartbeat ⟨"A","a",1,1000000⟩ 1 2000000,{})]

theorem expiredCalls_orderly : Orderly Db.empty expiredCalls := by
  have hgrant : grants Db.empty (expiredCalls.take 1) = [⟨"A","a",1,1000000⟩] := by decide +kernel
  have hgrant' : grants Db.empty (expiredCalls.take 2) = [⟨"A","a",1,1000000⟩] := by decide +kernel
  refine ⟨by decide,?_,?_⟩
  · intro before call after hcalls l now hread
    match before,hcalls with
    | [],hcalls =>
      simp only [expiredCalls,List.nil_append,List.cons.injEq] at hcalls
      rw [← hcalls.1] at hread
      cases hread
    | [a],hcalls =>
      simp only [expiredCalls,List.cons_append,List.nil_append,List.cons.injEq] at hcalls
      obtain ⟨rfl,rfl,-⟩ := hcalls
      cases hread
      exact ⟨_,by rw [show [_] = expiredCalls.take 1 from rfl,hgrant]; simp,rfl,rfl,rfl⟩
    | [a,b],hcalls =>
      simp only [expiredCalls,List.cons_append,List.nil_append,List.cons.injEq] at hcalls
      obtain ⟨rfl,rfl,rfl,-⟩ := hcalls
      cases hread
      exact ⟨_,by rw [show [_,_] = expiredCalls.take 2 from rfl,hgrant']; simp,rfl,rfl,rfl⟩
    | a :: b :: d :: rest,hcalls => simp [expiredCalls] at hcalls
  · simp only [expiredCalls,List.pairwise_cons,List.mem_cons,List.not_mem_nil,or_false,
      forall_eq_or_imp,forall_eq,LeaseCall.reading?]
    simp only [reduceCtorEq,false_imp_iff,implies_true,and_true,List.Pairwise.nil,
      Option.some.injEq,Prod.mk.injEq]
    refine ⟨trivial,?_⟩
    rintro l now l' now' ⟨-,rfl⟩ ⟨-,rfl⟩ -
    decide

/-- The renewal after the failed check is refused. -/
theorem lease_fencing_expired : Orderly Db.empty expiredCalls ∧
    (LeaseCall.heartbeat ⟨"A","a",1,1000000⟩ 1 2000000).confirms {}
      (leaseDb Db.empty (expiredCalls.take 2)) = false :=
  ⟨expiredCalls_orderly,(lease_fencing expiredCalls_orderly).2 (expiredCalls.take 1) [] []
    ⟨"A","a",1,1000000⟩ 1000000 {} _ {} rfl (by decide +kernel) _ 2000000 rfl ⟨rfl,rfl,rfl⟩⟩

theorem grants_epoch_pos (db : Db) (calls : LeaseCalls) : ∀ g ∈ grants db calls, 1 ≤ g.epoch := by
  induction calls generalizing db with
  | nil => simp [grants]
  | cons call calls ih =>
    intro g hg
    rcases List.mem_append.mp hg with hg | hg
    · cases call.1.step call.2 db with
      | granted sessionId token secs now _ _ _ _ hlease _ =>
        rw [hlease,List.mem_singleton] at hg
        rw [hg]
        simp only [LeaderRow.lease,grantedRow,nextEpoch]
        split <;> omega
      | idle _ hnone => simp [hnone] at hg
      | renewed _ _ _ _ _ _ _ _ hnone _ => simp [hnone] at hg
      | released _ _ _ _ _ hnone _ => simp [hnone] at hg
    · exact ih _ g hg

theorem acquire_granted {db : Db} {c : Choice} {sessionId token : String} {secs now : Nat}
    (hs : 0 < secs) (hf : c.fault = none) (hr : db.omsLeader = none) :
    (LeaseCall.acquire sessionId token secs now).granted c db =
      [(grantedRow sessionId token secs now db).lease] := by
  have hs' : secs ≠ 0 := by omega
  simp [LeaseCall.granted,LeaseCall.exec,hs',Txn.run,hf,Txn.body,acquire,Tx.reads,bind,hr,
    Tx.writes,pure,Except.map,grantedRow,nextEpoch,LeaderRow.lease]

/-- No acquire finds the lease row gone after a lease was issued. -/
def NoAcquireAfterRelease (db : Db) (calls : LeaseCalls) : Prop :=
  ∀ before sessionId token secs now c after,
    calls = before ++ (LeaseCall.acquire sessionId token secs now,c) :: after →
    0 < secs → c.fault = none → (leaseDb db before).omsLeader = none → grants db before = []

/-- While that holds, the row carries the highest epoch issued. -/
theorem epochs_below_row {db : Db} {calls : LeaseCalls} (h : NoAcquireAfterRelease db calls) :
    (grants db calls).Pairwise (fun a b => a.epoch < b.epoch) ∧
      ∀ r, (leaseDb db calls).omsLeader = some r → ∀ g ∈ grants db calls, g.epoch ≤ r.epoch := by
  induction calls using List.reverseRecOn with
  | nil => exact ⟨List.Pairwise.nil,fun _ _ g hg => by cases hg⟩
  | append_singleton calls call ih =>
    have hprev : NoAcquireAfterRelease db calls := by
      intro before sessionId token secs now c after hcalls
      refine h before sessionId token secs now c (after ++ [call]) ?_
      rw [hcalls]
      simp
    obtain ⟨hpair,hrow⟩ := ih hprev
    have hgrants : grants db (calls ++ [call]) =
        grants db calls ++ call.1.granted call.2 (leaseDb db calls) := by
      rw [grants_append]
      simp [grants]
    have hdb : leaseDb db (calls ++ [call]) = (call.1.exec call.2 (leaseDb db calls)).2 := by
      rw [leaseDb_append]
      rfl
    rw [hgrants,hdb]
    cases call.1.step call.2 (leaseDb db calls) with
    | idle hsame hnone =>
      rw [hsame,hnone,List.append_nil]
      exact ⟨hpair,hrow⟩
    | renewed lease secs now r _ hr _ _ hnone hset =>
      rw [hset,hnone,List.append_nil]
      refine ⟨hpair,fun r' hr' g hg => ?_⟩
      obtain rfl := Option.some.inj hr'
      exact hrow r hr g hg
    | released lease r _ _ _ hnone hset =>
      rw [hset,hnone,List.append_nil]
      refine ⟨hpair,fun r' hr' => ?_⟩
      cases hr'
    | granted sessionId token secs now hcall hpos hfree hexp hlease hset =>
      have hnew : ∀ g ∈ grants db calls, g.epoch < nextEpoch (leaseDb db calls).omsLeader := by
        intro g hg
        cases hr : (leaseDb db calls).omsLeader with
        | none =>
          have hempty := h calls sessionId token secs now call.2 []
            (by rw [← hcall]) hpos hfree hr
          rw [hempty] at hg
          cases hg
        | some r =>
          have hle := hrow r hr g hg
          simp only [nextEpoch]
          omega
      rw [hset,hlease]
      constructor
      · refine List.pairwise_append.mpr ⟨hpair,List.pairwise_singleton _ _,?_⟩
        intro a ha b hb
        rw [List.mem_singleton.mp hb]
        exact hnew a ha
      · intro r hr g hg
        obtain rfl := Option.some.inj hr
        rcases List.mem_append.mp hg with hg | hg
        · exact Nat.le_of_lt (hnew g hg)
        · rw [List.mem_singleton.mp hg]
          exact Nat.le_refl _

end BigQmt
