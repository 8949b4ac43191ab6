import BigQmt.MapperLedger
import BigQmt.Runtime
import BigQmt.Runs
set_option autoImplicit false

/-!
`refresh_identities`: the frames of the command directories are validated first and
imported then, each in a transaction of its own. Whether a call that raises has left
everything as it was.
-/

namespace BigQmt

open Resumption Proc Transact Keyed

/-- The Host alone with its database and its directories: no operation fails, and the clock
stands still. -/
def alone (now : Nat) : Policy Eff Choice World where
  exec := exec
  pick _ := { now := now }

/-- A submit frame of this session that lies in one of the two directories. -/
def EligibleFrame (inst : QmtInstance) (spool : Spool) (row : DurableIdentity) : Prop :=
  ∃ state dir name raw,(state,dir) ∈ [(CommandState.processed,SpoolDir.processed),
      (.unknown,.unknown)] ∧ name ∈ spool.names dir ∧ spool.lookup dir name = some raw ∧
    Runtime.candidateOf inst state name raw = .ok (some row)

/-- Everything is imported and a second call changes nothing, or nothing has changed. -/
def AllOrNothing (now : Nat) (s : RuntimeState) (w : World) : Prop :=
  match (alone now).call Runtime.refreshIdentities s w with
  | ((.error _,s'),w') => s'.mapper = s.mapper ∧ w'.db = w.db
  | ((.ok _,s'),w') =>
      (∀ row,EligibleFrame s.instance_ w.spool row → row ∈ w'.db.durableIdentities) ∧
        (alone now).call Runtime.refreshIdentities s' w' = ((.ok (),s'),w')

namespace Runtime

/-- The loop over the files of a directory. -/
def gather (inst : QmtInstance) (spool : Spool) (state : CommandState) (dir : SpoolDir) :
    List String → Candidates → Except PyError Candidates
  | [],c => .ok c
  | name :: names,c =>
    match spool.lookup dir name with
    | none => .error (.osError "no such file")
    | some raw =>
      match candidateOf inst state name raw with
      | .error e => .error e
      | .ok none => gather inst spool state dir names c
      | .ok (some row) =>
        match c.add row with
        | .error e => .error e
        | .ok c => gather inst spool state dir names c

/-- What the database has against a candidate. -/
def conflictWith (db : Db) (row : DurableIdentity) : Option PyError :=
  match matchingIdentity row db with
  | some stored => identityConflict stored row
  | none =>
    if (db.intent? row.key).isSome && !(db.dispatches.find? (fun d =>
        d.commandId = row.commandId ∧ d.key = row.key ∧ d.commandType = .submitLimit)).any
          (fun d => d.qmtSessionId = row.qmtSessionId ∧ d.brokerToken = some row.brokerToken ∧
            d.frameDigest = row.commandDigest ∧ d.frameBlob = row.commandDigest) then
      some (.durableIdentityConflict
        "OMS order exists without matching durable dispatch authority")
    else none

def checkAll (db : Db) : List DurableIdentity → Except PyError Unit
  | [] => .ok ()
  | row :: rows =>
    match conflictWith db row with
    | some e => .error e
    | none => checkAll db rows

/-- The first pass: the candidates, or why the call is refused. -/
def firstPass (s : RuntimeState) (spool : Spool) (db : Db) :
    Except PyError (List DurableIdentity) :=
  match gather s.instance_ spool .processed .processed (spool.names .processed)
      ⟨.fresh s.account,[]⟩ with
  | .error e => .error e
  | .ok c =>
    match gather s.instance_ spool .unknown .unknown (spool.names .unknown) c with
    | .error e => .error e
    | .ok c => (checkAll db c.rows).map (fun _ => c.rows)

section firstPass
variable (now : Nat) {s : RuntimeState} {w : World}

theorem readCandidates_call (state : CommandState) (dir : SpoolDir) (names : List String)
    (c : Candidates) : (alone now).call (readCandidates state dir names c) s w =
      ((gather s.instance_ w.spool state dir names c,s),w) := by
  induction names generalizing c with
  | nil => rfl
  | cons name names ih =>
    unfold readCandidates gather
    rw [Policy.call_bind_ok _ (Policy.call_self _)]
    have hread : (alone now).call (call (.readFile dir name) : Runtime Raw) s w =
        ((match w.spool.lookup dir name with
          | none => .error (.osError "no such file")
          | some raw => .ok raw,s),w) := by
      cases hfile : w.spool.lookup dir name <;> simp [alone,exec,hfile,answer]
    cases hfile : w.spool.lookup dir name with
    | none =>
      rw [hfile] at hread
      exact Policy.call_bind_error _ hread
    | some raw =>
      rw [hfile] at hread
      refine (Policy.call_bind_ok _ hread).trans ?_
      dsimp only
      have hfound : (alone now).call (Proc.ofExcept (candidateOf s.instance_ state name raw) :
          Runtime (Option DurableIdentity)) s w = ((candidateOf s.instance_ state name raw,s),w) :=
        Policy.call_ofExcept _ _
      cases hrow : candidateOf s.instance_ state name raw with
      | error e =>
        rw [hrow] at hfound
        exact Policy.call_bind_error _ hfound
      | ok row =>
        rw [hrow] at hfound
        refine (Policy.call_bind_ok _ hfound).trans ?_
        cases row with
        | none => exact ih c
        | some row =>
          have hadded : (alone now).call (Proc.ofExcept (c.add row) : Runtime Candidates) s w =
              ((c.add row,s),w) := Policy.call_ofExcept _ _
          cases hadd : c.add row with
          | error e =>
            rw [hadd] at hadded
            simp only [hadd]
            exact Policy.call_bind_error _ hadded
          | ok c' =>
            rw [hadd] at hadded
            simp only [hadd]
            exact (Policy.call_bind_ok _ hadded).trans (ih c')

theorem checkCandidate_call (row : DurableIdentity) :
    (alone now).call (checkCandidate row) s w =
      ((match conflictWith w.db row with
        | some e => .error e
        | none => .ok (),s),w) := by
  unfold checkCandidate conflictWith
  have hstored : (alone now).call (select (matchingIdentity row)) s w =
      ((.ok (matchingIdentity row w.db),s),w) := rfl
  refine (Policy.call_bind_ok _ hstored).trans ?_
  cases hmatch : matchingIdentity row w.db with
  | some stored =>
    dsimp only
    cases hconflict : identityConflict stored row <;> rfl
  | none =>
    have hprior : (alone now).call (select (fun db => db.intent? row.key)) s w =
        ((.ok (w.db.intent? row.key),s),w) := rfl
    refine (Policy.call_bind_ok _ hprior).trans ?_
    cases hintent : w.db.intent? row.key with
    | none => rfl
    | some i =>
      have hdispatch : (alone now).call (select (fun db => db.dispatches.find? (fun d =>
          d.commandId = row.commandId ∧ d.key = row.key ∧ d.commandType = .submitLimit))) s w =
            ((.ok (w.db.dispatches.find? (fun d => d.commandId = row.commandId ∧ d.key = row.key ∧
              d.commandType = .submitLimit)),s),w) := rfl
      refine (Policy.call_bind_ok _ hdispatch).trans ?_
      simp only [Option.isSome_some,Bool.true_and]
      split
      · rename_i hany
        rw [hany]
        rfl
      · rename_i hany
        rw [Bool.not_eq_true] at hany
        rw [hany]
        rfl

theorem checkAll_call (rows : List DurableIdentity) :
    (alone now).call (each checkCandidate rows) s w = ((checkAll w.db rows,s),w) := by
  induction rows with
  | nil => rfl
  | cons row rows ih =>
    have hcheck := checkCandidate_call now (s := s) (w := w) row
    unfold checkAll
    cases hconflict : conflictWith w.db row with
    | some e =>
      rw [hconflict] at hcheck
      exact Policy.call_bind_error _ hcheck
    | none =>
      rw [hconflict] at hcheck
      exact (Policy.call_bind_ok _ hcheck).trans ih

/-- A call is refused in its first pass, or imports the candidates that this has found. -/
theorem refreshIdentities_call :
    (alone now).call refreshIdentities s w =
      match firstPass s w.spool w.db with
      | .error e => ((.error e,s),w)
      | .ok rows => (alone now).call (each importCandidate rows) s w := by
  unfold refreshIdentities firstPass
  refine (Policy.call_bind_ok _ (Policy.call_self _)).trans ?_
  have hlist : ∀ dir,(alone now).call (call (.listDir dir) : Runtime (List String)) s w =
      ((.ok (w.spool.names dir),s),w) := fun _ => rfl
  refine (Policy.call_bind_ok _ (hlist .processed)).trans ?_
  have hprocessed := readCandidates_call now (s := s) (w := w) .processed .processed
    (w.spool.names .processed) ⟨.fresh s.account,[]⟩
  cases hfirst : gather s.instance_ w.spool .processed .processed (w.spool.names .processed)
      ⟨.fresh s.account,[]⟩ with
  | error e =>
    rw [hfirst] at hprocessed
    exact Policy.call_bind_error _ hprocessed
  | ok c =>
    rw [hfirst] at hprocessed
    refine (Policy.call_bind_ok _ hprocessed).trans ?_
    refine (Policy.call_bind_ok _ (hlist .unknown)).trans ?_
    have hunknown := readCandidates_call now (s := s) (w := w) .unknown .unknown
      (w.spool.names .unknown) c
    cases hsecond : gather s.instance_ w.spool .unknown .unknown (w.spool.names .unknown) c with
    | error e =>
      rw [hsecond] at hunknown
      simp only [hsecond]
      exact Policy.call_bind_error _ hunknown
    | ok c' =>
      rw [hsecond] at hunknown
      simp only [hsecond]
      refine (Policy.call_bind_ok _ hunknown).trans ?_
      have hcheck := checkAll_call now (s := s) (w := w) c'.rows
      cases hall : checkAll w.db c'.rows with
      | error e =>
        rw [hall] at hcheck
        exact Policy.call_bind_error _ hcheck
      | ok u =>
        rw [hall] at hcheck
        exact Policy.call_bind_ok _ hcheck

end firstPass

end Runtime

namespace Mapper

variable {m m' : Mapper} {clientOrderId symbol token : String} {quantity : Int}

theorem registerOrder_account (h : m.registerOrder clientOrderId symbol quantity = .ok (token,m')) :
    m'.accountFingerprint = m.accountFingerprint := by
  obtain ⟨-,⟨_,-,-,rfl⟩ | ⟨-,rfl⟩⟩ := registerOrder_cases h <;> rfl

/-- Registering it again changes nothing. -/
theorem registerOrder_again (h : m.registerOrder clientOrderId symbol quantity = .ok (token,m')) :
    m'.registerOrder clientOrderId symbol quantity = .ok (token,m') := by
  obtain ⟨htoken,⟨o,ho,-,rfl⟩ | ⟨hnone,hm'⟩⟩ := registerOrder_cases h
  · exact h
  · have hfound : m'.order? token = some ⟨clientOrderId,token,symbol,quantity,none⟩ := by
      rw [hm']
      exact registerOrder_new hnone
    have haccount : brokerTokenFor m'.accountFingerprint clientOrderId = .ok token := by
      rw [hm']
      exact htoken
    simp only [registerOrder,refuse_eq_ok] at h ⊢
    refine ⟨h.1,h.2.1,h.2.2.1,?_⟩
    rw [haccount]
    simp only [bind,Except.bind,hfound]
    simp [refuse]

end Mapper

/-- What the first pass makes sure of for every candidate. -/
structure Candidate (account : String) (row : DurableIdentity) : Prop where
  own : row.key.accountFingerprint = account
  positive : 0 < row.quantity
  bounded : row.quantity ≤ 100
  token : brokerTokenFor account row.key.clientOrderId = .ok row.brokerToken

/-- Two candidates share nothing that the database looks identities up by. -/
structure Apart (a b : DurableIdentity) : Prop where
  command : a.commandId ≠ b.commandId
  order : a.key ≠ b.key
  token : a.brokerToken ≠ b.brokerToken

namespace Runtime

structure Coherent (account : String) (c : Candidates) : Prop where
  own : c.validator.accountFingerprint = account
  candidates : ∀ r ∈ c.rows,Candidate account r
  apart : ∀ a ∈ c.rows,∀ b ∈ c.rows,a = b ∨ Apart a b
  known : ∀ r ∈ c.rows,∃ o,c.validator.order? r.brokerToken = some o ∧
    o.clientOrderId = r.key.clientOrderId

section gather
variable {inst : QmtInstance} {spool : Spool} {state : CommandState} {dir : SpoolDir}
  {names : List String} {c c' : Candidates} {row : DurableIdentity}

theorem candidateOf_account {name : String} {raw : Raw}
    (h : candidateOf inst state name raw = .ok (some row)) :
    row.key.accountFingerprint = inst.accountFingerprint ∧ row.quantity ≤ 100 := by
  unfold candidateOf at h
  obtain ⟨command,-,h⟩ := Except.ok_of_bind h
  obtain ⟨_,-,h⟩ := Except.ok_of_bind h
  dsimp only at h
  split at h
  · cases h
  · rename_i hsubmit
    split at h
    · rename_i quantity clientOrderId token symbol side limitPrice hq hclient ht hs hside hl
      obtain ⟨_,hbound,h⟩ := Except.ok_of_bind h
      obtain ⟨expected,-,h⟩ := Except.ok_of_bind h
      obtain ⟨_,-,h⟩ := Except.ok_of_bind h
      have hbounded : quantity ≤ 100 := by
        simp only [refuse_eq_ok,decide_eq_false_iff_not] at hbound
        omega
      have haccount : command.accountFingerprint = inst.accountFingerprint := by
        by_contra hne
        simp [hne] at hsubmit
      cases h
      exact ⟨haccount,hbounded⟩
    · cases h

theorem Coherent.add {account : String} (hc : Coherent account c) (h : c.add row = .ok c')
    (haccount : row.key.accountFingerprint = account) (hbounded : row.quantity ≤ 100) :
    Coherent account c' ∧ c'.rows = c.rows ++ [row] := by
  unfold Candidates.add at h
  obtain ⟨⟨token,validator⟩,hregister,h⟩ := Except.ok_of_bind h
  obtain ⟨_,htoken,h⟩ := Except.ok_of_bind h
  obtain ⟨_,hclient,h⟩ := Except.ok_of_bind h
  obtain ⟨_,hcommand,h⟩ := Except.ok_of_bind h
  cases h
  simp only [refuse_eq_ok,and_true,decide_eq_false_iff_not,not_not] at htoken
  subst htoken
  obtain ⟨hfor,hcases⟩ := Mapper.registerOrder_cases hregister
  rw [hc.own] at hfor
  have hpositive : 0 < row.quantity := by
    have hregister' := hregister
    simp only [Mapper.registerOrder,refuse_eq_ok,decide_eq_false_iff_not] at hregister'
    omega
  have hsame : ∀ r ∈ c.rows,r = row ∨ Apart r row := by
    intro r hr
    by_cases heq : r = row
    · exact .inl heq
    · simp only [refuse_eq_ok,and_true,List.any_eq_false,decide_eq_true_eq] at hclient hcommand
      have hne : r.key.clientOrderId ≠ row.key.clientOrderId := fun hk => hclient r hr ⟨hk,heq⟩
      refine .inr ⟨fun hk => hcommand r hr ⟨hk,heq⟩,fun hk => hne (by rw [hk]),fun hk => ?_⟩
      obtain ⟨o,ho,hoc⟩ := hc.known r hr
      obtain ⟨o',ho',hoc',-⟩ | ⟨hnone,-⟩ := hcases
      · rw [hk,ho'] at ho
        cases ho
        exact hne (hoc.symm.trans hoc')
      · rw [hk,hnone] at ho
        cases ho
  have hrow : ∃ o,validator.order? row.brokerToken = some o ∧
      o.clientOrderId = row.key.clientOrderId := by
    obtain ⟨o,ho,hoc,rfl⟩ | ⟨hnone,rfl⟩ := hcases
    · exact ⟨o,ho,hoc⟩
    · exact ⟨_,Mapper.registerOrder_new hnone,rfl⟩
  refine ⟨⟨(Mapper.registerOrder_account hregister).trans hc.own,?_,?_,?_⟩,rfl⟩
  · intro r hr
    obtain hr | hr := List.mem_append.mp hr
    · exact hc.candidates r hr
    · cases List.mem_singleton.mp hr
      exact ⟨haccount,hpositive,hbounded,hfor⟩
  · intro a ha b hb
    obtain ha | ha := List.mem_append.mp ha
    · obtain hb | hb := List.mem_append.mp hb
      · exact hc.apart a ha b hb
      · cases List.mem_singleton.mp hb
        exact hsame a ha
    · cases List.mem_singleton.mp ha
      obtain hb | hb := List.mem_append.mp hb
      · obtain rfl | hapart := hsame b hb
        · exact .inl rfl
        · exact .inr ⟨hapart.command.symm,hapart.order.symm,hapart.token.symm⟩
      · exact .inl (List.mem_singleton.mp hb).symm
  · intro r hr
    obtain hr | hr := List.mem_append.mp hr
    · by_cases htoken : r.brokerToken = row.brokerToken
      · obtain rfl | hapart := hsame r hr
        · exact hrow
        · exact absurd htoken hapart.token
      · rw [Mapper.registerOrder_other hregister htoken]
        exact hc.known r hr
    · cases List.mem_singleton.mp hr
      exact hrow

/-- The loop adds the candidate of every file of the directory. -/
theorem gather_ok (h : gather inst spool state dir names c = .ok c')
    (hc : Coherent inst.accountFingerprint c) :
    Coherent inst.accountFingerprint c' ∧ (∀ r ∈ c.rows,r ∈ c'.rows) ∧
      ∀ name raw row,name ∈ names → spool.lookup dir name = some raw →
        candidateOf inst state name raw = .ok (some row) → row ∈ c'.rows := by
  induction names generalizing c with
  | nil =>
    cases h
    exact ⟨hc,fun _ hr => hr,fun _ _ _ hn => by cases hn⟩
  | cons name names ih =>
    unfold gather at h
    cases hfile : spool.lookup dir name with
    | none => simp [hfile] at h
    | some raw =>
      cases hfound : candidateOf inst state name raw with
      | error e => simp [hfile,hfound] at h
      | ok found =>
        cases found with
        | none =>
          simp only [hfile,hfound] at h
          obtain ⟨hc',hkept,hadded⟩ := ih h hc
          refine ⟨hc',hkept,fun name' raw' row' hn hl hrow => ?_⟩
          obtain rfl | hn := List.mem_cons.mp hn
          · rw [hfile] at hl
            cases hl
            rw [hfound] at hrow
            cases hrow
          · exact hadded name' raw' row' hn hl hrow
        | some row =>
          cases hadd : c.add row with
          | error e => simp [hfile,hfound,hadd] at h
          | ok c₁ =>
            simp only [hfile,hfound,hadd] at h
            obtain ⟨haccount,hbounded⟩ := candidateOf_account hfound
            obtain ⟨hc₁,hrows⟩ := hc.add hadd haccount hbounded
            obtain ⟨hc',hkept,hadded⟩ := ih h hc₁
            refine ⟨hc',fun r hr => hkept r (by simp [hrows,hr]),?_⟩
            intro name' raw' row' hn hl hrow
            obtain rfl | hn := List.mem_cons.mp hn
            · rw [hfile] at hl
              cases hl
              rw [hfound] at hrow
              cases hrow
              exact hkept row (by simp [hrows])
            · exact hadded name' raw' row' hn hl hrow

end gather
end Runtime
end BigQmt
