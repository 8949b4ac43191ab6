import BigQmt.IdentityImport
import BigQmt.Folds
set_option autoImplicit false

/-!
The second pass of `refresh_identities`: when a call that raises in it has left everything
as it was.
-/

namespace BigQmt

open Resumption Proc Transact Keyed

/-- What `register_qmt_durable_submit` refuses of a candidate that passed the checks. -/
def importRefused (db : Db) (row : DurableIdentity) : Bool :=
  (matchingIdentity row db).isNone &&
    if (db.intent? row.key).isSome then (db.order? row.key).isNone
    else row.outOfRange || (db.order? row.key).isSome

/-- The tables after `register_qmt_durable_submit`. -/
def imported (db : Db) (row : DurableIdentity) : Db :=
  match matchingIdentity row db with
  | some stored => if stored = row then db else db.processIdentity row.commandId
  | none =>
    match db.intent? row.key, db.order? row.key with
    | some _, some order => { db with
        durableIdentities := db.durableIdentities ++ [row]
        orderEvents := db.orderEvents ++ [⟨row.key,
          .named "QMT_DURABLE_SUBMIT_LINKED_TO_OMS_DISPATCH",some order.status,order.status,
            .applied⟩] }
    | _, _ => { db with
        orderIntents := db.orderIntents ++ [importedIntent row]
        brokerOrders := db.brokerOrders ++ [importedOrder row.key]
        durableIdentities := db.durableIdentities ++ [row]
        orderEvents := db.orderEvents ++ [⟨row.key,.named "QMT_DURABLE_SUBMIT_REGISTERED",none,
          .reconciling,.applied⟩] }

section register

variable {account : String} {db : Db} {row : DurableIdentity}

theorem identityConflict_none {stored : DurableIdentity}
    (h : Runtime.identityConflict stored row = none) : stored = row ∨
      stored.commandState = .unknown ∧ row = { stored with commandState := .processed } := by
  unfold Runtime.identityConflict at h
  split at h
  · cases h
  · rename_i hsame
    split at h
    · cases h
    · rename_i hstate
      rw [not_not] at hsame
      by_cases heq : stored.commandState = row.commandState
      · left
        rw [← hsame,← heq]
      · have hprogress := not_not.mp (fun hp => hstate ⟨heq,hp⟩)
        right
        refine ⟨hprogress.1,?_⟩
        rw [← hprogress.2]
        exact hsame.symm

theorem conflictWith_known {stored : DurableIdentity} (h : Runtime.conflictWith db row = none)
    (hm : matchingIdentity row db = some stored) : Runtime.identityConflict stored row = none := by
  simpa [Runtime.conflictWith,hm] using h

theorem insertIdentity_eq (hc : Candidate account row) (hi : (db.intent? row.key).isSome = true)
    (hm : matchingIdentity row db = none) :
    insertIdentity row db =
      .ok ((),{ db with durableIdentities := db.durableIdentities ++ [row] }) := by
  have hpositive : ¬ row.quantity ≤ 0 := Int.not_le.mpr hc.positive
  have hbounded : ¬ 100 < row.quantity := Int.not_lt.mpr hc.bounded
  simp only [insertIdentity,Tx.bind_eq_ok,requireIntent_eq_ok,Tx.reads_eq_ok,Tx.raiseIf_eq_ok,
    Tx.writes_eq_ok]
  exact ⟨(),db,⟨hi,rfl⟩,none,db,⟨hm.symm,rfl⟩,(),db,⟨by simp [hpositive,hbounded],rfl⟩,rfl⟩

theorem knownIdentity_eq {stored : DurableIdentity}
    (h : Runtime.identityConflict stored row = none) :
    knownIdentity row stored db =
      .ok (false,if stored = row then db else db.processIdentity row.commandId) := by
  unfold knownIdentity
  obtain rfl | ⟨hunknown,hprocessed⟩ := identityConflict_none h
  · have hnot : ¬ (stored.commandState = .unknown ∧
        stored = { stored with commandState := .processed }) := by
      rintro ⟨hunknown,hp⟩
      rw [hp] at hunknown
      cases hunknown
    simp only [Bool.and_eq_true,decide_eq_true_eq]
    rw [if_neg hnot]
    simp
  · have hne : stored ≠ row := by
      intro h
      rw [← h] at hprocessed
      rw [hprocessed] at hunknown
      cases hunknown
    simp only [Bool.and_eq_true,decide_eq_true_eq]
    rw [if_pos ⟨hunknown,hprocessed⟩,if_neg hne]
    simp

/-- A transaction that goes on from a first part that has returned. -/
theorem tx_bind {α β : Type} {x : DbTx α} {f : α → DbTx β} {a : α} {db db' : Db}
    (h : x db = .ok (a,db')) : (x >>= f) db = f a db' := by
  simp only [bind,h]

theorem insertEvent_eq {event : OrderEvent} {db : Db} (hi : (db.intent? event.key).isSome = true) :
    insertEvent event db = .ok ((),{ db with orderEvents := db.orderEvents ++ [event] }) :=
  insertEvent_eq_ok.mpr ⟨hi,rfl⟩

theorem linkIdentity_eq (hc : Candidate account row) (hi : (db.intent? row.key).isSome = true)
    (hm : matchingIdentity row db = none) :
    linkIdentity row db = match db.order? row.key with
      | none => .error (.orderNotFound row.key.clientOrderId)
      | some order => .ok (true,{ db with
          durableIdentities := db.durableIdentities ++ [row]
          orderEvents := db.orderEvents ++ [⟨row.key,
            .named "QMT_DURABLE_SUBMIT_LINKED_TO_OMS_DISPATCH",some order.status,order.status,
              .applied⟩] }) := by
  unfold linkIdentity
  rw [tx_bind (insertIdentity_eq hc hi hm)]
  have horder :
      ({ db with durableIdentities := db.durableIdentities ++ [row] } : Db).order? row.key =
        db.order? row.key := rfl
  cases ho : db.order? row.key with
  | none => simp [getStatusInTx,fetch,bind,horder,ho]
  | some order =>
    have hstatus : getStatusInTx row.key
        { db with durableIdentities := db.durableIdentities ++ [row] } =
          .ok (order.status,{ db with durableIdentities := db.durableIdentities ++ [row] }) := by
      simp [getStatusInTx,fetch,bind,horder,ho,pure]
    rw [tx_bind hstatus]
    refine (tx_bind (insertEvent_eq ?_)).trans rfl
    exact hi

theorem importIdentity_eq (hc : Candidate account row) (hi : db.intent? row.key = none)
    (hm : matchingIdentity row db = none) :
    if row.outOfRange || (db.order? row.key).isSome then ∃ e, importIdentity row db = .error e
    else importIdentity row db = .ok (true,{ db with
        orderIntents := db.orderIntents ++ [importedIntent row]
        brokerOrders := db.brokerOrders ++ [importedOrder row.key]
        durableIdentities := db.durableIdentities ++ [row]
        orderEvents := db.orderEvents ++ [⟨row.key,.named "QMT_DURABLE_SUBMIT_REGISTERED",none,
          .reconciling,.applied⟩] }) := by
  have hintent : insertIntent (importedIntent row) db =
      .ok ((),{ db with orderIntents := db.orderIntents ++ [importedIntent row] }) :=
    insertIntent_eq_ok.mpr ⟨hi,hc.positive,rfl⟩
  have hknown : ∀ db' : Db, db'.orderIntents = db.orderIntents ++ [importedIntent row] →
      (db'.intent? row.key).isSome = true := by
    intro db' h
    have hnone : find IntentColumns.key (IntentColumns.key (importedIntent row)) db.orderIntents =
        none := hi
    have hself := find_append_self hnone
    simp only [Db.intent?,h]
    exact Option.isSome_iff_exists.mpr ⟨_,hself⟩
  unfold importIdentity
  cases hrange : row.outOfRange with
  | true =>
    simp only [Bool.true_or,if_true]
    exact ⟨_,rfl⟩
  | false =>
    simp only [Bool.false_or]
    have hraise : (Tx.raiseIf false (.valueError "year is out of range") : DbTx Unit) db =
        .ok ((),db) := rfl
    rw [tx_bind hraise,tx_bind hintent]
    cases ho : db.order? row.key with
    | some order =>
      simp only [Option.isSome_some,if_true]
      have horder : insertOrder (importedOrder row.key)
          { db with orderIntents := db.orderIntents ++ [importedIntent row] } =
            .error (.integrityError "broker_orders") := by
        have hrequire : requireIntent (importedOrder row.key).key "broker_orders"
            { db with orderIntents := db.orderIntents ++ [importedIntent row] } =
              .ok ((),{ db with orderIntents := db.orderIntents ++ [importedIntent row] }) :=
          requireIntent_eq_ok.mpr ⟨hknown _ rfl,rfl⟩
        have hfound :
            ({ db with orderIntents := db.orderIntents ++ [importedIntent row] } : Db).order?
              (importedOrder row.key).key = some order := ho
        unfold insertOrder
        rw [tx_bind hrequire,Tx.reads_bind,hfound]
        rfl
      exact ⟨_,by simp only [bind,horder]; rfl⟩
    | none =>
      simp only [Option.isSome_none,Bool.false_eq_true,if_false]
      have horder : insertOrder (importedOrder row.key)
          { db with orderIntents := db.orderIntents ++ [importedIntent row] } =
            .ok ((),{ db with
              orderIntents := db.orderIntents ++ [importedIntent row]
              brokerOrders := db.brokerOrders ++ [importedOrder row.key] }) :=
        insertOrder_eq_ok.mpr ⟨hknown _ rfl,ho,rfl⟩
      have hidentity : insertIdentity row { db with
            orderIntents := db.orderIntents ++ [importedIntent row]
            brokerOrders := db.brokerOrders ++ [importedOrder row.key] } =
          .ok ((),{ db with
            orderIntents := db.orderIntents ++ [importedIntent row]
            brokerOrders := db.brokerOrders ++ [importedOrder row.key]
            durableIdentities := db.durableIdentities ++ [row] }) :=
        insertIdentity_eq hc (hknown _ rfl) hm
      rw [tx_bind horder,tx_bind hidentity]
      refine (tx_bind (insertEvent_eq ?_)).trans rfl
      exact hknown _ rfl

/-- A candidate that passed the checks is refused, or imported. -/
theorem register_eq (hc : Candidate account row) (hcheck : Runtime.conflictWith db row = none) :
    if importRefused db row then
      ∃ e, registerQmtDurableSubmitInTx row (db.intent? row.key).isSome db = .error e
    else ∃ b, registerQmtDurableSubmitInTx row (db.intent? row.key).isSome db =
      .ok (b,imported db row) := by
  rw [registerQmtDurableSubmitInTx,Tx.reads_bind]
  unfold importRefused imported
  cases hm : matchingIdentity row db with
  | some stored =>
    simp only [Option.isNone_some,Bool.false_and,Bool.false_eq_true,if_false]
    exact ⟨false,knownIdentity_eq (conflictWith_known hcheck hm)⟩
  | none =>
    simp only [Option.isNone_none,Bool.true_and,Tx.reads_bind]
    cases hi : db.intent? row.key with
    | some intent =>
      have hlink := linkIdentity_eq hc (by rw [hi]; rfl) hm
      have hraise : (Tx.raiseIf (!true) (.durableIdentityConflict
          "OMS order exists without matching durable QMT identity") : DbTx Unit) db = .ok ((),db) :=
        rfl
      simp only [Option.isSome_some,if_true]
      rw [tx_bind hraise,hlink]
      cases ho : db.order? row.key with
      | none => exact ⟨_,rfl⟩
      | some order => exact ⟨true,rfl⟩
    | none =>
      have himport := importIdentity_eq hc hi hm
      simp only [Option.isSome_none,Bool.false_eq_true,if_false]
      split at himport
      · rename_i hrefused
        rw [if_pos hrefused]
        exact himport
      · rename_i haccepted
        rw [if_neg haccepted]
        exact ⟨true,himport⟩

/-- Nothing that an import reads of another candidate moves. -/
structure SameFacts (db db' : Db) (row : DurableIdentity) : Prop where
  identity : matchingIdentity row db' = matchingIdentity row db
  intent : db'.intent? row.key = db.intent? row.key
  order : db'.order? row.key = db.order? row.key
  dispatches : db'.dispatches = db.dispatches

theorem SameFacts.refl (db : Db) (row : DurableIdentity) : SameFacts db db row :=
  ⟨rfl,rfl,rfl,rfl⟩

theorem SameFacts.conflictWith {db' : Db} (h : SameFacts db db' row) :
    Runtime.conflictWith db' row = Runtime.conflictWith db row := by
  simp only [Runtime.conflictWith,h.identity,h.intent,h.dispatches]

theorem SameFacts.importRefused {db' : Db} (h : SameFacts db db' row) :
    importRefused db' row = importRefused db row := by
  simp only [BigQmt.importRefused,h.identity,h.intent,h.order]

/-- Whether a stored identity is looked up for a row. -/
def matchesIdentity (row r : DurableIdentity) : Bool :=
  r.commandId == row.commandId || r.key == row.key ||
    (r.key.accountFingerprint == row.key.accountFingerprint && r.brokerToken == row.brokerToken)

theorem matchingIdentity_eq (row : DurableIdentity) (db : Db) :
    matchingIdentity row db = db.durableIdentities.find? (matchesIdentity row) := rfl

theorem matchesIdentity_self (row : DurableIdentity) : matchesIdentity row row = true := by
  simp [matchesIdentity]

theorem Apart.not_matches {a b : DurableIdentity} (h : Apart a b) :
    matchesIdentity b a = false := by
  simp [matchesIdentity,h.command,h.order,h.token]

theorem matchingIdentity_append {row added : DurableIdentity} {ids : List DurableIdentity}
    (h : matchesIdentity row added = false) :
    (ids ++ [added]).find? (matchesIdentity row) = ids.find? (matchesIdentity row) := by
  simp [List.find?_append,h]

theorem find_processed (row : DurableIdentity) (commandId : String) (ids : List DurableIdentity) :
    (Keyed.modify DurableIdentity.commandId commandId
        (fun r => { r with commandState := .processed }) ids).find? (matchesIdentity row) =
      (ids.find? (matchesIdentity row)).map (fun r =>
        if r.commandId = commandId then { r with commandState := .processed } else r) := by
  unfold Keyed.modify
  rw [List.find?_map]
  have hsame : matchesIdentity row ∘ (fun r => if r.commandId = commandId then
      { r with commandState := .processed } else r) = matchesIdentity row := by
    funext r
    simp only [Function.comp_apply]
    split <;> rfl
  rw [hsame]

/-- An import moves nothing that is read for a candidate that it is apart from. -/
theorem imported_apart {other : DurableIdentity} (hapart : Apart row other)
    (hcheck : Runtime.conflictWith db other = none) : SameFacts db (imported db row) other := by
  have hne := hapart.not_matches
  have hkey : other.key ≠ row.key := fun h => hapart.order h.symm
  unfold imported
  cases hm : matchingIdentity row db with
  | some stored =>
    dsimp only
    split
    · exact .refl db other
    · refine ⟨?_,rfl,rfl,rfl⟩
      have hfound := find_processed other row.commandId db.durableIdentities
      rw [← matchingIdentity_eq other db] at hfound
      refine hfound.trans ?_
      cases ho : matchingIdentity other db with
      | none => rfl
      | some r =>
        have hcommand : r.commandId ≠ row.commandId := by
          obtain rfl | ⟨-,hr⟩ := identityConflict_none (conflictWith_known hcheck ho)
          · exact fun h => hapart.command h.symm
          · have hsame : other.commandId = r.commandId := by rw [hr]
            rw [← hsame]
            exact fun h => hapart.command h.symm
        simp [hcommand]
  | none =>
    dsimp only
    split
    · exact ⟨matchingIdentity_append hne,rfl,rfl,rfl⟩
    · exact ⟨matchingIdentity_append hne,find_append_ne hkey,find_append_ne hkey,rfl⟩

/-- What an import leaves for its own candidate. -/
theorem imported_self (hcheck : Runtime.conflictWith db row = none) :
    matchingIdentity row (imported db row) = some row := by
  unfold imported
  cases hm : matchingIdentity row db with
  | some stored =>
    dsimp only
    obtain heq | ⟨-,hprocessed⟩ := identityConflict_none (conflictWith_known hcheck hm)
    · rw [if_pos heq,hm,heq]
    · split
      · rename_i heq
        rw [hm,heq]
      · have hfound := find_processed row row.commandId db.durableIdentities
        rw [← matchingIdentity_eq row db,hm] at hfound
        refine hfound.trans ?_
        have hcommand : stored.commandId = row.commandId := by rw [hprocessed]
        rw [Option.map_some,if_pos hcommand,← hprocessed]
  | none =>
    have hnew : (db.durableIdentities ++ [row]).find? (matchesIdentity row) = some row := by
      rw [matchingIdentity_eq] at hm
      simp [List.find?_append,hm,matchesIdentity_self]
    dsimp only
    split <;> exact hnew

end register

/-- The candidate is in the database, and the live mapper has its order. -/
def Imported (m : Mapper) (db : Db) (row : DurableIdentity) : Prop :=
  matchingIdentity row db = some row ∧
    ∃ token,m.registerOrder row.key.clientOrderId row.symbol row.quantity = .ok (token,m)

/-- The second pass stops at the candidate: its transaction refuses it, or the live mapper. -/
def Refused (m : Mapper) (db : Db) (row : DurableIdentity) : Prop :=
  importRefused db row = true ∨
    ∃ e,m.registerOrder row.key.clientOrderId row.symbol row.quantity = .error e

instance (m : Mapper) (db : Db) (row : DurableIdentity) : Decidable (Refused m db row) :=
  decidable_of_iff (importRefused db row = true ∨
      (m.registerOrder row.key.clientOrderId row.symbol row.quantity).isOk = false) (by
    unfold Refused
    cases m.registerOrder row.key.clientOrderId row.symbol row.quantity <;> simp [Except.toBool])

namespace Mapper

variable {m m' : Mapper} {clientOrderId symbol token : String} {quantity : Int}

/-- Whether an order is accepted depends on the order that has its token. -/
theorem registerOrder_congr (symbol : String) (quantity : Int)
    (haccount : m'.accountFingerprint = m.accountFingerprint)
    (htoken : brokerTokenFor m.accountFingerprint clientOrderId = .ok token)
    (horder : m'.order? token = m.order? token) :
    (m'.registerOrder clientOrderId symbol quantity).map Prod.fst =
      (m.registerOrder clientOrderId symbol quantity).map Prod.fst := by
  unfold registerOrder
  rw [haccount,htoken]
  simp only [refuse,bind,Except.bind,horder]
  cases hfound : m.order? token with
  | some existing =>
    dsimp only
    repeat' split
    all_goals rfl
  | none =>
    dsimp only
    repeat' split
    all_goals rfl

theorem registerOrder_error {e : PyError} (haccount : m'.accountFingerprint = m.accountFingerprint)
    (htoken : brokerTokenFor m.accountFingerprint clientOrderId = .ok token)
    (horder : m'.order? token = m.order? token)
    (h : m.registerOrder clientOrderId symbol quantity = .error e) :
    m'.registerOrder clientOrderId symbol quantity = .error e := by
  have hsame := registerOrder_congr symbol quantity haccount htoken horder
  rw [h] at hsame
  cases hr : m'.registerOrder clientOrderId symbol quantity with
  | ok r => simp [hr,Except.map] at hsame
  | error e' => simpa [hr,Except.map] using hsame

/-- An order that the mapper has already stays one. -/
theorem registerOrder_kept {t : String} (haccount : m'.accountFingerprint = m.accountFingerprint)
    (htoken : brokerTokenFor m.accountFingerprint clientOrderId = .ok token)
    (horder : m'.order? token = m.order? token)
    (h : m.registerOrder clientOrderId symbol quantity = .ok (t,m)) :
    m'.registerOrder clientOrderId symbol quantity = .ok (t,m') := by
  have hsame := registerOrder_congr symbol quantity haccount htoken horder
  rw [h] at hsame
  obtain ⟨ht,hcases⟩ := registerOrder_cases h
  rw [htoken] at ht
  cases ht
  cases hr : m'.registerOrder clientOrderId symbol quantity with
  | error e => simp [hr,Except.map] at hsame
  | ok r =>
    obtain ⟨t',m''⟩ := r
    have ht' : t' = token := by simpa [hr,Except.map] using hsame
    subst ht'
    obtain ⟨-,⟨_,-,-,rfl⟩ | ⟨hnone,-⟩⟩ := registerOrder_cases hr
    · rfl
    · obtain ⟨o,ho,-⟩ | ⟨-,hm⟩ := hcases
      · rw [horder,ho] at hnone
        cases hnone
      · have hlength := congrArg (fun x => x.ordersByToken.length) hm
        simp at hlength

end Mapper

/-- The mapper and the tables after the import of a candidate that is not refused. -/
def importInto (p : Mapper × Db) (row : DurableIdentity) : Mapper × Db :=
  (match p.1.registerOrder row.key.clientOrderId row.symbol row.quantity with
    | .ok (_,m) => m
    | .error _ => p.1,imported p.2 row)

/-- Every import adds to it. -/
def importSize (p : Mapper × Db) : Nat :=
  p.1.ordersByToken.length + p.2.durableIdentities.length +
    p.2.durableIdentities.countP (fun r => r.commandState = .processed)

theorem imported_grows (db : Db) (row : DurableIdentity) :
    imported db row = db ∨
      db.durableIdentities.length < (imported db row).durableIdentities.length ∧
        db.durableIdentities.countP (fun r => r.commandState = .processed) ≤
          (imported db row).durableIdentities.countP (fun r => r.commandState = .processed) ∨
      db.durableIdentities.length = (imported db row).durableIdentities.length ∧
        db.durableIdentities.countP (fun r => r.commandState = .processed) <
          (imported db row).durableIdentities.countP (fun r => r.commandState = .processed) := by
  unfold imported
  split
  · split
    · exact .inl rfl
    · obtain ⟨-,hsame | hmore⟩ := modify_marks DurableIdentity.commandId row.commandId
        db.durableIdentities (f := fun r => { r with commandState := .processed })
        (fun _ => decide_eq_true rfl)
        (fun r (hr : decide (r.commandState = .processed) = true) => by
          rw [← of_decide_eq_true hr])
      · left
        simp only [Db.processIdentity]
        rw [hsame]
      · right
        right
        exact ⟨(List.length_map _).symm,hmore⟩
  · right
    left
    split <;> simp

theorem importInto_grows (p : Mapper × Db) (row : DurableIdentity) :
    importInto p row = p ∨ importSize p < importSize (importInto p row) := by
  have hmapper : (importInto p row).1 = p.1 ∨
      p.1.ordersByToken.length < (importInto p row).1.ordersByToken.length := by
    unfold importInto
    cases hr : p.1.registerOrder row.key.clientOrderId row.symbol row.quantity with
    | error e => exact .inl rfl
    | ok r =>
      obtain ⟨-,⟨_,-,-,hm⟩ | ⟨-,hm⟩⟩ := Mapper.registerOrder_cases hr
      · exact .inl hm
      · right
        simp [hm]
  obtain hdb | hdb := imported_grows p.2 row
  · obtain hmapper | hmapper := hmapper
    · exact .inl (Prod.ext hmapper hdb)
    · right
      have hdb' : (importInto p row).2 = p.2 := hdb
      simp only [importSize,hdb']
      omega
  · right
    have hlength : p.1.ordersByToken.length ≤ (importInto p row).1.ordersByToken.length := by
      obtain h | h := hmapper
      · rw [h]
      · omega
    have hdb' : (importInto p row).2 = imported p.2 row := rfl
    simp only [importSize,hdb']
    omega

/-- The candidates that the second pass has still to import. -/
structure Importable (account : String) (p : Mapper × Db) (rows : List DurableIdentity) : Prop where
  own : p.1.accountFingerprint = account
  candidates : ∀ r ∈ rows,Candidate account r
  checked : ∀ r ∈ rows,Runtime.conflictWith p.2 r = none
  apart : ∀ a ∈ rows,∀ b ∈ rows,a = b ∨ Apart a b

section importInto

variable {account : String} {p : Mapper × Db} {row other : DurableIdentity}
  {rows : List DurableIdentity}

theorem Guard.check_congr {g : Guard} {now : Nat} {db db' : Db} (h : db'.omsLeader = db.omsLeader) :
    g.check now db' = g.check now db := by
  simp only [Guard.check,assertHeld,h]

theorem imported_leader {db : Db} : (imported db row).omsLeader = db.omsLeader := by
  unfold imported
  split
  · split <;> rfl
  · split <;> rfl

theorem importInto_account (p : Mapper × Db) (row : DurableIdentity) :
    (importInto p row).1.accountFingerprint = p.1.accountFingerprint := by
  unfold importInto
  cases hr : p.1.registerOrder row.key.clientOrderId row.symbol row.quantity with
  | error e => rfl
  | ok r => exact Mapper.registerOrder_account hr

theorem importInto_order {token : String} (hown : p.1.accountFingerprint = account)
    (hc : Candidate account row) (hne : token ≠ row.brokerToken) :
    (importInto p row).1.order? token = p.1.order? token := by
  unfold importInto
  cases hr : p.1.registerOrder row.key.clientOrderId row.symbol row.quantity with
  | error e => rfl
  | ok r =>
    obtain ⟨t,m⟩ := r
    have ht := (Mapper.registerOrder_cases hr).1
    rw [hown,hc.token] at ht
    cases ht
    exact Mapper.registerOrder_other hr hne

theorem Imported.not_refused {m : Mapper} {db : Db} (h : Imported m db row) :
    ¬ Refused m db row := by
  obtain ⟨hdb,t,hm⟩ := h
  rintro (hrefused | ⟨e,he⟩)
  · simp [importRefused,hdb] at hrefused
  · rw [hm] at he
    cases he

theorem Imported.conflictWith {m : Mapper} {db : Db} (h : Imported m db row) :
    Runtime.conflictWith db row = none := by
  have hsame : row = { row with commandState := row.commandState } := rfl
  simp [Runtime.conflictWith,h.1,Runtime.identityConflict]

/-- A candidate that is there already is left as it is. -/
theorem Imported.importInto (h : Imported p.1 p.2 row) : importInto p row = p := by
  obtain ⟨hdb,t,hm⟩ := h
  have hsame : imported p.2 row = p.2 := by simp [imported,hdb]
  simp only [BigQmt.importInto,hm,hsame]

theorem importInto_self (hcheck : Runtime.conflictWith p.2 row = none)
    (hrow : ¬ Refused p.1 p.2 row) :
    Imported (BigQmt.importInto p row).1 (BigQmt.importInto p row).2 row := by
  refine ⟨imported_self hcheck,?_⟩
  unfold BigQmt.importInto
  cases hr : p.1.registerOrder row.key.clientOrderId row.symbol row.quantity with
  | error e => exact absurd (.inr ⟨e,hr⟩) hrow
  | ok r => exact ⟨r.1,Mapper.registerOrder_again hr⟩

theorem Importable.step (h : Importable account p (row :: rows)) (hrow : ¬ Refused p.1 p.2 row) :
    Importable account (BigQmt.importInto p row) rows := by
  refine ⟨(importInto_account p row).trans h.own,fun r hr => h.candidates r (by simp [hr]),?_,
    fun a ha b hb => h.apart a (by simp [ha]) b (by simp [hb])⟩
  intro r hr
  obtain rfl | hapart := h.apart row (by simp) r (by simp [hr])
  · exact (importInto_self (h.checked row (by simp)) hrow).conflictWith
  · have hcheck := h.checked r (by simp [hr])
    exact (imported_apart hapart hcheck).conflictWith.trans hcheck

/-- An import takes no part in whether a later one is refused, and where. -/
theorem Importable.answers (h : Importable account p (row :: rows)) (hrow : ¬ Refused p.1 p.2 row)
    (hother : other ∈ rows) :
    BigQmt.importRefused (BigQmt.importInto p row).2 other = BigQmt.importRefused p.2 other ∧
      ((∃ e,(BigQmt.importInto p row).1.registerOrder other.key.clientOrderId other.symbol
          other.quantity = .error e) ↔
        ∃ e,p.1.registerOrder other.key.clientOrderId other.symbol other.quantity = .error e) := by
  obtain rfl | hapart := h.apart row (by simp) other (by simp [hother])
  · have hdone := (importInto_self (h.checked row (by simp)) hrow).not_refused
    unfold Refused at hdone hrow
    rw [not_or,Bool.not_eq_true] at hdone hrow
    exact ⟨hdone.1.trans hrow.1.symm,iff_of_false hdone.2 hrow.2⟩
  · have hfacts : SameFacts p.2 (BigQmt.importInto p row).2 other :=
      imported_apart hapart (h.checked other (by simp [hother]))
    have htoken := (h.candidates other (by simp [hother])).token
    have horder := importInto_order h.own (h.candidates row (by simp)) hapart.token.symm
    rw [← h.own] at htoken
    refine ⟨hfacts.importRefused,?_,?_⟩
    · rintro ⟨e,he⟩
      rw [← importInto_account p row] at htoken
      exact ⟨e,Mapper.registerOrder_error (importInto_account p row).symm htoken horder.symm he⟩
    · rintro ⟨e,he⟩
      exact ⟨e,Mapper.registerOrder_error (importInto_account p row) htoken horder he⟩

theorem Importable.refused_iff (h : Importable account p (row :: rows))
    (hrow : ¬ Refused p.1 p.2 row) (hother : other ∈ rows) :
    Refused (BigQmt.importInto p row).1 (BigQmt.importInto p row).2 other ↔
      Refused p.1 p.2 other := by
  obtain ⟨hdb,hm⟩ := h.answers hrow hother
  unfold Refused
  rw [hdb,hm]

/-- What is imported stays so. -/
theorem Imported.kept (h : Imported p.1 p.2 other) (hown : p.1.accountFingerprint = account)
    (hc : Candidate account other) (hrow : Candidate account row)
    (hapart : row = other ∨ Apart row other) :
    Imported (BigQmt.importInto p row).1 (BigQmt.importInto p row).2 other := by
  obtain rfl | hapart := hapart
  · rw [h.importInto]
    exact h
  · obtain ⟨hdb,t,hm⟩ := h
    have htoken := hc.token
    rw [← hown] at htoken
    have hfacts : SameFacts p.2 (BigQmt.importInto p row).2 other :=
      imported_apart hapart (Imported.conflictWith ⟨hdb,t,hm⟩)
    exact ⟨hfacts.identity.trans hdb,t,Mapper.registerOrder_kept (importInto_account p row) htoken
      (importInto_order hown hrow hapart.token.symm) hm⟩

theorem Imported.foldl (h : Imported p.1 p.2 other) (hc : Candidate account other)
    (hready : Importable account p rows) (hapart : ∀ r ∈ rows,r = other ∨ Apart r other)
    (hnone : ∀ r ∈ rows,¬ Refused p.1 p.2 r) :
    Imported (rows.foldl BigQmt.importInto p).1 (rows.foldl BigQmt.importInto p).2 other := by
  induction rows generalizing p with
  | nil => exact h
  | cons row rows ih =>
    have hrow := hnone row (by simp)
    refine ih ?_ (hready.step hrow) (fun r hr => hapart r (by simp [hr])) fun r hr => ?_
    · exact h.kept hready.own hc (hready.candidates row (by simp)) (hapart row (by simp))
    · exact fun hr' => hnone r (by simp [hr]) ((hready.refused_iff hrow hr).mp hr')

/-- What the import of the first candidates leaves for the others. -/
theorem Importable.foldl {before rest : List DurableIdentity}
    (hready : Importable account p (before ++ rest)) (hnone : ∀ r ∈ before,¬ Refused p.1 p.2 r) :
    Importable account (before.foldl BigQmt.importInto p) rest ∧
      (∀ r ∈ before,Imported (before.foldl BigQmt.importInto p).1
        (before.foldl BigQmt.importInto p).2 r) ∧
      ∀ r ∈ rest,
        BigQmt.importRefused (before.foldl BigQmt.importInto p).2 r = BigQmt.importRefused p.2 r ∧
          ((∃ e,(before.foldl BigQmt.importInto p).1.registerOrder r.key.clientOrderId r.symbol
              r.quantity = .error e) ↔
            ∃ e,p.1.registerOrder r.key.clientOrderId r.symbol r.quantity = .error e) := by
  induction before generalizing p with
  | nil => exact ⟨hready,by simp,fun _ _ => ⟨rfl,Iff.rfl⟩⟩
  | cons row before ih =>
    have hrow := hnone row (by simp)
    have hnext := hready.step hrow
    have hnone' : ∀ r ∈ before,
        ¬ Refused (BigQmt.importInto p row).1 (BigQmt.importInto p row).2 r := by
      intro r hr h
      exact hnone r (by simp [hr]) ((hready.refused_iff hrow (by simp [hr])).mp h)
    obtain ⟨hrest,hdone,hanswers⟩ := ih hnext hnone'
    refine ⟨hrest,fun r hr => ?_,fun r hr => ?_⟩
    · obtain rfl | hr := List.mem_cons.mp hr
      · have hfirst : Importable account (BigQmt.importInto p r) before :=
          ⟨hnext.own,fun a ha => hnext.candidates a (by simp [ha]),
            fun a ha => hnext.checked a (by simp [ha]),
            fun a ha b hb => hnext.apart a (by simp [ha]) b (by simp [hb])⟩
        have hself := importInto_self (hready.checked r (by simp)) hrow
        have hapart : ∀ a ∈ before,a = r ∨ Apart a r :=
          fun a ha => hready.apart a (by simp [ha]) r (by simp)
        exact hself.foldl (hready.candidates r (by simp)) hfirst hapart hnone'
      · exact hdone r hr
    · have hlater : r ∈ before ++ rest := by simp [hr]
      obtain ⟨hdb,hm⟩ := hready.answers hrow hlater
      exact ⟨(hanswers r hr).1.trans hdb,(hanswers r hr).2.trans hm⟩

end importInto

namespace Runtime

section importCandidate

variable {now : Nat} {s : RuntimeState} {w : World} {account : String} {row : DurableIdentity}
  {rows : List DurableIdentity}

theorem durable_call {α : Type} {t : Guard → Txn α} {r : Except PyError α} {db : Db}
    (h : (t s.guard).run { now := now } w.db = (r,db)) :
    (alone now).call (durable t) s w = ((r,s),{ w with db := db }) := by
  refine (Policy.call_bind_ok _ (Policy.call_self _)).trans ?_
  rw [Policy.call_call]
  simp only [alone,exec,h]

/-- The transaction of an import, while the lease is held. -/
theorem register_run {g : Guard} {db : Db} {allow : Bool} {r : Except PyError Bool} {db' : Db}
    (hguard : g.check now db = .ok ())
    (h : (match registerQmtDurableSubmitInTx row allow db with
      | .ok (b,db') => (.ok b,db')
      | .error e => (.error e,db)) = (r,db')) :
    (Txn.registerDurableSubmit g row allow).run { now := now } db = (r,db') := by
  have hwrite : guardWrite g now db = .ok ((),db) := guardWrite_eq_ok.mpr ⟨hguard,rfl⟩
  have hbody : (Txn.registerDurableSubmit g row allow).body now db =
      registerQmtDurableSubmitInTx row allow db := tx_bind hwrite
  unfold Txn.run
  simp only [hbody]
  cases hr : registerQmtDurableSubmitInTx row allow db with
  | error e =>
    rw [hr] at h
    exact h
  | ok r =>
    rw [hr] at h
    exact h

theorem registerOrder_call (now : Nat) (s : RuntimeState) (w : World) (row : DurableIdentity) :
    (alone now).call
    (registerOrder row.key.clientOrderId row.symbol row.quantity) s w =
      ((match s.mapper.registerOrder row.key.clientOrderId row.symbol row.quantity with
        | .ok (token,m) => (.ok token,{ s with mapper := m })
        | .error e => (.error e,s)),w) := by
  refine (Policy.call_bind_ok _ (Policy.call_self _)).trans ?_
  have hregister : (alone now).call (Proc.ofExcept
      (s.mapper.registerOrder row.key.clientOrderId row.symbol row.quantity) :
        Runtime (String × Mapper)) s w =
      ((s.mapper.registerOrder row.key.clientOrderId row.symbol row.quantity,s),w) :=
    Policy.call_ofExcept _ _
  cases hr : s.mapper.registerOrder row.key.clientOrderId row.symbol row.quantity with
  | error e =>
    rw [hr] at hregister
    exact Policy.call_bind_error _ hregister
  | ok r =>
    rw [hr] at hregister
    exact (Policy.call_bind_ok _ hregister).trans rfl

/-- The part of an import that follows the look at the intents. -/
theorem importCandidate_call : (alone now).call (importCandidate row) s w =
    (alone now).call (do
      let _ ← durable (fun g => .registerDurableSubmit g row (w.db.intent? row.key).isSome)
      let _ ← registerOrder row.key.clientOrderId row.symbol row.quantity) s w := by
  have hexisting : (alone now).call (select (fun db => db.intent? row.key)) s w =
      ((.ok (w.db.intent? row.key),s),w) := rfl
  exact Policy.call_bind_ok _ hexisting

theorem importCandidate_refused (hguard : s.guard.check now w.db = .ok ())
    (hc : Candidate account row) (hcheck : conflictWith w.db row = none)
    (hrow : importRefused w.db row = true) :
    ∃ e,(alone now).call (importCandidate row) s w = ((.error e,s),w) := by
  have hregister := register_eq hc hcheck
  rw [if_pos hrow] at hregister
  obtain ⟨e,he⟩ := hregister
  have hrun : (Txn.registerDurableSubmit s.guard row (w.db.intent? row.key).isSome).run
      { now := now } w.db = (.error e,w.db) := register_run hguard (by rw [he])
  refine ⟨e,?_⟩
  rw [importCandidate_call]
  exact Policy.call_bind_error _ (durable_call hrun)

theorem importCandidate_imported (hguard : s.guard.check now w.db = .ok ())
    (hc : Candidate account row) (hcheck : conflictWith w.db row = none)
    (hrow : importRefused w.db row = false) : (alone now).call (importCandidate row) s w =
      ((match s.mapper.registerOrder row.key.clientOrderId row.symbol row.quantity with
        | .ok (_,m) => (.ok (),{ s with mapper := m })
        | .error e => (.error e,s)),{ w with db := imported w.db row }) := by
  have hregister := register_eq hc hcheck
  rw [if_neg (by simp [hrow])] at hregister
  obtain ⟨b,hb⟩ := hregister
  have hrun : (Txn.registerDurableSubmit s.guard row (w.db.intent? row.key).isSome).run
      { now := now } w.db = (.ok b,imported w.db row) := register_run hguard (by rw [hb])
  rw [importCandidate_call,Policy.call_bind_ok _ (durable_call hrun)]
  have horder := registerOrder_call now s { w with db := imported w.db row } row
  cases hr : s.mapper.registerOrder row.key.clientOrderId row.symbol row.quantity with
  | error e =>
    rw [hr] at horder
    exact Policy.call_bind_error _ horder
  | ok r =>
    rw [hr] at horder
    exact (Policy.call_bind_ok _ horder).trans rfl

/-- The second pass goes on behind candidates that it does not refuse. -/
theorem importAll_call {before rest : List DurableIdentity}
    (hguard : s.guard.check now w.db = .ok ())
    (hready : Importable account (s.mapper,w.db) (before ++ rest))
    (hnone : ∀ r ∈ before,¬ Refused s.mapper w.db r) :
    (alone now).call (each importCandidate (before ++ rest)) s w =
      (alone now).call (each importCandidate rest)
        { s with mapper := (before.foldl importInto (s.mapper,w.db)).1 }
        { w with db := (before.foldl importInto (s.mapper,w.db)).2 } := by
  induction before generalizing s w with
  | nil => rfl
  | cons row before ih =>
    have hrow := hnone row (by simp)
    have hready' := hready.step hrow
    have himported : importRefused w.db row = false := by
      by_contra h
      rw [Bool.not_eq_false] at h
      exact hrow (.inl h)
    have hcall := importCandidate_imported hguard (hready.candidates row (by simp))
      (hready.checked row (by simp)) himported
    have hcall' : (alone now).call (importCandidate row) s w =
        ((.ok (),{ s with mapper := (importInto (s.mapper,w.db) row).1 }),
          { w with db := (importInto (s.mapper,w.db) row).2 }) := by
      rw [hcall]
      unfold importInto
      cases hr : s.mapper.registerOrder row.key.clientOrderId row.symbol row.quantity with
      | error e => exact absurd (.inr ⟨e,hr⟩) hrow
      | ok r => rfl
    refine (Policy.call_bind_ok _ hcall').trans ?_
    refine ih (s := { s with mapper := (importInto (s.mapper,w.db) row).1 })
      (w := { w with db := (importInto (s.mapper,w.db) row).2 }) ?_ hready' ?_
    · exact (Guard.check_congr imported_leader).trans hguard
    · intro r hr
      exact fun h => hnone r (by simp [hr]) ((hready.refused_iff hrow (by simp [hr])).mp h)

end importCandidate

end Runtime

/-- The import ends where it began exactly when it finds every candidate imported. -/
theorem foldl_eq_iff {account : String} {p : Mapper × Db} {before rest : List DurableIdentity}
    (hready : Importable account p (before ++ rest)) (hnone : ∀ r ∈ before,¬ Refused p.1 p.2 r) :
    before.foldl importInto p = p ↔ ∀ r ∈ before,Imported p.1 p.2 r := by
  obtain ⟨-,hdone,-⟩ := hready.foldl hnone
  constructor
  · intro h
    rw [h] at hdone
    exact hdone
  · intro h
    exact Folds.idle fun r hr => (h r hr).importInto

section AllOrNothing

variable {now : Nat} {s : RuntimeState} {w : World} {rows : List DurableIdentity}

theorem Runtime.checkAll_ok {db : Db} :
    Runtime.checkAll db rows = .ok () ↔ ∀ r ∈ rows,Runtime.conflictWith db r = none := by
  induction rows with
  | nil => simp [checkAll]
  | cons row rows ih =>
    unfold checkAll
    cases hconflict : conflictWith db row with
    | some e => simp [hconflict]
    | none => simp [hconflict,ih]

/-- What the first pass has made sure of for the second. -/
theorem Runtime.firstPass_ok {spool : Spool} {db : Db}
    (hown : s.mapper.accountFingerprint = s.account) (h : firstPass s spool db = .ok rows) :
    Importable s.account (s.mapper,db) rows ∧
      (∀ row,EligibleFrame s.instance_ spool row → row ∈ rows) ∧
      ∀ db',(∀ r ∈ rows,conflictWith db' r = none) → firstPass s spool db' = .ok rows := by
  unfold firstPass at h ⊢
  cases hprocessed : gather s.instance_ spool .processed .processed (spool.names .processed)
      ⟨.fresh s.account,[]⟩ with
  | error e => simp [hprocessed] at h
  | ok c =>
    cases hunknown : gather s.instance_ spool .unknown .unknown (spool.names .unknown) c with
    | error e => simp [hprocessed,hunknown] at h
    | ok c' =>
      simp only [hprocessed,hunknown] at h ⊢
      have hfresh : Coherent s.account ⟨.fresh s.account,[]⟩ :=
        ⟨rfl,by simp,by simp,by simp⟩
      obtain ⟨hc,-,hfirst⟩ := gather_ok hprocessed hfresh
      obtain ⟨hc',hkept,hsecond⟩ := gather_ok hunknown hc
      cases hall : checkAll db c'.rows with
      | error e => simp [hall,Except.map] at h
      | ok u =>
        have hrows : c'.rows = rows := by simpa [hall,Except.map] using h
        subst hrows
        refine ⟨⟨hown,hc'.candidates,checkAll_ok.mp hall,hc'.apart⟩,?_,?_⟩
        · rintro row ⟨state,dir,name,raw,hdir,hname,hraw,hrow⟩
          simp only [List.mem_cons,List.not_mem_nil,or_false,Prod.mk.injEq] at hdir
          obtain ⟨rfl,rfl⟩ | ⟨rfl,rfl⟩ := hdir
          · exact hkept row (hfirst name raw row hname hraw hrow)
          · exact hsecond name raw row hname hraw hrow
        · intro db' h
          rw [checkAll_ok.mpr h]
          rfl

/-- A second pass that refuses no candidate. -/
theorem refreshIdentities_imports (hown : s.mapper.accountFingerprint = s.account)
    (hrows : Runtime.firstPass s w.spool w.db = .ok rows) (hguard : s.guard.check now w.db = .ok ())
    (hnone : ∀ r ∈ rows,¬ Refused s.mapper w.db r) :
    (alone now).call Runtime.refreshIdentities s w =
      ((.ok (),{ s with mapper := (rows.foldl importInto (s.mapper,w.db)).1 }),
        { w with db := (rows.foldl importInto (s.mapper,w.db)).2 }) := by
  obtain ⟨hready,-⟩ := Runtime.firstPass_ok hown hrows
  rw [Runtime.refreshIdentities_call,hrows]
  rw [← List.append_nil rows] at hready
  have hall := Runtime.importAll_call hguard hready hnone
  rw [List.append_nil] at hall
  exact hall

theorem importInto_foldl_leader (rows : List DurableIdentity) (p : Mapper × Db) :
    (rows.foldl importInto p).2.omsLeader = p.2.omsLeader := by
  induction rows generalizing p with
  | nil => rfl
  | cons row rows ih => exact (ih _).trans imported_leader

theorem importInto_foldl_account (p : Mapper × Db) :
    (rows.foldl importInto p).1.accountFingerprint = p.1.accountFingerprint := by
  induction rows generalizing p with
  | nil => rfl
  | cons row rows ih => exact (ih _).trans (importInto_account p row)

theorem allOrNothing_of_imported (hown : s.mapper.accountFingerprint = s.account)
    (hrows : Runtime.firstPass s w.spool w.db = .ok rows) (hguard : s.guard.check now w.db = .ok ())
    (hnone : ∀ r ∈ rows,¬ Refused s.mapper w.db r) : AllOrNothing now s w := by
  obtain ⟨hready,heligible,hagain⟩ := Runtime.firstPass_ok hown hrows
  have hready' : Importable s.account (s.mapper,w.db) (rows ++ []) := by
    rw [List.append_nil]
    exact hready
  obtain ⟨-,hdone,-⟩ := hready'.foldl hnone
  unfold AllOrNothing
  rw [refreshIdentities_imports hown hrows hguard hnone]
  constructor
  · intro row hrow
    exact List.mem_of_find?_eq_some (hdone row (heligible row hrow)).1
  · have hrows' := hagain _ fun r hr => (hdone r hr).conflictWith
    have hguard' := (Guard.check_congr (importInto_foldl_leader rows (s.mapper,w.db))).trans hguard
    have hsecond := refreshIdentities_imports
      (s := { s with mapper := (rows.foldl importInto (s.mapper,w.db)).1 })
      (w := { w with db := (rows.foldl importInto (s.mapper,w.db)).2 })
      ((importInto_foldl_account _).trans hown) hrows' hguard'
      fun r hr => (hdone r hr).not_refused
    have hidle : rows.foldl importInto (rows.foldl importInto (s.mapper,w.db)) =
        rows.foldl importInto (s.mapper,w.db) := Folds.idle fun r hr => (hdone r hr).importInto
    rw [Prod.eta,hidle] at hsecond
    exact hsecond

/-- A second pass that stops at a candidate. -/
theorem allOrNothing_iff_of_refused {before after : List DurableIdentity} {row : DurableIdentity}
    (hown : s.mapper.accountFingerprint = s.account)
    (hrows : Runtime.firstPass s w.spool w.db = .ok (before ++ row :: after))
    (hguard : s.guard.check now w.db = .ok ()) (hrow : Refused s.mapper w.db row)
    (hnone : ∀ r ∈ before,¬ Refused s.mapper w.db r) :
    AllOrNothing now s w ↔ (∀ r ∈ before,Imported s.mapper w.db r) ∧
      (importRefused w.db row = true ∨ matchingIdentity row w.db = some row) := by
  obtain ⟨hready,-⟩ := Runtime.firstPass_ok hown hrows
  obtain ⟨hrest,-,hanswers⟩ := hready.foldl hnone
  obtain ⟨hdb,hm⟩ := hanswers row (by simp)
  have hc := hrest.candidates row (by simp)
  have hcheck := hrest.checked row (by simp)
  have hguard' := (Guard.check_congr (importInto_foldl_leader before (s.mapper,w.db))).trans hguard
  have hstill := foldl_eq_iff hready hnone
  have hgrows := (Folds.still importInto_grows (s.mapper,w.db) before).1
  unfold AllOrNothing
  rw [Runtime.refreshIdentities_call,hrows]
  dsimp only
  rw [Runtime.importAll_call hguard hready hnone]
  generalize before.foldl importInto (s.mapper,w.db) = p at *
  cases himport : importRefused w.db row with
  | true =>
    obtain ⟨e,he⟩ := Runtime.importCandidate_refused (s := { s with mapper := p.1 })
      (w := { w with db := p.2 }) hguard' hc hcheck (hdb.trans himport)
    have hstop : (alone now).call (each Runtime.importCandidate (row :: after))
        { s with mapper := p.1 } { w with db := p.2 } =
          ((.error e,{ s with mapper := p.1 }),{ w with db := p.2 }) := Policy.call_bind_error _ he
    rw [hstop,← hstill]
    simp [Prod.ext_iff]
  | false =>
    have hregister := hrow.resolve_left (by simp [himport])
    obtain ⟨e,he⟩ := hm.mpr hregister
    have hcall := Runtime.importCandidate_imported (s := { s with mapper := p.1 })
      (w := { w with db := p.2 }) hguard' hc hcheck (hdb.trans himport)
    simp only [he] at hcall
    have hstop : (alone now).call (each Runtime.importCandidate (row :: after))
        { s with mapper := p.1 } { w with db := p.2 } =
          ((.error e,{ s with mapper := p.1 }),{ w with db := imported p.2 row }) :=
      Policy.call_bind_error _ hcall
    rw [hstop]
    dsimp only
    constructor
    · rintro ⟨hmapper,htables⟩
      have hsame : imported p.2 row = p.2 := by
        obtain h | h := imported_grows p.2 row
        · exact h
        · rw [htables] at h
          simp only [importSize,hmapper] at hgrows
          omega
      rw [hsame] at htables
      refine ⟨hstill.mp (Prod.ext hmapper htables),.inr ?_⟩
      rw [← htables,← hsame]
      exact imported_self hcheck
    · rintro ⟨hbefore,h | hstored⟩
      · cases h
      · rw [hstill.mpr hbefore]
        exact ⟨rfl,by simp [imported,hstored]⟩

/-- Without the lease nothing is imported. -/
theorem allOrNothing_of_fenced {e : PyError} (hown : s.mapper.accountFingerprint = s.account)
    (hrows : Runtime.firstPass s w.spool w.db = .ok rows)
    (hguard : s.guard.check now w.db = .error e) : AllOrNothing now s w := by
  have hcall := Runtime.refreshIdentities_call now (s := s) (w := w)
  rw [hrows] at hcall
  unfold AllOrNothing
  cases rows with
  | nil =>
    obtain ⟨-,heligible,-⟩ := Runtime.firstPass_ok hown hrows
    have hdone : (alone now).call Runtime.refreshIdentities s w = ((.ok (),s),w) := hcall
    rw [hdone]
    exact ⟨fun row hrow => absurd (heligible row hrow) (by simp),hdone⟩
  | cons row rows =>
    have hwrite : guardWrite s.guard now w.db = .error e := by
      simp [guardWrite,hguard,Except.map]
    have hrun : (Txn.registerDurableSubmit s.guard row (w.db.intent? row.key).isSome).run
        { now := now } w.db = (.error e,w.db) := by
      simp [Txn.run,Txn.body,guarded,bind,hwrite]
    have hfirst : (alone now).call (Runtime.importCandidate row) s w = ((.error e,s),w) := by
      rw [Runtime.importCandidate_call]
      exact Policy.call_bind_error _ (Runtime.durable_call hrun)
    have hstop : (alone now).call (each Runtime.importCandidate (row :: rows)) s w =
        ((.error e,s),w) := Policy.call_bind_error _ hfirst
    rw [hcall]
    dsimp only
    rw [hstop]
    exact ⟨rfl,rfl⟩

/-- The first candidate that is refused. -/
theorem first_refused {m : Mapper} {db : Db} (h : ∃ r ∈ rows,Refused m db r) :
    ∃ before row after,rows = before ++ row :: after ∧ Refused m db row ∧
      ∀ r ∈ before,¬ Refused m db r := by
  classical
  obtain ⟨r,hr,hrefused⟩ := h
  cases hfound : rows.find? (fun r => decide (Refused m db r)) with
  | none =>
    have hnone := List.find?_eq_none.mp hfound r hr
    simp [hrefused] at hnone
  | some row =>
    obtain ⟨hrow,before,after,heq,hnone⟩ := List.find?_eq_some_iff_append.mp hfound
    exact ⟨before,row,after,heq,by simpa using hrow,fun r hr => by simpa using hnone r hr⟩

end AllOrNothing

/-- A submit command of the sample session. -/
def durableSubmit (clientOrderId : String) (createdMs : Int) : QmtCommand where
  commandId := "submit-" ++ clientOrderId
  createdMs := createdMs
  expiresMs := createdMs + 60000
  accountFingerprint := sampleInstance.accountFingerprint
  commandType := .submitLimit
  clientOrderId := some clientOrderId
  brokerToken := some (tokenText sampleInstance.accountFingerprint clientOrderId)
  payload := Runtime.submitPayload sampleInstance.sessionId sampleIntent

/-- Its file, behind the Bridge. -/
def processedFile (command : QmtCommand) : SpoolFile :=
  ⟨.processed,command.commandId,command.frame⟩

/-- The Host has just started, and finds the commands processed. -/
def startedOver (commands : List QmtCommand) : Option (RuntimeState × World) :=
  match (alone 70000000).call (Runtime.construct sampleInstance) () World.initial with
  | ((.ok s,_),w) => some (s,{ w with spool := commands.map processedFile })
  | ((.error _,_),_) => none

/-- How many identities there are around a refresh that raises. -/
def refreshSizes (now : Nat) (p : RuntimeState × World) : Nat × Nat :=
  match (alone now).call Runtime.refreshIdentities p.1 p.2 with
  | ((.error _,_),w) => (p.2.db.durableIdentities.length,w.db.durableIdentities.length)
  | ((.ok _,_),_) => (0,0)

end BigQmt
