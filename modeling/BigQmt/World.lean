import BigQmt.Rules
import BigQmt.Spool
import BigQmt.Txn
set_option autoImplicit false

/-!
The shared world of the processes and the effects they ask it for: the
database, the command directories, the execution driver and the broker API.
-/

namespace BigQmt

open Resumption Transact

structure BrokerOrderObservation where
  brokerOrderId : String
  status : OrderStatus
  filledQuantity : Int
  deriving DecidableEq, Repr

inductive DriverCallKind where
  | submitLimitOrder | cancelOrder
  deriving DecidableEq, Repr

/-- A call of the execution driver; `reserved` is the flag of the committed row
at the instant of the call. -/
structure DriverCall where
  kind : DriverCallKind
  key : OrderKey
  reserved : Bool
  deriving DecidableEq, Repr

inductive BrokerApi where
  | passorder (opType : Nat) (symbol : String) (price : Json) (quantity : Int) (token : String)
  | cancel (brokerOrderId : String)
  deriving DecidableEq

/-- A mutating broker call: its arguments, the command it is made for, and what
the Bridge compared that command with. -/
structure BrokerCall where
  api : BrokerApi
  commandId : String
  expiresMs : Int
  accountFingerprint : String
  expectedSession : Option Json
  bridgeFingerprint : String
  bridgeSession : String
  checkedMs : Int
  deriving DecidableEq

/-- A rename into the inbox: the clock reading of `publish`, and the dispatch row
and the copies of the command at the instant of the rename. -/
structure Publication where
  commandId : String
  raw : Raw
  expiresMs : Int
  nowMs : Int
  row : Option Dispatch
  copies : List SpoolDir
  deriving DecidableEq

/-- A row of `get_trade_detail_data(..., "order")`. -/
structure TradeRow where
  orderSysId : Option String
  remark : Option String
  deriving DecidableEq, Repr

structure World where
  db : Db
  spool : Spool
  driverCalls : List DriverCall
  brokerCalls : List BrokerCall
  publications : List Publication

/-- What the environment decides at one effect. -/
structure Choice where
  now : Nat := 0
  uuid : String := ""
  fault : Option PyError := none
  flag : Bool := true
  observation : Option BrokerOrderObservation := none
  rows : Option (List TradeRow) := none

inductive Eff : Type → Type 1
  | txn {α : Type} (t : Txn α) : Eff (Except PyError α)
  | select {α : Type} (q : Db → Except PyError α) : Eff (Except PyError α)
  | clock : Eff Nat
  | monotonic : Eff Nat
  | uuid4 : Eff String
  | submitLimitOrder (intent : OrderIntent) : Eff (Except PyError Unit)
  | cancelOrder (k : OrderKey) : Eff (Except PyError Unit)
  | queryByClientOrderId (k : OrderKey) : Eff (Except PyError (Option BrokerOrderObservation))
  | isFile (dir : SpoolDir) (name : String) : Eff Bool
  | readFile (dir : SpoolDir) (name : String) : Eff (Except PyError Raw)
  | listDir (dir : SpoolDir) : Eff (Except PyError (List String))
  | writeTemp (raw : Raw) : Eff (Except PyError Unit)
  | renameTemp (commandId : String) (raw : Raw) (expiresMs nowMs : Int) : Eff (Except PyError Unit)
  | move (source target : SpoolDir) (name : String) : Eff (Except PyError Unit)
  | broker (call : BrokerCall) : Eff (Except PyError Bool)
  | canCancelOrder (brokerOrderId : String) : Eff (Except PyError Bool)
  | tradeDetail : Eff (Except PyError (Option (List TradeRow)))
  | commandResult (commandId resultStatus : String) (liveSideEffect : Bool) :
      Eff (Except PyError Unit)
  | readSnapshot : Eff (Except PyError Unit)

/-- The answer of an effect that the environment may make raise. -/
def answer {α : Type} (c : Choice) (a : α) : Except PyError α :=
  match c.fault with
  | none => .ok a
  | some e => .error e

def Txn.run {α : Type} (t : Txn α) (c : Choice) (db : Db) : Except PyError α × Db :=
  match c.fault with
  | some _ => (.error (.operationalError "database is locked"),db)
  | none =>
    match t.body c.now db with
    | .ok (a,db') => (.ok a,db')
    | .error e => (.error e,db)

/-- The column that reserves a call of this kind. -/
def DriverCallKind.started : DriverCallKind → BrokerOrder → Bool
  | .submitLimitOrder => BrokerOrder.submitCallStarted
  | .cancelOrder => BrokerOrder.cancelCallStarted

def World.reserved (w : World) (kind : DriverCallKind) (k : OrderKey) : Bool :=
  (w.db.order? k).any kind.started

def World.callDriver (w : World) (kind : DriverCallKind) (k : OrderKey) : World :=
  { w with driverCalls := w.driverCalls ++ [⟨kind,k,w.reserved kind k⟩] }

def World.rename (w : World) (commandId : String) (raw : Raw) (expiresMs nowMs : Int) : World :=
  { w with
    spool := w.spool.put .inbox commandId raw
    publications := w.publications ++
      [⟨commandId,raw,expiresMs,nowMs,w.db.dispatch? commandId,w.spool.copies commandId⟩] }

def exec : {β : Type} → Eff β → Choice → World → β × World
  | _,.txn t,c,w => ((t.run c w.db).1,{ w with db := (t.run c w.db).2 })
  | _,.select q,_,w => (q w.db,w)
  | _,.clock,c,w => (c.now,w)
  | _,.monotonic,c,w => (c.now,w)
  | _,.uuid4,c,w => (c.uuid,w)
  | _,.submitLimitOrder intent,c,w => (answer c (),w.callDriver .submitLimitOrder intent.key)
  | _,.cancelOrder k,c,w => (answer c (),w.callDriver .cancelOrder k)
  | _,.queryByClientOrderId _,c,w => (answer c c.observation,w)
  | _,.isFile dir name,_,w => (w.spool.has dir name,w)
  | _,.readFile dir name,c,w =>
      match w.spool.lookup dir name with
      | none => (.error (.osError "no such file"),w)
      | some raw => (answer c raw,w)
  | _,.listDir dir,c,w => (answer c (w.spool.names dir),w)
  | _,.writeTemp _,c,w => (answer c (),w)
  | _,.renameTemp commandId raw expiresMs nowMs,c,w =>
      match c.fault with
      | some e => (.error e,w)
      | none => (.ok (),w.rename commandId raw expiresMs nowMs)
  | _,.move source target name,c,w =>
      match c.fault,w.spool.move source target name with
      | some e,_ => (.error e,w)
      | none,none => (.error (.osError "no such file"),w)
      | none,some spool => (.ok (),{ w with spool := spool })
  | _,.broker call,c,w => (answer c c.flag,{ w with brokerCalls := w.brokerCalls ++ [call] })
  | _,.canCancelOrder _,c,w => (answer c c.flag,w)
  | _,.tradeDetail,c,w => (answer c c.rows,w)
  | _,.commandResult _ _ _,c,w => (answer c (),w)
  | _,.readSnapshot,c,w => (answer c (),w)

def World.initial : World := ⟨Db.empty,[],[],[],[]⟩

theorem Txn.run_cases {α : Type} (t : Txn α) (c : Choice) (db : Db) :
    (∃ e, t.run c db = (.error e,db)) ∨
      (∃ a db', t.body c.now db = .ok (a,db') ∧ t.run c db = (.ok a,db')) := by
  unfold Txn.run
  cases hf : c.fault with
  | some e => exact .inl ⟨_,rfl⟩
  | none =>
    cases hb : t.body c.now db with
    | error e => exact .inl ⟨e,rfl⟩
    | ok r => exact .inr ⟨r.1,r.2,rfl,rfl⟩

/-- What a transaction does to the orders, with what is known where it commits. -/
theorem Txn.run_evolves_of {α : Type} (t : Txn α) (c : Choice) (db : Db)
    {P : BrokerOrder → TransitionRequest → Prop}
    (hP : c.fault = none → (∃ r, t.body c.now db = .ok r) →
      ∀ row req, t.requests db row req → P row req) : Evolves P db (t.run c db).2 := by
  unfold Txn.run
  cases hf : c.fault with
  | some e => exact .refl
  | none =>
    cases hb : t.body c.now db with
    | error e => exact .refl
    | ok r => exact (Txn.evolves hb).mono (hP hf ⟨r,hb⟩)

theorem Txn.run_evolves {α : Type} (t : Txn α) (c : Choice) (db : Db) :
    Evolves (t.requests db) db (t.run c db).2 := t.run_evolves_of c db fun _ _ _ _ h => h

end BigQmt
