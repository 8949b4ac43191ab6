import BigQmt.Resync
set_option autoImplicit false

/-!
`qmt/read_model.py`: the broker view of the Host, and when a healthy view shows
clean data.
-/

namespace BigQmt

/-- `QmtSnapshotView`. -/
structure SnapshotView where
  accountFingerprint : String
  accountType : Option String
  sessionId : String
  sequence : Int
  timestampMs : Int
  account : List Fields
  positions : List Fields
  orders : List Fields
  deals : List Fields
  healthy : Bool
  deriving DecidableEq

/-- The broker facts of a view. -/
structure BrokerRows where
  account : List Fields
  positions : List Fields
  orders : List Fields
  deals : List Fields
  deriving DecidableEq

def SnapshotView.rows (v : SnapshotView) : BrokerRows := ⟨v.account,v.positions,v.orders,v.deals⟩

/-- `[dict(row) for row in payload[key]]`. -/
def Fields.rowsAt (payload : Fields) (key : String) : List Fields :=
  ((payload.listAt key).getD []).filterMap Json.dict

/-- `==` of two members, where `True` is 1. -/
def Json.same (a b : Json) : Bool :=
  a = b || (a.integral.isSome && a.integral = b.integral)

/-- `_from_snapshot`. -/
def SnapshotView.ofSnapshot (e : QmtEvent) (healthy : Bool) : SnapshotView where
  accountFingerprint := e.accountFingerprint
  accountType := e.accountType
  sessionId := e.sessionId
  sequence := e.sequence
  timestampMs := e.timestampMs
  account := e.payload.rowsAt "account"
  positions := e.payload.rowsAt "positions"
  orders := e.payload.rowsAt "orders"
  deals := e.payload.rowsAt "deals"
  healthy := healthy

/-- `_upsert_by_symbol`. -/
def upsertBySymbol (rows : List Fields) (payload : Fields) : List Fields :=
  match (payload.get "symbol").filter Json.truthy with
  | none => rows ++ [payload]
  | some symbol =>
    let held := fun row : Fields => (row.get "symbol").any (Json.same symbol)
    if rows.any held then rows.map (fun row => if held row then payload else row)
    else rows ++ [payload]

/-- `QmtReadModel`. -/
structure ReadModel where
  view : Option SnapshotView
  needsResync : Bool
  linkedAccounts : List Fields
  deriving DecidableEq

namespace ReadModel

def fresh : ReadModel := ⟨none,true,[]⟩

def healthy (m : ReadModel) : Bool := m.view.any SnapshotView.healthy && !m.needsResync

/-- `_replace` with the sequence and the time of the event. -/
def replace (m : ReadModel) (e : QmtEvent) (changes : SnapshotView → SnapshotView) : ReadModel :=
  { m with view := m.view.map (fun v => { changes v with
      sequence := e.sequence
      timestampMs := e.timestampMs
      healthy := !m.needsResync }) }

def apply (m : ReadModel) (result : IngressResult) : ReadModel :=
  let e := result.event
  let m := { m with needsResync := result.needsResync }
  match e.eventType with
  | .accountCapabilities =>
    { m with linkedAccounts := e.payload.rowsAt "accounts" }.replace e id
  | .snapshot => { m with view := some (.ofSnapshot e (!result.needsResync)) }
  | .account => m.replace e fun v => { v with account := [e.payload] }
  | .position => m.replace e fun v => { v with positions := upsertBySymbol v.positions e.payload }
  | .order => m.replace e fun v => { v with orders := v.orders ++ [e.payload] }
  | .deal => m.replace e fun v => { v with deals := v.deals ++ [e.payload] }
  | .commandResult | .bridgeReady | .bridgeError | .instrumentCapabilities
  | .instrumentTickCapabilities => m.replace e id

/-- The facts the model shows. -/
def rows (m : ReadModel) : Option BrokerRows := m.view.map SnapshotView.rows

end ReadModel

/-- What an event makes of the facts. -/
def BrokerRows.next (rows : BrokerRows) (e : QmtEvent) : BrokerRows :=
  match e.eventType with
  | .snapshot => (SnapshotView.ofSnapshot e true).rows
  | .account => { rows with account := [e.payload] }
  | .position => { rows with positions := upsertBySymbol rows.positions e.payload }
  | .order => { rows with orders := rows.orders ++ [e.payload] }
  | .deal => { rows with deals := rows.deals ++ [e.payload] }
  | _ => rows

namespace ReadModel

/-- An event other than a snapshot changes the facts of a view and makes none. -/
theorem apply_rows (m : ReadModel) {r : IngressResult} (h : r.event.eventType ≠ .snapshot) :
    (m.apply r).rows = m.rows.map (fun rows => rows.next r.event) := by
  unfold apply BrokerRows.next
  cases ht : r.event.eventType with
  | snapshot => exact absurd ht h
  | _ => cases hv : m.view <;> simp [ht,rows,replace,SnapshotView.rows,hv]

theorem apply_snapshot (m : ReadModel) {r : IngressResult} (h : r.event.eventType = .snapshot) :
    (m.apply r).rows = some (SnapshotView.ofSnapshot r.event true).rows := by
  simp [apply,h,rows,SnapshotView.rows,SnapshotView.ofSnapshot]

theorem apply_healthy (m : ReadModel) (r : IngressResult) :
    (m.apply r).healthy = ((m.apply r).view.isSome && !r.needsResync) := by
  unfold apply healthy
  cases h : r.event.eventType <;> cases m.view <;> simp [h,replace,SnapshotView.ofSnapshot]

end ReadModel
end BigQmt
