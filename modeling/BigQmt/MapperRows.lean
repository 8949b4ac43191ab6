import BigQmt.Mapper
import Mathlib.Logic.Relation
set_option autoImplicit false

/-!
The calls of the mapper of `qmt/guojin_evidence.py` as the rows they map, one after the
other.
-/

namespace BigQmt

open Keyed

namespace Mapper

/-- What is asked of the mapper. -/
inductive Call where
  | register (clientOrderId symbol : String) (quantity : Int)
  | callback (event : QmtEvent)
  | snapshot (event : QmtEvent)

/-- The evidence a call returns, and the mapper it leaves. -/
def call (m : Mapper) : Call → Except PyError (List BrokerEvidenceV1) × Mapper
  | .register clientOrderId symbol quantity =>
    match m.registerOrder clientOrderId symbol quantity with
    | .error e => (.error e,m)
    | .ok (_,m') => (.ok [],m')
  | .callback event => ((m.callback event).1.map Option.toList,(m.callback event).2)
  | .snapshot event => ((m.mapSnapshot event).1.map Prod.fst,(m.mapSnapshot event).2)

def run (m : Mapper) (calls : List Call) : Mapper := calls.foldl (fun m c => (m.call c).2) m

/-- One row; in a snapshot it may be no object. -/
def mapRow (m : Mapper) (src : RowSource) (payload : Option Fields) :
    Except PyError (Option BrokerEvidenceV1) × Mapper :=
  match payload with
  | none => (.ok none,m.reject src src.eventType "ROW_NOT_OBJECT")
  | some payload => m.mapPayload src payload

/-- A row that was mapped, and the mapper before it. -/
structure RowStep where
  before : Mapper
  src : RowSource
  payload : Option Fields

namespace RowStep

def result (s : RowStep) : Except PyError (Option BrokerEvidenceV1) :=
  (s.before.mapRow s.src s.payload).1

def after (s : RowStep) : Mapper := (s.before.mapRow s.src s.payload).2

end RowStep

/-- The rows of a list that are mapped: all of them, or those up to the one that raises. -/
def listSteps (m : Mapper) (event : QmtEvent) (eventType : EventType)
    (kind : BrokerEvidenceSourceKind) : Nat → List Json → List RowStep
  | _,[] => []
  | i,row :: rows =>
    let s : RowStep := ⟨m,⟨event,eventType,some i,kind⟩,row.dict⟩
    match s.result with
    | .error _ => [s]
    | .ok _ => s :: listSteps s.after event eventType kind (i + 1) rows

def snapshotSteps (m : Mapper) (event : QmtEvent) (eventType : EventType) (key : String)
    (kind : BrokerEvidenceSourceKind) : List RowStep :=
  match event.payload.listAt key with
  | none => []
  | some rows => m.listSteps event eventType kind 0 rows

/-- The rows a call maps, in their order. -/
def steps (m : Mapper) : Call → List RowStep
  | .register _ _ _ => []
  | .callback event =>
    match event.eventType with
    | .order => [⟨m,⟨event,.order,none,.orderCallback⟩,some event.payload⟩]
    | .deal => [⟨m,⟨event,.deal,none,.dealCallback⟩,some event.payload⟩]
    | _ => []
  | .snapshot event =>
    if event.eventType ≠ .snapshot || event.source ≠ "active_query" then []
    else
      match m.mapSnapshotList event .order "orders" .activeOrderQuery with
      | (.error _,_) => m.snapshotSteps event .order "orders" .activeOrderQuery
      | (.ok _,m₁) => m.snapshotSteps event .order "orders" .activeOrderQuery ++
          m₁.snapshotSteps event .deal "deals" .activeDealQuery

/-- The rows of all the calls. -/
def history (m : Mapper) : List Call → List RowStep
  | [] => []
  | c :: calls => m.steps c ++ (m.call c).2.history calls

/-- The evidence that the calls return. -/
def emitted (m : Mapper) : List Call → List BrokerEvidenceV1
  | [] => []
  | c :: calls => (m.call c).1.toOption.getD [] ++ (m.call c).2.emitted calls

/-- A row that passes every check of the mapper: what it is about, what it says, and the
mapper that has taken it in. -/
inductive Taken (m : Mapper) (src : RowSource) (payload : Fields) :
    RegisteredOrder → RowFact → Mapper → Prop
  | order {o : RegisteredOrder} {fact : RowFact} {m' : Mapper} (htype : src.eventType = .order)
      (hidentity : m.identity src.event payload = .ok o) (hfact : orderFact o payload = .ok fact)
      (hbound : m.bindBrokerOrderId o fact.brokerOrderId = some m') : Taken m src payload o fact m'
  | deal {o : RegisteredOrder} {fact : RowFact} {tradeId : String} {quantity : Int} {m' : Mapper}
      (htype : src.eventType ≠ .order) (hidentity : m.identity src.event payload = .ok o)
      (hfact : m.dealFact o payload = .ok (fact,tradeId,quantity))
      (hbound : m.bindBrokerOrderId o fact.brokerOrderId = some m') :
      Taken m src payload o fact (m'.recordTrade o.brokerToken tradeId quantity)

/-- What a row can do: it is rejected, it raises before anything is written, or it is taken
in and its evidence built. -/
theorem mapRow_cases (m : Mapper) (src : RowSource) (payload : Option Fields) :
    (∃ eventType reason, m.mapRow src payload = (.ok none,m.reject src eventType reason)) ∨
    (∃ fields e, payload = some fields ∧ m.identity src.event fields = .error (.raised e) ∧
      m.mapRow src payload = (.error e,m)) ∨
    ∃ fields o fact m', payload = some fields ∧ m.profile.evidenceEnabled = true ∧
      m.Taken src fields o fact m' ∧
      m.mapRow src payload = (m'.build src o fields fact,m') := by
  cases payload with
  | none => exact .inl ⟨_,_,rfl⟩
  | some fields =>
    simp only [mapRow,mapPayload]
    cases hidentity : m.identity src.event fields with
    | error refusal =>
      cases refusal with
      | rejected reason => exact .inl ⟨_,_,rfl⟩
      | raised e => exact .inr (.inl ⟨fields,e,rfl,hidentity,rfl⟩)
    | ok o =>
      cases henabled : m.profile.evidenceEnabled with
      | false => exact .inl ⟨_,_,rfl⟩
      | true =>
        by_cases htype : src.eventType = .order
        · simp only [htype,Bool.not_true,Bool.false_eq_true,if_false,if_true,mapOrder]
          cases hfact : orderFact o fields with
          | error reason => exact .inl ⟨_,_,rfl⟩
          | ok fact =>
            dsimp only
            cases hbound : m.bindBrokerOrderId o fact.brokerOrderId with
            | none => exact .inl ⟨_,_,rfl⟩
            | some m' =>
              have ht := Taken.order htype hidentity hfact hbound
              exact .inr (.inr ⟨fields,o,fact,m',rfl,True.intro,ht,rfl⟩)
        · simp only [htype,Bool.not_true,Bool.false_eq_true,if_false,mapDeal]
          cases hfact : m.dealFact o fields with
          | error reason => exact .inl ⟨_,_,rfl⟩
          | ok found =>
            obtain ⟨fact,tradeId,quantity⟩ := found
            dsimp only
            cases hbound : m.bindBrokerOrderId o fact.brokerOrderId with
            | none => exact .inl ⟨_,_,rfl⟩
            | some m' =>
              have ht := Taken.deal htype hidentity hfact hbound
              exact .inr (.inr ⟨fields,o,fact,_,rfl,True.intro,ht,rfl⟩)

variable {m m' : Mapper}

/-- A row that passes the checks is taken in. -/
theorem Taken.mapRow {src : RowSource} {fields : Fields} {o : RegisteredOrder} {fact : RowFact}
    (h : m.Taken src fields o fact m') (henabled : m.profile.evidenceEnabled = true) :
    m.mapRow src (some fields) = (m'.build src o fields fact,m') := by
  cases h with
  | order htype hidentity hfact hbound =>
    simp [Mapper.mapRow,mapPayload,mapOrder,hidentity,henabled,htype,hfact,hbound]
  | deal htype hidentity hfact hbound =>
    simp [Mapper.mapRow,mapPayload,mapDeal,hidentity,henabled,htype,hfact,hbound]

theorem mapRow_raised {src : RowSource} {fields : Fields} {e : PyError}
    (h : m.identity src.event fields = .error (.raised e)) :
    m.mapRow src (some fields) = (.error e,m) := by
  simp [mapRow,mapPayload,h]

/-- What can happen to a mapper between two rows. -/
inductive Move : Mapper → Mapper → Prop
  | register {m m' : Mapper} {clientOrderId symbol token : String} {quantity : Int}
      (h : m.registerOrder clientOrderId symbol quantity = .ok (token,m')) : Move m m'
  | row (m : Mapper) (src : RowSource) (payload : Option Fields) :
      Move m (m.mapRow src payload).2
  | reject (m : Mapper) (src : RowSource) (eventType : EventType) (reason : String) :
      Move m (m.reject src eventType reason)

/-- The mapper after any number of moves. -/
abbrev Reach : Mapper → Mapper → Prop := Relation.ReflTransGen Move

/-- The rows a call maps: each from a mapper the call goes through, and together all the
evidence the call returns. -/
structure Spans (m : Mapper) (steps : List RowStep)
    (answer : Except PyError (List BrokerEvidenceV1)) (m' : Mapper) : Prop where
  reach : Reach m m'
  between : ∀ s ∈ steps, Reach m s.before ∧ Reach s.after m'
  evidence : ∀ es, answer = .ok es → ∀ e ∈ es, ∃ s ∈ steps, s.result = .ok (some e)

/-- A call raises when a row of it does. -/
def Raises (steps : List RowStep) (answer : Except PyError (List BrokerEvidenceV1)) : Prop :=
  (∃ e, answer = .error e) ↔ ∃ s ∈ steps, ∃ e, s.result = .error e

theorem spans_nil (m : Mapper) : Spans m [] (.ok []) m :=
  ⟨.refl,by simp,by simp⟩

/-- A call that only raises. -/
theorem spans_error (h : Reach m m') (e : PyError) : Spans m [] (.error e) m' :=
  ⟨h,by simp,by simp⟩

theorem Spans.append {m₁ m₂ m₃ : Mapper} {steps steps' : List RowStep}
    {es : List BrokerEvidenceV1} {answer : Except PyError (List BrokerEvidenceV1)}
    (h : Spans m₁ steps (.ok es) m₂) (h' : Spans m₂ steps' answer m₃) :
    Spans m₁ (steps ++ steps') (answer.map (fun rest => es ++ rest)) m₃ := by
  refine ⟨h.reach.trans h'.reach,?_,?_⟩
  · intro s hs
    obtain hs | hs := List.mem_append.mp hs
    · obtain ⟨hbefore,hafter⟩ := h.between s hs
      exact ⟨hbefore,hafter.trans h'.reach⟩
    · obtain ⟨hbefore,hafter⟩ := h'.between s hs
      exact ⟨h.reach.trans hbefore,hafter⟩
  · intro all hall e he
    cases answer with
    | error err => cases hall
    | ok rest =>
      cases hall
      obtain he | he := List.mem_append.mp he
      · obtain ⟨s,hs,hse⟩ := h.evidence es rfl e he
        exact ⟨s,List.mem_append_left _ hs,hse⟩
      · obtain ⟨s,hs,hse⟩ := h'.evidence rest rfl e he
        exact ⟨s,List.mem_append_right _ hs,hse⟩

theorem Raises.append {steps steps' : List RowStep} {es : List BrokerEvidenceV1}
    {answer : Except PyError (List BrokerEvidenceV1)} (h : Raises steps (.ok es))
    (h' : Raises steps' answer) :
    Raises (steps ++ steps') (answer.map (fun rest => es ++ rest)) := by
  have hfine : ¬∃ s ∈ steps, ∃ e, s.result = .error e := by
    intro hs
    obtain ⟨e,he⟩ := h.mpr hs
    cases he
  have hmap : (∃ e, answer.map (fun rest => es ++ rest) = .error e) ↔ ∃ e, answer = .error e := by
    cases answer <;> simp [Except.map]
  unfold Raises at h' ⊢
  rw [hmap,h']
  constructor
  · rintro ⟨s,hs,he⟩
    exact ⟨s,List.mem_append_right _ hs,he⟩
  · rintro ⟨s,hs,he⟩
    obtain hs | hs := List.mem_append.mp hs
    · exact absurd ⟨s,hs,he⟩ hfine
    · exact ⟨s,hs,he⟩

/-- One row on its own. -/
theorem spans_row (m : Mapper) (src : RowSource) (payload : Option Fields) :
    Spans m [⟨m,src,payload⟩] ((m.mapRow src payload).1.map Option.toList)
      (m.mapRow src payload).2 ∧
    Raises [⟨m,src,payload⟩] ((m.mapRow src payload).1.map Option.toList) := by
  have hresult : ∀ s ∈ [(⟨m,src,payload⟩ : RowStep)], s = ⟨m,src,payload⟩ := by simp
  refine ⟨⟨.single (.row m src payload),?_,?_⟩,?_⟩
  · intro s hs
    rw [hresult s hs]
    exact ⟨.refl,.refl⟩
  · intro es hes e he
    refine ⟨_,List.mem_singleton_self _,?_⟩
    unfold RowStep.result
    cases hrow : (m.mapRow src payload).1 with
    | error err => simp [hrow,Except.map] at hes
    | ok found =>
      cases found with
      | none =>
        simp only [hrow,Except.map,Option.toList_none,Except.ok.injEq] at hes
        subst hes
        cases he
      | some e' =>
        simp only [hrow,Except.map,Option.toList_some,Except.ok.injEq] at hes
        subst hes
        rw [List.mem_singleton.mp he]
  · unfold Raises RowStep.result
    cases hrow : (m.mapRow src payload).1 <;> simp [hrow,Except.map]

section rows
variable (m : Mapper) (event : QmtEvent) (eventType : EventType) (kind : BrokerEvidenceSourceKind)

theorem mapRows_cons (i : Nat) (row : Json) (rows : List Json) :
    m.mapRows event eventType kind i (row :: rows) =
      match m.mapRow ⟨event,eventType,some i,kind⟩ row.dict with
      | (.error e,m') => (.error e,m')
      | (.ok candidate,m') =>
        ((m'.mapRows event eventType kind (i + 1) rows).1.map (fun rest => candidate.toList ++ rest),
          (m'.mapRows event eventType kind (i + 1) rows).2) := by
  have hrest : ∀ (candidate : Option BrokerEvidenceV1) (m' : Mapper),
      (match m'.mapRows event eventType kind (i + 1) rows with
        | (.error e,m'') => (.error e,m'')
        | (.ok rest,m'') => (.ok (candidate.toList ++ rest),m'')) =
      ((m'.mapRows event eventType kind (i + 1) rows).1.map (fun rest => candidate.toList ++ rest),
        (m'.mapRows event eventType kind (i + 1) rows).2) := by
    intro candidate m'
    cases hrows : m'.mapRows event eventType kind (i + 1) rows with
    | mk answer m'' => cases answer <;> rfl
  cases hdict : row.dict with
  | none =>
    simp only [mapRows,hdict,mapRow]
    cases hrows : mapRows _ event eventType kind (i + 1) rows with
    | mk answer m'' => cases answer <;> rfl
  | some fields =>
    simp only [mapRows,hdict,mapRow]
    cases hrow : m.mapPayload ⟨event,eventType,some i,kind⟩ fields with
    | mk answer m' =>
      cases answer with
      | error e => rfl
      | ok candidate => exact hrest candidate m'

/-- The rows of a list. -/
theorem mapRows_spans (i : Nat) (rows : List Json) :
    Spans m (m.listSteps event eventType kind i rows) (m.mapRows event eventType kind i rows).1
      (m.mapRows event eventType kind i rows).2 ∧
    Raises (m.listSteps event eventType kind i rows) (m.mapRows event eventType kind i rows).1 := by
  induction rows generalizing m i with
  | nil => exact ⟨spans_nil m,by simp [Raises,listSteps,mapRows]⟩
  | cons row rows ih =>
    obtain ⟨hspans,hraises⟩ := spans_row m ⟨event,eventType,some i,kind⟩ row.dict
    obtain ⟨hrest,hrestRaises⟩ := ih (m.mapRow ⟨event,eventType,some i,kind⟩ row.dict).2 (i + 1)
    rw [mapRows_cons]
    simp only [listSteps,RowStep.result,RowStep.after]
    cases hrow : m.mapRow ⟨event,eventType,some i,kind⟩ row.dict with
    | mk answer m' =>
      rw [hrow] at hspans hraises hrest hrestRaises
      cases answer with
      | error e => exact ⟨hspans,hraises⟩
      | ok candidate => exact ⟨hspans.append hrest,hraises.append hrestRaises⟩

theorem mapSnapshotList_spans (key : String) :
    Spans m (m.snapshotSteps event eventType key kind)
      (m.mapSnapshotList event eventType key kind).1
      (m.mapSnapshotList event eventType key kind).2 ∧
    Raises (m.snapshotSteps event eventType key kind)
      (m.mapSnapshotList event eventType key kind).1 := by
  unfold snapshotSteps mapSnapshotList
  cases event.payload.listAt key with
  | none => exact ⟨⟨.single (.reject m _ _ _),by simp,by simp⟩,by simp [Raises]⟩
  | some rows => exact mapRows_spans m event eventType kind 0 rows

end rows

/-- The events that a callback and a snapshot are for. -/
def Call.Proper : Call → Prop
  | .register _ _ _ => False
  | .callback event => event.eventType = .order ∨ event.eventType = .deal
  | .snapshot event => event.eventType = .snapshot ∧ event.source = "active_query"

/-- Every call is its rows, and raises for them only when it is asked for what it is for. -/
theorem call_spans (m : Mapper) (c : Call) :
    Spans m (m.steps c) (m.call c).1 (m.call c).2 ∧
      (c.Proper → Raises (m.steps c) (m.call c).1) := by
  cases c with
  | register clientOrderId symbol quantity =>
    refine ⟨?_,fun h => h.elim⟩
    simp only [steps,call]
    cases hregister : m.registerOrder clientOrderId symbol quantity with
    | error e => exact spans_error .refl e
    | ok found => exact ⟨.single (.register hregister),by simp,by simp⟩
  | callback event =>
    simp only [steps,call,callback,Call.Proper]
    cases htype : event.eventType with
    | order =>
      have h := spans_row m ⟨event,.order,none,.orderCallback⟩ (some event.payload)
      exact ⟨h.1,fun _ => h.2⟩
    | deal =>
      have h := spans_row m ⟨event,.deal,none,.dealCallback⟩ (some event.payload)
      exact ⟨h.1,fun _ => h.2⟩
    | snapshot => exact ⟨spans_error .refl _,by simp⟩
    | account => exact ⟨spans_error .refl _,by simp⟩
    | position => exact ⟨spans_error .refl _,by simp⟩
    | bridgeReady => exact ⟨spans_error .refl _,by simp⟩
    | bridgeError => exact ⟨spans_error .refl _,by simp⟩
    | commandResult => exact ⟨spans_error .refl _,by simp⟩
    | accountCapabilities => exact ⟨spans_error .refl _,by simp⟩
    | instrumentCapabilities => exact ⟨spans_error .refl _,by simp⟩
    | instrumentTickCapabilities => exact ⟨spans_error .refl _,by simp⟩
  | snapshot event =>
    simp only [steps,call,mapSnapshot]
    split_ifs with hfor
    · refine ⟨spans_error .refl _,?_⟩
      rintro ⟨htype,hsource⟩
      simp [htype,hsource] at hfor
    · obtain ⟨horders,hordersRaises⟩ :=
        mapSnapshotList_spans m event .order .activeOrderQuery "orders"
      cases hfirst : m.mapSnapshotList event .order "orders" .activeOrderQuery with
      | mk answer m₁ =>
        rw [hfirst] at horders hordersRaises
        cases answer with
        | error e => exact ⟨horders,fun _ => hordersRaises⟩
        | ok orders =>
          obtain ⟨hdeals,hdealsRaises⟩ :=
            mapSnapshotList_spans m₁ event .deal .activeDealQuery "deals"
          dsimp only
          cases hsecond : m₁.mapSnapshotList event .deal "deals" .activeDealQuery with
          | mk answer m₂ =>
            rw [hsecond] at hdeals hdealsRaises
            cases answer with
            | error e => exact ⟨horders.append hdeals,fun _ => hordersRaises.append hdealsRaises⟩
            | ok deals => exact ⟨horders.append hdeals,fun _ => hordersRaises.append hdealsRaises⟩

/-- The rows of a run. -/
theorem history_reach (m : Mapper) (calls : List Call) :
    Reach m (m.run calls) ∧
      ∀ s ∈ m.history calls, Reach m s.before ∧ Reach s.after (m.run calls) := by
  induction calls generalizing m with
  | nil => exact ⟨.refl,by simp [history]⟩
  | cons c calls ih =>
    obtain ⟨hcall,-⟩ := call_spans m c
    obtain ⟨hreach,hsteps⟩ := ih (m.call c).2
    refine ⟨hcall.reach.trans hreach,?_⟩
    intro s hs
    obtain hs | hs := List.mem_append.mp hs
    · obtain ⟨hbefore,hafter⟩ := hcall.between s hs
      exact ⟨hbefore,hafter.trans hreach⟩
    · obtain ⟨hbefore,hafter⟩ := hsteps s hs
      exact ⟨hcall.reach.trans hbefore,hafter⟩

/-- What a run returns comes from its rows. -/
theorem emitted_history (m : Mapper) (calls : List Call) :
    ∀ e ∈ m.emitted calls, ∃ s ∈ m.history calls, s.result = .ok (some e) := by
  induction calls generalizing m with
  | nil => simp [emitted]
  | cons c calls ih =>
    intro e he
    obtain he | he := List.mem_append.mp he
    · cases hanswer : (m.call c).1 with
      | error err => simp [hanswer,Except.toOption] at he
      | ok es =>
        have hmem : e ∈ es := by simpa [hanswer,Except.toOption] using he
        obtain ⟨s,hs,hse⟩ := (call_spans m c).1.evidence es hanswer e hmem
        exact ⟨s,List.mem_append_left _ hs,hse⟩
    · obtain ⟨s,hs,hse⟩ := ih (m.call c).2 e he
      exact ⟨s,List.mem_append_right _ hs,hse⟩

end Mapper
end BigQmt
