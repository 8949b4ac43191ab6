import Mathlib.Data.List.DropRight
import BigQmt.Ingress
set_option autoImplicit false

/-!
What the cursor of the ingress buffer guarantees over whole streams: where a
synchronised stream starts, and which pairs of session and sequence pass once.
-/

namespace BigQmt
namespace IngressBuffer

/-- The accepted events since their last clean snapshot belong to the session of
the buffer, and their sequences lead from the snapshot to the cursor. -/
structure Synchronized (b : IngressBuffer) (events : List QmtEvent) (snapshot : QmtEvent)
    (since : List QmtEvent) : Prop where
  split : ∃ before, events = before ++ snapshot :: since
  clean : snapshot.cleanSnapshot = true
  latest : ∀ e ∈ since, e.cleanSnapshot = false
  session : ∀ e ∈ snapshot :: since, b.sessionId = some e.sessionId
  contiguous : (snapshot :: since).map QmtEvent.sequence =
    (List.range (since.length + 1)).map (fun i : Nat => snapshot.sequence + i)
  cursor : b.lastSequence = snapshot.sequence + since.length

/-- What the flag promises of the events accepted so far. -/
structure Sound (b : IngressBuffer) (events : List QmtEvent) : Prop where
  log : b.events = events
  cursor : b.lastSequence = 0 → b.sessionId = none
  synced : b.needsResync = false → ∃ snapshot since, b.Synchronized events snapshot since

theorem Sound.fresh (account terminal : Option String) :
    (IngressBuffer.fresh account terminal).Sound [] :=
  ⟨rfl,fun _ => rfl,by simp [IngressBuffer.fresh]⟩

theorem Synchronized.start {b : IngressBuffer} {events : List QmtEvent} {e : QmtEvent}
    (hclean : e.cleanSnapshot = true) (hs : b.sessionId = some e.sessionId)
    (hc : b.lastSequence = e.sequence) : b.Synchronized (events ++ [e]) e [] where
  split := ⟨events,rfl⟩
  clean := hclean
  latest := by simp
  session := by simpa using hs
  contiguous := by simp
  cursor := by simpa using hc

theorem Synchronized.next {b b' : IngressBuffer} {events since : List QmtEvent}
    {snapshot e : QmtEvent} (h : b.Synchronized events snapshot since)
    (hplain : e.cleanSnapshot = false) (hbs : b.sessionId = some e.sessionId)
    (hs : b'.sessionId = some e.sessionId) (hseq : e.sequence = b.lastSequence + 1)
    (hc : b'.lastSequence = e.sequence) :
    b'.Synchronized (events ++ [e]) snapshot (since ++ [e]) where
  split := by
    obtain ⟨before,hb⟩ := h.split
    exact ⟨before,by simp [hb]⟩
  clean := h.clean
  latest := by
    intro x hx
    obtain hx | hx := List.mem_append.mp hx
    · exact h.latest x hx
    · rw [List.mem_singleton.mp hx]
      exact hplain
  session := by
    intro x hx
    rw [← List.cons_append] at hx
    obtain hx | hx := List.mem_append.mp hx
    · rw [hs,← hbs]
      exact h.session x hx
    · rw [List.mem_singleton.mp hx]
      exact hs
  contiguous := by
    have hlast : e.sequence = snapshot.sequence + ((since.length + 1 : Nat) : Int) := by
      have := h.cursor
      omega
    rw [← List.cons_append,List.map_append,h.contiguous,List.length_append,List.length_singleton,
      List.range_succ (n := since.length + 1)]
    simp [hlast]
  cursor := by
    have := h.cursor
    simp only [List.length_append,List.length_singleton]
    omega

theorem Sound.ingest {b : IngressBuffer} {events : List QmtEvent} (h : b.Sound events)
    {e : QmtEvent} (he : e.Valid) :
    (b.ingest e).2.Sound (events ++ accepted [(b.ingest e).1]) := by
  have hpos := he.sequence
  have hans := b.ingest_answers he
  revert hans
  generalize (b.ingest e).1 = answer,(b.ingest e).2 = b'
  intro hans
  cases hans with
  | @refused err =>
    have hnone : accepted [.error err] = [] := rfl
    rwa [hnone,List.append_nil]
  | duplicate =>
    have hnone : accepted [.ok ⟨.duplicate,e,b.needsResync⟩] = [] := rfl
    rw [hnone,List.append_nil]
    refine ⟨h.log,h.cursor,fun hr => ?_⟩
    obtain ⟨snapshot,since,hsync⟩ := h.synced hr
    exact ⟨snapshot,since,⟨hsync.split,hsync.clean,hsync.latest,hsync.session,
      hsync.contiguous,hsync.cursor⟩⟩
  | @advanced r _ fresh kind event told session cursor eventsEq resync =>
    have hone : accepted [.ok r] = [e] := by simp [accepted,acceptedEvent,kind,event]
    rw [hone]
    refine ⟨by rw [eventsEq,h.log],fun hz => by omega,fun hr => ?_⟩
    by_cases hclean : e.cleanSnapshot = true
    · exact ⟨e,[],.start hclean session cursor⟩
    · obtain ⟨hold,hsame,hseq⟩ := (resync.mp hr).resolve_left hclean
      obtain ⟨snapshot,since,hsync⟩ := h.synced hold
      obtain hzero | hseq := hseq
      · simp [h.cursor hzero] at hsame
      · exact ⟨snapshot,since ++ [e],hsync.next (by simpa using hclean) hsame session hseq cursor⟩

theorem Sound.ingestAll {b : IngressBuffer} {events : List QmtEvent} (h : b.Sound events)
    (es : List ValidEvent) :
    (b.ingestAll es).2.Sound (events ++ accepted (b.ingestAll es).1) := by
  induction es generalizing b events with
  | nil => simpa [IngressBuffer.ingestAll,accepted] using h
  | cons e es ih =>
    have hrest := ih (h.ingest e.2)
    rw [List.append_assoc,← accepted_append] at hrest
    exact hrest

/-- A call that raises or answers `DUPLICATE` moves nothing. -/
theorem ingest_unmoved {b : IngressBuffer} {e : QmtEvent} (he : e.Valid)
    (hnone : acceptedEvent (b.ingest e).1 = none) :
    (b.ingest e).2.sessionId = b.sessionId ∧ (b.ingest e).2.lastSequence = b.lastSequence ∧
      (b.ingest e).2.needsResync = b.needsResync ∧ (b.ingest e).2.events = b.events := by
  have hans := b.ingest_answers he
  revert hans hnone
  generalize (b.ingest e).1 = answer,(b.ingest e).2 = b'
  intro hnone hans
  cases hans with
  | refused => exact ⟨rfl,rfl,rfl,rfl⟩
  | duplicate => exact ⟨rfl,rfl,rfl,rfl⟩
  | advanced fresh kind => simp [acceptedEvent,kind] at hnone

end IngressBuffer

def sampleFingerprint : String :=
  "sha256:0000000000000000000000000000000000000000000000000000000000000000"

def sampleEvent (session : String) (sequence : Int) (t : EventType) (payload : Fields) :
    QmtEvent :=
  ⟨session,sequence,1700000000000,t,"callback",sampleFingerprint,some "STOCK",none,payload⟩

theorem sampleEvent_valid {session : String} {sequence : Int} {t : EventType} {payload : Fields}
    (hs : session ≠ "") (hq : 0 < sequence) (hp : t.validatePayload payload = .ok ()) :
    (sampleEvent session sequence t payload).Valid where
  sessionId := hs
  sequence := hq
  timestampMs := by simp [sampleEvent]
  source := by simp [sampleEvent]
  accountFingerprint := by
    have : isSha256 sampleFingerprint = true := by decide
    exact this
  terminalInstanceId := rfl
  payload := hp

def noRows : Json := .array .nil

/-- A snapshot of positions, with the errors of its queries. -/
def samplePositions (positions errors : Json) : Fields :=
  .cons "account" noRows (.cons "deals" noRows (.cons "orders" noRows
    (.cons "positions" positions (.cons "query_errors" errors .nil))))

def sampleSnapshot (session : String) (sequence : Int) : QmtEvent :=
  sampleEvent session sequence .snapshot (samplePositions noRows noRows)

def samplePosition (session : String) (sequence : Int) : QmtEvent :=
  sampleEvent session sequence .position (.cons "symbol" (.text "600000.SH") .nil)

theorem sampleSnapshot_valid {session : String} {sequence : Int} (hs : session ≠ "")
    (hq : 0 < sequence) : (sampleSnapshot session sequence).Valid :=
  sampleEvent_valid hs hq rfl

theorem samplePosition_valid {session : String} {sequence : Int} (hs : session ≠ "")
    (hq : 0 < sequence) : (samplePosition session sequence).Valid :=
  sampleEvent_valid hs hq rfl

/-- Over every stream of valid events: a buffer that needs no resync has accepted
a clean snapshot of its session, and what it accepted since leads without a hole
from there to the cursor; a call that raises or answers `DUPLICATE` moves nothing. -/
theorem resync_sound (account terminal : Option String) (es : List ValidEvent) :
    let (answers,b) := (IngressBuffer.fresh account terminal).ingestAll es
    (b.needsResync = false →
      ∃ snapshot since, b.Synchronized (accepted answers) snapshot since) ∧
    ∀ e : ValidEvent, acceptedEvent (b.ingest e.1).1 = none →
      (b.ingest e.1).2.sessionId = b.sessionId ∧
      (b.ingest e.1).2.lastSequence = b.lastSequence ∧
      (b.ingest e.1).2.needsResync = b.needsResync ∧ (b.ingest e.1).2.events = b.events := by
  have hsound := (IngressBuffer.Sound.fresh account terminal).ingestAll es
  exact ⟨fun hr => hsound.synced hr,fun e => IngressBuffer.ingest_unmoved e.2⟩

/-- A snapshot and a callback after it: the flag is down. -/
def syncedStream : List ValidEvent :=
  [⟨sampleSnapshot "session-a" 3,sampleSnapshot_valid (by decide) (by decide)⟩,
    ⟨samplePosition "session-a" 4,samplePosition_valid (by decide) (by decide)⟩]

theorem resync_sound_synced : ∃ snapshot since,
    ((IngressBuffer.fresh none none).ingestAll syncedStream).2.Synchronized
      (accepted ((IngressBuffer.fresh none none).ingestAll syncedStream).1) snapshot since :=
  (resync_sound none none syncedStream).1 (by decide)

/-- The identity checks of `ingest`, as a check of an event. -/
def admits (account terminal : Option String) (e : QmtEvent) : Bool :=
  terminal.all (fun t => e.terminalInstanceId = some t) &&
    account.all (fun a => e.accountFingerprint = a)

/-- The events that pass the identity checks; the first one pins its account. -/
def admitted (account terminal : Option String) : List QmtEvent → List QmtEvent
  | [] => []
  | e :: es =>
    if admits account terminal e then e :: admitted (some e.accountFingerprint) terminal es
    else admitted account terminal es

/-- The uninterrupted run of events of a session at the end of a stream. -/
def stretch (before : List QmtEvent) (session : String) : List QmtEvent :=
  before.rtakeWhile (fun e => e.sessionId = session)

/-- Above every event of its session that came just before it. -/
def Leads (before : List QmtEvent) (e : QmtEvent) : Prop :=
  ∀ e' ∈ stretch before e.sessionId, e'.sequence < e.sequence

instance (before : List QmtEvent) (e : QmtEvent) : Decidable (Leads before e) :=
  inferInstanceAs (Decidable (∀ e' ∈ _,_))

def QmtEvent.number (e : QmtEvent) : String × Int := (e.sessionId,e.sequence)

/-- A session comes back after another one, and a number of it that led its
stretch before leads a stretch again. -/
def Reopened (es : List QmtEvent) : Prop :=
  ∃ before first between second after,
    es = before ++ first :: between ++ second :: after ∧ first.number = second.number ∧
      (∃ other ∈ between, other.sessionId ≠ first.sessionId) ∧
      Leads before first ∧ Leads (before ++ first :: between) second

/-- The events that lead their stretch, after those before. -/
def leaders (before : List QmtEvent) : List QmtEvent → List QmtEvent
  | [] => []
  | e :: es => (if Leads before e then [e] else []) ++ leaders (before ++ [e]) es

theorem mem_leaders {before es : List QmtEvent} {e : QmtEvent} :
    e ∈ leaders before es ↔ ∃ xs ys, es = xs ++ e :: ys ∧ Leads (before ++ xs) e := by
  induction es generalizing before with
  | nil => simp [leaders]
  | cons x es ih =>
    simp only [leaders,List.mem_append,ih]
    constructor
    · rintro (h | ⟨xs,ys,rfl,hl⟩)
      · by_cases hx : Leads before x
        · simp only [hx,if_true,List.mem_singleton] at h
          subst h
          exact ⟨[],es,rfl,by simpa using hx⟩
        · simp [hx] at h
      · exact ⟨x :: xs,ys,rfl,by simpa using hl⟩
    · rintro ⟨xs,ys,heq,hl⟩
      cases xs with
      | nil =>
        cases heq
        rw [List.append_nil] at hl
        simp [hl]
      | cons y xs =>
        cases heq
        exact .inr ⟨xs,ys,rfl,by simpa using hl⟩

theorem stretch_append {before between : List QmtEvent} {first : QmtEvent}
    (h : ∀ e ∈ between, e.sessionId = first.sessionId) :
    first ∈ stretch (before ++ first :: between) first.sessionId := by
  induction between using List.reverseRecOn with
  | nil => simp [stretch]
  | append_singleton xs x ih =>
    have hx : x.sessionId = first.sessionId := h x (by simp)
    have hxs := ih fun e he => h e (by simp [he])
    rw [← List.cons_append,← List.append_assoc]
    unfold stretch
    rw [List.rtakeWhile_concat,if_pos (by simpa using hx)]
    exact List.mem_append_left _ hxs

theorem leaders_nodup (before es : List QmtEvent) :
    ((leaders before es).map QmtEvent.number).Nodup ↔
      ∀ xs first ys second zs, es = xs ++ first :: ys ++ second :: zs →
        first.number = second.number → Leads (before ++ xs) first →
        ¬Leads (before ++ xs ++ first :: ys) second := by
  induction es generalizing before with
  | nil => simp [leaders]
  | cons x es ih =>
    have hrest := ih (before ++ [x])
    have hone : ((if Leads before x then [x] else []).map QmtEvent.number).Nodup := by
      split <;> simp
    rw [leaders,List.map_append,List.nodup_append,hrest]
    constructor
    · rintro ⟨-,htail,hapart⟩ xs first ys second zs heq hnum hl hl'
      cases xs with
      | nil =>
        cases heq
        rw [List.append_nil] at hl hl'
        have hmem : second ∈ leaders (before ++ [x]) (ys ++ second :: zs) :=
          mem_leaders.mpr ⟨ys,zs,rfl,by simpa using hl'⟩
        exact hapart x.number (by simp [hl]) second.number (List.mem_map_of_mem hmem) hnum
      | cons y xs =>
        cases heq
        exact htail xs first ys second zs (by simp) hnum (by simpa using hl) (by simpa using hl')
    · intro h
      refine ⟨hone,?_,?_⟩
      · intro xs first ys second zs heq hnum hl hl'
        exact h (x :: xs) first ys second zs (by simp [heq]) hnum (by simpa using hl)
          (by simpa using hl')
      · intro a ha b hb hab
        by_cases hx : Leads before x
        · obtain ⟨second,hsecond,rfl⟩ := List.mem_map.mp hb
          obtain ⟨ys,zs,heq,hl'⟩ := mem_leaders.mp hsecond
          rw [if_pos hx,List.map_singleton,List.mem_singleton] at ha
          exact h [] x ys second zs (by simp [heq]) (by rw [← hab,ha]) (by simpa using hx)
            (by simpa using hl')
        · simp [hx] at ha

/-- A pair can lead two stretches only if another session came between. -/
theorem leaders_nodup_iff (es : List QmtEvent) :
    ((leaders [] es).map QmtEvent.number).Nodup ↔ ¬Reopened es := by
  rw [leaders_nodup]
  constructor
  · rintro h ⟨before,first,between,second,after,heq,hnum,-,hl,hl'⟩
    exact h before first between second after heq hnum hl hl'
  · intro h xs first ys second zs heq hnum hl hl'
    rw [List.nil_append] at hl hl'
    refine h ⟨xs,first,ys,second,zs,heq,hnum,?_,hl,hl'⟩
    by_contra hsame
    push Not at hsame
    have hmem := @stretch_append xs _ first hsame
    have hsession : first.sessionId = second.sessionId := congrArg Prod.fst hnum
    have hsequence : first.sequence = second.sequence := congrArg Prod.snd hnum
    have hlt := hl' first (hsession ▸ hmem)
    omega

theorem leads_concat {before : List QmtEvent} {x e : QmtEvent} :
    Leads (before ++ [x]) e ↔
      x.sessionId = e.sessionId → Leads before e ∧ x.sequence < e.sequence := by
  unfold Leads stretch
  rw [List.rtakeWhile_concat]
  by_cases hs : x.sessionId = e.sessionId
  · simp only [hs,decide_true,if_true,List.mem_append,List.mem_singleton,true_imp_iff]
    constructor
    · intro h
      exact ⟨fun e' he' => h e' (.inl he'),h x (.inr rfl)⟩
    · rintro ⟨h,hx⟩ e' (he' | rfl)
      · exact h e' he'
      · exact hx
  · simp [hs]

namespace IngressBuffer

/-- The cursor refuses what does not lead its stretch. -/
def Follows (b : IngressBuffer) (before : List QmtEvent) : Prop :=
  ∀ e, b.Behind e ↔ ¬Leads before e

theorem Follows.fresh (account terminal : Option String) :
    (IngressBuffer.fresh account terminal).Follows [] := by
  intro e
  simp [Behind,IngressBuffer.fresh,Leads,stretch]

theorem pin_admits {b : IngressBuffer} {e : QmtEvent}
    (h : admits b.expectedAccountFingerprint b.expectedTerminalInstanceId e = true) :
    b.pin e = .ok { b with expectedAccountFingerprint := some e.accountFingerprint } := by
  obtain ⟨account,terminal,session,cursor,resync,log⟩ := b
  cases terminal <;> cases account <;> simp_all [pin,admits,refuse]

theorem pin_refuses {b : IngressBuffer} {e : QmtEvent}
    (h : admits b.expectedAccountFingerprint b.expectedTerminalInstanceId e = false) :
    ∃ err, b.pin e = .error err := by
  obtain ⟨account,terminal,session,cursor,resync,log⟩ := b
  cases terminal <;> cases account <;> simp_all [pin,admits,refuse]
  split <;> simp_all

theorem ingest_refused {b : IngressBuffer} {e : QmtEvent}
    (h : admits b.expectedAccountFingerprint b.expectedTerminalInstanceId e = false) :
    ∃ err, b.ingest e = (.error err,b) := by
  obtain ⟨err,herr⟩ := pin_refuses h
  exact ⟨err,by simp [ingest,herr]⟩

theorem ingest_pins {b : IngressBuffer} {e : QmtEvent}
    (h : admits b.expectedAccountFingerprint b.expectedTerminalInstanceId e = true) :
    (b.ingest e).2.expectedAccountFingerprint = some e.accountFingerprint ∧
      (b.ingest e).2.expectedTerminalInstanceId = b.expectedTerminalInstanceId := by
  simp only [ingest,pin_admits h,enter,advance]
  split <;> split <;> exact ⟨rfl,rfl⟩

/-- An event that passes the identity checks is answered by its place in its stretch. -/
theorem ingest_admitted {b : IngressBuffer} {before : List QmtEvent} (hb : b.Follows before)
    {e : QmtEvent} (he : e.Valid)
    (h : admits b.expectedAccountFingerprint b.expectedTerminalInstanceId e = true) :
    (b.ingest e).2.Follows (before ++ [e]) ∧
      accepted [(b.ingest e).1] = if Leads before e then [e] else [] := by
  have hans := b.ingest_answers he
  revert hans
  generalize (b.ingest e).1 = answer,(b.ingest e).2 = b'
  intro hans
  cases hans with
  | refused hpin => simp [pin_admits h] at hpin
  | duplicate hbehind =>
    refine ⟨fun x => ?_,?_⟩
    · have hx := hb x
      obtain ⟨hs,hle⟩ := hbehind
      rw [leads_concat]
      simp only [Behind,hs,Option.some.injEq] at hx ⊢
      grind
    · rw [if_neg ((hb e).mp hbehind)]
      rfl
  | advanced fresh kind event told session cursor =>
    refine ⟨fun x => ?_,?_⟩
    · have hx := hb x
      have he' := hb e
      rw [leads_concat]
      simp only [Behind,session,cursor,Option.some.injEq] at hx fresh ⊢
      grind
    · have hleads : Leads before e := by_contra fun hn => fresh ((hb e).mpr hn)
      simp [accepted,acceptedEvent,kind,event,hleads]

theorem accepted_leaders {b : IngressBuffer} {before : List QmtEvent} (hb : b.Follows before)
    (es : List ValidEvent) :
    accepted (b.ingestAll es).1 = leaders before (admitted b.expectedAccountFingerprint
      b.expectedTerminalInstanceId (es.map Subtype.val)) := by
  induction es generalizing b before with
  | nil => rfl
  | cons e es ih =>
    have hcons : accepted (b.ingestAll (e :: es)).1 =
        accepted [(b.ingest e.1).1] ++ accepted ((b.ingest e.1).2.ingestAll es).1 :=
      accepted_append [_] _
    rw [hcons,List.map_cons,admitted]
    by_cases h : admits b.expectedAccountFingerprint b.expectedTerminalInstanceId e.1 = true
    · obtain ⟨hfollows,hone⟩ := ingest_admitted hb e.2 h
      obtain ⟨haccount,hterminal⟩ := ingest_pins h
      rw [if_pos h,leaders,ih hfollows,haccount,hterminal,hone]
    · obtain ⟨err,herr⟩ := ingest_refused (by simpa using h)
      rw [if_neg h,herr,ih hb]
      rfl

end IngressBuffer

/-- Each pair of session and sequence receives a disposition other than
`DUPLICATE` at most once exactly when no session comes back and leads again with
a number that led before. -/
theorem ingress_at_most_once_iff (account terminal : Option String) (es : List ValidEvent) :
    ((accepted ((IngressBuffer.fresh account terminal).ingestAll es).1).map
        QmtEvent.number).Nodup ↔
      ¬Reopened (admitted account terminal (es.map Subtype.val)) := by
  rw [IngressBuffer.accepted_leaders (IngressBuffer.Follows.fresh account terminal)]
  exact leaders_nodup_iff _

/-- The first event of a session, an event of another one, and the first again. -/
def returningStream : List ValidEvent :=
  [⟨samplePosition "session-a" 1,samplePosition_valid (by decide) (by decide)⟩,
    ⟨samplePosition "session-b" 1,samplePosition_valid (by decide) (by decide)⟩,
    ⟨samplePosition "session-a" 1,samplePosition_valid (by decide) (by decide)⟩]

theorem ingress_at_most_once_fails :
    ¬((accepted ((IngressBuffer.fresh none none).ingestAll returningStream).1).map
        QmtEvent.number).Nodup := by
  decide

end BigQmt
