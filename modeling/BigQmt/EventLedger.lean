import Mathlib.Data.List.Chain
import Mathlib.Data.List.Perm.Basic
import BigQmt.EventOrder
set_option autoImplicit false

/-!
What becomes of every event the Bridge numbers: `_enqueue` and `flush_transport`, and what
the cursor of the Host tells of the events that were dropped.
-/

namespace BigQmt

/-- Where one call of `_persist_event` fails: before its file is looked for, or while the
frame is written and moved to its name. -/
structure PersistFaults where
  spool : Option PyError := none
  write : Option PyError := none

/-- `_persist_event`: the inbox after it. -/
def persistEvent (faults : PersistFaults) (inbox : List EventFile) (e : QmtEvent) :
    Except PyError (List EventFile) :=
  match faults.spool with
  | some err => .error err
  | none =>
    if inbox.any (fun f => f.stem = eventStem e) then .ok inbox
    else
      match encodeTransportFrame e with
      | .error err => .error err
      | .ok raw =>
        match faults.write with
        | some err => .error err
        | none => .ok (inbox ++ [⟨eventStem e,raw⟩])

/-- The loop of `flush_transport` from the `i`th event on: how many were persisted. -/
def persistBatch (faults : Nat → PersistFaults) (i : Nat) (inbox : List EventFile) :
    List QmtEvent → Nat × List EventFile
  | [] => (0,inbox)
  | e :: rest =>
    match persistEvent (faults i) inbox e with
    | .error _ => (0,inbox)
    | .ok inbox' =>
      let (persisted,inbox'') := persistBatch faults (i + 1) inbox' rest
      (persisted + 1,inbox'')

/-- The events of a session: `feed` is the queue, `persisted` and `dropped` are the events
that left it, and `inbox` is the directory, with the names the Host has taken away. -/
structure EventLedger where
  feed : EventFeed
  inbox : List EventFile
  taken : List String
  persisted : List QmtEvent
  dropped : List QmtEvent

/-- Calls of the two methods, and the Host taking a file away. -/
inductive FeedCall where
  | enqueue (nowMs : Nat) (body : QmtEvent)
  | flush (maxItems : Int) (faults : Nat → PersistFaults)
  | taken (stem : String)

namespace EventLedger

def start (session : String) (inbox : List EventFile) : EventLedger :=
  ⟨.start session,inbox,[],[],[]⟩

/-- `_enqueue`, with the event a full queue loses. -/
def enqueue (l : EventLedger) (nowMs : Nat) (body : QmtEvent) : EventLedger :=
  { l with
    feed := l.feed.enqueue nowMs body
    dropped := l.dropped ++
      if maxQueuedEvents ≤ l.feed.events.length then l.feed.events.take 1 else [] }

/-- `flush_transport`. -/
def flush (l : EventLedger) (maxItems : Int) (faults : Nat → PersistFaults) : EventLedger :=
  let limit := min l.feed.events.length maxItems.toNat
  let (persisted,inbox) := persistBatch faults 0 l.inbox (l.feed.events.take limit)
  { l with
    feed := { l.feed with events := l.feed.events.drop persisted }
    inbox := inbox
    persisted := l.persisted ++ l.feed.events.take persisted }

def step (l : EventLedger) : FeedCall → EventLedger
  | .enqueue nowMs body => l.enqueue nowMs body
  | .flush maxItems faults => l.flush maxItems faults
  | .taken stem => { l with
      inbox := l.inbox.filter (fun f => f.stem ≠ stem)
      taken := stem :: l.taken }

def run (l : EventLedger) (calls : List FeedCall) : EventLedger := calls.foldl step l

/-- The sequence numbers issued so far. -/
def issued (l : EventLedger) : List Int :=
  (List.range l.feed.sequence).map (fun (n : Nat) => (n : Int) + 1)

/-- Every number issued is accounted for once, the dropped ones are counted, and the events
are persisted, and wait, in the order of their numbers. -/
structure Accounted (l : EventLedger) : Prop where
  partition : ((l.persisted ++ l.feed.events ++ l.dropped).map QmtEvent.sequence).Perm l.issued
  counted : l.feed.droppedEvents = l.dropped.length
  increasing : (l.persisted ++ l.feed.events).Pairwise (fun e e' => e.sequence < e'.sequence)

theorem accounted_start (session : String) (inbox : List EventFile) :
    (start session inbox).Accounted :=
  ⟨.nil,rfl,.nil⟩

/-- A full queue loses its oldest event. -/
def lose (l : EventLedger) : EventLedger :=
  { l with
    feed := { l.feed with
      events := l.feed.events.tail
      droppedEvents := l.feed.droppedEvents + 1 }
    dropped := l.dropped ++ l.feed.events.take 1 }

/-- The event takes the next number and waits. -/
def number (l : EventLedger) (nowMs : Nat) (body : QmtEvent) : EventLedger :=
  { l with feed := { l.feed with
      sequence := l.feed.sequence + 1
      events := l.feed.events ++ [l.feed.event nowMs body] } }

theorem enqueue_eq (l : EventLedger) (nowMs : Nat) (body : QmtEvent) : l.enqueue nowMs body =
    (if maxQueuedEvents ≤ l.feed.events.length then l.lose else l).number nowMs body := by
  by_cases hfull : maxQueuedEvents ≤ l.feed.events.length
  · simp only [enqueue,EventFeed.enqueue,hfull,if_true]
    rfl
  · simp only [enqueue,EventFeed.enqueue,hfull,if_false,List.append_nil]
    rfl

theorem Accounted.lose {l : EventLedger} (h : l.Accounted)
    (hfull : maxQueuedEvents ≤ l.feed.events.length) : l.lose.Accounted := by
  have hpart := h.partition
  have hinc := h.increasing
  have hcount := h.counted
  cases hq : l.feed.events with
  | nil => simp [hq,maxQueuedEvents] at hfull
  | cons x rest =>
    rw [hq] at hpart hinc
    have hlose : l.lose = { l with
        feed := { l.feed with events := rest,droppedEvents := l.feed.droppedEvents + 1 }
        dropped := l.dropped ++ [x] } := by simp [EventLedger.lose,hq]
    rw [hlose]
    refine ⟨?_,by simp [hcount],?_⟩
    · -- the event goes from the head of the queue to the dropped ones
      have hmove : (l.persisted ++ rest ++ (l.dropped ++ [x])).Perm
          (l.persisted ++ x :: rest ++ l.dropped) := by
        rw [← List.append_assoc,List.append_assoc l.persisted (x :: rest),List.cons_append]
        refine (List.perm_append_singleton _ _).trans ?_
        rw [List.append_assoc]
        exact List.perm_middle.symm
      exact (hmove.map _).trans hpart
    · exact hinc.sublist (List.Sublist.append_left (List.sublist_cons_self _ _) _)

/-- What is persisted or waits has a number that was issued. -/
theorem Accounted.issued_le {l : EventLedger} (h : l.Accounted) {e : QmtEvent}
    (he : e ∈ l.persisted ++ l.feed.events) : e.sequence ≤ l.feed.sequence := by
  have hmem : e.sequence ∈ l.issued :=
    h.partition.mem_iff.mp (List.mem_map_of_mem (List.mem_append_left _ he))
  obtain ⟨n,hn,heq⟩ := List.mem_map.mp hmem
  have hlt := List.mem_range.mp hn
  omega

theorem Accounted.number {l : EventLedger} (h : l.Accounted) (nowMs : Nat) (body : QmtEvent) :
    (l.number nowMs body).Accounted := by
  have hnew : (l.feed.event nowMs body).sequence = (l.feed.sequence : Int) + 1 := rfl
  have hissued : (l.number nowMs body).issued = l.issued ++ [(l.feed.sequence : Int) + 1] := by
    simp [issued,EventLedger.number,List.range_succ]
  refine ⟨?_,h.counted,?_⟩
  · have hmove : (l.persisted ++ (l.feed.events ++ [l.feed.event nowMs body]) ++ l.dropped).Perm
        (l.persisted ++ l.feed.events ++ l.dropped ++ [l.feed.event nowMs body]) := by
      rw [← List.append_assoc,List.append_assoc _ [_] l.dropped,List.append_assoc _ l.dropped]
      exact List.Perm.append_left _ List.perm_append_comm
    rw [hissued,← hnew]
    refine (hmove.map _).trans ?_
    rw [List.map_append]
    exact h.partition.append_right _
  · change (l.persisted ++ (l.feed.events ++ [l.feed.event nowMs body])).Pairwise _
    rw [← List.append_assoc]
    refine List.pairwise_append.mpr ⟨h.increasing,List.pairwise_singleton _ _,?_⟩
    intro e he e' he'
    have hle := h.issued_le he
    rw [List.mem_singleton.mp he']
    omega

theorem Accounted.enqueue {l : EventLedger} (h : l.Accounted) (nowMs : Nat) (body : QmtEvent) :
    (l.enqueue nowMs body).Accounted := by
  rw [enqueue_eq]
  split
  · rename_i hfull
    exact (h.lose hfull).number nowMs body
  · exact h.number nowMs body

/-- The events persisted by a call are a prefix of the queue, and leave it in order. -/
theorem Accounted.flush {l : EventLedger} (h : l.Accounted) (maxItems : Int)
    (faults : Nat → PersistFaults) : (l.flush maxItems faults).Accounted := by
  have hsplit : ∀ n, l.persisted ++ l.feed.events.take n ++ l.feed.events.drop n =
      l.persisted ++ l.feed.events := by
    intro n
    rw [List.append_assoc,List.take_append_drop]
  refine ⟨?_,h.counted,?_⟩
  · simp only [EventLedger.flush,hsplit]
    exact h.partition
  · simp only [EventLedger.flush,hsplit]
    exact h.increasing

theorem Accounted.step {l : EventLedger} (h : l.Accounted) (call : FeedCall) :
    (l.step call).Accounted := by
  cases call with
  | enqueue nowMs body => exact h.enqueue nowMs body
  | flush maxItems faults => exact h.flush maxItems faults
  | taken stem => exact ⟨h.partition,h.counted,h.increasing⟩

/-- The events of a session carry its id. -/
structure Ours (session : String) (l : EventLedger) : Prop where
  feed : l.feed.sessionId = session
  events : ∀ e ∈ l.persisted ++ l.feed.events, e.sessionId = session

theorem Ours.step {session : String} {l : EventLedger} (h : l.Ours session) (call : FeedCall) :
    (l.step call).Ours session := by
  cases call with
  | enqueue nowMs body =>
    have hnew : (l.feed.event nowMs body).sessionId = session := h.feed
    have hevents : ∀ e ∈ (l.enqueue nowMs body).feed.events,
        e ∈ l.feed.events ∨ e = l.feed.event nowMs body := by
      intro e he
      simp only [enqueue,EventFeed.enqueue] at he
      split at he
      · obtain hold | hlast := List.mem_append.mp he
        · exact .inl (List.mem_of_mem_tail hold)
        · exact .inr (List.mem_singleton.mp hlast)
      · obtain hold | hlast := List.mem_append.mp he
        · exact .inl hold
        · exact .inr (List.mem_singleton.mp hlast)
    refine ⟨?_,fun e he => ?_⟩
    · change (l.feed.enqueue nowMs body).sessionId = session
      unfold EventFeed.enqueue
      split <;> exact h.feed
    · obtain hpersisted | hqueued := List.mem_append.mp he
      · exact h.events e (List.mem_append_left _ hpersisted)
      · obtain hold | rfl := hevents e hqueued
        · exact h.events e (List.mem_append_right _ hold)
        · exact hnew
  | flush maxItems faults =>
    refine ⟨h.feed,fun e he => h.events e ?_⟩
    simp only [EventLedger.step,flush] at he
    rwa [List.append_assoc,List.take_append_drop] at he
  | taken stem => exact ⟨h.feed,h.events⟩

/-- The inbox holds what was there at the start and the frames of persisted events, and
those are there until the Host takes them. -/
structure Filed (initial : List EventFile) (l : EventLedger) : Prop where
  placed : ∀ e ∈ l.persisted, (∃ f ∈ l.inbox, f.stem = eventStem e) ∨ eventStem e ∈ l.taken
  files : ∀ f ∈ l.inbox, f ∈ initial ∨ ∃ e ∈ l.persisted, f = ⟨eventStem e,e.frame⟩

/-- A call that returns leaves a file of the event's name; the other files are as before. -/
theorem persistEvent_ok {faults : PersistFaults} {inbox inbox' : List EventFile} {e : QmtEvent}
    (h : persistEvent faults inbox e = .ok inbox') :
    (∃ f ∈ inbox', f.stem = eventStem e) ∧ (∀ f ∈ inbox, f ∈ inbox') ∧
      ∀ f ∈ inbox', f ∈ inbox ∨ f = ⟨eventStem e,e.frame⟩ := by
  unfold persistEvent at h
  cases hspool : faults.spool with
  | some err => simp [hspool] at h
  | none =>
    by_cases hheld : inbox.any (fun f => f.stem = eventStem e) = true
    · simp only [hspool,hheld,if_true,Except.ok.injEq] at h
      obtain ⟨f,hf,hstem⟩ := List.any_eq_true.mp hheld
      subst h
      exact ⟨⟨f,hf,by simpa using hstem⟩,fun _ hf => hf,fun _ hf => .inl hf⟩
    · rw [Bool.not_eq_true] at hheld
      cases hencode : encodeTransportFrame e with
      | error err => simp [hspool,hheld,hencode] at h
      | ok raw =>
        obtain ⟨rfl,-⟩ := encodeTransportFrame_ok hencode
        cases hwrite : faults.write with
        | some err => simp [hspool,hheld,hencode,hwrite] at h
        | none =>
          simp only [hspool,hheld,hencode,hwrite,Bool.false_eq_true,if_false,
            Except.ok.injEq] at h
          rw [← h]
          refine ⟨⟨⟨eventStem e,e.frame⟩,by simp,rfl⟩,fun f hf => List.mem_append_left _ hf,?_⟩
          intro f hf
          simpa using hf

theorem persistBatch_files (faults : Nat → PersistFaults) (i : Nat) (inbox : List EventFile)
    (es : List QmtEvent) :
    (persistBatch faults i inbox es).1 ≤ es.length ∧
      (∀ e ∈ es.take (persistBatch faults i inbox es).1,
        ∃ f ∈ (persistBatch faults i inbox es).2, f.stem = eventStem e) ∧
      (∀ f ∈ inbox, f ∈ (persistBatch faults i inbox es).2) ∧
      ∀ f ∈ (persistBatch faults i inbox es).2, f ∈ inbox ∨
        ∃ e ∈ es.take (persistBatch faults i inbox es).1, f = ⟨eventStem e,e.frame⟩ := by
  induction es generalizing i inbox with
  | nil => exact ⟨Nat.zero_le _,by simp [persistBatch],fun _ hf => hf,fun _ hf => .inl hf⟩
  | cons e es ih =>
    cases hpersist : persistEvent (faults i) inbox e with
    | error err =>
      have hbatch : persistBatch faults i inbox (e :: es) = (0,inbox) := by
        simp [persistBatch,hpersist]
      rw [hbatch]
      exact ⟨Nat.zero_le _,by simp,fun _ hf => hf,fun _ hf => .inl hf⟩
    | ok inbox' =>
      obtain ⟨hlength,hplaced,hkept,hfiles⟩ := ih (i + 1) inbox'
      obtain ⟨⟨f,hf,hstem⟩,hkept',hfiles'⟩ := persistEvent_ok hpersist
      have hbatch : persistBatch faults i inbox (e :: es) =
          ((persistBatch faults (i + 1) inbox' es).1 + 1,
            (persistBatch faults (i + 1) inbox' es).2) := by
        simp [persistBatch,hpersist]
      rw [hbatch]
      refine ⟨by simpa using hlength,?_,fun f hf => hkept f (hkept' f hf),?_⟩
      · intro e' he'
        rw [List.take_succ_cons,List.mem_cons] at he'
        obtain rfl | he' := he'
        · exact ⟨f,hkept f hf,hstem⟩
        · exact hplaced e' he'
      · intro g hg
        rw [List.take_succ_cons]
        obtain hg | ⟨e',he',rfl⟩ := hfiles g hg
        · obtain hold | rfl := hfiles' g hg
          · exact .inl hold
          · exact .inr ⟨e,List.mem_cons_self,rfl⟩
        · exact .inr ⟨e',List.mem_cons_of_mem _ he',rfl⟩

theorem Filed.step {initial : List EventFile} {l : EventLedger} (h : l.Filed initial)
    (call : FeedCall) : (l.step call).Filed initial := by
  cases call with
  | enqueue nowMs body => exact ⟨h.placed,h.files⟩
  | flush maxItems faults =>
    obtain ⟨hlength,hplaced,hkept,hfiles⟩ := persistBatch_files faults 0 l.inbox
      (l.feed.events.take (min l.feed.events.length maxItems.toNat))
    have htake : ∀ n, n ≤ (l.feed.events.take
        (min l.feed.events.length maxItems.toNat)).length →
        (l.feed.events.take (min l.feed.events.length maxItems.toNat)).take n =
          l.feed.events.take n := by
      intro n hn
      rw [List.length_take] at hn
      rw [List.take_take]
      congr 1
      omega
    rw [htake _ hlength] at hplaced hfiles
    refine ⟨fun e he => ?_,fun f hf => ?_⟩
    · obtain hold | hnew := List.mem_append.mp he
      · obtain ⟨f,hf,hstem⟩ | htaken := h.placed e hold
        · exact .inl ⟨f,hkept f hf,hstem⟩
        · exact .inr htaken
      · exact .inl (hplaced e hnew)
    · obtain hold | ⟨e,he,rfl⟩ := hfiles f hf
      · obtain hinitial | ⟨e,he,rfl⟩ := h.files f hold
        · exact .inl hinitial
        · exact .inr ⟨e,List.mem_append_left _ he,rfl⟩
      · exact .inr ⟨e,List.mem_append_right _ he,rfl⟩
  | taken stem =>
    refine ⟨fun e he => ?_,fun f hf => h.files f (List.mem_of_mem_filter hf)⟩
    obtain ⟨f,hf,hstem⟩ | htaken := h.placed e he
    · by_cases heq : f.stem = stem
      · exact .inr (by simp [EventLedger.step,← hstem,heq])
      · exact .inl ⟨f,List.mem_filter.mpr ⟨hf,by simpa using heq⟩,hstem⟩
    · exact .inr (List.mem_cons_of_mem _ htaken)

end EventLedger

namespace IngressBuffer

/-- `ingest_frame` on each frame in turn: the results, where it returns one. -/
def ingestFrames (b : IngressBuffer) : List Raw → List IngressResult
  | [] => []
  | raw :: rest =>
    match decodeTransportFrame raw with
    | .error _ => b.ingestFrames rest
    | .ok e =>
      match b.ingest e with
      | (.error _,b') => b'.ingestFrames rest
      | (.ok r,b') => r :: b'.ingestFrames rest

/-- An event that passes the identity checks and is not behind the cursor: it is a gap when
the cursor is in its session, past its start, and not at the event before. -/
theorem ingest_ahead {b : IngressBuffer} {e : QmtEvent} (hpos : 0 < e.sequence)
    (hahead : ¬b.Behind e)
    (hadmits : admits b.expectedAccountFingerprint b.expectedTerminalInstanceId e = true) :
    ∃ r b', b.ingest e = (.ok r,b') ∧ r.event = e ∧
      (r.disposition = .gap ↔ b.sessionId = some e.sessionId ∧ b.lastSequence ≠ 0 ∧
        e.sequence ≠ b.lastSequence + 1) ∧
      b'.sessionId = some e.sessionId ∧ b'.lastSequence = e.sequence ∧
      b'.expectedAccountFingerprint = some e.accountFingerprint ∧
      b'.expectedTerminalInstanceId = b.expectedTerminalInstanceId := by
  have hpin := pin_admits hadmits
  refine ⟨_,_,by rw [ingest,hpin],?_⟩
  by_cases hs : b.sessionId = some e.sessionId
  · have hlt : ¬e.sequence ≤ b.lastSequence := fun hle => hahead ⟨hs,hle⟩
    simp only [enter,hs,if_true,advance,hlt,if_false,isGap]
    simp
  · have hlt : ¬e.sequence ≤ 0 := by omega
    simp only [enter,hs,if_false,advance,hlt,isGap]
    simp

/-- One result of a session after the other: the later one is a gap exactly when a number
between them is missing. -/
def Consecutive (r r' : IngressResult) : Prop :=
  r.event.sequence < r'.event.sequence ∧
    (r'.disposition = .gap ↔ r'.event.sequence ≠ r.event.sequence + 1)

/-- The events whose frames are read back. -/
def readable (es : List QmtEvent) : List QmtEvent :=
  es.filterMap (fun e => (decodeTransportFrame e.frame).toOption)

theorem ingestFrames_unread {b : IngressBuffer} {raw : Raw} {rest : List Raw} {err : PyError}
    (h : decodeTransportFrame raw = .error err) :
    b.ingestFrames (raw :: rest) = b.ingestFrames rest := by
  simp only [ingestFrames,h]

theorem ingestFrames_refused {b b' : IngressBuffer} {raw : Raw} {rest : List Raw} {e : QmtEvent}
    {err : IngressIdentityError} (h : decodeTransportFrame raw = .ok e)
    (hingest : b.ingest e = (.error err,b')) :
    b.ingestFrames (raw :: rest) = b'.ingestFrames rest := by
  simp only [ingestFrames,h,hingest]

theorem ingestFrames_ok {b b' : IngressBuffer} {raw : Raw} {rest : List Raw} {e : QmtEvent}
    {r : IngressResult} (h : decodeTransportFrame raw = .ok e) (hingest : b.ingest e = (.ok r,b')) :
    b.ingestFrames (raw :: rest) = r :: b'.ingestFrames rest := by
  simp only [ingestFrames,h,hingest]

theorem readable_unread {e : QmtEvent} {es : List QmtEvent} {err : PyError}
    (h : decodeTransportFrame e.frame = .error err) : readable (e :: es) = readable es := by
  simp only [readable,List.filterMap_cons,h,Except.toOption]

theorem readable_ok {e e' : QmtEvent} {es : List QmtEvent}
    (h : decodeTransportFrame e.frame = .ok e') : readable (e :: es) = e' :: readable es := by
  simp only [readable,List.filterMap_cons,h,Except.toOption]

variable {session : String}

/-- Frames of a session in order, after the cursor is in the session. -/
theorem ingestFrames_after {b : IngressBuffer} {r : IngressResult} {es : List QmtEvent}
    (hsession : b.sessionId = some session) (hcursor : b.lastSequence = r.event.sequence)
    (hpos : 0 < r.event.sequence) (hes : ∀ e ∈ es, e.sessionId = session)
    (hlater : ∀ e ∈ es, r.event.sequence < e.sequence)
    (hinc : es.Pairwise (fun e e' => e.sequence < e'.sequence)) :
    (b.ingestFrames (es.map QmtEvent.frame)).map IngressResult.event =
        admitted b.expectedAccountFingerprint b.expectedTerminalInstanceId (readable es) ∧
      (r :: b.ingestFrames (es.map QmtEvent.frame)).IsChain Consecutive := by
  induction es generalizing b r with
  | nil => exact ⟨rfl,.singleton _⟩
  | cons e es ih =>
    obtain ⟨hfirst,hrest⟩ := List.pairwise_cons.mp hinc
    have hes' : ∀ e ∈ es, e.sessionId = session := fun x hx => hes x (List.mem_cons_of_mem _ hx)
    have hlater' : ∀ e ∈ es, r.event.sequence < e.sequence :=
      fun x hx => hlater x (List.mem_cons_of_mem _ hx)
    have he : e.sessionId = session := hes e List.mem_cons_self
    have hlt := hlater e List.mem_cons_self
    cases hdecode : decodeTransportFrame e.frame with
    | error err =>
      rw [List.map_cons,ingestFrames_unread hdecode,readable_unread hdecode]
      exact ih hsession hcursor hpos hes' hlater' hrest
    | ok e' =>
      obtain rfl := decode_frame_eq hdecode
      have hahead : ¬b.Behind e' := by
        rintro ⟨-,hle⟩
        omega
      by_cases hadmits :
          admits b.expectedAccountFingerprint b.expectedTerminalInstanceId e' = true
      · obtain ⟨r',b',hingest,rfl,hgap,hsession',hcursor',haccount,hterminal⟩ :=
          ingest_ahead (by omega) hahead hadmits
        obtain ⟨hevents,hchain⟩ := ih (hsession'.trans (by rw [he])) hcursor' (by omega) hes'
          hfirst hrest
        have hnext : Consecutive r r' := by
          refine ⟨hlt,hgap.trans ?_⟩
          rw [hsession,he,hcursor]
          refine ⟨fun h => h.2.2,fun h => ⟨rfl,by omega,h⟩⟩
        rw [List.map_cons,ingestFrames_ok hdecode hingest,readable_ok hdecode,admitted,
          if_pos hadmits,List.map_cons,hevents,haccount,hterminal]
        exact ⟨rfl,.cons_cons hnext hchain⟩
      · obtain ⟨err,hrefused⟩ := ingest_refused (by simpa using hadmits)
        rw [List.map_cons,ingestFrames_refused hdecode hrefused,readable_ok hdecode,admitted,
          if_neg hadmits]
        exact ih hsession hcursor hpos hes' hlater' hrest

/-- Frames of a session in order, from its first one. -/
theorem ingestFrames_session {b : IngressBuffer} {es : List QmtEvent}
    (hsession : b.sessionId ≠ some session) (hes : ∀ e ∈ es, e.sessionId = session)
    (hinc : es.Pairwise (fun e e' => e.sequence < e'.sequence)) :
    (b.ingestFrames (es.map QmtEvent.frame)).map IngressResult.event =
        admitted b.expectedAccountFingerprint b.expectedTerminalInstanceId (readable es) ∧
      (b.ingestFrames (es.map QmtEvent.frame)).IsChain Consecutive := by
  induction es with
  | nil => exact ⟨rfl,.nil⟩
  | cons e es ih =>
    obtain ⟨hfirst,hrest⟩ := List.pairwise_cons.mp hinc
    have hes' : ∀ e ∈ es, e.sessionId = session := fun x hx => hes x (List.mem_cons_of_mem _ hx)
    have he : e.sessionId = session := hes e List.mem_cons_self
    cases hdecode : decodeTransportFrame e.frame with
    | error err =>
      rw [List.map_cons,ingestFrames_unread hdecode,readable_unread hdecode]
      exact ih hes' hrest
    | ok e' =>
      have hpos : 0 < e'.sequence := (QmtEvent.valid_of_decode hdecode).sequence
      obtain rfl := decode_frame_eq hdecode
      have hahead : ¬b.Behind e' := by
        rintro ⟨hs,-⟩
        exact hsession (hs.trans (by rw [he]))
      by_cases hadmits :
          admits b.expectedAccountFingerprint b.expectedTerminalInstanceId e' = true
      · obtain ⟨r',b',hingest,rfl,-,hsession',hcursor',haccount,hterminal⟩ :=
          ingest_ahead hpos hahead hadmits
        obtain ⟨hevents,hchain⟩ := ingestFrames_after (hsession'.trans (by rw [he])) hcursor' hpos
          hes' hfirst hrest
        rw [List.map_cons,ingestFrames_ok hdecode hingest,readable_ok hdecode,admitted,
          if_pos hadmits,List.map_cons,hevents,haccount,hterminal]
        exact ⟨rfl,hchain⟩
      · obtain ⟨err,hrefused⟩ := ingest_refused (by simpa using hadmits)
        rw [List.map_cons,ingestFrames_refused hdecode hrefused,readable_ok hdecode,admitted,
          if_neg hadmits]
        exact ih hes' hrest

end IngressBuffer

namespace EventLedger

/-- What holds of a ledger between any two calls. -/
structure Kept (session : String) (initial : List EventFile) (l : EventLedger) : Prop where
  accounted : l.Accounted
  ours : l.Ours session
  filed : l.Filed initial

theorem Kept.run {session : String} {initial : List EventFile} {l : EventLedger}
    (h : l.Kept session initial) (calls : List FeedCall) : (l.run calls).Kept session initial := by
  induction calls generalizing l with
  | nil => exact h
  | cons call calls ih =>
    exact ih ⟨h.accounted.step call,h.ours.step call,h.filed.step call⟩

theorem kept_start (session : String) (inbox : List EventFile) :
    (start session inbox).Kept session inbox :=
  ⟨accounted_start session inbox,⟨rfl,by simp [start,EventFeed.start]⟩,
    ⟨by simp [start],fun _ hf => .inl hf⟩⟩

/-- In every run of the two calls each number issued is persisted, waiting or dropped, and
only one of these; and a cursor that is given the persisted events tells a gap at the first
one above a dropped number, unless it has seen none below. -/
theorem event_accounting (session : String) (inbox : List EventFile) (calls : List FeedCall) :
    ((start session inbox).run calls).Accounted ∧
      ((start session inbox).run calls).Filed inbox ∧
      ∀ b : IngressBuffer, b.sessionId ≠ some session →
        (b.ingestFrames (((start session inbox).run calls).persisted.map QmtEvent.frame)).map
            IngressResult.event =
          admitted b.expectedAccountFingerprint b.expectedTerminalInstanceId
            (IngressBuffer.readable ((start session inbox).run calls).persisted) ∧
        ∀ pre r post,
          b.ingestFrames (((start session inbox).run calls).persisted.map QmtEvent.frame) =
            pre ++ r :: post →
          ∀ d ∈ ((start session inbox).run calls).dropped, pre ≠ [] →
            (∀ r' ∈ pre, r'.event.sequence < d.sequence) → d.sequence < r.event.sequence →
              r.disposition = .gap := by
  have hkept := (kept_start session inbox).run calls
  refine ⟨hkept.accounted,hkept.filed,fun b hb => ?_⟩
  have hinc := (List.pairwise_append.mp hkept.accounted.increasing).1
  obtain ⟨hevents,hchain⟩ := IngressBuffer.ingestFrames_session hb
    (fun e he => hkept.ours.events e (List.mem_append_left _ he)) hinc
  refine ⟨hevents,fun pre r post hsplit d _ hpre hbelow habove => ?_⟩
  obtain rfl | ⟨older,last,rfl⟩ := pre.eq_nil_or_concat
  · exact absurd rfl hpre
  · have hlast := hbelow last (by simp)
    rw [hsplit,List.concat_eq_append,List.append_assoc] at hchain
    have hnext : IngressBuffer.Consecutive last r :=
      (List.isChain_append_cons_cons.mp hchain).2.1
    exact hnext.2.mpr (by omega)

/-- An event is persisted, the next one is lost to a full queue, and two more are persisted. -/
def overflowCalls : List FeedCall :=
  [.enqueue 1700000000000 (samplePosition "" 1),.flush 64 (fun _ => {})] ++
    List.replicate 513 (.enqueue 1700000000000 (samplePosition "" 1)) ++ [.flush 2 (fun _ => {})]

def overflowResults : List IngressResult :=
  (IngressBuffer.fresh none none).ingestFrames
    (((start "session-a" []).run overflowCalls).persisted.map QmtEvent.frame)

theorem run_append (l : EventLedger) (xs ys : List FeedCall) :
    l.run (xs ++ ys) = (l.run xs).run ys := List.foldl_append

/-- The same callback again and again, while the queue has room. -/
def fill (l : EventLedger) (nowMs : Nat) (body : QmtEvent) (n : Nat) : EventLedger :=
  { l with feed := { l.feed with
      sequence := l.feed.sequence + n
      events := l.feed.events ++ (List.range n).map fun i : Nat =>
        { l.feed.event nowMs body with sequence := (l.feed.sequence : Int) + i + 1 } } }

theorem run_fill (l : EventLedger) (nowMs : Nat) (body : QmtEvent) {n : Nat}
    (h : l.feed.events.length + n ≤ maxQueuedEvents) :
    l.run (List.replicate n (.enqueue nowMs body)) = l.fill nowMs body n := by
  induction n with
  | zero => simp [run,fill]
  | succ n ih =>
    have hroom : ¬maxQueuedEvents ≤ (l.fill nowMs body n).feed.events.length := by
      simp [fill]
      omega
    rw [List.replicate_succ',run_append,ih (by omega)]
    change (l.fill nowMs body n).enqueue nowMs body = _
    rw [enqueue_eq,if_neg hroom]
    simp [number,fill,EventFeed.event,List.range_succ]
    omega

theorem overflow_run : (start "session-a" []).run overflowCalls =
    (((start "session-a" []).run [.enqueue 1700000000000 (samplePosition "" 1),
      .flush 64 (fun _ => {})]).fill 1700000000000 (samplePosition "" 1) 512).run
        [.enqueue 1700000000000 (samplePosition "" 1),.flush 2 (fun _ => {})] := by
  have hlast (call : FeedCall) : List.replicate 513 call = List.replicate 512 call ++ [call] :=
    List.replicate_succ'
  rw [← run_fill _ _ _ (by decide +kernel),← run_append,← run_append,overflowCalls,hlast]
  simp only [List.append_assoc,List.singleton_append]

theorem event_accounting_overflow :
    (overflowResults[1]?).map IngressResult.disposition = some .gap := by
  have hrun : (overflowResults.map (fun r => r.event.sequence),
      ((start "session-a" []).run overflowCalls).dropped.map QmtEvent.sequence) =
      ([1,3,4],[2]) := by
    unfold overflowResults
    rw [overflow_run]
    decide +kernel
  obtain ⟨hnumbers,hdropped⟩ := Prod.mk.inj hrun
  obtain ⟨d,hd,hnumber⟩ := List.map_eq_singleton_iff.mp hdropped
  have hgap := ((event_accounting "session-a" [] overflowCalls).2.2 (.fresh none none) (by simp
    [IngressBuffer.fresh])).2
  cases hresults : overflowResults with
  | nil => simp [hresults] at hnumbers
  | cons a rest =>
    cases rest with
    | nil => simp [hresults] at hnumbers
    | cons r rest =>
      simp only [hresults,List.map_cons,List.cons.injEq] at hnumbers
      have hr := hgap [a] r rest hresults d (by simp [hd]) (by simp) (by simp; omega) (by omega)
      simp [hr]

end EventLedger
end BigQmt
