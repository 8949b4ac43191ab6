import Mathlib.Data.String.Basic
import BigQmt.EventRetry
import BigQmt.Padded
set_option autoImplicit false

/-!
The event queue of the Bridge, its files in the spool, and the order in which
the Host presents them.
-/

namespace BigQmt

/-- The part of `_STATE` that events go through; `sessions` are the ids used so far. -/
structure EventFeed where
  sessionId : String
  sequence : Nat
  events : List QmtEvent
  droppedEvents : Nat
  sessions : List String
  deriving DecidableEq

def maxQueuedEvents : Nat := 512

namespace EventFeed

def start (session : String) : EventFeed := ⟨session,0,[],0,[session]⟩

/-- `_event`: the rest of the event is the caller's and the configuration's. -/
def event (s : EventFeed) (nowMs : Nat) (body : QmtEvent) : QmtEvent :=
  { body with
    sessionId := s.sessionId
    sequence := (s.sequence : Int) + 1
    timestampMs := nowMs }

/-- `_enqueue`: a full queue loses its oldest event. -/
def enqueue (s : EventFeed) (nowMs : Nat) (body : QmtEvent) : EventFeed :=
  let e := s.event nowMs body
  if maxQueuedEvents ≤ s.events.length then
    { s with
      sequence := s.sequence + 1
      events := s.events.tail ++ [e]
      droppedEvents := s.droppedEvents + 1 }
  else { s with sequence := s.sequence + 1,events := s.events ++ [e] }

/-- A new Bridge process: a session id of its own, and nothing queued. -/
def restart (s : EventFeed) (session : String) : EventFeed :=
  if session ∈ s.sessions then s
  else ⟨session,0,[],0,s.sessions ++ [session]⟩

end EventFeed

/-- `_event_filename` without its suffix. -/
def eventStem (e : QmtEvent) : String :=
  String.ofList (Padded.decimal 13 e.timestampMs.toNat ++ '_' :: e.sessionId.toList ++
    '_' :: Padded.decimal 20 e.sequence.toNat)

/-- The Bridge and the Host with the spool between them. -/
structure Line where
  feed : EventFeed
  host : Host

/-- A callback queues an event at a clock reading, `flush_transport` comes to the
head of the queue and may fail to write it, the Bridge restarts, the Host polls. -/
inductive LineMove where
  | enqueue (nowMs : Nat) (body : QmtEvent)
  | persist (fault : Bool)
  | restart (session : String)
  | poll (maxFiles : Nat)
  | next (c : FileChoice)

namespace Line

def start (session : String) (ingress : IngressBuffer) (ingestion : HostIngestion) : Line :=
  ⟨.start session,.start ingress ingestion ⟨[],[],[],[]⟩⟩

/-- `_persist_event` on the head of the queue: a file of that name is taken for it. -/
def persist (l : Line) : Line :=
  match l.feed.events with
  | [] => l
  | e :: rest =>
    match encodeTransportFrame e with
    | .error _ => l
    | .ok raw => ⟨{ l.feed with events := rest },l.host.arrive ⟨eventStem e,raw⟩⟩

def step (l : Line) : LineMove → Line
  | .enqueue nowMs body => { l with feed := l.feed.enqueue nowMs body }
  | .persist fault => if fault then l else l.persist
  | .restart session => { l with feed := l.feed.restart session }
  | .poll maxFiles => { l with host := l.host.poll maxFiles }
  | .next c => { l with host := l.host.next c }

def run (l : Line) (ms : List LineMove) : Line := ms.foldl step l

end Line

/-- The event a file holds. -/
def EventFile.event? (f : EventFile) : Option QmtEvent := (decodeTransportFrame f.raw).toOption

/-- Two waiting files of a session carry their timestamps in the order of their
sequences, and the numbers fit their fields in the name. -/
def InTime (f g : EventFile) : Prop :=
  ∀ e ∈ f.event?, ∀ e' ∈ g.event?, e.sessionId = e'.sessionId → e.sequence < e'.sequence →
    e.timestampMs ≤ e'.timestampMs ∧ e'.timestampMs < 10 ^ 13 ∧ e'.sequence < 10 ^ 20

instance (f g : EventFile) : Decidable (InTime f g) :=
  inferInstanceAs (Decidable (∀ e ∈ f.event?, ∀ e' ∈ g.event?,_ → _ → _ ∧ _ ∧ _))

/-- A poll finds the waiting files of each session in time. -/
def Line.Timely (l : Line) : LineMove → Prop
  | .poll _ => ∀ f ∈ l.host.spool.inbox, ∀ g ∈ l.host.spool.inbox, InTime f g
  | _ => True

instance (l : Line) : (m : LineMove) → Decidable (l.Timely m)
  | .poll _ => inferInstanceAs (Decidable (∀ f ∈ _, ∀ g ∈ _,InTime f g))
  | .enqueue _ _ | .persist _ | .restart _ | .next _ => inferInstanceAs (Decidable True)

/-- No event is presented after a later one of its session; the newest is first. -/
def InOrder (attempts : List Attempt) : Prop :=
  attempts.Pairwise (fun a b => ∀ e ∈ a.event, ∀ e' ∈ b.event,
    e.sessionId = e'.sessionId → e'.sequence ≤ e.sequence)

def Attempt.duplicate (a : Attempt) : Bool :=
  match a.answer with
  | some (.ok r) => r.disposition = .duplicate
  | _ => false

/-- The event was accepted by this attempt. -/
def Attempt.accepts (a : Attempt) (e : QmtEvent) : Prop :=
  a.event.any (fun x => x.number = e.number) = true ∧
    (a.answer.bind acceptedEvent).isSome = true

/-- What is answered `DUPLICATE` was accepted before. -/
def TrueDuplicates : List Attempt → Prop
  | [] => True
  | a :: older =>
    (a.duplicate = true → ∀ e ∈ a.event, ∃ b ∈ older, b.accepts e) ∧ TrueDuplicates older

instance (a : Attempt) (e : QmtEvent) : Decidable (a.accepts e) :=
  inferInstanceAs (Decidable (_ ∧ _))

instance decidableTrueDuplicates : (attempts : List Attempt) → Decidable (TrueDuplicates attempts)
  | [] => inferInstanceAs (Decidable True)
  | a :: older =>
    have := decidableTrueDuplicates older
    inferInstanceAs (Decidable ((a.duplicate = true → ∀ e ∈ a.event, ∃ b ∈ older, b.accepts e) ∧
      TrueDuplicates older))

instance (attempts : List Attempt) : Decidable (InOrder attempts) :=
  inferInstanceAs (Decidable (attempts.Pairwise _))

theorem eventStem_toList (e : QmtEvent) : (eventStem e).toList =
    Padded.decimal 13 e.timestampMs.toNat ++ (('_' :: e.sessionId.toList ++ ['_']) ++
      Padded.decimal 20 e.sequence.toNat) := by
  simp [eventStem]

/-- A later event of the session sorts later, unless its timestamp went back. -/
theorem eventStem_lt {e e' : QmtEvent} (hsession : e.sessionId = e'.sessionId)
    (hpos : 0 < e.timestampMs) (hpos' : 0 < e.sequence) (hseq : e.sequence < e'.sequence)
    (htime : e.timestampMs ≤ e'.timestampMs) (hts : e'.timestampMs < 10 ^ 13)
    (hsq : e'.sequence < 10 ^ 20) (suffix : String) :
    eventStem e ++ suffix < eventStem e' ++ suffix := by
  have hts' : e'.timestampMs.toNat < 10 ^ 13 := by omega
  have hsq' : e'.sequence.toNat < 10 ^ 20 := by omega
  rw [String.lt_iff,String.toList_append,String.toList_append,eventStem_toList,eventStem_toList]
  by_cases heq : e.timestampMs = e'.timestampMs
  · have hlt := @Padded.decimal_lt 20 _ _ (by omega)
      (show e.sequence.toNat < e'.sequence.toNat by omega) hsq'
    rw [heq,hsession]
    refine Padded.append_lt ?_ (List.append_left_lt (List.append_left_lt hlt)) _ _
    simp [Padded.decimal_length (by omega) hsq',
      Padded.decimal_length (by omega) (show e.sequence.toNat < 10 ^ 20 by omega)]
  · have hlt := @Padded.decimal_lt 13 _ _ (by omega)
      (show e.timestampMs.toNat < e'.timestampMs.toNat by omega) hts'
    simp only [List.append_assoc]
    refine Padded.append_lt ?_ hlt _ _
    rw [Padded.decimal_length (by omega) (by omega),Padded.decimal_length (by omega) hts']

namespace Line

/-- The event is in a waiting file, or was presented. -/
def Seen (l : Line) (e : QmtEvent) : Prop :=
  (∃ f ∈ l.host.spool.inbox, e ∈ f.event?) ∨ ∃ a ∈ l.host.attempts, e ∈ a.event

/-- What holds of the queue and of the files it was written to. -/
structure Queued (l : Line) : Prop where
  named : ∀ f ∈ l.host.spool.inbox, ∀ e ∈ f.event?, f.stem = eventStem e
  single : (l.host.spool.inbox.map EventFile.stem).Nodup
  own : ∀ e ∈ l.feed.events, e.sessionId = l.feed.sessionId ∧ e.sequence ≤ l.feed.sequence
  ascending : l.feed.events.Pairwise (fun e e' => e.sequence < e'.sequence)
  current : l.feed.sessionId ∈ l.feed.sessions
  known : ∀ e, l.Seen e → e.sessionId ∈ l.feed.sessions
  past : ∀ e, l.Seen e → e.sessionId = l.feed.sessionId → e.sequence ≤ l.feed.sequence
  ahead : ∀ e, l.Seen e → e.sessionId = l.feed.sessionId →
    ∀ x ∈ l.feed.events, e.sequence < x.sequence

theorem Queued.enqueue {l : Line} (h : l.Queued) (nowMs : Nat) (body : QmtEvent) :
    (l.step (.enqueue nowMs body)).Queued := by
  have hseen : ∀ e, (l.step (.enqueue nowMs body)).Seen e ↔ l.Seen e := fun _ => Iff.rfl
  have hkept : ∃ kept, kept.Sublist l.feed.events ∧
      (l.step (.enqueue nowMs body)).feed.events = kept ++ [l.feed.event nowMs body] := by
    simp only [step,EventFeed.enqueue]
    split
    · exact ⟨_,List.tail_sublist _,rfl⟩
    · exact ⟨_,List.Sublist.refl _,rfl⟩
  have hsession : (l.step (.enqueue nowMs body)).feed.sessionId = l.feed.sessionId := by
    simp only [step,EventFeed.enqueue]
    split <;> rfl
  have hsessions : (l.step (.enqueue nowMs body)).feed.sessions = l.feed.sessions := by
    simp only [step,EventFeed.enqueue]
    split <;> rfl
  have hsequence : (l.step (.enqueue nowMs body)).feed.sequence = l.feed.sequence + 1 := by
    simp only [step,EventFeed.enqueue]
    split <;> rfl
  have hnew : (l.feed.event nowMs body).sequence = (l.feed.sequence : Int) + 1 := rfl
  obtain ⟨kept,hsub,hevents⟩ := hkept
  constructor
  · exact h.named
  · exact h.single
  · intro e he
    rw [hevents,List.mem_append,List.mem_singleton] at he
    rw [hsession,hsequence]
    obtain he | rfl := he
    · have hown := h.own e (hsub.mem he)
      exact ⟨hown.1,by have := hown.2; omega⟩
    · exact ⟨rfl,by omega⟩
  · rw [hevents,List.pairwise_append]
    refine ⟨h.ascending.sublist hsub,by simp,fun e he x hx => ?_⟩
    have hle := (h.own e (hsub.mem he)).2
    rw [List.mem_singleton.mp hx]
    omega
  · rw [hsession,hsessions]
    exact h.current
  · intro e he
    rw [hsessions]
    exact h.known e he
  · intro e he hs
    rw [hsession] at hs
    rw [hsequence]
    have := h.past e he hs
    omega
  · intro e he hs x hx
    rw [hsession] at hs
    rw [hevents,List.mem_append,List.mem_singleton] at hx
    obtain hx | rfl := hx
    · exact h.ahead e he hs x (hsub.mem hx)
    · have := h.past e he hs
      omega

theorem Queued.restart {l : Line} (h : l.Queued) (session : String) :
    (l.step (.restart session)).Queued := by
  by_cases hused : session ∈ l.feed.sessions
  · have hsame : l.step (.restart session) = l := by simp [step,EventFeed.restart,hused]
    rwa [hsame]
  · have hfeed : l.step (.restart session) =
        { l with feed := ⟨session,0,[],0,l.feed.sessions ++ [session]⟩ } := by
      simp [step,EventFeed.restart,hused]
    rw [hfeed]
    have hfresh : ∀ e, l.Seen e → e.sessionId ≠ session := fun e he heq => hused (heq ▸ h.known e he)
    constructor
    · exact h.named
    · exact h.single
    · simp
    · simp
    · simp
    · intro e he
      exact List.mem_append_left _ (h.known e he)
    · intro e he hs
      exact absurd hs (hfresh e he)
    · simp

theorem EventFile.event?_eq {f : EventFile} {e : QmtEvent} :
    e ∈ f.event? ↔ decodeTransportFrame f.raw = .ok e := by
  unfold EventFile.event?
  generalize decodeTransportFrame f.raw = x
  cases x <;> simp [Except.toOption]

theorem event?_frame {e e' : QmtEvent} (h : e' ∈ (EventFile.mk (eventStem e) e.frame).event?) :
    e' = e := by
  have hd := EventFile.event?_eq.mp h
  exact @decode_frame_eq e e' hd

/-- What one write does: nothing, or the head of the queue leaves it, and its file
is in the inbox unless the name was taken. -/
theorem persist_cases (l : Line) : l.persist = l ∨
    ∃ e rest, l.feed.events = e :: rest ∧
      (l.persist = { l with feed := { l.feed with events := rest } } ∨
        l.host.spool.holds (eventStem e) = false ∧
        l.persist = ⟨{ l.feed with events := rest },{ l.host with spool := { l.host.spool with
          inbox := l.host.spool.inbox ++ [⟨eventStem e,e.frame⟩] } }⟩) := by
  cases hq : l.feed.events with
  | nil => exact .inl (by simp [persist,hq])
  | cons e rest =>
    cases henc : encodeTransportFrame e with
    | error err => exact .inl (by simp [persist,hq,henc])
    | ok raw =>
      obtain ⟨hraw,-⟩ := encodeTransportFrame_ok henc
      rw [hraw] at henc
      refine .inr ⟨e,rest,rfl,?_⟩
      have hpersist : l.persist = ⟨{ l.feed with events := rest },
          l.host.arrive ⟨eventStem e,e.frame⟩⟩ := by simp [persist,hq,henc]
      rw [hpersist]
      by_cases hheld : l.host.spool.holds (eventStem e) = true
      · exact .inl (by simp [Host.arrive,hheld])
      · exact .inr ⟨by simpa using hheld,by simp [Host.arrive,hheld]⟩

theorem Queued.pop {l : Line} (h : l.Queued) {e : QmtEvent} {rest : List QmtEvent}
    (hq : l.feed.events = e :: rest) :
    ({ l with feed := { l.feed with events := rest } } : Line).Queued where
  named := h.named
  single := h.single
  own x hx := h.own x (by simp [hq,hx])
  ascending := by
    have := h.ascending
    rw [hq] at this
    exact this.of_cons
  current := h.current
  known := h.known
  past := h.past
  ahead x hx hs y hy := h.ahead x hx hs y (by simp [hq,hy])

/-- The file of the head of the queue appears. -/
theorem Queued.written {l : Line} (h : l.Queued) {e : QmtEvent} {rest : List QmtEvent}
    (hq : l.feed.events = e :: rest) (hfree : l.host.spool.holds (eventStem e) = false) :
    (⟨{ l.feed with events := rest },{ l.host with spool := { l.host.spool with
      inbox := l.host.spool.inbox ++ [⟨eventStem e,e.frame⟩] } }⟩ : Line).Queued := by
  have hpop := h.pop hq
  have hown := h.own e (by simp [hq])
  have hhead : ∀ x ∈ rest, e.sequence < x.sequence := by
    have := h.ascending
    rw [hq,List.pairwise_cons] at this
    exact this.1
  have hseen : ∀ x, (⟨{ l.feed with events := rest },{ l.host with spool := { l.host.spool with
      inbox := l.host.spool.inbox ++ [⟨eventStem e,e.frame⟩] } }⟩ : Line).Seen x →
        l.Seen x ∨ x = e := by
    rintro x (⟨f,hf,hx⟩ | hx)
    · obtain hf | hf := List.mem_append.mp hf
      · exact .inl (.inl ⟨f,hf,hx⟩)
      · rw [List.mem_singleton.mp hf] at hx
        exact .inr (event?_frame hx)
    · exact .inl (.inr hx)
  refine ⟨?_,?_,hpop.own,hpop.ascending,h.current,?_,?_,?_⟩
  · intro f hf x hx
    obtain hf | hf := List.mem_append.mp hf
    · exact h.named f hf x hx
    · rw [List.mem_singleton.mp hf] at hx ⊢
      rw [event?_frame hx]
  · have hnew : eventStem e ∉ l.host.spool.inbox.map EventFile.stem := by
      intro hmem
      obtain ⟨f,hf,hs⟩ := List.mem_map.mp hmem
      have : l.host.spool.holds (eventStem e) = true :=
        List.any_eq_true.mpr ⟨f,hf,by simpa using hs⟩
      simp [hfree] at this
    simpa [List.nodup_append] using ⟨h.single,fun f hf heq => hnew (List.mem_map.mpr ⟨f,hf,heq⟩)⟩
  · intro x hx
    obtain hx | rfl := hseen x hx
    · exact h.known x hx
    · exact hown.1 ▸ h.current
  · intro x hx hs
    obtain hx | rfl := hseen x hx
    · exact h.past x hx hs
    · exact hown.2
  · intro x hx hs y hy
    obtain hx | rfl := hseen x hx
    · exact h.ahead x hx hs y (by simp [hq,hy])
    · exact hhead y hy

theorem Queued.mono {l l' : Line} (h : l.Queued) (hfeed : l'.feed = l.feed)
    (hsub : l'.host.spool.inbox.Sublist l.host.spool.inbox)
    (hseen : ∀ e, l'.Seen e → l.Seen e) : l'.Queued := by
  refine ⟨fun f hf => h.named f (hsub.mem hf),h.single.sublist (hsub.map _),?_,?_,?_,?_,?_,?_⟩
  · rw [hfeed]
    exact h.own
  · rw [hfeed]
    exact h.ascending
  · rw [hfeed]
    exact h.current
  · rw [hfeed]
    exact fun e he => h.known e (hseen e he)
  · rw [hfeed]
    exact fun e he => h.past e (hseen e he)
  · rw [hfeed]
    exact fun e he => h.ahead e (hseen e he)

end Line

theorem Host.Presentation.inbox {h h' : Host} {c : FileChoice} {f : EventFile} {rest : List String}
    {a : Attempt} (hp : Host.Presentation h c f rest h' a) :
    h'.spool.inbox.Sublist h.spool.inbox := by
  obtain ⟨-,hspool,-⟩ | ⟨target,-,hspool,-⟩ := hp.settled
  · rw [hspool]
  · rw [hspool,EventSpool.moveUnique_inbox]
    exact List.filter_sublist

theorem readDecoded_event {c : FileChoice} {f : EventFile} {e : QmtEvent}
    (h : Host.readDecoded c f = .ok e) : e ∈ f.event? := by
  unfold Host.readDecoded at h
  cases hc : c.unreadable with
  | true => simp [hc] at h
  | false =>
    rw [hc] at h
    exact Line.EventFile.event?_eq.mpr h

theorem Host.Presentation.event {h h' : Host} {c : FileChoice} {f : EventFile} {rest : List String}
    {a : Attempt} (hp : Host.Presentation h c f rest h' a) {e : QmtEvent} (he : e ∈ a.event) :
    e ∈ f.event? := by
  obtain ⟨-,hnone,-⟩ | ⟨e',hread,hevent,-⟩ := hp.read
  · simp [hnone] at he
  · rw [hevent,Option.mem_some_iff] at he
    subst he
    exact readDecoded_event hread

@[simp] theorem poll_spool (h : Host) (n : Nat) : (h.poll n).spool = h.spool := by
  unfold Host.poll
  split <;> rfl

@[simp] theorem poll_attempts (h : Host) (n : Nat) : (h.poll n).attempts = h.attempts := by
  unfold Host.poll
  split <;> rfl

@[simp] theorem poll_ingress (h : Host) (n : Nat) : (h.poll n).ingress = h.ingress := by
  unfold Host.poll
  split <;> rfl

theorem file?_some {s : EventSpool} {stem : String} {f : EventFile} (h : s.file? stem = some f) :
    f ∈ s.inbox ∧ f.stem = stem :=
  ⟨List.mem_of_find?_eq_some h,by simpa using List.find?_some h⟩

namespace Line

theorem Queued.next {l : Line} (h : l.Queued) (c : FileChoice) : (l.step (.next c)).Queued := by
  obtain ⟨-,heq⟩ | ⟨stem,rest,f,a,-,hf,hp⟩ := l.host.next_cases c
  · have hseen : ∀ e, (l.step (.next c)).Seen e → l.Seen e := by
      intro e he
      simpa [step,Seen,heq] using he
    exact h.mono rfl (by simp [step,heq]) hseen
  · refine h.mono rfl hp.inbox ?_
    rintro e (⟨g,hg,he⟩ | ⟨b,hb,he⟩)
    · exact .inl ⟨g,hp.inbox.mem hg,he⟩
    · have hb' : b ∈ a :: l.host.attempts := hp.attempts ▸ hb
      obtain rfl | hb' := List.mem_cons.mp hb'
      · exact .inl ⟨f,(file?_some hf).1,hp.event he⟩
      · exact .inr ⟨b,hb',he⟩

theorem Queued.step {l : Line} (h : l.Queued) (m : LineMove) : (l.step m).Queued := by
  cases m with
  | enqueue nowMs body => exact h.enqueue nowMs body
  | persist fault =>
    cases fault with
    | true => exact h
    | false =>
      change l.persist.Queued
      obtain heq | ⟨e,rest,hq,heq | ⟨hfree,heq⟩⟩ := l.persist_cases
      · rwa [heq]
      · rw [heq]
        exact h.pop hq
      · rw [heq]
        exact h.written hq hfree
  | restart session => exact h.restart session
  | poll maxFiles =>
    refine h.mono rfl (by simp [Line.step]) fun e he => ?_
    simpa [Line.step,Seen] using he
  | next c => exact h.next c

end Line

namespace Host

/-- What holds of the files still to come and of those presented. -/
structure Ordered (h : Host) : Prop where
  pendingHeld : ∀ stem ∈ h.pending, h.spool.holds stem = true
  pendingNodup : h.pending.Nodup
  pendingOrder : ∀ xs stem ys, h.pending = xs ++ stem :: ys →
    ∀ f ∈ h.spool.inbox, f.stem = stem → ∀ e ∈ f.event?,
    ∀ g ∈ h.spool.inbox, ∀ e' ∈ g.event?, e'.sessionId = e.sessionId →
      e'.sequence < e.sequence → g.stem ∈ xs
  after : ∀ a ∈ h.attempts, ∀ e ∈ a.event, ∀ f ∈ h.spool.inbox, ∀ e' ∈ f.event?,
    e.sessionId = e'.sessionId → e.sequence ≤ e'.sequence
  cursor : ∀ s, h.ingress.sessionId = some s → ∃ a ∈ h.attempts, ∃ e ∈ a.event,
    a.accepts e ∧ e.sessionId = s ∧ e.sequence = h.ingress.lastSequence
  inOrder : InOrder h.attempts
  duplicates : TrueDuplicates h.attempts

/-- Nothing is pending: what was presented stays in order. -/
theorem Ordered.idle {h : Host} (ho : h.Ordered) : ({ h with pending := [] } : Host).Ordered where
  pendingHeld := by simp
  pendingNodup := by simp
  pendingOrder := by simp
  after := ho.after
  cursor := ho.cursor
  inOrder := ho.inOrder
  duplicates := ho.duplicates

/-- The next file holds the lowest event of its session that waits. -/
theorem Ordered.lowest {h : Host} (ho : h.Ordered) {stem : String} {rest : List String}
    {f : EventFile} (hp : h.pending = stem :: rest) (hf : h.spool.file? stem = some f)
    {e : QmtEvent} (he : e ∈ f.event?) {g : EventFile} (hg : g ∈ h.spool.inbox) {e' : QmtEvent}
    (he' : e' ∈ g.event?) (hs : e'.sessionId = e.sessionId) : e.sequence ≤ e'.sequence := by
  by_contra hlt
  obtain ⟨hmem,hstem⟩ := file?_some hf
  have := ho.pendingOrder [] stem rest hp f hmem hstem e he g hg e' he' hs (by omega)
  simp at this

/-- The cursor stays at an accepted event. -/
theorem Presentation.cursor {h h' : Host} {c : FileChoice} {f : EventFile} {rest : List String}
    {a : Attempt} (hp : Presentation h c f rest h' a) (ho : h.Ordered) (s : String)
    (hs : h'.ingress.sessionId = some s) : ∃ b ∈ a :: h.attempts, ∃ e ∈ b.event,
      b.accepts e ∧ e.sessionId = s ∧ e.sequence = h'.ingress.lastSequence := by
  obtain ⟨-,-,-,hingress⟩ | ⟨e,hread,hevent,hanswer,hingress⟩ := hp.read
  · rw [hingress] at hs ⊢
    obtain ⟨b,hb,hrest⟩ := ho.cursor s hs
    exact ⟨b,List.mem_cons_of_mem _ hb,hrest⟩
  · have hans := h.ingress.ingest_answers (readDecoded_valid hread)
    rw [hingress] at hs ⊢
    revert hans hs hanswer
    generalize (h.ingress.ingest e).1 = answer,(h.ingress.ingest e).2 = b'
    intro hs hanswer hans
    cases hans with
    | refused =>
      obtain ⟨b,hb,hrest⟩ := ho.cursor s hs
      exact ⟨b,List.mem_cons_of_mem _ hb,hrest⟩
    | duplicate =>
      obtain ⟨b,hb,hrest⟩ := ho.cursor s hs
      exact ⟨b,List.mem_cons_of_mem _ hb,hrest⟩
    | @advanced r _ fresh kind event told session cursor =>
      refine ⟨a,List.mem_cons_self,e,by simp [hevent],⟨by simp [hevent],?_⟩,?_,cursor.symm⟩
      · simp [hanswer,acceptedEvent,kind]
      · rw [session] at hs
        exact Option.some.inj hs

/-- A duplicate is answered only to an event that was accepted. -/
theorem Presentation.duplicates {h h' : Host} {c : FileChoice} {f : EventFile} {rest : List String}
    {a : Attempt} (hp : Presentation h c f rest h' a) (ho : h.Ordered) {stem : String}
    (hf : h.spool.file? stem = some f) (hd : a.duplicate = true) {e : QmtEvent}
    (he : e ∈ a.event) : ∃ b ∈ h.attempts, b.accepts e := by
  obtain ⟨-,hnone,-⟩ | ⟨x,hread,hevent,hanswer,-⟩ := hp.read
  · simp [hnone] at he
  · rw [hevent,Option.mem_some_iff] at he
    subst he
    have hbehind : h.ingress.Behind x := by
      have hans := h.ingress.ingest_answers (readDecoded_valid hread)
      revert hans hanswer
      generalize (h.ingress.ingest x).1 = answer,(h.ingress.ingest x).2 = b'
      intro hanswer hans
      cases hans with
      | refused => simp [Attempt.duplicate,hanswer] at hd
      | duplicate hb => exact hb
      | advanced fresh kind => simp [Attempt.duplicate,hanswer,kind] at hd
    obtain ⟨b,hb,y,hy,⟨-,haccepted⟩,hs,hq⟩ := ho.cursor _ hbehind.1
    have hle := ho.after b hb y hy f (file?_some hf).1 x (readDecoded_event hread) hs
    have hseq : y.sequence = x.sequence := by
      have := hbehind.2
      omega
    refine ⟨b,hb,?_,haccepted⟩
    simp only [Option.mem_def] at hy
    simp [hy,QmtEvent.number,hs,hseq]

theorem Ordered.present {h h' : Host} {c : FileChoice} {f : EventFile} {stem : String}
    {rest : List String} {a : Attempt} (ho : h.Ordered) (hpending : h.pending = stem :: rest)
    (hf : h.spool.file? stem = some f) (hp : Presentation h c f rest h' a) : h'.Ordered := by
  have hrest : stem ∉ rest ∧ rest.Nodup := by
    have := ho.pendingNodup
    rw [hpending] at this
    exact List.nodup_cons.mp this
  have hstem : f.stem = stem := (file?_some hf).2
  constructor
  · intro s hs
    obtain ⟨-,-,hnone⟩ | ⟨target,-,hspool,hpend⟩ := hp.settled
    · simp [hnone] at hs
    · rw [hpend] at hs
      rw [hspool]
      refine holds_moveUnique (ho.pendingHeld s (by simp [hpending,hs])) ?_
      rintro rfl
      exact hrest.1 (hstem ▸ hs)
  · obtain ⟨-,-,hnone⟩ | ⟨target,-,-,hpend⟩ := hp.settled
    · simp [hnone]
    · rw [hpend]
      exact hrest.2
  · intro xs s ys hsplit g hg hgs e he g' hg' e' he' hsession hlt
    obtain ⟨-,-,hnone⟩ | ⟨target,-,hspool,hpend⟩ := hp.settled
    · simp [hnone] at hsplit
    · rw [hpend] at hsplit
      have hmem := ho.pendingOrder (stem :: xs) s ys (by rw [hpending,hsplit]; rfl) g
        (hp.inbox.mem hg) hgs e he g' (hp.inbox.mem hg') e' he' hsession hlt
      obtain heq | hmem := List.mem_cons.mp hmem
      · rw [hspool,EventSpool.moveUnique_inbox,List.mem_filter] at hg'
        simp [heq,hstem] at hg'
      · exact hmem
  · intro b hb e he g hg e' he' hs
    rw [hp.attempts] at hb
    obtain rfl | hb := List.mem_cons.mp hb
    · exact ho.lowest hpending hf (hp.event he) (hp.inbox.mem hg) he' hs.symm
    · exact ho.after b hb e he g (hp.inbox.mem hg) e' he' hs
  · intro s hs
    rw [hp.attempts]
    exact hp.cursor ho s hs
  · unfold InOrder
    rw [hp.attempts,List.pairwise_cons]
    refine ⟨fun b hb e he e' he' hs => ?_,ho.inOrder⟩
    exact ho.after b hb e' he' f (file?_some hf).1 e (hp.event he) hs.symm
  · rw [hp.attempts]
    exact ⟨fun hd e he => hp.duplicates ho hf hd he,ho.duplicates⟩

theorem Ordered.next {h : Host} (ho : h.Ordered) (c : FileChoice) : (h.next c).Ordered := by
  obtain ⟨-,heq⟩ | ⟨stem,rest,f,a,hpending,hf,hp⟩ := h.next_cases c
  · rw [heq]
    exact ho.idle
  · exact ho.present hpending hf hp

/-- What follows a name in the listing does not sort before it. -/
theorem listing_sorted (s : EventSpool) :
    s.listing.Pairwise (fun a b => a ++ ".json" ≤ b ++ ".json") := by
  have : Std.Total (fun a b : String => a ++ ".json" ≤ b ++ ".json") := ⟨fun _ _ => le_total _ _⟩
  have : IsTrans String (fun a b => a ++ ".json" ≤ b ++ ".json") := ⟨fun _ _ _ => le_trans⟩
  exact List.pairwise_insertionSort _ _

theorem mem_listing {s : EventSpool} {stem : String} :
    stem ∈ s.listing ↔ s.holds stem = true := by
  simp [EventSpool.listing,EventSpool.holds,List.mem_insertionSort]

theorem listing_before {s : EventSpool} {n : Nat} {xs ys : List String} {stem other : String}
    (h : s.listing.take n = xs ++ stem :: ys) (hother : s.holds other = true)
    (hlt : other ++ ".json" < stem ++ ".json") : other ∈ xs := by
  have hsplit : s.listing = xs ++ stem :: (ys ++ s.listing.drop n) := by
    rw [← List.cons_append,← List.append_assoc,← h,List.take_append_drop]
  have hsorted := listing_sorted s
  rw [hsplit,List.pairwise_append,List.pairwise_cons] at hsorted
  have hmem := mem_listing.mpr hother
  rw [hsplit,List.mem_append,List.mem_cons] at hmem
  obtain hmem | rfl | hmem := hmem
  · exact hmem
  · exact absurd hlt (lt_irrefl _)
  · exact absurd hlt (not_lt.mpr (hsorted.2.1.1 other hmem))

theorem event?_valid {f : EventFile} {e : QmtEvent} (h : e ∈ f.event?) : e.Valid :=
  QmtEvent.valid_of_decode (Line.EventFile.event?_eq.mp h)

theorem Ordered.poll {l : Line} (ho : l.host.Ordered) (hq : l.Queued) {n : Nat}
    (ht : l.Timely (.poll n)) : (l.host.poll n).Ordered := by
  by_cases hnone : l.host.pending = []
  · have hpoll : l.host.poll n = { l.host with pending := l.host.spool.listing.take n } :=
      if_pos hnone
    rw [hpoll]
    refine ⟨?_,?_,?_,ho.after,ho.cursor,ho.inOrder,ho.duplicates⟩
    · intro stem hs
      exact mem_listing.mp (List.mem_of_mem_take hs)
    · have hnodup : l.host.spool.listing.Nodup :=
        (List.perm_insertionSort _ _).nodup_iff.mpr hq.single
      exact hnodup.sublist (List.take_sublist _ _)
    · intro xs stem ys hsplit f hf hstem e he g hg e' he' hs hlt
      obtain ⟨htime,hts,hsq⟩ := ht g hg f hf e' he' e he hs hlt
      have hname := eventStem_lt hs (event?_valid he').timestampMs (event?_valid he').sequence hlt
        htime hts hsq ".json"
      rw [← hq.named g hg e' he',← hq.named f hf e he,hstem] at hname
      exact listing_before hsplit (List.any_eq_true.mpr ⟨g,hg,by simp⟩) hname
  · have hpoll : l.host.poll n = l.host := if_neg hnone
    rwa [hpoll]

/-- The file of the head of the queue comes after everything seen of its session. -/
theorem Ordered.written {l : Line} (ho : l.host.Ordered) (hq : l.Queued) {e : QmtEvent}
    {rest : List QmtEvent} (hhead : l.feed.events = e :: rest)
    (hfree : l.host.spool.holds (eventStem e) = false) :
    ({ l.host with spool := { l.host.spool with
      inbox := l.host.spool.inbox ++ [⟨eventStem e,e.frame⟩] } } : Host).Ordered := by
  have hsession := (hq.own e (by simp [hhead])).1
  have hahead : ∀ x, l.Seen x → x.sessionId = e.sessionId → x.sequence < e.sequence :=
    fun x hx hs => hq.ahead x hx (hs.trans hsession) e (by simp [hhead])
  refine ⟨?_,ho.pendingNodup,?_,?_,ho.cursor,ho.inOrder,ho.duplicates⟩
  · intro stem hs
    have := ho.pendingHeld stem hs
    simp only [EventSpool.holds,List.any_append,Bool.or_eq_true] at this ⊢
    exact .inl this
  · intro xs stem ys hsplit f hf hstem x hx g hg y hy hs hlt
    have hheld := ho.pendingHeld stem (by
      change l.host.pending = _ at hsplit
      rw [hsplit]
      simp)
    obtain hf | hf := List.mem_append.mp hf
    · obtain hg | hg := List.mem_append.mp hg
      · exact ho.pendingOrder xs stem ys hsplit f hf hstem x hx g hg y hy hs hlt
      · rw [List.mem_singleton.mp hg] at hy
        have hye := Line.event?_frame hy
        rw [hye] at hs hlt
        have := hahead x (.inl ⟨f,hf,hx⟩) hs.symm
        omega
    · rw [List.mem_singleton.mp hf] at hstem
      rw [← hstem,hfree] at hheld
      simp at hheld
  · intro a ha x hx f hf y hy hs
    obtain hf | hf := List.mem_append.mp hf
    · exact ho.after a ha x hx f hf y hy hs
    · rw [List.mem_singleton.mp hf] at hy
      have hye := Line.event?_frame hy
      rw [hye] at hs ⊢
      exact (hahead x (.inr ⟨a,ha,hx⟩) hs).le

end Host

/-- The queue, its files and the presentations of a run are in order. -/
def Line.Sorted (l : Line) : Prop := l.Queued ∧ l.host.Ordered

theorem Line.Sorted.start (session : String) (ingress : IngressBuffer) (ingestion : HostIngestion)
    (hfresh : ingress.sessionId = none) : (Line.start session ingress ingestion).Sorted := by
  refine ⟨⟨?_,?_,?_,?_,?_,?_,?_,?_⟩,⟨?_,?_,?_,?_,?_,?_,?_⟩⟩ <;>
    simp [Line.start,EventFeed.start,Host.start,Line.Seen,InOrder,TrueDuplicates,hfresh]

theorem Line.Sorted.step {l : Line} (h : l.Sorted) {m : LineMove} (ht : l.Timely m) :
    (l.step m).Sorted := by
  refine ⟨h.1.step m,?_⟩
  cases m with
  | enqueue nowMs body => exact h.2
  | restart session => exact h.2
  | poll n => exact h.2.poll h.1 ht
  | next c => exact h.2.next c
  | persist fault =>
    cases fault with
    | true => exact h.2
    | false =>
      change l.persist.host.Ordered
      obtain heq | ⟨e,rest,hq,heq | ⟨hfree,heq⟩⟩ := l.persist_cases
      · rw [heq]
        exact h.2
      · rw [heq]
        exact h.2
      · rw [heq]
        exact h.2.written h.1 hq hfree

/-- In every run of the Bridge and the Host in which each poll finds the waiting
files of a session in time, no event is presented after a later one of its
session, and only what was accepted before is answered `DUPLICATE`. -/
theorem spool_order_kept (session : String) (account terminal : Option String)
    (ingestion : HostIngestion) (ms : List LineMove)
    (h : Folds.Every Line.Timely Line.step
      (Line.start session (.fresh account terminal) ingestion) ms) :
    InOrder ((Line.start session (.fresh account terminal) ingestion).run ms).host.attempts ∧
      TrueDuplicates
        ((Line.start session (.fresh account terminal) ingestion).run ms).host.attempts := by
  have hsorted := @Folds.invariant _ _ _ Line.Sorted Line.Timely (fun _ _ hl hm => hl.step hm) _ _
    (Line.Sorted.start session (.fresh account terminal) ingestion rfl) h
  exact ⟨hsorted.2.inOrder,hsorted.2.duplicates⟩

/-- Two position events, the second at the given clock reading. -/
def clockRun (later : Nat) : List LineMove :=
  [.enqueue 1700000002000 (samplePosition "" 0),.persist false,
    .enqueue later (samplePosition "" 0),.persist false,.poll 256,.next {},.next {}]

theorem spool_order_kept_forward :
    InOrder ((Line.start "session-a" (.fresh none none) omsIngestion).run
        (clockRun 1700000003000)).host.attempts ∧
      TrueDuplicates ((Line.start "session-a" (.fresh none none) omsIngestion).run
        (clockRun 1700000003000)).host.attempts :=
  spool_order_kept "session-a" none none omsIngestion (clockRun 1700000003000) (by
    simp only [clockRun,Folds.every_cons,Folds.every_nil,and_true]
    decide +kernel)

/-- The clock went back by a second between the two. -/
theorem spool_order_kept_fails :
    ¬InOrder ((Line.start "session-a" (.fresh none none) omsIngestion).run
        (clockRun 1700000001000)).host.attempts ∧
      ¬TrueDuplicates ((Line.start "session-a" (.fresh none none) omsIngestion).run
        (clockRun 1700000001000)).host.attempts := by
  decide +kernel

end BigQmt
