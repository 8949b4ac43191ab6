import BigQmt.EventLedger
set_option autoImplicit false

/-!
How far `flush_transport` comes when no file operation fails: to the first event whose frame
is over the bound and that has no file, and no further.
-/

namespace BigQmt

/-- Two events of a session with one file name have one number. -/
theorem eventStem_inj {e e' : QmtEvent} (hsession : e.sessionId = e'.sessionId)
    (h : eventStem e = eventStem e') : e.sequence.toNat = e'.sequence.toNat := by
  have hlist : (eventStem e).toList = (eventStem e').toList := by rw [h]
  rw [eventStem_toList,eventStem_toList,hsession] at hlist
  have htime := congrArg (List.takeWhile Char.isDigit) hlist
  simp only [List.cons_append,Padded.takeWhile_decimal] at htime
  rw [htime,List.append_cancel_left_eq,List.append_cancel_left_eq] at hlist
  exact Padded.decimal_injective hlist

/-- No file operation fails. -/
def noFaults : Nat → PersistFaults := fun _ => {}

/-- `_persist_event` has a file of the event's name, or a frame it may write. -/
def filable (inbox : List EventFile) (e : QmtEvent) : Bool :=
  inbox.any (fun f => f.stem = eventStem e) || e.frame.size ≤ maxFrameBytes

theorem persistEvent_filable {inbox : List EventFile} {e : QmtEvent}
    (h : filable inbox e = true) : ∃ inbox', persistEvent {} inbox e = .ok inbox' := by
  by_cases hheld : inbox.any (fun f => f.stem = eventStem e) = true
  · exact ⟨inbox,by simp [persistEvent,hheld]⟩
  · simp only [Bool.not_eq_true] at hheld
    simp only [filable,hheld,Bool.false_or,decide_eq_true_eq] at h
    have hfits : ¬maxFrameBytes < e.frame.size := by omega
    exact ⟨_,by simp only [persistEvent,hheld,encodeTransportFrame,hfits,refuse]; rfl⟩

theorem persistEvent_blocked {inbox : List EventFile} {e : QmtEvent}
    (h : filable inbox e = false) : ∃ err, persistEvent {} inbox e = .error err := by
  simp only [filable,Bool.or_eq_false_iff,decide_eq_false_iff_not] at h
  have hover : maxFrameBytes < e.frame.size := by omega
  exact ⟨_,by simp only [persistEvent,h.1,encodeTransportFrame,hover,refuse]; rfl⟩

/-- A file of another event's name changes nothing for this one. -/
theorem filable_other {inbox inbox' : List EventFile} {es : List QmtEvent} {e : QmtEvent}
    (hkept : ∀ f ∈ inbox, f ∈ inbox')
    (hfiles : ∀ f ∈ inbox', f ∈ inbox ∨ ∃ x ∈ es, f = ⟨eventStem x,x.frame⟩)
    (hother : ∀ x ∈ es, eventStem x ≠ eventStem e) : filable inbox' e = filable inbox e := by
  have hany : inbox'.any (fun f => f.stem = eventStem e) =
      inbox.any (fun f => f.stem = eventStem e) := by
    rw [Bool.eq_iff_iff]
    simp only [List.any_eq_true,decide_eq_true_eq]
    constructor
    · rintro ⟨f,hf,hstem⟩
      obtain hold | ⟨x,hx,rfl⟩ := hfiles f hf
      · exact ⟨f,hold,hstem⟩
      · exact absurd hstem (hother x hx)
    · rintro ⟨f,hf,hstem⟩
      exact ⟨f,hkept f hf,hstem⟩
  simp only [filable,hany]

/-- The names of the events are all different. -/
def ApartNames (es : List QmtEvent) : Prop :=
  es.Pairwise (fun e e' => eventStem e ≠ eventStem e')

theorem takeWhile_congr_mem {α : Type} {p q : α → Bool} {xs : List α}
    (h : ∀ x ∈ xs, p x = q x) : xs.takeWhile p = xs.takeWhile q := by
  induction xs with
  | nil => rfl
  | cons x xs ih =>
    have hrest := ih (fun y hy => h y (List.mem_cons_of_mem _ hy))
    simp only [List.takeWhile_cons,h x List.mem_cons_self,hrest]

/-- Without a failure the loop persists the events before the first one that has no file and
no frame. -/
theorem persistBatch_filable (i : Nat) (inbox : List EventFile) {es : List QmtEvent}
    (hapart : ApartNames es) :
    (persistBatch noFaults i inbox es).1 = (es.takeWhile (filable inbox)).length := by
  induction es generalizing i inbox with
  | nil => rfl
  | cons e es ih =>
    obtain ⟨hfirst,hrest⟩ := List.pairwise_cons.mp hapart
    cases hfilable : filable inbox e with
    | false =>
      obtain ⟨err,herr⟩ := persistEvent_blocked hfilable
      simp [persistBatch,noFaults,herr,hfilable]
    | true =>
      obtain ⟨inbox',hok⟩ := persistEvent_filable hfilable
      obtain ⟨-,hkept,hfiles⟩ := EventLedger.persistEvent_ok hok
      have hsame : ∀ x ∈ es, filable inbox' x = filable inbox x := by
        intro x hx
        have hfiles' : ∀ f ∈ inbox', f ∈ inbox ∨ ∃ y ∈ [e], f = ⟨eventStem y,y.frame⟩ := by
          simpa using hfiles
        exact filable_other hkept hfiles' (by simpa using hfirst x hx)
      have hcount := ih (i + 1) inbox' hrest
      rw [takeWhile_congr_mem hsame] at hcount
      have hbatch : persistBatch noFaults i inbox (e :: es) =
          ((persistBatch noFaults (i + 1) inbox' es).1 + 1,
            (persistBatch noFaults (i + 1) inbox' es).2) := by
        simp only [persistBatch,show noFaults i = {} from rfl,hok]
      rw [hbatch,hcount,List.takeWhile_cons_of_pos hfilable,List.length_cons]

namespace EventLedger

/-- The events of the queue that a call without failures may persist, however many it may take. -/
def passable (l : EventLedger) : List QmtEvent := l.feed.events.takeWhile (filable l.inbox)

/-- The queue from its first event on that has no file and no frame. -/
def blocked (l : EventLedger) : List QmtEvent := l.feed.events.dropWhile (filable l.inbox)

theorem passable_append_blocked (l : EventLedger) : l.passable ++ l.blocked = l.feed.events :=
  List.takeWhile_append_dropWhile

/-- The waiting events of a session have names of their own. -/
theorem Kept.apart {session : String} {initial : List EventFile} {l : EventLedger}
    (h : l.Kept session initial) : ApartNames l.feed.events := by
  have hwaiting := (List.pairwise_append.mp h.accounted.increasing).2.1
  refine hwaiting.imp_of_mem ?_
  intro e e' he he' hlt hstem
  have hpos : ∀ x ∈ l.feed.events, 0 < x.sequence := by
    intro x hx
    have hissued : x.sequence ∈ l.issued := h.accounted.partition.mem_iff.mp
      (List.mem_map_of_mem (List.mem_append_left _ (List.mem_append_right _ hx)))
    obtain ⟨n,-,heq⟩ := List.mem_map.mp hissued
    omega
  have hsession := (h.ours.events e (List.mem_append_right _ he)).trans
    (h.ours.events e' (List.mem_append_right _ he')).symm
  have hnumber := eventStem_inj hsession hstem
  have := hpos e he
  have := hpos e' he'
  omega

/-- One call without a failure. -/
theorem flush_passable {l : EventLedger} (hapart : ApartNames l.feed.events) (k : Int) :
    (l.flush k noFaults).persisted = l.persisted ++ l.passable.take k.toNat ∧
      (l.flush k noFaults).feed.events = l.passable.drop k.toNat ++ l.blocked ∧
      (∀ f ∈ l.inbox, f ∈ (l.flush k noFaults).inbox) ∧
      (∀ e ∈ l.passable.take k.toNat,
        ∃ f ∈ (l.flush k noFaults).inbox, f.stem = eventStem e) ∧
      ∀ f ∈ (l.flush k noFaults).inbox, f ∈ l.inbox ∨
        ∃ e ∈ l.passable.take k.toNat, f = ⟨eventStem e,e.frame⟩ := by
  have htake : l.feed.events.take (min l.feed.events.length k.toNat) =
      l.feed.events.take k.toNat := by
    rw [← List.take_take,List.take_of_length_le (List.length_take_le' _ _)]
  have hpass : (l.feed.events.take k.toNat).takeWhile (filable l.inbox) =
      l.passable.take k.toNat := List.take_takeWhile.symm
  have hcount := persistBatch_filable 0 l.inbox
    (hapart.sublist (List.take_sublist k.toNat l.feed.events))
  rw [hpass,List.length_take] at hcount
  obtain ⟨-,hplaced,hkept,hfiles⟩ :=
    persistBatch_files noFaults 0 l.inbox (l.feed.events.take k.toNat)
  have hfirst : l.feed.events.take (min k.toNat l.passable.length) = l.passable.take k.toNat := by
    rw [← l.passable_append_blocked,List.take_append_of_le_length (Nat.min_le_right _ _)]
    rw [← List.take_take,List.take_length]
  have hlast : l.feed.events.drop (min k.toNat l.passable.length) =
      l.passable.drop k.toNat ++ l.blocked := by
    rw [← l.passable_append_blocked,List.drop_append_of_le_length (Nat.min_le_right _ _)]
    congr 1
    by_cases hk : k.toNat ≤ l.passable.length
    · rw [Nat.min_eq_left hk]
    · rw [Nat.min_eq_right (by omega),List.drop_length,List.drop_of_length_le (by omega)]
  have hbatch : (l.feed.events.take k.toNat).take (min k.toNat l.passable.length) =
      l.passable.take k.toNat := by
    rw [List.take_take,← hfirst]
    congr 1
    omega
  rw [hcount,hbatch] at hplaced hfiles
  simp only [flush,htake,hcount,hfirst,hlast]
  exact ⟨trivial,trivial,hkept,hplaced,hfiles⟩

/-- Calls of `flush_transport` one after the other, without a failure. -/
def flushes (l : EventLedger) (ks : List Int) : EventLedger :=
  l.run (ks.map (fun k => .flush k noFaults))

/-- The events that may be persisted stay so, and the others stay blocked, over a call. -/
theorem flush_blocked {l : EventLedger} (hapart : ApartNames l.feed.events) (k : Int) :
    (l.flush k noFaults).passable = l.passable.drop k.toNat ∧
      (l.flush k noFaults).blocked = l.blocked := by
  obtain ⟨-,hqueue,hkept,-,hfiles⟩ := flush_passable hapart k
  have hsplit : l.feed.events =
      l.passable.take k.toNat ++ (l.passable.drop k.toNat ++ l.blocked) := by
    rw [← List.append_assoc,List.take_append_drop,l.passable_append_blocked]
  have hsame : ∀ x ∈ l.passable.drop k.toNat ++ l.blocked,
      filable (l.flush k noFaults).inbox x = filable l.inbox x := by
    rw [hsplit] at hapart
    intro x hx
    exact filable_other hkept hfiles (fun y hy => (List.pairwise_append.mp hapart).2.2 y hy x hx)
  have hpass : ∀ x ∈ l.passable.drop k.toNat, filable l.inbox x = true :=
    fun x hx => List.mem_takeWhile_imp (List.mem_of_mem_drop hx)
  have hstop : l.blocked.takeWhile (filable l.inbox) = [] := by
    have hhead := List.head?_dropWhile_not (filable l.inbox) l.feed.events
    cases hblocked : l.blocked with
    | nil => rfl
    | cons x rest =>
      rw [show l.feed.events.dropWhile (filable l.inbox) = x :: rest from hblocked] at hhead
      simp only [List.head?_cons] at hhead
      simp [hhead]
  have hnext : (l.flush k noFaults).passable = l.passable.drop k.toNat := by
    rw [passable,hqueue,takeWhile_congr_mem hsame,List.takeWhile_append_of_pos hpass,hstop,
      List.append_nil]
  have hrest : l.passable.drop k.toNat ++ (l.flush k noFaults).blocked =
      l.passable.drop k.toNat ++ l.blocked := by
    rw [← hqueue,← hnext,passable_append_blocked]
  exact ⟨hnext,List.append_cancel_left hrest⟩

/-- What calls without a failure leave, and what they persist, in terms of how much they may
take together. -/
theorem flushes_passable {l : EventLedger} (hapart : ApartNames l.feed.events) (ks : List Int) :
    (l.flushes ks).persisted = l.persisted ++ l.passable.take (ks.map Int.toNat).sum ∧
      (l.flushes ks).feed.events = l.passable.drop (ks.map Int.toNat).sum ++ l.blocked ∧
      (∀ f ∈ l.inbox, f ∈ (l.flushes ks).inbox) ∧
      ∀ e ∈ l.passable.take (ks.map Int.toNat).sum,
        ∃ f ∈ (l.flushes ks).inbox, f.stem = eventStem e := by
  induction ks generalizing l with
  | nil => simp [flushes,run,passable_append_blocked]
  | cons k ks ih =>
    obtain ⟨hpersisted,hqueue,hkept,hplaced,-⟩ := flush_passable hapart k
    obtain ⟨hnext,hblocked⟩ := flush_blocked hapart k
    have hsuffix : ApartNames (l.flush k noFaults).feed.events := by
      rw [hqueue]
      rw [← l.passable_append_blocked] at hapart
      exact hapart.sublist (List.Sublist.append_right (List.drop_sublist _ _) _)
    obtain ⟨hrest,hleft,hkept',hplaced'⟩ := ih hsuffix
    have hrun : l.flushes (k :: ks) = (l.flush k noFaults).flushes ks := rfl
    have hsum : ((k :: ks).map Int.toNat).sum = k.toNat + (ks.map Int.toNat).sum := by simp
    rw [hrun,hsum,List.take_add,← List.append_assoc,← List.drop_drop,← hpersisted,← hnext,
      ← hblocked]
    refine ⟨hrest,hleft,fun f hf => hkept' f (hkept f hf),fun e he => ?_⟩
    obtain hfirst | hlater := List.mem_append.mp he
    · obtain ⟨f,hf,hstem⟩ := hplaced e hfirst
      exact ⟨f,hkept' f hf,hstem⟩
    · exact hplaced' e hlater

/-- The call persists the first `k` events, or all, and leaves the others in order. -/
def FlushesAll (l : EventLedger) (k : Int) : Prop :=
  (l.flush k noFaults).persisted =
      l.persisted ++ l.feed.events.take (min k.toNat l.feed.events.length) ∧
    (l.flush k noFaults).feed.events = l.feed.events.drop (min k.toNat l.feed.events.length)

theorem flushesAll_iff {l : EventLedger} (hapart : ApartNames l.feed.events) (k : Int) :
    l.FlushesAll k ↔ ∀ e ∈ l.feed.events.take k.toNat, filable l.inbox e = true := by
  obtain ⟨hpersisted,hqueue,-,-,-⟩ := flush_passable hapart k
  have hpass : l.passable.take k.toNat =
      (l.feed.events.take k.toNat).takeWhile (filable l.inbox) := List.take_takeWhile
  have hmin : l.feed.events.take (min k.toNat l.feed.events.length) =
      l.feed.events.take k.toNat := by
    rw [← List.take_take,List.take_length]
  rw [FlushesAll,hpersisted,hqueue,hmin,List.append_cancel_left_eq,hpass]
  constructor
  · rintro ⟨hall,-⟩ e he
    rw [← hall] at he
    exact List.mem_takeWhile_imp he
  · intro hall
    have htaken := List.takeWhile_eq_self_iff.mpr hall
    have hrest : l.feed.events.take (min k.toNat l.feed.events.length) ++
        (l.passable.drop k.toNat ++ l.blocked) =
        l.feed.events.take (min k.toNat l.feed.events.length) ++
          l.feed.events.drop (min k.toNat l.feed.events.length) := by
      calc _ = l.passable.take k.toNat ++ l.passable.drop k.toNat ++ l.blocked := by
            rw [hmin,hpass,htaken,List.append_assoc]
        _ = l.feed.events := by rw [List.take_append_drop,passable_append_blocked]
        _ = _ := by rw [List.take_append_drop]
    exact ⟨htaken,List.append_cancel_left hrest⟩

theorem textSize_replicate (n : Nat) : textSize (String.ofList (List.replicate n 'x')) = n + 2 := by
  have hone : escapedSize 'x' = 1 := by decide
  simp [textSize,hone]
  omega

/-- An event with a remark of `n` characters. -/
def remarkEvent (n : Nat) : QmtEvent :=
  { samplePosition "session-a" 1 with
    payload := .cons "remark" (.text (String.ofList (List.replicate n 'x'))) .nil }

/-- An event with a long remark waits in front of a short one. -/
def remarkFirst (n : Nat) : EventLedger :=
  (start "session-a" []).run
    [.enqueue 1700000000000 (remarkEvent n),.enqueue 1700000000001 (samplePosition "session-a" 1)]

theorem remarkFirst_events (n : Nat) : (remarkFirst n).feed.events =
    [(EventFeed.start "session-a").event 1700000000000 (remarkEvent n),
      ((EventFeed.start "session-a").enqueue 1700000000000 (remarkEvent n)).event 1700000000001
        (samplePosition "session-a" 1)] := rfl

theorem remarkFirst_filable {n : Nat} (h : maxFrameBytes ≤ n) : filable (remarkFirst n).inbox
    ((EventFeed.start "session-a").event 1700000000000 (remarkEvent n)) = false := by
  have hpayload : ((EventFeed.start "session-a").event 1700000000000 (remarkEvent n)).payload =
      .cons "remark" (.text (String.ofList (List.replicate n 'x'))) .nil := rfl
  have hsize : maxFrameBytes <
      ((EventFeed.start "session-a").event 1700000000000 (remarkEvent n)).frame.size := by
    simp only [QmtEvent.frame,Raw.dumps,QmtEvent.members,hpayload,Json.size,Fields.size,
      textSize_replicate]
    omega
  have hinbox : (remarkFirst n).inbox = [] := rfl
  simp only [filable,hinbox,List.any_nil,Bool.false_or,decide_eq_false_iff_not]
  omega

theorem remarkFirst_stuck {n : Nat} (h : maxFrameBytes ≤ n) :
    (remarkFirst n).feed.events.length = 2 ∧ ¬(remarkFirst n).FlushesAll 1 ∧
      ∀ ks, ((remarkFirst n).flushes ks).persisted = [] ∧
        ((remarkFirst n).flushes ks).feed.events = (remarkFirst n).feed.events := by
  have hfirst := remarkFirst_filable h
  have hqueue := remarkFirst_events n
  have hpass : (remarkFirst n).passable = [] := by
    simp only [passable,hqueue,List.takeWhile_cons,hfirst,Bool.false_eq_true,if_false]
  have hapart : ApartNames (remarkFirst n).feed.events :=
    ((kept_start "session-a" []).run _).apart
  refine ⟨by simp [hqueue],fun hall => ?_,fun ks => ?_⟩
  · have hhead := (flushesAll_iff hapart 1).mp hall
      ((EventFeed.start "session-a").event 1700000000000 (remarkEvent n)) (by simp [hqueue])
    rw [hfirst] at hhead
    exact absurd hhead (by decide)
  · obtain ⟨hpersisted,hleft,-,-⟩ := flushes_passable hapart ks
    have hblocked := (remarkFirst n).passable_append_blocked
    rw [hpass,List.nil_append] at hblocked
    have hnone : (remarkFirst n).persisted = [] := rfl
    rw [hpersisted,hleft,hpass,List.take_nil,List.drop_nil,List.nil_append,hblocked,hnone]
    exact ⟨rfl,rfl⟩

end EventLedger
end BigQmt
