import BigQmt.AlertStore
import Mathlib.Data.List.Induction
import Mathlib.Data.List.Pairwise
import Mathlib.Data.List.TakeWhile
set_option autoImplicit false

/-!
The current state of an alert against the chronology of its events, whatever the
order in which they arrive.
-/

namespace BigQmt

/-- A call of the journal, with its arguments. -/
inductive AlertCall where
  | active (key severity detail : String) (observedAt : Int) (source : String)
      (eventId : Option String)
  | resolved (key : String) (observedAt : Int) (source : String) (eventId : Option String)

namespace AlertCall

def fact : AlertCall → AlertFact
  | .active key severity detail observedAt source _ =>
      ⟨key,.active,some severity,some detail,observedAt,source⟩
  | .resolved key observedAt source _ => ⟨key,.resolved,none,none,observedAt,source⟩

/-- The database after the call, whether it returns or raises. -/
def perform (disk : Disk) (db : OperationsDb) : AlertCall → OperationsDb
  | .active key severity detail observedAt source eventId =>
    match db.recordActive disk key severity detail observedAt source eventId with
    | .ok (_,db') => db'
    | .error _ => db
  | .resolved key observedAt source eventId =>
    match db.recordResolved disk key observedAt source eventId with
    | .ok (_,db') => db'
    | .error _ => db

end AlertCall

namespace OperationsDb

def deliver (db : OperationsDb) (calls : List (Disk × AlertCall)) : OperationsDb :=
  calls.foldl (fun db c => c.2.perform c.1 db) db

theorem deliver_snoc (db : OperationsDb) (calls : List (Disk × AlertCall)) (c : Disk × AlertCall) :
    db.deliver (calls ++ [c]) = c.2.perform c.1 (db.deliver calls) := by
  simp [deliver,List.foldl_append]

/-- What the state row of an alert says: its status, and since when. -/
def standing (db : OperationsDb) (key : String) : Option (PersistedAlertStatus × Int) :=
  (db.stateRow key).map (fun row => (row.status,row.lastSeenAt))

end OperationsDb

/-- What a fact that is news makes of the state of its alert. -/
def AlertFact.posted (f : AlertFact) :
    Option (PersistedAlertStatus × Int) → Option (PersistedAlertStatus × Int)
  | some (status,lastSeenAt) =>
      if f.observedAt < lastSeenAt then some (status,lastSeenAt)
      else some (f.eventType,f.observedAt)
  | none => if f.eventType = .active then some (f.eventType,f.observedAt) else none

namespace OperationsDb

/-- A new event: nothing was recorded for its alert and instant, and only the state of
its alert moves. -/
structure News (db : OperationsDb) (f : AlertFact) (db' : OperationsDb) : Prop where
  events : ∃ eventId, db'.alertEvents = db.alertEvents ++ [⟨eventId,f⟩]
  fresh : ∀ e ∈ db.alertEvents, e.fact.key = f.key → e.fact.observedAt ≠ f.observedAt
  state : db'.standing f.key = f.posted (db.standing f.key)
  others : ∀ key, key ≠ f.key → db'.standing key = db.standing key

variable {db db' : OperationsDb}

theorem standing_putState_self (db : OperationsDb) (row : PersistedAlertState) :
    (db.putState row).standing row.key = some (row.status,row.lastSeenAt) := by
  simp [standing]

theorem standing_putState_ne (db : OperationsDb) {row : PersistedAlertState} {key : String}
    (h : key ≠ row.key) : (db.putState row).standing key = db.standing key := by
  have hrow : (db.putState row).stateRow key = db.stateRow key := Keyed.find_put_ne h
  rw [standing,hrow,standing]

theorem activeRow_eq (db : OperationsDb) (eventId : AlertEventId) (key severity detail : String)
    (observedAt : Int) :
    (db.activeRow eventId key severity detail observedAt).key = key ∧
      (db.activeRow eventId key severity detail observedAt).status = .active ∧
      (db.activeRow eventId key severity detail observedAt).lastSeenAt = observedAt := by
  unfold activeRow
  split
  · split
    · exact ⟨rfl,rfl,rfl⟩
    · exact ⟨rfl,rfl,rfl⟩
  · exact ⟨rfl,rfl,rfl⟩

/-- The event log with one more event, and what is then done to the state. -/
theorem News.of_insert {eventId : AlertEventId} {f : AlertFact} {db₁ : OperationsDb}
    (hins : db.insertEvent eventId f = .ok (false,db₁))
    (hevents : db'.alertEvents = db₁.alertEvents)
    (hstate : db'.standing f.key = f.posted (db₁.standing f.key))
    (hothers : ∀ key, key ≠ f.key → db'.standing key = db₁.standing key) : db.News f db' := by
  obtain ⟨hfalse,-⟩ | ⟨-,rfl,hfresh⟩ := insertEvent_cases hins
  · cases hfalse
  · exact ⟨⟨eventId,hevents⟩,hfresh,hstate,hothers⟩

theorem applyActive_news {eventId : AlertEventId} {key severity detail source : String}
    {observedAt : Int} {row : PersistedAlertState} {db₁ : OperationsDb}
    (hins : db.insertEvent eventId ⟨key,.active,some severity,some detail,observedAt,source⟩ =
      .ok (false,db₁))
    (h : db₁.applyActive false eventId key severity detail observedAt = .ok (row,db')) :
    db.News ⟨key,.active,some severity,some detail,observedAt,source⟩ db' := by
  simp only [applyActive,Bool.false_eq_true,if_false] at h
  cases hlate : (db₁.stateRow key).filter (fun state => observedAt < state.lastSeenAt) with
  | some state =>
    simp only [hlate] at h
    cases h
    obtain ⟨hrow,hbefore⟩ := Option.filter_eq_some_iff.mp hlate
    refine .of_insert hins rfl ?_ fun _ _ => rfl
    simp only [standing,hrow,Option.map_some,AlertFact.posted]
    rw [if_pos (by simpa using hbefore)]
  | none =>
    simp only [hlate] at h
    cases h
    obtain ⟨hkey,hstatus,hseen⟩ := db₁.activeRow_eq eventId key severity detail observedAt
    have hself := db₁.standing_putState_self
      (db₁.activeRow eventId key severity detail observedAt)
    rw [hkey,hstatus,hseen] at hself
    refine .of_insert hins rfl ?_ fun k hk => standing_putState_ne _ (by rw [hkey]; exact hk)
    rw [hself]
    cases hrow : db₁.stateRow key with
    | none => simp [standing,hrow,AlertFact.posted]
    | some state =>
      have hnot : ¬ observedAt < state.lastSeenAt := by
        simpa [hrow,Option.filter] using hlate
      simp [standing,hrow,AlertFact.posted,hnot]

theorem applyResolved_news {eventId : AlertEventId} {key source : String} {observedAt : Int}
    {db₁ : OperationsDb}
    (hins : db.insertEvent eventId ⟨key,.resolved,none,none,observedAt,source⟩ =
      .ok (false,db₁)) :
    db.News ⟨key,.resolved,none,none,observedAt,source⟩
      (db₁.applyResolved false eventId key observedAt).2 := by
  unfold applyResolved
  cases hrow : db₁.stateRow key with
  | none =>
    refine .of_insert hins rfl ?_ fun _ _ => rfl
    simp [standing,hrow,AlertFact.posted]
  | some state =>
    have hkey : state.key = key := Keyed.find_key hrow
    by_cases hlate : observedAt < state.lastSeenAt
    · simp only [Bool.false_eq_true,if_false,hlate,if_true]
      refine .of_insert hins rfl ?_ fun _ _ => rfl
      simp [standing,hrow,AlertFact.posted,hlate]
    · simp only [Bool.false_eq_true,if_false,hlate]
      generalize hnew : ({ state with
        status := .resolved,lastSeenAt := observedAt,resolvedAt := some observedAt,
        lastEventId := eventId } : PersistedAlertState) = row
      have hrowkey : row.key = key := by rw [← hnew,hkey]
      have hself := db₁.standing_putState_self row
      refine .of_insert hins rfl ?_ fun k hk => standing_putState_ne _ (by rw [hrowkey]; exact hk)
      rw [hrowkey] at hself
      rw [hself,← hnew]
      simp [standing,hrow,AlertFact.posted,hlate]

end OperationsDb

/-- A call is refused, repeats what was recorded, or records its fact as news. -/
theorem AlertCall.perform_cases (disk : Disk) (db : OperationsDb) (c : AlertCall) :
    c.perform disk db = db ∨ db.News c.fact (c.perform disk db) := by
  cases c with
  | active key severity detail observedAt source eventId =>
    cases hr : db.recordActive disk key severity detail observedAt source eventId with
    | error e => exact .inl (by simp only [perform,hr])
    | ok p =>
      obtain ⟨row,db'⟩ := p
      have hperform : (AlertCall.active key severity detail observedAt source eventId).perform
          disk db = db' := by simp only [perform,hr]
      rw [hperform]
      obtain ⟨duplicate,db₁,hins,happly⟩ := OperationsDb.recordActive_ok hr
      cases duplicate with
      | false => exact .inr (OperationsDb.applyActive_news hins happly)
      | true =>
        obtain ⟨-,rfl⟩ | ⟨hfalse,-⟩ := OperationsDb.insertEvent_cases hins
        · left
          cases hrow : db₁.stateRow key with
          | none => simp [OperationsDb.applyActive,hrow] at happly
          | some state =>
            simp only [OperationsDb.applyActive,hrow,if_true,Except.ok.injEq,Prod.mk.injEq] at happly
            exact happly.2.symm
        · cases hfalse
  | resolved key observedAt source eventId =>
    cases hr : db.recordResolved disk key observedAt source eventId with
    | error e => exact .inl (by simp only [perform,hr])
    | ok p =>
      obtain ⟨row,db'⟩ := p
      have hperform : (AlertCall.resolved key observedAt source eventId).perform disk db = db' := by
        simp only [perform,hr]
      rw [hperform]
      obtain ⟨duplicate,db₁,hins,happly⟩ := OperationsDb.recordResolved_ok hr
      obtain rfl : db' = _ := congrArg Prod.snd happly
      cases duplicate with
      | false => exact .inr (OperationsDb.applyResolved_news hins)
      | true =>
        obtain ⟨-,rfl⟩ | ⟨hfalse,-⟩ := OperationsDb.insertEvent_cases hins
        · left
          unfold OperationsDb.applyResolved
          cases db₁.stateRow key <;> rfl
        · cases hfalse

namespace OperationsDb

/-- The recorded facts of an alert, in the order in which they came. -/
def story (db : OperationsDb) (key : String) : List AlertFact :=
  (db.alertEvents.map AlertEvent.fact).filter (fun f => f.key = key)

theorem News.story_self {db db' : OperationsDb} {f : AlertFact} (h : db.News f db') :
    db'.story f.key = db.story f.key ++ [f] := by
  obtain ⟨eventId,hevents⟩ := h.events
  simp [story,hevents]

theorem News.story_ne {db db' : OperationsDb} {f : AlertFact} {key : String}
    (h : db.News f db') (hkey : key ≠ f.key) : db'.story key = db.story key := by
  obtain ⟨eventId,hevents⟩ := h.events
  simp [story,hevents,Ne.symm hkey]

theorem News.fresh_story {db db' : OperationsDb} {f : AlertFact} (h : db.News f db') :
    ∀ g ∈ db.story f.key, g.observedAt ≠ f.observedAt := by
  intro g hg
  simp only [story,List.mem_filter,List.mem_map,decide_eq_true_eq] at hg
  obtain ⟨⟨e,he,rfl⟩,hkey⟩ := hg
  exact h.fresh e he hkey

/-- What one call does to the story and the state of an alert. -/
theorem deliver_step (db : OperationsDb) (key : String) (c : Disk × AlertCall) :
    ((c.2.perform c.1 db).story key = db.story key ∧
        (c.2.perform c.1 db).standing key = db.standing key) ∨
      ∃ f, (c.2.perform c.1 db).story key = db.story key ++ [f] ∧
        (c.2.perform c.1 db).standing key = f.posted (db.standing key) ∧
        ∀ g ∈ db.story key, g.observedAt ≠ f.observedAt := by
  obtain hsame | hnews := AlertCall.perform_cases c.1 db c.2
  · exact .inl (by rw [hsame]; exact ⟨rfl,rfl⟩)
  · by_cases hkey : key = c.2.fact.key
    · subst hkey
      exact .inr ⟨_,hnews.story_self,hnews.state,hnews.fresh_story⟩
    · exact .inl ⟨hnews.story_ne hkey,hnews.others key hkey⟩

section
variable {db : OperationsDb} {key : String}

/-- The state is the story so far, fact after fact. -/
theorem standing_deliver (hrow : db.standing key = none) (hnew : db.story key = [])
    (calls : List (Disk × AlertCall)) :
    (db.deliver calls).standing key =
      ((db.deliver calls).story key).foldl (fun state f => f.posted state) none := by
  induction calls using List.reverseRecOn with
  | nil =>
    have hstart : db.deliver [] = db := rfl
    rw [hstart,hrow,hnew,List.foldl_nil]
  | append_singleton calls c ih =>
    rw [deliver_snoc]
    obtain ⟨hstory,hstanding⟩ | ⟨f,hstory,hstanding,-⟩ := deliver_step (db.deliver calls) key c
    · rw [hstanding,hstory,ih]
    · rw [hstanding,hstory,ih,List.foldl_append,List.foldl_cons,List.foldl_nil]

theorem story_times (hnew : db.story key = []) (calls : List (Disk × AlertCall)) :
    ((db.deliver calls).story key).Pairwise (fun f g => f.observedAt ≠ g.observedAt) := by
  induction calls using List.reverseRecOn with
  | nil =>
    have hstart : db.deliver [] = db := rfl
    rw [hstart,hnew]
    exact List.Pairwise.nil
  | append_singleton calls c ih =>
    rw [deliver_snoc]
    obtain ⟨hstory,-⟩ | ⟨f,hstory,-,hfresh⟩ := deliver_step (db.deliver calls) key c
    · rw [hstory]
      exact ih
    · rw [hstory,List.pairwise_append]
      refine ⟨ih,List.pairwise_singleton _ _,fun g hg f' hf' => ?_⟩
      rw [List.mem_singleton.mp hf']
      exact hfresh g hg

theorem story_times_ne (hnew : db.story key = []) (calls : List (Disk × AlertCall))
    {f g : AlertFact} (hf : f ∈ (db.deliver calls).story key)
    (hg : g ∈ (db.deliver calls).story key) (hne : f ≠ g) : f.observedAt ≠ g.observedAt := by
  have : Std.Symm (fun f g : AlertFact => f.observedAt ≠ g.observedAt) := ⟨fun _ _ h => h.symm⟩
  exact (story_times hnew calls).forall hf hg hne

end

end OperationsDb

/-- The story from its first ACTIVE fact on. -/
def followed (story : List AlertFact) : List AlertFact :=
  story.dropWhile (fun f => f.eventType ≠ .active)

theorem followed_append (story rest : List AlertFact) :
    followed (story ++ rest) =
      if followed story = [] then followed rest else followed story ++ rest := by
  rw [followed,List.dropWhile_append]
  by_cases hnone : followed story = []
  · have hempty : (story.dropWhile (fun f => f.eventType ≠ .active)).isEmpty = true :=
      List.isEmpty_iff.mpr hnone
    rw [if_pos hempty,if_pos hnone]
    rfl
  · have hempty : ¬ (story.dropWhile (fun f => f.eventType ≠ .active)).isEmpty = true :=
      fun h => hnone (List.isEmpty_iff.mp h)
    rw [if_neg hempty,if_neg hnone]
    rfl

theorem exists_active_of_mem_followed {story : List AlertFact} {f : AlertFact}
    (h : f ∈ followed story) : ∃ a ∈ story, a.eventType = .active := by
  by_contra hnone
  push Not at hnone
  have hnil : followed story = [] := List.dropWhile_eq_nil_iff.mpr (by simpa using hnone)
  simp [hnil] at h

theorem mem_followed_of_active {story : List AlertFact} {a : AlertFact} (ha : a ∈ story)
    (hactive : a.eventType = .active) : a ∈ followed story := by
  rw [← List.takeWhile_append_dropWhile (p := fun f : AlertFact => f.eventType ≠ .active)
    (l := story),List.mem_append] at ha
  obtain hbefore | hafter := ha
  · have hnot := List.mem_takeWhile_imp hbefore
    simp [hactive] at hnot
  · exact hafter

/-- Once an alert has a state, the state is one of those seen since, and none is later. -/
theorem foldl_posted_some (story : List AlertFact) (status : PersistedAlertStatus) (time : Int) :
    ∃ status' time', story.foldl (fun state f => f.posted state) (some (status,time)) =
        some (status',time') ∧ time ≤ time' ∧ (∀ f ∈ story, f.observedAt ≤ time') ∧
        ((status',time') = (status,time) ∨
          ∃ f ∈ story, (f.eventType,f.observedAt) = (status',time')) := by
  induction story generalizing status time with
  | nil => exact ⟨status,time,rfl,Int.le_refl time,by simp,.inl rfl⟩
  | cons f story ih =>
    rw [List.foldl_cons,AlertFact.posted]
    split_ifs with hlate
    · obtain ⟨status',time',hfold,hle,hall,hfrom⟩ := ih status time
      refine ⟨status',time',hfold,hle,?_,?_⟩
      · rintro g (_ | ⟨_,hg⟩)
        · omega
        · exact hall g hg
      · obtain hsame | ⟨g,hg,hgeq⟩ := hfrom
        · exact .inl hsame
        · exact .inr ⟨g,List.mem_cons_of_mem f hg,hgeq⟩
    · obtain ⟨status',time',hfold,hle,hall,hfrom⟩ := ih f.eventType f.observedAt
      refine ⟨status',time',hfold,by omega,?_,.inr ?_⟩
      · rintro g (_ | ⟨_,hg⟩)
        · exact hle
        · exact hall g hg
      · obtain hsame | ⟨g,hg,hgeq⟩ := hfrom
        · exact ⟨f,List.mem_cons_self,hsame.symm⟩
        · exact ⟨g,List.mem_cons_of_mem f hg,hgeq⟩

/-- The state of an alert that was active: the latest fact since it was first active. -/
theorem foldl_posted_none {story : List AlertFact} (h : ∃ a ∈ story, a.eventType = .active) :
    ∃ f ∈ followed story, story.foldl (fun state g => g.posted state) none =
        some (f.eventType,f.observedAt) ∧ ∀ g ∈ followed story, g.observedAt ≤ f.observedAt := by
  induction story with
  | nil => simp at h
  | cons f story ih =>
    rw [List.foldl_cons]
    by_cases hactive : f.eventType = .active
    · have hfollowed : followed (f :: story) = f :: story := by simp [followed,hactive]
      have hposted : f.posted none = some (f.eventType,f.observedAt) := by
        simp [AlertFact.posted,hactive]
      obtain ⟨status,time,hfold,hle,hall,hfrom⟩ :=
        foldl_posted_some story f.eventType f.observedAt
      rw [hposted,hfold,hfollowed]
      have hmem : ∃ g ∈ f :: story, (g.eventType,g.observedAt) = (status,time) := by
        obtain hsame | ⟨g,hg,hgeq⟩ := hfrom
        · exact ⟨f,List.mem_cons_self,hsame.symm⟩
        · exact ⟨g,List.mem_cons_of_mem f hg,hgeq⟩
      obtain ⟨g,hg,hgeq⟩ := hmem
      cases hgeq
      refine ⟨g,hg,rfl,?_⟩
      rintro k (_ | ⟨_,hk⟩)
      · exact hle
      · exact hall k hk
    · have hfollowed : followed (f :: story) = followed story := by simp [followed,hactive]
      have hposted : f.posted none = none := by simp [AlertFact.posted,hactive]
      rw [hposted,hfollowed]
      refine ih ?_
      obtain ⟨a,ha,haactive⟩ := h
      obtain _ | ⟨_,ha⟩ := ha
      · exact absurd haactive hactive
      · exact ⟨a,ha,haactive⟩

/-- The fact reaches the journal when an ACTIVE fact of its alert is recorded already. -/
def Heard (db : OperationsDb) (calls : List (Disk × AlertCall)) (key : String) (f : AlertFact) :
    Prop :=
  ∃ before after, calls = before ++ after ∧ f ∉ (db.deliver before).story key ∧
    ∃ a ∈ (db.deliver before).story key, a.eventType = .active

namespace OperationsDb

variable {db : OperationsDb} {key : String}

theorem story_grows (db : OperationsDb) (key : String) (before after : List (Disk × AlertCall)) :
    ∃ rest, (db.deliver (before ++ after)).story key = (db.deliver before).story key ++ rest := by
  induction after using List.reverseRecOn with
  | nil => exact ⟨[],by simp⟩
  | append_singleton after c ih =>
    obtain ⟨rest,hrest⟩ := ih
    rw [← List.append_assoc,deliver_snoc]
    obtain ⟨hstory,-⟩ | ⟨f,hstory,-⟩ := deliver_step (db.deliver (before ++ after)) key c
    · exact ⟨rest,by rw [hstory,hrest]⟩
    · exact ⟨rest ++ [f],by rw [hstory,hrest,List.append_assoc]⟩

theorem mem_followed_iff (hnew : db.story key = []) (calls : List (Disk × AlertCall))
    {f : AlertFact} (hf : f ∈ (db.deliver calls).story key) :
    f ∈ followed ((db.deliver calls).story key) ↔
      f.eventType = .active ∨ Heard db calls key f := by
  constructor
  · intro hfollowed
    clear hf
    induction calls using List.reverseRecOn with
    | nil =>
      have hstart : db.deliver [] = db := rfl
      rw [hstart,hnew] at hfollowed
      simp [followed] at hfollowed
    | append_singleton calls c ih =>
      have hext : f.eventType = .active ∨ Heard db calls key f →
          f.eventType = .active ∨ Heard db (calls ++ [c]) key f := by
        rintro (hactive | ⟨before,after,rfl,hheard⟩)
        · exact .inl hactive
        · exact .inr ⟨before,after ++ [c],by simp,hheard⟩
      rw [deliver_snoc] at hfollowed
      obtain ⟨hstory,-⟩ | ⟨g,hstory,-,hfresh⟩ := deliver_step (db.deliver calls) key c
      · rw [hstory] at hfollowed
        exact hext (ih hfollowed)
      · rw [hstory,followed_append] at hfollowed
        split_ifs at hfollowed with hnone
        · -- nothing was followed yet: the fact is the first ACTIVE one
          obtain ⟨a,ha,hactive⟩ := exists_active_of_mem_followed hfollowed
          have hsub : f ∈ [g] := (List.dropWhile_suffix _).subset hfollowed
          rw [List.mem_singleton.mp ha,← List.mem_singleton.mp hsub] at hactive
          exact .inl hactive
        · obtain hold | hlast := List.mem_append.mp hfollowed
          · exact hext (ih hold)
          · obtain rfl := List.mem_singleton.mp hlast
            obtain ⟨a,ha⟩ := List.exists_mem_of_ne_nil _ hnone
            exact .inr ⟨calls,[c],rfl,fun hin => hfresh f hin rfl,exists_active_of_mem_followed ha⟩
  · rintro (hactive | ⟨before,after,rfl,hfresh,a,ha,hactive⟩)
    · exact mem_followed_of_active hf hactive
    · obtain ⟨rest,hrest⟩ := db.story_grows key before after
      have hne : followed ((db.deliver before).story key) ≠ [] :=
        List.ne_nil_of_mem (mem_followed_of_active ha hactive)
      rw [hrest] at hf ⊢
      rw [followed_append,if_neg hne]
      exact List.mem_append_right _ ((List.mem_append.mp hf).resolve_left hfresh)

/-- The state row of an alert that was active stands at its latest recorded fact exactly
when that fact is an ACTIVE one or came after an ACTIVE one. -/
theorem stateRow_latest_iff (hrow : db.stateRow key = none) (hnew : db.story key = [])
    (calls : List (Disk × AlertCall)) {f : AlertFact} (hf : f ∈ (db.deliver calls).story key)
    (hlast : ∀ g ∈ (db.deliver calls).story key, g.observedAt ≤ f.observedAt)
    (hactive : ∃ a ∈ (db.deliver calls).story key, a.eventType = .active) :
    (∃ row, (db.deliver calls).stateRow key = some row ∧ row.status = f.eventType ∧
        row.lastSeenAt = f.observedAt) ↔
      f.eventType = .active ∨ Heard db calls key f := by
  have hstart : db.standing key = none := by rw [standing,hrow,Option.map_none]
  have hstanding := standing_deliver hstart hnew calls
  obtain ⟨m,hm,hfold,hmax⟩ := foldl_posted_none hactive
  have hmstory : m ∈ (db.deliver calls).story key := (List.dropWhile_suffix _).subset hm
  rw [hfold] at hstanding
  rw [← mem_followed_iff hnew calls hf]
  constructor
  · rintro ⟨row,hr,-,htime⟩
    rw [standing,hr,Option.map_some,Option.some.injEq,Prod.mk.injEq] at hstanding
    -- one recorded fact an instant
    by_cases hsame : m = f
    · rwa [← hsame]
    · exact absurd (hstanding.2.symm.trans htime) (story_times_ne hnew calls hmstory hf hsame)
  · intro hfollowed
    have hsame : m = f := by
      by_contra hne
      exact story_times_ne hnew calls hmstory hf hne
        (Int.le_antisymm (hlast m hmstory) (hmax f hfollowed))
    rw [standing,Option.map_eq_some_iff] at hstanding
    obtain ⟨row,hr,hpair⟩ := hstanding
    rw [Prod.mk.injEq,hsame] at hpair
    exact ⟨row,hr,hpair⟩

/-- An alert raised at 1 and cleared at 2. -/
def raisedAndCleared : List (Disk × AlertCall) :=
  [(Disk.healthy,.active "k" "WARNING" "d" 1 "s" none),
    (Disk.healthy,.resolved "k" 2 "s" none)]

theorem stateRow_latest_heard :
    (∃ row, (empty.deliver raisedAndCleared).stateRow "k" = some row ∧
        row.status = .resolved ∧ row.lastSeenAt = 2) ↔
      PersistedAlertStatus.resolved = .active ∨
        Heard empty raisedAndCleared "k" ⟨"k",.resolved,none,none,2,"s"⟩ := by
  have hrow : empty.stateRow "k" = none := rfl
  have hf : (⟨"k",.resolved,none,none,2,"s"⟩ : AlertFact) ∈
      (empty.deliver raisedAndCleared).story "k" := by decide +kernel
  exact stateRow_latest_iff hrow rfl raisedAndCleared hf (by decide +kernel) (by decide +kernel)

/-- The resolution at 2 reaches the journal before the activation at 1: the row stands at
the activation. -/
theorem resolved_before_active_fails :
    ¬ ∀ (key : String) (calls : List (Disk × AlertCall)) (f : AlertFact),
      f ∈ (empty.deliver calls).story key →
      (∀ g ∈ (empty.deliver calls).story key, g.observedAt ≤ f.observedAt) →
      (∃ a ∈ (empty.deliver calls).story key, a.eventType = .active) →
      ∃ row, (empty.deliver calls).stateRow key = some row ∧ row.status = f.eventType ∧
        row.lastSeenAt = f.observedAt := by
  intro h
  obtain ⟨row,hrow,hstatus,-⟩ := h "k" raisedAndCleared.reverse ⟨"k",.resolved,none,none,2,"s"⟩
    (by decide +kernel) (by decide +kernel) (by decide +kernel)
  have hactive : ((empty.deliver raisedAndCleared.reverse).stateRow "k").map
      PersistedAlertState.status = some .active := by decide +kernel
  rw [hrow,Option.map_some,hstatus] at hactive
  cases hactive

end OperationsDb

end BigQmt
