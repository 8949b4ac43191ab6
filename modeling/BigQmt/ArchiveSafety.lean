import BigQmt.Archive
import BigQmt.EventFrames
import BigQmt.Resync
import Mathlib.Data.List.Dedup
set_option autoImplicit false

/-!
What the archiver removes from `processed`: whether it is a record of the archive of the
day, over every run with crashes and with files arriving at any moment.
-/

namespace BigQmt

open Resumption Proc Rules

/-- The bytes are a record of the archive, up to a line break at their end. -/
def recordOf (archive : Option GzipFile) (bytes : Bytes) : Bool :=
  (archive.bind GzipFile.content).any fun content =>
    decide (Lines.closed newline bytes ∈ Lines.lines newline content)

/-- The file was a record of the archive of the day, which was committed and verified. -/
def Removal.archived (k : ArchiveCodec) (r : Removal) : Bool :=
  (k.verifyCommittedFiles r.archive r.manifest r.checkpoint).toOption.isSome &&
    recordOf r.archive r.bytes

namespace ArchiveWorld

def committed (k : ArchiveCodec) (w : ArchiveWorld) (day : Int) : Except PyError Manifest :=
  k.verifyCommittedFiles (w.archive day) (w.manifest day) (w.checkpoint day)

/-- Bytes under a name that a committed day lists are a record of its archive. -/
def Covered (k : ArchiveCodec) (w : ArchiveWorld) (name : String) (bytes : Bytes) : Prop :=
  ∀ day m, w.committed k day = .ok m → name ∈ m.sourceFiles → recordOf (w.archive day) bytes = true

/-- Every file in `processed` is covered. -/
def Clean (k : ArchiveCodec) (w : ArchiveWorld) : Prop :=
  ∀ name bytes, w.file? name = some bytes → w.Covered k name bytes

/-- What the archiver tolerates of the others: files may arrive. -/
structure Around (w w' : ArchiveWorld) : Prop where
  archive : w'.archive = w.archive
  manifest : w'.manifest = w.manifest
  checkpoint : w'.checkpoint = w.checkpoint
  files : ∀ name bytes, w.file? name = some bytes → w'.file? name = some bytes

theorem Around.refl (w : ArchiveWorld) : w.Around w := ⟨rfl,rfl,rfl,fun _ _ h => h⟩

theorem Around.trans {a b c : ArchiveWorld} (h : a.Around b) (h' : b.Around c) : a.Around c :=
  ⟨h'.archive.trans h.archive,h'.manifest.trans h.manifest,h'.checkpoint.trans h.checkpoint,
    fun name bytes hf => h'.files name bytes (h.files name bytes hf)⟩

theorem Around.committed {k : ArchiveCodec} {w w' : ArchiveWorld} (h : w.Around w') (day : Int) :
    w'.committed k day = w.committed k day := by
  simp only [ArchiveWorld.committed,h.archive,h.manifest,h.checkpoint]

theorem file?_place (w : ArchiveWorld) (name other : String) (bytes : Bytes) :
    (w.place name bytes).file? other =
      (w.file? other).or (if name = other then some bytes else none) := by
  unfold place
  cases hf : w.file? name with
  | some held =>
    by_cases hne : name = other
    · subst hne
      simp [hf]
    · simp [hne]
  | none =>
    by_cases hne : name = other
    · subst hne
      have hnone : w.processed.find? (fun f => decide (f.name = name)) = none := by
        simpa [file?] using hf
      simp [file?,List.find?_append,hnone]
    · simp [file?,List.find?_append,hne]

theorem Around.place (w : ArchiveWorld) (name : String) (bytes : Bytes) :
    w.Around (w.place name bytes) := by
  refine ⟨?_,?_,?_,fun other held h => by simp [file?_place,h]⟩
  all_goals
    unfold ArchiveWorld.place
    split <;> rfl

theorem file?_remove (w : ArchiveWorld) (day : Int) (name other : String) (bytes : Bytes) :
    (w.remove day name bytes).file? other = if other = name then none else w.file? other := by
  unfold remove file?
  rw [List.find?_filter]
  by_cases hne : other = name
  · subst hne
    simp
  · have hsame : ∀ f : SourceFile, (decide (decide (f.name ≠ name) = true ∧
        decide (f.name = other) = true)) = decide (f.name = other) := by
      intro f
      by_cases hf : f.name = other
      · simp [hf,hne]
      · simp [hf]
    rw [if_neg hne]
    simp only [hsame]

end ArchiveWorld

open ArchiveWorld

/-- A file that arrives is covered; it may take only a free name. -/
def arrivalCovered (k : ArchiveCodec) : Cond ArchiveEff ArchiveChoice ArchiveWorld
  | _,.moveUnique name bytes,_,w => w.file? name = none → w.Covered k name bytes
  | _,_,_,_ => True

variable {k : ArchiveCodec}

def archiveRules (k : ArchiveCodec) : Rules ArchiveEff ArchiveChoice ArchiveWorld where
  exec := k.exec
  cond := arrivalCovered k
  need _ _ := True
  inv w := w.Clean k ∧ ∀ r ∈ w.removed, r.archived k = true
  rely i w w' := i = 0 → w.Around w'
  guar i w w' := i ≠ 0 → w.Around w'
  rely_refl _ w _ := .refl w
  rely_trans _ _ _ _ h h' hi := (h hi).trans (h' hi)

section rules
variable {α β : Type} {s : Unit} {w : ArchiveWorld}

/-- What no arriving file changes. -/
theorem stable_of_around {A : ArchiveWorld → Prop} (h : ∀ w w', w.Around w' → A w → A w') :
    (archiveRules k).Stable 0 A := fun w w' hrely _ => h w w' (hrely rfl)

/-- An operation that only looks. -/
def Looks (k : ArchiveCodec) {β : Type} (o : ArchiveEff β) : Prop :=
  ∀ c w, (k.exec o c w).2 = w

theorem keeps_of_looks {A : ArchiveWorld → Prop} {o : ArchiveEff β} (h : Looks k o) :
    (archiveRules k).Keeps 0 A o := by
  intro w hinv hw
  refine ⟨trivial,fun c _ => ?_⟩
  have hsame : ((archiveRules k).exec o c w).2 = w := h c w
  rw [hsame]
  exact ⟨hinv,fun h => absurd rfl h,hw⟩

theorem all_keeps {A : ArchiveWorld → Prop} {x : Archiver α} (h : x.All (Looks k)) :
    x.All ((archiveRules k).Keeps 0 A) :=
  fun s => (h s).mono fun _ ho => keeps_of_looks ho

/-- One look that may fail, and what is known of its answer. -/
theorem ok_bind_look {o : ArchiveEff (Except PyError α)} {f : α → Archiver β}
    {A : ArchiveWorld → Prop} {V : α → ArchiveWorld → Prop}
    {Q : Except PyError β → Unit → ArchiveWorld → Prop} (ho : Looks k o)
    (hA : (archiveRules k).Stable 0 A) (hw : A w)
    (hV : ∀ c u a, (k.exec o c u).1 = .ok a → V a u)
    (he : ∀ e u, A u → Q (.error e) s u)
    (hf : ∀ a u, (archiveRules k).inv u → A u → V a u → (archiveRules k).Ok 0 (f a) s Q u) :
    (archiveRules k).Ok 0 (call o >>= f) s Q w := by
  refine Ok.bind_call (A := fun r u => A u ∧ ∀ a, r = .ok a → V a u) ?_ ?_ ?_
  · intro u hu hi
    refine ⟨trivial,fun c _ => ?_⟩
    have hsame : ((archiveRules k).exec o c u).2 = u := ho c u
    rw [hsame]
    exact ⟨hi,fun h => absurd rfl h,hA _ _ hu hi hw,fun a ha => hV c u a ha⟩
  · rintro e u - ⟨hu,-⟩ v hv hi
    exact he e v (hA _ _ hv hi hu)
  · rintro a u hi ⟨hu,ha⟩
    exact hf a u hi hu (ha a rfl)

theorem looks_pathDayHint (dir : ArchiveDir) (name : String) :
    (pathDayHint dir name).All (Looks k) := by
  unfold pathDayHint
  split
  · exact all_pure _
  · exact all_ask fun _ _ => rfl

theorem looks_tryReadRecord (dir : ArchiveDir) (name : String) :
    (k.tryReadRecord dir name).All (Looks k) := by
  refine all_bind (all_tryCatch (all_bind (all_call fun _ _ => rfl) fun _ => all_pure _)
    fun _ => all_pure _) fun read => ?_
  split
  · exact all_bind (all_ofExcept _) fun _ => all_pure _
  · exact all_pure _

theorem looks_pathsForDay (dir : ArchiveDir) (day : Int) (tolerateInvalid : Bool) :
    (k.pathsForDay dir day tolerateInvalid).All (Looks k) := by
  refine all_bind (all_call fun _ _ => rfl) fun names => ?_
  induction names with
  | nil => exact all_pure _
  | cons name names ih =>
    refine all_bind (looks_tryReadRecord dir name) fun record => all_bind ?_ fun _ =>
      all_bind ih fun _ => all_pure _
    cases record with
    | some r => exact all_pure _
    | none =>
      cases tolerateInvalid with
      | true => exact looks_pathDayHint dir name
      | false => exact all_pure _

/-- A record of a file that is in `processed`. -/
def Held (k : ArchiveCodec) (w : ArchiveWorld) (r : SpoolRecord) : Prop :=
  w.file? r.name = some r.raw ∧ k.decode r.raw = .ok r.event

theorem Held.around {w w' : ArchiveWorld} {r : SpoolRecord} (h : Held k w r) (ha : w.Around w') :
    Held k w' r := ⟨ha.files _ _ h.1,h.2⟩

theorem tryReadRecord_ok {A : ArchiveWorld → Prop} (hA : (archiveRules k).Stable 0 A)
    (hi : (archiveRules k).inv w) (hw : A w) (name : String) :
    (archiveRules k).Ok 0 (k.tryReadRecord .processed name) s
      (fun r _ w => A w ∧ ∀ record, r = .ok (some record) → Held k w record) w := by
  have hread : (archiveRules k).Ok 0 (tryCatch (do
      let raw ← call (.readBytes .processed name)
      return some raw) (fun _ => return none) : Archiver (Option Bytes)) s
      (fun r _ w => A w ∧ ∀ raw, r = .ok (some raw) → w.file? name = some raw) w := by
    have hstable : ∀ r : Except PyError (Option Bytes), (archiveRules k).Stable 0
        (fun w => A w ∧ ∀ raw, r = .ok (some raw) → w.file? name = some raw) := by
      intro r u v hv hinv hu
      exact ⟨hA _ _ hv hinv hu.1,fun raw hr => (hv rfl).files _ _ (hu.2 raw hr)⟩
    refine Ok.tryCatch hi ?_
    refine ok_bind_look (A := A) (V := fun raw u => u.file? name = some raw) (fun _ _ => rfl)
      hA hw ?_ ?_ ?_
    · intro c u a ha
      change (c.answer () >>= fun _ => lookupFile u.processed name) = .ok a at ha
      obtain ⟨-,-,ha⟩ := Except.ok_of_bind ha
      unfold lookupFile at ha
      cases hf : u.processed.find? (fun f => f.name = name) with
      | none => simp [hf] at ha
      | some f =>
        simp only [hf,Except.ok.injEq] at ha
        simp [file?,hf,ha]
    · intro e u hu v hv hinv
      exact ⟨hA _ _ hv hinv hu,by simp⟩
    · intro raw u hinv hu hraw v hv hinv' v' hv' hinv''
      have hraw' := (hv' rfl).files _ _ ((hv rfl).files _ _ hraw)
      exact ⟨hA _ _ hv' hinv'' (hA _ _ hv hinv' hu),by simpa using hraw'⟩
  refine Ok.bind hi (Ok.mono hread ?_)
  rintro r s' u hinv ⟨hu,hfile⟩
  cases r with
  | error e => exact fun v hv hi => ⟨hA _ _ hv hi hu,by simp⟩
  | ok read =>
    cases read with
    | none => exact fun v hv hi => ⟨hA _ _ hv hi hu,by simp⟩
    | some raw =>
      have hraw := hfile raw rfl
      dsimp only [Option.map_some]
      cases hdecode : k.decode raw with
      | error e => exact fun v hv hi => ⟨hA _ _ hv hi hu,by simp⟩
      | ok event =>
        refine Ok.bind_ofExcept (fun e v hv hi => ⟨hA _ _ hv hi hu,by simp⟩) fun day _ => ?_
        refine fun v hv hi => ⟨hA _ _ hv hi hu,fun record hrecord => ?_⟩
        cases hrecord
        exact ⟨(hv rfl).files _ _ hraw,hdecode⟩

theorem scanProcessed_ok {A : ArchiveWorld → Prop} (hA : (archiveRules k).Stable 0 A)
    (hi : (archiveRules k).inv w) (hw : A w) (day : Int) (names : List String) :
    (archiveRules k).Ok 0 (k.scanProcessed day names) s
      (fun r _ w => A w ∧ ∀ p, r = .ok p → ∀ record ∈ p.1, Held k w record) w := by
  induction names generalizing A s w with
  | nil => exact fun v hv hi => ⟨hA _ _ hv hi hw,by rintro p ⟨rfl⟩ record hrecord; cases hrecord⟩
  | cons name names ih =>
    refine Ok.bind hi (Ok.mono (tryReadRecord_ok hA hi hw name) ?_)
    rintro r s' u hinv ⟨hu,hrecord⟩
    cases r with
    | error e => exact fun v hv hi => ⟨hA _ _ hv hi hu,by simp⟩
    | ok record =>
      cases record with
      | none =>
        refine Ok.bind hinv (Ok.mono (Ok.of_all hA (all_keeps (looks_pathDayHint _ name)) hu) ?_)
        intro r s'' u hinv hu
        cases r with
        | error e => exact fun v hv hi => ⟨hA _ _ hv hi hu,by simp⟩
        | ok hint =>
          refine Ok.bind hinv (Ok.mono (ih hA hinv hu) ?_)
          rintro r s''' u hinv ⟨hu,hheld⟩
          cases r with
          | error e => exact fun v hv hi => ⟨hA _ _ hv hi hu,by simp⟩
          | ok p =>
            refine fun v hv hi => ⟨hA _ _ hv hi hu,?_⟩
            rintro q ⟨rfl⟩ x hx
            exact (hheld p rfl x hx).around (hv rfl)
      | some record =>
        -- what is known of this record is kept while the others are read
        have hstable : (archiveRules k).Stable 0 (fun w => A w ∧ Held k w record) :=
          fun a b hab hinv h => ⟨hA _ _ hab hinv h.1,h.2.around (hab rfl)⟩
        refine Ok.bind hinv (Ok.mono (ih hstable hinv ⟨hu,hrecord record rfl⟩) ?_)
        rintro r s'' u hinv ⟨⟨hu,hfirst⟩,hheld⟩
        cases r with
        | error e => exact fun v hv hi => ⟨hA _ _ hv hi hu,by simp⟩
        | ok p =>
          refine fun v hv hi => ⟨hA _ _ hv hi hu,?_⟩
          rintro q ⟨rfl⟩ x hx
          have hx' : x = record ∨ x ∈ p.1 := by
            by_cases hday : record.tradingDay = day
            · simpa [hday] using hx
            · exact .inr (by simpa [hday] using hx)
          obtain rfl | hx' := hx'
          · exact hfirst.around (hv rfl)
          · exact (hheld p rfl x hx').around (hv rfl)

theorem survey_ok {A : ArchiveWorld → Prop} (hA : (archiveRules k).Stable 0 A)
    (hi : (archiveRules k).inv w) (hw : A w) (day : Int) :
    (archiveRules k).Ok 0 (k.survey day) s
      (fun r _ w => A w ∧ ∀ found, r = .ok found → ∀ record ∈ found.records, Held k w record) w := by
  refine Ok.bind_keeps hA (all_keeps (looks_pathsForDay .inbox day false)) hi hw
    (fun e s w _ hw => ⟨hw,by simp⟩) fun inbox s w hi hw => ?_
  refine Ok.bind_keeps hA (all_keeps (looks_pathsForDay .quarantine day true)) hi hw
    (fun e s w _ hw => ⟨hw,by simp⟩) fun quarantine s w hi hw => ?_
  refine Ok.bind_keeps hA (all_keeps (all_call fun _ _ => rfl)) hi hw
    (fun e s w _ hw => ⟨hw,by simp⟩) fun names s w hi hw => ?_
  refine Ok.bind hi (Ok.mono (scanProcessed_ok hA hi hw day names) ?_)
  rintro r s' u hinv ⟨hu,hheld⟩
  cases r with
  | error e => exact fun v hv hi => ⟨hA _ _ hv hi hu,by simp⟩
  | ok p =>
    refine fun v hv hi => ⟨hA _ _ hv hi hu,?_⟩
    rintro found ⟨rfl⟩ x hx
    exact (hheld p rfl x ((List.mem_insertionSort _).mp hx)).around (hv rfl)

theorem answer_ok {c : ArchiveChoice} {a b : α} (h : c.answer a = .ok b) : a = b := by
  unfold ArchiveChoice.answer at h
  split at h
  · exact Except.ok.inj h
  · cases h

theorem stable_and {A P : ArchiveWorld → Prop} (hA : (archiveRules k).Stable 0 A)
    (hP : ∀ u v, u.Around v → P u → P v) : (archiveRules k).Stable 0 (fun w => A w ∧ P w) :=
  fun _ _ hv hinv hu => ⟨hA _ _ hv hinv hu.1,hP _ _ (hv rfl) hu.2⟩

theorem verifyCommitted_ok {A : ArchiveWorld → Prop} (hA : (archiveRules k).Stable 0 A)
    (hw : A w) (day : Int) :
    (archiveRules k).Ok 0 (k.verifyCommitted day) s
      (fun r _ w => A w ∧ ∀ m, r = .ok m → w.committed k day = .ok m) w := by
  refine ok_bind_look (V := fun a u => u.archive day = a) (fun _ _ => rfl) hA hw
    (fun _ _ _ ha => answer_ok ha) (fun e u hu => ⟨hu,by simp⟩) fun archive u hi hu harchive => ?_
  have hA := stable_and hA (P := fun u => u.archive day = archive) fun _ _ h hu => h.archive ▸ hu
  refine ok_bind_look (V := fun a u => u.manifest day = a) (fun _ _ => rfl) hA ⟨hu,harchive⟩
    (fun _ _ _ ha => answer_ok ha) (fun e u hu => ⟨hu.1,by simp⟩) fun manifest u hi hu hmanifest => ?_
  have hA := stable_and hA (P := fun u => u.manifest day = manifest)
    fun _ _ h hu => h.manifest ▸ hu
  refine ok_bind_look (V := fun a u => u.checkpoint day = a) (fun _ _ => rfl) hA ⟨hu,hmanifest⟩
    (fun _ _ _ ha => answer_ok ha) (fun e u hu => ⟨hu.1.1,by simp⟩)
    fun checkpoint u hi hu hcheckpoint => ?_
  have hA := stable_and hA (P := fun u => u.checkpoint day = checkpoint)
    fun _ _ h hu => h.checkpoint ▸ hu
  cases hfiles : k.verifyCommittedFiles archive manifest checkpoint with
  | error e => exact fun v hv hi => ⟨(hA _ _ hv hi ⟨hu,hcheckpoint⟩).1.1.1,by simp⟩
  | ok m =>
    intro v hv hi
    obtain ⟨⟨⟨hu,harchive⟩,hmanifest⟩,hcheckpoint⟩ := hA _ _ hv hi ⟨hu,hcheckpoint⟩
    refine ⟨hu,fun m' hm' => ?_⟩
    cases hm'
    rw [committed,harchive,hmanifest,hcheckpoint,hfiles]

/-- What is removed under a name the committed day lists is a record of its archive. -/
theorem deleteSources_ok {day : Int} {m : Manifest} (hi : (archiveRules k).inv w)
    (hw : w.committed k day = .ok m) (names : List String) (hnames : ∀ n ∈ names, n ∈ m.sourceFiles) :
    (archiveRules k).Ok 0 (ArchiveCodec.deleteSources day names) s (fun _ _ _ => True) w := by
  have hstable : (archiveRules k).Stable 0 (fun w => w.committed k day = .ok m) :=
    stable_of_around fun _ _ h hu => (h.committed day).trans hu
  induction names generalizing s w with
  | nil => exact fun _ _ _ => trivial
  | cons name names ih =>
    have hrest : ∀ n ∈ names, n ∈ m.sourceFiles := fun n hn => hnames n (List.mem_cons_of_mem _ hn)
    refine Ok.bind_keeps hstable (all_keeps (all_ask fun _ _ => rfl)) hi hw
      (fun _ _ _ _ _ => trivial) fun present s w hi hw => ?_
    split
    · refine Ok.bind_call (A := fun _ u => u.committed k day = .ok m) ?_ (fun _ _ _ _ _ _ _ => trivial)
        fun _ u hi hu => ?_
      · intro u hrely hinv
        have hu := hstable _ _ hrely hinv hw
        refine ⟨trivial,fun c _ => ?_⟩
        change (archiveRules k).inv (k.exec (.unlink day name) c u).2 ∧ (0 ≠ 0 → _) ∧
          (k.exec (.unlink day name) c u).2.committed k day = .ok m
        cases hfault : c.fault with
        | some e => simpa [ArchiveCodec.exec,hfault,hu] using hinv
        | none =>
          cases hfile : u.file? name with
          | none => simpa [ArchiveCodec.exec,hfault,hfile,hu] using hinv
          | some bytes =>
            have hrecord := hinv.1 name bytes hfile day m hu (hnames name List.mem_cons_self)
            simp only [ArchiveCodec.exec,hfault,hfile]
            refine ⟨⟨fun other held hother => ?_,fun r hr => ?_⟩,fun h => absurd rfl h,hu⟩
            · rw [file?_remove] at hother
              split at hother
              · cases hother
              · exact hinv.1 other held hother
            · obtain hold | hnew := List.mem_append.mp hr
              · exact hinv.2 r hold
              · have hcommitted : k.verifyCommittedFiles (u.archive day) (u.manifest day)
                    (u.checkpoint day) = .ok m := hu
                rw [List.mem_singleton.mp hnew]
                simp [Removal.archived,hcommitted,hrecord,Except.toOption]
      · exact Ok.bind hi (Ok.mono (ih hi hu hrest) fun r _ _ _ _ => by
          cases r with
          | error e => exact fun _ _ _ => trivial
          | ok n => exact fun _ _ _ => trivial)
    · exact ih hi hw hrest

theorem recoverCommittedDay_ok (hi : (archiveRules k).inv w) (day : Int) :
    (archiveRules k).Ok 0 (k.recoverCommittedDay day) s (fun _ _ _ => True) w := by
  have htrue : (archiveRules k).Stable 0 (fun _ => True) := fun _ _ _ _ _ => trivial
  refine Ok.bind hi (Ok.mono (verifyCommitted_ok htrue trivial day) ?_)
  rintro r s' u hi ⟨-,hcommitted⟩
  cases r with
  | error e => exact fun _ _ _ => trivial
  | ok m =>
    have hstable : (archiveRules k).Stable 0 (fun w => w.committed k day = .ok m) :=
      stable_of_around fun _ _ h hu => (h.committed day).trans hu
    refine Ok.bind_keeps hstable (all_keeps (looks_pathsForDay .processed day false)) hi
      (hcommitted m rfl) (fun _ _ _ _ _ => trivial) fun paths s w hi hw => ?_
    split
    · exact fun _ _ _ => trivial
    · refine Ok.bind hi (Ok.mono (deleteSources_ok hi hw _ fun n hn =>
        List.mem_dedup.mp hn) ?_)
      intro r _ _ _ _
      cases r with
      | error e => exact fun _ _ _ => trivial
      | ok n => exact fun _ _ _ => trivial

theorem required_ok {o : ArchiveEff (Except PyError (Option α))} {f : α → Archiver β}
    {A : ArchiveWorld → Prop} {V : α → Prop} {Q : Except PyError β → Unit → ArchiveWorld → Prop}
    (ho : Looks k o) (hA : (archiveRules k).Stable 0 A) (hw : A w)
    (hi : (archiveRules k).inv w) (hV : ∀ c u a, A u → (k.exec o c u).1 = .ok (some a) → V a)
    (he : ∀ e u, A u → Q (.error e) s u)
    (hf : ∀ a u, (archiveRules k).inv u → A u → V a → (archiveRules k).Ok 0 (f a) s Q u) :
    (archiveRules k).Ok 0 (ArchiveCodec.required o >>= f) s Q w := by
  have hlook : (archiveRules k).Ok 0 (ArchiveCodec.required o : Archiver α) s
      (fun r s' u => s' = s ∧ A u ∧ ∀ a, r = .ok a → V a) w := by
    refine ok_bind_look (V := fun a u => ∀ b, A u → a = some b → V b) ho hA hw ?_ ?_ ?_
    · rintro c u a ha b hu rfl
      exact hV c u b hu ha
    · exact fun e u hu => ⟨rfl,hu,by simp⟩
    · intro a u hi hu ha
      cases a with
      | none => exact fun v hv hi => ⟨rfl,hA _ _ hv hi hu,by simp⟩
      | some a =>
        refine fun v hv hi => ⟨rfl,hA _ _ hv hi hu,?_⟩
        rintro b ⟨rfl⟩
        exact ha a hu rfl
  refine Ok.bind hi (Ok.mono hlook ?_)
  rintro r s' u hi ⟨rfl,hu,hr⟩
  cases r with
  | error e => exact fun v hv hi => he e v (hA _ _ hv hi hu)
  | ok a => exact hf a u hi hu (hr a rfl)

/-- A day without a checkpoint is not committed, and its other files may be replaced. -/
theorem ArchiveWorld.Clean.rewrite {w w' : ArchiveWorld} {day : Int} (h : w.Clean k)
    (hnone : w'.checkpoint day = none) (hprocessed : w'.processed = w.processed)
    (harchive : ∀ other, other ≠ day → w'.archive other = w.archive other)
    (hmanifest : ∀ other, other ≠ day → w'.manifest other = w.manifest other)
    (hcheckpoint : w'.checkpoint = w.checkpoint) : w'.Clean k := by
  intro name bytes hfile other m hm hname
  by_cases hother : other = day
  · subst hother
    rw [committed,hnone] at hm
    cases ha : w'.archive other <;> cases hmf : w'.manifest other <;>
      simp [ha,hmf,ArchiveCodec.verifyCommittedFiles,integrityError] at hm
  · rw [harchive other hother]
    refine h name bytes (by simpa [file?,hprocessed] using hfile) other m ?_ hname
    rwa [committed,harchive other hother,hmanifest other hother,hcheckpoint] at hm

/-- An operation that replaces a file of a day and keeps the assertion. -/
theorem replace_ok {o : ArchiveEff (Except PyError Unit)} {f : Unit → Archiver β}
    {A B : ArchiveWorld → Prop} {Q : Except PyError β → Unit → ArchiveWorld → Prop}
    {write : ArchiveWorld → ArchiveWorld}
    (ho : ∀ c w, k.exec o c w = ArchiveCodec.replacing c w (write w))
    (hA : (archiveRules k).Stable 0 A) (hw : A w)
    (hwrite : ∀ u, (archiveRules k).inv u → A u → (archiveRules k).inv (write u) ∧ B (write u))
    (he : ∀ e u, Q (.error e) s u)
    (hf : ∀ u, (archiveRules k).inv u → B u → (archiveRules k).Ok 0 (f ()) s Q u) :
    (archiveRules k).Ok 0 (call o >>= f) s Q w := by
  refine Ok.bind_call (A := fun r u => ∀ a, r = .ok a → B u) ?_ (fun e u _ _ v _ _ => he e v)
    fun a u hi hu => hf u hi (hu a rfl)
  intro u hrely hinv
  refine ⟨trivial,fun c _ => ?_⟩
  obtain ⟨hinv',hu'⟩ := hwrite u hinv (hA _ _ hrely hinv hw)
  have heq : (archiveRules k).exec o c u = ArchiveCodec.replacing c u (write u) := ho c u
  rw [heq]
  unfold ArchiveCodec.replacing
  split
  · exact ⟨hinv',fun h => absurd rfl h,fun _ _ => hu'⟩
  · exact ⟨hinv,fun h => absurd rfl h,fun _ h => by cases h⟩

/-- The decoder reads no event in an empty line. -/
theorem decode_newline (k : ArchiveCodec) : ∃ e, k.decode [newline] = .error e := by
  have hloads : k.loads [newline] = none := (k.loads_newline []).trans k.loads_nil
  have hstrip : Lines.stripEnd newline [newline] = [] := rfl
  refine ⟨.valueError "invalid JSON transport frame",?_⟩
  simp [ArchiveCodec.decode,hloads,hstrip,decodeTransportFrame,refuse,protocolError,maxFrameBytes]

/-- What is decoded is one line. -/
theorem decode_single {raw : Bytes} {e : QmtEvent} (h : k.decode raw = .ok e) :
    newline ∉ Lines.stripEnd newline raw := by
  simp only [ArchiveCodec.decode,decodeTransportFrame,refuse_eq_ok] at h
  simpa using h.2.1

theorem mapM_ok {f : α → Except PyError β} {l : List α} {bs : List β} (h : l.mapM f = .ok bs) :
    ∀ a ∈ l, ∃ b, f a = .ok b := by
  induction l generalizing bs with
  | nil => simp
  | cons a l ih =>
    rw [List.mapM_cons] at h
    obtain ⟨b,hb,h⟩ := Except.ok_of_bind h
    obtain ⟨bs',hbs,-⟩ := Except.ok_of_bind h
    intro x hx
    obtain rfl | hx := List.mem_cons.mp hx
    · exact ⟨b,hb⟩
    · exact ih hbs x hx

theorem verifyLines_ok {m : Manifest} {raws : List Bytes} (h : k.verifyLines m raws = .ok ()) :
    ∀ raw ∈ raws, ∃ e, k.decode raw = .ok e := by
  unfold ArchiveCodec.verifyLines at h
  split at h
  · simp [integrityError] at h
  · rename_i decoded hdecoded
    exact mapM_ok hdecoded

/-- A verified archive has every text that was written to it as one of its lines. -/
theorem verified_line {m : Manifest} {raws : List Bytes}
    (h : k.verifyLines m (Lines.lines newline (raws.map (Lines.closed newline)).flatten) = .ok ())
    {raw : Bytes} (hraw : raw ∈ raws) (hsingle : newline ∉ Lines.stripEnd newline raw) :
    Lines.closed newline raw ∈ Lines.lines newline (raws.map (Lines.closed newline)).flatten := by
  have hlines := Lines.lines_closed hsingle
  have hsub : ∀ line ∈ Lines.lines newline (Lines.closed newline raw),
      line ∈ Lines.lines newline (raws.map (Lines.closed newline)).flatten := by
    intro line hline
    rw [Lines.lines_flatten_closed]
    exact List.mem_flatten.mpr ⟨_,List.mem_map_of_mem hraw,hline⟩
  cases hextra : Lines.endings newline raw - 1 with
  | zero =>
    rw [hextra,List.replicate_zero] at hlines
    refine hsub _ ?_
    rw [hlines,Lines.closed_eq,hextra]
    exact List.mem_singleton_self _
  | succ n =>
    -- a second line break at the end would be an empty line
    have hempty : [newline] ∈ Lines.lines newline (Lines.closed newline raw) := by
      rw [hlines,hextra,List.replicate_succ]
      exact List.mem_cons_of_mem _ List.mem_cons_self
    obtain ⟨e,he⟩ := verifyLines_ok h _ (hsub _ hempty)
    obtain ⟨err,herr⟩ := decode_newline k
    rw [herr] at he
    cases he

theorem verifyArchive_content {content : Bytes} {m : Manifest}
    (h : k.verifyArchive (k.gzipFile content) m = .ok ()) :
    k.verifyLines m (Lines.lines newline content) = .ok () := by
  by_cases hsha : (k.gzipFile content).sha256 = m.archiveSha256
  · rw [ArchiveCodec.verifyArchive,if_neg (not_not.mpr hsha)] at h
    exact h
  · simp [ArchiveCodec.verifyArchive,hsha,integrityError] at h

theorem verifyCommittedFiles_written {archive : GzipFile} {file : ManifestFile}
    (h : k.verifyArchive archive file.manifest = .ok ()) :
    k.verifyCommittedFiles (some archive) (some file)
      (some ⟨"COMMITTED",archive.sha256,file.sha256⟩) = .ok file.manifest := by
  simp [ArchiveCodec.verifyCommittedFiles,h]

theorem verifyCommittedFiles_manifest {archive : Option GzipFile} {file : ManifestFile}
    {checkpoint : Option Checkpoint} {m : Manifest}
    (h : k.verifyCommittedFiles archive (some file) checkpoint = .ok m) : m = file.manifest := by
  cases archive with
  | none => simp [ArchiveCodec.verifyCommittedFiles,integrityError] at h
  | some archive =>
    cases checkpoint with
    | none => simp [ArchiveCodec.verifyCommittedFiles,integrityError] at h
    | some checkpoint =>
      by_cases hstatus : checkpoint.status = "COMMITTED"
      · by_cases hmanifest : file.sha256 = checkpoint.manifestSha256
        · by_cases harchive : archive.sha256 = checkpoint.archiveSha256
          · cases hverify : k.verifyArchive archive file.manifest with
            | error e => simp [ArchiveCodec.verifyCommittedFiles,hstatus,hmanifest,harchive,hverify] at h
            | ok u =>
              have heq : Except.ok file.manifest = Except.ok (ε := PyError) m := by
                simpa [ArchiveCodec.verifyCommittedFiles,hstatus,hmanifest,harchive,hverify] using h
              exact (Except.ok.inj heq).symm
          · simp [ArchiveCodec.verifyCommittedFiles,hstatus,hmanifest,harchive,integrityError] at h
        · simp [ArchiveCodec.verifyCommittedFiles,hstatus,hmanifest,integrityError] at h
      · simp [ArchiveCodec.verifyCommittedFiles,hstatus,integrityError] at h

/-- The records of a day that is not committed yet are where they were read. -/
def Unsealed (k : ArchiveCodec) (day : Int) (records : List SpoolRecord) (w : ArchiveWorld) : Prop :=
  w.checkpoint day = none ∧ ∀ r ∈ records, Held k w r

theorem Unsealed.around {day : Int} {records : List SpoolRecord} {w w' : ArchiveWorld}
    (h : Unsealed k day records w) (ha : w.Around w') : Unsealed k day records w' :=
  ⟨by rw [ha.checkpoint,h.1],fun r hr => (h.2 r hr).around ha⟩

/-- The stream the records are written as. -/
def stream (records : List SpoolRecord) : Bytes :=
  (records.map (fun r => Lines.closed newline r.raw)).flatten

theorem stream_eq (records : List SpoolRecord) :
    stream records = ((records.map SpoolRecord.raw).map (Lines.closed newline)).flatten := by
  simp [stream,List.map_map,Function.comp_def]

theorem commitDay_ok {day : Int} {records : List SpoolRecord} (hw : Unsealed k day records w) :
    (archiveRules k).Ok 0 (k.commitDay day records) s (fun _ _ _ => True) w := by
  have hready : (archiveRules k).Stable 0 (Unsealed k day records) :=
    stable_of_around fun _ _ h hu => hu.around h
  have harchive := stable_and hready (P := fun u => u.archive day = some (k.gzipFile (stream records)))
    fun _ _ h hu => h.archive ▸ hu
  refine replace_ok (fun _ _ => rfl) hready hw (B := fun u => Unsealed k day records u ∧
    u.archive day = some (k.gzipFile (stream records))) ?_ (fun _ _ => trivial) fun w hi hw => ?_
  · rintro u ⟨hclean,hremoved⟩ hu
    refine ⟨⟨ArchiveWorld.Clean.rewrite hclean hu.1 rfl ?_ (fun _ _ => rfl) rfl,hremoved⟩,hu,?_⟩
    · exact fun other hother => Function.update_of_ne hother _ _
    · exact Function.update_self _ _ _
  refine required_ok (V := fun a => a = k.gzipFile (stream records)) (fun _ _ => rfl) harchive hw hi
    ?_ (fun _ _ _ => trivial) ?_
  · rintro c u a ⟨-,hu⟩ ha
    have heq := answer_ok ha
    rw [hu] at heq
    exact (Option.some.inj heq).symm
  rintro _ w hi hw rfl
  dsimp only
  have hwritten : (k.gzipFile (stream records)).sha256 = k.sha256 (k.gzip (stream records)) := rfl
  generalize hm : (⟨day,records.length,(k.gzipFile (stream records)).sha256,
    k.streamDigest (records.map SpoolRecord.raw),records.map SpoolRecord.name⟩ : Manifest) = m
  have hmanifest := stable_and harchive (P := fun u => u.manifest day = some (k.manifestFile m))
    fun _ _ h hu => h.manifest ▸ hu
  refine replace_ok (fun _ _ => rfl) harchive hw (B := fun u => (Unsealed k day records u ∧
    u.archive day = some (k.gzipFile (stream records))) ∧
      u.manifest day = some (k.manifestFile m)) ?_ (fun _ _ => trivial) fun w hi hw => ?_
  · rintro u ⟨hclean,hremoved⟩ hu
    refine ⟨⟨ArchiveWorld.Clean.rewrite hclean hu.1.1 rfl (fun _ _ => rfl) ?_ rfl,hremoved⟩,hu,?_⟩
    · exact fun other hother => Function.update_of_ne hother _ _
    · exact Function.update_self _ _ _
  refine required_ok (V := fun a => a = k.gzipFile (stream records)) (fun _ _ => rfl) hmanifest hw
    hi ?_ (fun _ _ _ => trivial) ?_
  · rintro c u a ⟨⟨-,hu⟩,-⟩ ha
    have heq := answer_ok ha
    rw [hu] at heq
    exact (Option.some.inj heq).symm
  rintro _ w hi hw rfl
  refine Ok.bind_ofExcept (fun _ _ _ _ => trivial) fun _ hverify => ?_
  refine required_ok (V := fun a => a = k.manifestFile m) (fun _ _ => rfl) hmanifest hw
    hi ?_ (fun _ _ _ => trivial) ?_
  · rintro c u a ⟨-,hu⟩ ha
    have heq := answer_ok ha
    rw [hu] at heq
    exact (Option.some.inj heq).symm
  rintro _ w hi hw rfl
  have hcommits : k.verifyCommittedFiles (some (k.gzipFile (stream records)))
      (some (k.manifestFile m)) (some ⟨"COMMITTED",(k.gzipFile (stream records)).sha256,
        (k.manifestFile m).sha256⟩) = .ok m := verifyCommittedFiles_written hverify
  have hlist : (archiveRules k).Stable 0 (fun u => u.manifest day = some (k.manifestFile m)) :=
    stable_of_around fun _ _ h hu => h.manifest ▸ hu
  refine replace_ok (fun _ _ => rfl) hmanifest hw
    (B := fun u => u.manifest day = some (k.manifestFile m)) ?_ (fun _ _ => trivial)
    fun w hi hw => ?_
  · rintro u ⟨hclean,hremoved⟩ ⟨⟨hu,harch⟩,hman⟩
    refine ⟨⟨fun name bytes hfile other m' hm' hname => ?_,hremoved⟩,hman⟩
    by_cases hother : other = day
    · subst hother
      have hm'' : m' = m := by
        simp only [committed,harch,hman,Function.update_self] at hm'
        exact verifyCommittedFiles_manifest hm'
      rw [hm'',← hm] at hname
      obtain ⟨r,hr,rfl⟩ := List.mem_map.mp hname
      have hheld := hu.2 r hr
      have hbytes : bytes = r.raw := Option.some.inj (hfile.symm.trans hheld.1)
      have hlines := verifyArchive_content hverify
      rw [stream_eq] at hlines
      have hline := verified_line hlines (List.mem_map_of_mem hr) (decode_single hheld.2)
      have hstream : recordOf (some (k.gzipFile (stream records))) r.raw = true := by
        simpa [recordOf,ArchiveCodec.gzipFile,stream_eq] using hline
      rw [hbytes]
      simpa [harch] using hstream
    · refine hclean name bytes hfile other m' ?_ hname
      simpa [committed,Function.update_of_ne hother] using hm'
  · refine Ok.bind hi (Ok.mono (verifyCommitted_ok hlist hw day) ?_)
    rintro r s' u hi ⟨hu,hcommitted⟩
    cases r with
    | error e => exact fun _ _ _ => trivial
    | ok m' =>
      have hm' := hcommitted m' rfl
      have hsame : m' = m := by
        rw [committed,hu] at hm'
        exact verifyCommittedFiles_manifest hm'
      have hnames : ∀ n ∈ records.map SpoolRecord.name, n ∈ m'.sourceFiles := by
        rw [hsame,← hm]
        exact fun _ h => h
      refine Ok.bind hi (Ok.mono (deleteSources_ok hi hm' _ hnames) ?_)
      intro r _ _ _ _
      cases r with
      | error e => exact fun _ _ _ => trivial
      | ok n => exact fun _ _ _ => trivial

theorem archiveDay_ok (hi : (archiveRules k).inv w) (day : Int) (o : ArchiveOptions) :
    (archiveRules k).Ok 0 (k.archiveDay day o) s (fun _ _ _ => True) w := by
  have htrue : (archiveRules k).Stable 0 (fun _ => True) := fun _ _ _ _ _ => trivial
  unfold ArchiveCodec.archiveDay
  split
  · exact fun _ _ _ => trivial
  · have hnow : (ArchiveCodec.nowOr o.nowMs).All (Looks k) := by
      cases o.nowMs with
      | some now => exact all_pure _
      | none => exact all_ask fun _ _ => rfl
    refine Ok.bind_keeps htrue (all_keeps hnow) hi trivial (fun _ _ _ _ _ => trivial)
      fun nowMs s w hi _ => ?_
    refine Ok.bind_ask (A := fun committed u => committed = (u.checkpoint day).isSome) ?_ ?_
    · exact fun u _ hinv => ⟨trivial,fun c _ => ⟨hinv,fun h => absurd rfl h,rfl⟩⟩
    · rintro _ u hi rfl
      split
      · exact recoverCommittedDay_ok hi day
      · rename_i hcheckpoint
        have hnone : u.checkpoint day = none := by simpa using hcheckpoint
        have hstable : (archiveRules k).Stable 0 (fun w => w.checkpoint day = none) :=
          stable_of_around fun _ _ h hu => h.checkpoint ▸ hu
        refine Ok.bind hi (Ok.mono (survey_ok hstable hi hnone day) ?_)
        rintro r s' v hi ⟨hv,hheld⟩
        cases r with
        | error e => exact fun _ _ _ => trivial
        | ok found =>
          dsimp only
          split
          · exact fun _ _ _ => trivial
          · split
            · exact fun _ _ _ => trivial
            · exact commitDay_ok ⟨hv,hheld found rfl⟩

/-- A file arrives: it is covered, or its name is taken. -/
theorem arrive_ok (pid : Nat) (name : String) (bytes : Bytes) :
    (archiveRules k).Wp pid (fun _ _ => True) (.op (.moveUnique name bytes) fun _ => .pure ()) w := by
  rintro u - ⟨hclean,hremoved⟩
  refine ⟨trivial,fun c hcond => ?_⟩
  have hcovered : u.file? name = none → u.Covered k name bytes := hcond
  have haround := Around.place u name bytes
  refine ⟨⟨fun other held hfile day m hm hname => ?_,?_⟩,fun _ => haround,fun _ _ _ => trivial⟩
  · have hm' : u.committed k day = .ok m := (haround.committed day).symm.trans hm
    have harchive : ((archiveRules k).exec (.moveUnique name bytes) c u).2.archive day =
        u.archive day := congrFun haround.archive day
    rw [harchive]
    have hfile' : (u.place name bytes).file? other = some held := hfile
    rw [file?_place] at hfile'
    cases hold : u.file? other with
    | some held' =>
      have heq : held' = held := by simpa [hold] using hfile'
      exact hclean other held (hold.trans (by rw [heq])) day m hm' hname
    | none =>
      by_cases hne : name = other
      · subst hne
        have heq : bytes = held := by simpa [hold] using hfile'
        rw [← heq]
        exact hcovered hold day m hm' hname
      · simp [hold,hne] at hfile'
  · intro r hr
    refine hremoved r ?_
    have hsame : (u.place name bytes).removed = u.removed := by
      unfold ArchiveWorld.place
      split <;> rfl
    exact hsame ▸ hr

end rules

/-- In a run of one archiver, with crashes and with files arriving at any moment, what is
removed from `processed` is a record of the committed and verified archive of its day, when
no file is there at the start, and none arrives, under a name that a committed day lists
without being a record of its archive. -/
theorem removals_archived (k : ArchiveCodec) {w : ArchiveWorld} (hclean : w.Clean k)
    (hstart : w.removed = []) {t : Sys ArchiveEff ArchiveWorld}
    (h : (archiveSystem k).Reach (arrivalCovered k) (Machine.boots w) t) :
    ∀ r ∈ t.world.removed, r.archived k = true := by
  have hmeets := Machine.Reach.rules (M := archiveSystem k) (archiveRules k) (fun _ _ _ => rfl)
    ?_ ?_ ⟨hclean,by simp [hstart]⟩ h
  · exact hmeets.inv.2
  · intro i j hij w w' hguar hj
    exact hguar (by omega)
  · intro pid req hallows w hi
    cases req with
    | archiveDay day o =>
      have hpid : pid = 0 := by simpa [archiveSystem] using hallows
      subst hpid
      exact Wp.bind hi (Wp.mono (archiveDay_ok hi day o) fun _ _ _ _ _ _ _ => trivial)
    | arrive name bytes => exact arrive_ok pid name bytes

/-- The bytes of the frame of `samplePosition "session-a"` with this number. -/
def sampleFrame (digit : UInt8) : Bytes :=
  [123,34,116,114,97,110,115,112,111,114,116,95,118,101,114,115,105,111,110,34,58,34,49,34,44,34,
    101,118,101,110,116,34,58,123,34,112,114,111,116,111,99,111,108,95,118,101,114,115,105,111,110,
    34,58,34,48,46,50,34,44,34,115,101,115,115,105,111,110,95,105,100,34,58,34,115,101,115,115,105,
    111,110,45,97,34,44,34,115,101,113,117,101,110,99,101,34,58] ++
  digit :: [44,34,116,105,109,101,115,116,97,109,112,95,109,115,34,58,49,55,48,48,48,48,48,48,48,48,48,48,
    48,44,34,101,118,101,110,116,95,116,121,112,101,34,58,34,112,111,115,105,116,105,111,110,34,44,
    34,115,111,117,114,99,101,34,58,34,99,97,108,108,98,97,99,107,34,44,34,97,99,99,111,117,110,
    116,95,102,105,110,103,101,114,112,114,105,110,116,34,58,34,115,104,97,50,53,54,58,48,48,48,48,
    48,48,48,48,48,48,48,48,48,48,48,48,48,48,48,48,48,48,48,48,48,48,48,48,48,48,48,48,48,48,48,
    48,48,48,48,48,48,48,48,48,48,48,48,48,48,48,48,48,48,48,48,48,48,48,48,48,48,48,48,48,34,44,
    34,97,99,99,111,117,110,116,95,116,121,112,101,34,58,34,83,84,79,67,75,34,44,34,116,101,114,
    109,105,110,97,108,95,105,110,115,116,97,110,99,101,95,105,100,34,58,110,117,108,108,44,34,112,
    97,121,108,111,97,100,34,58,123,34,115,121,109,98,111,108,34,58,34,54,48,48,48,48,48,46,83,72,
    34,125,125,125]

example : sampleFrame 49 =
    (["\x7b\"transport_version\":\"1\",\"event\":\x7b\"protocol_version\":\"0.2\",",
      "\"session_id\":\"session-a\",\"sequence\":1,\"timestamp_ms\":1700000000000,",
      "\"event_type\":\"position\",\"source\":\"callback\",\"account_fingerprint\":\"",
      sampleFingerprint,"\",\"account_type\":\"STOCK\",\"terminal_instance_id\":null,",
      "\"payload\":\x7b\"symbol\":\"600000.SH\"\x7d\x7d\x7d"].flatMap String.toList).map
        (fun c => UInt8.ofNat c.toNat) := by decide +kernel

/-- A digest, for files this small. -/
def sampleDigest (raw : Bytes) : String :=
  toString (raw.foldl (fun digest b => (digest * 257 + b.toNat + 1) % 2305843009213693951) 0)

/-- It reads the frames of two events. -/
def sampleCodec : ArchiveCodec where
  loads raw :=
    let text := Lines.stripEnd newline raw
    if text = sampleFrame 49 then (samplePosition "session-a" 1).frame.document
    else if text = sampleFrame 50 then (samplePosition "session-a" 2).frame.document
    else none
  loads_newline raw := by simp only [Lines.stripEnd_concat]
  loads_nil := by decide +kernel
  sha256 := sampleDigest
  gzip raw := raw
  manifestText m := [UInt8.ofNat m.eventCount,UInt8.ofNat m.sourceFiles.length]

def sampleFile (digit : UInt8) : SourceFile :=
  ⟨"1700000000000_session-a_1",sampleFrame digit⟩

/-- One file of 2023-11-15. -/
def sampleSpool : ArchiveWorld := ⟨[sampleFile 49],fun _ => none,fun _ => none,fun _ => none,[]⟩

/-- `archive_day` once the day is over, with what it does then. -/
def archiveCall (steps : Nat) : List (Move ArchiveChoice ArchiveStart) :=
  .start 0 (.archiveDay 19676 ⟨0,some 1700000000000,false⟩) :: List.replicate steps (.step 0 {})

theorem sampleSpool_clean : sampleSpool.Clean sampleCodec :=
  fun _ _ _ _ _ hm _ => by
    simp [committed,sampleSpool,ArchiveCodec.verifyCommittedFiles,integrityError] at hm

def noArrival {β : Type} : ArchiveEff β → ArchiveChoice → ArchiveWorld → Bool
  | .moveUnique _ _,_,_ => false
  | _,_,_ => true

theorem removals_archived_removed :
    ∃ t, (archiveSystem sampleCodec).Reach (arrivalCovered sampleCodec)
      (Machine.boots sampleSpool) t ∧ t.world.removed.length = 1 ∧
      ∀ r ∈ t.world.removed, r.archived sampleCodec = true := by
  have hrun : ((archiveSystem sampleCodec).runWhile noArrival (Machine.boots sampleSpool)
      (archiveCall 17)).map (fun t => t.world.removed.length) = some 1 := by
    decide +kernel
  obtain ⟨t,ht,hlength⟩ := Option.map_eq_some_iff.mp hrun
  have hstart : sampleSpool.removed = [] := rfl
  have hreach : (archiveSystem sampleCodec).Reach (arrivalCovered sampleCodec)
      (Machine.boots sampleSpool) t := by
    refine (Machine.Reach.of_runWhile _ ht).mono _ fun o c w ho => ?_
    cases o with
    | moveUnique name bytes => cases ho
    | _ => exact True.intro
  have hall : ∀ r ∈ t.world.removed, r.archived sampleCodec = true := by
    intro r hr
    exact removals_archived sampleCodec sampleSpool_clean hstart hreach r hr
  exact ⟨t,hreach,hlength,hall⟩

/-- The day is archived; another file arrives under the name of its source. -/
def sameNameRun : List (Move ArchiveChoice ArchiveStart) :=
  archiveCall 17 ++
    [.start 1 (.arrive (sampleFile 50).name (sampleFile 50).bytes),.step 1 {},.step 1 {}] ++
    archiveCall 9

/-- The recovery of the committed day removes the file that only has the name. -/
theorem late_file_removed :
    ¬ ∀ (k : ArchiveCodec) (w : ArchiveWorld) (t : Sys ArchiveEff ArchiveWorld), w.removed = [] →
      (archiveSystem k).Reach (fun _ _ _ => True) (Machine.boots w) t →
        ∀ r ∈ t.world.removed, r.archived k = true := by
  intro h
  have hrun : ((archiveSystem sampleCodec).run (Machine.boots sampleSpool) sameNameRun).map
      (fun t => t.world.removed.all (Removal.archived sampleCodec)) = some false := by
    decide +kernel
  obtain ⟨t,ht,hlost⟩ := Option.map_eq_some_iff.mp hrun
  have hreach : (archiveSystem sampleCodec).Reach (fun _ _ _ => True) (Machine.boots sampleSpool) t :=
    Machine.Reach.of_run _ ht
  have hall := h sampleCodec sampleSpool t rfl hreach
  have hkept : t.world.removed.all (Removal.archived sampleCodec) = true := List.all_eq_true.mpr hall
  rw [hkept] at hlost
  cases hlost

end BigQmt
