import BigQmt.Prog
set_option autoImplicit false

/-!
Any number of processes over one shared world. A process is started with a
request, takes one effect at a time, and may be lost between any two of them.
-/

namespace Resumption

/-- What an effect does to the world under a choice of the environment, which
program a start request runs, and which slots may run it. -/
structure Machine (F : Type → Type 1) (C W Req : Type) where
  exec : {β : Type} → F β → C → W → β × W
  boot : Req → Prog F Unit
  allows : Nat → Req → Bool

structure Sys (F : Type → Type 1) (W : Type) where
  world : W
  threads : Nat → Option (Prog F Unit)

inductive Move (C Req : Type) where
  | start (pid : Nat) (req : Req)
  | step (pid : Nat) (c : C)
  | crash (pid : Nat)

/-- A restriction of runs: what holds of each effect when it is taken. -/
abbrev Cond (F : Type → Type 1) (C W : Type) : Type 1 := {β : Type} → F β → C → W → Prop

namespace Machine

variable {F : Type → Type 1} {C W Req : Type} (M : Machine F C W Req)

def boots (w : W) : Sys F W := ⟨w,fun _ => none⟩

def move (s : Sys F W) : Move C Req → Option (Sys F W)
  | .start pid req =>
      match s.threads pid with
      | some _ => none
      | none =>
          if M.allows pid req then
            some { s with threads := Function.update s.threads pid (some (M.boot req)) }
          else none
  | .step pid c =>
      match s.threads pid with
      | none => none
      | some (.pure _) => some { s with threads := Function.update s.threads pid none }
      | some (.op o k) =>
          some ⟨(M.exec o c s.world).2,
            Function.update s.threads pid (some (k (M.exec o c s.world).1))⟩
  | .crash pid => some { s with threads := Function.update s.threads pid none }

def run (s : Sys F W) : List (Move C Req) → Option (Sys F W)
  | [] => some s
  | m :: ms => (M.move s m).bind (fun s => run s ms)

theorem run_append (s : Sys F W) (ms ms' : List (Move C Req)) :
    M.run s (ms ++ ms') = (M.run s ms).bind (fun t => M.run t ms') := by
  induction ms generalizing s with
  | nil => rfl
  | cons m ms ih =>
    simp only [List.cons_append,run]
    cases M.move s m with
    | none => rfl
    | some t => exact ih t

/-- The effect that a move takes meets the check. -/
def passes (ok : {β : Type} → F β → C → W → Bool) (s : Sys F W) : Move C Req → Bool
  | .step pid c =>
      match s.threads pid with
      | some (.op o _) => ok o c s.world
      | _ => true
  | _ => true

/-- A run all of whose effects meet the check. -/
def runWhile (ok : {β : Type} → F β → C → W → Bool) (s : Sys F W) :
    List (Move C Req) → Option (Sys F W)
  | [] => some s
  | m :: ms => if passes ok s m then (M.move s m).bind (fun s => runWhile ok s ms) else none

/-- Everything reached from `s` by moves whose effects all meet `cond`. -/
inductive Reach (cond : Cond F C W) (s : Sys F W) : Sys F W → Prop
  | refl : Reach cond s s
  | tail {t t' : Sys F W} (m : Move C Req) : Reach cond s t →
      (∀ pid c, m = .step pid c → ∀ (β : Type) (o : F β) k,
        t.threads pid = some (.op o k) → cond o c t.world) →
      M.move t m = some t' → Reach cond s t'

theorem Reach.of_run {s t : Sys F W} {ms : List (Move C Req)}
    (h : M.run s ms = some t) : M.Reach (fun _ _ _ => True) s t := by
  suffices ∀ r, M.Reach (fun _ _ _ => True) r s →
      M.Reach (fun _ _ _ => True) r t from this s .refl
  induction ms generalizing s with
  | nil =>
    simp only [run,Option.some.injEq] at h
    subst h
    exact fun _ hr => hr
  | cons m ms ih =>
    simp only [run,Option.bind_eq_some_iff] at h
    obtain ⟨u,hm,hu⟩ := h
    exact fun r hr => ih hu r (hr.tail m (fun _ _ _ _ _ _ _ => trivial) hm)

theorem Reach.of_runWhile {ok : {β : Type} → F β → C → W → Bool} {s t : Sys F W}
    {ms : List (Move C Req)} (h : M.runWhile ok s ms = some t) :
    M.Reach (fun o c w => ok o c w = true) s t := by
  suffices ∀ r, M.Reach (fun o c w => ok o c w = true) r s →
      M.Reach (fun o c w => ok o c w = true) r t from this s .refl
  induction ms generalizing s with
  | nil =>
    simp only [runWhile,Option.some.injEq] at h
    subst h
    exact fun _ hr => hr
  | cons m ms ih =>
    simp only [runWhile] at h
    split at h
    · rename_i hpass
      obtain ⟨u,hm,hu⟩ := Option.bind_eq_some_iff.mp h
      refine fun r hr => ih hu r (hr.tail m ?_ hm)
      rintro pid c rfl β o k hp
      simpa [passes,hp] using hpass
    · cases h

theorem Reach.trans {cond : Cond F C W} {s t u : Sys F W}
    (h₁ : M.Reach cond s t) (h₂ : M.Reach cond t u) : M.Reach cond s u := by
  induction h₂ with
  | refl => exact h₁
  | tail m _ hc hm ih => exact ih.tail m hc hm

theorem Reach.mono {cond cond' : Cond F C W} {s t : Sys F W}
    (hcond : ∀ {β : Type} (o : F β) c w, cond o c w → cond' o c w) (h : M.Reach cond s t) :
    M.Reach cond' s t := by
  induction h with
  | refl => exact .refl
  | tail m _ hc hm ih =>
    exact ih.tail m (fun pid c hstep β o k ho => hcond o c _ (hc pid c hstep β o k ho)) hm

/-- A move starts or ends a process, or takes one effect of one process. -/
theorem move_cases {s t : Sys F W} {m : Move C Req} (h : M.move s m = some t) :
    (∃ pid req, s.threads pid = none ∧ M.allows pid req = true ∧
      t = ⟨s.world,Function.update s.threads pid (some (M.boot req))⟩) ∨
    (∃ pid, t = ⟨s.world,Function.update s.threads pid none⟩) ∨
    (∃ (pid : Nat) (c : C) (β : Type) (o : F β) (k : β → Prog F Unit),
      m = .step pid c ∧ s.threads pid = some (.op o k) ∧
      t = ⟨(M.exec o c s.world).2,
        Function.update s.threads pid (some (k (M.exec o c s.world).1))⟩) := by
  cases m with
  | start pid req =>
    cases hp : s.threads pid with
    | some p => simp [move,hp] at h
    | none =>
      by_cases ha : M.allows pid req = true
      · simp only [move,hp,ha,if_true,Option.some.injEq] at h
        exact .inl ⟨pid,req,hp,ha,h.symm⟩
      · simp [move,hp,ha] at h
  | step pid c =>
    cases hp : s.threads pid with
    | none => simp [move,hp] at h
    | some p =>
      cases p with
      | pure a =>
        simp only [move,hp,Option.some.injEq] at h
        exact .inr (.inl ⟨pid,h.symm⟩)
      | op o k =>
        simp only [move,hp,Option.some.injEq] at h
        exact .inr (.inr ⟨pid,c,_,o,k,rfl,hp,h.symm⟩)
  | crash pid =>
    simp only [move,Option.some.injEq] at h
    exact .inr (.inl ⟨pid,h.symm⟩)

/-- A relation that is reflexive, transitive and kept by every allowed effect
relates the worlds of any two states of a run. -/
theorem Reach.related {cond : Cond F C W} {s t : Sys F W} (G : W → W → Prop)
    (hrefl : ∀ w, G w w) (htrans : ∀ a b c, G a b → G b c → G a c)
    (hexec : ∀ {β : Type} (o : F β) c w, cond o c w → G w (M.exec o c w).2)
    (h : M.Reach cond s t) : G s.world t.world := by
  induction h with
  | refl => exact hrefl _
  | tail m _ hc hm ih =>
    obtain ⟨pid,req,_,_,rfl⟩ | ⟨pid,rfl⟩ | ⟨pid,c,β,o,k,rfl,ho,rfl⟩ := M.move_cases hm
    · exact ih
    · exact ih
    · exact htrans _ _ _ ih (hexec o c _ (hc pid c rfl β o k ho))

/-- An invariant of the world that every allowed effect keeps holds throughout. -/
theorem Reach.invariant {cond : Cond F C W} {s t : Sys F W} (I : W → Prop)
    (hexec : ∀ {β : Type} (o : F β) c w, cond o c w → I w → I (M.exec o c w).2)
    (h : M.Reach cond s t) (hs : I s.world) : I t.world :=
  h.related M (fun w w' => I w → I w') (fun _ h => h) (fun _ _ _ h₁ h₂ h => h₂ (h₁ h))
    hexec hs

/-- When only requests satisfying `P` can be started, every live process only
ever makes such requests. -/
theorem Reach.all {cond : Cond F C W} {s t : Sys F W} (P : {β : Type} → F β → Prop)
    (hboot : ∀ pid req, M.allows pid req = true → (M.boot req).All P)
    (hs : ∀ pid p, s.threads pid = some p → p.All P)
    (h : M.Reach cond s t) : ∀ pid p, t.threads pid = some p → p.All P := by
  induction h with
  | refl => exact hs
  | tail m _ hc hm ih =>
    intro i p hp
    obtain ⟨pid,req,_,ha,rfl⟩ | ⟨pid,rfl⟩ | ⟨pid,c,β,o,k,rfl,ho,rfl⟩ := M.move_cases hm
    · by_cases hi : i = pid
      · subst hi
        simp only [Function.update_self,Option.some.injEq] at hp
        exact hp ▸ hboot i req ha
      · exact ih i p (by simpa [hi] using hp)
    · by_cases hi : i = pid
      · subst hi
        simp at hp
      · exact ih i p (by simpa [hi] using hp)
    · by_cases hi : i = pid
      · subst hi
        simp only [Function.update_self,Option.some.injEq] at hp
        exact hp ▸ (ih i _ ho).2 _
      · exact ih i p (by simpa [hi] using hp)

/-- A run is also one of the machine that lets more processes start. -/
theorem run_allows {allows allows' : Nat → Req → Bool}
    (hallows : ∀ pid req, allows pid req = true → allows' pid req = true) {s t : Sys F W}
    {ms : List (Move C Req)}
    (h : ({ M with allows := allows } : Machine F C W Req).run s ms = some t) :
    ({ M with allows := allows' } : Machine F C W Req).run s ms = some t := by
  induction ms generalizing s with
  | nil => exact h
  | cons m ms ih =>
    obtain ⟨u,hm,hu⟩ := Option.bind_eq_some_iff.mp h
    refine Option.bind_eq_some_iff.mpr ⟨u,?_,ih hu⟩
    cases m with
    | start pid req =>
      simp only [move] at hm ⊢
      split at hm
      · cases hm
      · split at hm
        · rename_i hreq
          rw [if_pos (hallows pid req hreq)]
          exact hm
        · cases hm
    | step pid c => exact hm
    | crash pid => exact hm

/-- An invariant of the world that every such request keeps. -/
theorem Reach.invariant_of_all {cond : Cond F C W} {w : W} {t : Sys F W}
    (P : {β : Type} → F β → Prop) (I : W → Prop)
    (hboot : ∀ pid req, M.allows pid req = true → (M.boot req).All P)
    (hexec : ∀ {β : Type} (o : F β) c w, P o → I w → I (M.exec o c w).2)
    (h : M.Reach cond (boots w) t) (hw : I w) : I t.world := by
  induction h with
  | refl => exact hw
  | tail m hr _ hm ih =>
    have hlive := hr.all M P hboot (fun pid p hp => by cases hp)
    obtain ⟨pid,req,_,_,rfl⟩ | ⟨pid,rfl⟩ | ⟨pid,c,β,o,k,rfl,ho,rfl⟩ := M.move_cases hm
    · exact ih
    · exact ih
    · exact hexec o c _ (hlive pid _ ho).1 ih

end Machine
end Resumption
