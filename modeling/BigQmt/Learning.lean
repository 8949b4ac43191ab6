import BigQmt.Machine
set_option autoImplicit false

/-!
What a process knows: the values that the answers to its own requests gave it
since it was started, and programs that only act on what they know.
-/

namespace Resumption

/-- What an answer teaches, and which requests the knowledge allows. -/
structure Learning (F : Type → Type 1) (K : Type) where
  learn : {β : Type} → F β → β → List K
  allow : {β : Type} → F β → List K → Prop

variable {F : Type → Type 1} {K : Type}

/-- Every request is allowed by what the answers before it taught; `Q` holds of the
knowledge and the result at the end. -/
def Prog.Follows (L : Learning F K) {α : Type} (Q : List K → α → Prop) :
    Prog F α → List K → Prop
  | .pure a,known => Q known a
  | .op o k,known => L.allow o known ∧ ∀ b, (k b).Follows L Q (L.learn o b ++ known)

section
variable {L : Learning F K} {α β : Type}

theorem Prog.Follows.mono {Q Q' : List K → α → Prop} {p : Prog F α} {known : List K}
    (h : p.Follows L Q known) (hq : ∀ known a, Q known a → Q' known a) :
    p.Follows L Q' known := by
  induction p generalizing known with
  | pure a => exact hq known a h
  | op o k ih => exact ⟨h.1,fun b => ih b (h.2 b)⟩

theorem Prog.Follows.bind {Q : List K → β → Prop} {p : Prog F α} {f : α → Prog F β}
    {known : List K} (h : p.Follows L (fun known a => (f a).Follows L Q known) known) :
    (p.bind f).Follows L Q known := by
  induction p generalizing known with
  | pure a => exact h
  | op o k ih => exact ⟨h.1,fun b => ih b (h.2 b)⟩

/-- A method that follows the rule from any object that fits the knowledge, and leaves
such an object. -/
def Proc.Follows (L : Learning F K) {ε σ : Type} (I : List K → σ → Prop)
    (x : Proc F ε σ α) : Prop :=
  ∀ s known, I known s → (x s).Follows L (fun known r => I known r.2) known

section proc
variable {ε σ : Type} {I : List K → σ → Prop}

theorem Proc.follows_bind {x : Proc F ε σ α} {f : α → Proc F ε σ β} (hx : x.Follows L I)
    (hf : ∀ a, (f a).Follows L I) : (x >>= f).Follows L I := by
  intro s known hs
  refine Prog.Follows.bind ((hx s known hs).mono fun known r hr => ?_)
  rcases r with ⟨e | a,s'⟩
  · exact hr
  · exact hf a s' known hr

theorem Proc.follows_tryCatch {x : Proc F ε σ α} {f : ε → Proc F ε σ α} (hx : x.Follows L I)
    (hf : ∀ e, (f e).Follows L I) : (tryCatch x f).Follows L I := by
  intro s known hs
  refine Prog.Follows.bind ((hx s known hs).mono fun known r hr => ?_)
  rcases r with ⟨e | a,s'⟩
  · exact hf e s' known hr
  · exact hr

/-- A method that reads its object first. -/
theorem Proc.follows_self {f : σ → Proc F ε σ α} (hf : ∀ s known, I known s →
    (f s s).Follows L (fun known r => I known r.2) known) : (self >>= f).Follows L I :=
  fun s known hs => hf s known hs

theorem Proc.follows_closed : Proc.Closed (fun (x : Proc F ε σ _) => x.Follows L I) :=
  ⟨fun _ _ _ hs => hs,fun _ _ _ hs => hs,Proc.follows_bind,Proc.follows_tryCatch,
    fun _ _ hs => hs⟩

end proc
end

namespace Machine

variable {C W Req : Type} (M : Machine F C W Req) (L : Learning F K)

/-- What the processes know after a move. -/
def note (s : Sys F W) (known : Nat → List K) : Move C Req → Nat → List K
  | .start pid _ => Function.update known pid []
  | .crash pid => Function.update known pid []
  | .step pid c =>
      match s.threads pid with
      | some (.op o _) => Function.update known pid (L.learn o (M.exec o c s.world).1 ++ known pid)
      | _ => Function.update known pid []

/-- What the processes know after a run. -/
def known (s : Sys F W) (kn : Nat → List K) : List (Move C Req) → Nat → List K
  | [] => kn
  | m :: ms =>
      match M.move s m with
      | none => kn
      | some t => known t (note M L s kn m) ms

/-- One move keeps every live process on its rule. -/
theorem follows_move {s t : Sys F W} {m : Move C Req} {kn : Nat → List K}
    (hboot : ∀ pid req, M.allows pid req = true → (M.boot req).Follows L (fun _ _ => True) [])
    (hs : ∀ pid p, s.threads pid = some p → p.Follows L (fun _ _ => True) (kn pid))
    (hm : M.move s m = some t) :
    ∀ pid p, t.threads pid = some p → p.Follows L (fun _ _ => True) (M.note L s kn m pid) := by
  intro i p hp
  cases m with
  | start pid req =>
    cases ht : s.threads pid with
    | some q => simp [move,ht] at hm
    | none =>
      simp only [move,ht] at hm
      split at hm
      · rename_i ha
        obtain rfl := Option.some.inj hm
        by_cases hi : i = pid
        · subst hi
          simp only [Function.update_self,Option.some.injEq] at hp
          simp only [note,Function.update_self]
          exact hp ▸ hboot i req ha
        · simp only [Function.update_of_ne hi] at hp
          simp only [note,Function.update_of_ne hi]
          exact hs i p hp
      · cases hm
  | crash pid =>
    obtain rfl := Option.some.inj hm
    by_cases hi : i = pid
    · subst hi
      simp at hp
    · simp only [Function.update_of_ne hi] at hp
      simp only [note,Function.update_of_ne hi]
      exact hs i p hp
  | step pid c =>
    cases ht : s.threads pid with
    | none => simp [move,ht] at hm
    | some q =>
      cases q with
      | pure a =>
        simp only [move,ht,Option.some.injEq] at hm
        subst hm
        by_cases hi : i = pid
        · subst hi
          simp at hp
        · simp only [Function.update_of_ne hi] at hp
          simp only [note,ht,Function.update_of_ne hi]
          exact hs i p hp
      | op o k =>
        simp only [move,ht,Option.some.injEq] at hm
        subst hm
        by_cases hi : i = pid
        · subst hi
          simp only [Function.update_self,Option.some.injEq] at hp
          simp only [note,ht,Function.update_self]
          exact hp ▸ (hs i _ ht).2 _
        · simp only [Function.update_of_ne hi] at hp
          simp only [note,ht,Function.update_of_ne hi]
          exact hs i p hp

theorem follows_run {s t : Sys F W} {ms : List (Move C Req)} {kn : Nat → List K}
    (hboot : ∀ pid req, M.allows pid req = true → (M.boot req).Follows L (fun _ _ => True) [])
    (hs : ∀ pid p, s.threads pid = some p → p.Follows L (fun _ _ => True) (kn pid))
    (h : M.run s ms = some t) :
    ∀ pid p, t.threads pid = some p → p.Follows L (fun _ _ => True) (M.known L s kn ms pid) := by
  induction ms generalizing s kn with
  | nil =>
    obtain rfl : s = t := Option.some.inj h
    exact hs
  | cons m ms ih =>
    simp only [run] at h
    cases hm : M.move s m with
    | none => simp [hm] at h
    | some u =>
      rw [hm] at h
      simp only [known,hm]
      exact ih (M.follows_move L hboot hs hm) h

theorem known_cons {s t : Sys F W} {m : Move C Req} (h : M.move s m = some t)
    (kn : Nat → List K) (ms : List (Move C Req)) :
    M.known L s kn (m :: ms) = M.known L t (M.note L s kn m) ms := by
  simp only [known,h]

/-- A move ends or starts the process in a slot, leaves it and what it knows, or answers
its request. -/
theorem note_cases {s t : Sys F W} {m : Move C Req} (h : M.move s m = some t)
    (kn : Nat → List K) (i : Nat) :
    (M.note L s kn m i = [] ∧ (t.threads i = none ∨ ∃ req, m = .start i req)) ∨
    (M.note L s kn m i = kn i ∧ t.threads i = s.threads i) ∨
    ∃ (c : C) (β : Type) (o : F β) (k : β → Prog F Unit), m = .step i c ∧
      s.threads i = some (.op o k) ∧
      M.note L s kn m i = L.learn o (M.exec o c s.world).1 ++ kn i := by
  cases m with
  | start pid req =>
    by_cases hi : i = pid
    · subst hi
      exact .inl ⟨by simp [note],.inr ⟨req,rfl⟩⟩
    · refine .inr (.inl ⟨by simp [note,hi],?_⟩)
      cases ht : s.threads pid with
      | some p => simp [move,ht] at h
      | none =>
        simp only [move,ht] at h
        split at h
        · obtain rfl := Option.some.inj h
          simp [hi]
        · cases h
  | crash pid =>
    obtain rfl := Option.some.inj h
    by_cases hi : i = pid
    · subst hi
      exact .inl ⟨by simp [note],.inl (by simp)⟩
    · exact .inr (.inl ⟨by simp [note,hi],by simp [hi]⟩)
  | step pid c =>
    cases ht : s.threads pid with
    | none => simp [move,ht] at h
    | some p =>
      cases p with
      | pure a =>
        simp only [move,ht,Option.some.injEq] at h
        subst h
        by_cases hi : i = pid
        · subst hi
          exact .inl ⟨by simp [note,ht],.inl (by simp)⟩
        · exact .inr (.inl ⟨by simp [note,ht,hi],by simp [hi]⟩)
      | op o k =>
        simp only [move,ht,Option.some.injEq] at h
        subst h
        by_cases hi : i = pid
        · subst hi
          exact .inr (.inr ⟨c,_,o,k,rfl,ht,by simp [note,ht]⟩)
        · exact .inr (.inl ⟨by simp [note,ht,hi],by simp [hi]⟩)

/-- What the request that a move answers shows. -/
def reveal (f : {β : Type} → F β → List K) (s : Sys F W) : Move C Req → List K
  | .step pid _ =>
      match s.threads pid with
      | some (.op o _) => f o
      | _ => []
  | _ => []

/-- What the requests of a run show, in their order. -/
def shown (f : {β : Type} → F β → List K) (s : Sys F W) : List (Move C Req) → List K
  | [] => []
  | m :: ms =>
      match M.move s m with
      | none => []
      | some t => reveal f s m ++ shown f t ms

theorem shown_cons (f : {β : Type} → F β → List K) {s t : Sys F W} {m : Move C Req}
    (h : M.move s m = some t) (ms : List (Move C Req)) :
    M.shown f s (m :: ms) = reveal f s m ++ M.shown f t ms := by
  simp only [shown,h]

theorem shown_append (f : {β : Type} → F β → List K) {s t : Sys F W} {ms : List (Move C Req)}
    (h : M.run s ms = some t) (ms' : List (Move C Req)) :
    M.shown f s (ms ++ ms') = M.shown f s ms ++ M.shown f t ms' := by
  induction ms generalizing s with
  | nil =>
    obtain rfl : s = t := Option.some.inj h
    rfl
  | cons m ms ih =>
    simp only [run] at h
    cases hm : M.move s m with
    | none => simp [hm] at h
    | some u =>
      rw [hm] at h
      simp only [List.cons_append,shown,hm,List.append_assoc]
      rw [ih h]

end Machine
end Resumption
