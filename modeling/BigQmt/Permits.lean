import BigQmt.Machine
set_option autoImplicit false

/-!
One-shot permits. An effect may grant a permit for a key by raising a flag that
is never lowered, and another effect uses the permit. When each process uses
only the permit it was granted last, no key is ever used twice.
-/

namespace Resumption

/-- `grants` reads the permit off the answer of an effect; `count` counts the
uses of a key in the world. -/
structure Permits (F : Type → Type 1) (W K : Type) where
  grants : {β : Type} → F β → β → Option K
  uses : {β : Type} → F β → Option K
  raised : K → W → Prop
  count : K → W → Nat

namespace Permits

variable {F : Type → Type 1} {C W K Req : Type} (P : Permits F W K)
variable {α β ε σ : Type}

/-- The permit held after an effect was answered. -/
def after (held : Option K) (o : F β) (b : β) : Option K :=
  match P.grants o b with
  | some k => some k
  | none => if (P.uses o).isSome then none else held

/-- Starting with the permit `held`, the program uses only the permit it holds,
and ends in `Q`. -/
def Lin (Q : Option K → α → Prop) : Prog F α → Option K → Prop
  | .pure a,held => Q held a
  | .op o k,held => (∀ key, P.uses o = some key → held = some key) ∧
      ∀ b, Lin Q (k b) (P.after held o b)

/-- An effect that neither grants nor uses. -/
def Inert {β : Type} (o : F β) : Prop := P.uses o = none ∧ ∀ b, P.grants o b = none

/-- An effect that does not use, and may grant. -/
def Unused {β : Type} (o : F β) : Prop := P.uses o = none

variable {P}

theorem Lin.bind {Q : Option K → β → Prop} {p : Prog F α} {f : α → Prog F β} {held : Option K}
    (h : P.Lin (fun held a => P.Lin Q (f a) held) p held) : P.Lin Q (p.bind f) held := by
  induction p generalizing held with
  | pure a => exact h
  | op o k ih => exact ⟨h.1,fun b => ih b (h.2 b)⟩

theorem Lin.mono {Q Q' : Option K → α → Prop} {p : Prog F α} {held : Option K}
    (h : P.Lin Q p held) (hq : ∀ held a, Q held a → Q' held a) : P.Lin Q' p held := by
  induction p generalizing held with
  | pure a => exact hq held a h
  | op o k ih => exact ⟨h.1,fun b => ih b (h.2 b)⟩

theorem Lin.of_inert {p : Prog F α} (h : p.All P.Inert) (held : Option K) :
    P.Lin (fun held' _ => held' = held) p held := by
  induction p with
  | pure a => rfl
  | op o k ih =>
    obtain ⟨⟨hu,hg⟩,hk⟩ := h
    refine ⟨fun key hkey => ?_,fun b => ?_⟩
    · rw [hu] at hkey
      cases hkey
    · have hafter : P.after held o b = held := by simp [after,hg,hu]
      rw [hafter]
      exact ih b (hk b)

theorem Lin.of_unused {p : Prog F α} (h : p.All P.Unused) (held : Option K) :
    P.Lin (fun _ _ => True) p held := by
  induction p generalizing held with
  | pure a => trivial
  | op o k ih =>
    obtain ⟨hu,hk⟩ := h
    refine ⟨fun key hkey => ?_,fun b => ih b (hk b) _⟩
    rw [Unused] at hu
    rw [hu] at hkey
    cases hkey

/-- The rules for methods: after an exception nothing is held back. -/
def LinOk (P : Permits F W K) (x : Proc F ε σ α) (s : σ) (held : Option K)
    (Q : Option K → Except ε α → Prop) : Prop :=
  P.Lin (fun held r => Q held r.1) (x s) held

theorem LinOk.bind {x : Proc F ε σ α} {f : α → Proc F ε σ β} {s : σ} {held : Option K}
    {Q : Option K → Except ε β → Prop}
    (h : P.Lin (fun held r => match r.1 with
      | .ok a => P.LinOk (f a) r.2 held Q
      | .error e => Q held (.error e)) (x s) held) : P.LinOk (x >>= f) s held Q := by
  refine Lin.bind (h.mono fun held r hr => ?_)
  obtain ⟨r,s'⟩ := r
  cases r with
  | ok a => exact hr
  | error e => exact hr

/-- A method that neither grants nor uses may stand before any other. -/
theorem LinOk.bind_inert {x : Proc F ε σ α} {f : α → Proc F ε σ β} {s : σ} {held : Option K}
    (hx : x.All P.Inert) (hf : ∀ a s, P.LinOk (f a) s held (fun _ _ => True)) :
    P.LinOk (x >>= f) s held (fun _ _ => True) := by
  refine LinOk.bind ((Lin.of_inert (hx s) held).mono fun held' r hr => ?_)
  subst hr
  obtain ⟨r,s'⟩ := r
  cases r with
  | ok a => exact hf a s'
  | error e => trivial

/-- An effect that raises the flag of `key`, before a method that holds it. -/
theorem LinOk.bind_grant {o : F (Except ε α)} {f : α → Proc F ε σ β} {s : σ}
    {held : Option K} {key : K} (hu : P.uses o = none)
    (hg : ∀ a, P.grants o (.ok a) = some key)
    (hf : ∀ a s, P.LinOk (f a) s (some key) (fun _ _ => True)) :
    P.LinOk (Proc.call o >>= f) s held (fun _ _ => True) := by
  refine LinOk.bind ⟨fun k hk => ?_,fun r => ?_⟩
  · rw [hu] at hk
    cases hk
  · cases r with
    | error e => trivial
    | ok a =>
      have hafter : P.after held o (.ok a) = some key := by simp [after,hg]
      rw [hafter]
      exact hf a s

/-- An effect that uses the permit held, before a method that uses none. -/
theorem LinOk.bind_use {o : F α} {f : α → Proc F ε σ β} {s : σ} {key : K}
    (hu : P.uses o = some key) (hf : ∀ a, (f a).All P.Unused) :
    P.LinOk (Proc.ask o >>= f) s (some key) (fun _ _ => True) := by
  refine LinOk.bind ⟨fun k hk => ?_,fun a => Lin.of_unused (hf a s) _⟩
  rw [← hk,hu]

theorem LinOk.of_unused {x : Proc F ε σ α} (h : x.All P.Unused) (s : σ) (held : Option K) :
    P.LinOk x s held (fun _ _ => True) :=
  Lin.of_unused (h s) held

/-- A method that may end with any permit, before one that may start with any. -/
theorem LinOk.seq {x : Proc F ε σ α} {f : α → Proc F ε σ β} {s : σ} {held : Option K}
    (hx : P.LinOk x s held (fun _ _ => True))
    (hf : ∀ a s held, P.LinOk (f a) s held (fun _ _ => True)) :
    P.LinOk (x >>= f) s held (fun _ _ => True) := by
  refine LinOk.bind (hx.mono fun held r _ => ?_)
  obtain ⟨r,s'⟩ := r
  cases r with
  | ok a => exact hf a s' held
  | error e => trivial

theorem LinOk.tryCatch {x : Proc F ε σ α} {f : ε → Proc F ε σ α} {s : σ} {held : Option K}
    (hx : P.LinOk x s held (fun _ _ => True)) (hf : ∀ e, (f e).All P.Unused) :
    P.LinOk (tryCatch x f) s held (fun _ _ => True) := by
  refine Lin.bind (hx.mono fun held r _ => ?_)
  obtain ⟨r,s'⟩ := r
  cases r with
  | ok a => trivial
  | error e => exact Lin.of_unused (hf e s') held

theorem LinOk.each {ι : Type} {f : ι → Proc F ε σ Unit}
    (hf : ∀ a s held, P.LinOk (f a) s held (fun _ _ => True)) (l : List ι) (s : σ)
    (held : Option K) : P.LinOk (Proc.each f l) s held (fun _ _ => True) := by
  induction l generalizing s held with
  | nil => trivial
  | cons a l ih => exact LinOk.seq (hf a s held) fun _ => ih

/-- Who holds which permit: a permit is held by one process, for a key that is
raised and not yet used, and a used key stays raised. -/
structure Held (P : Permits F W K) (s : Sys F W) (held : Nat → Option K) : Prop where
  lin : ∀ i p, s.threads i = some p → P.Lin (fun _ _ => True) p (held i)
  unique : ∀ i j k, held i = some k → held j = some k → i = j
  unused : ∀ i k, held i = some k → P.raised k s.world ∧ P.count k s.world = 0
  count : ∀ k, P.count k s.world ≤ 1 ∧ (P.count k s.world ≠ 0 → P.raised k s.world)

theorem Held.drop {s : Sys F W} {held : Nat → Option K} (h : P.Held s held) (pid : Nat)
    (p : Option (Prog F Unit)) (hp : ∀ q, p = some q → P.Lin (fun _ _ => True) q none) :
    P.Held ⟨s.world,Function.update s.threads pid p⟩ (Function.update held pid none) := by
  have hold : ∀ i k, Function.update held pid none i = some k → held i = some k := by
    intro i k hi
    by_cases hip : i = pid
    · subst hip
      simp at hi
    · simpa [hip] using hi
  refine ⟨?_,fun i j k hi hj => h.unique i j k (hold i k hi) (hold j k hj),
    fun i k hi => h.unused i k (hold i k hi),h.count⟩
  intro i q hq
  by_cases hip : i = pid
  · subst hip
    simp only [Function.update_self] at hq ⊢
    exact hp q hq
  · simp only [Function.update_of_ne hip] at hq ⊢
    exact h.lin i q hq

section lawful
variable [DecidableEq K]

/-- The laws that tie the permits to a machine. -/
structure Lawful (P : Permits F W K) (M : Machine F C W Req) : Prop where
  mono : ∀ {β : Type} (o : F β) c w k, P.raised k w → P.raised k (M.exec o c w).2
  grant : ∀ {β : Type} (o : F β) c w k, P.grants o (M.exec o c w).1 = some k →
    ¬ P.raised k w ∧ P.raised k (M.exec o c w).2
  once : ∀ {β : Type} (o : F β) b k, P.grants o b = some k → P.uses o = none
  count : ∀ {β : Type} (o : F β) c w k, P.count k (M.exec o c w).2 =
    P.count k w + if P.uses o = some k then 1 else 0

theorem Held.step {M : Machine F C W Req} (laws : P.Lawful M) {s : Sys F W}
    {held : Nat → Option K} (h : P.Held s held) {pid : Nat} {c : C} {o : F β}
    {k : β → Prog F Unit} (ho : s.threads pid = some (.op o k)) :
    P.Held ⟨(M.exec o c s.world).2,
        Function.update s.threads pid (some (k (M.exec o c s.world).1))⟩
      (Function.update held pid (P.after (held pid) o (M.exec o c s.world).1)) := by
  obtain ⟨huse,hrest⟩ := h.lin pid _ ho
  have hmono := fun key => laws.mono o c s.world key
  have hcount := fun key => laws.count o c s.world key
  have hother : ∀ i key, i ≠ pid → held i = some key → P.uses o ≠ some key := by
    intro i key hi hk hu
    exact hi (h.unique i pid key hk (huse key hu))
  refine ⟨?_,?_,?_,?_⟩
  · intro i p hp
    by_cases hi : i = pid
    · subst hi
      simp only [Function.update_self,Option.some.injEq] at hp ⊢
      exact hp ▸ hrest _
    · simp only [Function.update_of_ne hi] at hp ⊢
      exact h.lin i p hp
  · intro i j key hi hj
    cases hg : P.grants o (M.exec o c s.world).1 with
    | none =>
      have hback : ∀ i, Function.update held pid (P.after (held pid) o (M.exec o c s.world).1) i =
          some key → held i = some key := by
        intro i hi
        by_cases hip : i = pid
        · subst hip
          simp only [Function.update_self,after,hg] at hi
          split at hi
          · cases hi
          · exact hi
        · simpa [hip] using hi
      exact h.unique i j key (hback i hi) (hback j hj)
    | some granted =>
      have hfresh := (laws.grant o c s.world granted hg).1
      have hback : ∀ i, Function.update held pid (P.after (held pid) o (M.exec o c s.world).1) i =
          some key → i = pid ∧ key = granted ∨ held i = some key ∧ i ≠ pid := by
        intro i hi
        by_cases hip : i = pid
        · subst hip
          simp only [Function.update_self,after,hg,Option.some.injEq] at hi
          exact .inl ⟨rfl,hi.symm⟩
        · exact .inr ⟨by simpa [hip] using hi,hip⟩
      obtain ⟨hi',hk⟩ | ⟨hi',hne⟩ := hback i hi <;> obtain ⟨hj',hk'⟩ | ⟨hj',hne'⟩ := hback j hj
      · rw [hi',hj']
      · exact absurd (h.unused j key hj').1 (hk ▸ hfresh)
      · exact absurd (h.unused i key hi').1 (hk' ▸ hfresh)
      · exact h.unique i j key hi' hj'
  · intro i key hi
    have hzero : ∀ key, ¬ P.raised key s.world → P.count key s.world = 0 := by
      intro key hr
      by_contra hc
      exact hr ((h.count key).2 hc)
    by_cases hip : i = pid
    · subst hip
      cases hg : P.grants o (M.exec o c s.world).1 with
      | none =>
        simp only [Function.update_self,after,hg] at hi
        split at hi
        · cases hi
        · rename_i hu
          have hnone : P.uses o = none := by simpa using hu
          obtain ⟨hr,hc⟩ := h.unused i key hi
          exact ⟨hmono key hr,by rw [hcount,hc,hnone]; simp⟩
      | some granted =>
        simp only [Function.update_self,after,hg,Option.some.injEq] at hi
        subst hi
        obtain ⟨hfresh,hr⟩ := laws.grant o c s.world _ hg
        have hnone := laws.once o _ _ hg
        exact ⟨hr,by rw [hcount,hzero _ hfresh,hnone]; simp⟩
    · have hi' : held i = some key := by simpa [hip] using hi
      obtain ⟨hr,hc⟩ := h.unused i key hi'
      exact ⟨hmono key hr,by rw [hcount,hc,if_neg (hother i key hip hi')]⟩
  · intro key
    rw [hcount]
    by_cases hu : P.uses o = some key
    · obtain ⟨hr,hc⟩ := h.unused pid key (huse key hu)
      rw [hc,if_pos hu]
      exact ⟨by omega,fun _ => hmono key hr⟩
    · rw [if_neg hu]
      obtain ⟨hle,hr⟩ := h.count key
      exact ⟨by omega,fun hne => hmono key (hr (by omega))⟩

/-- In every run each key is used at most once, and an invariant that effects
keep when the permits they use are raised holds throughout. -/
theorem Lawful.sound {M : Machine F C W Req} (laws : P.Lawful M)
    (hboot : ∀ pid req, M.allows pid req = true → P.Lin (fun _ _ => True) (M.boot req) none)
    (I : W → Prop)
    (hexec : ∀ {β : Type} (o : F β) c w, (∀ k, P.uses o = some k → P.raised k w) → I w →
      I (M.exec o c w).2)
    {cond : Cond F C W} {w : W} {t : Sys F W} (hw : I w) (hc : ∀ k, P.count k w = 0)
    (h : M.Reach cond (Machine.boots w) t) :
    I t.world ∧ ∃ held, P.Held t held := by
  induction h with
  | refl =>
    refine ⟨hw,fun _ => none,?_,?_,?_,?_⟩
    · intro i p hp
      simp [Machine.boots] at hp
    · intro i j k hi
      cases hi
    · intro i k hi
      cases hi
    · intro k
      have hk : P.count k (Machine.boots (F := F) w).world = 0 := hc k
      rw [hk]
      exact ⟨by omega,fun hne => absurd rfl hne⟩
  | tail m _ hcond hm ih =>
    obtain ⟨hi,held,hh⟩ := ih
    obtain ⟨pid,req,_,ha,rfl⟩ | ⟨pid,rfl⟩ | ⟨pid,c,β,o,k,rfl,ho,rfl⟩ := M.move_cases hm
    · refine ⟨hi,_,hh.drop pid (some (M.boot req)) fun q hq => ?_⟩
      rw [← Option.some.inj hq]
      exact hboot pid req ha
    · exact ⟨hi,_,hh.drop pid none fun q hq => by cases hq⟩
    · refine ⟨hexec o c _ (fun key hu => ?_) hi,_,hh.step laws ho⟩
      exact (hh.unused pid key ((hh.lin pid _ ho).1 key hu)).1

end lawful
end Permits
end Resumption
