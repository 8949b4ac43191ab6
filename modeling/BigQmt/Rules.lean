import BigQmt.Machine
set_option autoImplicit false

/-!
Rely/guarantee rules for the processes of a machine: what each process may
assume of the others' effects and what it promises of its own.
-/

namespace Resumption

/-- `rely i` is what process `i` tolerates from the others, `guar i` what it
does itself, `need` what holds when an effect is asked for, and `inv` what holds
of the world between any two effects. -/
structure Rules (F : Type → Type 1) (C W : Type) where
  exec : {β : Type} → F β → C → W → β × W
  cond : Cond F C W
  need : {β : Type} → F β → W → Prop
  inv : W → Prop
  rely : Nat → W → W → Prop
  guar : Nat → W → W → Prop
  rely_refl : ∀ i w, rely i w w
  rely_trans : ∀ i a b c, rely i a b → rely i b c → rely i a c

namespace Rules

variable {F : Type → Type 1} {C W : Type} (R : Rules F C W) {α β : Type}

/-- From `w`, process `i` running the program keeps `inv` and `guar i` at every
effect it takes, and ends in `Q`, as long as the others keep `rely i`. -/
def Wp (i : Nat) (Q : α → W → Prop) : Prog F α → W → Prop
  | .pure a, w => ∀ w', R.rely i w w' → R.inv w' → Q a w'
  | .op o k, w => ∀ w', R.rely i w w' → R.inv w' → R.need o w' ∧ ∀ c, R.cond o c w' →
      R.inv (R.exec o c w').2 ∧ R.guar i w' (R.exec o c w').2 ∧
      Wp i Q (k (R.exec o c w').1) (R.exec o c w').2

variable {R} {i : Nat}

theorem Wp.rely {Q : α → W → Prop} {p : Prog F α} {w w' : W}
    (h : R.Wp i Q p w) (hr : R.rely i w w') : R.Wp i Q p w' := by
  cases p with
  | pure a => exact fun u hu hi => h u (R.rely_trans i _ _ _ hr hu) hi
  | op o k => exact fun u hu hi => h u (R.rely_trans i _ _ _ hr hu) hi

theorem Wp.mono {Q Q' : α → W → Prop} {p : Prog F α} {w : W}
    (h : R.Wp i Q p w) (hq : ∀ a w, R.inv w → Q a w → Q' a w) : R.Wp i Q' p w := by
  induction p generalizing w with
  | pure a => exact fun u hu hi => hq a u hi (h u hu hi)
  | op o k ih =>
    intro u hu hi
    refine ⟨(h u hu hi).1,fun c hc => ?_⟩
    obtain ⟨h₁,h₂,h₃⟩ := (h u hu hi).2 c hc
    exact ⟨h₁,h₂,ih _ h₃⟩

theorem Wp.bind {Q : β → W → Prop} {p : Prog F α} {f : α → Prog F β} {w : W}
    (hi : R.inv w) (h : R.Wp i (fun a w => R.Wp i Q (f a) w) p w) :
    R.Wp i Q (p.bind f) w := by
  induction p generalizing w with
  | pure a => exact h w (R.rely_refl i w) hi
  | op o k ih =>
    intro u hu hi
    refine ⟨(h u hu hi).1,fun c hc => ?_⟩
    obtain ⟨h₁,h₂,h₃⟩ := (h u hu hi).2 c hc
    exact ⟨h₁,h₂,ih _ h₁ h₃⟩

/-- What neither the others nor the process itself take back stays true. -/
theorem Wp.frame {A : W → Prop} (hr : ∀ w w', R.rely i w w' → A w → A w')
    (hg : ∀ w w', R.guar i w w' → A w → A w') {Q : α → W → Prop} {p : Prog F α} {w : W}
    (h : R.Wp i Q p w) (hw : A w) : R.Wp i (fun a w => Q a w ∧ A w) p w := by
  induction p generalizing w with
  | pure a => exact fun u hu hi => ⟨h u hu hi,hr _ _ hu hw⟩
  | op o k ih =>
    intro u hu hi
    refine ⟨(h u hu hi).1,fun c hc => ?_⟩
    obtain ⟨h₁,h₂,h₃⟩ := (h u hu hi).2 c hc
    exact ⟨h₁,h₂,ih _ h₃ (hg _ _ h₂ (hr _ _ hu hw))⟩

/-- An effect that keeps the invariant, the guarantee and the assertion `A`. -/
def Keeps (R : Rules F C W) (i : Nat) (A : W → Prop) {β : Type} (o : F β) : Prop :=
  ∀ w, R.inv w → A w → R.need o w ∧ ∀ c, R.cond o c w →
    R.inv (R.exec o c w).2 ∧ R.guar i w (R.exec o c w).2 ∧ A (R.exec o c w).2

def Stable (R : Rules F C W) (i : Nat) (A : W → Prop) : Prop :=
  ∀ w w', R.rely i w w' → R.inv w' → A w → A w'

theorem Wp.of_all {A : W → Prop} (hA : R.Stable i A) {p : Prog F α} {w : W}
    (hp : p.All (R.Keeps i A)) (hw : A w) : R.Wp i (fun _ w => A w) p w := by
  induction p generalizing w with
  | pure a => exact fun u hu hi => hA _ _ hu hi hw
  | op o k ih =>
    intro u hu hi
    refine ⟨(hp.1 u hi (hA _ _ hu hi hw)).1,fun c hc => ?_⟩
    obtain ⟨h₁,h₂,h₃⟩ := (hp.1 u hi (hA _ _ hu hi hw)).2 c hc
    exact ⟨h₁,h₂,ih _ (hp.2 _) h₃⟩

/-- The rules for methods: the postcondition sees the result and the object. -/
def Ok {ε σ : Type} (R : Rules F C W) (i : Nat) (x : Proc F ε σ α) (s : σ)
    (Q : Except ε α → σ → W → Prop) (w : W) : Prop :=
  R.Wp i (fun r w => Q r.1 r.2 w) (x s) w

section ok
variable {ε σ : Type} {s : σ} {w : W}

theorem Ok.mono {x : Proc F ε σ α} {Q Q' : Except ε α → σ → W → Prop}
    (h : R.Ok i x s Q w) (hq : ∀ r s w, R.inv w → Q r s w → Q' r s w) :
    R.Ok i x s Q' w := Wp.mono h (fun r w hi => hq r.1 r.2 w hi)

theorem Ok.frame {A : W → Prop} (hr : ∀ w w', R.rely i w w' → A w → A w')
    (hg : ∀ w w', R.guar i w w' → A w → A w') {x : Proc F ε σ α} {Q : Except ε α → σ → W → Prop}
    (h : R.Ok i x s Q w) (hw : A w) : R.Ok i x s (fun r s w => Q r s w ∧ A w) w :=
  Wp.frame hr hg h hw

theorem Ok.pure {a : α} {Q : Except ε α → σ → W → Prop}
    (h : ∀ u, R.rely i w u → R.inv u → Q (.ok a) s u) : R.Ok i (Pure.pure a : Proc F ε σ α) s Q w := h

theorem Ok.bind {x : Proc F ε σ α} {f : α → Proc F ε σ β}
    {Q : Except ε β → σ → W → Prop} (hi : R.inv w)
    (h : R.Ok i x s (fun r s w => match r with
      | .ok a => R.Ok i (f a) s Q w
      | .error e => ∀ w', R.rely i w w' → R.inv w' → Q (.error e) s w') w) :
    R.Ok i (x >>= f) s Q w := by
  refine Wp.bind hi (Wp.mono h fun r w _ hr => ?_)
  rcases r with ⟨_ | a,s'⟩
  · exact hr
  · exact hr

theorem Ok.tryCatch {x : Proc F ε σ α} {f : ε → Proc F ε σ α}
    {Q : Except ε α → σ → W → Prop} (hi : R.inv w)
    (h : R.Ok i x s (fun r s w => match r with
      | .ok a => ∀ w', R.rely i w w' → R.inv w' → Q (.ok a) s w'
      | .error e => R.Ok i (f e) s Q w) w) :
    R.Ok i (tryCatch x f) s Q w := by
  refine Wp.bind hi (Wp.mono h fun r w _ hr => ?_)
  rcases r with ⟨_ | a,s'⟩
  · exact hr
  · exact hr

theorem Ok.of_all {x : Proc F ε σ α} {A : W → Prop} (hA : R.Stable i A)
    (hx : x.All (R.Keeps i A)) (hw : A w) : R.Ok i x s (fun _ _ w => A w) w :=
  Wp.of_all hA (hx s) hw

/-- One effect: what is needed where it is taken, and what it leaves. -/
def After (R : Rules F C W) (i : Nat) {β : Type} (o : F β) (Q : β → W → Prop) (w : W) : Prop :=
  R.need o w ∧ ∀ c, R.cond o c w → R.inv (R.exec o c w).2 ∧ R.guar i w (R.exec o c w).2 ∧
    Q (R.exec o c w).1 (R.exec o c w).2

theorem Ok.bind_ask {o : F α} {f : α → Proc F ε σ β} {A : α → W → Prop}
    {Q : Except ε β → σ → W → Prop} (h : ∀ u, R.rely i w u → R.inv u → R.After i o A u)
    (hf : ∀ a w, R.inv w → A a w → R.Ok i (f a) s Q w) : R.Ok i (Proc.ask o >>= f) s Q w := by
  intro u hu hi
  obtain ⟨hneed,hcond⟩ := h u hu hi
  refine ⟨hneed,fun c hc => ?_⟩
  obtain ⟨hinv,hguar,hq⟩ := hcond c hc
  exact ⟨hinv,hguar,hf _ _ hinv hq⟩

theorem Ok.bind_call {o : F (Except ε α)} {f : α → Proc F ε σ β} {A : Except ε α → W → Prop}
    {Q : Except ε β → σ → W → Prop} (h : ∀ u, R.rely i w u → R.inv u → R.After i o A u)
    (he : ∀ e w, R.inv w → A (.error e) w → ∀ u, R.rely i w u → R.inv u → Q (.error e) s u)
    (hf : ∀ a w, R.inv w → A (.ok a) w → R.Ok i (f a) s Q w) :
    R.Ok i (Proc.call o >>= f) s Q w := by
  intro u hu hi
  obtain ⟨hneed,hcond⟩ := h u hu hi
  refine ⟨hneed,fun c hc => ?_⟩
  obtain ⟨hinv,hguar,hq⟩ := hcond c hc
  refine ⟨hinv,hguar,?_⟩
  cases hr : (R.exec o c u).1 with
  | ok a =>
    rw [hr] at hq
    exact hf a _ hinv hq
  | error e =>
    rw [hr] at hq
    exact he e _ hinv hq

theorem Ok.call {o : F (Except ε α)} {Q : Except ε α → W → Prop} (hQ : ∀ r, R.Stable i (Q r))
    (h : ∀ u, R.rely i w u → R.inv u → R.After i o Q u) :
    R.Ok i (Proc.call o) s (fun r _ w => Q r w) w := by
  intro u hu hi
  obtain ⟨hneed,hcond⟩ := h u hu hi
  refine ⟨hneed,fun c hc => ?_⟩
  obtain ⟨hinv,hguar,hq⟩ := hcond c hc
  exact ⟨hinv,hguar,fun v hv hi => hQ _ _ _ hv hi hq⟩

theorem Ok.bind_ofExcept {r : Except ε α} {f : α → Proc F ε σ β} {Q : Except ε β → σ → W → Prop}
    (he : ∀ e u, R.rely i w u → R.inv u → Q (.error e) s u)
    (hf : ∀ a, r = .ok a → R.Ok i (f a) s Q w) : R.Ok i (Proc.ofExcept r >>= f) s Q w := by
  cases r with
  | ok a => exact hf a rfl
  | error e => exact he e

theorem Ok.of_post {x : Proc F ε σ α} {r : Except ε α} {s' : σ} {A : W → Prop}
    (hA : R.Stable i A) (hx : x s = .pure (r,s')) (hw : A w) : R.Ok i x s (fun _ _ w => A w) w := by
  unfold Ok
  rw [hx]
  exact fun u hu hi => hA _ _ hu hi hw

theorem Ok.bind_self {f : σ → Proc F ε σ β} {Q : Except ε β → σ → W → Prop}
    (h : R.Ok i (f s) s Q w) : R.Ok i (Proc.self >>= f) s Q w := h

/-- A method that keeps the assertion, before one that starts from it. -/
theorem Ok.bind_keeps {x : Proc F ε σ α} {f : α → Proc F ε σ β} {A : W → Prop}
    {Q : Except ε β → σ → W → Prop} (hA : R.Stable i A) (hx : x.All (R.Keeps i A))
    (hi : R.inv w) (hw : A w) (he : ∀ e s w, R.inv w → A w → Q (.error e) s w)
    (hf : ∀ a s w, R.inv w → A w → R.Ok i (f a) s Q w) : R.Ok i (x >>= f) s Q w := by
  refine Ok.bind hi (Ok.mono (Ok.of_all hA hx hw) fun r s w hi hw => ?_)
  cases r with
  | ok a => exact hf a s w hi hw
  | error e => exact fun u hu hi => he e s u hi (hA _ _ hu hi hw)

theorem Ok.bind_all {x : Proc F ε σ α} {f : α → Proc F ε σ β} {A : W → Prop}
    (hA : R.Stable i A) (hx : x.All (R.Keeps i A)) (hi : R.inv w) (hw : A w)
    (hf : ∀ a s w, R.inv w → A w → R.Ok i (f a) s (fun _ _ w => A w) w) :
    R.Ok i (x >>= f) s (fun _ _ w => A w) w :=
  Ok.bind_keeps hA hx hi hw (fun _ _ _ _ hw => hw) hf

theorem Ok.tryCatch_all {x : Proc F ε σ α} {f : ε → Proc F ε σ α} {A : W → Prop}
    (hA : R.Stable i A) (hi : R.inv w) (hx : R.Ok i x s (fun _ _ w => A w) w)
    (hf : ∀ e s w, R.inv w → A w → R.Ok i (f e) s (fun _ _ w => A w) w) :
    R.Ok i (MonadExcept.tryCatch x f) s (fun _ _ w => A w) w := by
  refine Ok.tryCatch hi (Ok.mono hx fun r s w hi hw => ?_)
  cases r with
  | ok a => exact fun u hu hi => hA _ _ hu hi hw
  | error e => exact hf e s w hi hw

/-- A sequence of methods that each keep the assertion. -/
theorem Ok.seq {x : Proc F ε σ α} {f : α → Proc F ε σ β} {A : W → Prop}
    (hA : R.Stable i A) (hi : R.inv w) (hx : R.Ok i x s (fun _ _ w => A w) w)
    (hf : ∀ a s w, R.inv w → A w → R.Ok i (f a) s (fun _ _ w => A w) w) :
    R.Ok i (x >>= f) s (fun _ _ w => A w) w := by
  refine Ok.bind hi (Ok.mono hx fun r s w hi hw => ?_)
  cases r with
  | ok a => exact hf a s w hi hw
  | error e => exact fun u hu hi => hA _ _ hu hi hw

theorem Ok.each {ι : Type} {f : ι → Proc F ε σ Unit} {A : W → Prop} (hA : R.Stable i A)
    {l : List ι} (hf : ∀ a ∈ l, ∀ s w, R.inv w → A w → R.Ok i (f a) s (fun _ _ w => A w) w)
    (hi : R.inv w) (hw : A w) : R.Ok i (Proc.each f l) s (fun _ _ w => A w) w := by
  induction l generalizing s w with
  | nil => exact Ok.of_post hA rfl hw
  | cons a l ih =>
    refine Ok.seq hA hi (hf a (by simp) s w hi hw) fun _ s w hi hw => ih ?_ hi hw
    exact fun b hb => hf b (by simp [hb])

/-- Keeping an assertion is closed under composition. -/
theorem Ok.closed {A : W → Prop} (hA : R.Stable i A) : Proc.Closed (F := F) (ε := ε) (σ := σ)
    (fun x => ∀ s w, R.inv w → A w → R.Ok i x s (fun _ _ w => A w) w) where
  pure _ _ _ _ hw := Ok.pure fun _ hu hi => hA _ _ hu hi hw
  throw _ _ _ _ hw := fun _ hu hi => hA _ _ hu hi hw
  bind hx hf s w hi hw := Ok.seq hA hi (hx s w hi hw) fun a s w hi hw => hf a s w hi hw
  tryCatch hx hf s w hi hw :=
    Ok.tryCatch_all hA hi (hx s w hi hw) fun e s w hi hw => hf e s w hi hw
  self _ _ _ hw := fun _ hu hi => hA _ _ hu hi hw

end ok

/-- The invariant holds and every live process meets the rules. -/
structure Meets (R : Rules F C W) (s : Sys F W) : Prop where
  inv : R.inv s.world
  threads : ∀ pid p, s.threads pid = some p → R.Wp pid (fun _ _ => True) p s.world

theorem Meets.need {s : Sys F W} (h : R.Meets s) {pid : Nat} {o : F β} {k : β → Prog F Unit}
    (hp : s.threads pid = some (.op o k)) : R.need o s.world :=
  (h.threads pid _ hp s.world (R.rely_refl pid _) h.inv).1

/-- The rules with one more invariant of the world. -/
def also (R : Rules F C W) (J : W → Prop) : Rules F C W :=
  { R with inv := fun w => R.inv w ∧ J w }

/-- A program whose guarantee keeps the invariant may assume it. -/
theorem Wp.also {J : W → Prop} (hJ : ∀ w w', R.guar i w w' → J w → J w') {Q : α → W → Prop}
    {p : Prog F α} {w : W} (h : R.Wp i Q p w) : (R.also J).Wp i Q p w := by
  induction p generalizing w with
  | pure a => exact fun u hu hi => h u hu hi.1
  | op o k ih =>
    intro u hu hi
    refine ⟨(h u hu hi.1).1,fun c hc => ?_⟩
    obtain ⟨h₁,h₂,h₃⟩ := (h u hu hi.1).2 c hc
    exact ⟨⟨h₁,hJ _ _ h₂ hi.2⟩,h₂,ih _ h₃⟩

theorem Wp.of_also {J : W → Prop} (hJ : ∀ w, J w) {Q : α → W → Prop} {p : Prog F α} {w : W}
    (h : (R.also J).Wp i Q p w) : R.Wp i Q p w := by
  induction p generalizing w with
  | pure a => exact fun u hu hi => h u hu ⟨hi,hJ u⟩
  | op o k ih =>
    intro u hu hi
    refine ⟨(h u hu ⟨hi,hJ u⟩).1,fun c hc => ?_⟩
    obtain ⟨h₁,h₂,h₃⟩ := (h u hu ⟨hi,hJ u⟩).2 c hc
    exact ⟨h₁.1,h₂,ih _ h₃⟩

theorem Keeps.also {A J : W → Prop} {o : F β} (h : R.Keeps i (fun w => A w ∧ J w) o) :
    (R.also J).Keeps i A o := by
  intro w hi hw
  refine ⟨(h w hi.1 ⟨hw,hi.2⟩).1,fun c hc => ?_⟩
  obtain ⟨hinv,hguar,hA,hJ⟩ := (h w hi.1 ⟨hw,hi.2⟩).2 c hc
  exact ⟨⟨hinv,hJ⟩,hguar,hA⟩

theorem After.also {J : W → Prop} {o : F β} {Q : β → W → Prop} {w : W}
    (h : R.After i o (fun b w => Q b w ∧ J w) w) : (R.also J).After i o Q w := by
  refine ⟨h.1,fun c hc => ?_⟩
  obtain ⟨hinv,hguar,hQ,hJ⟩ := h.2 c hc
  exact ⟨⟨hinv,hJ⟩,hguar,hQ⟩

end Rules

namespace Machine

variable {F : Type → Type 1} {C W Req : Type}

/-- When every startable program meets the rules and what one process
guarantees the others rely on, a system that meets the rules keeps meeting them. -/
theorem Reach.rules_from {M : Machine F C W Req} (R : Rules F C W)
    (hexec : ∀ {β : Type} (o : F β) c w, R.exec o c w = M.exec o c w)
    (hcompat : ∀ i j, i ≠ j → ∀ w w', R.guar i w w' → R.rely j w w')
    (hboot : ∀ pid req, M.allows pid req = true → ∀ w, R.inv w →
      R.Wp pid (fun _ _ => True) (M.boot req) w)
    {s : Sys F W} (hs : R.Meets s) {t : Sys F W} (h : M.Reach R.cond s t) : R.Meets t := by
  induction h with
  | refl => exact hs
  | tail m _ hc hm ih =>
    obtain ⟨hi,ht⟩ := ih
    obtain ⟨pid,req,_,ha,rfl⟩ | ⟨pid,rfl⟩ | ⟨pid,c,β,o,k,rfl,ho,rfl⟩ := M.move_cases hm
    · refine ⟨hi,fun j p hp => ?_⟩
      by_cases hj : j = pid
      · subst hj
        simp only [Function.update_self,Option.some.injEq] at hp
        exact hp ▸ hboot j req ha _ hi
      · exact ht j p (by simpa [hj] using hp)
    · refine ⟨hi,fun j p hp => ?_⟩
      by_cases hj : j = pid
      · subst hj
        simp at hp
      · exact ht j p (by simpa [hj] using hp)
    · have hstep := (ht pid _ ho _ (R.rely_refl pid _) hi).2 c (hc pid c rfl β o k ho)
      rw [hexec] at hstep
      obtain ⟨h₁,h₂,h₃⟩ := hstep
      refine ⟨h₁,fun j p hp => ?_⟩
      by_cases hj : j = pid
      · subst hj
        simp only [Function.update_self,Option.some.injEq] at hp
        exact hp ▸ h₃
      · exact (ht j p (by simpa [hj] using hp)).rely (hcompat pid j (Ne.symm hj) _ _ h₂)

/-- Every run of the machine from a world that meets the invariant. -/
theorem Reach.rules {M : Machine F C W Req} (R : Rules F C W)
    (hexec : ∀ {β : Type} (o : F β) c w, R.exec o c w = M.exec o c w)
    (hcompat : ∀ i j, i ≠ j → ∀ w w', R.guar i w w' → R.rely j w w')
    (hboot : ∀ pid req, M.allows pid req = true → ∀ w, R.inv w →
      R.Wp pid (fun _ _ => True) (M.boot req) w)
    {w : W} (hw : R.inv w) {t : Sys F W} (h : M.Reach R.cond (boots w) t) : R.Meets t :=
  Reach.rules_from R hexec hcompat hboot ⟨hw,fun _ _ hp => by simp [boots] at hp⟩ h

/-- What every process guarantees holds between the ends of a run. -/
theorem Reach.guaranteed {M : Machine F C W Req} (R : Rules F C W)
    (hexec : ∀ {β : Type} (o : F β) c w, R.exec o c w = M.exec o c w)
    (hcompat : ∀ i j, i ≠ j → ∀ w w', R.guar i w w' → R.rely j w w')
    (hboot : ∀ pid req, M.allows pid req = true → ∀ w, R.inv w →
      R.Wp pid (fun _ _ => True) (M.boot req) w)
    {G : W → W → Prop} (hrefl : ∀ w, G w w) (htrans : ∀ a b c, G a b → G b c → G a c)
    (hguar : ∀ i w w', R.guar i w w' → G w w')
    {s : Sys F W} (hs : R.Meets s) {t : Sys F W} (h : M.Reach R.cond s t) : G s.world t.world := by
  induction h with
  | refl => exact hrefl _
  | tail m hr hc hm ih =>
    obtain ⟨hi,ht⟩ := Reach.rules_from R hexec hcompat hboot hs hr
    obtain ⟨pid,req,_,_,rfl⟩ | ⟨pid,rfl⟩ | ⟨pid,c,β,o,k,rfl,ho,rfl⟩ := M.move_cases hm
    · exact ih
    · exact ih
    · have hstep := (ht pid _ ho _ (R.rely_refl pid _) hi).2 c (hc pid c rfl β o k ho)
      rw [hexec] at hstep
      exact htrans _ _ _ ih (hguar pid _ _ hstep.2.1)

end Machine
end Resumption
