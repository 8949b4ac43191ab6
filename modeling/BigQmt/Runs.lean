import BigQmt.Machine
set_option autoImplicit false

/-!
Runs of one program to its end, with what it returns, while nothing else moves
the world; and the run in which the environment answers every effect in one way.
-/

namespace Resumption

/-- What an effect does under a choice, and which choices are open to it. -/
structure Solo (F : Type → Type 1) (C W : Type) where
  exec : {β : Type} → F β → C → W → β × W
  cond : Cond F C W

namespace Solo

variable {F : Type → Type 1} {C W : Type} (S : Solo F C W) {α β : Type}

/-- The program, started in the first world, returns the value in the second. -/
inductive Runs : Prog F α → W → α → W → Prop
  | pure (a : α) (w : W) : Runs (.pure a) w a w
  | op {δ : Type} {o : F δ} {k : δ → Prog F α} {c : C} {w w' : W} {a : α} (allowed : S.cond o c w)
      (rest : Runs (k (S.exec o c w).1) (S.exec o c w).2 a w') : Runs (.op o k) w a w'

theorem runs_pure {a b : α} {w w' : W} : S.Runs (.pure a) w b w' ↔ b = a ∧ w' = w := by
  constructor
  · intro h
    cases h
    exact ⟨rfl,rfl⟩
  · rintro ⟨rfl,rfl⟩
    exact .pure b w'

theorem runs_op {δ : Type} {o : F δ} {k : δ → Prog F α} {w w' : W} {a : α} :
    S.Runs (.op o k) w a w' ↔
      ∃ c, S.cond o c w ∧ S.Runs (k (S.exec o c w).1) (S.exec o c w).2 a w' := by
  constructor
  · intro h
    cases h with
    | op allowed rest => exact ⟨_,allowed,rest⟩
  · rintro ⟨c,allowed,rest⟩
    exact .op allowed rest

theorem runs_bind {p : Prog F α} {f : α → Prog F β} {w w'' : W} {b : β} :
    S.Runs (p.bind f) w b w'' ↔ ∃ a w', S.Runs p w a w' ∧ S.Runs (f a) w' b w'' := by
  induction p generalizing w with
  | pure a =>
    simp only [Prog.pure_bind,runs_pure]
    constructor
    · exact fun h => ⟨a,w,⟨rfl,rfl⟩,h⟩
    · rintro ⟨_,_,⟨rfl,rfl⟩,h⟩
      exact h
  | op o k ih =>
    simp only [Prog.op_bind,runs_op,ih]
    constructor
    · rintro ⟨c,hc,a,w',hp,hf⟩
      exact ⟨a,w',⟨c,hc,hp⟩,hf⟩
    · rintro ⟨a,w',⟨c,hc,hp⟩,hf⟩
      exact ⟨c,hc,a,w',hp,hf⟩

/-- A call of a method: what it returns or raises, and the object it leaves. -/
def Calls {ε σ : Type} (x : Proc F ε σ α) (s : σ) (w : W) (r : Except ε α) (s' : σ) (w' : W) : Prop :=
  S.Runs (x s) w (r,s') w'

section calls
variable {ε σ : Type} {s s' : σ} {w w' : W}

@[simp] theorem calls_pure {a : α} {r : Except ε α} :
    S.Calls (pure a : Proc F ε σ α) s w r s' w' ↔ r = .ok a ∧ s' = s ∧ w' = w := by
  simp [Calls,pure,Proc.pure,runs_pure,and_assoc]

@[simp] theorem calls_throw {e : ε} {r : Except ε α} :
    S.Calls (throw e : Proc F ε σ α) s w r s' w' ↔ r = .error e ∧ s' = s ∧ w' = w := by
  simp [Calls,throw,throwThe,MonadExceptOf.throw,Proc.throw,runs_pure,and_assoc]

@[simp] theorem calls_self {r : Except ε σ} :
    S.Calls (Proc.self : Proc F ε σ σ) s w r s' w' ↔ r = .ok s ∧ s' = s ∧ w' = w := by
  simp [Calls,Proc.self,runs_pure,and_assoc]

@[simp] theorem calls_update {f : σ → σ} {r : Except ε Unit} :
    S.Calls (Proc.update f : Proc F ε σ Unit) s w r s' w' ↔ r = .ok () ∧ s' = f s ∧ w' = w := by
  simp [Calls,Proc.update,runs_pure,and_assoc]

@[simp] theorem calls_ofExcept {x r : Except ε α} :
    S.Calls (Proc.ofExcept x : Proc F ε σ α) s w r s' w' ↔ r = x ∧ s' = s ∧ w' = w := by
  cases x <;> simp [Calls,Proc.ofExcept,Proc.pure,Proc.throw,runs_pure,and_assoc]

theorem calls_ask {o : F α} {r : Except ε α} :
    S.Calls (Proc.ask o : Proc F ε σ α) s w r s' w' ↔
      ∃ c, S.cond o c w ∧ r = .ok (S.exec o c w).1 ∧ s' = s ∧ w' = (S.exec o c w).2 := by
  simp [Calls,Proc.ask,runs_op,runs_pure,and_assoc]

theorem calls_call {o : F (Except ε α)} {r : Except ε α} :
    S.Calls (Proc.call o : Proc F ε σ α) s w r s' w' ↔
      ∃ c, S.cond o c w ∧ r = (S.exec o c w).1 ∧ s' = s ∧ w' = (S.exec o c w).2 := by
  simp [Calls,Proc.call,runs_op,runs_pure,and_assoc]

theorem calls_bind {x : Proc F ε σ α} {f : α → Proc F ε σ β} {r : Except ε β} :
    S.Calls (x >>= f) s w r s' w' ↔
      (∃ a s₁ w₁, S.Calls x s w (.ok a) s₁ w₁ ∧ S.Calls (f a) s₁ w₁ r s' w') ∨
        ∃ e, r = .error e ∧ S.Calls x s w (.error e) s' w' := by
  change S.Runs ((x s).bind _) w (r,s') w' ↔ _
  rw [runs_bind]
  constructor
  · rintro ⟨⟨_ | a,s₁⟩,w₁,hx,hf⟩
    · obtain ⟨heq,rfl⟩ := S.runs_pure.mp hf
      obtain ⟨rfl,rfl⟩ := Prod.mk.inj heq
      exact .inr ⟨_,rfl,hx⟩
    · exact .inl ⟨a,s₁,w₁,hx,hf⟩
  · rintro (⟨a,s₁,w₁,hx,hf⟩ | ⟨e,rfl,hx⟩)
    · exact ⟨(.ok a,s₁),w₁,hx,hf⟩
    · exact ⟨(.error e,s'),w',hx,.pure _ _⟩

theorem calls_bind_ok {x : Proc F ε σ α} {f : α → Proc F ε σ β} {b : β} :
    S.Calls (x >>= f) s w (.ok b) s' w' ↔
      ∃ a s₁ w₁, S.Calls x s w (.ok a) s₁ w₁ ∧ S.Calls (f a) s₁ w₁ (.ok b) s' w' := by
  simp [calls_bind]

theorem calls_self_bind {f : σ → Proc F ε σ β} {r : Except ε β} :
    S.Calls (Proc.self >>= f) s w r s' w' ↔ S.Calls (f s) s w r s' w' := Iff.rfl

/-- A loop that returns has run the body on every item, one after the other. -/
theorem calls_each_ok {ι : Type} {f : ι → Proc F ε σ Unit} {l : List ι} {u : Unit}
    (P : List ι → σ → W → Prop)
    (hf : ∀ a l s w s' w', P (a :: l) s w → S.Calls (f a) s w (.ok ()) s' w' → P l s' w')
    (hs : P l s w) (h : S.Calls (Proc.each f l) s w (.ok u) s' w') : P [] s' w' := by
  induction l generalizing s w with
  | nil =>
    obtain ⟨-,rfl,rfl⟩ := S.calls_pure.mp h
    exact hs
  | cons a l ih =>
    obtain ⟨_,s₁,w₁,ha,hl⟩ := S.calls_bind_ok.mp h
    exact ih (hf a l s w s₁ w₁ hs ha) hl

end calls

/-- The run that takes its choices from a list, while they pass the check. -/
def play (ok : {β : Type} → F β → C → W → Bool) : Prog F α → List C → W → Option (α × W)
  | .pure a,_,w => some (a,w)
  | .op _ _,[],_ => none
  | .op o k,c :: cs,w =>
      if ok o c w then play ok (k (S.exec o c w).1) cs (S.exec o c w).2 else none

theorem runs_of_play {ok : {β : Type} → F β → C → W → Bool}
    (hok : ∀ {β : Type} (o : F β) c w, ok o c w = true → S.cond o c w) {p : Prog F α} {cs : List C}
    {w w' : W} {a : α} (h : S.play ok p cs w = some (a,w')) : S.Runs p w a w' := by
  induction p generalizing cs w with
  | pure b =>
    simp only [play,Option.some.injEq,Prod.mk.injEq] at h
    obtain ⟨rfl,rfl⟩ := h
    exact .pure b w
  | op o k ih =>
    cases cs with
    | nil => simp [play] at h
    | cons c cs =>
      by_cases hc : ok o c w = true
      · simp only [play,hc,if_true] at h
        exact .op (hok o c w hc) (ih _ h)
      · simp [play,hc] at h

end Solo

/-- An environment that answers every effect in one way. -/
structure Policy (F : Type → Type 1) (C W : Type) where
  exec : {β : Type} → F β → C → W → β × W
  pick : {β : Type} → F β → C

namespace Policy

variable {F : Type → Type 1} {C W : Type} (P : Policy F C W) {α β : Type}

def run : Prog F α → W → α × W
  | .pure a,w => (a,w)
  | .op o k,w => run (k (P.exec o (P.pick o) w).1) (P.exec o (P.pick o) w).2

theorem run_bind (p : Prog F α) (f : α → Prog F β) (w : W) :
    P.run (p.bind f) w = P.run (f (P.run p w).1) (P.run p w).2 := by
  induction p generalizing w with
  | pure a => rfl
  | op o k ih => simp only [Prog.op_bind,run,ih]

theorem run_unmoved {p : Prog F α} (h : p.All fun o => ∀ c w, (P.exec o c w).2 = w) (w : W) :
    (P.run p w).2 = w := by
  induction p generalizing w with
  | pure a => rfl
  | op o k ih =>
    have hrest := ih (P.exec o (P.pick o) w).1 (h.2 _) (P.exec o (P.pick o) w).2
    exact hrest.trans (h.1 _ w)

section call
variable {ε σ : Type} {s s' : σ} {w w' : W}

/-- A call of a method. -/
def call (x : Proc F ε σ α) (s : σ) (w : W) : (Except ε α × σ) × W := P.run (x s) w

@[simp] theorem call_pure (a : α) : P.call (pure a : Proc F ε σ α) s w = ((.ok a,s),w) := rfl

@[simp] theorem call_throw (e : ε) :
    P.call (throw e : Proc F ε σ α) s w = ((.error e,s),w) := rfl

@[simp] theorem call_ofExcept (r : Except ε α) :
    P.call (Proc.ofExcept r : Proc F ε σ α) s w = ((r,s),w) := by
  cases r <;> rfl

@[simp] theorem call_ask (o : F α) : P.call (Proc.ask o : Proc F ε σ α) s w =
    ((.ok (P.exec o (P.pick o) w).1,s),(P.exec o (P.pick o) w).2) := rfl

@[simp] theorem call_call (o : F (Except ε α)) : P.call (Proc.call o : Proc F ε σ α) s w =
    (((P.exec o (P.pick o) w).1,s),(P.exec o (P.pick o) w).2) := rfl

theorem call_self : P.call (Proc.self : Proc F ε σ σ) s w = ((.ok s,s),w) := rfl

theorem call_update (f : σ → σ) :
    P.call (Proc.update f : Proc F ε σ Unit) s w = ((.ok (),f s),w) := rfl

theorem call_bind_ok {x : Proc F ε σ α} {f : α → Proc F ε σ β} {a : α}
    (h : P.call x s w = ((.ok a,s'),w')) : P.call (x >>= f) s w = P.call (f a) s' w' := by
  change P.run ((x s).bind _) w = _
  have hx : P.run (x s) w = ((.ok a,s'),w') := h
  rw [run_bind,hx]
  rfl

theorem call_bind_error {x : Proc F ε σ α} {f : α → Proc F ε σ β} {e : ε}
    (h : P.call x s w = ((.error e,s'),w')) : P.call (x >>= f) s w = ((.error e,s'),w') := by
  change P.run ((x s).bind _) w = _
  have hx : P.run (x s) w = ((.error e,s'),w') := h
  rw [run_bind,hx]
  rfl

theorem call_tryCatch {x : Proc F ε σ α} {f : ε → Proc F ε σ α} :
    P.call (tryCatch x f) s w = match P.call x s w with
      | ((.ok a,s'),w') => ((.ok a,s'),w')
      | ((.error e,s'),w') => P.call (f e) s' w' := by
  change P.run ((x s).bind _) w = _
  rw [run_bind]
  unfold call
  rcases P.run (x s) w with ⟨⟨_ | a,s'⟩,w'⟩ <;> rfl

end call
end Policy
end Resumption
