import Mathlib.Data.List.Basic
import Mathlib.Order.Defs.Unbundled
set_option autoImplicit false

/-!
Transactions on a state: a computation that raises leaves nothing behind, one
that returns commits its state.
-/

namespace Transact

def Tx (ε σ α : Type) : Type := σ → Except ε (α × σ)

namespace Tx

variable {ε σ α β : Type}

instance : Monad (Tx ε σ) where
  pure a := fun s => .ok (a,s)
  bind x f := fun s =>
    match x s with
    | .ok (a,s') => f a s'
    | .error e => .error e

/-- A `SELECT`. -/
def reads (f : σ → α) : Tx ε σ α := fun s => .ok (f s,s)

def writes (f : σ → σ) : Tx ε σ Unit := fun s => .ok ((),f s)

def raises (e : ε) : Tx ε σ α := fun _ => .error e

def ofExcept (r : Except ε α) : Tx ε σ α := fun s => r.map (fun a => (a,s))

/-- `if p: raise e`. -/
def raiseIf (p : Bool) (e : ε) : Tx ε σ Unit := if p then raises e else pure ()

/-- `try: x except ...` for a body that raises only before its first write: the
handler continues with the state the body began with. -/
def attempt (x : Tx ε σ α) : Tx ε σ (Except ε α) := fun s =>
  match x s with
  | .ok (a,s') => .ok (.ok a,s')
  | .error e => .ok (.error e,s)

variable {s s' : σ} {a : α} {b : β} {x : Tx ε σ α} {f : α → Tx ε σ β}

@[simp] theorem pure_eq_ok {c : α} :
    (pure c : Tx ε σ α) s = .ok (a,s') ↔ a = c ∧ s' = s := by
  simp [pure,eq_comm]

@[simp] theorem reads_bind {g : σ → α} : ((reads g : Tx ε σ α) >>= f) s = f (g s) s := rfl

@[simp] theorem writes_bind {g : σ → σ} {k : Unit → Tx ε σ β} :
    ((writes g : Tx ε σ Unit) >>= k) s = k () (g s) := rfl

@[simp] theorem bind_eq_ok : (x >>= f) s = .ok (b,s') ↔
    ∃ a t, x s = .ok (a,t) ∧ f a t = .ok (b,s') := by
  simp only [bind]
  cases hx : x s with
  | error e => simp
  | ok r =>
    obtain ⟨a,t⟩ := r
    simp

@[simp] theorem reads_eq_ok {g : σ → α} :
    (reads g : Tx ε σ α) s = .ok (a,s') ↔ a = g s ∧ s' = s := by
  simp [reads,eq_comm]

@[simp] theorem writes_eq_ok {g : σ → σ} {u : Unit} :
    (writes g : Tx ε σ Unit) s = .ok (u,s') ↔ s' = g s := by
  simp [writes,eq_comm]

@[simp] theorem raises_ne_ok {e : ε} {r : α × σ} : ¬ (raises e : Tx ε σ α) s = .ok r := by
  simp [raises]

@[simp] theorem ofExcept_eq_ok {r : Except ε α} :
    (ofExcept r : Tx ε σ α) s = .ok (a,s') ↔ r = .ok a ∧ s' = s := by
  cases r <;> simp [ofExcept,Except.map,eq_comm]

@[simp] theorem raiseIf_eq_ok {p : Bool} {e : ε} {u : Unit} :
    (raiseIf p e : Tx ε σ Unit) s = .ok (u,s') ↔ p = false ∧ s' = s := by
  cases p with
  | true => simp [raiseIf]
  | false => simp [raiseIf]

theorem attempt_eq_ok {r : Except ε α} :
    attempt x s = .ok (r,s') ↔
      (∃ a, r = .ok a ∧ x s = .ok (a,s')) ∨ (∃ e, r = .error e ∧ x s = .error e ∧ s' = s) := by
  unfold attempt
  cases hx : x s with
  | error e => simp [eq_comm]
  | ok v =>
    obtain ⟨a,t⟩ := v
    constructor
    · intro h
      simp only [Except.ok.injEq,Prod.mk.injEq] at h
      obtain ⟨rfl,rfl⟩ := h
      exact .inl ⟨a,rfl,rfl⟩
    · rintro (⟨a',rfl,h⟩ | ⟨e,-,h,-⟩)
      · cases h
        rfl
      · cases h

/-- A transaction that, where it commits, moves the state along a relation. -/
def Moves (G : σ → σ → Prop) (x : Tx ε σ α) : Prop := ∀ s a s', x s = .ok (a,s') → G s s'

section moves
variable {G : σ → σ → Prop} [IsPreorder σ G]

theorem moves_pure (a : α) : Moves G (pure a : Tx ε σ α) := by
  intro s b s' h
  rw [(pure_eq_ok.mp h).2]
  exact refl s

theorem moves_reads (g : σ → α) : Moves G (reads g : Tx ε σ α) := by
  intro s b s' h
  rw [(reads_eq_ok.mp h).2]
  exact refl s

theorem moves_raiseIf (p : Bool) (e : ε) : Moves G (raiseIf p e : Tx ε σ Unit) := by
  intro s b s' h
  rw [(raiseIf_eq_ok.mp h).2]
  exact refl s

theorem moves_ofExcept (r : Except ε α) : Moves G (ofExcept r : Tx ε σ α) := by
  intro s b s' h
  rw [(ofExcept_eq_ok.mp h).2]
  exact refl s

omit [IsPreorder σ G] in
theorem moves_writes {g : σ → σ} (h : ∀ s, G s (g s)) : Moves G (writes g : Tx ε σ Unit) := by
  intro s b s' hw
  rw [writes_eq_ok.mp hw]
  exact h s

theorem moves_bind {x : Tx ε σ α} {k : α → Tx ε σ β} (hx : Moves G x)
    (hk : ∀ a, Moves G (k a)) : Moves G (x >>= k) := by
  intro s b s' h
  obtain ⟨a,t,h₁,h₂⟩ := bind_eq_ok.mp h
  exact IsTrans.trans _ _ _ (hx s a t h₁) (hk a t b s' h₂)

theorem moves_attempt {x : Tx ε σ α} (hx : Moves G x) : Moves G (attempt x) := by
  intro s r s' h
  obtain ⟨a,-,h⟩ | ⟨e,-,-,rfl⟩ := attempt_eq_ok.mp h
  · exact hx s a s' h
  · exact refl s'

end moves

/-- A transaction that rolls back only with errors of the kind. -/
def Raises (Q : ε → Prop) (x : Tx ε σ α) : Prop := ∀ s e, x s = .error e → Q e

section raised
variable {Q : ε → Prop}

theorem raises_pure (a : α) : Raises Q (pure a : Tx ε σ α) := by
  intro s e h
  cases h

theorem raises_reads (g : σ → α) : Raises Q (reads g : Tx ε σ α) := by
  intro s e h
  cases h

theorem raises_writes (g : σ → σ) : Raises Q (writes g : Tx ε σ Unit) := by
  intro s e h
  cases h

theorem raises_raiseIf {p : Bool} {e : ε} (he : Q e) : Raises Q (raiseIf p e : Tx ε σ Unit) := by
  intro s e' h
  cases p with
  | false => cases h
  | true =>
    cases h
    exact he

theorem raises_ofExcept {r : Except ε α} (hr : ∀ e, r = .error e → Q e) :
    Raises Q (ofExcept r : Tx ε σ α) := by
  intro s e h
  cases r with
  | ok a => cases h
  | error e' =>
    cases h
    exact hr e rfl

/-- The rest may rely on the values that the first part returns. -/
theorem raises_bind {x : Tx ε σ α} {k : α → Tx ε σ β} (hx : Raises Q x)
    (hk : ∀ s a s', x s = .ok (a,s') → Raises Q (k a)) : Raises Q (x >>= k) := by
  intro s e h
  cases hv : x s with
  | error e' =>
    simp only [bind,hv] at h
    cases h
    exact hx s e hv
  | ok v =>
    simp only [bind,hv] at h
    exact hk s v.1 v.2 hv v.2 e h

theorem raises_attempt {x : Tx ε σ α} : Raises Q (attempt x) := by
  intro s e h
  unfold attempt at h
  cases hx : x s with
  | error e' => simp [hx] at h
  | ok v => simp [hx] at h

end raised
end Tx
end Transact
