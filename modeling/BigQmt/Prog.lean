import Mathlib.Logic.Function.Basic
set_option autoImplicit false

/-!
Programs that ask an environment for effects, one request at a time. A program
is a finite tree: between two requests the environment may do anything, and a
crash is the loss of the rest of the tree.
-/

namespace Resumption

/-- A request `F β` is answered by a value of `β`, on which the rest depends. -/
inductive Prog (F : Type → Type 1) (α : Type) : Type 1 where
  | pure : α → Prog F α
  | op {β : Type} : F β → (β → Prog F α) → Prog F α

namespace Prog

variable {F : Type → Type 1} {α β γ : Type}

def bind : Prog F α → (α → Prog F β) → Prog F β
  | .pure a, f => f a
  | .op o k, f => .op o (fun b => (k b).bind f)

instance : Monad (Prog F) where
  pure := .pure
  bind := bind

@[simp] theorem pure_bind (a : α) (f : α → Prog F β) : (Prog.pure a).bind f = f a := rfl

@[simp] theorem op_bind {δ : Type} (o : F δ) (k : δ → Prog F α) (f : α → Prog F β) :
    (Prog.op o k).bind f = .op o (fun b => (k b).bind f) := rfl

/-- Every request the program can make, whatever the answers, satisfies `P`. -/
def All (P : {β : Type} → F β → Prop) : Prog F α → Prop
  | .pure _ => True
  | .op o k => P o ∧ ∀ b, (k b).All P

theorem All.bind {P : {β : Type} → F β → Prop} {p : Prog F α} {f : α → Prog F β}
    (hp : p.All P) (hf : ∀ a, (f a).All P) : (p.bind f).All P := by
  induction p with
  | pure a => exact hf a
  | op o k ih => exact ⟨hp.1,fun b => ih b (hp.2 b)⟩

theorem All.mono {P Q : {β : Type} → F β → Prop} {p : Prog F α}
    (hp : p.All P) (h : ∀ {β : Type} (o : F β), P o → Q o) : p.All Q := by
  induction p with
  | pure a => trivial
  | op o k ih => exact ⟨h o hp.1,fun b => ih b (hp.2 b)⟩

end Prog

/-- A method on an object of state `σ`: the object survives an exception. -/
def Proc (F : Type → Type 1) (ε σ α : Type) : Type 1 := σ → Prog F (Except ε α × σ)

namespace Proc

variable {F : Type → Type 1} {ε σ α β : Type}

protected def pure (a : α) : Proc F ε σ α := fun s => .pure (.ok a,s)

protected def bind (x : Proc F ε σ α) (f : α → Proc F ε σ β) : Proc F ε σ β := fun s =>
  (x s).bind fun
    | (.ok a,s) => f a s
    | (.error e,s) => .pure (.error e,s)

protected def throw (e : ε) : Proc F ε σ α := fun s => .pure (.error e,s)

protected def tryCatch (x : Proc F ε σ α) (f : ε → Proc F ε σ α) : Proc F ε σ α := fun s =>
  (x s).bind fun
    | (.ok a,s) => .pure (.ok a,s)
    | (.error e,s) => f e s

instance : Monad (Proc F ε σ) where
  pure := Proc.pure
  bind := Proc.bind

instance : MonadExceptOf ε (Proc F ε σ) where
  throw := Proc.throw
  tryCatch := Proc.tryCatch

/-- The object, and an update of it; neither is visible to other processes. -/
def self : Proc F ε σ σ := fun s => .pure (.ok s,s)

def update (f : σ → σ) : Proc F ε σ Unit := fun s => .pure (.ok (),f s)

/-- Ask for an effect that cannot raise. -/
def ask (o : F α) : Proc F ε σ α := fun s => .op o (fun a => .pure (.ok a,s))

/-- Ask for an effect that may raise. -/
def call (o : F (Except ε α)) : Proc F ε σ α := fun s => .op o (fun r => .pure (r,s))

/-- Lift a pure computation that may raise. -/
def ofExcept : Except ε α → Proc F ε σ α
  | .ok a => Proc.pure a
  | .error e => Proc.throw e

/-- `for a in l: f(a)`, stopped by the first exception. -/
def each {ι : Type} (f : ι → Proc F ε σ Unit) : List ι → Proc F ε σ Unit
  | [] => Proc.pure ()
  | a :: l => (f a).bind fun _ => each f l

/-- Every request the method can make satisfies `P`. -/
def All (P : {β : Type} → F β → Prop) (x : Proc F ε σ α) : Prop := ∀ s, (x s).All P

section all
variable {P : {β : Type} → F β → Prop}

@[simp] theorem all_pure (a : α) : (pure a : Proc F ε σ α).All P := fun _ => trivial

@[simp] theorem all_throw (e : ε) : (throw e : Proc F ε σ α).All P := fun _ => trivial

@[simp] theorem all_self : (self : Proc F ε σ σ).All P := fun _ => trivial

@[simp] theorem all_update (f : σ → σ) : (update f : Proc F ε σ Unit).All P := fun _ => trivial

theorem all_ask {o : F α} (h : P o) : (ask o : Proc F ε σ α).All P :=
  fun _ => ⟨h,fun _ => trivial⟩

theorem all_call {o : F (Except ε α)} (h : P o) : (call o : Proc F ε σ α).All P :=
  fun _ => ⟨h,fun _ => trivial⟩

@[simp] theorem all_ofExcept (r : Except ε α) : (ofExcept r : Proc F ε σ α).All P := by
  intro s
  cases r <;> trivial

theorem all_bind {x : Proc F ε σ α} {f : α → Proc F ε σ β}
    (hx : x.All P) (hf : ∀ a, (f a).All P) : (x >>= f).All P := by
  intro s
  refine (hx s).bind fun r => ?_
  rcases r with ⟨_ | a,s'⟩
  · trivial
  · exact hf a s'

theorem all_tryCatch {x : Proc F ε σ α} {f : ε → Proc F ε σ α}
    (hx : x.All P) (hf : ∀ e, (f e).All P) : (tryCatch x f).All P := by
  intro s
  refine (hx s).bind fun r => ?_
  rcases r with ⟨e | a,s'⟩
  · exact hf e s'
  · trivial

theorem all_each {ι : Type} {f : ι → Proc F ε σ Unit} (hf : ∀ a, (f a).All P)
    (l : List ι) : (each f l).All P := by
  induction l with
  | nil => exact fun _ => trivial
  | cons a l ih => exact all_bind (hf a) (fun _ => ih)

end all

/-- A property of methods that composition keeps. -/
structure Closed (H : {α : Type} → Proc F ε σ α → Prop) : Prop where
  pure : ∀ {α : Type} (a : α), H (pure a)
  throw : ∀ {α : Type} (e : ε), H (throw e : Proc F ε σ α)
  bind : ∀ {α β : Type} {x : Proc F ε σ α} {f : α → Proc F ε σ β},
    H x → (∀ a, H (f a)) → H (x >>= f)
  tryCatch : ∀ {α : Type} {x : Proc F ε σ α} {f : ε → Proc F ε σ α},
    H x → (∀ e, H (f e)) → H (MonadExcept.tryCatch x f)
  self : H self

namespace Closed

variable {H : {α : Type} → Proc F ε σ α → Prop}

theorem each (h : Closed H) {ι : Type} {f : ι → Proc F ε σ Unit} (hf : ∀ a, H (f a))
    (l : List ι) : H (each f l) := by
  induction l with
  | nil => exact h.pure ()
  | cons a l ih => exact h.bind (hf a) fun _ => ih

theorem ofExcept (h : Closed H) (r : Except ε α) : H (ofExcept r) := by
  cases r with
  | ok a => exact h.pure a
  | error e => exact h.throw e

/-- A pure computation that may raise, before a method that knows its value. -/
theorem bind_ofExcept (h : Closed H) {r : Except ε α} {f : α → Proc F ε σ β}
    (hf : ∀ a, r = .ok a → H (f a)) : H (Proc.ofExcept r >>= f) := by
  cases r with
  | ok a => exact hf a rfl
  | error e => exact h.throw e

/-- What every request satisfies is such a property. -/
theorem all {P : {β : Type} → F β → Prop} : Closed (F := F) (ε := ε) (σ := σ)
    (fun x => x.All P) :=
  ⟨all_pure,all_throw,all_bind,all_tryCatch,all_self⟩

end Closed
end Proc
end Resumption
