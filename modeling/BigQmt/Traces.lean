import BigQmt.Prog
set_option autoImplicit false

/-!
The requests a program makes with the answers it gets, in order, whatever the
environment answers; and a logic for what holds of them at every moment.
-/

namespace Resumption

/-- A request with its answer. -/
structure Event (F : Type → Type 1) : Type 1 where
  {β : Type}
  request : F β
  answer : β

/-- The events of a program up to some moment: it may go on, or be lost there. -/
inductive Prog.Path {F : Type → Type 1} {α : Type} : Prog F α → List (Event F) → Prop
  | stop (p : Prog F α) : Path p []
  | next {β : Type} {o : F β} {k : β → Prog F α} (b : β) {tr : List (Event F)} :
      Path (k b) tr → Path (.op o k) (⟨o,b⟩ :: tr)

/-- All events of a program that ends, with what it returns. -/
inductive Prog.Ends {F : Type → Type 1} {α : Type} : Prog F α → List (Event F) → α → Prop
  | pure (a : α) : Ends (.pure a) [] a
  | op {β : Type} {o : F β} {k : β → Prog F α} (b : β) {tr : List (Event F)} {a : α} :
      Ends (k b) tr a → Ends (.op o k) (⟨o,b⟩ :: tr) a

/-- The answers that are taken into account, and what must hold of the events so far at
every moment. -/
structure Watch (F : Type → Type 1) where
  ok : Event F → Prop
  safe : List (Event F) → Prop

variable {F : Type → Type 1} (M : Watch F) {α β ε σ : Type}

/-- After the events of `log` the program keeps `safe`, and what it returns meets `Post`. -/
def Prog.Along (Post : α → List (Event F) → Prop) : Prog F α → List (Event F) → Prop
  | .pure a,log => Post a log
  | .op o k,log => ∀ b, M.ok ⟨o,b⟩ →
      M.safe (log ++ [⟨o,b⟩]) ∧ (k b).Along Post (log ++ [⟨o,b⟩])

namespace Prog

variable {M} {p : Prog F α} {log : List (Event F)}

theorem Along.mono {Post Post' : α → List (Event F) → Prop} (h : p.Along M Post log)
    (hpost : ∀ a log, Post a log → Post' a log) : p.Along M Post' log := by
  induction p generalizing log with
  | pure a => exact hpost a log h
  | op o k ih =>
    intro b hb
    obtain ⟨hsafe,hrest⟩ := h b hb
    exact ⟨hsafe,ih b hrest⟩

theorem along_bind {f : α → Prog F β} {Post : β → List (Event F) → Prop} :
    (p.bind f).Along M Post log ↔ p.Along M (fun a log => (f a).Along M Post log) log := by
  induction p generalizing log with
  | pure a => rfl
  | op o k ih => simp only [op_bind,Along,ih]

theorem Ends.bind {f : α → Prog F β} {tr tr' : List (Event F)} {a : α} {b : β}
    (hp : p.Ends tr a) (hf : (f a).Ends tr' b) : (p.bind f).Ends (tr ++ tr') b := by
  induction hp with
  | pure a => exact hf
  | op c _ ih => exact .op c (ih hf)

theorem Ends.path {tr : List (Event F)} {a : α} (h : p.Ends tr a) : p.Path tr := by
  induction h with
  | pure a => exact .stop _
  | op b _ ih => exact .next b ih

/-- What is kept holds along every path. -/
theorem Along.safe {Post : α → List (Event F) → Prop} (h : p.Along M Post log)
    (hsafe : M.safe log) {tr : List (Event F)} (hpath : p.Path tr) (hok : ∀ e ∈ tr, M.ok e) :
    M.safe (log ++ tr) := by
  induction hpath generalizing log with
  | stop p => simpa using hsafe
  | @next β o k b tr _ ih =>
    obtain ⟨hnext,hrest⟩ := h b (hok _ List.mem_cons_self)
    have hend := ih hrest hnext fun e he => hok e (List.mem_cons_of_mem _ he)
    simpa using hend

/-- What is met when the program ends. -/
theorem Along.ends {Post : α → List (Event F) → Prop} (h : p.Along M Post log)
    {tr : List (Event F)} {a : α} (hends : p.Ends tr a) (hok : ∀ e ∈ tr, M.ok e) :
    Post a (log ++ tr) := by
  induction hends generalizing log with
  | pure a =>
    rw [List.append_nil]
    exact h
  | @op β o k b tr a _ ih =>
    obtain ⟨-,hrest⟩ := h b (hok _ List.mem_cons_self)
    have hend := ih hrest fun e he => hok e (List.mem_cons_of_mem _ he)
    simpa using hend

theorem path_op_cons {o : F β} {k : β → Prog F α} {b : β} {tr : List (Event F)} :
    Path (.op o k) (⟨o,b⟩ :: tr) ↔ Path (k b) tr := by
  constructor
  · intro h
    cases h with
    | next b h => exact h
  · exact .next b

end Prog

namespace Proc

/-- From an object and events that meet `P` the method leaves, with what it returns or
raises, an object and events that meet `Q`. -/
def Meets (P : σ → List (Event F) → Prop) (Q : Except ε α → σ → List (Event F) → Prop)
    (x : Proc F ε σ α) : Prop :=
  ∀ s log, P s log → (x s).Along M (fun r log => Q r.1 r.2 log) log

/-- The method keeps the invariant of the object and the events, also when it raises. -/
def Keeps (J : σ → List (Event F) → Prop) (x : Proc F ε σ α) : Prop :=
  Meets M J (fun _ s log => J s log) x

variable {M} {J P : σ → List (Event F) → Prop} {Q : Except ε β → σ → List (Event F) → Prop}

theorem meets_pure {a : β} (h : ∀ s log, P s log → Q (.ok a) s log) :
    Meets M P Q (pure a : Proc F ε σ β) := h

theorem meets_throw {e : ε} (h : ∀ s log, P s log → Q (.error e) s log) :
    Meets M P Q (throw e : Proc F ε σ β) := h

/-- The object does not change under its own reading. -/
theorem meets_self_bind {f : σ → Proc F ε σ β}
    (h : ∀ s, Meets M (fun s' log => s' = s ∧ P s' log) Q (f s)) : Meets M P Q (self >>= f) :=
  fun s log hs => h s s log ⟨rfl,hs⟩

theorem meets_update {f : σ → σ} {Q : Except ε Unit → σ → List (Event F) → Prop}
    (h : ∀ s log, P s log → Q (.ok ()) (f s) log) :
    Meets M P Q (update f : Proc F ε σ Unit) := h

theorem Meets.bind {R : Except ε α → σ → List (Event F) → Prop} {x : Proc F ε σ α}
    {f : α → Proc F ε σ β} (hx : Meets M P R x)
    (hf : ∀ a, Meets M (fun s log => R (.ok a) s log) Q (f a))
    (herror : ∀ e s log, R (.error e) s log → Q (.error e) s log) : Meets M P Q (x >>= f) := by
  intro s log hs
  refine Prog.along_bind.mpr ((hx s log hs).mono ?_)
  rintro ⟨e | a,s'⟩ log' hs'
  · exact herror e s' log' hs'
  · exact hf a s' log' hs'

theorem Meets.mono {x : Proc F ε σ β} {P' : σ → List (Event F) → Prop}
    {Q' : Except ε β → σ → List (Event F) → Prop} (h : Meets M P Q x)
    (hpre : ∀ s log, P' s log → P s log) (hpost : ∀ r s log, Q r s log → Q' r s log) :
    Meets M P' Q' x :=
  fun s log hs => (h s log (hpre s log hs)).mono fun r log' => hpost r.1 r.2 log'

theorem keeps_update {f : σ → σ} (hf : ∀ s log, J s log → J (f s) log) :
    Keeps M J (update f : Proc F ε σ Unit) := hf

theorem keeps_call {o : F (Except ε α)}
    (hsafe : ∀ s log b, J s log → M.ok ⟨o,b⟩ → M.safe (log ++ [⟨o,b⟩]))
    (hkeeps : ∀ s log b, J s log → M.ok ⟨o,b⟩ → J s (log ++ [⟨o,b⟩])) :
    Keeps M J (call o : Proc F ε σ α) :=
  fun s log hs b hb => ⟨hsafe s log b hs hb,hkeeps s log b hs hb⟩

theorem keeps_ask {o : F α} (hsafe : ∀ s log b, J s log → M.ok ⟨o,b⟩ → M.safe (log ++ [⟨o,b⟩]))
    (hkeeps : ∀ s log b, J s log → M.ok ⟨o,b⟩ → J s (log ++ [⟨o,b⟩])) :
    Keeps M J (ask o : Proc F ε σ α) :=
  fun s log hs b hb => ⟨hsafe s log b hs hb,hkeeps s log b hs hb⟩

/-- Composition keeps what its parts keep. -/
theorem closed_keeps : Closed (F := F) (ε := ε) (σ := σ) (fun x => Keeps M J x) where
  pure _ := fun _ _ hs => hs
  throw _ := fun _ _ hs => hs
  bind hx hf := Meets.bind hx hf fun _ _ _ hs => hs
  tryCatch {α x f} hx hf := by
    intro s log hs
    refine Prog.along_bind.mpr ((hx s log hs).mono ?_)
    rintro ⟨e | a,s'⟩ log' hs'
    · exact hf e s' log' hs'
    · exact hs'
  self := fun _ _ hs => hs

/-- A call of a method: its events, what it returns or raises, and the object it leaves. -/
def Ends (x : Proc F ε σ α) (s : σ) (tr : List (Event F)) (r : Except ε α) (s' : σ) : Prop :=
  (x s).Ends tr (r,s')

section ends
variable {s s' s'' : σ} {tr tr' : List (Event F)}

theorem ends_pure (a : α) : Ends (pure a : Proc F ε σ α) s [] (.ok a) s := .pure _

theorem ends_update (f : σ → σ) : Ends (update f : Proc F ε σ Unit) s [] (.ok ()) (f s) := .pure _

theorem ends_ofExcept {r : Except ε α} : Ends (ofExcept r : Proc F ε σ α) s [] r s := by
  cases r <;> exact .pure _

theorem ends_ask {o : F α} (a : α) : Ends (ask o : Proc F ε σ α) s [⟨o,a⟩] (.ok a) s :=
  .op a (.pure _)

theorem ends_call {o : F (Except ε α)} (r : Except ε α) :
    Ends (call o : Proc F ε σ α) s [⟨o,r⟩] r s := .op r (.pure _)

theorem Ends.bind {x : Proc F ε σ α} {f : α → Proc F ε σ β} {a : α} {r : Except ε β}
    (hx : Ends x s tr (.ok a) s') (hf : Ends (f a) s' tr' r s'') :
    Ends (x >>= f) s (tr ++ tr') r s'' := Prog.Ends.bind hx hf

theorem Ends.raise {x : Proc F ε σ α} {f : α → Proc F ε σ β} {e : ε}
    (hx : Ends x s tr (.error e) s') : Ends (x >>= f) s tr (.error e) s' := by
  rw [← List.append_nil tr]
  exact Prog.Ends.bind hx (.pure _)

theorem Ends.catch {x : Proc F ε σ α} {f : ε → Proc F ε σ α} {e : ε} {r : Except ε α}
    (hx : Ends x s tr (.error e) s') (hf : Ends (f e) s' tr' r s'') :
    Ends (tryCatch x f) s (tr ++ tr') r s'' := Prog.Ends.bind hx hf

theorem Ends.return {x : Proc F ε σ α} {f : ε → Proc F ε σ α} {a : α}
    (hx : Ends x s tr (.ok a) s') : Ends (tryCatch x f) s tr (.ok a) s' := by
  rw [← List.append_nil tr]
  exact Prog.Ends.bind hx (.pure _)

end ends
end Proc
end Resumption
