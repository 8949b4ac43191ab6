import BigQmt.LatestWins
import BigQmt.Operations
set_option autoImplicit false

/-!
The order the health observations come in: `HealthRegistry` of `operations/health.py` is
a latest-wins register for each component.
-/

namespace BigQmt

/-- What `observe` puts in place of two observations of one time. -/
def HealthObservation.conflict (c : HealthComponent) (t : Int) : HealthObservation :=
  ⟨c,false,t,"CONFLICTING_SAME_TIMESTAMP"⟩

namespace HealthRegistry

/-- The registry after observing every one of them, in this order. -/
def observeAll (r : HealthRegistry) (l : List HealthObservation) : HealthRegistry :=
  l.foldl (fun r o => (r.observe o).2) r

/-- The observations of one component. -/
def seen (l : List HealthObservation) (c : HealthComponent) : Set HealthObservation :=
  {o | o ∈ l ∧ o.component = c}

/-- What the observations say of a component. -/
def Says (l : List HealthObservation) (c : HealthComponent) : Option HealthObservation → Prop :=
  LatestWins.Verdict HealthObservation.observedAt (HealthObservation.conflict c) (seen l c)

theorem observe_same (r : HealthRegistry) (o : HealthObservation) :
    (r.observe o).2.observations o.component =
      LatestWins.observe HealthObservation.observedAt (HealthObservation.conflict o.component)
        (r.observations o.component) o := by
  unfold observe LatestWins.observe
  cases hp : r.observations o.component with
  | none => simp [put]
  | some previous =>
    dsimp only
    split_ifs with hlate hsame heq
    · exact hp
    · rw [hp]
    · simp [put,HealthObservation.conflict]
    · simp [put]

theorem observe_other (r : HealthRegistry) {o : HealthObservation} {c : HealthComponent}
    (hc : c ≠ o.component) : (r.observe o).2.observations c = r.observations c := by
  unfold observe
  cases r.observations o.component with
  | none => simp [put,hc]
  | some previous =>
    dsimp only
    split_ifs <;> simp [put,hc]

/-- Each component sees its own observations only. -/
theorem observeAll_component (r : HealthRegistry) (l : List HealthObservation)
    (c : HealthComponent) :
    (r.observeAll l).observations c =
      (l.filter (fun o => o.component = c)).foldl
        (LatestWins.observe HealthObservation.observedAt (HealthObservation.conflict c))
        (r.observations c) := by
  induction l generalizing r with
  | nil => rfl
  | cons o l ih =>
    have hstep : (r.observeAll (o :: l)) = (r.observe o).2.observeAll l := rfl
    rw [hstep,ih]
    by_cases hc : o.component = c
    · subst hc
      simp [observe_same]
    · simp [hc,observe_other r (Ne.symm hc)]

theorem seen_filter (l : List HealthObservation) (c : HealthComponent) :
    (∅ ∪ {o | o ∈ l.filter (fun o => o.component = c)} : Set HealthObservation) = seen l c := by
  ext o
  simp [seen]

/-- An empty registry holds what the observations say. -/
theorem says_observeAll (l : List HealthObservation) (c : HealthComponent) :
    Says l c ((empty.observeAll l).observations c) := by
  rw [observeAll_component]
  have hnone : LatestWins.Verdict HealthObservation.observedAt (HealthObservation.conflict c)
      ∅ none := rfl
  have hfold := LatestWins.verdict_foldl (fun _ => rfl)
    (l.filter (fun o => o.component = c)) hnone
  rw [seen_filter] at hfold
  exact hfold

theorem seen_congr {l l' : List HealthObservation} (h : ∀ o, o ∈ l' ↔ o ∈ l)
    (c : HealthComponent) : seen l' c = seen l c := by
  ext o
  simp [seen,h o]

/-- A component is in order when its observation is healthy and of an age that counts. -/
theorem fault_none_iff {r : HealthRegistry} {now maxAge : Int} {c : HealthComponent} :
    r.fault now maxAge c = none ↔ ∃ o, r.observations c = some o ∧ o.healthy = true ∧
      0 ≤ now - o.observedAt ∧ now - o.observedAt ≤ maxAge := by
  unfold fault
  cases ho : r.observations c with
  | none => simp
  | some o =>
    simp only [Option.some.injEq,exists_eq_left']
    split_ifs with hfuture hstale hhealthy
    · simp
      omega
    · simp
      omega
    · simp [(by simpa using hhealthy : o.healthy = false)]
    · have hh : o.healthy = true := by simpa using hhealthy
      simp only [hh,true_and,true_iff]
      omega

/-- Mutation is allowed when no component has a fault. -/
theorem ready_iff {r : HealthRegistry} {now maxAge : Int} {s : HealthSnapshot}
    (hs : r.snapshot now maxAge = .ok s) :
    s.runtime.readyForMutation = true ↔ ∀ c, r.fault now (maxAge * 1000000) c = none := by
  unfold snapshot at hs
  split_ifs at hs
  cases hs
  simp only [RuntimeHealth.readyForMutation,Bool.and_eq_true,Option.isNone_iff_eq_none]
  constructor
  · rintro ⟨⟨⟨⟨⟨⟨hdatabase,homs⟩,hleader⟩,hreconciliation⟩,hqmt⟩,hmarket⟩,hstrategy⟩ c
    cases c with
    | database => exact hdatabase
    | oms => exact homs
    | leader => exact hleader
    | reconciliation => exact hreconciliation
    | qmt => exact hqmt
    | marketData => exact hmarket
    | strategy => exact hstrategy
  · intro h
    simp [h]

/-- The conflict is not healthy: only an undisputed latest observation stands. -/
theorem healthy_iff_unique {l : List HealthObservation} {c : HealthComponent}
    {held : Option HealthObservation} (h : Says l c held) {o : HealthObservation}
    (hhealthy : o.healthy = true) :
    held = some o ↔ LatestWins.Unique HealthObservation.observedAt (seen l c) o := by
  constructor
  · rintro rfl
    obtain hunique | ⟨a,b,-,-,-,rfl⟩ := h
    · exact hunique
    · exact Bool.noConfusion hhealthy
  · intro hunique
    exact h.unique (Or.inl hunique)

end HealthRegistry

end BigQmt
