import Mathlib.Logic.Basic

set_option autoImplicit true

namespace Execution

/-- Run a partial step function over a list of events. A disabled event stops the run. -/
def exec (step : σ → ε → Option σ) : σ → List ε → Option σ
  | s, [] => some s
  | s, e :: es => (step s e).bind fun s' => exec step s' es

/-- Every event of the list meets the condition in the state it is taken from. -/
def Along (step : σ → ε → Option σ) (ok : σ → ε → Prop) : σ → List ε → Prop
  | _, [] => True
  | s, e :: es => ok s e ∧ match step s e with
    | none => True
    | some s' => Along step ok s' es

instance Along.decidable (step : σ → ε → Option σ) (ok : σ → ε → Prop)
    [h : ∀ s e, Decidable (ok s e)] : ∀ s es, Decidable (Along step ok s es)
  | _, [] => isTrue True.intro
  | s, e :: es =>
    have := h s e
    match hs : step s e with
    | none => decidable_of_iff (ok s e) (by simp only [Along, hs, and_true])
    | some s' =>
      have := Along.decidable step ok s' es
      decidable_of_iff (ok s e ∧ Along step ok s' es) (by simp only [Along, hs])

@[simp] theorem exec_nil (step : σ → ε → Option σ) (s : σ) : exec step s [] = some s := rfl

theorem exec_cons {step : σ → ε → Option σ} (h : exec step s (e :: es) = some s') :
    ∃ t, step s e = some t ∧ exec step t es = some s' :=
  Option.bind_eq_some_iff.1 h

theorem exec_append (step : σ → ε → Option σ) (s : σ) (es es' : List ε) :
    exec step s (es ++ es') = (exec step s es).bind fun t => exec step t es' := by
  induction es generalizing s with
  | nil => rfl
  | cons e es ih =>
    simp only [List.cons_append, exec, Option.bind_assoc]
    congr 1
    funext t
    exact ih t

theorem Along.head {step : σ → ε → Option σ} (h : Along step ok s (e :: es)) : ok s e := h.1

theorem Along.tail {step : σ → ε → Option σ} (h : Along step ok s (e :: es))
    (hs : step s e = some t) : Along step ok t es := by
  have ht := h.2
  rw [hs] at ht
  exact ht

theorem Along.mono {step : σ → ε → Option σ} (h : Along step ok s es)
    (himp : ∀ s e, ok s e → ok' s e) : Along step ok' s es := by
  induction es generalizing s with
  | nil => trivial
  | cons e es ih =>
    refine ⟨himp _ _ h.head, ?_⟩
    cases hs : step s e with
    | none => trivial
    | some t => exact ih (h.tail hs)

theorem Along.left {step : σ → ε → Option σ} (h : Along step ok s (es ++ es')) :
    Along step ok s es := by
  induction es generalizing s with
  | nil => trivial
  | cons e es ih =>
    refine ⟨h.1, ?_⟩
    cases hs : step s e with
    | none => trivial
    | some t => exact ih (Along.tail h hs)

theorem Along.right {step : σ → ε → Option σ} (h : Along step ok s (es ++ es'))
    (hs : exec step s es = some t) : Along step ok t es' := by
  induction es generalizing s with
  | nil => cases hs; exact h
  | cons e es ih =>
    obtain ⟨u, hu, ht⟩ := exec_cons hs
    exact ih (Along.tail h hu) ht

theorem Along.append {step : σ → ε → Option σ} (h : Along step ok s es) (hs : exec step s es = some t)
    (h' : Along step ok t es') : Along step ok s (es ++ es') := by
  induction es generalizing s with
  | nil =>
    cases hs
    exact h'
  | cons e es ih =>
    obtain ⟨u, hu, ht⟩ := exec_cons hs
    rw [List.cons_append, Along, hu]
    exact ⟨h.head, ih (h.tail hu) ht⟩

/-- A condition along a run is a condition on each event and the state it is taken from. -/
theorem along_iff {step : σ → ε → Option σ} : Along step ok s es ↔
    ∀ es₁ e es₂ t, es = es₁ ++ e :: es₂ → exec step s es₁ = some t → ok t e := by
  constructor
  · rintro h es₁ e es₂ t rfl ht
    exact (h.right ht).head
  · intro h
    induction es generalizing s with
    | nil => trivial
    | cons e es ih =>
      refine ⟨h [] e es s rfl rfl, ?_⟩
      cases hs : step s e with
      | none => trivial
      | some t =>
        apply ih
        rintro es₁ e' es₂ u rfl hu
        refine h (e :: es₁) e' es₂ u rfl ?_
        simp only [exec, hs, Option.bind_some, hu]

theorem Along.and {step : σ → ε → Option σ} (h : Along step ok s es) (h' : Along step ok' s es) :
    Along step (fun s e => ok s e ∧ ok' s e) s es :=
  along_iff.2 fun es₁ e es₂ t hes ht =>
    ⟨along_iff.1 h es₁ e es₂ t hes ht, along_iff.1 h' es₁ e es₂ t hes ht⟩

theorem along_of_forall {P : ε → Prop} (h : ∀ e ∈ es, P e) (step : σ → ε → Option σ) (s : σ) :
    Along step (fun _ e => P e) s es := by
  apply along_iff.2
  rintro es₁ e es₂ _ rfl _
  exact h e (List.mem_append_right _ List.mem_cons_self)

/-- Each thing done was allowed by what had been done before it; the last thing comes first. -/
def Always (P : ε → List ε → Prop) : List ε → Prop
  | [] => True
  | e :: past => P e past ∧ Always P past

/-- Some run leads from the one state to the other. -/
def Reaches (step : σ → ε → Option σ) (s t : σ) : Prop :=
  ∃ es, exec step s es = some t

theorem Reaches.refl {step : σ → ε → Option σ} (s : σ) : Reaches step s s :=
  ⟨[], rfl⟩

theorem Reaches.trans {step : σ → ε → Option σ} (h : Reaches step s t) (h' : Reaches step t u) :
    Reaches step s u := by
  obtain ⟨es, hes⟩ := h
  obtain ⟨es', hes'⟩ := h'
  refine ⟨es ++ es', ?_⟩
  rw [exec_append, hes, Option.bind_some, hes']

theorem Reaches.next {step : σ → ε → Option σ} (h : step s e = some t) (h' : Reaches step t u) :
    Reaches step s u := by
  obtain ⟨es, hes⟩ := h'
  refine ⟨e :: es, ?_⟩
  rw [exec, h, Option.bind_some, hes]

/-- What every admitted step preserves holds at the end of every admitted run. -/
theorem exec_invariant {step : σ → ε → Option σ} {I : σ → Prop}
    (hstep : ∀ s e t, I s → ok s e → step s e = some t → I t)
    (hI : I s) (hok : Along step ok s es) (h : exec step s es = some t) : I t := by
  induction es generalizing s with
  | nil => cases h; exact hI
  | cons e es ih =>
    obtain ⟨u, hu, ht⟩ := exec_cons h
    exact ih (hstep _ _ _ hI hok.head hu) (hok.tail hu) ht

/-- The unconditional form: an invariant of every step holds in every reachable state. -/
theorem exec_preserves {step : σ → ε → Option σ} {I : σ → Prop}
    (hstep : ∀ s e t, I s → step s e = some t → I t) (hI : I s)
    (h : exec step s es = some t) : I t := by
  induction es generalizing s with
  | nil => cases h; exact hI
  | cons e es ih =>
    obtain ⟨u, hu, ht⟩ := exec_cons h
    exact ih (hstep _ _ _ hI hu) ht

/-- What a step keeps exactly when it meets the condition, a run keeps exactly when all its steps
meet it. -/
theorem exec_keeps_iff {step : σ → ε → Option σ} {P : σ → Prop}
    (hstep : ∀ s e t, step s e = some t → (P t ↔ P s ∧ ok s e))
    (h : exec step s es = some t) : P t ↔ P s ∧ Along step ok s es := by
  induction es generalizing s with
  | nil =>
    cases h
    exact (and_iff_left trivial).symm
  | cons e es ih =>
    obtain ⟨u, hu, ht⟩ := exec_cons h
    rw [ih ht, hstep s e u hu, Along, hu, and_assoc]

/-- Under an invariant of the steps that meet the `base` condition, a property whose loss is a step
that does not meet `ok` holds in every state of a run exactly when all steps of the run meet it. -/
theorem along_iff_always_of {step : σ → ε → Option σ} {I P : σ → Prop}
    (hI : ∀ s e t, I s → base s e → step s e = some t → I t)
    (hP : ∀ s e t, I s → P s → base s e → step s e = some t → (P t ↔ ok s e))
    (hdisabled : ∀ s e, step s e = none → ok s e) (hs : I s) (hp : P s)
    (hbase : Along step base s es) :
    Along step ok s es ↔ ∀ es₁ es₂ t, es = es₁ ++ es₂ → exec step s es₁ = some t → P t := by
  induction es generalizing s with
  | nil =>
    refine iff_of_true trivial fun es₁ es₂ t h ht => ?_
    obtain ⟨rfl, rfl⟩ := List.append_eq_nil_iff.1 h.symm
    cases ht
    exact hp
  | cons e es ih =>
    constructor
    · intro hok es₁ es₂ t h ht
      cases es₁ with
      | nil =>
        cases ht
        exact hp
      | cons e' es₁ =>
        obtain ⟨rfl, rfl⟩ := List.cons.inj h
        obtain ⟨u, hu, ht⟩ := exec_cons ht
        have hpu := (hP s _ u hs hp hbase.head hu).2 hok.head
        exact (ih (hI s _ u hs hbase.head hu) hpu (hbase.tail hu)).1 (hok.tail hu) es₁ es₂ t rfl ht
    · intro h
      cases hu : step s e with
      | none =>
        refine ⟨hdisabled s e hu, ?_⟩
        rw [hu]
        trivial
      | some u =>
        have hpu : P u := h [e] es u rfl (by rw [exec, hu, Option.bind_some, exec_nil])
        refine ⟨(hP s e u hs hp hbase.head hu).1 hpu, ?_⟩
        rw [hu]
        refine (ih (hI s e u hs hbase.head hu) hpu (hbase.tail hu)).2 fun es₁ es₂ t hes ht => ?_
        refine h (e :: es₁) es₂ t (by rw [hes, List.cons_append]) ?_
        rw [exec, hu, Option.bind_some, ht]

theorem along_trivial (step : σ → ε → Option σ) (s : σ) (es : List ε) :
    Along step (fun _ _ => True) s es :=
  along_iff.2 fun _ _ _ _ _ _ => trivial

theorem along_iff_always {step : σ → ε → Option σ} {I P : σ → Prop}
    (hI : ∀ s e t, I s → step s e = some t → I t)
    (hP : ∀ s e t, I s → P s → step s e = some t → (P t ↔ ok s e))
    (hdisabled : ∀ s e, step s e = none → ok s e) (hs : I s) (hp : P s) :
    Along step ok s es ↔ ∀ es₁ es₂ t, es = es₁ ++ es₂ → exec step s es₁ = some t → P t :=
  along_iff_always_of (fun s e t h _ => hI s e t h) (fun s e t h h' _ => hP s e t h h') hdisabled hs
    hp (along_trivial step s es)

/-- Two conditions that agree wherever an invariant holds are the same along a run that keeps it. -/
theorem along_congr {step : σ → ε → Option σ} {I : σ → Prop}
    (hI : ∀ s e t, I s → ok s e → step s e = some t → I t)
    (hok : ∀ s e, I s → (ok s e ↔ ok' s e)) (hs : I s) :
    Along step ok s es ↔ Along step ok' s es := by
  induction es generalizing s with
  | nil => exact Iff.rfl
  | cons e es ih =>
    rw [Along, Along, ← hok s e hs]
    refine and_congr_right fun he => ?_
    cases hstep : step s e with
    | none => exact Iff.rfl
    | some t => exact ih (hI s e t hs he hstep)

/-- A relation that is reflexive, transitive and holds across every admitted step, under an
invariant of those steps, holds between the two ends of every admitted run. -/
theorem exec_relates {step : σ → ε → Option σ} {I : σ → Prop} {R : σ → σ → Prop}
    (hstep : ∀ s e t, I s → ok s e → step s e = some t → I t ∧ R s t)
    (hrefl : ∀ s, R s s) (htrans : ∀ s t u, R s t → R t u → R s u)
    (hI : I s) (hok : Along step ok s es) (h : exec step s es = some t) : R s t := by
  induction es generalizing s with
  | nil => cases h; exact hrefl _
  | cons e es ih =>
    obtain ⟨u, hu, ht⟩ := exec_cons h
    obtain ⟨hI', hR⟩ := hstep _ _ _ hI hok.head hu
    exact htrans _ _ _ hR (ih hI' (hok.tail hu) ht)

/-- The answers of a machine to a list of requests, and the state it ends in. -/
def answers (f : ι → σ → σ × ο) : σ → List ι → List ο × σ
  | s, [] => ([], s)
  | s, i :: is =>
    let (s', o) := f i s
    let (os, t) := answers f s' is
    (o :: os, t)

theorem answers_cons (f : ι → σ → σ × ο) (s : σ) (i : ι) (is : List ι) :
    (answers f s (i :: is)).1 = (f i s).2 :: (answers f (f i s).1 is).1 := rfl

/-- The run of a machine that answers, its answers left out. -/
def advance (f : ι → σ → σ × ο) (s : σ) (i : ι) : Option σ := some (f i s).1

theorem exec_advance (f : ι → σ → σ × ο) (s : σ) (is : List ι) :
    exec (advance f) s is = some (answers f s is).2 := by
  induction is generalizing s with
  | nil => rfl
  | cons i is ih => exact ih _

theorem answers_append (f : ι → σ → σ × ο) (s : σ) (is is' : List ι) :
    (answers f s (is ++ is')).2 = (answers f (answers f s is).2 is').2 := by
  induction is generalizing s with
  | nil => rfl
  | cons i is ih => exact ih _

/-- Every answer is the one to some request, given in the state that the requests before it lead to. -/
theorem mem_answers {f : ι → σ → σ × ο} : o ∈ (answers f s is).1 ↔
    ∃ is₁ i is₂, is = is₁ ++ i :: is₂ ∧ o = (f i (answers f s is₁).2).2 := by
  induction is generalizing s with
  | nil =>
    refine iff_of_false List.not_mem_nil ?_
    rintro ⟨is₁, i, is₂, h, -⟩
    exact List.append_ne_nil_of_right_ne_nil _ (List.cons_ne_nil _ _) h.symm
  | cons j is ih =>
    rw [answers_cons, List.mem_cons, ih]
    constructor
    · rintro (rfl | ⟨is₁, i, is₂, rfl, rfl⟩)
      · exact ⟨[], j, is, rfl, rfl⟩
      · exact ⟨j :: is₁, i, is₂, rfl, rfl⟩
    · rintro ⟨is₁, i, is₂, h, rfl⟩
      cases is₁ with
      | nil =>
        obtain ⟨rfl, -⟩ := List.cons.inj h
        exact .inl rfl
      | cons k is₁ =>
        obtain ⟨rfl, rfl⟩ := List.cons.inj h
        exact .inr ⟨is₁, i, is₂, rfl, rfl⟩

end Execution
