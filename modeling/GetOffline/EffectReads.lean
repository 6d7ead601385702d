import GetOffline.Effects

set_option autoImplicit true

namespace Effects
namespace Program
variable {Op : Type → Type} {ε α β : Type} {C : Contract Op ε γ} {p q : Program Op ε α}
  {f : α → Program Op ε β} {c d : γ}

theorem Steps.trans (h : Steps C p c q d) (h' : Steps C q d r e) : Steps C p c r e := by
  induction h with
  | refl p c => exact h'
  | call hnext hrest ih => exact .call hnext (ih h')

theorem Steps.bind (h : Steps C p c q d) (f : α → Program Op ε β) :
    Steps C (p >>= f) c (q >>= f) d := by
  induction h with
  | refl p c => exact .refl _ _
  | call hnext hrest ih => exact .call hnext ih

theorem steps_perform {op : Op α} {a : α} (h : C.next c op (.ok a) d) :
    Steps C (perform op) c (.done a) d :=
  .call h (.refl _ _)

/-- A run that returns is made of steps. -/
theorem steps_of_serve_ok {p : Program Op ε α} {C : Contract Op ε σ}
    {answer : {β : Type} → ι → Op β → σ → Option (Except ε β × σ)}
    (hanswer : ∀ {β} i (op : Op β) s r, answer i op s = some r → C.next s op r.1 r.2)
    (h : p.serve answer is s = some (.ok a, t)) : Steps C p s (.done a) t := by
  induction p generalizing is s with
  | done a' =>
    cases is with
    | nil =>
      obtain ⟨ha, rfl⟩ := Prod.mk.inj (Option.some.inj h)
      obtain rfl := Except.ok.inj ha
      exact .refl _ _
    | cons i is => cases h
  | raise e =>
    cases is with
    | nil => cases (Prod.mk.inj (Option.some.inj h)).1
    | cons i is => cases h
  | call op k ih =>
    cases is with
    | nil => cases h
    | cons i is =>
      obtain ⟨r, hr, h⟩ := Option.bind_eq_some_iff.1 h
      exact .call (hanswer i op s r hr) (ih r.1 h)

/-- The program leaves the context as it is; it can return `a`, and unless it raises it does. -/
structure Tells (C : Contract Op ε γ) (p : Program Op ε α) (c : γ) (a : α) : Prop where
  only : p.Meets C (fun r c' => c' = c ∧ ∀ b, r = .ok b → b = a) c
  can : Steps C p c (.done a) c

theorem tells_pure (a : α) : Tells C (pure a : Program Op ε α) c a where
  only := by
    apply meets_pure.2
    refine ⟨rfl, ?_⟩
    intro b hb
    exact (Except.ok.inj hb).symm
  can := .refl _ _

theorem tells_perform {op : Op α} (hok : C.ok c op)
    (hnext : ∀ r c', C.next c op r c' → c' = c ∧ ∀ b, r = .ok b → b = a)
    (hcan : C.next c op (.ok a) c) : Tells C (perform op) c a :=
  ⟨meets_perform hok hnext, steps_perform hcan⟩

theorem Tells.bind (hp : Tells C p c a) (hf : Tells C (f a) c b) : Tells C (p >>= f) c b where
  only := by
    apply Meets.bind hp.only
    · rintro a' c' ⟨rfl, ha⟩
      rw [ha a' rfl]
      exact hf.only
    · rintro e c' ⟨rfl, -⟩
      refine ⟨rfl, ?_⟩
      intro b hb
      cases hb
  can := (hp.can.bind f).trans hf.can

theorem tells_ite {condition : Prop} [Decidable condition] {a b : α} (hp : condition → Tells C p c a)
    (hq : ¬condition → Tells C q c b) :
    Tells C (if condition then p else q) c (if condition then a else b) := by
  by_cases h : condition
  · rw [if_pos h, if_pos h]
    exact hp h
  · rw [if_neg h, if_neg h]
    exact hq h

/-- A loop each of whose rounds tells what a function computes. -/
theorem Tells.foldlM {step : β → α → Program Op ε β} {g : β → α → β} {as : List α}
    (h : ∀ b, ∀ a ∈ as, Tells C (step b a) c (g b a)) (b : β) :
    Tells C (as.foldlM step b) c (as.foldl g b) := by
  induction as generalizing b with
  | nil => exact tells_pure b
  | cons a as ih =>
    rw [List.foldlM_cons, List.foldl_cons]
    apply Tells.bind (h b a List.mem_cons_self)
    exact ih (fun b a ha => h b a (List.mem_cons_of_mem _ ha)) (g b a)

variable {Q : Except ε β → γ → Prop}

/-- Where an exception does no harm, what matters is how the program goes on with what it is told. -/
theorem Tells.meets_bind_iff (h : Tells C p c a) (hQ : ∀ e, Q (.error e) c) :
    (p >>= f).Meets C Q c ↔ (f a).Meets C Q c := by
  constructor
  · intro hmeets
    exact hmeets.steps (h.can.bind f) fun _ _ _ _ hnext => hnext
  · intro hmeets
    apply Meets.bind h.only
    · rintro a' c' ⟨rfl, ha⟩
      rw [ha a' rfl]
      exact hmeets
    · rintro e c' ⟨rfl, -⟩
      exact hQ e

theorem Tells.eq_of_steps (h : Tells C p c a) (hsteps : Steps C p c (.done b) d) : d = c ∧ b = a := by
  obtain ⟨hd, hb⟩ := meets_pure.1 (h.only.steps hsteps fun _ _ _ _ hnext => hnext)
  exact ⟨hd, hb b rfl⟩

/-- A cleanup after which the outcome is as good as before does not matter. -/
theorem meets_tryFinally_iff {Q : Except ε α → γ → Prop} {cleanup : Program Op ε Unit}
    (h : ∀ r c, (cleanup >>= fun _ => ofExcept r).Meets C Q c ↔ Q r c) :
    (p.tryFinally cleanup).Meets C Q c ↔ p.Meets C Q c := by
  induction p generalizing c with
  | done a => exact (h (.ok a) c).trans meets_pure.symm
  | raise e => exact (h (.error e) c).trans meets_raise.symm
  | call op k ih =>
    rw [tryFinally, meets_call, meets_call]
    simp only [ih]

end Program
end Effects
