import Mathlib.Logic.Basic

set_option autoImplicit true

namespace Effects

/-- A program returns, raises, or calls an operation and goes on with its answer. -/
inductive Program (Op : Type → Type) (ε α : Type) : Type 1
  | done (a : α)
  | raise (e : ε)
  | call {β : Type} (op : Op β) (k : Except ε β → Program Op ε α)

/-- What is asked of a program: `ok` of each call in the context that it is made in, where `next` is
how the answer to a call changes the context. -/
structure Contract (Op : Type → Type) (ε : Type) (γ : Type u) where
  ok : {β : Type} → γ → Op β → Prop
  next : {β : Type} → γ → Op β → Except ε β → γ → Prop

namespace Program
variable {Op : Type → Type} {ε α β : Type}

def bind : Program Op ε α → (α → Program Op ε β) → Program Op ε β
  | .done a, f => f a
  | .raise e, _ => .raise e
  | .call op k, f => .call op fun r => (k r).bind f

instance : Monad (Program Op ε) where
  pure := .done
  bind := bind

def ofExcept : Except ε α → Program Op ε α
  | .ok a => .done a
  | .error e => .raise e

def perform (op : Op α) : Program Op ε α :=
  .call op ofExcept

/-- `try: p` and `except: h`. -/
def tryCatch : Program Op ε α → (ε → Program Op ε α) → Program Op ε α
  | .done a, _ => .done a
  | .raise e, h => h e
  | .call op k, h => .call op fun r => (k r).tryCatch h

/-- `try: p` and `finally: cleanup`. -/
def tryFinally : Program Op ε α → Program Op ε Unit → Program Op ε α
  | .done a, cleanup => cleanup.bind fun _ => .done a
  | .raise e, cleanup => cleanup.bind fun _ => .raise e
  | .call op k, cleanup => .call op fun r => (k r).tryFinally cleanup

/-- `if condition: p`. -/
def when (condition : Bool) (p : Program Op ε Unit) : Program Op ε Unit :=
  if condition then p else .done ()

/-- Run the program to its end, each call being answered in its turn and from the state that it finds. -/
def serve (answer : {β : Type} → ι → Op β → σ → Option (Except ε β × σ)) :
    Program Op ε α → List ι → σ → Option (Except ε α × σ)
  | .done a, [], s => some (.ok a, s)
  | .raise e, [], s => some (.error e, s)
  | .call op k, i :: is, s => (answer i op s).bind fun r => (k r.1).serve answer is r.2
  | _, _, _ => none

/-- Every call of the program satisfies `P`, whatever the answers, and what it returns satisfies
`R`. -/
def Yields (P : {β : Type} → Op β → Prop) (R : α → Prop) : Program Op ε α → Prop
  | .done a => R a
  | .raise _ => True
  | .call op k => P op ∧ ∀ r, (k r).Yields P R

abbrev Calls (P : {β : Type} → Op β → Prop) (p : Program Op ε α) : Prop :=
  p.Yields P fun _ => True

section
variable {P : {β : Type} → Op β → Prop} {R : α → Prop} {S : β → Prop} {p : Program Op ε α}
  {f : α → Program Op ε β}

theorem Yields.bind (hp : p.Yields P R) (hf : ∀ a, R a → (f a).Yields P S) :
    (p >>= f).Yields P S := by
  induction p with
  | done a => exact hf a hp
  | raise e => trivial
  | call op k ih => exact ⟨hp.1, fun r => ih r (hp.2 r)⟩

theorem yields_pure {a : α} (h : R a) : (pure a : Program Op ε α).Yields P R := h

theorem yields_call {op : Op β} {k : Except ε β → Program Op ε α} :
    (call op k).Yields P R ↔ P op ∧ ∀ r, (k r).Yields P R := Iff.rfl

theorem yields_raise (e : ε) : (raise e : Program Op ε α).Yields P R := trivial

theorem Yields.mono {P' : {β : Type} → Op β → Prop} {R' : α → Prop} (hp : p.Yields P R)
    (h : ∀ {β} (op : Op β), P op → P' op) (hR : ∀ a, R a → R' a) : p.Yields P' R' := by
  induction p with
  | done a => exact hR a hp
  | raise e => trivial
  | call op k ih => exact ⟨h op hp.1, fun r => ih r (hp.2 r)⟩

theorem yields_ite {c : Prop} [Decidable c] {q : Program Op ε α} (hp : c → p.Yields P R)
    (hq : ¬c → q.Yields P R) : (if c then p else q).Yields P R := by
  by_cases h : c
  · rw [if_pos h]
    exact hp h
  · rw [if_neg h]
    exact hq h

/-- A loop keeps what each of its rounds keeps. -/
theorem Yields.foldlM {step : β → α → Program Op ε β} {as : List α}
    (h : ∀ b a, a ∈ as → S b → (step b a).Yields P S) {b : β} (hb : S b) :
    (as.foldlM step b).Yields P S := by
  induction as generalizing b with
  | nil => exact hb
  | cons a as ih =>
    rw [List.foldlM_cons]
    apply Yields.bind (h b a List.mem_cons_self hb)
    intro b' hb'
    exact ih (fun b a ha => h b a (List.mem_cons_of_mem _ ha)) hb'

theorem Calls.bind (hp : p.Calls P) (hf : ∀ a, (f a).Calls P) : (p >>= f).Calls P :=
  Yields.bind hp fun a _ => hf a

theorem calls_pure (a : α) : (pure a : Program Op ε α).Calls P := trivial

theorem calls_raise (e : ε) : (raise e : Program Op ε α).Calls P := trivial

theorem calls_ofExcept (r : Except ε α) : (ofExcept r : Program Op ε α).Calls P := by
  cases r <;> trivial

theorem calls_perform {op : Op α} (h : P op) : (perform op : Program Op ε α).Calls P :=
  ⟨h, calls_ofExcept⟩

theorem calls_when {condition : Bool} {p : Program Op ε Unit} (hp : p.Calls P) :
    (when condition p).Calls P :=
  yields_ite (fun _ => hp) fun _ => trivial

theorem Calls.tryCatch {h : ε → Program Op ε α} (hp : p.Calls P) (hh : ∀ e, (h e).Calls P) :
    (p.tryCatch h).Calls P := by
  induction p with
  | done a => trivial
  | raise e => exact hh e
  | call op k ih => exact ⟨hp.1, fun r => ih r (hp.2 r)⟩

theorem Calls.tryFinally {cleanup : Program Op ε Unit} (hp : p.Calls P)
    (hcleanup : cleanup.Calls P) : (p.tryFinally cleanup).Calls P := by
  induction p with
  | done a => exact Calls.bind hcleanup fun _ => trivial
  | raise e => exact Calls.bind hcleanup fun _ => trivial
  | call op k ih => exact ⟨hp.1, fun r => ih r (hp.2 r)⟩

theorem Calls.foldlM {step : β → α → Program Op ε β} {as : List α}
    (h : ∀ b a, (step b a).Calls P) (b : β) : (as.foldlM step b).Calls P :=
  Yields.foldlM (fun b a _ _ => h b a) trivial

end

/-- The program, run from the context, makes only calls that are `ok` and ends in `Q`. -/
def Meets (C : Contract Op ε γ) (Q : Except ε α → γ → Prop) : Program Op ε α → γ → Prop
  | .done a, c => Q (.ok a) c
  | .raise e, c => Q (.error e) c
  | .call op k, c => C.ok c op ∧ ∀ r c', C.next c op r c' → (k r).Meets C Q c'

section
variable {C : Contract Op ε γ} {Q Q' : Except ε α → γ → Prop} {R : Except ε β → γ → Prop}
  {p : Program Op ε α} {f : α → Program Op ε β}

theorem meets_pure {a : α} : (pure a : Program Op ε α).Meets C Q c ↔ Q (.ok a) c := Iff.rfl

theorem meets_raise {e : ε} : (raise e : Program Op ε α).Meets C Q c ↔ Q (.error e) c := Iff.rfl

theorem meets_call {op : Op β} {k : Except ε β → Program Op ε α} :
    (call op k).Meets C Q c ↔ C.ok c op ∧ ∀ r c', C.next c op r c' → (k r).Meets C Q c' := Iff.rfl

theorem Meets.mono (hp : p.Meets C Q c) (h : ∀ r c', Q r c' → Q' r c') : p.Meets C Q' c := by
  induction p generalizing c with
  | done a => exact h _ _ hp
  | raise e => exact h _ _ hp
  | call op k ih => exact ⟨hp.1, fun r c' hc => ih r (hp.2 r c' hc)⟩

theorem Meets.bind (hp : p.Meets C Q c) (hok : ∀ a c', Q (.ok a) c' → (f a).Meets C R c')
    (herror : ∀ e c', Q (.error e) c' → R (.error e) c') : (p >>= f).Meets C R c := by
  induction p generalizing c with
  | done a => exact hok a c hp
  | raise e => exact herror e c hp
  | call op k ih => exact ⟨hp.1, fun r c' hc => ih r (hp.2 r c' hc)⟩

theorem meets_ofExcept {r : Except ε α} (h : Q r c) : (ofExcept r).Meets C Q c := by
  cases r <;> exact h

theorem meets_perform {op : Op α} (hok : C.ok c op) (hnext : ∀ r c', C.next c op r c' → Q r c') :
    (perform op).Meets C Q c :=
  ⟨hok, fun r c' hc => meets_ofExcept (hnext r c' hc)⟩

theorem meets_ite {c : Prop} [Decidable c] {q : Program Op ε α} {d : γ} (hp : c → p.Meets C Q d)
    (hq : ¬c → q.Meets C Q d) : (if c then p else q).Meets C Q d := by
  by_cases h : c
  · rw [if_pos h]
    exact hp h
  · rw [if_neg h]
    exact hq h

theorem Meets.tryCatch {h : ε → Program Op ε α} (hp : p.Meets C Q c)
    (hok : ∀ a c', Q (.ok a) c' → Q' (.ok a) c')
    (herror : ∀ e c', Q (.error e) c' → (h e).Meets C Q' c') : (p.tryCatch h).Meets C Q' c := by
  induction p generalizing c with
  | done a => exact hok a c hp
  | raise e => exact herror e c hp
  | call op k ih => exact ⟨hp.1, fun r c' hc => ih r (hp.2 r c' hc)⟩

/-- After a cleanup that raises, its exception is the outcome. -/
theorem Meets.tryFinally {cleanup : Program Op ε Unit} (hp : p.Meets C Q c)
    (hcleanup : ∀ r c', Q r c' → cleanup.Meets C (fun r' c'' =>
      (∀ e, r' = .error e → Q' (.error e) c'') ∧ (r' = .ok () → Q' r c'')) c') :
    (p.tryFinally cleanup).Meets C Q' c := by
  induction p generalizing c with
  | done a =>
    exact Meets.bind (hcleanup _ c hp) (fun _ _ h => h.2 rfl) fun e _ h => h.1 e rfl
  | raise e =>
    exact Meets.bind (hcleanup _ c hp) (fun _ _ h => h.2 rfl) fun e _ h => h.1 e rfl
  | call op k ih => exact ⟨hp.1, fun r c' hc => ih r (hp.2 r c' hc)⟩

/-- A loop keeps what each of its rounds keeps. -/
theorem Meets.foldlM {step : β → α → Program Op ε β} {as : List α} {I : β → γ → Prop}
    (hstep : ∀ b a c, a ∈ as → I b c →
      (step b a).Meets C (fun r c' => (∀ b', r = .ok b' → I b' c') ∧
        ∀ e, r = .error e → R (.error e) c') c)
    (hend : ∀ b c, I b c → R (.ok b) c) (hI : I b c) : (as.foldlM step b).Meets C R c := by
  induction as generalizing b c with
  | nil => exact hend b c hI
  | cons a as ih =>
    rw [List.foldlM_cons]
    apply Meets.bind (hstep b a c List.mem_cons_self hI)
    · intro b' c' h
      exact ih (fun b a c ha => hstep b a c (List.mem_cons_of_mem _ ha)) (h.1 b' rfl)
    · intro e c' h
      exact h.2 e rfl

/-- What the calls of a program keep holds at its end. -/
theorem Yields.meets {P : {β : Type} → Op β → Prop} {S : α → Prop} {I : γ → Prop}
    (hp : p.Yields P S) (hok : ∀ {β} (op : Op β) c, P op → I c → C.ok c op)
    (hnext : ∀ {β} (op : Op β) c r c', P op → I c → C.next c op r c' → I c') (hI : I c) :
    p.Meets C (fun r c' => I c' ∧ ∀ a, r = .ok a → S a) c := by
  induction p generalizing c with
  | done a =>
    refine ⟨hI, fun a' h => ?_⟩
    obtain rfl := Except.ok.inj h
    exact hp
  | raise e =>
    refine ⟨hI, fun a h => ?_⟩
    cases h
  | call op k ih =>
    exact ⟨hok op c hp.1 hI, fun r c' hc => ih r (hp.2 r) (hnext op c r c' hp.1 hI hc)⟩

/-- What a contract that reckons with every answer asks of the calls, they satisfy. -/
theorem Meets.yields {P : {β : Type} → Op β → Prop} {S : α → Prop} (hp : p.Meets C Q c)
    (hok : ∀ {β} (op : Op β) c, C.ok c op → P op)
    (hnext : ∀ {β} (op : Op β) c (r : Except ε β), ∃ c', C.next c op r c')
    (hQ : ∀ a c, Q (.ok a) c → S a) : p.Yields P S := by
  induction p generalizing c with
  | done a => exact hQ a c hp
  | raise e => trivial
  | call op k ih =>
    refine ⟨hok op c hp.1, fun r => ?_⟩
    obtain ⟨c', hc⟩ := hnext op c r
    exact ih r (hp.2 r c' hc)

end

/-- Some calls carry the program on, with answers that the contract reckons with. -/
inductive Steps (C : Contract Op ε γ) : Program Op ε α → γ → Program Op ε α → γ → Prop
  | refl (p : Program Op ε α) (c : γ) : Steps C p c p c
  | call {β : Type} {op : Op β} {k : Except ε β → Program Op ε α} {r : Except ε β}
      (hnext : C.next c op r c') (hrest : Steps C (k r) c' q d) : Steps C (.call op k) c q d

section
variable {C D : Contract Op ε γ} {Q : Except ε α → γ → Prop} {p q : Program Op ε α}

/-- Wherever a program has come to, what is left of it meets the contract. -/
theorem Meets.steps (hp : p.Meets C Q c) (h : Steps D p c q d)
    (hnext : ∀ {β} c (op : Op β) r c', D.next c op r c' → C.next c op r c') : q.Meets C Q d := by
  induction h with
  | refl p c => exact hp
  | call hcall hrest ih => exact ih (hp.2 _ _ (hnext _ _ _ _ hcall))

/-- What is asked before each call and at the end holds all the time. -/
theorem Meets.holds {I : γ → Prop} (hp : p.Meets C Q c)
    (hok : ∀ {β} (op : Op β) c, C.ok c op → I c) (hend : ∀ r c, Q r c → I c) : I c := by
  cases p with
  | done a => exact hend _ _ hp
  | raise e => exact hend _ _ hp
  | call op k => exact hok op c hp.1

end

/-- What a program meets, its runs meet. -/
theorem Meets.serve {p : Program Op ε α} {C : Contract Op ε σ} {Q : Except ε α → σ → Prop}
    {answer : {β : Type} → ι → Op β → σ → Option (Except ε β × σ)} (hp : p.Meets C Q s)
    (hanswer : ∀ {β} i (op : Op β) s r, answer i op s = some r → C.next s op r.1 r.2)
    (h : p.serve answer is s = some r) : Q r.1 r.2 := by
  induction p generalizing is s with
  | done a =>
    cases is with
    | nil =>
      obtain rfl := Option.some.inj h
      exact hp
    | cons i is => cases h
  | raise e =>
    cases is with
    | nil =>
      obtain rfl := Option.some.inj h
      exact hp
    | cons i is => cases h
  | call op k ih =>
    cases is with
    | nil => cases h
    | cons i is =>
      obtain ⟨r', hr', h⟩ := Option.bind_eq_some_iff.1 h
      exact ih r'.1 (hp.2 _ _ (hanswer i op s r' hr')) h

/-- A run is made of steps. -/
theorem steps_of_serve {p : Program Op ε α} {C : Contract Op ε σ}
    {answer : {β : Type} → ι → Op β → σ → Option (Except ε β × σ)}
    (hanswer : ∀ {β} i (op : Op β) s r, answer i op s = some r → C.next s op r.1 r.2)
    (h : p.serve answer is s = some r) : ∃ q, Steps C p s q r.2 := by
  induction p generalizing is s with
  | done a =>
    cases is with
    | nil =>
      obtain rfl := Option.some.inj h
      exact ⟨.done a, .refl _ _⟩
    | cons i is => cases h
  | raise e =>
    cases is with
    | nil =>
      obtain rfl := Option.some.inj h
      exact ⟨.raise e, .refl _ _⟩
    | cons i is => cases h
  | call op k ih =>
    cases is with
    | nil => cases h
    | cons i is =>
      obtain ⟨r', hr', h⟩ := Option.bind_eq_some_iff.1 h
      obtain ⟨q, hsteps⟩ := ih r'.1 h
      exact ⟨q, .call (hanswer i op s r' hr') hsteps⟩

attribute [irreducible] Yields Meets

end Program

end Effects
