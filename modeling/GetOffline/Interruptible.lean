import Mathlib.Logic.Basic

set_option autoImplicit true

-- Computations on a state that may raise or be cut off, and leave the state as it is then
namespace Interruptible

/-- Why a computation has not come to its end. -/
inductive Halt (ε : Type u)
  | raised (error : ε)
  | died
deriving DecidableEq

def Comp (σ : Type u) (ε : Type v) (α : Type w) :=
  σ → Except (Halt ε) α × σ

namespace Comp
variable {σ : Type u} {ε : Type v} {α β : Type w}

/-- What comes after a computation that has come to its end. -/
def andThen (f : α → Comp σ ε β) : Except (Halt ε) α × σ → Except (Halt ε) β × σ
  | (.ok a, s) => f a s
  | (.error halt, s) => (.error halt, s)

instance : Monad (Comp σ ε) where
  pure a s := (.ok a, s)
  bind p f s := andThen f (p s)

def look : Comp σ ε σ := fun s => (.ok s, s)

def change (f : σ → σ) : Comp σ ε Unit := fun s => (.ok (), f s)

def halt (h : Halt ε) : Comp σ ε α := fun s => (.error h, s)

def ofExcept : Except ε α → Comp σ ε α
  | .ok a => pure a
  | .error e => halt (.raised e)

/-- `try: p` and `except: handler`. What has died is not caught. -/
def handle (handler : ε → Comp σ ε α) : Except (Halt ε) α × σ → Except (Halt ε) α × σ
  | (.error (.raised e), s) => handler e s
  | r => r

def tryCatch (p : Comp σ ε α) (handler : ε → Comp σ ε α) : Comp σ ε α :=
  fun s => handle handler (p s)

/-- How the computation ends: with `Q` at its end, with `I` where it has been cut off. -/
def Ends (Q : α → σ → Prop) (I : Halt ε → σ → Prop) : Except (Halt ε) α × σ → Prop
  | (.ok a, s) => Q a s
  | (.error h, s) => I h s

structure Ensures (p : Comp σ ε α) (Q : α → σ → Prop) (I : Halt ε → σ → Prop) (s : σ) : Prop where
  ends : Ends Q I (p s)

variable {p : Comp σ ε α} {f : α → Comp σ ε β} {Q : α → σ → Prop} {R : β → σ → Prop} {I : Halt ε → σ → Prop}
  {s : σ}

theorem ensures_bind (h : p.Ensures (fun a s' => (f a).Ensures R I s') I s) : (p >>= f).Ensures R I s := by
  constructor
  have hends := h.ends
  change Ends R I (andThen f (p s))
  cases hp : p s with
  | mk r s' =>
    rw [hp] at hends
    cases r with
    | ok a => exact hends.ends
    | error halt => exact hends

theorem ensures_pure {a : α} (h : Q a s) : (pure a : Comp σ ε α).Ensures Q I s := ⟨h⟩

theorem ensures_look {Q : σ → σ → Prop} (h : Q s s) : (look : Comp σ ε σ).Ensures Q I s := ⟨h⟩

theorem ensures_change {g : σ → σ} {Q : Unit → σ → Prop} (h : Q () (g s)) :
    (change g : Comp σ ε Unit).Ensures Q I s := ⟨h⟩

theorem ensures_halt {halted : Halt ε} (h : I halted s) : (halt halted : Comp σ ε α).Ensures Q I s := ⟨h⟩

theorem ensures_ofExcept {x : Except ε α} (hok : ∀ a, x = .ok a → Q a s)
    (herror : ∀ e, x = .error e → I (.raised e) s) : (ofExcept x : Comp σ ε α).Ensures Q I s := by
  cases x with
  | ok a => exact ensures_pure (hok a rfl)
  | error e => exact ensures_halt (herror e rfl)

theorem ensures_tryCatch {handler : ε → Comp σ ε α} {J : Halt ε → σ → Prop} (hp : p.Ensures Q J s)
    (hraised : ∀ e s', J (.raised e) s' → (handler e).Ensures Q I s') (hdied : ∀ s', J .died s' → I .died s') :
    (p.tryCatch handler).Ensures Q I s := by
  constructor
  have hends := hp.ends
  change Ends Q I (handle handler (p s))
  cases hrun : p s with
  | mk r s' =>
    rw [hrun] at hends
    cases r with
    | ok a => exact hends
    | error h =>
      cases h with
      | raised e => exact (hraised e s' hends).ends
      | died => exact hdied s' hends

theorem ensures_ite {c : Prop} [Decidable c] {q : Comp σ ε α} (hp : c → p.Ensures Q I s)
    (hq : ¬ c → q.Ensures Q I s) : (if c then p else q).Ensures Q I s := by
  split
  · next h => exact hp h
  · next h => exact hq h

theorem Ensures.mono {Q' : α → σ → Prop} {I' : Halt ε → σ → Prop} (h : p.Ensures Q I s)
    (hQ : ∀ a s', Q a s' → Q' a s') (hI : ∀ halted s', I halted s' → I' halted s') : p.Ensures Q' I' s := by
  constructor
  have hends := h.ends
  cases hp : p s with
  | mk r s' =>
    rw [hp] at hends
    cases r with
    | ok a => exact hQ a s' hends
    | error halted => exact hI halted s' hends

/-- What the computation has returned and the state that it has left. -/
theorem Ensures.of_ok (h : p.Ensures Q I s) (hp : p s = (.ok a, s')) : Q a s' := by
  have hends := h.ends
  rw [hp] at hends
  exact hends

theorem Ensures.of_error (h : p.Ensures Q I s) (hp : p s = (.error halted, s')) : I halted s' := by
  have hends := h.ends
  rw [hp] at hends
  exact hends

-- What a computation leaves as it is, however it ends

structure Preserves (read : σ → γ) (p : Comp σ ε α) : Prop where
  same : ∀ s, read (p s).2 = read s

variable {read : σ → γ}

theorem preserves_bind (hp : p.Preserves read) (hf : ∀ a, (f a).Preserves read) : (p >>= f).Preserves read := by
  constructor
  intro s
  have hsame := hp.same s
  change read (andThen f (p s)).2 = read s
  cases hp : p s with
  | mk r s' =>
    rw [hp] at hsame
    cases r with
    | ok a => exact ((hf a).same s').trans hsame
    | error halt => exact hsame

theorem preserves_pure (a : α) : (pure a : Comp σ ε α).Preserves read := ⟨fun _ => rfl⟩

theorem preserves_look : (look : Comp σ ε σ).Preserves read := ⟨fun _ => rfl⟩

theorem preserves_change {g : σ → σ} (h : ∀ s, read (g s) = read s) : (change g : Comp σ ε Unit).Preserves read := ⟨h⟩

theorem preserves_halt (halted : Halt ε) : (halt halted : Comp σ ε α).Preserves read := ⟨fun _ => rfl⟩

theorem preserves_ofExcept (x : Except ε α) : (ofExcept x : Comp σ ε α).Preserves read := by
  cases x with
  | ok a => exact preserves_pure a
  | error e => exact preserves_halt _

theorem preserves_ite {c : Prop} [Decidable c] {q : Comp σ ε α} (hp : p.Preserves read) (hq : q.Preserves read) :
    (if c then p else q).Preserves read := by
  split
  · exact hp
  · exact hq

theorem preserves_tryCatch {handler : ε → Comp σ ε α} (hp : p.Preserves read) (hh : ∀ e, (handler e).Preserves read) :
    (p.tryCatch handler).Preserves read := by
  constructor
  intro s
  have hsame := hp.same s
  change read (handle handler (p s)).2 = read s
  cases hrun : p s with
  | mk r s' =>
    rw [hrun] at hsame
    cases r with
    | ok a => exact hsame
    | error h =>
      cases h with
      | raised e => exact ((hh e).same s').trans hsame
      | died => exact hsame

theorem ensures_of_preserves (h : p.Preserves read) (hQ : ∀ a s', read s' = read s → Q a s')
    (hI : ∀ halted s', read s' = read s → I halted s') : p.Ensures Q I s := by
  constructor
  have hsame := h.same s
  cases hp : p s with
  | mk r s' =>
    rw [hp] at hsame
    cases r with
    | ok a => exact hQ a s' hsame
    | error halted => exact hI halted s' hsame

end Comp
end Interruptible
