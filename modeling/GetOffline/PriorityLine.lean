import GetOffline.Execution
import Mathlib.Data.List.MinMax
import Mathlib.Data.Prod.Lex

set_option autoImplicit true

-- Waiting lines that are served by rank, and in order of arrival within a rank
namespace PriorityLine
open Execution

/-- Who waits and who is being served, each with the number of the arrival. -/
structure Line (α : Type u) where
  arrived : Nat := 0
  waiting : List (Nat × α) := []
  held : List (Nat × α) := []

inductive Op (α : Type u) (κ : Type v)
  | join (x : α)
  | serve (lane : κ)
  | settle (ticket : Nat)
  | giveBack (ticket : Nat)

section
variable {α : Type u} {κ : Type v} {β : Type w} [DecidableEq κ] [LinearOrder β] (lane : α → κ) (rank : α → β)

/-- The smaller the key, the earlier the turn. -/
def key (m : Nat × α) : βᵒᵈ ×ₗ Nat :=
  toLex (OrderDual.toDual (rank m.2), m.1)

def first (k : κ) (line : Line α) : Option (Nat × α) :=
  (line.waiting.filter fun m => lane m.2 = k).argmin (key rank)

def step (line : Line α) : Op α κ → Option (Line α)
  | .join x => some { line with
      arrived := line.arrived + 1
      waiting := line.waiting ++ [(line.arrived, x)] }
  | .serve k => (first lane rank k line).map fun m => { line with
      waiting := line.waiting.filter fun m' => m'.1 ≠ m.1
      held := line.held ++ [m] }
  | .settle ticket => some { line with held := line.held.filter fun m => m.1 ≠ ticket }
  | .giveBack ticket => (line.held.find? fun m => m.1 = ticket).map fun m => { line with
      waiting := line.waiting ++ [m]
      held := line.held.filter fun m => m.1 ≠ ticket }

/-- Whether `m'` is in the lane of `m`, with an earlier turn. -/
def isAhead (m m' : Nat × α) : Bool :=
  lane m'.2 = lane m.2 ∧ key rank m' < key rank m

def ahead (m : Nat × α) (line : Line α) : Nat :=
  line.waiting.countP (isAhead lane rank m)

def serves (m : Nat × α) : Op α κ → Bool
  | .serve k => k = lane m.2
  | _ => false

/-- In every state of the run `m` waits. -/
def WaitsThrough (m : Nat × α) : Line α → List (Op α κ) → Prop
  | line, [] => m ∈ line.waiting
  | line, op :: ops => m ∈ line.waiting ∧ ∀ line' ∈ step lane rank line op, WaitsThrough m line' ops

end

section
variable {α : Type u} {κ : Type v} {β : Type w} [DecidableEq κ] [LinearOrder β] {lane : α → κ} {rank : α → β}
  {line line' : Line α} {m m' : Nat × α}

/-- Nobody in the lane has an earlier turn than who is served. -/
theorem first_le (h : first lane rank k line = some m) (hmem : m' ∈ line.waiting) (hlane : lane m'.2 = k) :
    key rank m ≤ key rank m' :=
  List.le_of_mem_argmin (List.mem_filter.2 ⟨hmem, decide_eq_true hlane⟩) h

/-- Every number has been given out. -/
def Numbered (line : Line α) : Prop :=
  ∀ m ∈ line.waiting ++ line.held, m.1 < line.arrived

theorem WaitsThrough.waiting {ops : List (Op α κ)} (h : WaitsThrough lane rank m line ops) : m ∈ line.waiting := by
  cases ops with
  | nil => exact h
  | cons op ops => exact h.1

end

end PriorityLine
