import GetOffline.Table

set_option autoImplicit true

/-- What stands under a name of a directory. A link has the name that its text leads to. -/
inductive Entry (ν : Type u) (γ : Type v)
  | file (content : γ)
  | directory
  | link (target : ν)

/-- The entries of the directories, each under its directory's name and its own. -/
abbrev FileTree (ν : Type u) (γ : Type v) := Table ν (Entry ν γ)

namespace FileTree

/-- The names that are passed on the way to a file, over so many of them at most. -/
def trail [DecidableEq ν] : Nat → ν → FileTree ν γ → List ν
  | 0, _, _ => []
  | n + 1, name, t =>
    name :: match t.lookup name with
      | some (.link target) => trail n target t
      | _ => []

/-- The content of the file that the name leads to. -/
def follow [DecidableEq ν] : Nat → ν → FileTree ν γ → Option γ
  | 0, _, _ => none
  | n + 1, name, t =>
    match t.lookup name with
    | some (.link target) => follow n target t
    | some (.file content) => some content
    | _ => none

/-- Every entry of the one tree is an entry of the other. -/
def Within [DecidableEq ν] (t u : FileTree ν γ) : Prop :=
  ∀ name entry, t.lookup name = some entry → u.lookup name = some entry

section
variable [DecidableEq ν] {t u : FileTree ν γ} {name other : ν}

theorem Within.refl (t : FileTree ν γ) : t.Within t := fun _ _ h => h

theorem Within.trans {v : FileTree ν γ} (h : t.Within u) (h' : u.Within v) : t.Within v :=
  fun name entry he => h' name entry (h name entry he)

theorem erase_within (name : ν) (t : FileTree ν γ) : FileTree.Within (AList.erase name t) t := by
  intro other entry h
  by_cases ho : other = name
  · subst ho
    rw [AList.lookup_erase] at h
    cases h
  · rwa [AList.lookup_erase_ne ho] at h

/-- A file that is there after entries have gone was there before, under the same names. -/
theorem Within.follow (h : t.Within u) (hfile : t.follow n name = some content) :
    u.follow n name = some content ∧ u.trail n name = t.trail n name := by
  induction n generalizing name with
  | zero => cases hfile
  | succ n ih =>
    cases hentry : t.lookup name with
    | none =>
      simp only [FileTree.follow, hentry, reduceCtorEq] at hfile
    | some entry =>
      have hsame := h name entry hentry
      cases entry with
      | file content' =>
        simp only [FileTree.follow, FileTree.trail, hentry, hsame] at hfile ⊢
        exact ⟨hfile, trivial⟩
      | directory => simp only [FileTree.follow, hentry, reduceCtorEq] at hfile
      | link target =>
        simp only [FileTree.follow, FileTree.trail, hentry, hsame] at hfile ⊢
        obtain ⟨hfollow, htrail⟩ := ih hfile
        exact ⟨hfollow, congrArg (name :: ·) htrail⟩

/-- What is found within a number of links is found within more. -/
theorem follow_succ (hfile : t.follow n name = some content) : t.follow (n + 1) name = some content := by
  induction n generalizing name with
  | zero => cases hfile
  | succ n ih =>
    rw [follow] at hfile ⊢
    split at hfile
    · exact ih hfile
    · exact hfile
    · cases hfile

/-- A name on the way to a file leads to that file. -/
theorem follow_of_mem_trail (hfile : t.follow n name = some content) (hmem : other ∈ t.trail n name) :
    t.follow n other = some content := by
  induction n generalizing name with
  | zero => cases hfile
  | succ n ih =>
    rw [trail] at hmem
    rcases List.mem_cons.1 hmem with rfl | hmem
    · exact hfile
    · split at hmem
      · next target hentry =>
        simp only [follow, hentry] at hfile
        exact follow_succ (ih hfile hmem)
      · exact (List.not_mem_nil hmem).elim

/-- A file is found as before if nothing on the way to it has changed. -/
theorem follow_congr (h : ∀ other ∈ t.trail n name, u.lookup other = t.lookup other) :
    u.follow n name = t.follow n name := by
  induction n generalizing name with
  | zero => rfl
  | succ n ih =>
    rw [follow, follow, h name (List.mem_cons_self)]
    split
    · next target hentry =>
      apply ih
      intro other hother
      apply h
      rw [trail, hentry]
      exact List.mem_cons_of_mem _ hother
    · rfl
    · rfl

theorem follow_of_lookup_none (h : t.lookup name = none) (n : Nat) : t.follow n name = none := by
  cases n with
  | zero => rfl
  | succ n => simp only [follow, h]

/-- When entries go, a file is still found exactly if nothing on the way to it is missing. -/
theorem Within.follow_iff (h : u.Within t) (hfile : t.follow n name = some content) :
    u.follow n name = some content ↔ ∀ other ∈ t.trail n name, u.lookup other ≠ none := by
  constructor
  · intro hfound other hother hnone
    rw [(h.follow hfound).2] at hother
    have hother := follow_of_mem_trail hfound hother
    rw [follow_of_lookup_none hnone] at hother
    cases hother
  · intro hkept
    rw [follow_congr]
    · exact hfile
    · intro other hother
      cases hentry : u.lookup other with
      | none => exact absurd hentry (hkept other hother)
      | some entry => exact (h other entry hentry).symm

end

end FileTree
