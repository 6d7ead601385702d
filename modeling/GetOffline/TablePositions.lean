import GetOffline.AutoTable
import Mathlib.Order.Bounds.Basic

set_option autoImplicit true

namespace AutoTable

/-- The positions of the rows of a group. -/
def positions (group : ρ → γ) (position : ρ → Int) (g : γ) (t : AutoTable ρ) : Set Int :=
  {p | ∃ i row, t.rows.lookup i = some row ∧ group row = g ∧ position row = p}

/-- No two rows of a group share a position. -/
def DistinctPositions (group : ρ → γ) (position : ρ → Int) (t : AutoTable ρ) : Prop :=
  ∀ i j row other, t.rows.lookup i = some row → t.rows.lookup j = some other →
    group row = group other → position row = position other → i = j

/-- Every new row is above all that were in its group before it. -/
structure NewOnTop (group : ρ → γ) (position : ρ → Int) (t t' : AutoTable ρ) : Prop where
  before : ∀ i j row new, t.rows.lookup i = some row → t.nextId ≤ j → t'.rows.lookup j = some new →
    group row = group new → position row < position new
  among : ∀ i j row new, t.nextId ≤ i → i < j → t'.rows.lookup i = some row →
    t'.rows.lookup j = some new → group row = group new → position row < position new

/-- The rows that were there before keep their group and their position, or are gone. -/
def KeepsPositions (group : ρ → γ) (position : ρ → Int) (t t' : AutoTable ρ) : Prop :=
  ∀ i row, i < t.nextId → t'.rows.lookup i = some row →
    ∃ old, t.rows.lookup i = some old ∧ group old = group row ∧ position old = position row

section
variable {group : ρ → γ} {position : ρ → Int} {t t' : AutoTable ρ}

theorem mem_positions (h : t.rows.lookup i = some row) :
    position row ∈ t.positions group position (group row) :=
  ⟨i, row, h, rfl, rfl⟩

theorem distinctPositions_empty : DistinctPositions group position (empty : AutoTable ρ) := by
  intro i j row other h
  rw [lookup_empty] at h
  cases h

theorem DistinctPositions.of_newOnTop (h : DistinctPositions group position t)
    (hkeeps : KeepsPositions group position t t') (htop : NewOnTop group position t t') :
    DistinctPositions group position t' := by
  intro i j row other hi hj hgroup hposition
  by_cases hiold : i < t.nextId
  · obtain ⟨old, hold, hg, hp⟩ := hkeeps i row hiold hi
    by_cases hjold : j < t.nextId
    · obtain ⟨old', hold', hg', hp'⟩ := hkeeps j other hjold hj
      refine h i j old old' hold hold' ?_ ?_
      · rw [hg, hg', hgroup]
      · rw [hp, hp', hposition]
    · have hlt := htop.before i j old other hold (Nat.le_of_not_lt hjold) hj (hg.trans hgroup)
      exact absurd (hp.trans hposition) (ne_of_lt hlt)
  · by_cases hjold : j < t.nextId
    · obtain ⟨old, hold, hg, hp⟩ := hkeeps j other hjold hj
      have hlt := htop.before j i old row hold (Nat.le_of_not_lt hiold) hi (hg.trans hgroup.symm)
      exact absurd (hp.trans hposition.symm) (ne_of_lt hlt)
    · rcases Nat.lt_trichotomy i j with hij | hij | hij
      · exact absurd hposition
          (ne_of_lt (htop.among i j row other (Nat.le_of_not_lt hiold) hij hi hj hgroup))
      · exact hij
      · exact absurd hposition.symm
          (ne_of_lt (htop.among j i other row (Nat.le_of_not_lt hjold) hij hj hi hgroup.symm))

/-- Rows that leave, and updates of other columns, add nothing. -/
theorem NewOnTop.of_old (h : ∀ i row, t'.rows.lookup i = some row → i < t.nextId) :
    NewOnTop group position t t' where
  before _ j _ new _ hj hnew _ := absurd (h j new hnew) (Nat.not_lt_of_ge hj)
  among i _ row _ hi _ hrow _ _ := absurd (h i row hrow) (Nat.not_lt_of_ge hi)

theorem KeepsPositions.refl (t : AutoTable ρ) : KeepsPositions group position t t :=
  fun _ row _ h => ⟨row, h, rfl, rfl⟩

theorem NewOnTop.refl (t : AutoTable ρ) : NewOnTop group position t t :=
  .of_old fun _ _ => lt_nextId

theorem KeepsPositions.delete (p : Nat → ρ → Bool) (t : AutoTable ρ) :
    KeepsPositions group position t (t.delete p) := by
  intro i row _ h
  rw [lookup_delete] at h
  exact ⟨row, (Option.filter_eq_some_iff.1 h).1, rfl, rfl⟩

theorem NewOnTop.delete (p : Nat → ρ → Bool) (t : AutoTable ρ) :
    NewOnTop group position t (t.delete p) := by
  apply NewOnTop.of_old
  intro i row h
  rw [lookup_delete] at h
  exact lt_nextId (Option.filter_eq_some_iff.1 h).1

/-- What a table becomes after the insertion of one more row. -/
theorem KeepsPositions.of_insert (h : KeepsPositions group position (t.insert new) t') :
    KeepsPositions group position t t' := by
  intro i row hi hrow
  obtain ⟨old, hold, hkeeps⟩ := h i row (Nat.lt_succ_of_lt hi) hrow
  rw [lookup_insert, if_neg (Nat.ne_of_lt hi)] at hold
  exact ⟨old, hold, hkeeps⟩

theorem NewOnTop.of_insert (hlast : ∀ p ∈ t.positions group position (group new), p < position new)
    (hkeeps : KeepsPositions group position (t.insert new) t')
    (h : NewOnTop group position (t.insert new) t') : NewOnTop group position t t' := by
  have hinsert (row : ρ) (hrow : t'.rows.lookup t.nextId = some row) :
      group new = group row ∧ position new = position row := by
    obtain ⟨old, hold, hg, hp⟩ := hkeeps t.nextId row (Nat.lt_succ_self _) hrow
    rw [lookup_insert, if_pos rfl] at hold
    obtain rfl := Option.some.inj hold
    exact ⟨hg, hp⟩
  have hnew : (t.insert new).rows.lookup t.nextId = some new := by
    rw [lookup_insert, if_pos rfl]
  constructor
  · intro i j row other hrow hj hother hgroup
    rcases Nat.eq_or_lt_of_le hj with rfl | hj
    · obtain ⟨hg, hp⟩ := hinsert other hother
      rw [← hp]
      exact hlast _ ⟨i, row, hrow, hgroup.trans hg.symm, rfl⟩
    · refine h.before i j row other ?_ hj hother hgroup
      rw [lookup_insert, if_neg (Nat.ne_of_lt (lt_nextId hrow))]
      exact hrow
  · intro i j row other hi hij hrow hother hgroup
    rcases Nat.eq_or_lt_of_le hi with rfl | hi
    · obtain ⟨hg, hp⟩ := hinsert row hrow
      rw [← hp]
      exact h.before _ j new other hnew hij hother (hg.trans hgroup)
    · exact h.among i j row other hi hij hrow hother hgroup

theorem KeepsPositions.insert (new : ρ) (t : AutoTable ρ) :
    KeepsPositions group position t (t.insert new) :=
  .of_insert (.refl _)

theorem NewOnTop.insert (hlast : ∀ p ∈ t.positions group position (group new), p < position new) :
    NewOnTop group position t (t.insert new) :=
  .of_insert hlast (.refl _) (.refl _)

/-- A new row at a position of its group is not above it. -/
theorem NewOnTop.not_mem_positions (h : NewOnTop group position t t')
    (hnew : t'.rows.lookup t.nextId = some new) :
    position new ∉ t.positions group position (group new) := by
  rintro ⟨i, row, hrow, hgroup, hposition⟩
  exact absurd hposition (ne_of_lt (h.before i t.nextId row new hrow le_rfl hnew hgroup))

/-- The first row in descending order has the largest position of its group. -/
theorem isGreatest_first [LinearOrder β] (group : ρ → γ) (position : ρ → Int) (key : Nat → ρ → β) {g : γ}
    {p : Nat → ρ → Bool} (hp : ∀ i row, p i row = true ↔ group row = g)
    (hkey : ∀ i j row other, key i row ≤ key j other → position other ≤ position row) :
    match (t.rows.first p key).map fun e => position e.2 with
    | some last => IsGreatest (t.positions group position g) last
    | none => t.positions group position g = ∅ := by
  cases h : t.rows.first p key with
  | none =>
    apply Set.eq_empty_of_forall_notMem
    rintro _ ⟨i, row, hrow, hgroup, -⟩
    have hno := Table.first_eq_none.1 h i row hrow
    rw [(hp i row).2 hgroup] at hno
    cases hno
  | some e =>
    obtain ⟨hlookup, hchosen⟩ := Table.lookup_of_first h
    refine ⟨⟨e.1, e.2, hlookup, (hp _ _).1 hchosen, rfl⟩, ?_⟩
    rintro _ ⟨i, row, hrow, hgroup, rfl⟩
    exact hkey _ _ _ _ (Table.first_le h hrow ((hp _ _).2 hgroup))

end

end AutoTable
