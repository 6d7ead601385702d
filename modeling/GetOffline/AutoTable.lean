import GetOffline.TableOrder

set_option autoImplicit true

/-- A table under an `AUTO_INCREMENT` key: the id of a new row is larger than any id before it. -/
structure AutoTable (ρ : Type u) where
  rows : Table Nat ρ
  nextId : Nat
  fresh : ∀ i, nextId ≤ i → rows.lookup i = none

namespace AutoTable

def empty : AutoTable ρ := ⟨∅, 0, fun _ _ => rfl⟩

/-- `INSERT`: the row gets the next id. -/
def insert (row : ρ) (t : AutoTable ρ) : AutoTable ρ where
  rows := AList.insert t.nextId row t.rows
  nextId := t.nextId + 1
  fresh := by
    intro i hi
    rw [AList.lookup_insert_ne (Nat.ne_of_gt hi)]
    exact t.fresh i (Nat.le_of_succ_le hi)

/-- `UPDATE SET f WHERE p`. -/
def update (p : Nat → ρ → Bool) (f : ρ → ρ) (t : AutoTable ρ) : AutoTable ρ where
  rows := t.rows.update p f
  nextId := t.nextId
  fresh := by
    intro i hi
    rw [Table.lookup_update, t.fresh i hi, Option.map_none]

/-- What `DELETE WHERE p` leaves. -/
def delete (p : Nat → ρ → Bool) (t : AutoTable ρ) : AutoTable ρ where
  rows := t.rows.delete p
  nextId := t.nextId
  fresh := by
    intro i hi
    rw [Table.lookup_delete, t.fresh i hi, Option.filter_none]

section
variable {t : AutoTable ρ}

theorem lt_nextId (h : t.rows.lookup i = some row) : i < t.nextId := by
  by_contra hi
  rw [t.fresh i (Nat.le_of_not_lt hi)] at h
  cases h

@[simp] theorem lookup_empty (i : Nat) : (empty : AutoTable ρ).rows.lookup i = none := rfl

theorem lookup_insert (row : ρ) (t : AutoTable ρ) (i : Nat) :
    (t.insert row).rows.lookup i = if i = t.nextId then some row else t.rows.lookup i := by
  have h := congrFun (Table.lookup_insert_eq t.nextId row t.rows) i
  simp only [Function.update_apply] at h
  exact h

theorem lookup_delete (p : Nat → ρ → Bool) (t : AutoTable ρ) (i : Nat) :
    (t.delete p).rows.lookup i = (t.rows.lookup i).filter fun row => !p i row :=
  Table.lookup_delete p t.rows i

theorem lookup_update (p : Nat → ρ → Bool) (f : ρ → ρ) (t : AutoTable ρ) (i : Nat) :
    (t.update p f).rows.lookup i = (t.rows.lookup i).map fun row => if p i row then f row else row :=
  Table.lookup_update p f t.rows i

/-- An update of one row. -/
theorem lookup_update_at (k : Nat) (f : ρ → ρ) (t : AutoTable ρ) (i : Nat) :
    (t.update (fun j _ => j == k) f).rows.lookup i =
      if i = k then (t.rows.lookup k).map f else t.rows.lookup i := by
  have h := congrFun (Table.lookup_update_at f t.rows k) i
  simp only [Function.update_apply] at h
  exact h

/-- Two updates that do the same to the rows they find. -/
theorem update_congr {p : Nat → ρ → Bool} {f g : ρ → ρ}
    (h : ∀ i row, t.rows.lookup i = some row → p i row = true → f row = g row) :
    t.update p f = t.update p g := by
  have hrows : t.rows.update p f = t.rows.update p g := by
    apply AList.ext
    apply List.map_congr_left
    intro e he
    cases hp : p e.1 e.2 with
    | true => rw [if_pos rfl, if_pos rfl, h e.1 e.2 (Table.mem_entries_iff.1 he) hp]
    | false => rfl
  simp only [update, hrows]

/-- A row that sorts after all selected ones is listed last. -/
theorem orderBy_insert [LinearOrder β] {p : Nat → ρ → Bool} {key : Nat → ρ → β}
    (hkey : Table.Orders key)
    (hlast : ∀ i row, t.rows.lookup i = some row → p i row = true → key i row < key t.nextId new) :
    (t.insert new).rows.orderBy p key =
      t.rows.orderBy p key ++ if p t.nextId new then [(t.nextId, new)] else [] := by
  apply Table.orderBy_insert hkey (t.fresh _ le_rfl)
  intro e he
  obtain ⟨hrow, hp⟩ := Table.mem_orderBy.1 he
  exact hlast e.1 e.2 hrow hp

end

end AutoTable
