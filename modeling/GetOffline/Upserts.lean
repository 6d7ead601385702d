import GetOffline.LibraryRows

set_option autoImplicit true

namespace GetOffline

/-- `update_or_create` succeeds unless it finds two rows. -/
theorem updateOrCreateRow_ok_iff {lookup : Nat → ρ → Bool} {new : ρ} {update : ρ → ρ} {t : AutoTable ρ} :
    (∃ id u, updateOrCreateRow lookup new update t = .ok (id, u)) ↔
      {i | ∃ row, t.rows.lookup i = some row ∧ lookup i row = true}.Subsingleton := by
  constructor
  · rintro ⟨id, u, h⟩ i hi j hj
    obtain ⟨row₀, -, ⟨-, -, hnone⟩ | ⟨old, -, -, hkeys⟩⟩ := updateOrCreateRow_spec h
    · obtain ⟨row, hrow, hlookup⟩ := hi
      exact absurd hlookup (hnone i row hrow)
    · exact ((hkeys i).1 hi).trans ((hkeys j).1 hj).symm
  · intro hsingle
    have hnodup := Table.nodup_keysWhere lookup t.rows
    rw [updateOrCreateRow]
    cases hkeys : t.rows.keysWhere lookup with
    | nil => exact ⟨_, _, rfl⟩
    | cons i keys =>
      cases keys with
      | nil => exact ⟨_, _, rfl⟩
      | cons j keys =>
        rw [hkeys, List.nodup_cons] at hnodup
        have hi := Table.mem_keysWhere.1 (hkeys ▸ List.mem_cons_self)
        have hj := Table.mem_keysWhere.1 (hkeys ▸ List.mem_cons_of_mem i List.mem_cons_self)
        exact absurd (hsingle hi hj ▸ List.mem_cons_self) hnodup.1

theorem updateOrCreateRow_raises {lookup : Nat → ρ → Bool} {new : ρ} {update : ρ → ρ} {t : AutoTable ρ}
    {error : Python.Error} (h : updateOrCreateRow lookup new update t = .error error) :
    error = .other "MultipleObjectsReturned" := by
  rw [updateOrCreateRow] at h
  split at h
  · cases h
  · cases h
  · exact (Except.error.inj h).symm

/-- The rows of another key are not concerned. -/
theorem updateOrCreateRow_other {lookup : Nat → ρ → Bool} (other : Nat → ρ → Bool) {new : ρ} {update : ρ → ρ}
    {t u : AutoTable ρ} {id : Nat} (h : updateOrCreateRow lookup new update t = .ok (id, u))
    (hnew : ¬ other id new = true) (hupdate : ∀ row, lookup id row = true → ¬ other id (update row) = true)
    (hdistinct : ∀ row, lookup id row = true → ¬ other id row = true) (i : Nat) :
    (∃ row, u.rows.lookup i = some row ∧ other i row = true) ↔
      ∃ row, t.rows.lookup i = some row ∧ other i row = true := by
  obtain ⟨row₀, hlookup, hcase⟩ := updateOrCreateRow_spec h
  rw [hlookup]
  split
  · next heq =>
    subst heq
    refine iff_of_false ?_ ?_
    · rintro ⟨row, heq, hother⟩
      obtain rfl := Option.some.inj heq
      rcases hcase with ⟨rfl, -, -⟩ | ⟨old, rfl, hold, hkeys⟩
      · exact hnew hother
      · obtain ⟨row', hrow', hfound⟩ := (hkeys i).2 rfl
        obtain rfl := Option.some.inj (hold.symm.trans hrow')
        exact hupdate old hfound hother
    · rintro ⟨row, hrow, hother⟩
      rcases hcase with ⟨-, hnone, -⟩ | ⟨old, -, -, hkeys⟩
      · rw [hnone] at hrow
        cases hrow
      · obtain ⟨row', hrow', hfound⟩ := (hkeys i).2 rfl
        obtain rfl := Option.some.inj (hrow.symm.trans hrow')
        exact hdistinct row hfound hother
  · rfl

/-- What a series of calls of `update_or_create` makes of a table, where each call looks its row up by a key of
its own and writes that row only. -/
structure Upserted (isKey : κ → ρ → Bool) (write : κ → ρ → ρ) (keys : Set κ) (t u : AutoTable ρ) : Prop where
  rows : ∀ id row, u.rows.lookup id = some row →
    (∃ k ∈ keys, isKey k row = true ∧ ∃ old, row = write k old) ∨
      t.rows.lookup id = some row ∧ ∀ k ∈ keys, ¬ isKey k row = true
  one : ∀ k ∈ keys, ∃! id, ∃ row, u.rows.lookup id = some row ∧ isKey k row = true
  kept : ∀ id row, t.rows.lookup id = some row → (∀ k ∈ keys, ¬ isKey k row = true) →
    u.rows.lookup id = some row
  written : ∀ id row, ∀ k ∈ keys, t.rows.lookup id = some row → isKey k row = true →
    u.rows.lookup id = some (write k row)

namespace Upserted
variable {isKey : κ → ρ → Bool} {write : κ → ρ → ρ} {keys : Set κ} {t u v : AutoTable ρ} {k : κ} {new : ρ}
  {id : Nat}

theorem refl (t : AutoTable ρ) : Upserted isKey write ∅ t t where
  rows := fun _ _ h => .inr ⟨h, fun _ hk => hk.elim⟩
  one := fun _ hk => hk.elim
  kept := fun _ _ h _ => h
  written := fun _ _ _ hk => hk.elim

/-- A call in front of the others. -/
theorem cons (hdistinct : ∀ other ∈ keys, ∀ row, isKey k row = true → ¬ isKey other row = true)
    (hwrite : ∀ row, isKey k (write k row) = isKey k row) (hnew : isKey k new = true)
    (hrow : updateOrCreateRow (fun _ => isKey k) (write k new) (write k) t = .ok (id, u))
    (h : Upserted isKey write keys u v) : Upserted isKey write (insert k keys) t v := by
  obtain ⟨row₀, hlookup, hcase⟩ := updateOrCreateRow_spec hrow
  obtain ⟨old, rfl, hold⟩ : ∃ old, row₀ = write k old ∧ isKey k old = true := by
    rcases hcase with ⟨rfl, -, -⟩ | ⟨old, rfl, hid, hkeys⟩
    · exact ⟨new, rfl, hnew⟩
    · obtain ⟨row, hrow, hkey⟩ := (hkeys id).2 rfl
      obtain rfl := Option.some.inj (hid.symm.trans hrow)
      exact ⟨old, rfl, hkey⟩
  have hkey : isKey k (write k old) = true := (hwrite old).trans hold
  have hfound (i : Nat) (row : ρ) (hi : t.rows.lookup i = some row) (hik : isKey k row = true) :
      i = id ∧ write k old = write k row := by
    rcases hcase with ⟨-, -, hnone⟩ | ⟨old', heq, hid, hkeys⟩
    · exact absurd hik (hnone i row hi)
    · obtain rfl := (hkeys i).1 ⟨row, hi, hik⟩
      obtain rfl := Option.some.inj (hid.symm.trans hi)
      exact ⟨rfl, heq⟩
  have hother (i : Nat) (row : ρ) (hi : t.rows.lookup i = some row) (hik : ¬ isKey k row = true) :
      u.rows.lookup i = some row := by
    rw [hlookup, if_neg]
    · exact hi
    · rintro rfl
      rcases hcase with ⟨-, hnone, -⟩ | ⟨old', -, hid, hkeys⟩
      · rw [hnone] at hi
        cases hi
      · obtain ⟨row', hrow', hkey'⟩ := (hkeys i).2 rfl
        obtain rfl := Option.some.inj (hrow'.symm.trans hi)
        exact hik hkey'
  have hid : v.rows.lookup id = some (write k old) :=
    h.kept id _ ((hlookup id).trans (if_pos rfl)) fun other hmem => hdistinct other hmem _ hkey
  constructor
  · intro i row hi
    rcases h.rows i row hi with ⟨other, hmem, hwritten⟩ | ⟨hback, hno⟩
    · exact .inl ⟨other, .inr hmem, hwritten⟩
    · rw [hlookup] at hback
      split at hback
      · obtain rfl := Option.some.inj hback
        exact .inl ⟨k, .inl rfl, hkey, old, rfl⟩
      · next hne =>
        refine .inr ⟨hback, ?_⟩
        rintro other (rfl | hmem)
        · exact fun hother => hne (hfound i row hback hother).1
        · exact hno other hmem
  · rintro other (rfl | hmem)
    · refine ⟨id, ⟨_, hid, hkey⟩, ?_⟩
      rintro i ⟨row, hi, hik⟩
      rcases h.rows i row hi with ⟨other', hmem, hkey', -⟩ | ⟨hrow, -⟩
      · exact absurd hkey' (hdistinct other' hmem row hik)
      · rw [hlookup] at hrow
        split at hrow
        · next heq => exact heq
        · exact (hfound i row hrow hik).1
    · exact h.one other hmem
  · intro i row hi hno
    exact h.kept i row (hother i row hi (hno k (.inl rfl))) fun other hmem => hno other (.inr hmem)
  · rintro i row other (rfl | hmem) hi hik
    · obtain ⟨rfl, heq⟩ := hfound i row hi hik
      rw [hid, heq]
    · refine h.written i row other hmem (hother i row hi ?_) hik
      exact fun hk => hdistinct other hmem row hk hik

variable {holds : ρ → Prop}

/-- Of a row that one of the keys writes there is no other exactly if the rows without a key are others. -/
theorem existsUnique_iff (h : Upserted isKey write keys t u) (hk : k ∈ keys)
    (hdistinct : ∀ other ∈ keys, ∀ row, isKey k row = true → isKey other row = true → other = k)
    (hholds : ∀ old, isKey k (write k old) = true → holds (write k old))
    (hothers : ∀ other ∈ keys, ∀ old, holds (write other old) → other = k) :
    (∃! id, ∃ row, u.rows.lookup id = some row ∧ holds row) ↔
      ∀ id row, t.rows.lookup id = some row → holds row → ∃ other ∈ keys, isKey other row = true := by
  obtain ⟨id₀, ⟨row₀, hid₀, hkey₀⟩, hunique⟩ := h.one k hk
  have hholds₀ : holds row₀ := by
    rcases h.rows id₀ row₀ hid₀ with ⟨other, hmem, hother, old, rfl⟩ | ⟨-, hno⟩
    · obtain rfl := hdistinct other hmem _ hkey₀ hother
      exact hholds old hkey₀
    · exact absurd hkey₀ (hno k hk)
  constructor
  · intro hone id row hid hrow
    by_contra hno
    have hnone : ∀ other ∈ keys, ¬ isKey other row = true := fun other hmem hother => hno ⟨other, hmem, hother⟩
    have hkept := h.kept id row hid hnone
    obtain rfl := hone.unique ⟨row₀, hid₀, hholds₀⟩ ⟨row, hkept, hrow⟩
    obtain rfl := Option.some.inj (hid₀.symm.trans hkept)
    exact hnone k hk hkey₀
  · intro hall
    refine ⟨id₀, ⟨row₀, hid₀, hholds₀⟩, ?_⟩
    rintro id ⟨row, hid, hrow⟩
    rcases h.rows id row hid with ⟨other, hmem, hother, old, rfl⟩ | ⟨hback, hno⟩
    · obtain rfl := hothers other hmem old hrow
      exact hunique id ⟨_, hid, hother⟩
    · obtain ⟨other, hmem, hother⟩ := hall id row hback hrow
      exact absurd hother (hno other hmem)

/-- A row that none of the keys writes was there before. -/
theorem existsUnique_kept_iff (h : Upserted isKey write keys t u)
    (hothers : ∀ other ∈ keys, ∀ old, ¬ holds (write other old)) :
    (∃! id, ∃ row, u.rows.lookup id = some row ∧ holds row) ↔
      ∃! id, ∃ row, t.rows.lookup id = some row ∧ holds row ∧ ∀ other ∈ keys, ¬ isKey other row = true := by
  apply existsUnique_congr
  intro id
  constructor
  · rintro ⟨row, hid, hrow⟩
    rcases h.rows id row hid with ⟨other, hmem, -, old, rfl⟩ | ⟨hback, hno⟩
    · exact absurd hrow (hothers other hmem old)
    · exact ⟨row, hback, hrow, hno⟩
  · rintro ⟨row, hid, hrow, hno⟩
    exact ⟨row, h.kept id row hid hno, hrow⟩

/-- What is seen of the rows is the same exactly if it is the same of those that are written. -/
theorem same_iff {σ : Type w} (h : Upserted isKey write keys t u) (seen : ρ → σ) :
    (∀ id row, t.rows.lookup id = some row → ∃ row', u.rows.lookup id = some row' ∧ seen row' = seen row) ↔
      ∀ k ∈ keys, ∀ id row, t.rows.lookup id = some row → isKey k row = true → seen (write k row) = seen row := by
  constructor
  · intro hall k hk id row hid hkey
    obtain ⟨row', hid', hsame⟩ := hall id row hid
    obtain rfl := Option.some.inj (hid'.symm.trans (h.written id row k hk hid hkey))
    exact hsame
  · intro hall id row hid
    by_cases hwritten : ∃ k ∈ keys, isKey k row = true
    · obtain ⟨k, hk, hkey⟩ := hwritten
      exact ⟨_, h.written id row k hk hid hkey, hall k hk id row hid hkey⟩
    · exact ⟨row, h.kept id row hid fun k hk hkey => hwritten ⟨k, hk, hkey⟩, rfl⟩

end Upserted

end GetOffline
