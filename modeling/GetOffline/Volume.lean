import GetOffline.Table

set_option autoImplicit true

/-- The files of a system: what stands under a name is a number, and what is read and written is under the
number, so that an open file outlives its name. Numbers from `next` on are free. -/
structure Volume (ν : Type u) [DecidableEq ν] (β : Type v) where
  names : Table ν Nat
  contents : Nat → List β
  next : Nat
  fresh : ∀ name number, names.lookup name = some number → number < next

namespace Volume
variable [DecidableEq ν]

def read (v : Volume ν β) (name : ν) : Option (List β) :=
  (v.names.lookup name).map v.contents

/-- Open a file for writing: an existing one is truncated. -/
def openTruncated (name : ν) (v : Volume ν β) : Volume ν β × Nat :=
  match v.names.lookup name with
  | some number => ({ v with contents := Function.update v.contents number [] }, number)
  | none =>
    ({ names := AList.insert name v.next v.names
       contents := Function.update v.contents v.next []
       next := v.next + 1
       fresh := by
        intro other number h
        rw [Table.lookup_insert_apply] at h
        split at h
        · rw [← Option.some.inj h]
          exact Nat.lt_succ_self v.next
        · exact Nat.lt_succ_of_lt (v.fresh other number h) }, v.next)

/-- What a file holds after a write at an offset: a gap before the bytes is filled. -/
def overlay [DecidableEq β] (gap : β) (content : List β) (offset : Nat) (bytes : List β) : List β :=
  if bytes = [] then content
  else
    content.take offset ++ List.replicate (offset - content.length) gap ++ bytes ++
      content.drop (offset + bytes.length)

def write [DecidableEq β] (gap : β) (number offset : Nat) (bytes : List β) (v : Volume ν β) : Volume ν β :=
  { v with contents := Function.update v.contents number (overlay gap (v.contents number) offset bytes) }

def unlink (name : ν) (v : Volume ν β) : Volume ν β where
  names := AList.erase name v.names
  contents := v.contents
  next := v.next
  fresh := by
    intro other number h
    by_cases hname : other = name
    · rw [hname, AList.lookup_erase] at h
      cases h
    · rw [AList.lookup_erase_ne hname] at h
      exact v.fresh other number h

/-- The number stands under this name and no other. -/
def Sole (v : Volume ν β) (name : ν) (number : Nat) : Prop :=
  ∀ other, v.names.lookup other = some number ↔ other = name

section
variable {v : Volume ν β} {name other : ν} {number : Nat} {gap : β} {offset : Nat} {bytes : List β}

theorem Sole.lookup (h : v.Sole name number) : v.names.lookup name = some number :=
  (h name).2 rfl

theorem Sole.read (h : v.Sole name number) : v.read name = some (v.contents number) := by
  rw [Volume.read, h.lookup, Option.map_some]

theorem read_eq_none : v.read name = none ↔ v.names.lookup name = none :=
  Option.map_eq_none_iff

theorem read_of_contents {contents : Nat → List β} (h : ∀ n, v.names.lookup name = some n → contents n = v.contents n) :
    Volume.read { v with contents } name = v.read name := by
  rw [read, read]
  cases hnumber : v.names.lookup name with
  | none => rfl
  | some n => exact congrArg some (h n hnumber)

theorem overlay_end [DecidableEq β] (gap : β) (content bytes : List β) :
    overlay gap content content.length bytes = content ++ bytes := by
  rw [overlay]
  split
  · next hbytes => rw [hbytes, List.append_nil]
  · rw [List.take_length, Nat.sub_self, List.replicate_zero, List.append_nil, List.drop_of_length_le,
      List.append_nil]
    exact Nat.le_add_right _ _

-- A free name

theorem openTruncated_free (h : v.names.lookup name = none) :
    (v.openTruncated name).2 = v.next ∧
      (∀ other, (v.openTruncated name).1.names.lookup other =
        if other = name then some v.next else v.names.lookup other) ∧
      (v.openTruncated name).1.contents = Function.update v.contents v.next [] := by
  rw [openTruncated, h]
  refine ⟨rfl, fun other => ?_, rfl⟩
  dsimp only
  rw [Table.lookup_insert_apply]

/-- A file that is opened under a free name is empty and has no other name. -/
theorem sole_openTruncated (h : v.names.lookup name = none) :
    (v.openTruncated name).1.Sole name (v.openTruncated name).2 ∧
      (v.openTruncated name).1.contents (v.openTruncated name).2 = [] := by
  obtain ⟨hnumber, hlookup, hcontents⟩ := openTruncated_free h
  rw [hnumber, hcontents, Function.update_self]
  refine ⟨fun other => ?_, rfl⟩
  rw [hlookup]
  split
  · next hname => exact iff_of_true rfl hname
  · next hname =>
    refine iff_of_false ?_ hname
    intro hother
    exact absurd (v.fresh other v.next hother) (Nat.lt_irrefl _)

/-- The other files are not touched. -/
theorem lookup_openTruncated (h : v.names.lookup name = none) (hother : v.names.lookup other = some number) :
    (v.openTruncated name).1.names.lookup other = some number ∧
      (v.openTruncated name).1.contents number = v.contents number := by
  obtain ⟨-, hlookup, hcontents⟩ := openTruncated_free h
  have hne : other ≠ name := by
    rintro rfl
    rw [h] at hother
    cases hother
  rw [hlookup, if_neg hne, hcontents, Function.update_of_ne (Nat.ne_of_lt (v.fresh other number hother))]
  exact ⟨hother, rfl⟩

theorem Sole.openTruncated (h : v.names.lookup name = none) (hother : v.Sole other number) :
    (v.openTruncated name).1.Sole other number := by
  obtain ⟨-, hlookup, -⟩ := openTruncated_free h
  intro third
  rw [hlookup]
  split
  · next hthird =>
    subst hthird
    refine iff_of_false ?_ ?_
    · intro hnumber
      have hlt := v.fresh other number hother.lookup
      rw [Option.some.inj hnumber] at hlt
      exact Nat.lt_irrefl _ hlt
    · rintro rfl
      rw [hother.lookup] at h
      cases h
  · exact hother third

theorem read_openTruncated_of_ne (h : v.names.lookup name = none) (hne : other ≠ name) :
    (v.openTruncated name).1.read other = v.read other := by
  obtain ⟨-, hlookup, hcontents⟩ := openTruncated_free h
  rw [read, hlookup, if_neg hne, read, hcontents]
  cases hnumber : v.names.lookup other with
  | none => rfl
  | some n =>
    rw [Option.map_some, Option.map_some, Function.update_of_ne (Nat.ne_of_lt (v.fresh other n hnumber))]

-- The other operations

theorem read_write_of_ne [DecidableEq β] (h : v.Sole name number) (hne : other ≠ name) :
    (v.write gap number offset bytes).read other = v.read other := by
  apply read_of_contents
  intro n hn
  apply Function.update_of_ne
  rintro rfl
  exact hne ((h other).1 hn)

theorem contents_write_of_ne [DecidableEq β] (hne : n ≠ number) :
    (v.write gap number offset bytes).contents n = v.contents n :=
  Function.update_of_ne hne _ _

theorem contents_write_end [DecidableEq β] (gap : β) (number : Nat) (bytes : List β) (v : Volume ν β) :
    (v.write gap number (v.contents number).length bytes).contents number = v.contents number ++ bytes := by
  rw [write]
  dsimp only
  rw [Function.update_self, overlay_end]

theorem read_unlink_of_ne (hne : other ≠ name) : (v.unlink name).read other = v.read other := by
  rw [read, read, unlink]
  dsimp only
  rw [AList.lookup_erase_ne hne]

theorem Sole.unlink (h : v.Sole other number) (hne : other ≠ name) : (v.unlink name).Sole other number := by
  intro third
  rw [Volume.unlink]
  dsimp only
  by_cases hthird : third = name
  · subst hthird
    rw [AList.lookup_erase]
    exact iff_of_false (fun h => nomatch h) (Ne.symm hne)
  · rw [AList.lookup_erase_ne hthird]
    exact h third

end

end Volume
