import GetOffline.SourceForms

set_option autoImplicit true

namespace GetOffline
open Python

/-- A row that a bulk request is to save: its id is posted, and it is not to be deleted. -/
structure SavesRow (profileId sourceType : String) (post : List (String × String))
    (sources : AutoTable SourceConfig) (sourceId : Nat) (source : SourceConfig) : Prop where
  known : lower (strip sourceType) ∈ ["youtube", "podcast"]
  named : ∃ sourceIds, postedSourceIds post = .ok sourceIds ∧ sourceId ∈ sourceIds
  editable : editableSource profileId (lower (strip sourceType)) sources sourceId = some source
  kept : postedBool (sourceKey sourceId ++ "delete") "" post = false

/-- The columns that both ways of saving write. -/
def SourceConfig.edited (source : SourceConfig) : SourceConfig :=
  { source with enabled := true }

section
variable (urlparse : String → Except Error ParsedUrl)

/-- The form of the row is read without an error. -/
def RowAccepted (post : List (String × String)) (sourceId : Nat) (source : SourceConfig) : Prop :=
  ∃ form, readSourceForm urlparse post source.sourceType (sourceKey sourceId) = .ok (form, [])

end

/-- A number of a row: the text that the row gives, the text under the bare name, and whether the row's
is a number that can be stored. -/
structure NumberField where
  own : String
  bare : String
  good : Bool

/-- The row's number is left out or can be stored. -/
def NumberField.Fine (field : NumberField) : Prop :=
  field.own = "" ∨ field.good = true

instance (field : NumberField) : Decidable field.Fine :=
  inferInstanceAs (Decidable (_ ∨ _))

section
variable {urlparse : String → Except Error ParsedUrl} {post fields : List (String × String)}
  {form : SourceFormData} {source : SourceConfig} {sourceId : Nat}

theorem sourceRowErrors_eq_nil {editable : Nat → Option SourceConfig} {sourceIds : List Nat} :
    sourceRowErrors urlparse post editable sourceIds = .ok [] ↔
      ∀ sourceId ∈ sourceIds, ∀ source, editable sourceId = some source →
        postedBool (sourceKey sourceId ++ "delete") "" post = false →
          RowAccepted urlparse post sourceId source := by
  induction sourceIds with
  | nil => exact iff_of_true rfl fun _ h => absurd h List.not_mem_nil
  | cons sourceId sourceIds ih =>
    rw [sourceRowErrors, List.forall_mem_cons, ← ih]
    cases heditable : editable sourceId with
    | none => exact (and_iff_right (by rintro source ⟨⟩)).symm
    | some source =>
      dsimp only
      cases hdelete : postedBool (sourceKey sourceId ++ "delete") "" post with
      | true => exact (and_iff_right (by rintro other - ⟨⟩)).symm
      | false =>
        simp only [Bool.false_eq_true, ↓reduceIte, Option.some.injEq, forall_eq', forall_const]
        constructor
        · intro h
          obtain ⟨⟨form, errors⟩, hread, h⟩ := bind_eq_ok.1 h
          obtain ⟨rest, hrest, h⟩ := bind_eq_ok.1 h
          obtain ⟨herrors, rfl⟩ := List.append_eq_nil_iff.1 (Except.ok.inj h)
          obtain rfl := List.map_eq_nil_iff.1 herrors
          exact ⟨⟨form, hread⟩, hrest⟩
        · rintro ⟨⟨form, hread⟩, hrest⟩
          exact bind_eq_ok.2 ⟨(form, []), hread, bind_eq_ok.2 ⟨[], hrest, rfl⟩⟩

/-- A bulk request with a row that is not accepted changes nothing. -/
theorem saveSources_refused {sources : AutoTable SourceConfig}
    (hrow : SavesRow profileId sourceType post sources sourceId source)
    (hrefused : ¬ RowAccepted urlparse post sourceId source) :
    (saveSources urlparse profileId sourceType post sources).1 ≠ .ok () ∧
      (saveSources urlparse profileId sourceType post sources).2 = sources := by
  obtain ⟨sourceIds, hids, hmem⟩ := hrow.named
  have herrors := mt sourceRowErrors_eq_nil.1 fun h =>
    hrefused (h sourceId hmem source hrow.editable hrow.kept)
  rw [saveSources]
  dsimp only
  rw [if_neg (not_not_intro hrow.known), hids]
  dsimp only
  split
  · exact ⟨by rintro ⟨⟩, rfl⟩
  · exact ⟨by rintro ⟨⟩, rfl⟩
  · next h => exact absurd h herrors

end

end GetOffline
