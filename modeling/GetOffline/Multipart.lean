import GetOffline.PythonEncode

set_option autoImplicit true

namespace GetOffline
open Python

-- packages/getoffline_sdk/transports.py

/-- An object with a method `chunks`, as the encoder sees it. -/
structure FormFile where
  /-- `name`, as text, if the object has it. -/
  name : Option String
  contentType : Option String
  /-- `size`, if it is an `int`. -/
  size : Option Int
  chunks : List (List UInt8)

/-- A value of a form: the text that `str` makes of it, or an upload. -/
inductive FormItem
  | text (value : String)
  | file (file : FormFile)

inductive FormValue
  | single (item : FormItem)
  | many (items : List FormItem)

/-- The items of a mapping, in its order. -/
abbrev FormData := List (String × FormValue)

def iterFields (data : FormData) : List (String × FormItem) :=
  data.flatMap fun field =>
    match field.2 with
    | .single item => [(field.1, item)]
    | .many items => items.map fun item => (field.1, item)

def FormItem.isUpload : FormItem → Bool
  | .text _ => false
  | .file _ => true

/-- `_contains_upload`. -/
def containsUpload (data : FormData) : Bool :=
  (iterFields data).any fun field => field.2.isUpload

namespace FormFile

def filename (file : FormFile) : String :=
  file.name.getD "upload"

/-- `getattr(value, "content_type", None) or "application/octet-stream"`. -/
def mediaType (file : FormFile) : String :=
  (file.contentType.filter fun text => text ≠ "").getD "application/octet-stream"

def content (file : FormFile) : List UInt8 :=
  file.chunks.flatten

end FormFile

/-- The header of an upload's part. -/
def uploadHeader (key : String) (file : FormFile) : String :=
  "Content-Disposition: form-data; name=\"" ++ key ++ "\"; " ++
    "filename=\"" ++ file.filename ++ "\"\r\nContent-Type: " ++ file.mediaType ++ "\r\n\r\n"

def textHeader (key : String) : String :=
  "Content-Disposition: form-data; name=\"" ++ key ++ "\"\r\n\r\n"

/-- What a turn of the loop of `_multipart_body` yields. -/
def multipartPart (boundary : String) : String × FormItem → List (List UInt8)
  | (key, .file file) =>
    [encode ("--" ++ boundary ++ "\r\n"), encode (uploadHeader key file)] ++ file.chunks ++ [encode "\r\n"]
  | (key, .text value) =>
    [encode ("--" ++ boundary ++ "\r\n"), encode (textHeader key), encode value, encode "\r\n"]

/-- `_multipart_body`: what is yielded. -/
def multipartBody (data : FormData) (boundary : String) : List (List UInt8) :=
  (iterFields data).flatMap (multipartPart boundary) ++ [encode ("--" ++ boundary ++ "--\r\n")]

/-- The loop of `_multipart_content_length`. -/
def contentLengthFrom (boundary : String) : Nat → List (String × FormItem) → Option Nat
  | total, [] => some (total + (encode ("--" ++ boundary ++ "--\r\n")).length)
  | total, (key, .file file) :: fields =>
    let total := total + (encode ("--" ++ boundary ++ "\r\n")).length
    match file.size with
    | some (.ofNat size) =>
      let total := total + (encode (uploadHeader key file)).length
      contentLengthFrom boundary (total + (size + (encode "\r\n").length)) fields
    | _ => none
  | total, (key, .text value) :: fields =>
    let total := total + (encode ("--" ++ boundary ++ "\r\n")).length
    let total := total + (encode (textHeader key)).length
    contentLengthFrom boundary (total + ((encode value).length + (encode "\r\n").length)) fields

/-- `_multipart_content_length`. -/
def multipartContentLength (data : FormData) (boundary : String) : Option Nat :=
  contentLengthFrom boundary 0 (iterFields data)

/-- The upload has a nonnegative integer size. -/
def FormFile.Sized (file : FormFile) : Prop :=
  ∃ size : Nat, file.size = some (size : Int)

/-- A size that the upload has is the total of its chunks. -/
def FormFile.Truthful (file : FormFile) : Prop :=
  ∀ size : Nat, file.size = some (size : Int) → size = file.content.length

/-- The upload is among the values of the fields. -/
def Uploads (fields : List (String × FormItem)) (file : FormFile) : Prop :=
  ∃ key, (key, FormItem.file file) ∈ fields

section
variable {boundary : String} {fields : List (String × FormItem)} {file : FormFile} {total n : Nat}

theorem uploads_cons_text (key value : String) :
    Uploads ((key, .text value) :: fields) file ↔ Uploads fields file := by
  constructor
  · rintro ⟨other, h⟩
    rcases List.mem_cons.1 h with h | h
    · cases h
    · exact ⟨other, h⟩
  · rintro ⟨other, h⟩
    exact ⟨other, List.mem_cons_of_mem _ h⟩

theorem uploads_cons_file (key : String) (first : FormFile) :
    Uploads ((key, .file first) :: fields) file ↔ file = first ∨ Uploads fields file := by
  constructor
  · rintro ⟨other, h⟩
    rcases List.mem_cons.1 h with h | h
    · cases h
      exact .inl rfl
    · exact .inr ⟨other, h⟩
  · rintro (rfl | ⟨other, h⟩)
    · exact ⟨key, List.mem_cons_self⟩
    · exact ⟨other, List.mem_cons_of_mem _ h⟩

/-- The sum goes on with the size, if there is one. -/
theorem contentLengthFrom_file (boundary : String) (total : Nat) (key : String) (file : FormFile)
    (fields : List (String × FormItem)) :
    (∃ size : Nat, file.size = some (size : Int) ∧
        contentLengthFrom boundary total ((key, .file file) :: fields) =
          contentLengthFrom boundary (total + (encode ("--" ++ boundary ++ "\r\n")).length +
            (encode (uploadHeader key file)).length + (size + (encode "\r\n").length)) fields) ∨
      ¬ file.Sized ∧ contentLengthFrom boundary total ((key, .file file) :: fields) = none := by
  rw [contentLengthFrom]
  dsimp only
  split
  · next size hsize => exact .inl ⟨size, hsize, rfl⟩
  · next hnone => exact .inr ⟨fun ⟨size, hsize⟩ => hnone size hsize, rfl⟩

theorem length_multipartPart_text (boundary key value : String) :
    (multipartPart boundary (key, .text value)).flatten.length =
      (encode ("--" ++ boundary ++ "\r\n")).length + (encode (textHeader key)).length +
        ((encode value).length + (encode "\r\n").length) := by
  simp only [multipartPart, List.flatten_cons, List.flatten_nil, List.length_append, List.length_nil]
  omega

theorem length_multipartPart_file (boundary key : String) (file : FormFile) :
    (multipartPart boundary (key, .file file)).flatten.length =
      (encode ("--" ++ boundary ++ "\r\n")).length + (encode (uploadHeader key file)).length +
        (file.content.length + (encode "\r\n").length) := by
  simp only [multipartPart, FormFile.content, List.flatten_cons, List.flatten_nil, List.flatten_append,
    List.length_append, List.length_nil]
  omega

/-- What is summed up is what is yielded. -/
theorem contentLengthFrom_some (htruthful : ∀ file, Uploads fields file → file.Truthful)
    (h : contentLengthFrom boundary total fields = some n) :
    n = total + (fields.flatMap (multipartPart boundary) ++
      [encode ("--" ++ boundary ++ "--\r\n")]).flatten.length := by
  induction fields generalizing total with
  | nil =>
    obtain rfl := Option.some.inj h
    rw [List.flatMap_nil, List.nil_append, List.flatten_singleton]
  | cons field fields ih =>
    rw [List.flatMap_cons, List.append_assoc, List.flatten_append, List.length_append]
    obtain ⟨key, item⟩ := field
    cases item with
    | text value =>
      rw [contentLengthFrom] at h
      have hrest := ih (fun file hfile => htruthful file ((uploads_cons_text key value).2 hfile)) h
      rw [length_multipartPart_text]
      omega
    | file file =>
      rcases contentLengthFrom_file boundary total key file fields with ⟨size, hsize, heq⟩ | ⟨-, hnone⟩
      · rw [heq] at h
        have hrest := ih (fun other hother => htruthful other ((uploads_cons_file key file).2 (.inr hother))) h
        have hexact := htruthful file ((uploads_cons_file key file).2 (.inl rfl)) size hsize
        rw [length_multipartPart_file]
        omega
      · rw [hnone] at h
        cases h

theorem contentLengthFrom_none : contentLengthFrom boundary total fields = none ↔
    ∃ file, Uploads fields file ∧ ¬ file.Sized := by
  induction fields generalizing total with
  | nil =>
    refine iff_of_false (by simp only [contentLengthFrom, reduceCtorEq, not_false_eq_true]) ?_
    rintro ⟨file, ⟨key, h⟩, -⟩
    exact List.not_mem_nil h
  | cons field fields ih =>
    obtain ⟨key, item⟩ := field
    cases item with
    | text value =>
      rw [contentLengthFrom, ih]
      simp only [uploads_cons_text]
    | file file =>
      simp only [uploads_cons_file]
      rcases contentLengthFrom_file boundary total key file fields with ⟨size, hsize, heq⟩ | ⟨hsized, hnone⟩
      · rw [heq, ih]
        constructor
        · rintro ⟨other, hother, hnot⟩
          exact ⟨other, .inr hother, hnot⟩
        · rintro ⟨other, rfl | hother, hnot⟩
          · exact absurd ⟨size, hsize⟩ hnot
          · exact ⟨other, hother, hnot⟩
      · exact iff_of_true hnone ⟨file, .inl rfl, hsized⟩

end

/-- The length that is announced is that of the body; none is announced exactly where an upload does not
tell its size. -/
theorem multipart_length_exact (data : FormData) (boundary : String)
    (htruthful : ∀ file, Uploads (iterFields data) file → file.Truthful) :
    (∀ n, multipartContentLength data boundary = some n → n = (multipartBody data boundary).flatten.length) ∧
      (multipartContentLength data boundary = none ↔
        ∃ file, Uploads (iterFields data) file ∧ ¬ file.Sized) := by
  refine ⟨?_, contentLengthFrom_none⟩
  intro n h
  have hsum := contentLengthFrom_some htruthful h
  rwa [Nat.zero_add] at hsum

/-- The notes of the transport's own test. -/
def notesUpload : FormData :=
  [("files", .many [.file {
    name := some "notes.pdf", contentType := some "application/pdf", size := some 9
    chunks := [encode "pdf-bytes"] }])]

theorem notes_length : (multipartBody notesUpload "----getoffline-sdk-boundary").flatten.length = 176 := by
  have hlength : multipartContentLength notesUpload "----getoffline-sdk-boundary" = some 176 := by
    decide +kernel
  refine ((multipart_length_exact notesUpload "----getoffline-sdk-boundary" ?_).1 176 hlength).symm
  rintro file ⟨key, h⟩ size hsize
  obtain rfl := FormItem.file.inj (Prod.mk.inj (List.mem_singleton.1 h)).2
  obtain rfl := Int.ofNat.inj (Option.some.inj hsize)
  decide +kernel

end GetOffline
