import GetOffline.Multipart
import GetOffline.MultipartReader

set_option autoImplicit true

namespace GetOffline
open Python FormPart

/-- A byte in `urllib.parse.quote_plus`: letters, digits and `_.-~` stand for themselves. -/
def quotePlusByte (b : UInt8) : List Char :=
  let c := Char.ofNat b.toNat
  if b < 128 ∧ (c.isAlphanum ∨ c ∈ ['_', '.', '-', '~']) then [c]
  else if b = 32 then ['+']
  else ['%', (Nat.digitChar (b.toNat / 16)).toUpper, (Nat.digitChar (b.toNat % 16)).toUpper]

def quotePlus (text : String) : String :=
  String.ofList ((encode text).flatMap quotePlusByte)

/-- `urllib.parse.urlencode` with `doseq`, of a form without uploads. -/
def urlencode (data : FormData) : String :=
  "&".intercalate <| (iterFields data).filterMap fun field =>
    match field.2 with
    | .text value => some (quotePlus field.1 ++ "=" ++ quotePlus value)
    | .file _ => none

/-- `_encoded_body`: the chunks of the body, and the content type. -/
def encodedBody : Option FormData → Option (List (List UInt8)) × String
  | none => (none, "application/octet-stream")
  | some data =>
    if containsUpload data = false then (some [encode (urlencode data)], "application/x-www-form-urlencoded")
    else
      let boundary := "----getoffline-sdk-boundary"
      (some (multipartBody data boundary), "multipart/form-data; boundary=" ++ boundary)

/-- The boundary that a content type tells. -/
def announcedBoundary (contentType : String) : Option String :=
  let kind := "multipart/form-data; boundary="
  if kind.toList <+: contentType.toList then some (String.ofList (contentType.toList.drop kind.length))
  else none

/-- A field of the form as the other side is to see it. -/
def sentPart : String × FormItem → FormPart
  | (key, .text value) => ⟨encode key, none, encode value⟩
  | (key, .file file) => ⟨encode key, some (encode file.filename), file.content⟩

/-- The text can stand between quotes as it is. -/
def Unquoted (text : String) : Prop :=
  '"' ∉ text.toList ∧ '\\' ∉ text.toList ∧ '\r' ∉ text.toList

/-- The names need no quoting, and no line of the content begins with the boundary. -/
def Sendable (boundary : String) : String × FormItem → Prop
  | (key, .text value) => Unquoted key ∧ ¬ delimiter (encode boundary) <:+: crlf ++ encode value
  | (key, .file file) =>
    Unquoted key ∧ Unquoted file.filename ∧ ¬ delimiter (encode boundary) <:+: crlf ++ file.content

instance (text : String) : Decidable (Unquoted text) :=
  inferInstanceAs (Decidable (_ ∧ _ ∧ _))

instance (boundary : String) : DecidablePred (Sendable boundary)
  | (_, .text _) => inferInstanceAs (Decidable (_ ∧ _))
  | (_, .file _) => inferInstanceAs (Decidable (_ ∧ _ ∧ _))

theorem plain_encode (text : String) : Plain (encode text) ↔ Unquoted text := by
  have hquote : 34 ∈ encode text ↔ '"' ∈ text.toList :=
    mem_encode (by decide : ('"' : Char).toNat < 128)
  have hslash : 92 ∈ encode text ↔ '\\' ∈ text.toList :=
    mem_encode (by decide : ('\\' : Char).toNat < 128)
  have hreturn : 13 ∈ encode text ↔ '\r' ∈ text.toList :=
    mem_encode (by decide : ('\r' : Char).toNat < 128)
  rw [Unquoted, ← hquote, ← hslash, ← hreturn, Plain]
  constructor
  · intro h
    exact ⟨fun hmem => (h _ hmem).1 rfl, fun hmem => (h _ hmem).2.1 rfl, fun hmem => (h _ hmem).2.2 rfl⟩
  · rintro ⟨hquote, hslash, hreturn⟩ b hb
    refine ⟨?_, ?_, ?_⟩
    · rintro rfl
      exact hquote hb
    · rintro rfl
      exact hslash hb
    · rintro rfl
      exact hreturn hb

/-- The lines of the header of a part, and its content. -/
def partLines : String × FormItem → List (List UInt8)
  | (key, .text _) => [dispositionLine (encode key) none]
  | (key, .file file) =>
    [dispositionLine (encode key) (some (encode file.filename)), encode ("Content-Type: " ++ file.mediaType)]

section
variable {boundary key : String} {field : String × FormItem} {fields : List (String × FormItem)}

theorem encode_append_eq {a b : String} {x y : List UInt8} (ha : encode a = x) (hb : encode b = y) :
    encode (a ++ b) = x ++ y := by
  rw [encode_append, ha, hb]

theorem encode_boundaryLine (boundary : String) :
    encode ("--" ++ boundary ++ "\r\n") = 45 :: 45 :: (encode boundary ++ crlf) := by
  have hdashes : encode "--" = [45, 45] := by decide
  have hcrlf : encode "\r\n" = crlf := by decide
  rw [encode_append ("--" ++ boundary) "\r\n", encode_append "--" boundary, hdashes, hcrlf]
  rfl

theorem encode_named (key : String) :
    encode ("Content-Disposition: form-data; name=\"" ++ key) =
      encode "Content-Disposition" ++ 58 :: 32 :: (encode "form-data" ++
        59 :: 32 :: (encode "name" ++ 61 :: 34 :: encode key)) := by
  have hname : encode "Content-Disposition: form-data; name=\"" =
      encode "Content-Disposition" ++ 58 :: 32 :: (encode "form-data" ++
        59 :: 32 :: (encode "name" ++ [61, 34])) := by decide
  rw [encode_append "Content-Disposition: form-data; name=\"" key, hname, List.append_assoc, List.cons_append,
    List.cons_append, List.append_assoc, List.cons_append, List.cons_append, List.append_assoc]
  rfl

theorem dispositionLine_none (key : String) :
    dispositionLine (encode key) none = encode ("Content-Disposition: form-data; name=\"" ++ key) ++ [34] := by
  rw [encode_named, dispositionLine, List.append_assoc, List.cons_append, List.cons_append, List.append_assoc,
    List.cons_append, List.cons_append, List.append_assoc]
  rfl

theorem dispositionLine_some (key filename : String) :
    dispositionLine (encode key) (some (encode filename)) =
      encode ("Content-Disposition: form-data; name=\"" ++ key) ++
        34 :: 59 :: 32 :: (encode "filename" ++ 61 :: 34 :: (encode filename ++ [34])) := by
  rw [encode_named, dispositionLine, List.append_assoc, List.cons_append, List.cons_append, List.append_assoc,
    List.cons_append, List.cons_append, List.append_assoc]
  rfl

theorem encode_textHeader (key : String) :
    encode (textHeader key) = dispositionLine (encode key) none ++ (crlf ++ crlf) := by
  have hend : encode "\"\r\n\r\n" = [34] ++ (crlf ++ crlf) := by decide
  have hheader : encode (textHeader key) =
      encode ("Content-Disposition: form-data; name=\"" ++ key) ++ encode "\"\r\n\r\n" := encode_append _ _
  rw [hheader, dispositionLine_none, hend, List.append_assoc]

theorem encode_uploadHeader (key : String) (file : FormFile) :
    encode (uploadHeader key file) =
      dispositionLine (encode key) (some (encode file.filename)) ++
        (crlf ++ (encode ("Content-Type: " ++ file.mediaType) ++ (crlf ++ crlf))) := by
  have hquote : encode "\"; " = [34, 59, 32] := by decide
  have hfilename : encode "filename=\"" = encode "filename" ++ [61, 34] := by decide
  have htype : encode "\"\r\nContent-Type: " = 34 :: (crlf ++ encode "Content-Type: ") := by decide
  have hend : encode "\r\n\r\n" = crlf ++ crlf := by decide
  have hheader := encode_append_eq (encode_append_eq (encode_append_eq (encode_append_eq (encode_append_eq
    (encode_append_eq (encode_named key) hquote) hfilename) (Eq.refl (encode file.filename))) htype)
      (Eq.refl (encode file.mediaType))) hend
  have hmedia : encode ("Content-Type: " ++ file.mediaType) = encode "Content-Type: " ++ encode file.mediaType :=
    encode_append _ _
  rw [dispositionLine_some, hmedia, encode_named]
  refine hheader.trans ?_
  simp only [List.append_assoc, List.cons_append, List.nil_append]

/-- The boundary and the header, with the line break that was there before. -/
theorem flatten_multipartPart (boundary : String) (field : String × FormItem) (rest : List UInt8) :
    crlf ++ ((multipartPart boundary field).flatten ++ rest) =
      delimiter (encode boundary) ++
        (headerText (partLines field) ++ (crlf ++ (crlf ++ (sentPart field).content)) ++ (crlf ++ rest)) := by
  have hcrlf : encode "\r\n" = crlf := by decide
  obtain ⟨key, item⟩ := field
  cases item with
  | text value =>
    have hpart : (multipartPart boundary (key, .text value)).flatten =
        encode ("--" ++ boundary ++ "\r\n") ++ (encode (textHeader key) ++ (encode value ++ encode "\r\n")) := by
      rw [multipartPart, List.flatten_cons, List.flatten_cons, List.flatten_cons, List.flatten_singleton]
    rw [hpart, encode_boundaryLine, encode_textHeader, hcrlf]
    simp only [headerText, partLines, sentPart, delimiter, crlf, List.flatMap_cons, List.flatMap_nil,
      List.append_assoc, List.cons_append, List.nil_append]
  | file file =>
    have hpart : (multipartPart boundary (key, .file file)).flatten =
        encode ("--" ++ boundary ++ "\r\n") ++ (encode (uploadHeader key file) ++ (file.content ++ encode "\r\n")) := by
      rw [multipartPart, List.flatten_append, List.flatten_append, List.flatten_cons, List.flatten_singleton,
        List.flatten_singleton, FormFile.content, List.append_assoc, List.append_assoc]
    rw [hpart, encode_boundaryLine, encode_uploadHeader, hcrlf]
    simp only [headerText, partLines, sentPart, delimiter, crlf, List.flatMap_cons, List.flatMap_nil,
      List.append_assoc, List.cons_append, List.nil_append]

theorem partLines_spec (hunbroken : (sentPart field).Unbroken)
    (hmedia : ∀ file, field.2 = .file file → ¬ crlf <:+: encode file.mediaType) :
    ∀ line ∈ partLines field, ¬ crlf <:+: line ∧ line ≠ [] ∧ line.head? ≠ some 45 := by
  have hdisposition {name : List UInt8} {filename : Option (List UInt8)} (hname : 13 ∉ name)
      (hfilename : ∀ text ∈ filename, 13 ∉ text) :
      ¬ crlf <:+: dispositionLine name filename ∧ dispositionLine name filename ≠ [] ∧
        (dispositionLine name filename).head? ≠ some 45 := by
    have hfirst := head_dispositionLine name filename
    refine ⟨?_, ?_, ?_⟩
    · exact fun h => not_mem_dispositionLine hname hfilename (h.subset List.mem_cons_self)
    · intro hnil
      rw [hnil] at hfirst
      cases hfirst
    · rw [hfirst]
      decide
  obtain ⟨key, item⟩ := field
  cases item with
  | text value =>
    rw [partLines, List.forall_mem_singleton]
    exact hdisposition hunbroken.1 hunbroken.2
  | file file =>
    have hkind : encode "Content-Type: " = 67 :: (encode "Content-Type: ").tail := by decide
    have hplain : 13 ∉ encode "Content-Type: " := by decide
    rw [partLines, List.forall_mem_cons, List.forall_mem_singleton, encode_append "Content-Type: "]
    refine ⟨hdisposition hunbroken.1 hunbroken.2, ?_, ?_, ?_⟩
    · exact fun h => hmedia file rfl (infix_of_infix_append hplain h)
    · rw [hkind]
      exact List.cons_ne_nil _ _
    · rw [hkind, List.cons_append, List.head?_cons]
      decide

theorem readHeader_partLines (field : String × FormItem) :
    readHeader (partLines field) = some ((sentPart field).name, (sentPart field).filename) ↔
      Plain (sentPart field).name ∧ ∀ text ∈ (sentPart field).filename, Plain text := by
  obtain ⟨key, item⟩ := field
  cases item with
  | text value =>
    rw [partLines, readHeader_disposition (.inl rfl)]
    exact readDisposition_iff
  | file file =>
    have hkind : encode "Content-Type: " = 67 :: (encode "Content-Type: ").tail := by decide
    have hmedia : encode ("Content-Type: " ++ file.mediaType) =
        67 :: ((encode "Content-Type: ").tail ++ encode file.mediaType) := by
      rw [encode_append "Content-Type: ", hkind]
      rfl
    rw [partLines, readHeader_disposition (.inr ⟨67, _, [], congrArg (· :: []) hmedia, rfl⟩)]
    exact readDisposition_iff

theorem sendable_iff (boundary : String) (field : String × FormItem) :
    Sendable boundary field ↔
      (Plain (sentPart field).name ∧ ∀ text ∈ (sentPart field).filename, Plain text) ∧
        ¬ delimiter (encode boundary) <:+: crlf ++ (sentPart field).content := by
  obtain ⟨key, item⟩ := field
  cases item with
  | text value =>
    rw [Sendable, ← plain_encode]
    exact and_congr_left fun _ => (and_iff_left fun _ h => nomatch h).symm
  | file file =>
    rw [Sendable, ← plain_encode, ← plain_encode, ← and_assoc]
    exact and_congr_left fun _ => and_congr_right fun _ =>
      ⟨fun h text htext => Option.some.inj htext ▸ h, fun h => h _ rfl⟩

/-- The rest of the body from a boundary line on. -/
def bodyFrom (boundary : String) (fields : List (String × FormItem)) : List UInt8 :=
  crlf ++ (fields.flatMap (multipartPart boundary) ++ [encode ("--" ++ boundary ++ "--\r\n")]).flatten

theorem bodyFrom_nil (boundary : String) :
    bodyFrom boundary [] = delimiter (encode boundary) ++ [45, 45, 13, 10] := by
  have hdashes : encode "--" = [45, 45] := by decide
  have hend : encode "--\r\n" = [45, 45, 13, 10] := by decide
  rw [bodyFrom, List.flatMap_nil, List.nil_append, List.flatten_singleton,
    encode_append_eq (encode_append_eq hdashes rfl) hend]
  rfl

theorem bodyFrom_cons (boundary : String) (field : String × FormItem) (fields : List (String × FormItem)) :
    bodyFrom boundary (field :: fields) = delimiter (encode boundary) ++
      (headerText (partLines field) ++ (crlf ++ (crlf ++ (sentPart field).content)) ++ bodyFrom boundary fields) := by
  rw [bodyFrom, List.flatMap_cons, List.append_assoc, List.flatten_append, flatten_multipartPart]
  rfl

theorem bodyFrom_eq (boundary : String) (fields : List (String × FormItem)) :
    ∃ rest, bodyFrom boundary fields = delimiter (encode boundary) ++ rest := by
  cases fields with
  | nil => exact ⟨_, bodyFrom_nil boundary⟩
  | cons field fields => exact ⟨_, bodyFrom_cons boundary field fields⟩

/-- The fields are read back exactly if each of them can be sent. -/
theorem readParts_bodyFrom (hboundary : 13 ∉ encode boundary)
    (hmedia : ∀ file, Uploads fields file → ¬ crlf <:+: encode file.mediaType) :
    readParts (splitSeq (delimiter (encode boundary)) 0 (bodyFrom boundary fields)).tail =
        some (fields.map sentPart) ↔ ∀ field ∈ fields, Sendable boundary field := by
  induction fields with
  | nil =>
    rw [bodyFrom_nil, readParts_end]
    exact iff_of_true rfl (List.forall_mem_nil _)
  | cons field fields ih =>
    have hmedia' : ∀ file, Uploads fields file → ¬ crlf <:+: encode file.mediaType :=
      fun file ⟨key, h⟩ => hmedia file ⟨key, List.mem_cons_of_mem _ h⟩
    have hfield : ∀ file, field.2 = .file file → ¬ crlf <:+: encode file.mediaType :=
      fun file h => hmedia file ⟨field.1, h ▸ List.mem_cons_self⟩
    obtain ⟨rest, hrest⟩ := bodyFrom_eq boundary fields
    have hbody := ih hmedia'
    rw [hrest, splitSeq_delimiter, List.tail_cons] at hbody
    rw [bodyFrom_cons, hrest, splitSeq_delimiter, List.tail_cons, splitSeq_append_delimiter hboundary,
      List.map_cons, List.forall_mem_cons, sendable_iff]
    by_cases hunbroken : (sentPart field).Unbroken
    · rw [← hbody, ← readHeader_partLines, and_assoc]
      exact readParts_header hboundary (partLines_spec hunbroken hfield)
    · refine iff_of_false ?_ ?_
      · exact fun h => hunbroken (unbroken_of_readParts h _ List.mem_cons_self)
      · rintro ⟨⟨⟨hname, hfilename⟩, -⟩, -⟩
        exact hunbroken ⟨fun h => (hname 13 h).2.2 rfl, fun text htext h => (hfilename text htext 13 h).2.2 rfl⟩

end

/-- Where a boundary is announced, the parts of the body are the fields of the form exactly if no name and
no file name has a quote, a backslash or a carriage return and no line of a value or an upload begins with the
boundary. A content type is part of a line of the request that brought the upload. -/
theorem form_survives_iff (data : FormData)
    (hmedia : ∀ file, Uploads (iterFields data) file → ¬ crlf <:+: encode file.mediaType)
    {body : List (List UInt8)} {contentType boundary : String}
    (hbody : encodedBody (some data) = (some body, contentType))
    (hboundary : announcedBoundary contentType = some boundary) :
    readBody (encode boundary) body.flatten = some ((iterFields data).map sentPart) ↔
      ∀ field ∈ iterFields data, Sendable boundary field := by
  rw [encodedBody] at hbody
  split at hbody
  · obtain ⟨-, rfl⟩ := Prod.mk.inj hbody
    have hnone : announcedBoundary "application/x-www-form-urlencoded" = none := by decide +kernel
    rw [hnone] at hboundary
    cases hboundary
  · obtain ⟨hchunks, rfl⟩ := Prod.mk.inj hbody
    obtain rfl := Option.some.inj hchunks
    have hsome : announcedBoundary ("multipart/form-data; boundary=" ++ "----getoffline-sdk-boundary") =
        some "----getoffline-sdk-boundary" := by decide +kernel
    obtain rfl := Option.some.inj (hsome.symm.trans hboundary)
    exact readParts_bodyFrom (by decide +kernel) hmedia

theorem notes_survive :
    readBody (encode "----getoffline-sdk-boundary") (multipartBody notesUpload "----getoffline-sdk-boundary").flatten =
      some [⟨encode "files", some (encode "notes.pdf"), encode "pdf-bytes"⟩] := by
  have hbody : encodedBody (some notesUpload) =
      (some (multipartBody notesUpload "----getoffline-sdk-boundary"),
        "multipart/form-data; boundary=----getoffline-sdk-boundary") := by decide +kernel
  have hboundary : announcedBoundary "multipart/form-data; boundary=----getoffline-sdk-boundary" =
      some "----getoffline-sdk-boundary" := by decide +kernel
  refine (form_survives_iff notesUpload ?_ hbody hboundary).2 (by decide +kernel)
  rintro file ⟨key, h⟩
  obtain rfl := FormItem.file.inj (Prod.mk.inj (List.mem_singleton.1 h)).2
  decide +kernel

/-- A file whose name has a quote. -/
def quotedUpload : FormData :=
  [("files", .single (.file {
    name := some "a\"b.pdf", contentType := some "application/pdf", size := some 9
    chunks := [encode "pdf-bytes"] }))]

theorem quoted_name_lost : ¬ ∀ (data : FormData) (body : List (List UInt8)) (contentType boundary : String),
    (∀ file, Uploads (iterFields data) file → ¬ crlf <:+: encode file.mediaType) →
      encodedBody (some data) = (some body, contentType) → announcedBoundary contentType = some boundary →
        readBody (encode boundary) body.flatten = some ((iterFields data).map sentPart) := by
  intro h
  have hread := h quotedUpload (multipartBody quotedUpload "----getoffline-sdk-boundary")
    "multipart/form-data; boundary=----getoffline-sdk-boundary" "----getoffline-sdk-boundary" ?_
    (by decide +kernel) (by decide +kernel)
  · exact absurd hread (by decide +kernel)
  · rintro file ⟨key, h⟩
    obtain rfl := FormItem.file.inj (Prod.mk.inj (List.mem_singleton.1 h)).2
    decide +kernel

end GetOffline
