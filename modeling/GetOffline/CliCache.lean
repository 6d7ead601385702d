import GetOffline.ChannelNames
import GetOffline.Execution
import GetOffline.GlobPatterns
import GetOffline.SeparatedTexts
import GetOffline.Table
import Mathlib.Data.String.Basic

set_option autoImplicit true

namespace GetOffline
open Python Execution

-- cli/app.py

/-- `mimetypes.guess_extension`: an extension has a leading dot and no other. -/
structure MimeTypes where
  guess : String → Option String
  extension : ∀ contentType extension, guess contentType = some extension →
    ∃ letters, letters ≠ [] ∧ '.' ∉ letters ∧ extension = String.ofList ('.' :: letters)
  not_part : ∀ contentType, guess contentType ≠ some ".part"

/-- What the downloads of a console depend on: the class of `str.isalnum`, the media types and the kind of
each episode (`media_kind` or `display_kind`). -/
structure CliScene where
  words : WordClass
  types : MimeTypes
  mediaKind : Nat → String

/-- `str.split()`. -/
def splitSpaces (cs : List Char) : List (List Char) :=
  (cs.splitOnP isSpace).filter fun word => word ≠ []

/-- A character of a title, as a name keeps it. -/
def cleanedChar (words : WordClass) (c : Char) : Char :=
  if (words.isWord c && c ≠ '_') || c ∈ ['.', '_', '-', ' '] then c else '-'

def safeFilename (words : WordClass) (value : String) : String :=
  let cleaned := value.toList.map (cleanedChar words)
  let stripped := stripOf ['.', '-'] (['-'].intercalate (splitSpaces cleaned))
  String.ofList ((if stripped = [] then "media".toList else stripped).take 120)

/-- `path.with_suffix(suffix).name`. -/
def nameWithSuffix (name suffix : String) : String :=
  String.ofList (splitSuffix name.toList).1 ++ suffix

/-- `path.suffix`. -/
def nameSuffix (name : String) : String :=
  String.ofList (splitSuffix name.toList).2

def defaultMediaExtension (mediaKind : String) : String :=
  if lower mediaKind = "video" then ".mp4" else ".mp3"

/-- The extension that the bytes of a file tell. -/
def mediaExtensionFromFile (content : List UInt8) : String :=
  let header := content.take 16
  if [0x49, 0x44, 0x33].isPrefixOf header ∨ header.take 2 ∈ [[0xff, 0xfb], [0xff, 0xf3], [0xff, 0xf2]] then ".mp3"
  else if [0x1a, 0x45, 0xdf, 0xa3].isPrefixOf header then ".webm"
  else if 12 ≤ header.length ∧ (header.drop 4).take 4 = [0x66, 0x74, 0x79, 0x70] then ".m4a"
  else ""

/-- The files of the download directory under their names. -/
abbrev CachedFiles := Table String (List UInt8)

def normalizeCachedMediaExtension (name : String) (content : List UInt8) (files : CachedFiles) :
    String × CachedFiles :=
  let extension := mediaExtensionFromFile content
  if extension = lower (nameSuffix name) ∨ extension = "" then (name, files)
  else
    let renamed := nameWithSuffix name extension
    if (files.lookup renamed).isSome then (name, files)
    else (renamed, AList.insert renamed content (AList.erase name files))

/-- How a call goes: the response is read to an end, after so much of the stream; the request or the reading
raises an `OSError`; the process is killed, or another exception raised, while the temporary is there; or
that happens before a file is touched. A kill after the last renaming is as good as a return. -/
inductive CliOutcome
  | ended (contentType : String) (stream body : List UInt8)
  | failed
  | broken (body : List UInt8)
  | stopped

structure CliCall where
  episodeId : Nat
  title : String
  outcome : CliOutcome

namespace CliScene

def mediaExtensionFromResponse (scene : CliScene) (contentType : String) : String :=
  if contentType = "audio/mp4" then ".m4a"
  else ((if contentType = "" then none else scene.types.guess contentType).filter (· ≠ "")).getD ".mp3"

/-- The name of `media_download_stem`. -/
def mediaDownloadStem (scene : CliScene) (episodeId : Nat) (title : String) : String :=
  toString episodeId ++ "-" ++
    safeFilename scene.words (if title = "" then "episode-" ++ toString episodeId else title)

/-- The name that is looked up first. -/
def mediaDownloadPath (scene : CliScene) (episodeId : Nat) (title : String) : String :=
  nameWithSuffix (scene.mediaDownloadStem episodeId title) (defaultMediaExtension (scene.mediaKind episodeId))

def existingMediaDownloadPath (scene : CliScene) (episodeId : Nat) (title : String) (files : CachedFiles) :
    Option (String × List UInt8) :=
  let default := scene.mediaDownloadPath episodeId title
  match files.lookup default with
  | some content => some (default, content)
  | none =>
    files.first (fun name _ => fnmatch name (scene.mediaDownloadStem episodeId title ++ ".*"))
      fun name _ => name

/-- `download_media_file`: the name of the file that is returned, if the call returns. -/
def downloadMediaFile (scene : CliScene) (call : CliCall) (files : CachedFiles) : Option String × CachedFiles :=
  match scene.existingMediaDownloadPath call.episodeId call.title files, call.outcome with
  | _, .stopped => (none, files)
  | some (name, content), _ =>
    let (name, files) := normalizeCachedMediaExtension name content files
    (some name, files)
  | none, outcome =>
    let stem := scene.mediaDownloadStem call.episodeId call.title
    let temporary := stem ++ ".part"
    match outcome with
    | .ended contentType _ body =>
      let name := nameWithSuffix stem (scene.mediaExtensionFromResponse contentType)
      (some name, AList.insert name body (AList.erase temporary files))
    | .broken body => (none, AList.insert temporary body files)
    | _ => (none, AList.erase temporary files)

end CliScene

/-- The files, and the streams that have been received in full, each with its episode. -/
structure CliState where
  files : CachedFiles
  finished : List (Nat × List UInt8)

/-- The stream that a call receives in full. -/
def CliCall.received (call : CliCall) : List (Nat × List UInt8) :=
  match call.outcome with
  | .ended _ stream body => if body = stream then [(call.episodeId, body)] else []
  | _ => []

namespace CliScene

def step (scene : CliScene) (s : CliState) (call : CliCall) : Option CliState :=
  some {
    files := (scene.downloadMediaFile call s.files).2
    finished :=
      match scene.existingMediaDownloadPath call.episodeId call.title s.files with
      | some _ => s.finished
      | none => call.received ++ s.finished }

/-- The title has no dot in its name that the extension could take the place of. -/
def Undotted (scene : CliScene) (call : CliCall) : Prop :=
  nameSuffix (scene.mediaDownloadStem call.episodeId call.title) = ""

/-- The bytes tell no extension but the one that is looked up first. -/
def KeepsDefault (scene : CliScene) (call : CliCall) (content : List UInt8) : Prop :=
  mediaExtensionFromFile content = "" ∨
    mediaExtensionFromFile content = defaultMediaExtension (scene.mediaKind call.episodeId)

/-- The item has no file yet: none under the first name and none that begins with the stem and a dot. -/
def Absent (scene : CliScene) (call : CliCall) (files : CachedFiles) : Prop :=
  files.lookup (scene.mediaDownloadPath call.episodeId call.title) = none ∧
    ∀ name content, files.lookup name = some content →
      ¬ (scene.mediaDownloadStem call.episodeId call.title ++ ".").toList <+: name.toList

/-- The stream is received in full, its type and its bytes tell extensions of the episode's kind, and with a
dotted title they tell the one that is looked up first. -/
structure FineStream (fits : String → String → Prop) (scene : CliScene) (call : CliCall) (contentType : String)
    (stream body : List UInt8) : Prop where
  complete : body = stream
  typed : fits (scene.mediaKind call.episodeId) (scene.mediaExtensionFromResponse contentType)
  sniffed : mediaExtensionFromFile body = "" ∨ fits (scene.mediaKind call.episodeId) (mediaExtensionFromFile body)
  named : scene.Undotted call ∨
    scene.mediaExtensionFromResponse contentType = defaultMediaExtension (scene.mediaKind call.episodeId) ∧
      scene.KeepsDefault call body

/-- Nothing breaks the call off while its temporary is there, a stream that ends is fine, and a file that a
dotted title finds under the first name stays there. -/
structure Fine (fits : String → String → Prop) (scene : CliScene) (s : CliState) (call : CliCall) : Prop where
  stays : ∀ content, s.files.lookup (scene.mediaDownloadPath call.episodeId call.title) = some content →
    scene.Undotted call ∨ scene.KeepsDefault call content
  unbroken : scene.Absent call s.files → ∀ body, call.outcome ≠ .broken body
  streamed : scene.Absent call s.files → ∀ contentType stream body,
    call.outcome = .ended contentType stream body → FineStream fits scene call contentType stream body

end CliScene

-- The names of the files

/-- A dot and letters. -/
def IsExtension (extension : String) : Prop :=
  ∃ letters, letters ≠ [] ∧ '.' ∉ letters ∧ extension = String.ofList ('.' :: letters)

theorem isExtension_default (mediaKind : String) : IsExtension (defaultMediaExtension mediaKind) := by
  rw [defaultMediaExtension]
  split
  · exact ⟨['m', 'p', '4'], by decide, by decide, rfl⟩
  · exact ⟨['m', 'p', '3'], by decide, by decide, rfl⟩

/-- The extensions that the bytes of a file can tell. -/
theorem mediaExtensionFromFile_mem (content : List UInt8) :
    mediaExtensionFromFile content ∈ ["", ".mp3", ".webm", ".m4a"] := by
  rw [mediaExtensionFromFile]
  split
  · decide
  · split
    · decide
    · split
      · decide
      · decide

theorem isExtension_sniffed {content : List UInt8} (h : mediaExtensionFromFile content ≠ "") :
    IsExtension (mediaExtensionFromFile content) ∧ mediaExtensionFromFile content ≠ ".part" := by
  have hmem := mediaExtensionFromFile_mem content
  simp only [List.mem_cons, List.not_mem_nil, or_false] at hmem
  rcases hmem with hempty | hmp3 | hwebm | hm4a
  · exact absurd hempty h
  · rw [hmp3]
    exact ⟨⟨['m', 'p', '3'], by decide, by decide, rfl⟩, by decide⟩
  · rw [hwebm]
    exact ⟨⟨['w', 'e', 'b', 'm'], by decide, by decide, rfl⟩, by decide⟩
  · rw [hm4a]
    exact ⟨⟨['m', '4', 'a'], by decide, by decide, rfl⟩, by decide⟩

theorem toList_nameWithSuffix (name suffix : String) :
    (nameWithSuffix name suffix).toList = (splitSuffix name.toList).1 ++ suffix.toList := by
  rw [nameWithSuffix, String.toList_append, String.toList_ofList]

theorem nameSuffix_nameWithSuffix {name suffix : String} (hname : name ≠ "") (h : IsExtension suffix) :
    nameSuffix (nameWithSuffix name suffix) = suffix := by
  obtain ⟨letters, hne, hdot, rfl⟩ := h
  rw [nameSuffix, toList_nameWithSuffix, String.toList_ofList,
    splitSuffix_of_parts (stem_ne_nil (String.toList_eq_nil_iff.not.2 hname)) hne hdot]

/-- The names under two extensions are the same only if the stems and the extensions are. -/
theorem nameWithSuffix_inj {name other suffix suffix' : String} (hname : name ≠ "") (hother : other ≠ "")
    (h : IsExtension suffix) (h' : IsExtension suffix')
    (heq : nameWithSuffix name suffix = nameWithSuffix other suffix') (extension : String) :
    suffix = suffix' ∧ nameWithSuffix name extension = nameWithSuffix other extension := by
  have hsuffix := congrArg nameSuffix heq
  rw [nameSuffix_nameWithSuffix hname h, nameSuffix_nameWithSuffix hother h'] at hsuffix
  refine ⟨hsuffix, ?_⟩
  rw [nameWithSuffix, nameWithSuffix, hsuffix] at heq
  rw [nameWithSuffix, nameWithSuffix, String.append_left_inj _ |>.1 heq]

/-- What begins the names of an episode's files. -/
def episodeFront (episodeId : Nat) : List Char :=
  (toString episodeId ++ "-").toList

theorem dot_notMem_episodeFront (episodeId : Nat) : '.' ∉ episodeFront episodeId := by
  rw [episodeFront, String.toList_append, List.mem_append, not_or]
  exact ⟨not_mem_toString (by decide) episodeId, by decide⟩

/-- A name begins like the files of one episode only. -/
theorem episodeFront_inj {episodeId other : Nat} {name : List Char} (h : episodeFront episodeId <+: name)
    (h' : episodeFront other <+: name) : episodeId = other := by
  obtain ⟨rest, hrest⟩ := h
  obtain ⟨rest', hrest'⟩ := h'
  rw [episodeFront, String.toList_append] at hrest hrest'
  have heq := hrest.trans hrest'.symm
  rw [List.append_assoc, List.append_assoc] at heq
  have hdash (n : Nat) : '-' ∉ (toString n).toList := not_mem_toString (by decide) n
  exact toString_nat_inj (String.toList_injective (append_cons_inj (hdash episodeId) (hdash other) heq).1)

/-- Another suffix leaves the beginning of a name. -/
theorem episodeFront_nameWithSuffix {episodeId : Nat} {name : String} (h : episodeFront episodeId <+: name.toList)
    (suffix : String) : episodeFront episodeId <+: (nameWithSuffix name suffix).toList := by
  obtain ⟨rest, hrest⟩ := h
  rw [toList_nameWithSuffix, ← hrest]
  exact (prefix_stem (dot_notMem_episodeFront episodeId) rest).trans (List.prefix_append _ _)

/-- Another extension leaves a stem with its dot at the beginning of a name. -/
theorem dotted_nameWithSuffix {stem name suffix : String} (h : (stem ++ ".").toList <+: name.toList)
    (hsuffix : IsExtension suffix) : (stem ++ ".").toList <+: (nameWithSuffix name suffix).toList := by
  obtain ⟨letters, -, -, rfl⟩ := hsuffix
  have hletters : (String.ofList ('.' :: letters)).toList = '.' :: letters := String.toList_ofList
  rw [String.toList_append] at h
  rw [toList_nameWithSuffix, String.toList_append, hletters]
  exact prefix_withSuffix h letters

/-- A name with no suffix gets any extension behind a dot. -/
theorem dotted_of_undotted {stem suffix : String} (h : nameSuffix stem = "") (hsuffix : IsExtension suffix) :
    (stem ++ ".").toList <+: (nameWithSuffix stem suffix).toList := by
  obtain ⟨letters, -, -, rfl⟩ := hsuffix
  have hnil : (splitSuffix stem.toList).2 = [] := by
    rw [nameSuffix] at h
    have hlist := congrArg String.toList h
    rwa [String.toList_ofList] at hlist
  have hstem := splitSuffix_append stem.toList
  rw [hnil, List.append_nil] at hstem
  have hletters : (String.ofList ('.' :: letters)).toList = '.' :: letters := String.toList_ofList
  rw [toList_nameWithSuffix, hstem, String.toList_append, hletters]
  exact ⟨letters, List.append_assoc _ _ _⟩

-- What the glob finds

theorem cleanedChar_cases (words : WordClass) (c : Char) :
    words.isWord (cleanedChar words c) = true ∨ cleanedChar words c ∈ ['.', '-', ' '] := by
  rw [cleanedChar]
  split
  · next h =>
    rw [Bool.or_eq_true, Bool.and_eq_true, decide_eq_true_eq] at h
    rcases h with ⟨hword, -⟩ | hmark
    · exact .inl hword
    · have hmarks : ∀ c ∈ ['.', '_', '-', ' '], c = '_' ∨ c ∈ ['.', '-', ' '] :=
        List.all_iff_forall_prop.1 (by decide)
      rcases hmarks c (of_decide_eq_true hmark) with rfl | hmark
      · exact .inl (by rw [words.ascii '_' (by decide)]; decide)
      · exact .inr hmark
  · exact .inr (by decide)

theorem mem_safeFilename {words : WordClass} {value : String} (h : c ∈ (safeFilename words value).toList) :
    words.isWord c = true ∨ c ∈ ['.', '-', ' '] := by
  rw [safeFilename, String.toList_ofList] at h
  have h := List.mem_of_mem_take h
  split at h
  · have hmedia : ∀ c ∈ "media".toList, c.toNat < 128 ∧ (c.isAlphanum || c == '_') = true :=
      List.all_iff_forall_prop.1 (by decide)
    obtain ⟨hascii, hword⟩ := hmedia c h
    exact .inl ((words.ascii c hascii).trans hword)
  · have h := List.dropWhile_subset _ ((List.rdropWhile_prefix _ _).subset h)
    rcases mem_intercalate h with hdash | ⟨piece, hpiece, hc⟩
    · rw [List.mem_singleton.1 hdash]
      exact .inr (by decide)
    · obtain ⟨d, -, rfl⟩ := List.mem_map.1 (mem_splitOnP (List.mem_filter.1 hpiece).1 hc)
      exact cleanedChar_cases words d

theorem globEscape_eq {text : String} (h : ∀ c ∈ text.toList, c ∉ ['*', '?', '[']) : globEscape text = text := by
  have hflat : (text.toList.flatMap fun c => if c ∈ ['*', '?', '['] then ['[', c, ']'] else [c]) = text.toList := by
    generalize text.toList = cs at h ⊢
    induction cs with
    | nil => rfl
    | cons c cs ih =>
      rw [List.forall_mem_cons] at h
      rw [List.flatMap_cons, if_neg h.1, ih h.2]
      rfl
  rw [globEscape, hflat, String.ofList_toList]

section
variable {scene : CliScene} {call : CliCall} {files : CachedFiles} {name : String} {content : List UInt8}
  {episodeId : Nat} {title : String}

namespace CliScene

/-- The glob finds the names that begin with the stem and a dot. -/
theorem fnmatch_stem (scene : CliScene) (episodeId : Nat) (title name : String) :
    fnmatch name (scene.mediaDownloadStem episodeId title ++ ".*") = true ↔
      (scene.mediaDownloadStem episodeId title ++ ".").toList <+: name.toList := by
  have hplain : ∀ c ∈ (scene.mediaDownloadStem episodeId title).toList, c ∉ ['*', '?', '['] := by
    intro c hc hspecial
    have hspecials : ∀ c ∈ ['*', '?', '['], c.toNat < 128 ∧ (c.isAlphanum || c == '_') = false ∧
        c.isDigit = false ∧ c ∉ ['.', '-', ' '] := List.all_iff_forall_prop.1 (by decide)
    obtain ⟨hascii, hword, hdigit, hmark⟩ := hspecials c hspecial
    rw [mediaDownloadStem, String.toList_append, String.toList_append, List.mem_append, List.mem_append] at hc
    rcases hc with (hc | hc) | hc
    · exact not_mem_toString hdigit episodeId hc
    · exact hmark (by rw [List.mem_singleton.1 hc]; decide)
    · rcases mem_safeFilename hc with hisWord | hkept
      · rw [scene.words.ascii c hascii, hword] at hisWord
        cases hisWord
      · exact hmark hkept
  rw [← globEscape_eq hplain, fnmatch_escape, globEscape_eq hplain, List.isPrefixOf_iff_prefix]

theorem stem_ne_empty (scene : CliScene) (episodeId : Nat) (title : String) :
    scene.mediaDownloadStem episodeId title ≠ "" := by
  intro h
  have hlist := congrArg String.toList h
  rw [mediaDownloadStem, String.toList_append, String.toList_append, String.toList_empty,
    List.append_eq_nil_iff, List.append_eq_nil_iff] at hlist
  cases hlist.1.2

theorem episodeFront_stem (scene : CliScene) (episodeId : Nat) (title : String) :
    episodeFront episodeId <+: (scene.mediaDownloadStem episodeId title).toList := by
  rw [mediaDownloadStem, String.toList_append, episodeFront]
  exact List.prefix_append _ _

theorem episodeFront_path (scene : CliScene) (episodeId : Nat) (title : String) :
    episodeFront episodeId <+: (scene.mediaDownloadPath episodeId title).toList :=
  episodeFront_nameWithSuffix (scene.episodeFront_stem episodeId title) _

theorem isExtension_response (scene : CliScene) (contentType : String) :
    IsExtension (scene.mediaExtensionFromResponse contentType) ∧
      scene.mediaExtensionFromResponse contentType ≠ ".part" := by
  have hmp3 : IsExtension ".mp3" ∧ ".mp3" ≠ ".part" := ⟨⟨['m', 'p', '3'], by decide, by decide, rfl⟩, by decide⟩
  rw [mediaExtensionFromResponse]
  split
  · exact ⟨⟨['m', '4', 'a'], by decide, by decide, rfl⟩, by decide⟩
  · split
    · exact hmp3
    · cases hguess : scene.types.guess contentType with
      | none => exact hmp3
      | some extension =>
        rw [Option.filter_some]
        split
        · refine ⟨scene.types.extension contentType extension hguess, ?_⟩
          rintro rfl
          exact scene.types.not_part contentType hguess
        · exact hmp3

/-- What is found is a file of the item: under the first name, or one that begins with its stem and a dot. -/
theorem existing_spec (h : scene.existingMediaDownloadPath episodeId title files = some (name, content)) :
    files.lookup name = some content ∧ (name = scene.mediaDownloadPath episodeId title ∨
      files.lookup (scene.mediaDownloadPath episodeId title) = none ∧
        (scene.mediaDownloadStem episodeId title ++ ".").toList <+: name.toList) := by
  rw [existingMediaDownloadPath] at h
  split at h
  · next content' hfound =>
    obtain ⟨rfl, rfl⟩ := Prod.mk.inj (Option.some.inj h)
    exact ⟨hfound, .inl rfl⟩
  · next hnone =>
    obtain ⟨hlookup, hmatch⟩ := Table.lookup_of_first h
    exact ⟨hlookup, .inr ⟨hnone, (scene.fnmatch_stem episodeId title name).1 hmatch⟩⟩

theorem existing_eq_none : scene.existingMediaDownloadPath call.episodeId call.title files = none ↔
    scene.Absent call files := by
  rw [existingMediaDownloadPath, Absent]
  cases hfound : files.lookup (scene.mediaDownloadPath call.episodeId call.title) with
  | some content => exact iff_of_false (fun h => nomatch h) fun h => nomatch h.1
  | none =>
    rw [Table.first_eq_none, and_iff_right rfl]
    refine forall_congr' fun name => forall_congr' fun content => imp_congr_right fun _ => ?_
    rw [← Bool.not_eq_true, fnmatch_stem]

end CliScene

/-- A file keeps its name, or gets the extension that its bytes tell under a name that is free. -/
theorem normalize_cases (name : String) (content : List UInt8) (files : CachedFiles) :
    (normalizeCachedMediaExtension name content files = (name, files) ∨
      mediaExtensionFromFile content ≠ "" ∧ mediaExtensionFromFile content ≠ lower (nameSuffix name) ∧
        files.lookup (nameWithSuffix name (mediaExtensionFromFile content)) = none ∧
        normalizeCachedMediaExtension name content files =
          (nameWithSuffix name (mediaExtensionFromFile content),
            AList.insert (nameWithSuffix name (mediaExtensionFromFile content)) content (AList.erase name files))) := by
  rw [normalizeCachedMediaExtension]
  split
  · exact .inl rfl
  · next hextension =>
    obtain ⟨hsuffix, hempty⟩ := not_or.1 hextension
    dsimp only
    split
    · exact .inl rfl
    · next hfree => exact .inr ⟨hempty, hsuffix, Option.not_isSome_iff_eq_none.1 hfree, rfl⟩

namespace CliScene
variable {fits : String → String → Prop} {s t : CliState}

/-- A file of an episode: complete, of its kind, and so even under the extension that its bytes tell. -/
structure OwnFile (fits : String → String → Prop) (scene : CliScene) (finished : List (Nat × List UInt8))
    (episodeId : Nat) (name : String) (content : List UInt8) : Prop where
  front : episodeFront episodeId <+: name.toList
  complete : (episodeId, content) ∈ finished
  typed : fits (scene.mediaKind episodeId) (nameSuffix name)
  sniffed : mediaExtensionFromFile content = "" ∨ fits (scene.mediaKind episodeId) (mediaExtensionFromFile content)
  finished : nameSuffix name ≠ ".part"

/-- Every file is one of an episode. -/
def CacheSound (fits : String → String → Prop) (scene : CliScene) (s : CliState) : Prop :=
  ∀ name content, s.files.lookup name = some content →
    ∃ episodeId, OwnFile fits scene s.finished episodeId name content

/-- What a call returns is a complete file of its episode, with an extension of its kind. -/
def ReturnsMedia (fits : String → String → Prop) (scene : CliScene) (call : CliCall) (returned : Option String)
    (t : CliState) : Prop :=
  ∀ name, returned = some name → ∃ content, t.files.lookup name = some content ∧
    (call.episodeId, content) ∈ t.finished ∧ fits (scene.mediaKind call.episodeId) (nameSuffix name)

theorem OwnFile.renamed {finished : List (Nat × List UInt8)} (h : OwnFile fits scene finished episodeId name content)
    (hne : mediaExtensionFromFile content ≠ "") (hname : name ≠ "") :
    OwnFile fits scene finished episodeId (nameWithSuffix name (mediaExtensionFromFile content)) content := by
  obtain ⟨hextension, hpart⟩ := isExtension_sniffed hne
  have hsuffix := nameSuffix_nameWithSuffix hname hextension
  refine ⟨episodeFront_nameWithSuffix h.front _, h.complete, ?_, h.sniffed, ?_⟩
  · rw [hsuffix]
    exact h.sniffed.resolve_left hne
  · rw [hsuffix]
    exact hpart

theorem OwnFile.mono {finished finished' : List (Nat × List UInt8)} (hsub : finished ⊆ finished')
    (h : OwnFile fits scene finished episodeId name content) :
    OwnFile fits scene finished' episodeId name content :=
  ⟨h.front, hsub h.complete, h.typed, h.sniffed, h.finished⟩

theorem OwnFile.name_ne {finished : List (Nat × List UInt8)}
    (h : OwnFile fits scene finished episodeId name content) : name ≠ "" := by
  rintro rfl
  have hnil := List.prefix_nil.1 h.front
  rw [episodeFront, String.toList_append, List.append_eq_nil_iff] at hnil
  cases hnil.2

/-- How a call goes, by what it finds. -/
theorem downloadMediaFile_cases (scene : CliScene) (call : CliCall) (files : CachedFiles) :
    call.outcome = .stopped ∧ scene.downloadMediaFile call files = (none, files) ∨
    (∃ name content, scene.existingMediaDownloadPath call.episodeId call.title files = some (name, content) ∧
      call.outcome ≠ .stopped ∧ scene.downloadMediaFile call files =
        (some (normalizeCachedMediaExtension name content files).1,
          (normalizeCachedMediaExtension name content files).2)) ∨
    scene.Absent call files ∧
      ((∃ contentType stream body, call.outcome = .ended contentType stream body ∧
        scene.downloadMediaFile call files =
          (some (nameWithSuffix (scene.mediaDownloadStem call.episodeId call.title)
              (scene.mediaExtensionFromResponse contentType)),
            AList.insert (nameWithSuffix (scene.mediaDownloadStem call.episodeId call.title)
                (scene.mediaExtensionFromResponse contentType)) body
              (AList.erase (scene.mediaDownloadStem call.episodeId call.title ++ ".part") files))) ∨
        (∃ body, call.outcome = .broken body) ∨
        call.outcome = .failed ∧ scene.downloadMediaFile call files =
          (none, AList.erase (scene.mediaDownloadStem call.episodeId call.title ++ ".part") files)) := by
  rw [← existing_eq_none]
  obtain ⟨episodeId, title, outcome⟩ := call
  dsimp only
  cases hfound : scene.existingMediaDownloadPath episodeId title files with
  | some found =>
    cases outcome with
    | stopped => exact .inl ⟨rfl, by rw [downloadMediaFile]⟩
    | ended | failed | broken =>
      refine .inr (.inl ⟨found.1, found.2, rfl, nofun, ?_⟩)
      rw [downloadMediaFile]
      dsimp only
      rw [hfound]
  | none =>
    cases outcome with
    | stopped => exact .inl ⟨rfl, by rw [downloadMediaFile]⟩
    | ended contentType stream body =>
      refine .inr (.inr ⟨rfl, .inl ⟨contentType, stream, body, rfl, ?_⟩⟩)
      rw [downloadMediaFile]
      dsimp only
      rw [hfound]
    | failed =>
      refine .inr (.inr ⟨rfl, .inr (.inr ⟨rfl, ?_⟩)⟩)
      rw [downloadMediaFile]
      dsimp only
      rw [hfound]
    | broken body => exact .inr (.inr ⟨rfl, .inr (.inl ⟨body, rfl⟩)⟩)

theorem finished_subset (h : scene.step s call = some t) : s.finished ⊆ t.finished := by
  obtain rfl := Option.some.inj h
  dsimp only
  split
  · exact List.Subset.refl _
  · exact List.subset_append_right _ _

theorem step_files (h : scene.step s call = some t) : t.files = (scene.downloadMediaFile call s.files).2 := by
  obtain rfl := Option.some.inj h
  rfl

theorem received_finished {contentType : String} {body : List UInt8} (habsent : scene.Absent call s.files)
    (hended : call.outcome = .ended contentType body body) (h : scene.step s call = some t) :
    (call.episodeId, body) ∈ t.finished := by
  obtain rfl := Option.some.inj h
  dsimp only
  rw [existing_eq_none.2 habsent]
  dsimp only
  rw [CliCall.received, hended]
  dsimp only
  rw [if_pos rfl]
  exact List.mem_cons_self

theorem CacheSound.erase (h : CacheSound fits scene s) (temporary : String) {finished : List (Nat × List UInt8)}
    (hsub : s.finished ⊆ finished) : CacheSound fits scene ⟨AList.erase temporary s.files, finished⟩ := by
  intro name content hlookup
  dsimp only at hlookup
  by_cases hname : name = temporary
  · rw [hname, AList.lookup_erase] at hlookup
    cases hlookup
  · rw [AList.lookup_erase_ne hname] at hlookup
    obtain ⟨episodeId, hown⟩ := h name content hlookup
    exact ⟨episodeId, hown.mono hsub⟩

theorem CacheSound.insert (h : CacheSound fits scene s)
    (hown : OwnFile fits scene s.finished episodeId name content) :
    CacheSound fits scene ⟨AList.insert name content s.files, s.finished⟩ := by
  intro other content' hlookup
  dsimp only at hlookup
  by_cases hname : other = name
  · subst hname
    rw [AList.lookup_insert] at hlookup
    obtain rfl := Option.some.inj hlookup
    exact ⟨episodeId, hown⟩
  · rw [AList.lookup_insert_ne hname] at hlookup
    exact h other content' hlookup

/-- A file that an item finds is one of its episode. -/
theorem CacheSound.found (h : CacheSound fits scene s)
    (hfound : scene.existingMediaDownloadPath episodeId title s.files = some (name, content)) :
    OwnFile fits scene s.finished episodeId name content := by
  obtain ⟨hlookup, hname⟩ := existing_spec hfound
  obtain ⟨owner, hown⟩ := h name content hlookup
  have hfront : episodeFront episodeId <+: name.toList := by
    rcases hname with rfl | ⟨-, hdotted⟩
    · exact scene.episodeFront_path episodeId title
    · rw [String.toList_append] at hdotted
      exact ((scene.episodeFront_stem episodeId title).trans (List.prefix_append _ _)).trans hdotted
  obtain rfl := episodeFront_inj hown.front hfront
  exact hown

/-- A fine call keeps the cache sound and returns a file of its episode. -/
theorem CacheSound.step (h : CacheSound fits scene s) (hfine : Fine fits scene s call)
    (hstep : scene.step s call = some t) :
    CacheSound fits scene t ∧ ReturnsMedia fits scene call (scene.downloadMediaFile call s.files).1 t := by
  have hsub := finished_subset hstep
  have hfiles := step_files hstep
  obtain ⟨files', finished'⟩ := t
  dsimp only at hsub hfiles
  rcases scene.downloadMediaFile_cases call s.files with ⟨-, heq⟩ | ⟨name, content, hfound, -, heq⟩ |
    ⟨habsent, ⟨contentType, stream, body, hended, heq⟩ | ⟨body, hbroken⟩ | ⟨-, heq⟩⟩
  · rw [heq] at hfiles ⊢
    subst hfiles
    exact ⟨fun name content hlookup => (h name content hlookup).imp fun _ hown => hown.mono hsub, nofun⟩
  · have hown := (h.found hfound).mono hsub
    have hlookup := (existing_spec hfound).1
    rcases normalize_cases name content s.files with hsame | ⟨hne, -, -, hrenamed⟩
    · rw [heq, hsame] at hfiles ⊢
      subst hfiles
      refine ⟨fun name content hlookup => (h name content hlookup).imp fun _ hown => hown.mono hsub, ?_⟩
      intro name' hname
      obtain rfl := Option.some.inj hname
      exact ⟨content, hlookup, hown.complete, hown.typed⟩
    · rw [heq, hrenamed] at hfiles ⊢
      subst hfiles
      have hown' := hown.renamed hne hown.name_ne
      refine ⟨(h.erase name hsub).insert hown', ?_⟩
      intro name' hname
      obtain rfl := Option.some.inj hname
      exact ⟨content, AList.lookup_insert _, hown'.complete, hown'.typed⟩
  · have hstream := hfine.streamed habsent contentType stream body hended
    obtain rfl := hstream.complete
    obtain ⟨hextension, hpart⟩ := scene.isExtension_response contentType
    have hsuffix := nameSuffix_nameWithSuffix (scene.stem_ne_empty call.episodeId call.title) hextension
    have hown : OwnFile fits scene finished' call.episodeId (nameWithSuffix
        (scene.mediaDownloadStem call.episodeId call.title) (scene.mediaExtensionFromResponse contentType)) body := by
      refine ⟨episodeFront_nameWithSuffix (scene.episodeFront_stem call.episodeId call.title) _,
        received_finished habsent hended hstep, ?_, hstream.sniffed, ?_⟩
      · rw [hsuffix]
        exact hstream.typed
      · rw [hsuffix]
        exact hpart
    rw [heq] at hfiles ⊢
    subst hfiles
    refine ⟨(h.erase _ hsub).insert hown, ?_⟩
    intro name' hname
    obtain rfl := Option.some.inj hname
    exact ⟨body, AList.lookup_insert _, hown.complete, hown.typed⟩
  · exact absurd hbroken (hfine.unbroken habsent body)
  · rw [heq] at hfiles ⊢
    subst hfiles
    exact ⟨h.erase _ hsub, nofun⟩

/-- The item has a file that stays: one that begins with its stem and a dot, or one under the first name
whose bytes tell no other. -/
def Kept (scene : CliScene) (call : CliCall) (files : CachedFiles) : Prop :=
  (∃ name content, files.lookup name = some content ∧
    (scene.mediaDownloadStem call.episodeId call.title ++ ".").toList <+: name.toList) ∨
  ∃ content, files.lookup (scene.mediaDownloadPath call.episodeId call.title) = some content ∧
    scene.KeepsDefault call content

theorem Kept.not_absent (h : scene.Kept call files) : ¬ scene.Absent call files := by
  intro habsent
  rcases h with ⟨name, content, hlookup, hdotted⟩ | ⟨content, hlookup, -⟩
  · exact habsent.2 name content hlookup hdotted
  · rw [habsent.1] at hlookup
    cases hlookup

theorem nameSuffix_part {stem : String} (hstem : stem ≠ "") : nameSuffix (stem ++ ".part") = ".part" := by
  have htext : (stem ++ ".part").toList = stem.toList ++ '.' :: ['p', 'a', 'r', 't'] := by
    rw [String.toList_append]
    rfl
  rw [nameSuffix, htext, splitSuffix_of_parts (String.toList_eq_nil_iff.not.2 hstem) (by decide) (by decide)]

/-- A file of an episode is no temporary. -/
theorem CacheSound.ne_part (h : CacheSound fits scene s) (hlookup : s.files.lookup name = some content) :
    name ≠ scene.mediaDownloadStem episodeId title ++ ".part" := by
  rintro rfl
  obtain ⟨owner, hown⟩ := h _ content hlookup
  exact hown.finished (nameSuffix_part (scene.stem_ne_empty episodeId title))

theorem lower_default (mediaKind : String) :
    lower (defaultMediaExtension mediaKind) = defaultMediaExtension mediaKind := by
  rw [defaultMediaExtension]
  split
  · decide
  · decide

/-- A renaming leaves every other file, and the item's own stays. -/
theorem Kept.normalize (h : scene.Kept call files) (hlookup : files.lookup name = some content) :
    scene.Kept call (normalizeCachedMediaExtension name content files).2 := by
  rcases normalize_cases name content files with hsame | ⟨hne, hsuffix, hfree, hrenamed⟩
  · rw [hsame]
    exact h
  · have hextension := (isExtension_sniffed hne).1
    have hother {other : String} {content' : List UInt8} (hother : files.lookup other = some content')
        (hname : other ≠ name) : (AList.insert (nameWithSuffix name (mediaExtensionFromFile content)) content
          (AList.erase name files)).lookup other = some content' := by
      have hnew : other ≠ nameWithSuffix name (mediaExtensionFromFile content) := by
        rintro rfl
        rw [hfree] at hother
        cases hother
      rw [AList.lookup_insert_ne hnew, AList.lookup_erase_ne hname, hother]
    rw [hrenamed]
    rcases h with ⟨other, content', hfile, hdotted⟩ | ⟨content', hfile, hkeeps⟩
    · by_cases hname : other = name
      · subst hname
        exact .inl ⟨_, content, AList.lookup_insert _, dotted_nameWithSuffix hdotted hextension⟩
      · exact .inl ⟨other, content', hother hfile hname, hdotted⟩
    · by_cases hname : scene.mediaDownloadPath call.episodeId call.title = name
      · subst hname
        rw [hlookup] at hfile
        obtain rfl := Option.some.inj hfile
        rw [mediaDownloadPath, nameSuffix_nameWithSuffix (scene.stem_ne_empty call.episodeId call.title)
          (isExtension_default _), lower_default] at hsuffix
        exact (hkeeps.elim hne hsuffix).elim
      · exact .inr ⟨content', hother hfile hname, hkeeps⟩

/-- A fine call of any item leaves the files of the others to be found. -/
theorem Kept.step {other : CliCall} (h : scene.Kept call s.files) (hsound : CacheSound fits scene s)
    (hfine : Fine fits scene s other) (hstep : scene.step s other = some t) : scene.Kept call t.files := by
  rw [step_files hstep]
  have herase {name : String} {content : List UInt8} (hfile : s.files.lookup name = some content) :
      (AList.erase (scene.mediaDownloadStem other.episodeId other.title ++ ".part") s.files).lookup name =
        some content := by
    rw [AList.lookup_erase_ne (hsound.ne_part hfile), hfile]
  rcases scene.downloadMediaFile_cases other s.files with ⟨-, heq⟩ | ⟨name, content, hfound, -, heq⟩ |
    ⟨habsent, ⟨contentType, stream, body, hended, heq⟩ | ⟨body, hbroken⟩ | ⟨-, heq⟩⟩
  · rw [heq]
    exact h
  · rw [heq]
    have hlookup := (existing_spec hfound).1
    dsimp only
    exact h.normalize hlookup
  · rw [heq]
    rcases h with ⟨name, content, hfile, hdotted⟩ | ⟨content, hfile, hkeeps⟩
    · by_cases hname : name = nameWithSuffix (scene.mediaDownloadStem other.episodeId other.title)
        (scene.mediaExtensionFromResponse contentType)
      · rw [hname] at hdotted
        exact .inl ⟨_, body, AList.lookup_insert _, hdotted⟩
      · exact .inl ⟨name, content, by rw [AList.lookup_insert_ne hname, herase hfile], hdotted⟩
    · refine .inr ⟨content, ?_, hkeeps⟩
      rw [AList.lookup_insert_ne, herase hfile]
      -- a call that takes the name would be for the same episode, and would have found the file
      intro hname
      have hid : call.episodeId = other.episodeId := by
        apply episodeFront_inj (scene.episodeFront_path call.episodeId call.title)
        rw [hname]
        exact episodeFront_nameWithSuffix (scene.episodeFront_stem other.episodeId other.title) _
      have hpath := (nameWithSuffix_inj (scene.stem_ne_empty call.episodeId call.title)
        (scene.stem_ne_empty other.episodeId other.title) (isExtension_default _)
        (scene.isExtension_response contentType).1 hname (defaultMediaExtension (scene.mediaKind call.episodeId))).2
      rw [mediaDownloadPath, hpath, hid, ← mediaDownloadPath, habsent.1] at hfile
      cases hfile
  · exact absurd hbroken (hfine.unbroken habsent body)
  · rw [heq]
    rcases h with ⟨name, content, hfile, hdotted⟩ | ⟨content, hfile, hkeeps⟩
    · exact .inl ⟨name, content, herase hfile, hdotted⟩
    · exact .inr ⟨content, herase hfile, hkeeps⟩

/-- The file that a fine call returns stays. -/
theorem kept_of_returned (hfine : Fine fits scene s call)
    (h : (scene.downloadMediaFile call s.files).1.isSome = true) :
    scene.Kept call (scene.downloadMediaFile call s.files).2 := by
  rcases scene.downloadMediaFile_cases call s.files with ⟨-, heq⟩ | ⟨name, content, hfound, -, heq⟩ |
    ⟨habsent, ⟨contentType, stream, body, hended, heq⟩ | ⟨body, hbroken⟩ | ⟨-, heq⟩⟩
  · rw [heq] at h
    cases h
  · rw [heq]
    obtain ⟨hlookup, hname⟩ := existing_spec hfound
    have hkept : scene.Kept call s.files := by
      rcases hname with rfl | ⟨-, hdotted⟩
      · rcases hfine.stays content hlookup with hundotted | hkeeps
        · exact .inl ⟨_, content, hlookup, dotted_of_undotted hundotted (isExtension_default _)⟩
        · exact .inr ⟨content, hlookup, hkeeps⟩
      · exact .inl ⟨name, content, hlookup, hdotted⟩
    dsimp only
    exact hkept.normalize hlookup
  · rw [heq]
    rcases (hfine.streamed habsent contentType stream body hended).named with hundotted | ⟨hdefault, hkeeps⟩
    · exact .inl ⟨_, body, AList.lookup_insert _,
        dotted_of_undotted hundotted (scene.isExtension_response contentType).1⟩
    · refine .inr ⟨body, ?_, hkeeps⟩
      rw [hdefault, mediaDownloadPath]
      exact AList.lookup_insert _
  · exact absurd hbroken (hfine.unbroken habsent body)
  · rw [heq] at h
    cases h

end CliScene

end

/-- In a run of fine calls from an empty directory, the last one returns a complete file of its episode with an
extension of its kind, and does not download if a call for the same item has returned before. -/
theorem download_cache_works (fits : String → String → Prop) (scene : CliScene) {s t u : CliState}
    {calls : List CliCall} {call : CliCall} (hempty : ∀ name, s.files.lookup name = none)
    (hfine : Along scene.step (CliScene.Fine fits scene) s (calls ++ [call]))
    (hrun : exec scene.step s calls = some t) (hstep : scene.step t call = some u) :
    CliScene.ReturnsMedia fits scene call (scene.downloadMediaFile call t.files).1 u ∧
      ∀ before earlier between v, calls = before ++ earlier :: between → exec scene.step s before = some v →
        earlier.episodeId = call.episodeId → earlier.title = call.title →
        (scene.downloadMediaFile earlier v.files).1.isSome = true →
          ∃ file, scene.existingMediaDownloadPath call.episodeId call.title t.files = some file := by
  have hstart : CliScene.CacheSound fits scene s := by
    intro name content hlookup
    rw [hempty name] at hlookup
    cases hlookup
  have hkeeps (v w : CliState) (c : CliCall) (h : CliScene.CacheSound fits scene v)
      (hc : CliScene.Fine fits scene v c) (hw : scene.step v c = some w) : CliScene.CacheSound fits scene w :=
    (h.step hc hw).1
  have hsound : CliScene.CacheSound fits scene t :=
    exec_invariant (fun v c w => hkeeps v w c) hstart hfine.left hrun
  refine ⟨(hsound.step (hfine.right hrun).head hstep).2, ?_⟩
  rintro before earlier between v rfl hv hid htitle hreturned
  have hrest := hfine.left.right hv
  have hsoundv : CliScene.CacheSound fits scene v :=
    exec_invariant (fun v c w => hkeeps v w c) hstart hfine.left.left hv
  rw [exec_append, hv, Option.bind_some] at hrun
  obtain ⟨w, hw, hrun⟩ := exec_cons hrun
  have hkept : scene.Kept earlier w.files := by
    rw [CliScene.step_files hw]
    exact CliScene.kept_of_returned hrest.head hreturned
  have hboth : CliScene.CacheSound fits scene t ∧ scene.Kept earlier t.files :=
    exec_invariant (I := fun w => CliScene.CacheSound fits scene w ∧ scene.Kept earlier w.files)
      (fun v c w h hc hw => ⟨hkeeps v w c h.1 hc hw, h.2.step h.1 hc hw⟩)
      ⟨hkeeps v w earlier hsoundv hrest.head hw, hkept⟩ (hrest.tail hw) hrun
  have hfound := mt CliScene.existing_eq_none.1 hboth.2.not_absent
  rw [hid, htitle] at hfound
  exact Option.ne_none_iff_exists'.1 hfound

def audioConsole : CliScene where
  words := asciiWords
  types :=
    { guess := fun contentType => if contentType = "audio/mpeg" then some ".mp3" else none
      extension := by
        intro contentType extension h
        obtain ⟨-, h⟩ := Option.ite_none_right_eq_some.1 h
        exact ⟨['m', 'p', '3'], by decide, by decide, (Option.some.inj h).symm⟩
      not_part := by
        intro contentType h
        obtain ⟨-, h⟩ := Option.ite_none_right_eq_some.1 h
        exact absurd (Option.some.inj h) (by decide) }
  mediaKind := fun _ => "audio"

def newsCall (outcome : CliOutcome) : CliCall where
  episodeId := 7
  title := "News"
  outcome

theorem undotted_news (outcome : CliOutcome) : audioConsole.Undotted (newsCall outcome) := by
  change nameSuffix (audioConsole.mediaDownloadStem 7 "News") = ""
  decide +kernel

/-- The files after a download. -/
def newsFiles (name : String) : CachedFiles :=
  AList.insert name [1] ∅

theorem news_downloaded_once :
    ∃ file, audioConsole.existingMediaDownloadPath 7 "News" (newsFiles "7-News.mp3") = some file := by
  have hmp3 : audioConsole.mediaExtensionFromResponse "audio/mpeg" = ".mp3" := by decide +kernel
  have hstream : CliScene.FineStream (fun _ extension => extension = ".mp3") audioConsole
      (newsCall (.ended "audio/mpeg" [1] [1])) "audio/mpeg" [1] [1] :=
    ⟨rfl, hmp3, .inl (by decide), .inl (undotted_news _)⟩
  have hfine : Along audioConsole.step (CliScene.Fine (fun _ extension => extension = ".mp3") audioConsole) ⟨∅, []⟩
      ([newsCall (.ended "audio/mpeg" [1] [1])] ++ [newsCall .failed]) := ?_
  · exact (download_cache_works _ _ AList.lookup_empty hfine (t := ⟨newsFiles "7-News.mp3", [(7, [1])]⟩)
      (u := ⟨newsFiles "7-News.mp3", [(7, [1])]⟩) rfl rfl).2 [] _ [] _ rfl rfl rfl rfl rfl
  refine ⟨⟨fun _ _ => .inl (undotted_news _), fun _ _ => nofun, ?_⟩,
    ⟨fun _ _ => .inl (undotted_news _), fun _ _ => nofun, fun _ _ _ _ => nofun⟩, trivial⟩
  rintro - contentType stream body heq
  cases heq
  exact hstream

/-- A download that was killed is returned by the next call. -/
theorem killed_download_is_returned : ¬ ∀ (scene : CliScene) (s t u : CliState) (calls : List CliCall)
    (call : CliCall), (∀ name, s.files.lookup name = none) → exec scene.step s calls = some t →
      scene.step t call = some u →
        CliScene.ReturnsMedia (fun _ _ => True) scene call (scene.downloadMediaFile call t.files).1 u := by
  intro h
  obtain ⟨content, -, hfinished, -⟩ := h audioConsole ⟨∅, []⟩ ⟨newsFiles "7-News.part", []⟩
    ⟨newsFiles "7-News.part", []⟩ [newsCall (.broken [1])] (newsCall .failed) AList.lookup_empty rfl rfl
    "7-News.part" rfl
  exact List.not_mem_nil hfinished

end GetOffline
