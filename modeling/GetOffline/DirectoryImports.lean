import GetOffline.ManualImports
import GetOffline.PythonSha1

set_option autoImplicit true

namespace GetOffline
open Python

-- models/management/commands/import_downloads_directory.py

/-- `MEDIA_SUFFIXES`. -/
def ImportCommand.mediaSuffixes : List String :=
  [".mp3", ".m4a", ".wav", ".flac", ".aac", ".ogg", ".mp4", ".mkv", ".webm", ".mov", ".pdf"]

/-- The errors that the command skips a file for: `ValueError`, `OSError`, `DatabaseError`. -/
def UploadError.skipped : UploadError → Bool
  | .valueError _ => true
  | .raised error =>
    error ∈ [.valueError, .unicodeDecodeError, .jsonDecodeError, .databaseError, .other "OSError"]

/-- What happens around the import of a file. -/
structure ImportOutcome where
  hashed : Except UploadError Unit
  now : Instant
  saving : RowSaving
  /-- `_queue_transcript_job`. -/
  queued : Except UploadError Unit

structure ImportCommand where
  /-- There is a directory under the root. -/
  rootFound : Bool
  /-- `Path(str(options["downloads_root"])).expanduser().resolve()`. -/
  downloadsRoot : Path
  profileOption : String
  recursive : Bool
  generateTranscripts : Bool

/-- The file lies directly in the directory. -/
def LiesIn (path dir : Path) : Prop :=
  path.parts ≠ [] ∧ path.parent = dir

instance (path dir : Path) : Decidable (LiesIn path dir) :=
  inferInstanceAs (Decidable (_ ∧ _))

/-- The file lies in the directory or below it. -/
def LiesUnder (path dir : Path) : Prop :=
  dir.parts <+: path.parts ∧ path ≠ dir

instance (path dir : Path) : Decidable (LiesUnder path dir) :=
  inferInstanceAs (Decidable (_ ∧ _))

def sortPaths (paths : List Path) : List Path :=
  paths.mergeSort fun path other => decide (path.parts ≤ other.parts)

/-- The part of the path that lies directly in the directory. -/
def entryOf (dir path : Path) : Path where
  parts := path.parts.take (dir.parts.length + 1)
  valid := fun part h => path.valid part (List.mem_of_mem_take h)

/-- `path.suffix.lower() in MEDIA_SUFFIXES`. -/
def isMedia (path : Path) : Bool :=
  lower path.suffix ∈ ImportCommand.mediaSuffixes

/-- `_is_importable_file`, of a file. -/
def isImportableFile (path : Path) : Bool :=
  !(path.name.toList.head? == some '.') && isMedia path

namespace ImportCommand
variable {γ : Type u}

def place (command : ImportCommand) : UploadPlace where
  profileId := textOr "default" (strip command.profileOption)
  outputRoot := command.downloadsRoot
  sha1 := sha1Hex

/-- `_contains_media_files`. -/
def containsMediaFiles (files : Table Path γ) (dir : Path) : Bool :=
  files.keys.any fun path => LiesIn path dir ∧ isImportableFile path

/-- The folders of the root with something in them; in the others there is nothing to import. -/
def folders (files : Table Path γ) (command : ImportCommand) : List Path :=
  ((files.keys.filter fun path => LiesUnder path command.downloadsRoot ∧
    ¬ LiesIn path command.downloadsRoot).map (entryOf command.downloadsRoot)).dedup

def channelDirs (files : Table Path γ) (command : ImportCommand) : List Path :=
  if containsMediaFiles files command.downloadsRoot then [command.downloadsRoot] else command.folders files

/-- The files that `rglob` or `iterdir` lists. -/
def candidates (files : Table Path γ) (dir : Path) (command : ImportCommand) : List Path :=
  files.keys.filter fun path => if command.recursive then LiesUnder path dir else LiesIn path dir

/-- What the loops come to: the files to import, with their channel directories. -/
def imports (files : Table Path γ) (command : ImportCommand) : List (Path × Path) :=
  (sortPaths (command.channelDirs files)).flatMap fun dir =>
    ((sortPaths (command.candidates files dir)).filter isMedia).map fun path => (dir, path)

/-- The call of `import_manual_file`. -/
def fileImport (outcome : ImportOutcome) (dir path : Path) : FileImport where
  path
  sourceName := some dir.name
  hashed := outcome.hashed
  now := outcome.now
  saving := outcome.saving

/-- The loops, with the numbers of files imported and skipped. -/
def importFiles (command : ImportCommand) (outcomes : Path → ImportOutcome) :
    List (Path × Path) → Nat → Nat → UploadStore → UploadStore × Except UploadError (Nat × Nat)
  | [], imported, skipped, s => (s, .ok (imported, skipped))
  | (dir, path) :: rest, imported, skipped, s =>
    match command.place.importManualFile (fileImport (outcomes path) dir path) s with
    | (s, .ok _) =>
      match if command.generateTranscripts then (outcomes path).queued else .ok () with
      | .ok () => command.importFiles outcomes rest (imported + 1) skipped s
      | .error error =>
        if error.skipped then command.importFiles outcomes rest (imported + 1) (skipped + 1) s
        else (s, .error error)
    | (s, .error error) =>
      if error.skipped then command.importFiles outcomes rest imported (skipped + 1) s
      else (s, .error error)

/-- `handle`. -/
def handle (command : ImportCommand) (outcomes : Path → ImportOutcome) (s : UploadStore) :
    UploadStore × Except UploadError (Nat × Nat) :=
  if command.rootFound then command.importFiles outcomes (command.imports s.files) 0 0 s
  else (s, .error (.raised (.other "CommandError")))

/-- An importable file that lies directly in the root or directly in one of its folders. -/
def Required (files : Table Path γ) (command : ImportCommand) (path : Path) : Prop :=
  (files.lookup path).isSome = true ∧ isImportableFile path = true ∧
    (LiesIn path command.downloadsRoot ∨ LiesIn path.parent command.downloadsRoot)

/-- A media file where the command looks: in the root if that has an importable file, else in its folders. -/
def Taken (files : Table Path γ) (command : ImportCommand) (path : Path) : Prop :=
  (files.lookup path).isSome = true ∧ isMedia path = true ∧
    if containsMediaFiles files command.downloadsRoot then LiesIn path command.downloadsRoot
    else LiesIn path.parent command.downloadsRoot

def relativePath (command : ImportCommand) (path : Path) : String :=
  (path.relativeTo command.downloadsRoot).getD ""

/-- The name of the channel directory, or what stands for an empty one. -/
def channelName (path : Path) : String :=
  textOr (textOr "Manual Uploads" path.parent.name) path.parent.name

def contentOf (files : Table Path (List UInt8)) (path : Path) : List UInt8 :=
  (files.lookup path).getD []

/-- The `item_uid` under which the file is imported. -/
def itemUid (files : Table Path (List UInt8)) (command : ImportCommand) (path : Path) : String :=
  "manualdir-" ++ command.place.profileId ++ "-" ++ channelName path ++ "-" ++ command.relativePath path ++
    "-" ++ toString (contentOf files path).length ++ "-" ++ sha1Hex (contentOf files path)

/-- The row is the profile's and has the `item_uid` of the file. -/
def recorded (files : Table Path (List UInt8)) (command : ImportCommand) (path : Path) (row : UploadRow) : Bool :=
  row.profileId = command.place.profileId && row.itemUid = some (command.itemUid files path)

/-- The row is the profile's and names the file. -/
def Names (command : ImportCommand) (path : Path) (row : UploadRow) : Prop :=
  row.profileId = command.place.profileId ∧ row.filePath = some path.str

end ImportCommand

namespace ImportOutcome

/-- The statement for the row is executed. -/
def writes (outcome : ImportOutcome) : Bool :=
  match outcome.hashed, outcome.saving with
  | .error _, _ => false
  | .ok (), .failed _ false => false
  | .ok (), _ => true

/-- The error that the loop sees, unless there are two rows. -/
def error? (generateTranscripts : Bool) (outcome : ImportOutcome) : Option UploadError :=
  match outcome.hashed, outcome.saving with
  | .error error, _ => some error
  | .ok (), .failed error _ => some error
  | .ok (), .done =>
    match if generateTranscripts then outcome.queued else .ok () with
    | .error error => some error
    | .ok () => none

end ImportOutcome

namespace ImportCommand

/-- No import of a file ends the command: what goes wrong is an error it skips a file for, and not two rows
have the `item_uid` of a file that is written. -/
structure Ends (outcomes : Path → ImportOutcome) (command : ImportCommand) (s : UploadStore) : Prop where
  rootFound : command.rootFound = true
  skipped : ∀ path, command.Taken s.files path →
    ∀ error ∈ (outcomes path).error? command.generateTranscripts, error.skipped = true
  single : ∀ path, command.Taken s.files path → (outcomes path).writes = true →
    {id | ∃ row, s.downloads.rows.lookup id = some row ∧ command.recorded s.files path row = true}.Subsingleton

/-- The files whose rows are written. -/
def written (files : Table Path (List UInt8)) (outcomes : Path → ImportOutcome) (command : ImportCommand) :
    Set Path :=
  {path | command.Taken files path ∧ (outcomes path).writes = true}

/-- What the import of the file makes of a row. -/
def write (files : Table Path (List UInt8)) (outcomes : Path → ImportOutcome) (command : ImportCommand)
    (path : Path) (row : UploadRow) : UploadRow :=
  row.imported (fileImport (outcomes path) path.parent path) (command.relativePath path)
    (command.itemUid files path) (contentOf files path).length

/-- The row that names the file has the `item_uid` of none of the files that are written. -/
def Foreign (outcomes : Path → ImportOutcome) (command : ImportCommand) (s : UploadStore) (path : Path)
    (id : Nat) : Prop :=
  ∃ row, s.downloads.rows.lookup id = some row ∧ command.Names path row ∧
    ∀ other ∈ command.written s.files outcomes, ¬ command.recorded s.files other row = true

/-- The file gets exactly one row: it is imported and no other row names it, or it is not and exactly one row
does. -/
def Coverable (outcomes : Path → ImportOutcome) (command : ImportCommand) (s : UploadStore) (path : Path) : Prop :=
  (path ∈ command.written s.files outcomes → ∀ id, ¬ command.Foreign outcomes s path id) ∧
    (path ∉ command.written s.files outcomes → ∃! id, command.Foreign outcomes s path id)

end ImportCommand

-- The identity of a file

theorem LiesIn.parts (h : LiesIn path dir) : ∃ name, IsPart name ∧ path.name = name ∧
    path.parts = dir.parts ++ [name] := by
  obtain ⟨hne, rfl⟩ := h
  refine ⟨path.parts.getLast hne, path.valid _ (List.getLast_mem hne), ?_, (List.dropLast_append_getLast hne).symm⟩
  rw [Path.name, List.getLast?_eq_some_getLast hne]
  rfl

/-- A file of a folder of the root. -/
theorem LiesIn.folder_parts {path root : Path} (h : LiesIn path.parent root) :
    ∃ folder name, IsPart folder ∧ path.parent.name = folder ∧ path.parent.parts = root.parts ++ [folder] ∧
      path.parts = root.parts ++ [folder, name] := by
  obtain ⟨folder, hfolder, hname, hparent⟩ := h.parts
  have hne : path.parts ≠ [] := by
    intro hnil
    have hempty : path.parent.parts = [] := congrArg List.dropLast hnil
    rw [hempty] at hparent
    exact List.append_ne_nil_of_right_ne_nil _ (List.cons_ne_nil _ _) hparent.symm
  obtain ⟨name, -, -, hparts⟩ := LiesIn.parts ⟨hne, rfl⟩
  rw [hparent, List.append_assoc, List.singleton_append] at hparts
  exact ⟨folder, name, hfolder, hname, hparent, hparts⟩

section
variable {root path other : Path} {name folder : String}

theorem relativeTo_one (h : path.parts = root.parts ++ [name]) : path.relativeTo root = some name := by
  rw [Path.relativeTo, if_pos (h ▸ List.prefix_append _ _), h, List.drop_left]
  dsimp only
  rw [if_neg (List.cons_ne_nil _ _), List.map_singleton, List.intercalate_singleton, String.ofList_toList]

theorem relativeTo_two (h : path.parts = root.parts ++ [folder, name]) :
    path.relativeTo root = some (folder ++ "/" ++ name) := by
  have htext : String.ofList (['/'].intercalate ([folder, name].map String.toList)) = folder ++ "/" ++ name := by
    apply String.toList_injective
    rw [String.toList_ofList, String.toList_append, String.toList_append, List.map_cons, List.map_singleton,
      List.intercalate_cons_cons, List.intercalate_singleton]
    rfl
  rw [Path.relativeTo, if_pos (h ▸ List.prefix_append _ _), h, List.drop_left]
  dsimp only
  rw [if_neg (List.cons_ne_nil _ _), htext]

theorem path_ext (h : path.parts = other.parts) : path = other := by
  cases path
  cases other
  cases h
  rfl

end

/-- The text in front of the length and the digest is told apart. -/
theorem uid_front_inj {front front' : String} {n n' : Nat} {bytes bytes' : List UInt8}
    (h : front ++ "-" ++ toString n ++ "-" ++ sha1Hex bytes = front' ++ "-" ++ toString n' ++ "-" ++ sha1Hex bytes') :
    front = front' := by
  have hdash : "-".toList = ['-'] := rfl
  have hlist := congrArg String.toList h
  rw [String.toList_append, String.toList_append, String.toList_append, String.toList_append,
    String.toList_append, String.toList_append, String.toList_append, String.toList_append, hdash] at hlist
  have hlength : (sha1Hex bytes).toList.length = (sha1Hex bytes').toList.length := by
    rw [String.length_toList, String.length_toList, length_sha1Hex, length_sha1Hex]
  have hfront := (List.append_inj' hlist hlength).1
  have hnumbers := List.append_cancel_right hfront
  rw [List.append_assoc, List.append_assoc, List.singleton_append, List.singleton_append] at hnumbers
  exact String.toList_injective
    (append_cons_inj_right (not_mem_toString (by decide) n) (not_mem_toString (by decide) n') hnumbers).1

namespace ImportCommand
variable {command : ImportCommand} {files : Table Path (List UInt8)} {path other : Path}

theorem channelName_of_name (h : path.parent.name ≠ "") : channelName path = path.parent.name := by
  rw [channelName, textOr, if_neg h]

/-- A file in the root, and a file in a folder of the root. -/
theorem Taken.cases (h : command.Taken files path) :
    (containsMediaFiles files command.downloadsRoot = true ∧ path.parent = command.downloadsRoot ∧
      ∃ name, path.parts = command.downloadsRoot.parts ++ [name] ∧ command.relativePath path = name) ∨
    (containsMediaFiles files command.downloadsRoot = false ∧
      ∃ folder name, IsPart folder ∧ path.parts = command.downloadsRoot.parts ++ [folder, name] ∧
        channelName path = folder ∧ command.relativePath path = folder ++ "/" ++ name) := by
  obtain ⟨-, -, hplace⟩ := h
  split at hplace
  · next hflat =>
    obtain ⟨name, -, -, hparts⟩ := hplace.parts
    refine .inl ⟨hflat, hplace.2, name, hparts, ?_⟩
    rw [relativePath, relativeTo_one hparts]
    rfl
  · next hnested =>
    obtain ⟨folder, name, hfolder, hname, -, hparts⟩ := hplace.folder_parts
    refine .inr ⟨Bool.eq_false_of_not_eq_true hnested, folder, name, hfolder, hparts, ?_, ?_⟩
    · rw [channelName_of_name (hname ▸ hfolder.1), hname]
    · rw [relativePath, relativeTo_two hparts]
      rfl

/-- The files that are taken have different uids. -/
theorem itemUid_injective (hpath : command.Taken files path) (hother : command.Taken files other)
    (h : command.itemUid files path = command.itemUid files other) : path = other := by
  have hfront := uid_front_inj h
  rcases hpath.cases with ⟨hflat, hparent, name, hparts, hrelative⟩ |
    ⟨hnested, folder, name, hfolder, hparts, hchannel, hrelative⟩
  · rcases hother.cases with ⟨-, hparent', name', hparts', hrelative'⟩ | ⟨hnested, -⟩
    · rw [channelName, channelName, hparent, hparent', hrelative, hrelative', String.append_right_inj] at hfront
      exact path_ext (hparts.trans (hfront ▸ hparts'.symm))
    · rw [hflat] at hnested
      cases hnested
  · rcases hother.cases with ⟨hflat, -⟩ | ⟨-, folder', name', hfolder', hparts', hchannel', hrelative'⟩
    · rw [hnested] at hflat
      cases hflat
    · rw [hchannel, hchannel', hrelative, hrelative'] at hfront
      have hslash {text : String} (htext : IsPart text) : '/' ∉ (text ++ "-" ++ text).toList := by
        rw [String.toList_append, String.toList_append, List.mem_append, List.mem_append, not_or, not_or]
        exact ⟨⟨htext.2.2, by decide⟩, htext.2.2⟩
      have htail : folder ++ "-" ++ folder ++ "/" ++ name = folder' ++ "-" ++ folder' ++ "/" ++ name' := by
        simp only [String.append_assoc, String.append_right_inj] at hfront ⊢
        exact hfront
      obtain ⟨htwice, rfl⟩ := separated_inj rfl (hslash hfolder) (hslash hfolder') htail
      have hchars := congrArg String.toList htwice
      rw [String.toList_append, String.toList_append, String.toList_append, String.toList_append,
        List.append_assoc, List.append_assoc] at hchars
      have hlength := congrArg List.length hchars
      rw [List.length_append, List.length_append, List.length_append, List.length_append] at hlength
      have hfolders := String.toList_injective (List.append_inj hchars (by omega)).1
      subst hfolders
      exact path_ext (hparts.trans hparts'.symm)

end ImportCommand

section
variable {root dir path : Path} {paths : List Path}

theorem mem_sortPaths : path ∈ sortPaths paths ↔ path ∈ paths :=
  List.mem_mergeSort

theorem nodup_sortPaths (h : paths.Nodup) : (sortPaths paths).Nodup :=
  (List.mergeSort_perm paths _).nodup_iff.2 h

theorem liesIn_entryOf (h : LiesUnder path root) : LiesIn (entryOf root path) root := by
  obtain ⟨⟨rest, hparts⟩, hne⟩ := h
  cases rest with
  | nil => exact absurd (path_ext (hparts.symm.trans (List.append_nil _))) hne
  | cons first rest =>
    have hentry : (entryOf root path).parts = root.parts ++ [first] := by
      change path.parts.take (root.parts.length + 1) = _
      rw [← hparts, List.take_length_add_append]
      rfl
    refine ⟨?_, path_ext ?_⟩
    · rw [hentry]
      exact List.append_ne_nil_of_right_ne_nil _ (List.cons_ne_nil _ _)
    · change (entryOf root path).parts.dropLast = root.parts
      rw [hentry, List.dropLast_concat]

/-- A file of a folder lies under the root, and the folder is its entry there. -/
theorem LiesIn.entryOf_eq (h : LiesIn path.parent root) :
    LiesUnder path root ∧ ¬ LiesIn path root ∧ entryOf root path = path.parent := by
  obtain ⟨folder, name, -, -, hparent, hparts⟩ := h.folder_parts
  refine ⟨⟨hparts ▸ List.prefix_append _ _, ?_⟩, ?_, path_ext ?_⟩
  · rintro rfl
    have hlength := congrArg List.length hparts
    rw [List.length_append] at hlength
    simp only [List.length_cons, List.length_nil] at hlength
    omega
  · rintro ⟨-, hroot⟩
    rw [hroot] at hparent
    have hlength := congrArg List.length hparent
    rw [List.length_append, List.length_singleton] at hlength
    omega
  · change path.parts.take (root.parts.length + 1) = path.parent.parts
    rw [hparts, List.take_length_add_append, hparent]
    rfl

end

namespace ImportCommand
variable {command : ImportCommand} {files : Table Path (List UInt8)} {dir path other : Path}

theorem mem_keys_iff : path ∈ files.keys ↔ (files.lookup path).isSome = true :=
  AList.lookup_isSome.symm

/-- The directories that the command goes through are those where it looks. -/
theorem mem_channelDirs (hpath : path ∈ files.keys) (hdir : LiesIn path dir) :
    dir ∈ command.channelDirs files ↔
      if containsMediaFiles files command.downloadsRoot then LiesIn path command.downloadsRoot
      else LiesIn path.parent command.downloadsRoot := by
  obtain ⟨hne, rfl⟩ := hdir
  rw [channelDirs]
  split
  · rw [List.mem_singleton]
    exact (and_iff_right hne).symm
  · rw [folders, List.mem_dedup, List.mem_map]
    constructor
    · rintro ⟨other, hother, hentry⟩
      rw [List.mem_filter, decide_eq_true_eq] at hother
      exact hentry ▸ liesIn_entryOf hother.2.1
    · intro h
      obtain ⟨hunder, hno, hentry⟩ := h.entryOf_eq
      exact ⟨path, List.mem_filter.2 ⟨hpath, decide_eq_true ⟨hunder, hno⟩⟩, hentry⟩

theorem mem_imports (hrecursive : command.recursive = false) :
    (dir, path) ∈ command.imports files ↔ dir = path.parent ∧ command.Taken files path := by
  have hcandidates (dir path : Path) : path ∈ command.candidates files dir ↔
      path ∈ files.keys ∧ LiesIn path dir := by
    rw [candidates, List.mem_filter, hrecursive]
    exact and_congr_right fun _ => by rw [if_neg Bool.false_ne_true, decide_eq_true_eq]
  have hmem : (dir, path) ∈ command.imports files ↔
      dir ∈ command.channelDirs files ∧ (path ∈ files.keys ∧ LiesIn path dir) ∧ isMedia path = true := by
    rw [imports, List.mem_flatMap]
    simp only [List.mem_map, List.mem_filter, mem_sortPaths, hcandidates, Prod.mk.injEq]
    constructor
    · rintro ⟨dir', hdir, path', hpath, rfl, rfl⟩
      exact ⟨hdir, hpath⟩
    · rintro ⟨hdir, hpath⟩
      exact ⟨dir, hdir, path, hpath, rfl, rfl⟩
  rw [hmem, Taken, ← mem_keys_iff]
  constructor
  · rintro ⟨hdir, ⟨hpath, hin⟩, hmedia⟩
    exact ⟨hin.2.symm, hpath, hmedia, (mem_channelDirs hpath hin).1 hdir⟩
  · rintro ⟨rfl, hpath, hmedia, hplace⟩
    have hne : path.parts ≠ [] := by
      split at hplace
      · exact hplace.1
      · obtain ⟨folder, name, -, -, -, hparts⟩ := hplace.folder_parts
        rw [hparts]
        exact List.append_ne_nil_of_right_ne_nil _ (List.cons_ne_nil _ _)
    exact ⟨(mem_channelDirs hpath ⟨hne, rfl⟩).2 hplace, ⟨hpath, hne, rfl⟩, hmedia⟩

/-- No file is imported twice. -/
theorem nodup_imports (hrecursive : command.recursive = false) :
    ((command.imports files).map Prod.snd).Nodup := by
  have hdirs : (command.channelDirs files).Nodup := by
    rw [channelDirs]
    split
    · exact List.nodup_singleton _
    · exact List.nodup_dedup _
  have hfiles (dir : Path) : (command.candidates files dir).Nodup := files.keys_nodup.filter _
  have hsnd (dir : Path) : (((sortPaths (command.candidates files dir)).filter isMedia).map
      fun path => (dir, path)).map Prod.snd = (sortPaths (command.candidates files dir)).filter isMedia := by
    rw [List.map_map]
    exact List.map_id _
  have hin {dir path : Path} (h : path ∈ (sortPaths (command.candidates files dir)).filter isMedia) :
      path.parent = dir := by
    have hlisted := mem_sortPaths.1 (List.mem_filter.1 h).1
    rw [candidates, List.mem_filter, hrecursive, if_neg Bool.false_ne_true, decide_eq_true_eq] at hlisted
    exact hlisted.2.2
  rw [imports, List.map_flatMap, List.nodup_flatMap]
  refine ⟨?_, (nodup_sortPaths hdirs).imp ?_⟩
  · intro dir _
    rw [hsnd]
    exact (nodup_sortPaths (hfiles dir)).filter _
  · intro dir other hne path hpath hpath'
    dsimp only at hpath hpath'
    rw [hsnd] at hpath hpath'
    exact hne ((hin hpath).symm.trans (hin hpath'))

end ImportCommand

end GetOffline
