import GetOffline.DirectoryImports
import GetOffline.Upserts

set_option autoImplicit true

namespace GetOffline
open Python

-- What the import of one file does

namespace ImportCommand
variable {command : ImportCommand} {outcomes : Path → ImportOutcome} {s t : UploadStore} {path : Path}

theorem recorded_eq (command : ImportCommand) (files : Table Path (List UInt8)) (path : Path) :
    (fun _ => command.recorded files path) =
      UploadRow.isUpload command.place.profileId (command.itemUid files path) := rfl

theorem recorded_write (files : Table Path (List UInt8)) (outcomes : Path → ImportOutcome)
    (command : ImportCommand) (path other : Path) (row : UploadRow) :
    command.recorded files path (command.write files outcomes other row) = command.recorded files path row := rfl

/-- The row that an import adds, before it is filled in. -/
def newRow (files : Table Path (List UInt8)) (outcomes : Path → ImportOutcome) (command : ImportCommand)
    (path : Path) : UploadRow where
  profileId := command.place.profileId
  itemUid := some (command.itemUid files path)
  sourceType := "manual"
  sourceName := channelName path
  firstSeenAt := (outcomes path).now
  lastSeenAt := (outcomes path).now

theorem recorded_newRow (files : Table Path (List UInt8)) (outcomes : Path → ImportOutcome)
    (command : ImportCommand) (path : Path) :
    command.recorded files path (command.newRow files outcomes path) = true := by
  rw [recorded, newRow, decide_eq_true rfl, decide_eq_true rfl]
  rfl

/-- The `update_or_create` of the import of a file. -/
def upsert (files : Table Path (List UInt8)) (outcomes : Path → ImportOutcome) (command : ImportCommand)
    (path : Path) (downloads : AutoTable UploadRow) : Except Error (Nat × AutoTable UploadRow) :=
  updateOrCreateRow (fun _ => command.recorded files path)
    (command.write files outcomes path (command.newRow files outcomes path))
    (command.write files outcomes path) downloads

/-- The uid that `import_manual_file` computes. -/
theorem itemUid_fileImport (outcome : ImportOutcome) {relative : String} {content : List UInt8}
    (hrelative : command.relativePath path = relative) (hcontent : contentOf s.files path = content) :
    (fileImport outcome path.parent path).itemUid command.place relative content =
      command.itemUid s.files path := by
  have heq (file : FileImport) (place : UploadPlace) : file.itemUid place relative content =
      "manualdir-" ++ place.profileId ++ "-" ++ file.channelName ++ "-" ++ relative ++ "-" ++
        toString content.length ++ "-" ++ place.sha1 content := rfl
  have huid : command.itemUid s.files path =
      "manualdir-" ++ command.place.profileId ++ "-" ++ channelName path ++ "-" ++ command.relativePath path ++
        "-" ++ toString (contentOf s.files path).length ++ "-" ++ sha1Hex (contentOf s.files path) := rfl
  have hchannel : (fileImport outcome path.parent path).channelName = channelName path := rfl
  have hsha1 : command.place.sha1 content = sha1Hex content := rfl
  subst hrelative hcontent
  rw [heq, huid, hchannel, hsha1]

theorem importManualFile_taken (h : command.Taken s.files path) :
    command.place.importManualFile (fileImport (outcomes path) path.parent path) s =
      match (outcomes path).hashed with
      | .error error => (s, .error error)
      | .ok () =>
        match saveUpload (outcomes path).saving (fun _ => command.recorded s.files path)
            (command.write s.files outcomes path (command.newRow s.files outcomes path))
            (command.write s.files outcomes path) s.downloads with
        | (downloads, .ok id) => ({ s with downloads }, .ok (id, path))
        | (downloads, .error error) => ({ s with downloads }, .error error) := by
  have hmedia : lower path.suffix ∈ mediaUploadExtensions := of_decide_eq_true h.2.1
  obtain ⟨content, hcontent⟩ := Option.isSome_iff_exists.1 h.1
  obtain ⟨relative, hrelative⟩ : ∃ relative, path.relativeTo command.downloadsRoot = some relative := by
    rcases h.cases with ⟨-, -, name, hparts, -⟩ | ⟨-, folder, name, -, hparts, -, -⟩
    · exact ⟨_, relativeTo_one hparts⟩
    · exact ⟨_, relativeTo_two hparts⟩
  have hgot : command.relativePath path = relative := by rw [relativePath, hrelative]; rfl
  have hlength : contentOf s.files path = content := by rw [contentOf, hcontent]; rfl
  have huid := itemUid_fileImport (outcomes path) hgot hlength
  have hwrite : UploadRow.imported (fileImport (outcomes path) path.parent path) relative
      (command.itemUid s.files path) content.length = command.write s.files outcomes path := by
    funext row
    rw [write, hlength, hgot]
  have hfile : (fileImport (outcomes path) path.parent path).path = path := rfl
  have hroot : command.place.outputRoot = command.downloadsRoot := rfl
  have hhashed : (fileImport (outcomes path) path.parent path).hashed = (outcomes path).hashed := rfl
  have hsaving : (fileImport (outcomes path) path.parent path).saving = (outcomes path).saving := rfl
  rw [UploadPlace.importManualFile, hfile, hcontent]
  dsimp only
  rw [if_neg (not_not.2 hmedia), hroot, hrelative]
  dsimp only
  rw [huid, hwrite, hhashed, hsaving, recorded_eq]
  rfl

variable (outcomes) in
/-- How the import of a file that is taken ends: without a row written, for an error, because of two rows, or
with the row written. -/
theorem import_cases (h : command.Taken s.files path) :
    ((outcomes path).writes = false ∧ ∃ error, (outcomes path).error? command.generateTranscripts = some error ∧
      command.place.importManualFile (fileImport (outcomes path) path.parent path) s = (s, .error error)) ∨
    ((outcomes path).writes = true ∧ (∃ error, command.upsert s.files outcomes path s.downloads = .error error) ∧
      command.place.importManualFile (fileImport (outcomes path) path.parent path) s =
        (s, .error (.raised (.other "MultipleObjectsReturned")))) ∨
    ((outcomes path).writes = true ∧ ∃ id downloads,
      command.upsert s.files outcomes path s.downloads = .ok (id, downloads) ∧
        (((outcomes path).saving = .done ∧
          command.place.importManualFile (fileImport (outcomes path) path.parent path) s =
            ({ s with downloads }, .ok (id, path))) ∨
        ∃ error, (outcomes path).error? command.generateTranscripts = some error ∧
          command.place.importManualFile (fileImport (outcomes path) path.parent path) s =
            ({ s with downloads }, .error error))) := by
  rw [importManualFile_taken h]
  cases hhashed : (outcomes path).hashed with
  | error error =>
    refine .inl ⟨?_, error, ?_, rfl⟩
    · rw [ImportOutcome.writes, hhashed]
    · rw [ImportOutcome.error?, hhashed]
  | ok _ =>
    dsimp only
    by_cases hlate : ∀ error, (outcomes path).saving ≠ .failed error false
    · have hwrites : (outcomes path).writes = true := by
        rw [ImportOutcome.writes, hhashed]
        split
        · next heq => cases heq
        · next error _ heq => exact absurd heq (hlate error)
        · rfl
      cases hupsert : command.upsert s.files outcomes path s.downloads with
      | error error =>
        rw [saveUpload_error hlate hupsert, updateOrCreateRow_raises hupsert]
        exact .inr (.inl ⟨hwrites, ⟨_, rfl⟩, rfl⟩)
      | ok result =>
        obtain ⟨id, downloads⟩ := result
        refine .inr (.inr ⟨hwrites, id, downloads, rfl, ?_⟩)
        rcases saveUpload_ok hlate hupsert with ⟨hdone, hsave⟩ | ⟨error, hfailed, hsave⟩
        · rw [hsave]
          exact .inl ⟨hdone, rfl⟩
        · rw [hsave]
          refine .inr ⟨error, ?_, rfl⟩
          rw [ImportOutcome.error?, hhashed, hfailed]
    · obtain ⟨error, hfailed⟩ := not_forall.1 hlate
      rw [not_not] at hfailed
      refine .inl ⟨?_, error, ?_, ?_⟩
      · rw [ImportOutcome.writes, hhashed, hfailed]
      · rw [ImportOutcome.error?, hhashed, hfailed]
      · rw [hfailed]
        rfl

/-- The import of the file does not end the command. -/
def Passes (files : Table Path (List UInt8)) (outcomes : Path → ImportOutcome) (command : ImportCommand)
    (downloads : AutoTable UploadRow) (path : Path) : Prop :=
  (∀ error ∈ (outcomes path).error? command.generateTranscripts, error.skipped = true) ∧
    ((outcomes path).writes = true →
      {id | ∃ row, downloads.rows.lookup id = some row ∧ command.recorded files path row = true}.Subsingleton)

theorem upsert_ok_iff {files : Table Path (List UInt8)} {downloads : AutoTable UploadRow} :
    (∃ id downloads', command.upsert files outcomes path downloads = .ok (id, downloads')) ↔
      {id | ∃ row, downloads.rows.lookup id = some row ∧ command.recorded files path row = true}.Subsingleton :=
  updateOrCreateRow_ok_iff

theorem passes_of_writes {files : Table Path (List UInt8)} {downloads downloads' : AutoTable UploadRow} {id : Nat}
    (hupsert : command.upsert files outcomes path downloads = .ok (id, downloads')) :
    command.Passes files outcomes downloads path ↔
      ∀ error ∈ (outcomes path).error? command.generateTranscripts, error.skipped = true :=
  and_iff_left fun _ => upsert_ok_iff.1 ⟨id, downloads', hupsert⟩

theorem error?_done {outcome : ImportOutcome} (hwrites : outcome.writes = true) (hdone : outcome.saving = .done)
    (generateTranscripts : Bool) :
    outcome.error? generateTranscripts = match if generateTranscripts then outcome.queued else .ok () with
      | .error error => some error
      | .ok () => none := by
  cases hhashed : outcome.hashed with
  | error error =>
    rw [ImportOutcome.writes, hhashed] at hwrites
    cases hwrites
  | ok _ =>
    cases hqueued : if generateTranscripts then outcome.queued else .ok () with
    | error error => simp only [ImportOutcome.error?, hhashed, hdone, hqueued]
    | ok _ => simp only [ImportOutcome.error?, hhashed, hdone, hqueued]

variable (outcomes) in
/-- A turn of the loop: it goes on with the row written, if it is, or the command ends with an error. -/
theorem importFiles_cons (h : command.Taken s.files path) (rest : List (Path × Path)) (imported skipped : Nat) :
    (command.Passes s.files outcomes s.downloads path ∧ ∃ downloads imported' skipped',
      command.importFiles outcomes ((path.parent, path) :: rest) imported skipped s =
        command.importFiles outcomes rest imported' skipped' { s with downloads } ∧
      ((outcomes path).writes = false ∧ downloads = s.downloads ∨
        (outcomes path).writes = true ∧ ∃ id, command.upsert s.files outcomes path s.downloads = .ok (id, downloads))) ∨
    ¬ command.Passes s.files outcomes s.downloads path ∧ ∃ t error,
      command.importFiles outcomes ((path.parent, path) :: rest) imported skipped s = (t, .error error) := by
  rw [importFiles]
  rcases import_cases outcomes h with ⟨hwrites, error, herror, himport⟩ |
    ⟨hwrites, ⟨error, hupsert⟩, himport⟩ | ⟨hwrites, id, downloads, hupsert, hcase⟩
  · have hpasses : command.Passes s.files outcomes s.downloads path ↔ error.skipped = true := by
      rw [Passes, herror, hwrites]
      exact ⟨fun h => h.1 error rfl, fun h => ⟨fun _ he => Option.some.inj he ▸ h, nofun⟩⟩
    rw [himport, hpasses]
    dsimp only
    cases hskipped : error.skipped with
    | true => exact .inl ⟨rfl, s.downloads, imported, skipped + 1, rfl, .inl ⟨hwrites, rfl⟩⟩
    | false => exact .inr ⟨Bool.false_ne_true, s, error, rfl⟩
  · refine .inr ⟨?_, s, .raised (.other "MultipleObjectsReturned"), ?_⟩
    · rintro ⟨-, hsingle⟩
      obtain ⟨id, downloads, hok⟩ := upsert_ok_iff.2 (hsingle hwrites)
      rw [hupsert] at hok
      cases hok
    · rw [himport]
      rfl
  · have hwritten : (outcomes path).writes = false ∧ downloads = s.downloads ∨ (outcomes path).writes = true ∧
        ∃ id, command.upsert s.files outcomes path s.downloads = .ok (id, downloads) :=
      .inr ⟨hwrites, id, hupsert⟩
    rw [passes_of_writes hupsert]
    rcases hcase with ⟨hdone, himport⟩ | ⟨error, herror, himport⟩
    · rw [himport, error?_done hwrites hdone]
      dsimp only
      cases if command.generateTranscripts then (outcomes path).queued else .ok () with
      | ok _ => exact .inl ⟨nofun, downloads, imported + 1, skipped, rfl, hwritten⟩
      | error error =>
        dsimp only
        cases hskipped : error.skipped with
        | true =>
          refine .inl ⟨?_, downloads, imported + 1, skipped + 1, rfl, hwritten⟩
          exact fun _ he => Option.some.inj he ▸ hskipped
        | false =>
          refine .inr ⟨fun h => ?_, _, error, rfl⟩
          have hall := h error rfl
          rw [hskipped] at hall
          cases hall
    · rw [himport, herror]
      dsimp only
      cases hskipped : error.skipped with
      | true =>
        refine .inl ⟨?_, downloads, imported, skipped + 1, rfl, hwritten⟩
        exact fun _ he => Option.some.inj he ▸ hskipped
      | false =>
        refine .inr ⟨fun h => ?_, _, error, rfl⟩
        have hall := h error rfl
        rw [hskipped] at hall
        cases hall

/-- The rows that have the uid of one file do not have that of another. -/
theorem recorded_distinct {files : Table Path (List UInt8)} {other : Path} {row : UploadRow}
    (hpath : command.Taken files path) (hother : command.Taken files other)
    (h : command.recorded files path row = true) (h' : command.recorded files other row = true) :
    path = other := by
  rw [recorded, Bool.and_eq_true, decide_eq_true_eq, decide_eq_true_eq] at h h'
  exact itemUid_injective hpath hother (Option.some.inj (h.2.symm.trans h'.2))

/-- The rows of another file are not concerned. -/
theorem passes_upsert {files : Table Path (List UInt8)} {downloads downloads' : AutoTable UploadRow} {id : Nat}
    {other : Path} (hpath : command.Taken files path) (hother : command.Taken files other) (hne : path ≠ other)
    (h : command.upsert files outcomes path downloads = .ok (id, downloads')) :
    command.Passes files outcomes downloads' other ↔ command.Passes files outcomes downloads other := by
  have hdistinct (row : UploadRow) (hrow : command.recorded files path row = true) :
      ¬ command.recorded files other row = true :=
    fun hrow' => hne (recorded_distinct hpath hother hrow hrow')
  have hsame : {i | ∃ row, downloads'.rows.lookup i = some row ∧ command.recorded files other row = true} =
      {i | ∃ row, downloads.rows.lookup i = some row ∧ command.recorded files other row = true} := by
    ext i
    apply updateOrCreateRow_other (fun _ => command.recorded files other) h
    · rw [recorded_write]
      exact hdistinct _ (recorded_newRow files outcomes command path)
    · intro row hrow
      rw [recorded_write]
      exact hdistinct row hrow
    · exact hdistinct
  rw [Passes, Passes, hsame]

variable (outcomes) in
/-- The loop ends exactly if no import ends it, and then the rows of the files are written. -/
theorem importFiles_spec {paths : List (Path × Path)} {files : Table Path (List UInt8)} (hfiles : s.files = files)
    (hpaths : ∀ entry ∈ paths, entry.1 = entry.2.parent ∧ command.Taken files entry.2)
    (hnodup : (paths.map Prod.snd).Nodup) (imported skipped : Nat) :
    ((∃ t counts, command.importFiles outcomes paths imported skipped s = (t, .ok counts)) ↔
      ∀ entry ∈ paths, command.Passes files outcomes s.downloads entry.2) ∧
    ∀ t counts, command.importFiles outcomes paths imported skipped s = (t, .ok counts) →
      t.files = files ∧ Upserted (command.recorded files) (command.write files outcomes)
        {path | path ∈ paths.map Prod.snd ∧ (outcomes path).writes = true} s.downloads t.downloads := by
  induction paths generalizing s imported skipped with
  | nil =>
    refine ⟨iff_of_true ⟨s, _, rfl⟩ (List.forall_mem_nil _), ?_⟩
    intro t counts h
    obtain ⟨rfl, -⟩ := Prod.mk.inj h
    have hnone : {path | path ∈ ([] : List (Path × Path)).map Prod.snd ∧ (outcomes path).writes = true} = ∅ :=
      Set.eq_empty_of_forall_notMem fun path hpath => List.not_mem_nil hpath.1
    rw [hnone]
    exact ⟨hfiles, .refl _⟩
  | cons entry rest ih =>
    obtain ⟨dir, path⟩ := entry
    rw [List.forall_mem_cons] at hpaths
    obtain ⟨⟨hdir, htaken⟩, hrest⟩ := hpaths
    dsimp only at hdir htaken
    subst hdir
    rw [List.map_cons, List.nodup_cons] at hnodup
    have hne {entry : Path × Path} (hentry : entry ∈ rest) : path ≠ entry.2 := by
      intro heq
      apply hnodup.1
      exact List.mem_map.2 ⟨entry, hentry, heq.symm⟩
    rw [List.forall_mem_cons]
    have hcases := importFiles_cons outcomes (hfiles ▸ htaken) rest imported skipped
    rw [hfiles] at hcases
    rcases hcases with
      ⟨hpasses, downloads, imported', skipped', heq, hstep⟩ | ⟨hno, u, error, heq⟩
    · rw [heq]
      obtain ⟨hends, hrows⟩ := @ih ⟨downloads, files⟩ rfl hrest hnodup.2 imported' skipped'
      refine ⟨hends.trans ?_, ?_⟩
      · refine Iff.trans ?_ (and_iff_right hpasses).symm
        refine forall₂_congr fun entry hentry => ?_
        rcases hstep with ⟨-, rfl⟩ | ⟨-, id, hupsert⟩
        · rfl
        · exact passes_upsert htaken (hrest entry hentry).2 (hne hentry) hupsert
      · intro t counts h
        obtain ⟨hsame, hupserted⟩ := hrows t counts h
        refine ⟨hsame, ?_⟩
        rcases hstep with ⟨hwrites, rfl⟩ | ⟨hwrites, id, hupsert⟩
        · have hkeys : {other | other ∈ path :: rest.map Prod.snd ∧ (outcomes other).writes = true} =
              {other | other ∈ rest.map Prod.snd ∧ (outcomes other).writes = true} := by
            ext other
            refine and_congr_left fun hother => ?_
            rw [List.mem_cons, or_iff_right]
            rintro rfl
            rw [hwrites] at hother
            cases hother
          rw [List.map_cons, hkeys]
          exact hupserted
        · have hkeys : {other | other ∈ path :: rest.map Prod.snd ∧ (outcomes other).writes = true} =
              insert path {other | other ∈ rest.map Prod.snd ∧ (outcomes other).writes = true} := by
            ext other
            rw [Set.mem_insert_iff, Set.mem_ofPred_eq, Set.mem_ofPred_eq, List.mem_cons, or_and_right]
            refine or_congr_left (and_iff_left_of_imp ?_)
            rintro rfl
            exact hwrites
          rw [List.map_cons, hkeys]
          refine hupserted.cons ?_ (recorded_write files outcomes command path path)
            (recorded_newRow files outcomes command path) hupsert
          rintro other ⟨hother, -⟩ row hrow hrow'
          obtain ⟨entry, hentry, rfl⟩ := List.mem_map.1 hother
          exact hne hentry (recorded_distinct htaken (hrest entry hentry).2 hrow hrow')
    · rw [heq]
      refine ⟨iff_of_false ?_ fun h => hno h.1, ?_⟩
      · rintro ⟨t, counts, h⟩
        cases (Prod.mk.inj h).2
      · intro t counts h
        cases (Prod.mk.inj h).2

theorem mem_map_imports {files : Table Path (List UInt8)} (hrecursive : command.recursive = false) :
    path ∈ (command.imports files).map Prod.snd ↔ command.Taken files path := by
  rw [List.mem_map]
  constructor
  · rintro ⟨⟨dir, path⟩, hmem, rfl⟩
    exact ((mem_imports hrecursive).1 hmem).2
  · exact fun h => ⟨(path.parent, path), (mem_imports hrecursive).2 ⟨rfl, h⟩, rfl⟩

/-- The command ends where no import of a file ends it, and has then written the rows of its files. -/
theorem handle_spec (hrecursive : command.recursive = false) (outcomes : Path → ImportOutcome) (s : UploadStore) :
    ((∃ t counts, command.handle outcomes s = (t, .ok counts)) ↔ command.Ends outcomes s) ∧
    ∀ t counts, command.handle outcomes s = (t, .ok counts) →
      Upserted (command.recorded s.files) (command.write s.files outcomes) (command.written s.files outcomes)
        s.downloads t.downloads := by
  have hpaths : ∀ entry ∈ command.imports s.files, entry.1 = entry.2.parent ∧ command.Taken s.files entry.2 :=
    fun entry hentry => (mem_imports hrecursive).1 hentry
  obtain ⟨hends, hrows⟩ := importFiles_spec outcomes rfl hpaths (nodup_imports hrecursive) 0 0
  have hkeys : {path | path ∈ (command.imports s.files).map Prod.snd ∧ (outcomes path).writes = true} =
      command.written s.files outcomes := by
    ext path
    exact and_congr_left fun _ => mem_map_imports hrecursive
  rw [hkeys] at hrows
  have hpasses : (∀ entry ∈ command.imports s.files, command.Passes s.files outcomes s.downloads entry.2) ↔
      ∀ path, command.Taken s.files path → command.Passes s.files outcomes s.downloads path := by
    constructor
    · exact fun h path htaken => h (path.parent, path) ((mem_imports hrecursive).2 ⟨rfl, htaken⟩)
    · exact fun h entry hentry => h entry.2 (hpaths entry hentry).2
  rw [handle]
  split
  · next hfound =>
    refine ⟨(hends.trans hpasses).trans ?_, fun t counts h => (hrows t counts h).2⟩
    constructor
    · exact fun h => ⟨hfound, fun path htaken => (h path htaken).1, fun path htaken => (h path htaken).2⟩
    · exact fun h path htaken => ⟨h.skipped path htaken, h.single path htaken⟩
  · next hmissing =>
    refine ⟨iff_of_false ?_ fun h => hmissing h.rootFound, ?_⟩
    · rintro ⟨t, counts, h⟩
      cases (Prod.mk.inj h).2
    · intro t counts h
      cases (Prod.mk.inj h).2

/-- A row that an import has written names its file. -/
theorem names_write {files : Table Path (List UInt8)} {other : Path} {row : UploadRow}
    (h : command.Names path (command.write files outcomes other row)) : other = path := by
  have hstr : other.str = path.str := Option.some.inj h.2
  rw [← Path.parse_str other, hstr, Path.parse_str]

theorem covered_iff {t : AutoTable UploadRow}
    (h : Upserted (command.recorded s.files) (command.write s.files outcomes) (command.written s.files outcomes)
      s.downloads t) :
    (∃! id, ∃ row, t.rows.lookup id = some row ∧ command.Names path row) ↔ command.Coverable outcomes s path := by
  by_cases hwritten : path ∈ command.written s.files outcomes
  · have hdistinct : ∀ other ∈ command.written s.files outcomes, ∀ row,
        command.recorded s.files path row = true → command.recorded s.files other row = true → other = path :=
      fun other hother row hrow hrow' => (recorded_distinct hwritten.1 hother.1 hrow hrow').symm
    have hholds : ∀ old, command.recorded s.files path (command.write s.files outcomes path old) = true →
        command.Names path (command.write s.files outcomes path old) := by
      intro old hrow
      rw [recorded, Bool.and_eq_true, decide_eq_true_eq] at hrow
      exact ⟨hrow.1, rfl⟩
    rw [h.existsUnique_iff hwritten hdistinct hholds fun other _ old => names_write]
    constructor
    · refine fun hall => ⟨fun _ id => ?_, fun hno => absurd hwritten hno⟩
      rintro ⟨row, hrow, hnames, hno⟩
      obtain ⟨other, hother, hrecorded⟩ := hall id row hrow hnames
      exact hno other hother hrecorded
    · intro hcoverable id row hrow hnames
      by_contra hno
      exact hcoverable.1 hwritten id ⟨row, hrow, hnames, fun other hother hrecorded =>
        hno ⟨other, hother, hrecorded⟩⟩
  · have hothers : ∀ other ∈ command.written s.files outcomes, ∀ old,
        ¬ command.Names path (command.write s.files outcomes other old) := by
      intro other hother old hnames
      obtain rfl := names_write hnames
      exact hwritten hother
    rw [h.existsUnique_kept_iff hothers]
    exact ⟨fun hone => ⟨fun hmem => absurd hmem hwritten, fun _ => hone⟩, fun hcoverable => hcoverable.2 hwritten⟩

end ImportCommand

-- What is seen of a row

/-- The row without the times at which it was seen and completed, and its date. -/
def UploadRow.shown (row : UploadRow) : UploadRow :=
  { row with uploadDate := none, lastSeenAt := 0, completedAt := none }

namespace ImportCommand
variable {command : ImportCommand} {files : Table Path (List UInt8)} {outcomes : Path → ImportOutcome} {path : Path}
  {row : UploadRow}

/-- Nothing that an import fills in has been changed. -/
structure AsImported (files : Table Path (List UInt8)) (command : ImportCommand) (path : Path) (row : UploadRow) :
    Prop where
  sourceType : row.sourceType = "manual"
  sourceName : row.sourceName = channelName path
  sourceUrl : row.sourceUrl = none
  itemId : row.itemId = some (command.itemUid files path)
  itemUrl : row.itemUrl = none
  mediaUrl : row.mediaUrl = none
  title : row.title = some path.name
  description : row.description = some "Imported from downloads directory"
  uploader : row.uploader = some "local"
  channel : row.channel = some (channelName path)
  durationSeconds : row.durationSeconds = none
  filePath : row.filePath = some path.str
  filePathRelative : row.filePathRelative = some (command.relativePath path)
  fileExt : row.fileExt = some (String.ofList ((lower path.suffix).toList.dropWhile fun c => c = '.'))
  fileSizeBytes : row.fileSizeBytes = some ((contentOf files path).length : Int)
  subtitlePath : row.subtitlePath = none
  subtitlePathRelative : row.subtitlePathRelative = none
  downloadStatus : row.downloadStatus = "downloaded"
  profanityStatus : row.profanityStatus = "clean"
  isCensored : row.isCensored = false
  censoredSegments : row.censoredSegments = .array []
  rawMetadataJson : row.rawMetadataJson =
    some ("\x7b\"ingest_method\": \"downloads-directory\", \"relative_path\": " ++
      jsonString (command.relativePath path) ++ "\x7d")

theorem shown_write_iff (files : Table Path (List UInt8)) (outcomes : Path → ImportOutcome)
    (command : ImportCommand) (path : Path) (row : UploadRow) :
    (command.write files outcomes path row).shown = row.shown ↔ command.AsImported files path row := by
  constructor
  · intro h
    have field {τ : Type} (f : UploadRow → τ) : f row.shown = f (command.write files outcomes path row).shown :=
      (congrArg f h).symm
    exact {
      sourceType := field (·.sourceType)
      sourceName := field (·.sourceName)
      sourceUrl := field (·.sourceUrl)
      itemId := field (·.itemId)
      itemUrl := field (·.itemUrl)
      mediaUrl := field (·.mediaUrl)
      title := field (·.title)
      description := field (·.description)
      uploader := field (·.uploader)
      channel := field (·.channel)
      durationSeconds := field (·.durationSeconds)
      filePath := field (·.filePath)
      filePathRelative := field (·.filePathRelative)
      fileExt := field (·.fileExt)
      fileSizeBytes := field (·.fileSizeBytes)
      subtitlePath := field (·.subtitlePath)
      subtitlePathRelative := field (·.subtitlePathRelative)
      downloadStatus := field (·.downloadStatus)
      profanityStatus := field (·.profanityStatus)
      isCensored := field (·.isCensored)
      censoredSegments := field (·.censoredSegments)
      rawMetadataJson := field (·.rawMetadataJson) }
  · intro h
    simp only [UploadRow.shown, write, UploadRow.imported,
      h.sourceType, h.sourceName, h.sourceUrl, h.itemId, h.itemUrl, h.mediaUrl, h.title, h.description,
      h.uploader, h.channel, h.durationSeconds, h.filePath, h.filePathRelative, h.fileExt, h.fileSizeBytes,
      h.subtitlePath, h.subtitlePathRelative, h.downloadStatus, h.profanityStatus, h.isCensored,
      h.censoredSegments, h.rawMetadataJson]
    rfl

/-- The command ends, and every importable file has exactly one row of the profile that names it. -/
def Covers (outcomes : Path → ImportOutcome) (command : ImportCommand) (s : UploadStore) : Prop :=
  ∃ t counts, command.handle outcomes s = (t, .ok counts) ∧ ∀ path, command.Required s.files path →
    ∃! id, ∃ row, t.downloads.rows.lookup id = some row ∧ command.Names path row

/-- The command ends, and all that is seen of a row is as it was. -/
def ChangesNothing (outcomes : Path → ImportOutcome) (command : ImportCommand) (s : UploadStore) : Prop :=
  ∃ t counts, command.handle outcomes s = (t, .ok counts) ∧ ∀ id row, s.downloads.rows.lookup id = some row →
    ∃ row', t.downloads.rows.lookup id = some row' ∧ row'.shown = row.shown

theorem covers_iff (hrecursive : command.recursive = false) (outcomes : Path → ImportOutcome) (s : UploadStore) :
    command.Covers outcomes s ↔ command.Ends outcomes s ∧
      ∀ path, command.Required s.files path → command.Coverable outcomes s path := by
  obtain ⟨hends, hrows⟩ := handle_spec hrecursive outcomes s
  constructor
  · rintro ⟨t, counts, h, hall⟩
    exact ⟨hends.1 ⟨t, counts, h⟩, fun path hpath => (covered_iff (hrows t counts h)).1 (hall path hpath)⟩
  · rintro ⟨hend, hall⟩
    obtain ⟨t, counts, h⟩ := hends.2 hend
    exact ⟨t, counts, h, fun path hpath => (covered_iff (hrows t counts h)).2 (hall path hpath)⟩

theorem changesNothing_iff (hrecursive : command.recursive = false) (outcomes : Path → ImportOutcome)
    (s : UploadStore) :
    command.ChangesNothing outcomes s ↔ command.Ends outcomes s ∧
      ∀ path ∈ command.written s.files outcomes, ∀ id row, s.downloads.rows.lookup id = some row →
        command.recorded s.files path row = true → command.AsImported s.files path row := by
  obtain ⟨hends, hrows⟩ := handle_spec hrecursive outcomes s
  have hsame (t : UploadStore) (counts : Nat × Nat) (h : command.handle outcomes s = (t, .ok counts)) :=
    (hrows t counts h).same_iff UploadRow.shown
  simp only [shown_write_iff] at hsame
  constructor
  · rintro ⟨t, counts, h, hall⟩
    exact ⟨hends.1 ⟨t, counts, h⟩, (hsame t counts h).1 hall⟩
  · rintro ⟨hend, hall⟩
    obtain ⟨t, counts, h⟩ := hends.2 hend
    exact ⟨t, counts, h, (hsame t counts h).2 hall⟩

end ImportCommand

/-- Without `--recursive`: the command gives every importable file its row, and again, whatever has been done to
the rows in between, changes nothing that is seen of them, exactly if neither call is ended by the import of a
file, every importable file is taken and named by no row under another uid, or else named by one row already, and
the rows under the uids of the files are still as an import leaves them. -/
theorem directory_import_iff (command : ImportCommand) (hrecursive : command.recursive = false)
    (first again : Path → ImportOutcome) (s : UploadStore) (edited : AutoTable UploadRow) :
    command.Covers first s ∧ command.ChangesNothing again ⟨edited, s.files⟩ ↔
      (command.Ends first s ∧ ∀ path, command.Required s.files path → command.Coverable first s path) ∧
        command.Ends again ⟨edited, s.files⟩ ∧
          ∀ path ∈ command.written s.files again, ∀ id row, edited.rows.lookup id = some row →
            command.recorded s.files path row = true → command.AsImported s.files path row :=
  and_congr (ImportCommand.covers_iff hrecursive first s)
    (ImportCommand.changesNothing_iff hrecursive again ⟨edited, s.files⟩)

def annaImport : ImportCommand where
  rootFound := true
  downloadsRoot := Path.parse "/downloads"
  profileOption := "anna"
  recursive := false
  generateTranscripts := false

def fineImport : ImportOutcome where
  hashed := .ok ()
  now := 0
  saving := .done
  queued := .ok ()

/-- The one row of the song, edited. -/
def songRow (edit : UploadRow → UploadRow) : AutoTable UploadRow :=
  let files := (songStore [104]).files
  AutoTable.empty.insert (edit (annaImport.write files (fun _ => fineImport) songImport.path
    (annaImport.newRow files (fun _ => fineImport) songImport.path)))

theorem song_only {path : Path} (h : ((songStore [104]).files.lookup path).isSome = true) :
    path = songImport.path := by
  have hfiles : (songStore [104]).files.lookup path = if path = songImport.path then some [104] else none :=
    Table.lookup_insert_apply _ _ _ _
  by_contra hne
  rw [hfiles, if_neg hne] at h
  cases h

theorem song_taken : annaImport.Taken (songStore [104]).files songImport.path := by
  have hnested : ImportCommand.containsMediaFiles (songStore [104]).files annaImport.downloadsRoot = false := by
    decide +kernel
  refine ⟨by decide +kernel, by decide +kernel, ?_⟩
  rw [hnested]
  decide +kernel

theorem songRow_lookup {edit : UploadRow → UploadRow} {id : Nat} {row : UploadRow}
    (h : (songRow edit).rows.lookup id = some row) :
    id = 0 ∧ row = edit (annaImport.write (songStore [104]).files (fun _ => fineImport) songImport.path
      (annaImport.newRow (songStore [104]).files (fun _ => fineImport) songImport.path)) := by
  rw [songRow, AutoTable.lookup_insert] at h
  split at h
  · next heq => exact ⟨heq, (Option.some.inj h).symm⟩
  · cases h

theorem song_ends (edit : UploadRow → UploadRow) :
    annaImport.Ends (fun _ => fineImport) ⟨songRow edit, (songStore [104]).files⟩ where
  rootFound := rfl
  skipped := fun _ _ _ h => nomatch h
  single := by
    rintro path - - i ⟨row, hrow, -⟩ j ⟨row', hrow', -⟩
    exact (songRow_lookup hrow).1.trans (songRow_lookup hrow').1.symm

theorem song_import_ends : annaImport.Ends (fun _ => fineImport) (songStore [104]) where
  rootFound := rfl
  skipped := fun _ _ _ h => nomatch h
  single := by
    rintro path - - i ⟨row, hrow, -⟩
    cases hrow

/-- The song is imported, played, and imported again. -/
theorem played_song_stays :
    annaImport.Covers (fun _ => fineImport) (songStore [104]) ∧
      annaImport.ChangesNothing (fun _ => fineImport)
        ⟨songRow fun row => { row with played := true }, (songStore [104]).files⟩ := by
  refine (directory_import_iff annaImport rfl (fun _ => fineImport) (fun _ => fineImport) (songStore [104]) _).2
    ⟨⟨song_import_ends, ?_⟩, song_ends _, ?_⟩
  · rintro path ⟨hfile, -, -⟩
    obtain rfl := song_only hfile
    refine ⟨?_, fun hno => absurd ⟨song_taken, rfl⟩ hno⟩
    rintro - id ⟨row, hrow, -⟩
    cases hrow
  · rintro path ⟨htaken, -⟩ id row hrow -
    obtain rfl := song_only htaken.1
    obtain ⟨-, rfl⟩ := songRow_lookup hrow
    exact (ImportCommand.shown_write_iff _ (fun _ => fineImport) annaImport songImport.path _).1 rfl

/-- The song is imported, gets its subtitles, and is imported again: the subtitles are gone. -/
theorem subtitles_lost : ¬ ∀ (command : ImportCommand) (s : UploadStore) (edited : AutoTable UploadRow),
    command.recursive = false → command.Ends (fun _ => fineImport) s →
      command.Ends (fun _ => fineImport) ⟨edited, s.files⟩ →
        command.Covers (fun _ => fineImport) s ∧
          command.ChangesNothing (fun _ => fineImport) ⟨edited, s.files⟩ := by
  intro h
  obtain ⟨-, hnothing⟩ := h annaImport (songStore [104])
    (songRow fun row => { row with subtitlePath := some "/downloads/Anna/a.srt" }) rfl song_import_ends (song_ends _)
  have hall := ((ImportCommand.changesNothing_iff rfl _ _).1 hnothing).2 songImport.path ⟨song_taken, rfl⟩
  have hsubtitle := (hall 0 _ rfl
    (ImportCommand.recorded_newRow _ (fun _ => fineImport) annaImport songImport.path)).subtitlePath
  cases hsubtitle

end GetOffline
