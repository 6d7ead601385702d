import GetOffline.UploadPairs
import GetOffline.Volume

set_option autoImplicit true

namespace GetOffline
open Python Execution

-- api/services/dashboard_actions.py: `_write_manual_upload`, one system call after the other

/-- Where a call is: before its checks, at the test of a candidate, before `open`, in the loop over the
chunks, with its file closed, before `unlink`, or at its end. -/
inductive UploadPhase
  | starting
  | searching (counter : Nat)
  | opening (path : Path)
  | writing (path : Path) (number : Nat) (rest : List ChunkEvent) (writing : Writing)
  | saving (path : Path) (writing : Writing)
  | discarding (path : Path) (error : UploadError)
  | finished (result : Except UploadError (Nat × Path))

/-- The uploads of a profile that are under way, with the table and the files that they share. -/
structure UploadRace where
  downloads : AutoTable UploadRow
  volume : Volume Path UInt8
  phases : Nat → UploadPhase

namespace Upload

def stem (upload : Upload) : String :=
  normalizeUploadStem (Path.parse upload.originalName).stem

/-- The row that `update_or_create` writes. -/
def recorded (place : UploadPlace) (path : Path) (writing : Writing) (upload : Upload) : UploadRow → UploadRow :=
  UploadRow.uploaded place upload.now upload.originalName upload.suffix
    (manualItemUid place writing.hashed writing.bytesWritten) path writing.bytesWritten

def newRow (place : UploadPlace) (writing : Writing) (upload : Upload) : UploadRow where
  profileId := place.profileId
  itemUid := some (manualItemUid place writing.hashed writing.bytesWritten)
  sourceType := "manual"
  sourceName := "Manual Uploads"
  firstSeenAt := upload.now
  lastSeenAt := upload.now

end Upload

namespace UploadRace

def setPhase (call : Nat) (phase : UploadPhase) (s : UploadRace) : UploadRace :=
  { s with phases := Function.update s.phases call phase }

/-- The next step of a call. -/
def advance (place : UploadPlace) (uploads : Nat → Upload) (s : UploadRace) (call : Nat) : Option UploadRace :=
  let upload := uploads call
  match s.phases call with
  | .starting =>
    if upload.originalName = "" then
      some (s.setPhase call (.finished (.error (.valueError "Missing filename"))))
    else if upload.suffix ∉ mediaUploadExtensions then
      some (s.setPhase call (.finished (.error (.valueError "Unsupported media type"))))
    else
      match upload.opened with
      | .error error => some (s.setPhase call (.finished (.error error)))
      | .ok () => some (s.setPhase call (.searching 0))
  | .searching counter =>
    let path := place.candidate upload.stem upload.suffix counter
    if (s.volume.names.lookup path).isSome then some (s.setPhase call (.searching (counter + 1)))
    else some (s.setPhase call (.opening path))
  | .opening path =>
    let opened := s.volume.openTruncated path
    some { s.setPhase call (.writing path opened.2 upload.chunks {}) with volume := opened.1 }
  | .writing path _ [] writing => some (s.setPhase call (.saving path writing))
  | .writing path number (.chunk bytes :: rest) writing =>
    let written : Writing :=
      { file := writing.file ++ bytes
        hashed := writing.hashed ++ bytes
        bytesWritten := writing.bytesWritten + bytes.length }
    some { s.setPhase call (.writing path number rest written) with
      volume := s.volume.write 0 number writing.file.length bytes }
  | .writing _ _ (.chunksRaise error :: _) _ => some (s.setPhase call (.finished (.error error)))
  | .writing _ number (.writeRaises bytes error :: _) writing =>
    some { s.setPhase call (.finished (.error error)) with
      volume := s.volume.write 0 number writing.file.length bytes }
  | .saving path writing =>
    if writing.bytesWritten = 0 then
      some (s.setPhase call (.discarding path (.valueError "Empty file payload")))
    else
      let update := upload.recorded place path writing
      match saveUpload upload.saving
          (UploadRow.isUpload place.profileId (manualItemUid place writing.hashed writing.bytesWritten))
          (update (upload.newRow place writing)) update s.downloads with
      | (downloads, .ok id) => some { s.setPhase call (.finished (.ok (id, path))) with downloads }
      | (downloads, .error (.raised .databaseError)) =>
        some { s.setPhase call (.discarding path (.raised .databaseError)) with downloads }
      | (downloads, .error error) => some { s.setPhase call (.finished (.error error)) with downloads }
  | .discarding path error =>
    some { s.setPhase call (.finished (.error error)) with volume := s.volume.unlink path }
  | .finished _ => none

/-- The name that a call is about to open is still free; and a row with the identity of a call's bytes that
another call has got is for the same bytes, and is not saved with a database error after the commit. -/
def Fine (place : UploadPlace) (uploads : Nat → Upload) (s : UploadRace) (call : Nat) : Prop :=
  match s.phases call with
  | .opening path => s.volume.names.lookup path = none
  | .saving _ writing => ∀ other id path row, s.phases other = .finished (.ok (id, path)) →
      s.downloads.rows.lookup id = some row →
      UploadRow.isUpload place.profileId (manualItemUid place writing.hashed writing.bytesWritten) id row = true →
        (uploads other).content? = some writing.hashed ∧
          (uploads call).saving ≠ .failed (.raised .databaseError) true
  | _ => True

/-- The path of the file that a call has made and not left yet. -/
def held : UploadPhase → Option Path
  | .writing path _ _ _ | .saving path _ | .discarding path _ => some path
  | _ => none

/-- What the loop over the chunks has done when these turns are left. -/
structure Progress (chunks rest : List ChunkEvent) (writing : Writing) : Prop where
  done : ∃ done, chunks = done ++ rest ∧ chunkBytes done = some writing.file
  hashed : writing.hashed = writing.file
  counted : writing.bytesWritten = writing.file.length

section
variable (place : UploadPlace) (uploads : Nat → Upload)

/-- The row of a call, and the file that it names. -/
structure OwnRow (downloads : AutoTable UploadRow) (volume : Volume Path UInt8) (call id : Nat)
    (content : List UInt8) (file : Path) (row : UploadRow) : Prop where
  stored : downloads.rows.lookup id = some row
  named : row.filePath = some file.str
  read : volume.read file = some content
  sent : (uploads call).content? = some content
  identified : UploadRow.isUpload place.profileId (manualItemUid place content content.length) id row = true

/-- What a call has in the table and among the files, by its phase. -/
def Own (downloads : AutoTable UploadRow) (volume : Volume Path UInt8) (call : Nat) : UploadPhase → Prop
  | .writing path number rest writing =>
    volume.Sole path number ∧ volume.contents number = writing.file ∧ Progress (uploads call).chunks rest writing
  | .saving path writing => volume.read path = some writing.file ∧ Progress (uploads call).chunks [] writing
  | .discarding path _ => (volume.read path).isSome = true
  | .finished (.ok (id, _)) => ∃ content file row, OwnRow place uploads downloads volume call id content file row
  | _ => True

/-- What the other calls have, while a call holds a path. -/
structure Others (call : Nat) (path : Option Path) (s : UploadRace) : Prop where
  own : ∀ other, other ≠ call → Own place uploads s.downloads s.volume other (s.phases other)
  apart : ∀ other, other ≠ call → ∀ file, held (s.phases other) = some file → path ≠ some file
  alone : ∀ other third, other ≠ call → third ≠ call → ∀ file, held (s.phases other) = some file →
    held (s.phases third) = some file → other = third
  safe : ∀ other id made row file, other ≠ call → s.phases other = .finished (.ok (id, made)) →
    s.downloads.rows.lookup id = some row → row.filePath = some file.str →
      path ≠ some file ∧ ∀ third, third ≠ call → held (s.phases third) ≠ some file

/-- The files and the row of every call are its own. -/
structure Separate (s : UploadRace) : Prop where
  own : ∀ call, Own place uploads s.downloads s.volume call (s.phases call)
  alone : ∀ call other file, held (s.phases call) = some file → held (s.phases other) = some file → call = other
  safe : ∀ call id made row file, s.phases call = .finished (.ok (id, made)) →
    s.downloads.rows.lookup id = some row → row.filePath = some file.str → ∀ other, held (s.phases other) ≠ some file

end

section
variable {place : UploadPlace} {uploads : Nat → Upload} {s t : UploadRace} {call : Nat} {path : Path}
  {phase : UploadPhase} {downloads : AutoTable UploadRow}

theorem phases_setPhase (call : Nat) (phase : UploadPhase) (s : UploadRace) (other : Nat) :
    (s.setPhase call phase).phases other = if other = call then phase else s.phases other :=
  Function.update_apply s.phases call phase other

theorem Separate.others (h : s.Separate place uploads) (call : Nat) :
    s.Others place uploads call (held (s.phases call)) where
  own other _ := h.own other
  apart other hne file hfile hheld := hne (h.alone other call file hfile hheld)
  alone other third _ _ file := h.alone other third file
  safe other id made row file _ hphase hrow hfile :=
    ⟨h.safe other id made row file hphase hrow hfile call, fun third _ => h.safe other id made row file hphase hrow hfile third⟩

/-- A call takes its next phase. -/
theorem Others.separate (phase : UploadPhase) (h : s.Others place uploads call (held phase))
    (hown : Own place uploads s.downloads s.volume call phase)
    (hsafe : ∀ id made row file, phase = .finished (.ok (id, made)) → s.downloads.rows.lookup id = some row →
      row.filePath = some file.str → ∀ other, other ≠ call → held (s.phases other) ≠ some file) :
    (s.setPhase call phase).Separate place uploads := by
  have hself : (s.setPhase call phase).phases call = phase := by
    rw [phases_setPhase, if_pos rfl]
  have hother {other : Nat} (hne : other ≠ call) : (s.setPhase call phase).phases other = s.phases other := by
    rw [phases_setPhase, if_neg hne]
  constructor
  · intro other
    by_cases hne : other = call
    · subst hne
      rw [hself]
      exact hown
    · rw [hother hne]
      exact h.own other hne
  · intro other third file hfile hfile'
    by_cases hne : other = call
    · by_cases hne' : third = call
      · exact hne.trans hne'.symm
      · rw [hne, hself] at hfile
        rw [hother hne'] at hfile'
        exact absurd hfile (h.apart third hne' file hfile')
    · by_cases hne' : third = call
      · rw [hne', hself] at hfile'
        rw [hother hne] at hfile
        exact absurd hfile' (h.apart other hne file hfile)
      · rw [hother hne] at hfile
        rw [hother hne'] at hfile'
        exact h.alone other third hne hne' file hfile hfile'
  · intro other id made row file hphase hrow hfile third
    by_cases hne : other = call
    · rw [hne, hself] at hphase
      by_cases hne' : third = call
      · rw [hne', hself, hphase]
        rintro ⟨⟩
      · rw [hother hne']
        exact hsafe id made row file hphase hrow hfile third hne'
    · rw [hother hne] at hphase
      obtain ⟨hpath, hthird⟩ := h.safe other id made row file hne hphase hrow hfile
      by_cases hne' : third = call
      · rw [hne', hself]
        exact hpath
      · rw [hother hne']
        exact hthird third hne'

/-- A call that holds no path any more. -/
theorem Others.leave (h : s.Others place uploads call made) : s.Others place uploads call none where
  own := h.own
  apart _ _ _ _ := nofun
  alone := h.alone
  safe other id file row path hne hphase hrow hfile :=
    ⟨nofun, (h.safe other id file row path hne hphase hrow hfile).2⟩

/-- A file of another call is there to be read. -/
theorem Others.read (h : s.Others place uploads call made) (hne : other ≠ call)
    (hheld : held (s.phases other) = some file) : (s.volume.read file).isSome = true := by
  have hown := h.own other hne
  cases hphase : s.phases other with
  | writing path number rest writing =>
    rw [hphase] at hheld hown
    obtain rfl := Option.some.inj hheld
    rw [hown.1.read]
    rfl
  | saving path writing =>
    rw [hphase] at hheld hown
    obtain rfl := Option.some.inj hheld
    rw [hown.1]
    rfl
  | discarding path error =>
    rw [hphase] at hheld hown
    obtain rfl := Option.some.inj hheld
    exact hown
  | starting | searching | opening | finished =>
    rw [hphase] at hheld
    cases hheld

/-- A name that is free is no other call's. -/
theorem Others.claim (h : s.Others place uploads call none) (hfree : s.volume.names.lookup path = none) :
    s.Others place uploads call (some path) where
  own := h.own
  apart other hne file hheld := by
    rintro ⟨⟩
    have hread := h.read hne hheld
    rw [Volume.read_eq_none.2 hfree] at hread
    cases hread
  alone := h.alone
  safe other id made row file hne hphase hrow hfile := by
    refine ⟨?_, (h.safe other id made row file hne hphase hrow hfile).2⟩
    rintro ⟨⟩
    have hown := h.own other hne
    rw [hphase] at hown
    obtain ⟨content, own, row', hown⟩ := hown
    rw [hown.stored] at hrow
    obtain rfl := Option.some.inj hrow
    rw [hown.named] at hfile
    obtain rfl := UploadStore.str_injective (Option.some.inj hfile)
    have hread := hown.read
    rw [Volume.read_eq_none.2 hfree] at hread
    cases hread

/-- What happens to the file of one call leaves those of the others. -/
theorem Others.touch (volume : Volume Path UInt8) (h : s.Others place uploads call (some path))
    (hread : ∀ file, file ≠ path → volume.read file = s.volume.read file)
    (hsole : ∀ file number, file ≠ path → s.volume.Sole file number →
      volume.Sole file number ∧ volume.contents number = s.volume.contents number) :
    Others place uploads call (some path) { s with volume } where
  own other hne := by
    have hown := h.own other hne
    dsimp only
    cases hphase : s.phases other with
    | writing file number rest writing =>
      rw [hphase] at hown
      have hfile : file ≠ path := fun heq => h.apart other hne file (by rw [hphase]; rfl) (congrArg some heq.symm)
      obtain ⟨hsole', hcontents⟩ := hsole file number hfile hown.1
      exact ⟨hsole', hcontents.trans hown.2.1, hown.2.2⟩
    | saving file writing =>
      rw [hphase] at hown
      have hfile : file ≠ path := fun heq => h.apart other hne file (by rw [hphase]; rfl) (congrArg some heq.symm)
      exact ⟨(hread file hfile).trans hown.1, hown.2⟩
    | discarding file error =>
      rw [hphase] at hown
      have hfile : file ≠ path := fun heq => h.apart other hne file (by rw [hphase]; rfl) (congrArg some heq.symm)
      exact (congrArg Option.isSome (hread file hfile)).trans hown
    | finished result =>
      rw [hphase] at hown
      cases result with
      | error error => trivial
      | ok answer =>
        obtain ⟨content, file, row, hown⟩ := hown
        have hfile : file ≠ path := by
          rintro rfl
          exact (h.safe other answer.1 answer.2 row file hne hphase hown.stored hown.named).1 rfl
        exact ⟨content, file, row, hown.stored, hown.named, (hread file hfile).trans hown.read, hown.sent,
          hown.identified⟩
    | starting | searching | opening => trivial
  apart := h.apart
  alone := h.alone
  safe := h.safe

theorem recorded_filePath (upload : Upload) (writing : Writing) (row : UploadRow) :
    (upload.recorded place path writing row).filePath = some path.str := rfl

/-- The row that a save has written is the one that it was told to write, under a new id or that of the row
with the same identity. -/
structure Saves (place : UploadPlace) (upload : Upload) (path : Path) (writing : Writing)
    (before after : AutoTable UploadRow) (id : Nat) : Prop where
  rows : ∃ row, (∀ i, after.rows.lookup i = if i = id then some row else before.rows.lookup i) ∧
    row.filePath = some path.str ∧
    UploadRow.isUpload place.profileId (manualItemUid place writing.hashed writing.bytesWritten) id row = true
  found : ∀ old, before.rows.lookup id = some old →
    UploadRow.isUpload place.profileId (manualItemUid place writing.hashed writing.bytesWritten) id old = true

/-- What `update_or_create` can come to. -/
theorem saveUpload_cases (place : UploadPlace) (upload : Upload) (path : Path) (writing : Writing)
    (before : AutoTable UploadRow) :
    let saved := saveUpload upload.saving
      (UploadRow.isUpload place.profileId (manualItemUid place writing.hashed writing.bytesWritten))
      (upload.recorded place path writing (upload.newRow place writing)) (upload.recorded place path writing) before
    (∃ error, saved = (before, .error error)) ∨
      ∃ after id, Saves place upload path writing before after id ∧
        (saved = (after, .ok id) ∨ ∃ error, upload.saving = .failed error true ∧ saved = (after, .error error)) := by
  intro saved
  by_cases hlate : ∀ error, upload.saving ≠ .failed error false
  · cases hrow : updateOrCreateRow
        (UploadRow.isUpload place.profileId (manualItemUid place writing.hashed writing.bytesWritten))
        (upload.recorded place path writing (upload.newRow place writing)) (upload.recorded place path writing)
        before with
    | error error => exact .inl ⟨_, saveUpload_error hlate hrow⟩
    | ok written =>
      obtain ⟨id, after⟩ := written
      have hsaves : Saves place upload path writing before after id := by
        obtain ⟨row, hrows, ⟨rfl, hnone, -⟩ | ⟨old, rfl, hold, hkeys⟩⟩ := updateOrCreateRow_spec hrow
        · refine ⟨⟨_, hrows, rfl, ?_⟩, ?_⟩
          · rw [UploadRow.isUpload, Bool.and_eq_true, decide_eq_true_eq, decide_eq_true_eq]
            exact ⟨rfl, rfl⟩
          · intro old hold
            rw [hnone] at hold
            cases hold
        · obtain ⟨found, hfound, hidentity⟩ := (hkeys id).2 rfl
          rw [hold] at hfound
          obtain rfl := Option.some.inj hfound
          refine ⟨⟨_, hrows, rfl, hidentity⟩, ?_⟩
          · intro other hother
            rw [hold] at hother
            obtain rfl := Option.some.inj hother
            exact hidentity
      rcases saveUpload_ok hlate hrow with ⟨-, hsaved⟩ | ⟨error, hfailed, hsaved⟩
      · exact .inr ⟨after, id, hsaves, .inl hsaved⟩
      · exact .inr ⟨after, id, hsaves, .inr ⟨error, hfailed, hsaved⟩⟩
  · rw [not_forall] at hlate
    obtain ⟨error, herror⟩ := hlate
    refine .inl ⟨error, ?_⟩
    change saveUpload upload.saving _ _ _ _ = _
    rw [not_not.1 herror, saveUpload]

/-- A save whose row no other call has got leaves the other calls' rows. -/
theorem Others.save_new {upload : Upload} {writing : Writing} {id : Nat} (h : s.Others place uploads call made)
    (hsaves : Saves place upload path writing s.downloads downloads id)
    (hnew : ∀ other file row, other ≠ call → s.phases other = .finished (.ok (id, file)) →
      s.downloads.rows.lookup id = some row →
      UploadRow.isUpload place.profileId (manualItemUid place writing.hashed writing.bytesWritten) id row ≠ true) :
    Others place uploads call made { s with downloads } := by
  obtain ⟨⟨new, hrows, -, -⟩, hfound⟩ := hsaves
  have hother (other own : Nat) (file : Path) (hne : other ≠ call) (hphase : s.phases other = .finished (.ok (own, file))) :
      own ≠ id := by
    rintro rfl
    have hown := h.own other hne
    rw [hphase] at hown
    obtain ⟨content, own, row, hown⟩ := hown
    exact hnew other file row hne hphase hown.stored (hfound row hown.stored)
  refine ⟨?_, h.apart, h.alone, ?_⟩
  · intro other hne
    have hown := h.own other hne
    dsimp only
    cases hphase : s.phases other with
    | finished result =>
      rw [hphase] at hown
      cases result with
      | error error => trivial
      | ok answer =>
        obtain ⟨content, file, row, hown⟩ := hown
        refine ⟨content, file, row, ?_, hown.named, hown.read, hown.sent, hown.identified⟩
        rw [hrows, if_neg (hother other answer.1 answer.2 hne hphase), hown.stored]
    | writing | saving | discarding => rwa [hphase] at hown
    | starting | searching | opening => trivial
  · intro other own made row file hne hphase hrow hfile
    dsimp only at hrow
    rw [hrows, if_neg (hother other own made hne hphase)] at hrow
    exact h.safe other own made row file hne hphase hrow hfile

/-- A save whose row another call has got for the same bytes leaves that call a row with these bytes. -/
theorem Others.save_same {upload : Upload} {writing : Writing} {id : Nat}
    (h : s.Others place uploads call (some path)) (hread : s.volume.read path = some writing.hashed)
    (hcount : writing.bytesWritten = writing.hashed.length)
    (hsaves : Saves place upload path writing s.downloads downloads id)
    (hsame : ∀ other file row, other ≠ call → s.phases other = .finished (.ok (id, file)) →
      s.downloads.rows.lookup id = some row →
      UploadRow.isUpload place.profileId (manualItemUid place writing.hashed writing.bytesWritten) id row = true →
        (uploads other).content? = some writing.hashed) :
    Others place uploads call none { s with downloads } := by
  obtain ⟨⟨new, hrows, hfile, hidentity⟩, hfound⟩ := hsaves
  refine ⟨?_, fun _ _ _ _ => nofun, h.alone, ?_⟩
  · intro other hne
    have hown := h.own other hne
    dsimp only
    cases hphase : s.phases other with
    | finished result =>
      rw [hphase] at hown
      cases result with
      | error error => trivial
      | ok answer =>
        obtain ⟨content, file, row, hown⟩ := hown
        by_cases hid : answer.1 = id
        · have hsent := hsame other answer.2 row hne (by rw [hphase, ← hid]) (by rw [← hid, hown.stored])
            (hfound row (by rw [← hid, hown.stored]))
          refine ⟨writing.hashed, path, new, ?_, hfile, hread, hsent, ?_⟩
          · rw [hrows, if_pos hid]
          · rw [hid, ← hcount]
            exact hidentity
        · refine ⟨content, file, row, ?_, hown.named, hown.read, hown.sent, hown.identified⟩
          rw [hrows, if_neg hid, hown.stored]
    | writing | saving | discarding => rwa [hphase] at hown
    | starting | searching | opening => trivial
  · intro other own made row file hne hphase hrow hnamed
    refine ⟨nofun, ?_⟩
    dsimp only at hrow
    rw [hrows] at hrow
    split at hrow
    · obtain rfl := Option.some.inj hrow
      rw [hfile] at hnamed
      obtain rfl := UploadStore.str_injective (Option.some.inj hnamed)
      exact fun third hthird hheld => h.apart third hthird path hheld rfl
    · exact (h.safe other own made row file hne hphase hrow hnamed).2

theorem chunkBytes_concat {done : List ChunkEvent} {content bytes : List UInt8} (h : chunkBytes done = some content) :
    chunkBytes (done ++ [.chunk bytes]) = some (content ++ bytes) := by
  induction done generalizing content with
  | nil =>
    obtain rfl : [] = content := Option.some.inj h
    rw [List.nil_append, chunkBytes_cons, ChunkEvent.bytes?, Option.bind_some]
    exact congrArg some (List.append_nil bytes)
  | cons event done ih =>
    rw [chunkBytes_cons, Option.bind_eq_some_iff] at h
    obtain ⟨first, hfirst, h⟩ := h
    obtain ⟨rest, hrest, rfl⟩ := Option.map_eq_some_iff.1 h
    rw [List.cons_append, chunkBytes_cons, hfirst, Option.bind_some, ih hrest, Option.map_some, List.append_assoc]

theorem Progress.start (chunks : List ChunkEvent) : Progress chunks chunks {} where
  done := ⟨[], rfl, rfl⟩
  hashed := rfl
  counted := rfl

theorem Progress.chunk {chunks rest : List ChunkEvent} {bytes : List UInt8} {writing : Writing}
    (h : Progress chunks (.chunk bytes :: rest) writing) :
    Progress chunks rest
      { file := writing.file ++ bytes
        hashed := writing.hashed ++ bytes
        bytesWritten := writing.bytesWritten + bytes.length } := by
  obtain ⟨⟨done, hchunks, hdone⟩, hhashed, hcounted⟩ := h
  refine ⟨⟨done ++ [.chunk bytes], ?_, chunkBytes_concat hdone⟩, ?_, ?_⟩
  · rw [hchunks, List.append_assoc]
    rfl
  · dsimp only
    rw [hhashed]
  · dsimp only
    rw [hcounted, List.length_append]

/-- What has been sent is what has been written at the end of the loop. -/
theorem Progress.sent {upload : Upload} {writing : Writing} (h : Progress upload.chunks [] writing) :
    upload.content? = some writing.file := by
  obtain ⟨⟨done, hchunks, hdone⟩, -, -⟩ := h
  rw [Upload.content?, hchunks, List.append_nil, hdone]

/-- A phase without a file and without a row asks nothing. -/
theorem Others.idle {made : Option Path} (h : s.Others place uploads call made) (hheld : held phase = none)
    (hown : Own place uploads s.downloads s.volume call phase) (hfinished : ∀ answer, phase ≠ .finished (.ok answer)) :
    (s.setPhase call phase).Separate place uploads := by
  apply Others.separate phase
  · rw [hheld]
    exact h.leave
  · exact hown
  · rintro id made row file hphase
    exact absurd hphase (hfinished _)

/-- What a save that has written the row leaves, by how the call goes on. -/
theorem Others.saved {writing : Writing} (hothers : s.Others place uploads call (some path))
    (hown : Own place uploads s.downloads s.volume call (.saving path writing))
    (hfine : ∀ other id file row, s.phases other = .finished (.ok (id, file)) → s.downloads.rows.lookup id = some row →
      UploadRow.isUpload place.profileId (manualItemUid place writing.hashed writing.bytesWritten) id row = true →
        (uploads other).content? = some writing.hashed ∧
          (uploads call).saving ≠ .failed (.raised .databaseError) true)
    {id : Nat} (hsaves : Saves place (uploads call) path writing s.downloads downloads id) :
    (setPhase call (.finished (.ok (id, path))) { s with downloads }).Separate place uploads ∧
    (∀ error, (setPhase call (.finished (.error error)) { s with downloads }).Separate place uploads) ∧
    ((uploads call).saving = .failed (.raised .databaseError) true → ∀ error,
      (setPhase call (.discarding path error) { s with downloads }).Separate place uploads) := by
  obtain ⟨hread, hprogress⟩ := hown
  have hleft : Others place uploads call none { s with downloads } := by
    apply hothers.save_same _ _ hsaves
    · exact fun other file row _ hphase hrow hidentity => (hfine other id file row hphase hrow hidentity).1
    · rw [hprogress.hashed, hread]
    · rw [hprogress.hashed, hprogress.counted]
  refine ⟨?_, fun error => hleft.idle rfl trivial nofun, ?_⟩
  · obtain ⟨⟨new, hrows, hfile, hidentity⟩, -⟩ := hsaves
    have hstored := hrows id
    rw [if_pos rfl] at hstored
    apply Others.separate (.finished (.ok (id, path))) hleft
    · refine ⟨writing.file, path, new, hstored, hfile, hread, hprogress.sent, ?_⟩
      rw [← hprogress.counted, ← hprogress.hashed]
      exact hidentity
    · intro own made row file hphase hrow hnamed other hne hheld
      cases hphase
      rw [hstored] at hrow
      obtain rfl := Option.some.inj hrow
      rw [hfile] at hnamed
      obtain rfl := UploadStore.str_injective (Option.some.inj hnamed)
      exact hothers.apart other hne path hheld rfl
  · intro hfailed error
    have hkept : Others place uploads call (some path) { s with downloads } := by
      apply hothers.save_new hsaves
      intro other file row _ hphase hrow hidentity
      exact (hfine other id file row hphase hrow hidentity).2 hfailed
    apply Others.separate (.discarding path error) hkept
    · rw [Own, hread]
      rfl
    · exact fun _ _ _ _ h => nomatch h

/-- A fine step keeps what the calls have apart. -/
theorem Separate.advance (h : s.Separate place uploads) (hfine : Fine place uploads s call)
    (hstep : advance place uploads s call = some t) : t.Separate place uploads := by
  have hothers := h.others call
  have hown := h.own call
  dsimp only [UploadRace.advance] at hstep
  rw [Fine] at hfine
  cases hphase : s.phases call with
  | starting =>
    rw [hphase] at hstep
    dsimp only at hstep
    split at hstep
    · obtain rfl := Option.some.inj hstep
      exact hothers.idle rfl trivial nofun
    · split at hstep
      · obtain rfl := Option.some.inj hstep
        exact hothers.idle rfl trivial nofun
      · split at hstep
        · obtain rfl := Option.some.inj hstep
          exact hothers.idle rfl trivial nofun
        · obtain rfl := Option.some.inj hstep
          exact hothers.idle rfl trivial nofun
  | searching counter =>
    rw [hphase] at hstep
    dsimp only at hstep
    split at hstep
    · obtain rfl := Option.some.inj hstep
      exact hothers.idle rfl trivial nofun
    · obtain rfl := Option.some.inj hstep
      exact hothers.idle rfl trivial nofun
  | opening path =>
    rw [hphase] at hstep hothers hfine
    obtain rfl := Option.some.inj hstep
    obtain ⟨hsole, hempty⟩ := Volume.sole_openTruncated hfine
    have htouched := Others.touch (s.volume.openTruncated path).1 (hothers.claim hfine)
      (fun file hne => Volume.read_openTruncated_of_ne hfine hne)
      (fun file number _ hother => ⟨hother.openTruncated hfine,
        (Volume.lookup_openTruncated hfine hother.lookup).2⟩)
    generalize s.volume.openTruncated path = opened at hsole hempty htouched ⊢
    exact Others.separate (.writing path opened.2 (uploads call).chunks {}) htouched
      ⟨hsole, hempty, Progress.start _⟩ fun _ _ _ _ h => nomatch h
  | writing path number rest writing =>
    rw [hphase] at hstep hothers hown
    obtain ⟨hsole, hcontents, hprogress⟩ := hown
    have htouched (bytes : List UInt8) : Others place uploads call (some path)
        { s with volume := s.volume.write 0 number writing.file.length bytes } := by
      refine hothers.touch _ (fun file hne => Volume.read_write_of_ne hsole hne) ?_
      intro file other hne hother
      refine ⟨hother, Volume.contents_write_of_ne ?_⟩
      rintro rfl
      exact hne ((hsole file).1 hother.lookup)
    cases rest with
    | nil =>
      obtain rfl := Option.some.inj hstep
      refine Others.separate (.saving path writing) hothers ⟨?_, hprogress⟩ fun _ _ _ _ h => nomatch h
      rw [hsole.read, hcontents]
    | cons event rest =>
      cases event with
      | chunk bytes =>
        obtain rfl := Option.some.inj hstep
        refine Others.separate (.writing path number rest _) (htouched bytes)
          ⟨hsole, ?_, hprogress.chunk⟩ fun _ _ _ _ h => nomatch h
        dsimp only
        rw [← hcontents, Volume.contents_write_end]
      | chunksRaise error =>
        obtain rfl := Option.some.inj hstep
        exact hothers.idle rfl trivial nofun
      | writeRaises bytes error =>
        obtain rfl := Option.some.inj hstep
        exact (htouched bytes).idle rfl trivial nofun
  | saving path writing =>
    rw [hphase] at hstep hothers hown hfine
    have hread : (s.volume.read path).isSome = true := by
      rw [hown.1]
      rfl
    have hdiscard (error : UploadError) : (s.setPhase call (.discarding path error)).Separate place uploads :=
      Others.separate (.discarding path error) hothers hread fun _ _ _ _ h => nomatch h
    dsimp only at hstep
    split at hstep
    · obtain rfl := Option.some.inj hstep
      exact hdiscard _
    · rcases saveUpload_cases place (uploads call) path writing s.downloads with
        ⟨error, hsaved⟩ | ⟨after, id, hsaves, hsaved | ⟨error, hfailed, hsaved⟩⟩
      · rw [hsaved] at hstep
        split at hstep
        · next heq =>
          cases (Prod.mk.inj heq).2
        · next heq =>
          obtain ⟨rfl, -⟩ := Prod.mk.inj heq
          obtain rfl := Option.some.inj hstep
          exact hdiscard _
        · next heq =>
          obtain ⟨rfl, -⟩ := Prod.mk.inj heq
          obtain rfl := Option.some.inj hstep
          exact hothers.idle rfl trivial nofun
      · rw [hsaved] at hstep
        obtain rfl := Option.some.inj hstep
        exact (hothers.saved hown hfine hsaves).1
      · rw [hsaved] at hstep
        split at hstep
        · next heq =>
          cases (Prod.mk.inj heq).2
        · next heq =>
          obtain ⟨rfl, herror⟩ := Prod.mk.inj heq
          obtain rfl := Except.error.inj herror
          obtain rfl := Option.some.inj hstep
          exact (hothers.saved hown hfine hsaves).2.2 hfailed _
        · next heq =>
          obtain ⟨rfl, -⟩ := Prod.mk.inj heq
          obtain rfl := Option.some.inj hstep
          exact (hothers.saved hown hfine hsaves).2.1 _
  | discarding path error =>
    rw [hphase] at hstep hothers hown
    obtain rfl := Option.some.inj hstep
    refine (hothers.touch (s.volume.unlink path) (fun file hne => Volume.read_unlink_of_ne hne)
      fun file number hne hother => ⟨hother.unlink hne, rfl⟩).idle rfl trivial nofun
  | finished result =>
    rw [hphase] at hstep
    cases hstep

end

end UploadRace

end GetOffline
