import GetOffline.Execution
import GetOffline.TranscriptJobs

set_option autoImplicit true

namespace GetOffline
open Python

/-- The cues of a subtitle file. -/
def cuesIn (path : Path) (files : TextFiles) : List String :=
  loadSegmentsFromSubtitle path (files.lookup path)

namespace TranscriptStore

def empty : TranscriptStore := { tables := .empty, files := ∅ }

def subtitleOf (id : Nat) (s : TranscriptStore) : Option String :=
  (s.tables.downloads.rows.lookup id).bind DownloadRow.subtitlePath

/-- The cues of the file that the row names as its subtitle. -/
def currentCues (id : Nat) (s : TranscriptStore) : List String :=
  (s.subtitleOf id).elim [] fun text => cuesIn (Path.parse text) s.files

def segmentTexts (id : Nat) (s : TranscriptStore) : List String :=
  (segmentsOf id s.tables.segments).map TranscriptSegment.text

/-- The segments of the row are the cues of its current subtitle file, each once. -/
def Mirrored (id : Nat) (s : TranscriptStore) : Prop :=
  (s.segmentTexts id).Perm (s.currentCues id)

def Mirrors (s : TranscriptStore) : Prop :=
  ∀ id, s.Mirrored id

end TranscriptStore

/-- What a job does to the files: those that it unlinks, and the one that it writes where none has been. -/
structure FileWork where
  gone : Path → Bool
  written : Option (Path × String)

namespace FileWork

/-- What is under a name afterwards. -/
def after (w : FileWork) (files : TextFiles) (path : Path) : Option String :=
  if w.gone path then none
  else if w.written.map Prod.fst = some path then w.written.map Prod.snd
  else files.lookup path

/-- A file that is unlinked has no cues, nor has one that is written. -/
def Spares (w : FileWork) (files : TextFiles) (path : Path) : Prop :=
  if w.gone path then cuesIn path files = []
  else w.written.map Prod.fst = some path → loadSegmentsFromSubtitle path (w.written.map Prod.snd) = []

theorem spares_iff {w : FileWork} (habsent : ∀ path, w.written.map Prod.fst = some path →
      files.lookup path = none) (path : Path) :
    (cuesIn path files).Perm (loadSegmentsFromSubtitle path (w.after files path)) ↔
      w.Spares files path := by
  rw [after, Spares]
  split
  · rw [loadSegmentsFromSubtitle, List.perm_nil]
  · split
    · next hwritten =>
      have hnone : cuesIn path files = [] := by
        rw [cuesIn, habsent path hwritten, loadSegmentsFromSubtitle]
      rw [hnone, List.nil_perm, forall_prop_of_true hwritten]
    · next hother =>
      exact iff_of_true (List.Perm.refl _) fun hwritten => absurd hwritten hother

end FileWork

namespace TranscriptStore
variable {s s' : TranscriptStore} {id : Nat} {w : FileWork}

/-- The rows whose subtitle a job may disturb although it is not about them. -/
def Spares (rows : Nat → Prop) (w : FileWork) (s : TranscriptStore) : Prop :=
  ∀ id text, rows id → s.subtitleOf id = some text → w.Spares s.files (Path.parse text)

/-- A row that keeps its segments and its subtitle's name stays mirrored exactly if the file work spares
its subtitle. -/
theorem mirrored_iff (hm : s.Mirrored id) (hfiles : ∀ path, s'.files.lookup path = w.after s.files path)
    (habsent : ∀ path, w.written.map Prod.fst = some path → s.files.lookup path = none)
    (hsubtitle : s'.subtitleOf id = s.subtitleOf id)
    (hsegments : s'.segmentTexts id = s.segmentTexts id) :
    s'.Mirrored id ↔ ∀ text, s.subtitleOf id = some text → w.Spares s.files (Path.parse text) := by
  rw [Mirrored, currentCues] at hm ⊢
  rw [hsubtitle, hsegments]
  cases htext : s.subtitleOf id with
  | none =>
    rw [htext] at hm
    exact iff_of_true hm fun text h => nomatch h
  | some text =>
    rw [htext] at hm
    have hafter : cuesIn (Path.parse text) s'.files =
        loadSegmentsFromSubtitle (Path.parse text) (w.after s.files (Path.parse text)) := by
      rw [cuesIn, hfiles]
    have hperm : (s.segmentTexts id).Perm (cuesIn (Path.parse text) s.files) := hm
    rw [Option.elim_some, hafter]
    constructor
    · intro h text' htext'
      obtain rfl := Option.some.inj htext'
      exact (FileWork.spares_iff habsent _).1 (hperm.symm.trans h)
    · intro h
      exact hperm.trans ((FileWork.spares_iff habsent _).2 (h text rfl))

/-- The rows that a job is not about stay mirrored exactly if it spares their subtitles. -/
theorem mirrors_iff (others : Nat → Prop) (hm : s.Mirrors)
    (hfiles : ∀ path, s'.files.lookup path = w.after s.files path)
    (habsent : ∀ path, w.written.map Prod.fst = some path → s.files.lookup path = none)
    (hsame : ∀ id, others id → s'.subtitleOf id = s.subtitleOf id ∧
      s'.segmentTexts id = s.segmentTexts id) :
    s'.Mirrors ↔ (∀ id, ¬ others id → s'.Mirrored id) ∧ s.Spares others w := by
  constructor
  · intro h
    refine ⟨fun id _ => h id, ?_⟩
    intro id text hother htext
    exact (mirrored_iff (hm id) hfiles habsent (hsame id hother).1 (hsame id hother).2).1 (h id) text htext
  · rintro ⟨hown, hspares⟩ id
    by_cases hother : others id
    · exact (mirrored_iff (hm id) hfiles habsent (hsame id hother).1 (hsame id hother).2).2
        fun text htext => hspares id text hother htext
    · exact hown id hother

end TranscriptStore

/-- What `create_subtitles` writes. -/
def writtenSubtitle (media : Path) (enabled : Bool) (whisper : Option String) (files : TextFiles) :
    Option (Path × String) :=
  if enabled && (files.lookup media).isSome then
    match media.withSuffix ".srt" with
    | .error _ => none
    | .ok sidecar =>
      match files.lookup sidecar, whisper with
      | none, some text => some (sidecar, text)
      | _, _ => none
  else none

/-- What `create_subtitles` does to the files. -/
def subtitleWork (media : Path) (enabled : Bool) (whisper : Option String) (files : TextFiles) :
    FileWork where
  gone path := (createSubtitles media enabled whisper files).1.any fun sidecar =>
    isExtraSidecar media sidecar path
  written := writtenSubtitle media enabled whisper files

/-- Some files are unlinked besides. -/
def FileWork.also (gone : Path → Bool) (w : FileWork) : FileWork :=
  { w with gone := fun path => w.gone path || gone path }

theorem lookup_unlink (gone : Path → Bool) (files : TextFiles) (path : Path) :
    (files.delete fun path _ => gone path).lookup path =
      if gone path = true then none else files.lookup path := by
  rw [Table.lookup_delete]
  cases gone path <;> cases files.lookup path <;> rfl

theorem FileWork.after_of_gone {w : FileWork} {path : Path} (h : w.gone path = true)
    (files : TextFiles) : w.after files path = none :=
  if_pos h

theorem FileWork.after_of_kept {w : FileWork} {path : Path} (h : w.gone path = false)
    (files : TextFiles) : w.after files path =
      if w.written.map Prod.fst = some path then w.written.map Prod.snd else files.lookup path := by
  rw [after, h]
  exact if_neg Bool.false_ne_true

theorem FileWork.after_also {w : FileWork} {files files' : TextFiles}
    (h : ∀ path, files'.lookup path = w.after files path) (gone : Path → Bool) (path : Path) :
    (files'.delete fun path _ => gone path).lookup path = (w.also gone).after files path := by
  have hgone : (w.also gone).gone path = (w.gone path || gone path) := rfl
  rw [lookup_unlink, h]
  split
  · next hnew =>
    rw [hnew, Bool.or_true] at hgone
    rw [after_of_gone hgone]
  · next hnew =>
    rw [Bool.not_eq_true] at hnew
    rw [hnew, Bool.or_false] at hgone
    cases hold : w.gone path with
    | true => rw [after_of_gone hold, after_of_gone (hgone.trans hold)]
    | false =>
      rw [after_of_kept hold, after_of_kept (hgone.trans hold)]
      rfl

section
variable {media subtitle : Path} {enabled : Bool} {whisper : Option String} {files files' : TextFiles}

theorem writtenSubtitle_absent {path : Path}
    (h : (writtenSubtitle media enabled whisper files).map Prod.fst = some path) :
    files.lookup path = none := by
  rw [writtenSubtitle] at h
  split at h
  · split at h
    · cases h
    · split at h
      · next text hnone =>
        cases h
        exact hnone
      · cases h
  · cases h

/-- `create_subtitles` does nothing, or finds a subtitle, or writes one, and cleans up beside it. -/
theorem createSubtitles_cases (media : Path) (enabled : Bool) (whisper : Option String)
    (files : TextFiles) :
    (createSubtitles media enabled whisper files = (none, files) ∧
      writtenSubtitle media enabled whisper files = none) ∨
    ∃ (sidecar : Path) (found : TextFiles), media.withSuffix ".srt" = .ok sidecar ∧
      createSubtitles media enabled whisper files =
        (some sidecar, found.delete fun path _ => isExtraSidecar media sidecar path) ∧
      ∀ path, found.lookup path =
        if (writtenSubtitle media enabled whisper files).map Prod.fst = some path then
          (writtenSubtitle media enabled whisper files).map Prod.snd
        else files.lookup path := by
  cases hmedia : enabled && (files.lookup media).isSome with
  | false =>
    rw [createSubtitles, writtenSubtitle, hmedia]
    exact .inl ⟨rfl, rfl⟩
  | true =>
    cases hname : media.withSuffix ".srt" with
    | error error =>
      simp only [createSubtitles, writtenSubtitle, hmedia, hname, ↓reduceIte]
      exact .inl ⟨trivial, trivial⟩
    | ok sidecar =>
      cases hsidecar : files.lookup sidecar with
      | some text =>
        simp only [createSubtitles, writtenSubtitle, hmedia, hname, hsidecar, ↓reduceIte]
        exact .inr ⟨sidecar, files, rfl, rfl, fun path => (if_neg nofun).symm⟩
      | none =>
        cases whisper with
        | none =>
          simp only [createSubtitles, writtenSubtitle, hmedia, hname, hsidecar, ↓reduceIte]
          exact .inl ⟨trivial, trivial⟩
        | some text =>
          simp only [createSubtitles, writtenSubtitle, hmedia, hname, hsidecar, ↓reduceIte]
          refine .inr ⟨sidecar, AList.insert sidecar text files, rfl, rfl, fun path => ?_⟩
          have hinsert := congrFun (Table.lookup_insert_eq sidecar text files) path
          simp only [Function.update_apply] at hinsert
          rw [hinsert]
          simp only [Option.map_some, Option.some.injEq, eq_comm]

theorem createSubtitles_files (media : Path) (enabled : Bool) (whisper : Option String)
    (files : TextFiles) (path : Path) :
    (createSubtitles media enabled whisper files).2.lookup path =
      (subtitleWork media enabled whisper files).after files path := by
  rcases createSubtitles_cases media enabled whisper files with ⟨hnone, hwritten⟩ |
    ⟨sidecar, found, -, hsome, hfound⟩
  · have hgone : (subtitleWork media enabled whisper files).gone path = false := by
      simp only [subtitleWork, hnone, Option.any_none]
    rw [FileWork.after_of_kept hgone, hnone, subtitleWork, hwritten]
    rfl
  · have hgone : (subtitleWork media enabled whisper files).gone path =
        isExtraSidecar media sidecar path := by
      simp only [subtitleWork, hsome, Option.any_some]
    rw [hsome]
    dsimp only
    rw [lookup_unlink, hfound]
    cases hextra : isExtraSidecar media sidecar path with
    | true =>
      rw [FileWork.after_of_gone (hgone.trans hextra)]
      rfl
    | false =>
      rw [FileWork.after_of_kept (hgone.trans hextra)]
      rfl

/-- The subtitle that comes of it has the name that belongs to the medium. -/
theorem createSubtitles_some (h : createSubtitles media enabled whisper files = (some subtitle, files')) :
    media.withSuffix ".srt" = .ok subtitle := by
  rcases createSubtitles_cases media enabled whisper files with ⟨hnone, -⟩ |
    ⟨sidecar, found, hname, hsome, -⟩
  · rw [h] at hnone
    cases hnone
  · rw [h] at hsome
    cases hsome
    exact hname

end

end GetOffline
