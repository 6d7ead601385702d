import GetOffline.SegmentMirror

set_option autoImplicit true

namespace GetOffline
open Python Execution

/-- What happens to the transcripts: jobs that succeed, new files, new rows without a subtitle, and other
writes of rows that leave the subtitle's name alone. -/
inductive TranscriptEvent
  | transcript (job : RowTranscript) (heard : Heard)
  | screening (video : DeferredVideo) (heard : Heard)
  | arrive (path : Path) (text : String)
  | record (row : DownloadRow)
  | edit (id : Nat) (row : DownloadRow)

/-- The job finds the content explicit, or cannot tell because there is no subtitle. -/
def RowTranscript.dropsMedia (subtitle : Option Path) (heard : Heard) (job : RowTranscript) : Bool :=
  job.deleteExplicitContent && (subtitle.isNone || heard.screening.toOption.getD false)

/-- What comes of the screening of a converted video: nothing, or whether it is explicit. -/
def DeferredVideo.verdict (subtitle : Option Path) (heard : Heard) : Option Bool :=
  subtitle.bind fun _ => heard.screening.toOption

/-- The sources of the conversion that are unlinked. -/
def DeferredVideo.drops (video : DeferredVideo) (path : Path) : Bool :=
  path ∈ video.sources && path ≠ video.media

namespace TranscriptStore

def step (place : TranscriptPlace) (s : TranscriptStore) : TranscriptEvent → Option TranscriptStore
  | .transcript job heard => (s.generateTranscript place job heard).toOption
  | .screening video heard => (s.generateDeferredTranscriptScreening place video heard).toOption
  | .arrive path text =>
    if (s.files.lookup path).isNone then some { s with files := AList.insert path text s.files } else none
  | .record row =>
    if row.subtitlePath = none then
      some { s with tables := { s.tables with downloads := s.tables.downloads.insert row } }
    else none
  | .edit id row =>
    if s.subtitleOf id = row.subtitlePath then
      some { s with tables := updateRow id (fun _ => row) s.tables }
    else none

/-- The work of a job of a row on the files. -/
def rowWork (media : Path) (job : RowTranscript) (heard : Heard) (s : TranscriptStore) : FileWork :=
  let work := subtitleWork media job.enabled heard.whisper s.files
  if job.dropsMedia (createSubtitles media job.enabled heard.whisper s.files).1 heard then
    work.also (isMediaArtifact media)
  else work

/-- The work of a deferred screening on the files. -/
def videoWork (video : DeferredVideo) (heard : Heard) (s : TranscriptStore) : FileWork :=
  let work := subtitleWork video.media true heard.whisper s.files
  let verdict := DeferredVideo.verdict (createSubtitles video.media true heard.whisper s.files).1 heard
  (if verdict = some false then work else work.also (isMediaArtifact video.media)).also video.drops

/-- The rows that the lookup of a deferred screening meets. -/
def Finds (video : DeferredVideo) (s : TranscriptStore) (id : Nat) : Prop :=
  ∃ row, s.tables.downloads.rows.lookup id = some row ∧ video.lookup id row = true

/-- When an event leaves the segments mirrored. -/
def Admits (place : TranscriptPlace) (s : TranscriptStore) : TranscriptEvent → Prop
  | .transcript job heard => ∀ row media, s.tables.ownDownload job.profileId job.downloadId = some row →
      ensureLocalMediaFile (place.resolve (orEmptyText row.filePath)) (place.cachePath job.downloadId row)
        s.files = .ok media →
      s.Spares (fun id => id = job.downloadId →
        (createSubtitles media job.enabled heard.whisper s.files).1 = none) (s.rowWork media job heard)
  | .screening video heard =>
    let made := createSubtitles video.media true heard.whisper s.files
    s.Spares (fun id => DeferredVideo.verdict made.1 heard = none ∨ ¬ s.Finds video id)
        (s.videoWork video heard) ∧
      (DeferredVideo.verdict made.1 heard ≠ none → ∀ id, s.Finds video id →
        segmentsOf id s.tables.segments = []) ∧
      ∀ subtitle, DeferredVideo.verdict made.1 heard = some false → made.1 = some subtitle →
        video.drops subtitle = true → cuesIn subtitle made.2 = []
  | .arrive path text => s.Spares (fun _ => True) { gone := fun _ => false, written := some (path, text) }
  | .record _ | .edit _ _ => True

section
variable {s s' : TranscriptStore} {id : Nat} {place : TranscriptPlace}

theorem subtitleOf_updateRow (downloadId : Nat) (f : DownloadRow → DownloadRow) (s : TranscriptStore)
    (files : TextFiles) (id : Nat) :
    subtitleOf id { tables := updateRow downloadId f s.tables, files } =
      if id = downloadId then
        (s.tables.downloads.rows.lookup downloadId).bind fun row => (f row).subtitlePath
      else s.subtitleOf id := by
  rw [subtitleOf, updateRow, AutoTable.lookup_update_at]
  split
  · exact Option.bind_map
  · rfl

theorem spares_congr {rows rows' : Nat → Prop} {w : FileWork}
    (h : ∀ id text, s.subtitleOf id = some text → (rows id ↔ rows' id)) :
    s.Spares rows w ↔ s.Spares rows' w := by
  refine forall₂_congr fun id text => ?_
  constructor
  · exact fun hrows hid htext => hrows ((h id text htext).2 hid) htext
  · exact fun hrows hid htext => hrows ((h id text htext).1 hid) htext

end

end TranscriptStore

section
variable {media sidecar : Path}

/-- The subtitle of a medium goes with it. -/
theorem isMediaArtifact_sidecar (h : media.withSuffix ".srt" = .ok sidecar) :
    isMediaArtifact media sidecar = true := by
  have hname := Path.name_withName h
  have hparent := Path.parent_withName h
  have hprefix : (media.stem ++ ".").toList <+: sidecar.name.toList := by
    rw [hname, String.toList_append, String.toList_append, List.prefix_append_right_inj]
    decide
  rw [isMediaArtifact, beside, hparent, List.isPrefixOf_iff_prefix.2 hprefix]
  simp only [decide_true, Bool.and_self, Bool.or_true]

end

namespace TranscriptStore
variable {s s' : TranscriptStore} {place : TranscriptPlace} {job : RowTranscript} {heard : Heard}

theorem subtitleOf_storeTranscript (downloadId : Nat) (subtitle outputRoot : Path)
    (text : Option String) (s : TranscriptStore) (files : TextFiles) (id : Nat) :
    subtitleOf id { tables := s.tables.storeTranscript downloadId subtitle outputRoot text, files } =
      if id = downloadId then (s.tables.downloads.rows.lookup downloadId).map fun _ => subtitle.str
      else s.subtitleOf id := by
  rw [subtitleOf, LibraryTables.storeTranscript, AutoTable.lookup_update_at]
  split
  · rw [Option.bind_map]
    cases s.tables.downloads.rows.lookup downloadId <;> rfl
  · rfl

theorem segmentTexts_storeTranscript (downloadId : Nat) (subtitle outputRoot : Path)
    (text : Option String) (s : TranscriptStore) (files : TextFiles) (id : Nat) :
    segmentTexts id { tables := s.tables.storeTranscript downloadId subtitle outputRoot text, files } =
      if id = downloadId then loadSegmentsFromSubtitle subtitle text else s.segmentTexts id := by
  rw [segmentTexts, LibraryTables.storeTranscript, segmentsOf_createSegments, segmentsOf_deleteSegments]
  by_cases h : id = downloadId
  · rw [if_pos h, if_pos h, if_pos h.symm, List.nil_append, List.map_map]
    exact List.map_id _
  · rw [if_neg h, if_neg h, if_neg (Ne.symm h), List.append_nil]
    rfl

theorem subtitleOf_markFiltered (downloadId : Nat) (now : Instant) (tables : LibraryTables)
    (files : TextFiles) (id : Nat) :
    subtitleOf id { tables := updateRow downloadId (DownloadRow.markFiltered now) tables, files } =
      subtitleOf id { tables, files } := by
  have h := subtitleOf_updateRow downloadId (DownloadRow.markFiltered now) { tables, files } files id
  rw [h]
  split
  · next hid =>
    rw [hid]
    rfl
  · rfl

theorem currentCues_eq {id : Nat} {subtitle : Path} (h : s.subtitleOf id = some subtitle.str) :
    s.currentCues id = cuesIn subtitle s.files := by
  rw [currentCues, h, Option.elim_some, Path.parse_str]

theorem mirrored_of_empty {id : Nat} (hsegments : s.segmentTexts id = []) (hcues : s.currentCues id = []) :
    s.Mirrored id := by
  rw [Mirrored, hsegments, hcues]

/-- After a job of a row, the row itself is mirrored, and the others are if their subtitles are spared. -/
theorem mirrors_generateTranscript_iff (hm : s.Mirrors)
    (h : s.generateTranscript place job heard = .ok s') :
    s'.Mirrors ↔ s.Admits place (.transcript job heard) := by
  rw [generateTranscript] at h
  cases hrow : s.tables.ownDownload job.profileId job.downloadId with
  | none =>
    rw [hrow] at h
    obtain rfl := Except.ok.inj h
    refine iff_of_true hm fun row media hfound _ => ?_
    rw [hrow] at hfound
    cases hfound
  | some row =>
    rw [hrow] at h
    obtain ⟨media, hmedia, h⟩ := bind_eq_ok.1 h
    have hadmits : s.Admits place (.transcript job heard) ↔ s.Spares (fun id => id = job.downloadId →
        (createSubtitles media job.enabled heard.whisper s.files).1 = none) (s.rowWork media job heard) := by
      constructor
      · exact fun h => h row media hrow hmedia
      · intro h row' media' hrow' hmedia'
        rw [hrow] at hrow'
        obtain rfl := Option.some.inj hrow'
        rw [hmedia] at hmedia'
        obtain rfl := Except.ok.inj hmedia'
        exact h
    rw [hadmits, rowWork]
    have hfiles := createSubtitles_files media job.enabled heard.whisper s.files
    have hexists : ∃ stored, s.tables.downloads.rows.lookup job.downloadId = some stored :=
      ⟨row, (Option.filter_eq_some_iff.1 hrow).1⟩
    rcases hmade : createSubtitles media job.enabled heard.whisper s.files with ⟨subtitle, files⟩
    rw [hmade] at h hfiles
    dsimp only at h hfiles ⊢
    cases subtitle with
    | none =>
      have hrows (id : Nat) (text : String) (_ : s.subtitleOf id = some text) :
          True ↔ (id = job.downloadId → (none : Option Path) = none) :=
        iff_of_true trivial fun _ => rfl
      have hdrops : job.dropsMedia none heard = job.deleteExplicitContent := Bool.and_true _
      rw [hdrops, ← spares_congr hrows]
      cases hflag : job.deleteExplicitContent with
      | true =>
        rw [hflag] at h
        obtain rfl := Except.ok.inj h
        refine Iff.trans (mirrors_iff (fun _ => True) hm
          (FileWork.after_also hfiles (isMediaArtifact media)) (fun _ => writtenSubtitle_absent)
          fun id _ => ⟨subtitleOf_markFiltered _ _ _ _ _, rfl⟩) ?_
        exact and_iff_right fun id hid => absurd trivial hid
      | false =>
        rw [hflag] at h
        obtain rfl := Except.ok.inj h
        refine Iff.trans (mirrors_iff (fun _ => True) hm hfiles (fun _ => writtenSubtitle_absent)
          fun id _ => ⟨rfl, rfl⟩) ?_
        exact and_iff_right fun id hid => absurd trivial hid
    | some subtitle =>
      have hrows (id : Nat) (text : String) (_ : s.subtitleOf id = some text) :
          id ≠ job.downloadId ↔ (id = job.downloadId → some subtitle = none) :=
        ⟨fun hne hid => absurd hid hne, fun hnone hid => nomatch hnone hid⟩
      have hdrops : job.dropsMedia (some subtitle) heard =
          (job.deleteExplicitContent && heard.screening.toOption.getD false) := rfl
      rw [hdrops, ← spares_congr hrows]
      obtain ⟨stored, hstored⟩ := hexists
      cases hexplicit : job.deleteExplicitContent && heard.screening.toOption.getD false with
      | true =>
        rw [hexplicit] at h
        obtain rfl := Except.ok.inj h
        refine Iff.trans (mirrors_iff (fun id => id ≠ job.downloadId) hm
          (FileWork.after_also hfiles (isMediaArtifact media)) (fun _ => writtenSubtitle_absent) ?_)
          (and_iff_right ?_)
        · intro id hid
          refine ⟨(subtitleOf_markFiltered _ _ _ _ _).trans
            ((subtitleOf_storeTranscript _ _ _ (files.lookup subtitle) _ files _).trans (if_neg hid)), ?_⟩
          refine Eq.trans (congrArg (List.map TranscriptSegment.text)
            ((segmentsOf_deleteSegments _ _ _).trans (if_neg hid))) ?_
          exact (segmentTexts_storeTranscript _ _ _ (files.lookup subtitle) _ files _).trans (if_neg hid)
        · intro id hid
          obtain rfl := not_not.1 hid
          have hsubtitle := subtitleOf_storeTranscript job.downloadId subtitle place.outputRoot
            (files.lookup subtitle) s (deleteMediaArtifacts media files) job.downloadId
          rw [if_pos rfl, hstored] at hsubtitle
          have hgone : cuesIn subtitle (deleteMediaArtifacts media files) = [] := by
            rw [cuesIn, deleteMediaArtifacts, lookup_unlink,
              if_pos (isMediaArtifact_sidecar (createSubtitles_some hmade)), loadSegmentsFromSubtitle]
          refine mirrored_of_empty ?_ ?_
          · exact congrArg (List.map TranscriptSegment.text)
              ((segmentsOf_deleteSegments _ _ _).trans (if_pos rfl))
          · exact (currentCues_eq ((subtitleOf_markFiltered _ _ _ _ _).trans hsubtitle)).trans hgone
      | false =>
        rw [hexplicit] at h
        obtain rfl := Except.ok.inj h
        refine Iff.trans (mirrors_iff (fun id => id ≠ job.downloadId) hm hfiles
          (fun _ => writtenSubtitle_absent) ?_) (and_iff_right ?_)
        · intro id hid
          exact ⟨(subtitleOf_storeTranscript _ _ _ _ _ _ _).trans (if_neg hid),
            (segmentTexts_storeTranscript _ _ _ _ _ _ _).trans (if_neg hid)⟩
        · intro id hid
          obtain rfl := not_not.1 hid
          have hsubtitle := subtitleOf_storeTranscript job.downloadId subtitle place.outputRoot
            (files.lookup subtitle) s files job.downloadId
          rw [if_pos rfl, hstored] at hsubtitle
          rw [Mirrored, currentCues_eq hsubtitle, segmentTexts_storeTranscript, if_pos rfl]
          exact List.Perm.refl _

/-- What a deferred screening writes, it writes to the row that its lookup finds, or to a new one without
segments. -/
theorem finds_iff {video : DeferredVideo} {new : DownloadRow} {update : DownloadRow → DownloadRow}
    {id : Nat} {downloads : AutoTable DownloadRow} (hm : s.Mirrors)
    (h : updateOrCreateRow video.lookup new update s.tables.downloads = .ok (id, downloads)) :
    (∀ i text, s.subtitleOf i = some text → (¬ s.Finds video i ↔ i ≠ id)) ∧
      ((∀ i, s.Finds video i → segmentsOf i s.tables.segments = []) ↔ s.segmentTexts id = []) := by
  obtain ⟨row, -, ⟨-, hnone, hunmet⟩ | ⟨old, -, hold, hkeys⟩⟩ := updateOrCreateRow_spec h
  · have hnever (i : Nat) : ¬ s.Finds video i := fun ⟨r, hr, hlookup⟩ => hunmet i r hr hlookup
    have hsubtitle : s.subtitleOf id = none := by rw [subtitleOf, hnone, Option.bind_none]
    constructor
    · intro i text htext
      refine iff_of_true (hnever i) ?_
      rintro rfl
      rw [hsubtitle] at htext
      cases htext
    · have hmirrored := hm id
      rw [Mirrored, currentCues, hsubtitle, Option.elim_none, List.perm_nil] at hmirrored
      exact iff_of_true (fun i hfinds => absurd hfinds (hnever i)) hmirrored
  · constructor
    · exact fun i text _ => not_congr (hkeys i)
    · rw [segmentTexts, List.map_eq_nil_iff]
      constructor
      · exact fun h => h id ((hkeys id).2 rfl)
      · intro hempty i hfinds
        rw [(hkeys i).1 hfinds]
        exact hempty

theorem perm_append_iff {old new : List String} : (old ++ new).Perm new ↔ old = [] := by
  constructor
  · intro h
    have hlength := h.length_eq
    rw [List.length_append] at hlength
    exact List.eq_nil_of_length_eq_zero (by omega)
  · rintro rfl
    exact List.Perm.refl _

/-- A row whose subtitle has been taken from it must have had no segments. -/
theorem own_filtered_iff {id : Nat} (old : List String) (hsubtitle : s'.subtitleOf id = none)
    (hsegments : s'.segmentTexts id = old) : (∀ i, ¬ i ≠ id → s'.Mirrored i) ↔ old = [] := by
  have hmirrored : s'.Mirrored id ↔ old = [] := by
    rw [Mirrored, currentCues, hsubtitle, hsegments, Option.elim_none, List.perm_nil]
  constructor
  · exact fun h => hmirrored.1 (h id (not_not.2 rfl))
  · intro h i hi
    obtain rfl := not_not.1 hi
    exact hmirrored.2 h

/-- A row that gets the segments of a new subtitle must have had none, and the subtitle must stay. -/
theorem own_inserted_iff {id : Nat} (subtitle : Path) (old new : List String) (dropped : Bool)
    (hsubtitle : s'.subtitleOf id = some subtitle.str) (hsegments : s'.segmentTexts id = old ++ new)
    (hcues : cuesIn subtitle s'.files = if dropped = true then [] else new) :
    (∀ i, ¬ i ≠ id → s'.Mirrored i) ↔ old = [] ∧ (dropped = true → new = []) := by
  have hmirrored : s'.Mirrored id ↔ old = [] ∧ (dropped = true → new = []) := by
    rw [Mirrored, currentCues_eq hsubtitle, hcues, hsegments]
    split
    · next hdropped => rw [List.perm_nil, List.append_eq_nil_iff, forall_prop_of_true hdropped]
    · next hkept => rw [perm_append_iff, and_iff_left fun hdropped => absurd hdropped hkept]
  constructor
  · exact fun h => hmirrored.1 (h id (not_not.2 rfl))
  · intro h i hi
    obtain rfl := not_not.1 hi
    exact hmirrored.2 h

/-- A deferred screening leaves the segments mirrored exactly if the row that it finds has none, and the
other subtitles, and the new one, are spared. -/
theorem mirrors_screening_iff {video : DeferredVideo} (hm : s.Mirrors)
    (h : s.generateDeferredTranscriptScreening place video heard = .ok s') :
    s'.Mirrors ↔ s.Admits place (.screening video heard) := by
  rw [generateDeferredTranscriptScreening] at h
  obtain ⟨s₁, hscreened, h⟩ := bind_eq_ok.1 h
  obtain rfl := Except.ok.inj h
  rw [screenDeferredVideoBeforeInsert] at hscreened
  rw [Admits, videoWork]
  have hfiles := createSubtitles_files video.media true heard.whisper s.files
  rcases hmade : createSubtitles video.media true heard.whisper s.files with ⟨subtitle, files⟩
  rw [hmade] at hscreened hfiles
  dsimp only at hscreened hfiles ⊢
  by_cases hverdict : DeferredVideo.verdict subtitle heard = none
  · have hs₁ : s₁ = { s with files := deleteMediaArtifacts video.media files } := by
      cases subtitle with
      | none => exact (Except.ok.inj hscreened).symm
      | some subtitle =>
        cases hheard : heard.screening with
        | error error =>
          rw [hheard] at hscreened
          exact (Except.ok.inj hscreened).symm
        | ok explicit =>
          rw [DeferredVideo.verdict, hheard] at hverdict
          cases hverdict
    subst hs₁
    rw [hverdict, if_neg nofun]
    refine Iff.trans (mirrors_iff (fun _ => True) hm (FileWork.after_also (FileWork.after_also hfiles
      (isMediaArtifact video.media)) video.drops) (fun _ => writtenSubtitle_absent)
      fun id _ => ⟨rfl, rfl⟩) ?_
    rw [and_iff_right fun id hid => absurd trivial hid]
    constructor
    · intro hspares
      refine ⟨fun id text _ htext => hspares id text trivial htext, fun hne => absurd rfl hne, ?_⟩
      intro subtitle hfalse
      cases hfalse
    · exact fun hadmits id text _ htext => hadmits.1 id text (.inl rfl) htext
  · cases subtitle with
    | none => exact absurd rfl hverdict
    | some subtitle =>
      cases hheard : heard.screening with
      | error error =>
        rw [DeferredVideo.verdict, hheard] at hverdict
        exact absurd rfl hverdict
      | ok explicit =>
        have hsome : DeferredVideo.verdict (some subtitle) heard = some explicit := by
          rw [DeferredVideo.verdict, hheard]
          rfl
        rw [hheard] at hscreened
        rw [hsome]
        cases explicit with
        | true =>
          obtain ⟨⟨id, downloads⟩, hrow, hs₁⟩ := bind_eq_ok.1 hscreened
          obtain rfl := Except.ok.inj hs₁
          obtain ⟨row, hlookup, hcase⟩ := updateOrCreateRow_spec hrow
          obtain ⟨hothers, hempty⟩ := finds_iff hm hrow
          have hsubtitle : row.subtitlePath = none := by
            rcases hcase with ⟨rfl, -⟩ | ⟨old, rfl, -⟩ <;> rfl
          refine Iff.trans (mirrors_iff (fun i => i ≠ id) hm (FileWork.after_also (FileWork.after_also
            hfiles (isMediaArtifact video.media)) video.drops) (fun _ => writtenSubtitle_absent) ?_)
            (Iff.trans (and_congr (own_filtered_iff (s.segmentTexts id) ?_ rfl) Iff.rfl) ?_)
          · intro i hi
            refine ⟨?_, rfl⟩
            rw [subtitleOf, hlookup, if_neg hi]
            rfl
          · rw [subtitleOf, hlookup, if_pos rfl, Option.bind_some, hsubtitle]
          · rw [if_neg (by decide), ← hempty, and_comm]
            refine and_congr (spares_congr fun i text htext => ?_) ?_
            · rw [← hothers i text htext]
              exact (or_iff_right nofun).symm
            · constructor
              · intro h
                refine ⟨fun _ => h, fun subtitle' hfalse => ?_⟩
                cases hfalse
              · exact fun h => h.1 nofun
        | false =>
          obtain ⟨⟨id, downloads⟩, hrow, hs₁⟩ := bind_eq_ok.1 hscreened
          obtain rfl := Except.ok.inj hs₁
          obtain ⟨row, hlookup, hcase⟩ := updateOrCreateRow_spec hrow
          obtain ⟨hothers, hempty⟩ := finds_iff hm hrow
          have hsubtitle : row.subtitlePath = some subtitle.str := by
            rcases hcase with ⟨rfl, -⟩ | ⟨old, rfl, -⟩ <;> rfl
          refine Iff.trans (mirrors_iff (fun i => i ≠ id) hm (FileWork.after_also hfiles video.drops)
            (fun _ => writtenSubtitle_absent) ?_)
            (Iff.trans (and_congr (own_inserted_iff subtitle (s.segmentTexts id) (cuesIn subtitle files)
              (video.drops subtitle) ?_ ?_ ?_) Iff.rfl) ?_)
          · intro i hi
            constructor
            · rw [subtitleOf, hlookup, if_neg hi]
              rfl
            · rw [segmentTexts, segmentsOf_createSegments, if_neg (Ne.symm hi), List.append_nil]
              rfl
          · rw [subtitleOf, hlookup, if_pos rfl, Option.bind_some, hsubtitle]
          · rw [segmentTexts, segmentsOf_createSegments, if_pos rfl, List.map_append, List.map_map]
            exact congrArg (s.segmentTexts id ++ ·) (List.map_id _)
          · refine (congrArg (loadSegmentsFromSubtitle subtitle) (lookup_unlink _ _ _)).trans ?_
            split
            · next hdrops => exact (if_pos hdrops).symm
            · next hkept => exact (if_neg hkept).symm
          · rw [if_pos rfl, ← hempty, and_comm]
            refine and_congr (spares_congr fun i text htext => ?_) (and_congr ?_ ?_)
            · rw [← hothers i text htext]
              exact (or_iff_right nofun).symm
            · exact ⟨fun h _ => h, fun h => h nofun⟩
            · constructor
              · intro h subtitle' _ hsame
                obtain rfl := Option.some.inj hsame
                exact h
              · exact fun h => h subtitle rfl rfl

theorem ok_of_toOption {x : Except ε α} {a : α} (h : x.toOption = some a) : x = .ok a := by
  cases x with
  | error error => cases h
  | ok b =>
    cases h
    rfl

/-- Writes of rows that leave the names of the subtitles alone change nothing. -/
theorem Mirrors.of_rows {downloads : AutoTable DownloadRow} (hm : s.Mirrors)
    (hsubtitle : ∀ id, (downloads.rows.lookup id).bind DownloadRow.subtitlePath = s.subtitleOf id) :
    Mirrors { s with tables := { s.tables with downloads } } := by
  intro id
  have hmirrored := hm id
  rw [Mirrored, currentCues, ← hsubtitle] at hmirrored
  exact hmirrored

/-- A step leaves the segments mirrored exactly if it is one that is admitted. -/
theorem mirrors_step_iff {event : TranscriptEvent} (hm : s.Mirrors) (h : s.step place event = some s') :
    s'.Mirrors ↔ s.Admits place event := by
  cases event with
  | transcript job heard => exact mirrors_generateTranscript_iff hm (ok_of_toOption h)
  | screening video heard => exact mirrors_screening_iff hm (ok_of_toOption h)
  | arrive path text =>
    obtain ⟨hnone, h⟩ := Option.ite_none_right_eq_some.1 h
    obtain rfl := Option.some.inj h
    refine Iff.trans (mirrors_iff (fun _ => True) hm ?_ ?_ fun id _ => ⟨rfl, rfl⟩)
      (and_iff_right fun id hid => absurd trivial hid)
    · intro other
      have hinsert := congrFun (Table.lookup_insert_eq path text s.files) other
      simp only [Function.update_apply] at hinsert
      rw [FileWork.after_of_kept rfl, Option.map_some, Option.map_some, hinsert]
      simp only [Option.some.injEq, eq_comm]
    · intro other hother
      obtain rfl := Option.some.inj hother
      exact Option.isNone_iff_eq_none.1 hnone
  | record row =>
    obtain ⟨hnone, h⟩ := Option.ite_none_right_eq_some.1 h
    obtain rfl := Option.some.inj h
    refine iff_of_true (hm.of_rows fun id => ?_) trivial
    rw [AutoTable.lookup_insert, subtitleOf]
    split
    · next hid => rw [hid, s.tables.downloads.fresh _ le_rfl, Option.bind_some, hnone, Option.bind_none]
    · rfl
  | edit id row =>
    obtain ⟨hsame, h⟩ := Option.ite_none_right_eq_some.1 h
    obtain rfl := Option.some.inj h
    refine iff_of_true (hm.of_rows fun i => ?_) trivial
    refine (subtitleOf_updateRow id (fun _ => row) s s.files i).trans ?_
    split
    · next hid =>
      rw [hid, ← hsame, subtitleOf]
      cases s.tables.downloads.rows.lookup id <;> rfl
    · rfl

/-- An event that comes about is admitted. -/
def Allows (place : TranscriptPlace) (s : TranscriptStore) (event : TranscriptEvent) : Prop :=
  (s.step place event).isSome = true → s.Admits place event

end TranscriptStore

/-- The segments mirror the subtitles in all states of a run exactly if every job of the run finds what
it has to. -/
theorem segments_mirror_subtitles_iff (place : TranscriptPlace) (events : List TranscriptEvent) :
    Along (TranscriptStore.step place) (TranscriptStore.Allows place) .empty events ↔
      ∀ before after s, events = before ++ after →
        exec (TranscriptStore.step place) .empty before = some s → s.Mirrors := by
  apply along_iff_always (I := fun _ => True)
  · exact fun _ _ _ _ _ => trivial
  · intro s event s' _ hm h
    rw [TranscriptStore.mirrors_step_iff hm h, TranscriptStore.Allows, h]
    exact ⟨fun hadmits _ => hadmits, fun hallows => hallows rfl⟩
  · intro s event h hsome
    rw [h] at hsome
    cases hsome
  · trivial
  · exact fun id => List.Perm.refl _

def downloadsPlace : TranscriptPlace where
  resolve := Path.parse
  cachePath id _ := (Path.parse "/cache").join (toString id)
  outputRoot := Path.parse "/downloads"

/-- A converted video that has not been screened yet. -/
def convertedVideo : DeferredVideo where
  media := Path.parse "/downloads/Show/a.mp4"
  lookup _ row := row.sourceName = "Show" && row.title = some "a"
  newRow :=
    { sourceType := "youtube", sourceName := "Show", title := some "a",
      filePath := some "/downloads/Show/a.mp4", firstSeenAt := 0, lastSeenAt := 0 }
  defaults row := { row with filePath := some "/downloads/Show/a.mp4" }
  sources := []

def oneCue : Heard where
  whisper := some "1\n00:00:00,000 --> 00:00:02,000\nHello\n"
  screening := .ok false
  completedAt := 10
  lastSeenAt := 10

/-- A repeated screening of the same video stores its cues twice. -/
theorem repeated_screening_doubles_segments : ∃ s,
    exec (TranscriptStore.step downloadsPlace) .empty
      [.arrive (Path.parse "/downloads/Show/a.mp4") "", .screening convertedVideo oneCue,
        .screening convertedVideo oneCue] = some s ∧ ¬ s.Mirrors := by
  refine ⟨_, rfl, fun h => ?_⟩
  have hlength := (h 0).length_eq
  revert hlength
  decide +kernel

end GetOffline
