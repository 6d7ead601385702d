import GetOffline.Execution
import GetOffline.SubtitleCreation

set_option autoImplicit true

namespace GetOffline
open Python Interruptible Interruptible.Comp

/-- The name is not one that subtitles or failure markers have. -/
structure IsMedium (path : Path) : Prop where
  subtitle : isSubtitle path = false
  failed : path.suffix ≠ ".failed"

theorem suffix_sidecar {mediaFile subtitlePath : Path} (h : mediaFile.withSuffix ".srt" = .ok subtitlePath) :
    subtitlePath.suffix = ".srt" :=
  @Path.suffix_withSuffix mediaFile subtitlePath ['s', 'r', 't'] (by decide) (by decide) h

theorem not_isMedium_sidecar {mediaFile subtitlePath : Path} (h : mediaFile.withSuffix ".srt" = .ok subtitlePath) :
    ¬ IsMedium subtitlePath := by
  intro hmedium
  have hsuffix := suffix_sidecar h
  have hsubtitle := hmedium.subtitle
  rw [isSubtitle, hsuffix] at hsubtitle
  revert hsubtitle
  decide +kernel

theorem not_isMedium_marker {mediaFile subtitlePath failedMarkerPath : Path}
    (h : mediaFile.withSuffix ".srt" = .ok subtitlePath)
    (hmarker : subtitlePath.withSuffix (subtitlePath.suffix ++ ".failed") = .ok failedMarkerPath) :
    ¬ IsMedium failedMarkerPath := by
  intro hmedium
  have hsuffix := suffix_sidecar h
  have hname : failedMarkerPath.name.toList = (subtitlePath.stem ++ ".srt").toList ++ '.' :: "failed".toList := by
    rw [Path.name_withName hmarker, hsuffix, String.toList_append, String.toList_append, String.toList_append,
      List.append_assoc]
    rfl
  apply hmedium.failed
  rw [Path.suffix, hname, splitSuffix_of_parts]
  · rfl
  · rw [String.toList_append]
    exact List.append_ne_nil_of_right_ne_nil _ (by decide)
  · decide
  · decide

theorem marker_ne_sidecar {mediaFile subtitlePath failedMarkerPath : Path}
    (h : mediaFile.withSuffix ".srt" = .ok subtitlePath)
    (hmarker : subtitlePath.withSuffix (subtitlePath.suffix ++ ".failed") = .ok failedMarkerPath) :
    failedMarkerPath ≠ subtitlePath := by
  rintro rfl
  have hsuffix := suffix_sidecar h
  have hname := Path.name_withName hmarker
  rw [hsuffix] at hname
  have hdot : '.' ∈ "srt.failed".toList := by decide
  exact Path.stem_append_ne_name hdot ((String.append_assoc ..).trans hname.symm)

namespace SubtitleWorld

/-- What has been heard in a file that still has its time is heard in its content. -/
def CacheSound (host : SubtitleHost) (w : SubtitleWorld) : Prop :=
  ∀ path file segments, IsMedium path → w.files.lookup path = some file →
    w.cache.lookup (path, file.mtime) = some segments → segments = host.hear file.content

/-- The media are those of the folder, and the cache tells what is heard in them. -/
structure Keeps (host : SubtitleHost) (files : MediaFolder) (w : SubtitleWorld) : Prop where
  media : ∀ path, IsMedium path → w.files.lookup path = files.lookup path
  cache : w.CacheSound host

section
variable {host : SubtitleHost} {files : MediaFolder} {w : SubtitleWorld}

/-- Where the media stay as they are, the cache stays right. -/
theorem Keeps.of_files (h : w.Keeps host files) (w' : SubtitleWorld) (hcache : w'.cache = w.cache)
    (hfiles : ∀ path, IsMedium path → w'.files.lookup path = w.files.lookup path) : w'.Keeps host files where
  media path hmedium := (hfiles path hmedium).trans (h.media path hmedium)
  cache := by
    intro path file segments hmedium hfile hcached
    rw [hcache] at hcached
    exact h.cache path file segments hmedium ((hfiles path hmedium).symm.trans hfile) hcached

theorem Keeps.store (h : w.Keeps host files) {path : Path} (hpath : ¬ IsMedium path) (file : StoredFile) :
    (w.store path file).Keeps host files := by
  refine h.of_files _ rfl ?_
  intro other hother
  exact AList.lookup_insert_ne fun heq => hpath (heq ▸ hother)

theorem Keeps.erase (h : w.Keeps host files) {path : Path} (hpath : ¬ IsMedium path) :
    ({ w with files := AList.erase path w.files } : SubtitleWorld).Keeps host files := by
  refine h.of_files _ rfl ?_
  intro other hother
  exact AList.lookup_erase_ne fun heq => hpath (heq ▸ hother)

theorem Keeps.hear (h : w.Keeps host files) {path : Path} {file : StoredFile}
    (hfile : w.files.lookup path = some file) :
    ({ w with cache := AList.insert (path, file.mtime) (host.hear file.content) w.cache } : SubtitleWorld).Keeps
      host files where
  media := h.media
  cache := by
    intro other file' segments hmedium hfile' hcached
    by_cases hkey : (other, file'.mtime) = (path, file.mtime)
    · obtain ⟨rfl, -⟩ := Prod.mk.injEq .. ▸ hkey
      obtain rfl := Option.some.inj (hfile.symm.trans hfile')
      rw [AList.lookup_insert] at hcached
      exact (Option.some.inj hcached).symm
    · rw [AList.lookup_insert_ne hkey] at hcached
      exact h.cache other file' segments hmedium hfile' hcached

end

-- The parts of a call

section
variable {host : SubtitleHost} {files : MediaFolder} {w : SubtitleWorld} {fates : CallFates}

theorem ensures_run {fate : Fate} {Q : Unit → SubtitleWorld → Prop} {I : Halt Error → SubtitleWorld → Prop}
    (hQ : Q () w) (hI : ∀ halted, I halted w) : fate.run.Ensures Q I w := by
  cases fate with
  | returns => exact ensures_pure hQ
  | raises error => exact ensures_halt (hI _)
  | dies => exact ensures_halt (hI _)

theorem ensures_writeText {path : Path} {text : String} {now : Instant} {write : WriteFate}
    {Q : Unit → SubtitleWorld → Prop} {I : Halt Error → SubtitleWorld → Prop} (hQ : Q () (w.store path ⟨text, now⟩))
    (hI : ∀ halted, I halted w) (hpart : ∀ halted part, I halted (w.store path ⟨part, now⟩)) :
    (writeText path text now write).Ensures Q I w := by
  have hcut : ∀ fate : Fate, fate ≠ .returns → (do
      writePart path text now write.written
      fate.run : SubtitleCall Unit).Ensures Q I w := by
    intro fate hfate
    apply ensures_bind
    have hrun : ∀ w, (∀ halted, I halted w) → fate.run.Ensures Q I w := by
      intro w hI
      cases fate with
      | returns => exact absurd rfl hfate
      | raises error => exact ensures_halt (hI _)
      | dies => exact ensures_halt (hI _)
    cases write.written with
    | some count => exact ensures_change (hrun _ fun halted => hpart halted _)
    | none => exact ensures_pure (hrun _ hI)
  rw [writeText]
  cases hfate : write.fate with
  | returns => exact ensures_change hQ
  | raises error => exact hcut (.raises error) nofun
  | dies => exact hcut .dies nofun

/-- The cleanup leaves the media and the subtitle to keep. -/
theorem ensures_cleanup {mediaFile keepSubtitle : Path} (h : w.Keeps host files) :
    (cleanup host mediaFile keepSubtitle fates).Ensures
      (fun _ w' => w'.Keeps host files ∧ w'.files.lookup keepSubtitle = w.files.lookup keepSubtitle)
      (fun _ w' => w'.Keeps host files) w := by
  rw [cleanup]
  apply ensures_bind
  apply ensures_look
  apply ensures_bind
  apply ensures_ofExcept
  · intro cleaned hcleaned
    have hlookup := MediaFolder.lookup_cleanup hcleaned
    have hkeeps : ({ w with files := cleaned } : SubtitleWorld).Keeps host files := by
      refine h.of_files _ rfl ?_
      intro path hmedium
      rw [hlookup, if_neg]
      intro hremoved
      have hsubtitle := (MediaFolder.removesSidecar_iff.1 hremoved).1.1.2
      rw [hmedium.subtitle] at hsubtitle
      cases hsubtitle
    apply ensures_bind
    apply ensures_change
    apply ensures_run
    · refine ⟨hkeeps, ?_⟩
      rw [hlookup, if_neg]
      exact fun hremoved => (MediaFolder.removesSidecar_iff.1 hremoved).1.2 rfl
    · exact fun _ => hkeeps
  · exact fun _ _ => h

theorem ensures_transcribe {mediaFile : Path} {media : StoredFile} (h : w.Keeps host files)
    (hmedium : IsMedium mediaFile) (hmedia : w.files.lookup mediaFile = some media) :
    (transcribeWithWhisper host mediaFile fates).Ensures
      (fun segments w' => w'.Keeps host files ∧ w'.files = w.files ∧ segments = host.hear media.content)
      (fun _ w' => w'.Keeps host files ∧ w'.files = w.files) w := by
  rw [transcribeWithWhisper]
  apply ensures_bind
  apply ensures_look
  rw [hmedia]
  cases hcached : w.cache.lookup (mediaFile, media.mtime) with
  | some segments =>
    dsimp only
    rw [hcached]
    exact ensures_pure ⟨h, rfl, h.cache mediaFile media segments hmedium hmedia hcached⟩
  | none =>
    dsimp only
    rw [hcached]
    apply ensures_bind
    apply ensures_run
    · apply ensures_bind
      apply ensures_change
      exact ensures_pure ⟨h.hear hmedia, rfl, rfl⟩
    · exact fun _ => ⟨h, rfl⟩

theorem ensures_shiftSubtitle {subtitlePath : Path} {file : StoredFile} (offsetSeconds : ℚ)
    (h : w.Keeps host files) (hsidecar : ¬ IsMedium subtitlePath) (hfile : w.files.lookup subtitlePath = some file) :
    (shiftSubtitle subtitlePath offsetSeconds fates).Ensures
      (fun _ w' => w'.Keeps host files ∧ ∃ file', w'.files.lookup subtitlePath = some file' ∧
        shiftSrtTimestamps offsetSeconds file.content = .ok file'.content)
      (fun _ w' => w'.Keeps host files) w := by
  rw [shiftSubtitle]
  apply ensures_ite
  · intro hsmall
    exact ensures_pure ⟨h, file, hfile, by rw [shiftSrtTimestamps, if_pos hsmall]⟩
  · intro hlarge
    apply ensures_bind
    apply ensures_run
    · apply ensures_bind
      apply ensures_look
      rw [hfile]
      apply ensures_bind
      apply ensures_ofExcept
      · intro shifted hshifted
        apply ensures_writeText
        · exact ⟨h.store hsidecar _, ⟨shifted, fates.now⟩, AList.lookup_insert _, hshifted⟩
        · exact fun _ => h
        · exact fun _ part => h.store hsidecar ⟨part, fates.now⟩
      · exact fun _ _ => h
    · exact fun _ => h

theorem ensures_removeMarker {subtitlePath failedMarkerPath : Path} (h : w.Keeps host files)
    (hmarker : ¬ IsMedium failedMarkerPath) (hne : failedMarkerPath ≠ subtitlePath) :
    (removeMarker failedMarkerPath fates).Ensures
      (fun _ w' => w'.Keeps host files ∧ w'.files.lookup subtitlePath = w.files.lookup subtitlePath)
      (fun _ w' => w'.Keeps host files) w := by
  rw [removeMarker]
  apply ensures_bind
  apply ensures_look
  apply ensures_ite
  · intro _
    apply ensures_bind
    apply ensures_run
    · apply ensures_change
      exact ⟨h.erase hmarker, AList.lookup_erase_ne hne.symm⟩
    · exact fun _ => h
  · exact fun _ => ensures_pure ⟨h, rfl⟩

/-- Once the subtitle has been written and shifted, it is complete. -/
theorem ensures_writeSubtitle {subtitlePath failedMarkerPath : Path} (segments : List WhisperSegment)
    (offsetSeconds : ℚ) (h : w.Keeps host files) (hsidecar : ¬ IsMedium subtitlePath)
    (hmarker : ¬ IsMedium failedMarkerPath) (hne : failedMarkerPath ≠ subtitlePath) :
    (writeSubtitle subtitlePath failedMarkerPath segments offsetSeconds fates).Ensures
      (fun _ w' => w'.Keeps host files ∧ ∃ file, w'.files.lookup subtitlePath = some file ∧
        generateWhisperSubtitles segments offsetSeconds = .ok file.content)
      (fun _ w' => w'.Keeps host files) w := by
  rw [writeSubtitle]
  apply ensures_bind
  apply ensures_writeText
  · have hstored := h.store hsidecar ⟨writeSegments segments, fates.now⟩
    have hfile : (w.store subtitlePath ⟨writeSegments segments, fates.now⟩).files.lookup subtitlePath =
        some ⟨writeSegments segments, fates.now⟩ := AList.lookup_insert _
    apply ensures_bind
    apply ensures_look
    rw [hfile]
    apply ensures_ite
    · nofun
    · intro _
      apply ensures_bind
      refine (ensures_removeMarker hstored hmarker hne).mono ?_ fun _ _ hw => hw
      rintro - w' ⟨hkeeps, hkept⟩
      refine (ensures_shiftSubtitle offsetSeconds hkeeps hsidecar (hkept.trans hfile)).mono ?_ fun _ _ hw => hw
      rintro - w'' ⟨hkeeps', file, hfile', hshifted⟩
      exact ⟨hkeeps', file, hfile', by rw [generateWhisperSubtitles, hshifted]⟩
  · exact fun _ => h
  · exact fun _ part => h.store hsidecar ⟨part, fates.now⟩

theorem ensures_hearOrMark {mediaFile failedMarkerPath : Path} {media : StoredFile} (h : w.Keeps host files)
    (hmedium : IsMedium mediaFile) (hmarker : ¬ IsMedium failedMarkerPath)
    (hmedia : w.files.lookup mediaFile = some media) :
    (hearOrMark host mediaFile failedMarkerPath fates).Ensures
      (fun heard w' => w'.Keeps host files ∧ ∀ segments, heard = some segments → segments = host.hear media.content)
      (fun _ w' => w'.Keeps host files) w := by
  rw [hearOrMark]
  refine ensures_tryCatch (J := fun _ w' => w'.Keeps host files) ?_ ?_ fun _ hw => hw
  · apply ensures_bind
    refine (ensures_transcribe h hmedium hmedia).mono ?_ fun _ _ hw => hw.1
    rintro segments w' ⟨hkeeps, -, hsegments⟩
    refine ensures_pure ⟨hkeeps, ?_⟩
    rintro _ ⟨⟩
    exact hsegments
  · intro error w' hkeeps
    apply ensures_ite
    · intro _
      apply ensures_bind
      apply ensures_writeText
      · exact ensures_pure ⟨hkeeps.store hmarker _, nofun⟩
      · exact fun _ => hkeeps
      · exact fun _ part => hkeeps.store hmarker ⟨part, fates.now⟩
    · exact fun _ => ensures_halt hkeeps

/-- The file at the path is the whole transcript of the content. -/
def Transcribes (host : SubtitleHost) (content : String) (offsetSeconds : ℚ) (path : Path) (w : SubtitleWorld) : Prop :=
  ∃ file, w.files.lookup path = some file ∧
    generateWhisperSubtitles (host.hear content) offsetSeconds = .ok file.content

theorem ensures_generate {mediaFile subtitlePath : Path} {media : StoredFile} (offsetSeconds : ℚ)
    (h : w.Keeps host files) (hmedium : IsMedium mediaFile) (hmedia : w.files.lookup mediaFile = some media)
    (hsidecar : mediaFile.withSuffix ".srt" = .ok subtitlePath) (habsent : w.files.lookup subtitlePath = none) :
    (generate host mediaFile subtitlePath offsetSeconds fates).Ensures
      (fun made w' => w'.Keeps host files ∧
        ∀ path, made = some path → path = subtitlePath ∧ w'.Transcribes host media.content offsetSeconds path)
      (fun _ w' => w'.Keeps host files) w := by
  rw [generate]
  apply ensures_bind
  apply ensures_ofExcept
  · intro failedMarkerPath hmarkerPath
    have hnot := not_isMedium_sidecar hsidecar
    have hmarker := not_isMedium_marker hsidecar hmarkerPath
    have hstale : w.upToDate subtitlePath mediaFile = .ok false := by
      rw [upToDate, habsent]
      rfl
    apply ensures_bind
    apply ensures_look
    apply ensures_bind
    rw [hstale]
    apply ensures_pure
    apply ensures_ite
    · nofun
    · intro _
      apply ensures_bind
      apply ensures_ofExcept
      · intro marked _
        apply ensures_ite
        · exact fun _ => ensures_pure ⟨h, nofun⟩
        · intro _
          apply ensures_bind
          apply ensures_change
          apply ensures_bind
          have hlogged : ({ w with generating := w.generating ++ [mediaFile] } : SubtitleWorld).Keeps host files :=
            h.of_files _ rfl fun _ _ => rfl
          refine (ensures_hearOrMark hlogged hmedium hmarker hmedia).mono ?_ fun _ _ hw => hw
          rintro heard w' ⟨hkeeps, hheard⟩
          cases heard with
          | none => exact ensures_pure ⟨hkeeps, nofun⟩
          | some segments =>
            obtain rfl := hheard segments rfl
            apply ensures_bind
            refine (ensures_writeSubtitle (host.hear media.content) offsetSeconds hkeeps hnot hmarker
              (marker_ne_sidecar hsidecar hmarkerPath)).mono ?_ fun _ _ hw => hw
            rintro - w'' ⟨hkeeps', file, hfile, hcomplete⟩
            apply ensures_bind
            refine (ensures_cleanup hkeeps').mono ?_ fun _ _ hw => hw
            rintro - w₃ ⟨hkeeps₃, hkept⟩
            refine ensures_pure ⟨hkeeps₃, ?_⟩
            rintro _ ⟨⟩
            exact ⟨rfl, file, hkept.trans hfile, hcomplete⟩
      · exact fun _ _ => h
  · exact fun _ _ => h

/-- What a call returns is the sidecar: one that it has found and left as it was, or a new one that is complete. -/
theorem ensures_createSubtitles {mediaFile : Path} (fates : CallFates) (subtitleOffsetSeconds : Option ℚ)
    (enabled : Bool) (h : w.CacheSound host)
    (hmedium : enabled = true → (w.files.lookup mediaFile).isSome → IsMedium mediaFile) :
    (createSubtitles host mediaFile subtitleOffsetSeconds enabled fates).Ensures
      (fun made w' => w'.Keeps host w.files ∧ ∀ path, made = some path →
        enabled = true ∧ mediaFile.withSuffix ".srt" = .ok path ∧ IsMedium mediaFile ∧
        ∃ media, w.files.lookup mediaFile = some media ∧
          ((w.files.lookup path).isSome → w'.files.lookup path = w.files.lookup path) ∧
          (w.files.lookup path = none →
            w'.Transcribes host media.content (subtitleOffsetSeconds.getD 0) path))
      (fun _ w' => w'.Keeps host w.files) w := by
  have hkeeps : w.Keeps host w.files := ⟨fun _ _ => rfl, h⟩
  rw [createSubtitles]
  apply ensures_bind
  apply ensures_look
  apply ensures_ite
  · rintro ⟨henabled, hexists⟩
    obtain ⟨media, hmedia⟩ := Option.isSome_iff_exists.1 hexists
    have hmedium := hmedium henabled hexists
    refine ensures_tryCatch (J := fun _ w' => w'.Keeps host w.files) ?_ ?_ fun _ hw => hw
    · apply ensures_bind
      apply ensures_run
      · apply ensures_bind
        apply ensures_ofExcept
        · intro subtitlePath hsidecar
          apply ensures_bind
          rw [findExisting]
          apply ensures_bind
          apply ensures_look
          apply ensures_ite
          · intro hfound
            apply ensures_bind
            refine (ensures_cleanup hkeeps).mono ?_ fun _ _ hw => hw
            rintro - w' ⟨hkeeps', hkept⟩
            refine ensures_pure (ensures_pure ⟨hkeeps', ?_⟩)
            rintro _ ⟨⟩
            refine ⟨henabled, hsidecar, hmedium, media, hmedia, fun _ => hkept, ?_⟩
            intro habsent
            rw [habsent] at hfound
            cases hfound
          · intro habsent
            rw [Bool.not_eq_true, Option.isSome_eq_false_iff, Option.isNone_iff_eq_none] at habsent
            apply ensures_pure
            refine (ensures_generate _ hkeeps hmedium hmedia hsidecar habsent).mono ?_ fun _ _ hw => hw
            rintro made w' ⟨hkeeps', hmade⟩
            refine ⟨hkeeps', ?_⟩
            intro path hpath
            obtain ⟨rfl, hcomplete⟩ := hmade path hpath
            refine ⟨henabled, hsidecar, hmedium, media, hmedia, ?_, fun _ => hcomplete⟩
            intro hfound
            rw [habsent] at hfound
            cases hfound
        · exact fun _ _ => hkeeps
      · exact fun _ => hkeeps
    · exact fun _ w' hw => ensures_pure ⟨hw, nofun⟩
  · exact fun _ => ensures_pure ⟨hkeeps, nofun⟩

end

end SubtitleWorld
end GetOffline
