import GetOffline.FreshSubtitles

set_option autoImplicit true

namespace GetOffline
open Python Interruptible Interruptible.Comp

namespace SubtitleWorld

/-- The call says of no medium that subtitles are being generated for it. -/
abbrev KeepsLog (p : SubtitleCall α) : Prop :=
  p.Preserves generating

section
variable {host : SubtitleHost} {mediaFile subtitlePath failedMarkerPath : Path} {fates : CallFates}

theorem keepsLog_run (fate : Fate) : KeepsLog fate.run := by
  cases fate with
  | returns => exact preserves_pure _
  | raises error => exact preserves_halt _
  | dies => exact preserves_halt _

theorem keepsLog_writePart (path : Path) (text : String) (now : Instant) (written : Option Nat) :
    KeepsLog (writePart path text now written) := by
  cases written with
  | some count => exact preserves_change fun _ => rfl
  | none => exact preserves_pure _

theorem keepsLog_writeText (path : Path) (text : String) (now : Instant) (write : WriteFate) :
    KeepsLog (writeText path text now write) := by
  have hcut (fate : Fate) : KeepsLog (do
      writePart path text now write.written
      fate.run : SubtitleCall Unit) :=
    preserves_bind (keepsLog_writePart path text now write.written) fun _ => keepsLog_run fate
  rw [writeText]
  cases write.fate with
  | returns => exact preserves_change fun _ => rfl
  | raises error => exact hcut (.raises error)
  | dies => exact hcut .dies

theorem keepsLog_cleanup : KeepsLog (cleanup host mediaFile subtitlePath fates) := by
  rw [cleanup]
  apply preserves_bind preserves_look
  intro w
  apply preserves_bind (preserves_ofExcept _)
  intro files
  apply preserves_bind
  · exact preserves_change fun _ => rfl
  · exact fun _ => keepsLog_run _

theorem keepsLog_transcribe : KeepsLog (transcribeWithWhisper host mediaFile fates) := by
  rw [transcribeWithWhisper]
  apply preserves_bind preserves_look
  intro w
  cases w.files.lookup mediaFile with
  | none => exact preserves_halt _
  | some media =>
    dsimp only
    cases w.cache.lookup (mediaFile, media.mtime) with
    | some segments => exact preserves_pure _
    | none =>
      apply preserves_bind (keepsLog_run _)
      intro _
      exact preserves_bind (preserves_change fun _ => rfl) fun _ => preserves_pure _

theorem keepsLog_hearOrMark : KeepsLog (hearOrMark host mediaFile failedMarkerPath fates) := by
  rw [hearOrMark]
  apply preserves_tryCatch
  · exact preserves_bind keepsLog_transcribe fun _ => preserves_pure _
  · intro error
    apply preserves_ite
    · exact preserves_bind (keepsLog_writeText _ _ _ _) fun _ => preserves_pure _
    · exact preserves_halt _

theorem keepsLog_shiftSubtitle (offsetSeconds : ℚ) : KeepsLog (shiftSubtitle subtitlePath offsetSeconds fates) := by
  rw [shiftSubtitle]
  apply preserves_ite (preserves_pure _)
  apply preserves_bind (keepsLog_run _)
  intro _
  apply preserves_bind preserves_look
  intro w
  cases w.files.lookup subtitlePath with
  | none => exact preserves_halt _
  | some file =>
    apply preserves_bind (preserves_ofExcept _)
    exact fun _ => keepsLog_writeText _ _ _ _

theorem keepsLog_removeMarker : KeepsLog (removeMarker failedMarkerPath fates) := by
  rw [removeMarker]
  apply preserves_bind preserves_look
  intro w
  apply preserves_ite
  · exact preserves_bind (keepsLog_run _) fun _ => preserves_change fun _ => rfl
  · exact preserves_pure _

theorem keepsLog_writeSubtitle (segments : List WhisperSegment) (offsetSeconds : ℚ) :
    KeepsLog (writeSubtitle subtitlePath failedMarkerPath segments offsetSeconds fates) := by
  rw [writeSubtitle]
  apply preserves_bind (keepsLog_writeText _ _ _ _)
  intro _
  apply preserves_bind preserves_look
  intro w
  apply preserves_ite (preserves_halt _)
  exact preserves_bind keepsLog_removeMarker fun _ => keepsLog_shiftSubtitle offsetSeconds

end

/-- A marker that is not older than the medium says that its transcription has been tried, and has failed. -/
def KnownFailure (mediaFile : Path) (w : SubtitleWorld) : Prop :=
  ∃ subtitlePath failedMarkerPath, mediaFile.withSuffix ".srt" = .ok subtitlePath ∧
    subtitlePath.withSuffix (subtitlePath.suffix ++ ".failed") = .ok failedMarkerPath ∧
    w.upToDate failedMarkerPath mediaFile = .ok true

/-- Between the two states the transcription of the medium has been tried. -/
def Attempted (mediaFile : Path) (w w' : SubtitleWorld) : Prop :=
  w'.generating = w.generating ++ [mediaFile]

/-- Nothing raises before the transcription of the medium, or before its subtitle has been found. -/
structure Reaches (mediaFile : Path) (fates : CallFates) (w : SubtitleWorld) : Prop where
  named : mediaFile.name ≠ ""
  checked : ∀ error, fates.checks ≠ .raises error
  cleaned : ∀ subtitlePath, mediaFile.withSuffix ".srt" = .ok subtitlePath → (w.files.lookup subtitlePath).isSome →
    hasDoubleStar (sidecarPattern mediaFile) = false ∧ ∀ error, fates.cleanup ≠ .raises error

section
variable {host : SubtitleHost} {mediaFile subtitlePath : Path} {fates : CallFates} {w : SubtitleWorld}

theorem not_attempted (h : w'.generating = w.generating) : ¬ Attempted mediaFile w w' := by
  rw [Attempted, h]
  simp

theorem upToDate_ok (path : Path) (h : (w.files.lookup mediaFile).isSome) : ∃ b, w.upToDate path mediaFile = .ok b := by
  obtain ⟨media, hmedia⟩ := Option.isSome_iff_exists.1 h
  rw [upToDate, mtime, mtime, hmedia]
  cases w.files.lookup path with
  | some file => exact ⟨_, rfl⟩
  | none => exact ⟨_, rfl⟩

/-- A subtitle's path has a name, and can take the suffix of a marker. -/
theorem marker_ok (h : mediaFile.withSuffix ".srt" = .ok subtitlePath) :
    ∃ failedMarkerPath, subtitlePath.withSuffix (subtitlePath.suffix ++ ".failed") = .ok failedMarkerPath := by
  have hsuffix : subtitlePath.suffix = ".srt" := suffix_sidecar h
  have hname : subtitlePath.name ≠ "" := by
    intro hempty
    rw [Path.suffix, hempty] at hsuffix
    revert hsuffix
    decide
  rw [hsuffix]
  exact Path.withSuffix_ok hname (by decide) (by decide)

/-- Without a subtitle, and unless a failure is known, the transcription is tried. -/
theorem ensures_generate_attempt (offsetSeconds : ℚ) (hmedia : (w.files.lookup mediaFile).isSome)
    (hsidecar : mediaFile.withSuffix ".srt" = .ok subtitlePath) (habsent : w.files.lookup subtitlePath = none) :
    (generate host mediaFile subtitlePath offsetSeconds fates).Ensures
      (fun made w' => made = none → w.KnownFailure mediaFile ∨ Attempted mediaFile w w')
      (fun _ w' => Attempted mediaFile w w') w := by
  obtain ⟨failedMarkerPath, hmarker⟩ := marker_ok hsidecar
  obtain ⟨marked, hmarked⟩ := upToDate_ok failedMarkerPath hmedia
  have hstale : w.upToDate subtitlePath mediaFile = .ok false := by
    rw [upToDate, habsent]
    rfl
  rw [generate, hmarker]
  apply ensures_bind
  apply ensures_pure
  apply ensures_bind
  apply ensures_look
  rw [hstale, hmarked]
  apply ensures_bind
  apply ensures_pure
  apply ensures_ite
  · intro hfalse
    cases hfalse
  · intro _
    apply ensures_bind
    apply ensures_pure
    apply ensures_ite
    · intro hknown
      subst hknown
      exact ensures_pure fun _ => .inl ⟨subtitlePath, failedMarkerPath, hsidecar, hmarker, hmarked⟩
    · intro _
      apply ensures_bind
      apply ensures_change
      refine ensures_of_preserves ?_ (fun _ _ hlog _ => .inr hlog) fun _ _ hlog => hlog
      apply preserves_bind keepsLog_hearOrMark
      intro heard
      cases heard with
      | none => exact preserves_pure _
      | some segments =>
        apply preserves_bind (keepsLog_writeSubtitle segments offsetSeconds)
        intro _
        exact preserves_bind keepsLog_cleanup fun _ => preserves_pure _

/-- A part that raises is one of which this has been said. -/
theorem ensures_fate (fate : Fate) : fate.run.Ensures (fun _ w' => w' = w ∧ ∀ error, fate ≠ .raises error)
    (fun halted w' => w' = w ∧ (halted = .died ∨ ∃ error, fate = .raises error)) w := by
  cases fate with
  | returns => exact ensures_pure ⟨rfl, by rintro error ⟨⟩⟩
  | raises error => exact ensures_halt ⟨rfl, .inr ⟨error, rfl⟩⟩
  | dies => exact ensures_halt ⟨rfl, .inl rfl⟩

theorem ensures_cleanup_attempt (keepSubtitle : Path) :
    (cleanup host mediaFile keepSubtitle fates).Ensures
      (fun _ _ => hasDoubleStar (sidecarPattern mediaFile) = false ∧ ∀ error, fates.cleanup ≠ .raises error)
      (fun halted w' => w'.generating = w.generating ∧ (halted = .died ∨
        ¬(hasDoubleStar (sidecarPattern mediaFile) = false ∧ ∀ error, fates.cleanup ≠ .raises error))) w := by
  rw [cleanup]
  apply ensures_bind
  apply ensures_look
  apply ensures_bind
  apply ensures_ofExcept
  · intro cleaned hcleaned
    have hstars : hasDoubleStar (sidecarPattern mediaFile) = false := by
      by_contra hstars
      rw [MediaFolder.cleanupSubtitleSidecars, if_pos (eq_true_of_ne_false hstars)] at hcleaned
      cases hcleaned
    apply ensures_bind
    apply ensures_change
    refine (ensures_fate fates.cleanup).mono (fun _ _ h => ⟨hstars, h.2⟩) ?_
    rintro halted w' ⟨rfl, hhalted⟩
    refine ⟨rfl, hhalted.imp_right ?_⟩
    rintro ⟨error, herror⟩ hclean
    exact hclean.2 error herror
  · intro error hcleaned
    refine ⟨rfl, .inr ?_⟩
    intro hclean
    rw [MediaFolder.cleanupSubtitleSidecars, if_neg (Bool.not_eq_true _ ▸ hclean.1)] at hcleaned
    cases hcleaned

theorem ensures_findExisting_attempt (subtitlePath : Path) :
    (findExisting host mediaFile subtitlePath fates).Ensures
      (fun found w' => (found = none → w' = w ∧ w.files.lookup subtitlePath = none) ∧ (found.isSome →
        hasDoubleStar (sidecarPattern mediaFile) = false ∧ ∀ error, fates.cleanup ≠ .raises error))
      (fun halted w' => w'.generating = w.generating ∧ (halted = .died ∨ (w.files.lookup subtitlePath).isSome ∧
        ¬(hasDoubleStar (sidecarPattern mediaFile) = false ∧ ∀ error, fates.cleanup ≠ .raises error))) w := by
  rw [findExisting]
  apply ensures_bind
  apply ensures_look
  apply ensures_ite
  · intro hfound
    apply ensures_bind
    refine (ensures_cleanup_attempt subtitlePath).mono ?_ ?_
    · exact fun _ _ hclean => ensures_pure ⟨by rintro ⟨⟩, fun _ => hclean⟩
    · exact fun _ _ h => ⟨h.1, h.2.imp_right fun hraised => ⟨hfound, hraised⟩⟩
  · intro habsent
    rw [Bool.not_eq_true, Option.isSome_eq_false_iff, Option.isNone_iff_eq_none] at habsent
    exact ensures_pure ⟨fun _ => ⟨rfl, habsent⟩, by rintro ⟨⟩⟩

/-- When a call of which subtitles are wanted returns nothing, either the transcription has been tried, now or before,
or something has raised on the way to it. -/
theorem ensures_createSubtitles_attempt (subtitleOffsetSeconds : Option ℚ) (enabled : Bool) :
    (createSubtitles host mediaFile subtitleOffsetSeconds enabled fates).Ensures
      (fun made w' =>
        (∀ path, made = some path → enabled = true ∧ w.Reaches mediaFile fates) ∧
        (made = none → enabled = true → (w.files.lookup mediaFile).isSome →
          (w.KnownFailure mediaFile ∨ w.Reaches mediaFile fates ↔
            w.KnownFailure mediaFile ∨ Attempted mediaFile w w')))
      (fun halted _ => halted = .died) w := by
  rw [createSubtitles]
  apply ensures_bind
  apply ensures_look
  apply ensures_ite
  · rintro ⟨henabled, hmedia⟩
    -- what raises before the transcription leaves the log as it is
    have hraised (h : ¬ w.Reaches mediaFile fates) {w' : SubtitleWorld} (hlog : w'.generating = w.generating) :
        w.Reaches mediaFile fates ↔ Attempted mediaFile w w' :=
      iff_of_false h (not_attempted hlog)
    refine ensures_tryCatch
      (J := fun halted w' => halted = .died ∨ (w.Reaches mediaFile fates ↔ Attempted mediaFile w w')) ?_ ?_ fun _ _ => rfl
    · apply ensures_bind
      refine (ensures_fate fates.checks).mono ?_ ?_
      · rintro - w' ⟨rfl, hchecked⟩
        apply ensures_bind
        apply ensures_ofExcept
        · intro subtitlePath hsidecar
          have hnamed : mediaFile.name ≠ "" := by
            intro hempty
            rw [Path.withSuffix, Path.withName, if_pos hempty] at hsidecar
            cases hsidecar
          have hreaches (hcleaned : (w'.files.lookup subtitlePath).isSome →
              hasDoubleStar (sidecarPattern mediaFile) = false ∧ ∀ error, fates.cleanup ≠ .raises error) :
              w'.Reaches mediaFile fates := by
            refine ⟨hnamed, hchecked, ?_⟩
            intro path hpath
            obtain rfl := Except.ok.inj (hsidecar.symm.trans hpath)
            exact hcleaned
          apply ensures_bind
          refine (ensures_findExisting_attempt subtitlePath).mono ?_ ?_
          · rintro found w'' ⟨hnone, hsome⟩
            cases found with
            | some path =>
              have hreaches := hreaches fun _ => hsome rfl
              exact ensures_pure ⟨fun _ _ => ⟨henabled, hreaches⟩, by rintro ⟨⟩⟩
            | none =>
              obtain ⟨rfl, habsent⟩ := hnone rfl
              have hreaches := hreaches fun hfound => by
                rw [habsent] at hfound
                cases hfound
              refine (ensures_generate_attempt _ hmedia hsidecar habsent).mono ?_ ?_
              · intro made w₃ hmade
                refine ⟨fun _ _ => ⟨henabled, hreaches⟩, ?_⟩
                intro hnone _ _
                exact iff_of_true (.inr hreaches) (hmade hnone)
              · exact fun _ _ hattempted => .inr (iff_of_true hreaches hattempted)
          · rintro halted w'' ⟨hlog, hhalted⟩
            refine hhalted.imp_right ?_
            rintro ⟨hfound, hunclean⟩
            exact hraised (fun hreaches => hunclean (hreaches.cleaned subtitlePath hsidecar hfound)) hlog
        · intro error hnoSidecar
          refine .inr (hraised ?_ rfl)
          intro hreaches
          obtain ⟨path, hpath⟩ := @Path.withSuffix_ok mediaFile ".srt" hreaches.named (by decide) (by decide)
          rw [hpath] at hnoSidecar
          cases hnoSidecar
      · rintro halted w' ⟨rfl, hhalted⟩
        refine hhalted.imp_right ?_
        rintro ⟨error, herror⟩
        exact hraised (fun hreaches => hreaches.checked error herror) rfl
    · intro error w' hattempted
      refine ensures_pure ⟨by rintro path ⟨⟩, ?_⟩
      intro _ _ _
      exact or_congr_right (hattempted.resolve_left (by rintro ⟨⟩))
  · intro hnot
    refine ensures_pure ⟨by rintro path ⟨⟩, ?_⟩
    intro _ henabled hmedia
    exact absurd ⟨henabled, hmedia⟩ hnot

end
end SubtitleWorld
end GetOffline
