import GetOffline.DiscoveryOnce

set_option autoImplicit true

namespace GetOffline
open Python Effects Program

-- api/services/settings.py

/-- `PROFILE_DEFAULTS`. -/
def profileDefaults : List (String × String) :=
  [("output_root", "./downloads/default"), ("processing_workers", "2"), ("auto_update_minutes", "20"),
    ("auto_delete_content_days", "0"), ("manual_upload_delete_explicit_content", "0"),
    ("audio_format", "mp3"), ("video_format", "mp4"), ("video_codec", "h264"),
    ("ffmpeg_path", "ffmpeg"), ("audio_quality", "0"),
    ("ffmpeg_audio_filter", "loudnorm=I=-14:TP=-1.5:LRA=11"), ("ytdlp_video_max_height", "720"),
    ("max_downloads", "3"), ("js_runtime_path", "qjs")]

namespace Library

/-- What `profile_settings(profile_id)` has under the key. -/
def profileSettings (profileId key : String) (s : Library) : Option String :=
  (s.settings.lookup (profileId, key)).or <| (s.appSettings.lookup key).or <|
    if key = "output_root" then some ("./downloads/" ++ profileId) else profileDefaults.lookup key

/-- `profile_output_root`. -/
def profileOutputRoot (host : Host) (profileId : String) (s : Library) : Path :=
  let own := s.settings.lookup (profileId, "output_root")
  let shared := s.appSettings.lookup "output_root"
  host.resolve (((own.filter fun text => text ≠ "").or (shared.filter fun text => text ≠ "")).getD
    "./downloads/default")

/-- What `_profile_setting` gives a worker. -/
def workerSetting (profileId key default : String) (s : Library) : String :=
  ((s.settings.lookup (profileId, key)).filter fun text => text ≠ "").getD default

/-- What `_download_output_root` gives a worker. -/
def workerOutputRoot (host : Host) (profileId : String) (s : Library) : Path :=
  host.absolute (s.workerSetting profileId "output_root" ("./downloads/" ++ profileId))

end Library

/-- The settings of the page that workers read with `_profile_setting`, and the defaults that they name. -/
def callSiteDefaults : List (String × String) :=
  [("audio_format", "mp3"), ("video_format", "mp4"), ("video_codec", "h264"), ("ffmpeg_path", "ffmpeg"),
    ("audio_quality", "0"), ("ffmpeg_audio_filter", ""), ("ytdlp_video_max_height", "720"),
    ("js_runtime_path", "qjs")]

section
variable {host : Host} {s : Library} {replies : List Reply} {past : List Record}

theorem profileSetting_meets (host : Host) (profileId key default : String) (s : Serial) :
    (profileSetting profileId key default).Meets (serial host) (fun r s' => s'.library = s.library ∧
      ∀ text, r = .ok text → text = s.library.workerSetting profileId key default) s := by
  have hreads : (HandlerOp.profileSetting profileId key).Reads host s.library
      (s.library.settings.lookup (profileId, key)) :=
    reads_of_settle fun _ => rfl
  apply reads_bind hreads
  · apply meets_pure.2
    refine ⟨rfl, ?_⟩
    intro text htext
    exact (Except.ok.inj htext).symm
  · intro e
    refine ⟨rfl, ?_⟩
    intro text htext
    cases htext

/-- What a worker reads is the effective value. -/
theorem profileSetting_run
    (hrun : runSerially host (profileSetting profileId key default) replies s = some (.ok text, s')) :
    text = s.workerSetting profileId key default :=
  (runSerially_meets (profileSetting_meets host profileId key default ⟨[], s⟩) hrun).2 text rfl

theorem downloadOutputRoot_run
    (hrun : runSerially host (downloadOutputRoot host profileId) replies s = some (.ok root, s')) :
    root = s.workerOutputRoot host profileId := by
  have hmeets : (downloadOutputRoot host profileId).Meets (serial host) (fun r _ =>
      ∀ root, r = .ok root → root = s.workerOutputRoot host profileId) ⟨[], s⟩ := by
    apply Meets.bind (profileSetting_meets host profileId "output_root" ("./downloads/" ++ profileId) _)
    · rintro text s' ⟨-, htext⟩
      apply meets_pure.2
      intro root hroot
      rw [← Except.ok.inj hroot, htext text rfl]
      rfl
    · rintro e s' - root hroot
      cases hroot
  exact runSerially_meets hmeets hrun root rfl

theorem sourceLimit_run
    (hrun : runSerially host (sourceLimit source) replies s = some (.ok limit, s')) :
    s.sourceLimit source = .ok limit := by
  have h : Working s ([] : List JobArgs) 0 [] ⟨[], s⟩ := ⟨rfl, .refl _, .refl _, rfl, rfl⟩
  exact (runSerially_meets (sourceLimit_meets h source) hrun).1

end

/-- The limit of a source is the number that is shown for `max_downloads`. -/
def Library.LimitShown (source : SourceConfig) (s : Library) : Prop :=
  ∃ text limit, s.profileSettings source.profileId "max_downloads" = some text ∧
    isDigit (strip text) = true ∧ intOfText (strip text) = .ok (Int.ofNat limit) ∧
    s.sourceLimit source = .ok limit

/-- What the workers act on for a profile is what the page and the API report. -/
structure OneConfiguration (host : Host) (profileId : String) (s : Library) : Prop where
  settings : ∀ key default, (key, default) ∈ callSiteDefaults →
    s.profileSettings profileId key = some (s.workerSetting profileId key default)
  root : s.profileSettings profileId "output_root" =
    some (s.workerSetting profileId "output_root" ("./downloads/" ++ profileId))
  path : s.profileOutputRoot host profileId = host.real (s.workerOutputRoot host profileId)
  limits : ∀ source : SourceConfig, source.profileId = profileId →
    source.maxDownloads = none ∨ source.maxDownloads = some 0 → s.LimitShown source

/-- The rows of the two tables, key by key: a row of the profile decides when it is not empty (the audio
filter may be); without one, the shared row must be absent or say what the worker falls back to. -/
structure SettledRows (host : Host) (profileId : String) (s : Library) : Prop where
  settings : ∀ key default, (key, default) ∈ callSiteDefaults →
    match s.settings.lookup (profileId, key) with
    | some text => text ≠ "" ∨ key = "ffmpeg_audio_filter"
    | none => s.appSettings.lookup key = some default ∨
      s.appSettings.lookup key = none ∧ key ≠ "ffmpeg_audio_filter"
  root : match s.settings.lookup (profileId, "output_root") with
    | some text => text ≠ ""
    | none => s.appSettings.lookup "output_root" = some ("./downloads/" ++ profileId) ∨
      s.appSettings.lookup "output_root" = none ∧
        host.resolve "./downloads/default" = host.resolve ("./downloads/" ++ profileId)
  limit : match s.settings.lookup (profileId, "max_downloads") with
    | some text => ∃ limit, isDigit (strip text) = true ∧ intOfText (strip text) = .ok limit ∧ 1 ≤ limit
    | none => ∃ text, s.appSettings.lookup "max_downloads" = some text ∧ isDigit (strip text) = true ∧
      intOfText (strip text) = .ok 10

section
variable {host : Host} {profileId : String} {s : Library}

/-- The defaults of the page are those of the workers, but for the audio filter. -/
theorem profileDefaults_callSite : ∀ setting ∈ callSiteDefaults, setting.1 ≠ "output_root" ∧
    (setting.1 = "ffmpeg_audio_filter" ↔ setting.2 = "") ∧
    (profileDefaults.lookup setting.1 = some setting.2 ↔ setting.1 ≠ "ffmpeg_audio_filter") := by
  decide

theorem setting_agrees_iff {key default : String} (hsetting : (key, default) ∈ callSiteDefaults) :
    s.profileSettings profileId key = some (s.workerSetting profileId key default) ↔
      match s.settings.lookup (profileId, key) with
      | some text => text ≠ "" ∨ key = "ffmpeg_audio_filter"
      | none => s.appSettings.lookup key = some default ∨
        s.appSettings.lookup key = none ∧ key ≠ "ffmpeg_audio_filter" := by
  obtain ⟨hroot, hempty, hdefault⟩ := profileDefaults_callSite _ hsetting
  dsimp only at hroot hempty hdefault
  rw [Library.profileSettings, Library.workerSetting, if_neg hroot]
  cases s.settings.lookup (profileId, key) with
  | some text =>
    dsimp only
    rw [Option.some_or]
    by_cases htext : text = ""
    · subst text
      rw [hempty, Option.some_inj]
      constructor
      · intro h
        exact .inr h.symm
      · rintro (h | h)
        · exact absurd rfl h
        · exact h.symm
    · constructor
      · intro _
        exact .inl htext
      · intro _
        rw [Option.filter_some, if_pos (by rw [decide_eq_true_eq]; exact htext), Option.getD_some]
  | none =>
    dsimp only
    rw [Option.none_or, Option.filter_none, Option.getD_none]
    cases s.appSettings.lookup key with
    | some shared =>
      rw [Option.some_or]
      constructor
      · exact .inl
      · rintro (h | ⟨h, -⟩)
        · exact h
        · cases h
    | none =>
      rw [Option.none_or, hdefault]
      constructor
      · intro h
        exact .inr ⟨rfl, h⟩
      · rintro (h | ⟨-, h⟩)
        · cases h
        · exact h

theorem filter_nonempty {text : String} (h : text ≠ "") :
    (some text).filter (fun text => text ≠ "") = some text := by
  rw [Option.filter_some, if_pos (decide_eq_true h)]

theorem downloads_ne_empty (profileId : String) : "./downloads/" ++ profileId ≠ "" := by
  intro h
  have hlist := congrArg String.toList h
  rw [String.toList_append] at hlist
  cases hlist

theorem root_agrees_iff : (s.profileSettings profileId "output_root" =
      some (s.workerSetting profileId "output_root" ("./downloads/" ++ profileId)) ∧
    s.profileOutputRoot host profileId = host.real (s.workerOutputRoot host profileId)) ↔
      match s.settings.lookup (profileId, "output_root") with
      | some text => text ≠ ""
      | none => s.appSettings.lookup "output_root" = some ("./downloads/" ++ profileId) ∨
        s.appSettings.lookup "output_root" = none ∧
          host.resolve "./downloads/default" = host.resolve ("./downloads/" ++ profileId) := by
  rw [Library.profileSettings, Library.profileOutputRoot, Library.workerOutputRoot, Library.workerSetting,
    if_pos rfl]
  cases s.settings.lookup (profileId, "output_root") with
  | some text =>
    dsimp only
    by_cases htext : text = ""
    · subst text
      constructor
      · rintro ⟨h, -⟩
        exact absurd (Option.some.inj h).symm (downloads_ne_empty profileId)
      · exact fun h => absurd rfl h
    · rw [filter_nonempty htext]
      exact ⟨fun _ => htext, fun _ => ⟨rfl, rfl⟩⟩
  | none =>
    dsimp only
    rw [Option.none_or, Option.filter_none, Option.getD_none, Option.none_or]
    cases s.appSettings.lookup "output_root" with
    | some shared =>
      rw [Option.some_or]
      constructor
      · rintro ⟨h, -⟩
        exact .inl h
      · rintro (h | ⟨h, -⟩)
        · rw [h, filter_nonempty (downloads_ne_empty profileId)]
          exact ⟨rfl, rfl⟩
        · cases h
    | none =>
      rw [Option.none_or, Option.filter_none, Option.getD_none]
      constructor
      · rintro ⟨-, h⟩
        exact .inr ⟨rfl, h⟩
      · rintro (h | ⟨-, h⟩)
        · cases h
        · exact ⟨rfl, h⟩

theorem isDigit_empty : isDigit (strip "") = false := by
  decide

theorem intOfText_three : intOfText (strip "3") = .ok 3 := by
  decide

theorem sourceLimit_unset {source : SourceConfig}
    (hsource : source.maxDownloads = none ∨ source.maxDownloads = some 0) (s : Library) :
    s.sourceLimit source =
      if isDigit (strip ((s.settings.lookup (source.profileId, "max_downloads")).getD "")) then
        (intOfText (strip ((s.settings.lookup (source.profileId, "max_downloads")).getD ""))).map
          fun limit => (max 1 limit).toNat
      else .ok 10 := by
  rcases hsource with h | h <;> rw [Library.sourceLimit, h]

theorem limit_agrees_iff {source : SourceConfig} (hprofile : source.profileId = profileId)
    (hsource : source.maxDownloads = none ∨ source.maxDownloads = some 0) : s.LimitShown source ↔
      match s.settings.lookup (profileId, "max_downloads") with
      | some text => ∃ limit, isDigit (strip text) = true ∧ intOfText (strip text) = .ok limit ∧ 1 ≤ limit
      | none => ∃ text, s.appSettings.lookup "max_downloads" = some text ∧ isDigit (strip text) = true ∧
        intOfText (strip text) = .ok 10 := by
  rw [Library.LimitShown, sourceLimit_unset hsource, hprofile, Library.profileSettings]
  cases s.settings.lookup (profileId, "max_downloads") with
  | some text =>
    dsimp only
    rw [Option.some_or, Option.getD_some]
    constructor
    · rintro ⟨text', limit, htext, hdigit, hint, hlimit⟩
      obtain rfl := Option.some.inj htext
      rw [if_pos hdigit, hint] at hlimit
      refine ⟨_, hdigit, hint, ?_⟩
      have hmax : (max 1 (limit : Int)).toNat = limit := Except.ok.inj hlimit
      rw [Int.ofNat_eq_natCast]
      omega
    · rintro ⟨limit, hdigit, hint, hpos⟩
      refine ⟨text, limit.toNat, rfl, hdigit, ?_, ?_⟩
      · rw [hint, Int.ofNat_eq_natCast, Int.toNat_of_nonneg (by omega)]
      · rw [if_pos hdigit, hint, Except.map, max_eq_right hpos]
  | none =>
    dsimp only
    rw [Option.none_or, Option.getD_none, isDigit_empty, if_neg Bool.false_ne_true]
    cases s.appSettings.lookup "max_downloads" with
    | some shared =>
      rw [Option.some_or]
      constructor
      · rintro ⟨text, limit, htext, hdigit, hint, hlimit⟩
        obtain rfl := Except.ok.inj hlimit
        exact ⟨text, htext, hdigit, hint⟩
      · rintro ⟨text, htext, hdigit, hint⟩
        exact ⟨text, 10, htext, hdigit, hint, rfl⟩
    | none =>
      constructor
      · rintro ⟨text, limit, htext, -, hint, hlimit⟩
        obtain rfl := Except.ok.inj hlimit
        obtain rfl : "3" = text := Option.some.inj htext
        rw [intOfText_three] at hint
        cases hint
      · rintro ⟨text, htext, -⟩
        cases htext

end

/-- The workers act on what is reported exactly where the rows leave no room for a default that differs. -/
theorem one_configuration_iff (host : Host) (profileId : String) (s : Library) :
    OneConfiguration host profileId s ↔ SettledRows host profileId s := by
  -- some source has no limit of its own
  let plainSource : SourceConfig := {
    profileId := profileId
    sourceType := "podcast"
    position := 0
    name := ""
    url := ""
    mediaType := none
    enabled := true
    subtitles := false
    subtitleOffsetSeconds := none
    maxDownloads := none
    deleteExplicitContent := false
    includeShorts := false
    includeLivestreams := false
    titleExclude := none }
  constructor
  · intro h
    constructor
    · intro key default hsetting
      exact (setting_agrees_iff hsetting).1 (h.settings key default hsetting)
    · exact root_agrees_iff.1 ⟨h.root, h.path⟩
    · exact (limit_agrees_iff rfl (.inl rfl)).1 (h.limits plainSource rfl (.inl rfl))
  · intro h
    obtain ⟨hroot, hpath⟩ := root_agrees_iff.2 h.root
    refine ⟨?_, hroot, hpath, ?_⟩
    · intro key default hsetting
      exact (setting_agrees_iff hsetting).2 (h.settings key default hsetting)
    · intro source hprofile hsource
      exact (limit_agrees_iff hprofile hsource).2 h.limit

/-- Without any rows the workers apply no audio filter, and the page shows one. -/
theorem no_rows_two_configurations : ¬OneConfiguration .plain "p" podcastLibrary := by
  intro h
  have hfilter := h.settings "ffmpeg_audio_filter" "" (by decide)
  exact absurd (Option.some.inj hfilter) (by decide)

end GetOffline
