import GetOffline.MediaKept
import GetOffline.PythonStrip
import GetOffline.RetentionSchedule

set_option autoImplicit true

namespace Python

theorem Path.dot_notMem_extension (path : Path) : '.' ∉ path.extension.toList := by
  rw [extension, String.toList_ofList, suffix, String.toList_ofList]
  have htail := dot_notMem_suffix path.name.toList
  cases hsuffix : (splitSuffix path.name.toList).2 with
  | nil => exact List.not_mem_nil
  | cons c cs =>
    rw [hsuffix, List.tail_cons] at htail
    rw [List.dropWhile_cons]
    split
    · exact fun h => htail (List.dropWhile_subset _ h)
    · next hc =>
      rw [List.mem_cons, not_or]
      exact ⟨fun hdot => hc (decide_eq_true hdot.symm), htail⟩

theorem dot_notMem_lower {text : String} (h : '.' ∉ text.toList) : '.' ∉ (lower text).toList := by
  rw [lower, String.toList_ofList, List.mem_map]
  rintro ⟨c, hc, hlower⟩
  rcases lowerChar_cases c with hsame | hletter
  · rw [hsame] at hlower
    exact h (hlower ▸ hc)
  · rw [hlower] at hletter
    exact absurd hletter (by decide)

theorem dot_notMem_strip {text : String} (h : '.' ∉ text.toList) : '.' ∉ (strip text).toList := by
  rw [strip, String.toList_ofList]
  exact fun hin => h (mem_of_mem_stripChars hin)

end Python

namespace GetOffline
open Python Effects Program

/-- The conversion settings of the profile are unset, or values that the settings page takes. -/
def ConversionSettings (profileId : String) (settings : SettingsTable) : Prop :=
  ∀ key values, (key, values) ∈ configEnumRules → ∀ text,
    settings.lookup (profileId, key) = some text → lower (strip text) ∈ values

/-- Each item of an accepted form has passed its rule. -/
theorem configItems_taken {post : Form} (h : invalidConfigKeys post = [])
    (hrule : (key, values) ∈ configEnumRules) (hitem : (key, text) ∈ configItems post) :
    lower (strip text) ∈ values := by
  obtain ⟨⟨name, value⟩, hentry, hpair⟩ := List.mem_map.1 hitem
  obtain ⟨hkey, rfl⟩ := Prod.mk.inj hpair
  obtain ⟨hmem, hstart⟩ := List.mem_filter.1 hentry
  obtain ⟨rest, hrest⟩ := List.isPrefixOf_iff_prefix.1 hstart
  have hname : "config__" ++ key = name := by
    have hlength : "config__".length = "config__".toList.length := String.length_toList.symm
    rw [← String.toList_inj, String.toList_append, ← hkey, String.toList_ofList, ← hrest, hlength,
      List.drop_left, String.toList_ofList]
    rfl
  have hposted : post.lookup ("config__" ++ key) = some value := by
    rw [hname]
    exact Table.mem_entries_iff.1 hmem
  obtain ⟨-, henums⟩ := List.append_eq_nil_iff.1 h
  have hnone := List.filter_eq_nil_iff.1 (List.map_eq_nil_iff.1 henums) (key, values) hrule
  rw [hposted, Option.any_some, decide_eq_true_iff, not_not] at hnone
  exact hnone

theorem ConversionSettings.insert (h : ConversionSettings profileId settings)
    (htaken : ∀ values, (key, values) ∈ configEnumRules → lower (strip text) ∈ values) (other : String) :
    ConversionSettings profileId (AList.insert (other, key) text settings) := by
  intro key' values hrule text' hrow
  by_cases hsame : (profileId, key') = (other, key)
  · obtain ⟨rfl, rfl⟩ := Prod.mk.inj hsame
    rw [AList.lookup_insert] at hrow
    obtain rfl := Option.some.inj hrow
    exact htaken values hrule
  · rw [AList.lookup_insert_ne hsame] at hrow
    exact h key' values hrule text' hrow

/-- The settings page keeps the settings to those that it takes. -/
theorem ConversionSettings.save (h : ConversionSettings profileId settings) (other : String) (post : Form)
    (now : Instant) (newId : Nat) (acquired : Bool) (writes : Option Nat) (schedules : ScheduleTable) :
    ConversionSettings profileId
      (saveConfig other post now newId acquired writes settings schedules).2.1 := by
  have hstore (hvalid : invalidConfigKeys post = []) :
      ConversionSettings profileId (storeConfig other post writes settings) := by
    have hitems : ∀ item ∈ (configItems post).take (writes.getD (configItems post).length),
        ∀ values, (item.1, values) ∈ configEnumRules → lower (strip item.2) ∈ values :=
      fun item hitem values hrule => configItems_taken hvalid hrule (List.mem_of_mem_take hitem)
    rw [storeConfig]
    revert hitems
    generalize (configItems post).take (writes.getD (configItems post).length) = items
    intro hitems
    induction items generalizing settings with
    | nil => exact h
    | cons item items ih =>
      rw [List.foldl_cons]
      apply ih (h.insert (hitems item List.mem_cons_self) other)
      exact fun item hitem => hitems item (List.mem_cons_of_mem _ hitem)
  rw [saveConfig]
  split
  · exact h
  · next hvalid =>
    have hstored := hstore (not_not.1 hvalid)
    split
    · exact h
    · split
      · exact hstored
      · split
        · exact hstored
        · split
          · exact hstored
          · exact hstored

namespace Library

def downloadRequiresFfmpeg (host : Host) (download : Download) (payload : Columns) (s : Library) :
    DownloadFfmpegRequirement :=
  let mediaKind := s.preferredMediaKind host download payload
  let profileId := host.str (download.get "profile_id")
  let targetExt := s.preferredTargetExt profileId mediaKind
  let ext := host.textOr (some (download.get "file_ext")) ""
  let currentExt := lower <| strip <|
    if ext = "" then (Path.parse (host.textOr (some (download.get "file_path")) "")).extension else ext
  if mediaKind = "video" then
    ⟨currentExt ≠ targetExt || s.videoCodec profileId ∉ ["copy", ""], mediaKind, targetExt⟩
  else ⟨currentExt ≠ targetExt, mediaKind, targetExt⟩

def downloadedMediaRequiresFfmpeg (profileId mediaKind currentExt : String) (inputCount : Nat)
    (s : Library) : DownloadedMediaFfmpegRequirement :=
  let targetExt := s.conversionExt profileId mediaKind
  let normalizedExt := String.ofList ((lower (strip currentExt)).toList.dropWhile fun c => c = '.')
  if mediaKind = "video" then
    ⟨1 < inputCount || normalizedExt ≠ targetExt || s.videoCodec profileId ∉ ["copy", ""], targetExt⟩
  else ⟨normalizedExt ≠ targetExt, targetExt⟩

end Library

section
variable {host : Host} {permits : Library → {β : Type} → HandlerOp β → Prop} {s : Library}
  (hquery : ∀ {γ : Type} (op : HandlerOp γ), op.IsQuery → permits s op)
include hquery

theorem tells_downloadRequiresFfmpeg (download : Download) (payload : Columns) :
    Tells (undisturbed host permits) (GetOffline.downloadRequiresFfmpeg host download payload) s
      (s.downloadRequiresFfmpeg host download payload) := by
  rw [GetOffline.downloadRequiresFfmpeg, Library.downloadRequiresFfmpeg]
  apply Tells.bind (tells_preferredMediaKind hquery download payload)
  apply Tells.bind (tells_preferredTargetExt hquery _ _)
  apply tells_ite
  · intro _
    exact Tells.bind (tells_videoCodec hquery _) (tells_pure _)
  · exact fun _ => tells_pure _

theorem tells_downloadedMediaRequiresFfmpeg (profileId mediaKind currentExt : String) (inputCount : Nat) :
    Tells (undisturbed host permits)
      (GetOffline.downloadedMediaRequiresFfmpeg profileId mediaKind currentExt inputCount) s
      (s.downloadedMediaRequiresFfmpeg profileId mediaKind currentExt inputCount) := by
  rw [GetOffline.downloadedMediaRequiresFfmpeg, Library.downloadedMediaRequiresFfmpeg]
  apply Tells.bind (tells_conversionExt hquery _ _)
  apply tells_ite
  · intro _
    exact Tells.bind (tells_videoCodec hquery _) (tells_pure _)
  · exact fun _ => tells_pure _

end

section
variable (host : Host) (download : Download) (payload : Columns) (s : Library)

@[simp] theorem downloadRequiresFfmpeg_mediaKind : (s.downloadRequiresFfmpeg host download payload).mediaKind =
    s.preferredMediaKind host download payload := by
  rw [Library.downloadRequiresFfmpeg, apply_ite DownloadFfmpegRequirement.mediaKind, ite_self]

@[simp] theorem downloadRequiresFfmpeg_targetExt : (s.downloadRequiresFfmpeg host download payload).targetExt =
    s.preferredTargetExt (host.str (download.get "profile_id"))
      (s.preferredMediaKind host download payload) := by
  rw [Library.downloadRequiresFfmpeg, apply_ite DownloadFfmpegRequirement.targetExt, ite_self]

@[simp] theorem downloadedMediaRequiresFfmpeg_targetExt (profileId mediaKind currentExt : String)
    (inputCount : Nat) :
    (s.downloadedMediaRequiresFfmpeg profileId mediaKind currentExt inputCount).targetExt =
      s.conversionExt profileId mediaKind := by
  rw [Library.downloadedMediaRequiresFfmpeg, apply_ite DownloadedMediaFfmpegRequirement.targetExt,
    ite_self]

end

/-- The payload's kind comes first. -/
theorem preferredMediaKind_requested (host : Host) (download : Download) (s : Library) :
    s.preferredMediaKind host download [("media_type", .string "audio")] = "audio" := by
  have hrequested : mediaTypeOr host [("media_type", .string "audio")] "" = "audio" := by
    have htext : host.textOr (Json.get "media_type" [("media_type", .string "audio")]) "" = "audio" :=
      host.textOr_text "audio"
    rw [mediaTypeOr, htext]
    decide
  have hkind : isMediaKind "audio" = true := by decide
  rw [Library.preferredMediaKind, hrequested]
  exact if_pos hkind

/-- The row is one of the profile, and names the file. -/
structure Download.Names (profileId : String) (file : Path) (download : Download) : Prop where
  profile : download.get "profile_id" = .string profileId
  path : download.get "file_path" = .string file.str
  ext : download.get "file_ext" = .string file.extension

/-- The two deciders name the same extension for a file, and agree whether it is to be converted. -/
def DecidersAgree (host : Host) (profileId : String) (s : Library) : Prop :=
  ∀ download payload file requirement requirement' t t', download.Names profileId file →
    RunsTo host (downloadRequiresFfmpeg host download payload) s requirement t →
    RunsTo host (downloadedMediaRequiresFfmpeg profileId requirement.mediaKind file.extension 1) s
      requirement' t' →
    requirement'.targetExt = requirement.targetExt ∧
      requirement'.requiresFfmpeg = requirement.requiresFfmpeg

/-- The kinds whose extension is the one that the profile wants. -/
theorem conversionExt_eq {s : Library} (haudio : s.preferredTargetExt profileId "audio" = "mp3") (mediaKind : String) :
    s.conversionExt profileId mediaKind = s.preferredTargetExt profileId mediaKind := by
  rw [Library.conversionExt]
  split
  · next hkind => rw [hkind, haudio]
  · rfl

theorem deciders_eq {s : Library} {download : Download} {profileId : String} {file : Path}
    (host : Host) (payload : Columns) (hnames : download.Names profileId file)
    (haudio : s.preferredTargetExt profileId "audio" = "mp3") :
    s.downloadedMediaRequiresFfmpeg profileId (s.downloadRequiresFfmpeg host download payload).mediaKind
        file.extension 1 =
      ⟨(s.downloadRequiresFfmpeg host download payload).requiresFfmpeg,
        (s.downloadRequiresFfmpeg host download payload).targetExt⟩ := by
  have hprofile : host.str (download.get "profile_id") = profileId := by
    rw [hnames.profile]
    rfl
  have hext : host.textOr (some (download.get "file_ext")) "" = file.extension := by
    rw [hnames.ext, Host.textOr_text]
  have hpath : (Path.parse (host.textOr (some (download.get "file_path")) "")).extension =
      file.extension := by
    rw [hnames.path, Host.textOr_text, Path.parse_str]
  have hdots : (lower (strip file.extension)).toList.dropWhile (fun c => c = '.') =
      (lower (strip file.extension)).toList := by
    rw [List.dropWhile_eq_self_iff]
    intro hlength hdot
    have hfirst := List.getElem_mem hlength
    rw [of_decide_eq_true hdot] at hfirst
    exact dot_notMem_lower (dot_notMem_strip file.dot_notMem_extension) hfirst
  have hmedia (mediaKind : String) :
      s.downloadedMediaRequiresFfmpeg profileId mediaKind file.extension 1 =
        if mediaKind = "video" then
          ⟨lower (strip file.extension) ≠ s.preferredTargetExt profileId mediaKind ||
            s.videoCodec profileId ∉ ["copy", ""], s.preferredTargetExt profileId mediaKind⟩
        else ⟨lower (strip file.extension) ≠ s.preferredTargetExt profileId mediaKind,
          s.preferredTargetExt profileId mediaKind⟩ := by
    rw [Library.downloadedMediaRequiresFfmpeg, hdots, String.ofList_toList, conversionExt_eq haudio]
    simp only [Nat.lt_irrefl, decide_false, Bool.false_or]
  rw [Library.downloadRequiresFfmpeg, hprofile, hext, hpath, ite_self]
  generalize s.preferredMediaKind host download payload = mediaKind
  by_cases hvideo : mediaKind = "video"
  · rw [if_pos hvideo, hmedia]
    dsimp only
    rw [if_pos hvideo]
  · rw [if_neg hvideo, hmedia]
    dsimp only
    rw [if_neg hvideo]

theorem runsTo_eq {p : Handler α} {s t : Library} {a b : α} (htells : Tells (alone host) p s a)
    (hrun : RunsTo host p s b t) : b = a :=
  (htells.eq_of_steps hrun).2

/-- The deciders agree when the profile wants MP3, and only then. -/
theorem decidersAgree_iff (host : Host) (profileId : String) (s : Library) :
    DecidersAgree host profileId s ↔ s.preferredTargetExt profileId "audio" = "mp3" := by
  have hquery {γ : Type} (op : HandlerOp γ) (_ : op.IsQuery) : True := trivial
  constructor
  · intro h
    let download : Download := ⟨0, [("profile_id", .string profileId), ("file_path", .string "/"),
      ("file_ext", .string "")]⟩
    have hnames : download.Names profileId (Path.parse "/") :=
      ⟨rfl, congrArg Json.string (by decide +kernel), congrArg Json.string (by decide +kernel)⟩
    have hrun : RunsTo host _ s _ s :=
      (tells_downloadRequiresFfmpeg hquery download [("media_type", .string "audio")]).can
    have hrun' : RunsTo host _ s _ s :=
      (tells_downloadedMediaRequiresFfmpeg hquery profileId
        (s.downloadRequiresFfmpeg host download [("media_type", .string "audio")]).mediaKind
        (Path.parse "/").extension 1).can
    have hagree := (h download _ _ _ _ s s hnames hrun hrun').1
    have hprofile : host.str (download.get "profile_id") = profileId := rfl
    rw [downloadedMediaRequiresFfmpeg_targetExt, downloadRequiresFfmpeg_targetExt,
      downloadRequiresFfmpeg_mediaKind, preferredMediaKind_requested, hprofile] at hagree
    exact hagree.symm
  · intro haudio download payload file requirement requirement' t t' hnames hrun hrun'
    have htells : Tells (alone host) _ s _ := tells_downloadRequiresFfmpeg hquery download payload
    have hsame := runsTo_eq htells hrun
    have htells' : Tells (alone host) _ s _ :=
      tells_downloadedMediaRequiresFfmpeg hquery profileId requirement.mediaKind file.extension 1
    have hsame' := runsTo_eq htells' hrun'
    rw [hsame', hsame, deciders_eq host payload hnames haudio]
    simp only [and_self]

-- The post-processor

/-- A name that `_target_path` makes up ends in the extension. -/
theorem FreeName.extension_eq {path : Path} (hext : targetExt ∈ ["mp3", "mp4", "mkv"])
    (h : FreeName host s source targetExt path) : path.extension = targetExt := by
  have hclean : ∀ ext ∈ ["mp3", "mp4", "mkv"],
      String.ofList ((lower ext).toList.dropWhile fun c => c = '.') = ext ∧ ext ≠ "" ∧
        ext.toList ≠ [] ∧ '.' ∉ ext.toList ∧ ext.toList.dropWhile (fun c => c = '.') = ext.toList := by
    decide
  obtain ⟨hlower, hne, hnil, hdot, hdrop⟩ := hclean targetExt hext
  obtain ⟨rounds, h⟩ := h
  rw [targetPath, hlower, if_neg hne] at h
  obtain ⟨-, counter, hname⟩ := targetPathFrom_spec h
  have hparts : path.name.toList = (source.stem ++ ".converted" ++
      (if counter = 0 then "" else "-" ++ toString counter)).toList ++ '.' :: targetExt.toList := by
    rw [Path.name_withName hname, targetName, String.toList_append, String.toList_append,
      List.append_assoc]
    rfl
  have hstem : (source.stem ++ ".converted" ++
      (if counter = 0 then "" else "-" ++ toString counter)).toList ≠ [] := by
    rw [String.toList_append, String.toList_append, List.append_assoc]
    refine List.append_ne_nil_of_right_ne_nil _ (List.append_ne_nil_of_left_ne_nil ?_ _)
    decide
  rw [Path.extension, Path.suffix, hparts, splitSuffix_of_parts hstem hnil hdot, String.toList_ofList,
    List.dropWhile_cons_of_pos (by decide), hdrop, String.ofList_toList]

/-- What a run for a row that returns comes to: the row as it was, or one with a new file. -/
inductive RowOutcome (host : Host) (profileId : String) (payload : Columns) (s : Library)
    (download : Download) : Download → Library → Prop
  | skipped (h : Skips host payload s download) : RowOutcome host profileId payload s download download s
  | converted {mediaKind targetExt : String} {sources : ConversionSources} {target outputRoot : Path}
      {size outputSize : Nat} {completedAt lastSeenAt : Instant} {downloads : Downloads} {t u : Library}
      (hconverts : ConvertsAs host profileId payload s (.row download) mediaKind targetExt sources target t)
      (hsaved : t.downloads.saveFields download.id
        (convertedColumns target outputRoot outputSize completedAt lastSeenAt) = .ok downloads)
      (hdeletes : OnlyDeletes host sources.all target { t.withFile host target size with downloads } u) :
      RowOutcome host profileId payload s download ⟨download.id, Json.update
        (convertedColumns target outputRoot outputSize completedAt lastSeenAt) download.columns⟩ u

section
variable {host : Host} {profileId parentJobId : String} {payload : Columns} {s t : Library}
  {download saved : Download}

theorem rowOutcome_of_run {found : Option Download}
    (hfound : (ConversionSubject.row download).FoundIn profileId payload s)
    (hrun : RunsTo host (postprocessDownloadWithFfmpeg host profileId payload parentJobId) s found t) :
    ∃ saved, found = some saved ∧ RowOutcome host profileId payload s download saved t := by
  have hmeets : (postprocessDownloadWithFfmpeg host profileId payload parentJobId).Meets (alone host)
      (Ends (fun _ => True) fun found t =>
        ∃ saved, found = some saved ∧ RowOutcome host profileId payload s download saved t) s := by
    apply undisturbed_postprocess
    · exact fun _ _ {_} _ _ => trivial
    · exact fun _ _ => trivial
    · intro other hother hskips
      obtain rfl := ConversionSubject.row.inj (hfound.unique hother)
      exact ⟨other, rfl, .skipped hskips⟩
    · intro subject mediaKind targetExt sources target t hconverts
      obtain rfl := hfound.unique hconverts.found
      apply undisturbed_convert_row
      · exact fun _ _ {_} _ _ => trivial
      · exact fun _ => trivial
      · trivial
      · exact fun _ _ => trivial
      · exact fun _ _ _ => trivial
      · intro size outputRoot outputSize completedAt lastSeenAt downloads u hsaved hdeletes
        exact ⟨trivial, _, rfl, .converted hconverts hsaved hdeletes⟩
    · exact fun _ _ _ _ => trivial
    · exact fun hnone => absurd hfound (hnone download)
  exact (meets_pure.1 (hmeets.steps hrun fun _ _ _ _ hnext => hnext)).2 found rfl

theorem RowOutcome.settings (h : RowOutcome host profileId payload s download saved t) :
    t.settings = s.settings := by
  cases h with
  | skipped h => rfl
  | converted hconverts hsaved hdeletes =>
    obtain ⟨files, rfl⟩ := hdeletes.rest
    exact hconverts.grown.settings

theorem RowOutcome.profile (hfound : (ConversionSubject.row download).FoundIn profileId payload s)
    (h : RowOutcome host profileId payload s download saved t) :
    saved.get "profile_id" = .string profileId := by
  have hprofile : download.get "profile_id" = .string profileId := (Downloads.byId_iff.1 hfound.2).2.2
  cases h with
  | skipped h => exact hprofile
  | converted hconverts hsaved hdeletes =>
    rw [Download.get, Json.get_update]
    exact hprofile

/-- After a run the row has the extension that its profile wants, and if it is an audio row, it does not
have to be converted again. -/
structure RowSettles (host : Host) (profileId : String) (payload : Columns) (s : Library)
    (download saved : Download) (t : Library) : Prop where
  ext : saved.get "file_ext" =
    .string (s.preferredTargetExt profileId (s.preferredMediaKind host download payload))
  done : s.preferredMediaKind host download payload = "audio" → ∀ payload' requirement t',
    RunsTo host (downloadRequiresFfmpeg host saved payload') t requirement t' →
      requirement.mediaKind = "audio" → requirement.requiresFfmpeg = false

/-- What a run leaves in place, or is told to make, has the extension that the profile wants, and no link
without a file leads the run elsewhere. -/
structure TargetFits (host : Host) (profileId : String) (payload : Columns) (s : Library)
    (download : Download) : Prop where
  kept : Skips host payload s download → download.get "file_ext" =
    .string (s.preferredTargetExt profileId (s.preferredMediaKind host download payload))
  explicit : hasTarget payload = true → ¬ Skips host payload s download →
    (explicitTarget host payload (.row download)).extension =
      s.preferredTargetExt profileId (s.preferredMediaKind host download payload)
  linked : hasTarget payload = false →
    (∀ path ∈ (conversionSources host payload (.row download)).all, s.files.node host path ≠ none) →
    ∀ path, FreeName host s (conversionSources host payload (.row download)).first
      (s.conversionExt profileId (s.preferredMediaKind host download payload)) path →
    (host.real path).extension =
      s.preferredTargetExt profileId (s.preferredMediaKind host download payload)

/-- What the settings page takes, or the default. -/
theorem conversionExt_mem (hsettings : ConversionSettings profileId s.settings) (mediaKind : String) :
    s.conversionExt profileId mediaKind ∈ ["mp3", "mp4", "mkv"] := by
  rw [Library.conversionExt]
  split
  · decide
  · next hkind =>
    rw [Library.preferredTargetExt, if_neg hkind, if_neg hkind, Library.workerSetting]
    cases hrow : s.settings.lookup (profileId, "video_format") with
    | none => decide
    | some text =>
      have htaken := hsettings "video_format" ["mp4", "mkv"] (by decide) text hrow
      rw [Option.filter_some]
      split
      · exact List.mem_cons_of_mem _ htaken
      · decide

/-- A row with the extension that its profile wants for audio does not have to be converted. -/
theorem audio_requires_nothing {ext : String} (hprofile : saved.get "profile_id" = .string profileId)
    (hsaved : saved.get "file_ext" = .string ext) (hext : ext = s.preferredTargetExt profileId "audio")
    (hne : ext = "mp3") (payload : Columns)
    (hkind : (s.downloadRequiresFfmpeg host saved payload).mediaKind = "audio") :
    (s.downloadRequiresFfmpeg host saved payload).requiresFfmpeg = false := by
  rw [downloadRequiresFfmpeg_mediaKind] at hkind
  have hstr : host.str (saved.get "profile_id") = profileId := by
    rw [hprofile]
    rfl
  have htext : host.textOr (some (saved.get "file_ext")) "" = "mp3" := by
    rw [hsaved, Host.textOr_text, hne]
  have hplain : lower (strip "mp3") = "mp3" := by decide
  have hnot : ¬ ("audio" : String) = "video" := by decide
  rw [Library.downloadRequiresFfmpeg, hstr, htext, hkind, if_neg hnot, if_neg (by decide), hplain, ← hext, hne]
  simp only [ne_eq, not_true_eq_false, decide_false]

theorem RowOutcome.requires_nothing (h : RowOutcome host profileId payload s download saved t)
    (hfound : (ConversionSubject.row download).FoundIn profileId payload s)
    (haudio : s.preferredTargetExt profileId "audio" = "mp3")
    (hsaved : saved.get "file_ext" = .string "mp3") (payload' : Columns)
    {requirement : DownloadFfmpegRequirement} {t' : Library}
    (hrun : RunsTo host (downloadRequiresFfmpeg host saved payload') t requirement t')
    (hkind : requirement.mediaKind = "audio") : requirement.requiresFfmpeg = false := by
  have hquery {γ : Type} (op : HandlerOp γ) (_ : op.IsQuery) : True := trivial
  have htells : Tells (alone host) _ t _ := tells_downloadRequiresFfmpeg hquery saved payload'
  have hsame := runsTo_eq htells hrun
  have hext : t.preferredTargetExt profileId "audio" = "mp3" := by
    rw [Library.preferredTargetExt, Library.workerSetting, h.settings]
    exact haudio
  rw [hsame] at hkind ⊢
  exact audio_requires_nothing (h.profile hfound) hsaved hext.symm rfl payload' hkind

/-- The row has the extension that its profile wants exactly when the target fits. -/
theorem RowOutcome.ext_iff (h : RowOutcome host profileId payload s download saved t)
    (hsettings : ConversionSettings profileId s.settings)
    (haudio : s.preferredTargetExt profileId "audio" = "mp3") :
    saved.get "file_ext" =
        .string (s.preferredTargetExt profileId (s.preferredMediaKind host download payload)) ↔
      TargetFits host profileId payload s download := by
  cases h with
  | skipped hskips =>
    constructor
    · intro hext
      refine ⟨fun _ => hext, fun _ hnot => absurd hskips hnot, fun hnone => ?_⟩
      rw [hskips.1] at hnone
      cases hnone
    · exact fun hfits => hfits.kept hskips
  | @converted mediaKind targetExt sources target outputRoot size outputSize completedAt lastSeenAt
      downloads t u hconverts hsaved hdeletes =>
    have hdue := hconverts.due download rfl
    have hkind : mediaKind = s.preferredMediaKind host download payload := hconverts.kind
    have hext : targetExt = s.conversionExt profileId mediaKind := hconverts.ext
    have htext : Download.get "file_ext" ⟨download.id, Json.update
        (convertedColumns target outputRoot outputSize completedAt lastSeenAt) download.columns⟩ =
        .string target.extension := by
      rw [Download.get, Json.get_update]
      rfl
    rw [htext, Json.string.injEq]
    constructor
    · intro htarget
      refine ⟨fun hskips => absurd hskips hdue, ?_, ?_⟩
      · intro hexplicit _
        rw [← hconverts.explicit hexplicit]
        exact htarget
      · intro hnone hinputs path hpath
        rcases hconverts.named hnone with ⟨-, hsources, path', hpath', hreal⟩ | ⟨⟨gone, hgone, hmissing⟩, -⟩
        · rw [hsources, hext, hkind] at hpath'
          rw [← htarget, hreal, hpath.unique hpath']
          rfl
        · exact absurd hmissing (hinputs gone hgone)
    · intro hfits
      cases hexplicit : hasTarget payload with
      | true =>
        rw [hconverts.explicit hexplicit]
        exact hfits.explicit hexplicit hdue
      | false =>
        rcases hconverts.named hexplicit with ⟨hsame, hsources, path, hpath, hreal⟩ | ⟨-, hpath⟩
        · have hinputs := hconverts.inputs
          rw [hsame, hsources] at hinputs
          rw [hsources, hext, hkind] at hpath
          rw [hreal]
          exact hfits.linked hexplicit hinputs path hpath
        · have hmem := conversionExt_mem hsettings mediaKind
          rw [← hext] at hmem
          rw [hpath.extension_eq hmem, hext, conversionExt_eq haudio, hkind]

/-- The deciders of conversion agree, and the row comes to rest, exactly when the profile wants MP3 for audio
and the target has the extension that it wants. -/
theorem conversion_deciders_iff (hsettings : ConversionSettings profileId s.settings)
    (hfound : (ConversionSubject.row download).FoundIn profileId payload s)
    (hrun : RunsTo host (postprocessDownloadWithFfmpeg host profileId payload parentJobId) s (some saved) t) :
    DecidersAgree host profileId s ∧ RowSettles host profileId payload s download saved t ↔
      s.preferredTargetExt profileId "audio" = "mp3" ∧ TargetFits host profileId payload s download := by
  obtain ⟨saved', hsaved, houtcome⟩ := rowOutcome_of_run hfound hrun
  obtain rfl := Option.some.inj hsaved
  rw [decidersAgree_iff]
  apply and_congr_right
  intro haudio
  rw [← houtcome.ext_iff hsettings haudio]
  constructor
  · exact fun h => h.ext
  · intro hext
    refine ⟨hext, ?_⟩
    intro hkind payload' requirement t' hrun' hkind'
    rw [hkind, haudio] at hext
    exact houtcome.requires_nothing hfound haudio hext payload' hrun' hkind'

end

/-- The episode, in a profile that wants the given format for audio. -/
def formatLibrary (format : String) : Library :=
  { episodeLibrary with settings := AList.insert ("p", "audio_format") format ∅ }

theorem formatLibrary_settings (h : format ∈ ["mp3", "m4a", "opus"]) :
    ConversionSettings "p" (formatLibrary format).settings := by
  have hplain : ∀ format ∈ ["mp3", "m4a", "opus"], lower (strip format) = format := by decide
  intro key values hrule text hrow
  by_cases hkey : ("p", key) = ("p", "audio_format")
  · obtain rfl := (Prod.mk.inj hkey).2
    rw [formatLibrary, AList.lookup_insert] at hrow
    obtain rfl := Option.some.inj hrow
    have hvalues : ∀ values, ("audio_format", values) ∈ configEnumRules → values = ["mp3", "m4a", "opus"] := by
      intro values hrule
      rcases List.mem_cons.1 hrule with h | h
      · exact (Prod.mk.inj h).2
      · rcases List.mem_pair.1 h with h | h
        · exact absurd (Prod.mk.inj h).1 (by decide)
        · exact absurd (Prod.mk.inj h).1 (by decide)
    rw [hvalues values hrule, hplain format h]
    exact h
  · rw [formatLibrary, AList.lookup_insert_ne hkey] at hrow
    cases hrow

/-- The row of the episode. -/
def episodeRow : Download :=
  ⟨1, [("profile_id", .string "p"), ("file_path", .string "/d/N/a.webm")]⟩

theorem episodeRow_found (format : String) :
    (ConversionSubject.row episodeRow).FoundIn "p" audioPayload (formatLibrary format) :=
  ⟨rfl, rfl⟩

theorem format_runs (h : format = "mp3" ∨ format = "m4a") : ∃ saved t, RunsTo .plain
    (postprocessDownloadWithFfmpeg .plain "p" audioPayload "7") (formatLibrary format) (some saved) t := by
  have hserve : ∀ format ∈ ["mp3", "m4a"],
      ((postprocessDownloadWithFfmpeg .plain "p" audioPayload "7").serve (FairReply.answer .plain)
        (List.replicate 22 audioReply) (formatLibrary format)).any (fun r => r.1.toOption.join.isSome) =
          true := by
    decide +kernel
  obtain ⟨⟨r, t⟩, hrun, hr⟩ := (Option.any_eq_true _ _).1 (hserve format (List.mem_pair.2 h))
  obtain ⟨saved, hsaved⟩ := Option.isSome_iff_exists.1 hr
  cases r with
  | error e => cases hsaved
  | ok found =>
    obtain rfl : found = some saved := hsaved
    exact ⟨saved, t, steps_of_serve_ok (fun i op _ _ hr => ⟨i.reply, i.fair op, hr⟩) hrun⟩

theorem mp3_row_settles : ∃ saved t, RunsTo .plain (postprocessDownloadWithFfmpeg .plain "p" audioPayload "7")
      (formatLibrary "mp3") (some saved) t ∧
    DecidersAgree .plain "p" (formatLibrary "mp3") ∧
      RowSettles .plain "p" audioPayload (formatLibrary "mp3") episodeRow saved t := by
  obtain ⟨saved, t, hrun⟩ := format_runs (.inl rfl)
  have hsettings := @formatLibrary_settings "mp3" (by decide)
  have haudio : (formatLibrary "mp3").preferredTargetExt "p" "audio" = "mp3" := by decide +kernel
  have hkind : (formatLibrary "mp3").preferredMediaKind .plain episodeRow audioPayload = "audio" := by
    decide +kernel
  have htarget : hasTarget audioPayload = false := by decide +kernel
  refine ⟨saved, t, hrun, (conversion_deciders_iff hsettings (episodeRow_found "mp3") hrun).2 ⟨haudio, ?_⟩⟩
  constructor
  · intro hskips
    cases hskips.1.symm.trans htarget
  · intro hexplicit
    cases hexplicit.symm.trans htarget
  · intro _ _ path hpath
    have hext := hpath.extension_eq (conversionExt_mem hsettings _)
    rw [hkind, conversionExt_eq haudio] at hext
    rw [hkind]
    exact hext

/-- An audio format other than MP3 is looked at by one of the deciders only. -/
theorem audio_format_is_ignored : ¬ ∀ (host : Host) (profileId parentJobId : String) (payload : Columns)
    (s t : Library) (download saved : Download), ConversionSettings profileId s.settings →
      (ConversionSubject.row download).FoundIn profileId payload s →
      RunsTo host (postprocessDownloadWithFfmpeg host profileId payload parentJobId) s (some saved) t →
      DecidersAgree host profileId s ∧ RowSettles host profileId payload s download saved t := by
  intro h
  obtain ⟨saved, t, hrun⟩ := format_runs (.inr rfl)
  have hagree := (h .plain "p" "7" audioPayload _ t episodeRow saved
    (formatLibrary_settings (by decide)) (episodeRow_found "m4a") hrun).1
  have hformat : (formatLibrary "m4a").preferredTargetExt "p" "audio" = "m4a" := by decide +kernel
  rw [decidersAgree_iff, hformat] at hagree
  exact absurd hagree (by decide)

end GetOffline
