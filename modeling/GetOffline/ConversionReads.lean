import GetOffline.EffectReads
import GetOffline.Settings
import GetOffline.UndisturbedRuns

set_option autoImplicit true

namespace GetOffline
open Python Effects Program

namespace Library

/-- What `_preferred_media_kind` finds. -/
def preferredMediaKind (host : Host) (download : Download) (payload : Columns) (s : Library) : String :=
  let requested := mediaTypeOr host payload ""
  let sourceType := host.str (download.get "source_type")
  let source := s.sourceNamed (host.str (download.get "profile_id")) sourceType
    (host.str (download.get "source_name"))
  let sourceMediaType := lower (strip ((source.bind SourceConfig.mediaType).getD ""))
  if isMediaKind requested then requested
  else if isMediaKind sourceMediaType then sourceMediaType
  else if parseStrEnum SourceType sourceType = some .podcast then "audio"
  else if lower (host.textOr (some (download.get "file_ext")) "") ∈ ["mp4", "mkv", "webm", "mov"] then "video"
  else "audio"

/-- The extension that the profile's settings name for the kind. -/
def preferredTargetExt (profileId mediaKind : String) (s : Library) : String :=
  lower <| strip <| s.workerSetting profileId
    (if mediaKind = "audio" then "audio_format" else "video_format")
    (if mediaKind = "audio" then "mp3" else "mp4")

def videoCodec (profileId : String) (s : Library) : String :=
  lower (strip (s.workerSetting profileId "video_codec" "h264"))

/-- The extension into which media of the kind is converted. -/
def conversionExt (profileId mediaKind : String) (s : Library) : String :=
  if mediaKind = "audio" then "mp3" else s.preferredTargetExt profileId mediaKind

def conversionKind (host : Host) (payload : Columns) (s : Library) : ConversionSubject → String
  | .row download => s.preferredMediaKind host download payload
  | .deferred _ _ => host.textOr (Json.get "media_type" payload) "video"

end Library

/-- The first name beside the source that is free. -/
def FreeName (host : Host) (s : Library) (source : Path) (targetExt : String) (path : Path) : Prop :=
  ∃ rounds, targetPath (fun path => (s.files.node host path).isSome) rounds source targetExt =
    some (.ok path)

theorem targetPathFrom_more {files : Path → Bool} {source : Path} {cleanExt : String}
    {rounds rounds' counter : Nat} {r : Except Error Path}
    (h : targetPathFrom files source cleanExt rounds counter = some r) (hle : rounds ≤ rounds') :
    targetPathFrom files source cleanExt rounds' counter = some r := by
  induction rounds generalizing counter rounds' with
  | zero => cases h
  | succ rounds ih =>
    cases rounds' with
    | zero => exact absurd hle (Nat.not_succ_le_zero rounds)
    | succ rounds' =>
      rw [targetPathFrom] at h ⊢
      split at h
      · exact h
      · next candidate hname =>
        split at h
        · next htaken =>
          rw [if_pos htaken]
          exact ih h (Nat.le_of_succ_le_succ hle)
        · next hfree =>
          rw [if_neg hfree]
          exact h

/-- The answer of `_target_path` does not depend on how long it is followed. -/
theorem targetPath_unique {files : Path → Bool} {source : Path} {targetExt : String} {rounds rounds' : Nat}
    {r r' : Except Error Path} (h : targetPath files rounds source targetExt = some r)
    (h' : targetPath files rounds' source targetExt = some r') : r = r' := by
  rcases Nat.le_total rounds rounds' with hle | hle
  · exact Option.some.inj ((targetPathFrom_more h hle).symm.trans h')
  · exact Option.some.inj (h.symm.trans (targetPathFrom_more h' hle))

theorem FreeName.unique (h : FreeName host s source targetExt path)
    (h' : FreeName host s source targetExt path') : path = path' := by
  obtain ⟨rounds, h⟩ := h
  obtain ⟨rounds', h'⟩ := h'
  exact Except.ok.inj (targetPath_unique h h')

theorem foldl_missing {present : Path → Bool} (paths missing : List Path) :
    paths.foldl (fun missing path => if present path then missing else missing ++ [path]) missing =
      missing ++ paths.filter fun path => !present path := by
  induction paths generalizing missing with
  | nil => exact (List.append_nil missing).symm
  | cons path paths ih =>
    rw [List.foldl_cons, ih, List.filter_cons]
    cases present path with
    | true => rfl
    | false => exact List.append_assoc missing [path] _

/-- What it takes to find a row by its key. -/
theorem Downloads.byId_iff {pk : Json} {profileId : String} {t : Downloads} {download : Download} :
    t.byId pk profileId = .ok (some download) ↔ pk.toInt = .ok (download.id : Int) ∧
      t.rows.lookup download.id = some download.columns ∧
        download.get "profile_id" = .string profileId := by
  have hmatches (row : Columns) : Columns.matches [("profile_id", .string profileId)] row = true ↔
      (Json.get "profile_id" row).getD .null = .string profileId := by
    rw [Columns.matches, List.all_cons, List.all_nil, Bool.and_true]
    refine ⟨Json.eq_of_same, fun h => ?_⟩
    rw [h]
    exact beq_self_eq_true profileId
  have hid : (download.id : Int).toNat? = some download.id := rfl
  constructor
  · intro h
    obtain ⟨hpk, hrow⟩ := Downloads.byId_spec h
    refine ⟨hpk, hrow, ?_⟩
    rw [Downloads.byId, hpk] at h
    have hfound := Except.ok.inj h
    rw [hid, Option.bind_some, hrow, Option.bind_some] at hfound
    split at hfound
    · next hprofile => exact (hmatches _).1 hprofile
    · cases hfound
  · rintro ⟨hpk, hrow, hprofile⟩
    have hfound : (download.id : Int).toNat?.bind (fun id => (t.rows.lookup id).bind fun row =>
        if Columns.matches [("profile_id", .string profileId)] row then some (⟨id, row⟩ : Download)
        else none) = some download := by
      rw [hid, Option.bind_some, hrow, Option.bind_some, if_pos ((hmatches _).2 hprofile)]
    rw [Downloads.byId, hpk]
    exact congrArg Except.ok hfound

/-- A run of the handler that nothing else interferes with, and that returns. -/
abbrev RunsTo (host : Host) (p : Handler α) (s : Library) (a : α) (t : Library) : Prop :=
  Steps (alone host) p s (.done a) t

section
variable {host : Host} {permits : Library → {β : Type} → HandlerOp β → Prop} {s : Library}

/-- A call that is answered from the library. -/
theorem tells_settle {op : HandlerOp α} (hop : permits s op) (hfair : op.Fair {})
    (h : ∀ reply, op.run host reply s = some (Reply.settle reply (.ok (a, s)) s)) :
    Tells (undisturbed host permits) (perform op) s a := by
  apply tells_perform hop
  · rintro r t ⟨reply, -, hrun⟩
    obtain ⟨hsame, ha | ⟨e, he⟩⟩ := reads_of_settle h reply (r, t) hrun
    · refine ⟨hsame, ?_⟩
      intro b hb
      exact Except.ok.inj (hb.symm.trans ha)
    · refine ⟨hsame, ?_⟩
      intro b hb
      cases hb.symm.trans he
  · exact ⟨{}, hfair, h {}⟩

variable (hquery : ∀ {γ : Type} (op : HandlerOp γ), op.IsQuery → permits s op)
include hquery

theorem tells_node (path : Path) :
    Tells (undisturbed host permits) (perform (.node path)) s (s.files.node host path) :=
  tells_settle (hquery (.node path) trivial) trivial fun _ => rfl

theorem tells_profileSetting (profileId key default : String) :
    Tells (undisturbed host permits) (profileSetting profileId key default) s
      (s.workerSetting profileId key default) :=
  Tells.bind (tells_settle (hquery (.profileSetting profileId key) trivial) trivial fun _ => rfl)
    (tells_pure _)

theorem tells_preferredTargetExt (profileId mediaKind : String) :
    Tells (undisturbed host permits) (GetOffline.preferredTargetExt profileId mediaKind) s
      (s.preferredTargetExt profileId mediaKind) :=
  Tells.bind (tells_profileSetting hquery _ _ _) (tells_pure _)

theorem tells_videoCodec (profileId : String) :
    Tells (undisturbed host permits) (GetOffline.videoCodec profileId) s (s.videoCodec profileId) :=
  Tells.bind (tells_profileSetting hquery _ _ _) (tells_pure _)

theorem tells_conversionExt (profileId mediaKind : String) :
    Tells (undisturbed host permits)
      (if mediaKind = "audio" then pure "mp3" else GetOffline.preferredTargetExt profileId mediaKind) s
      (s.conversionExt profileId mediaKind) :=
  tells_ite (fun _ => tells_pure _) fun _ => tells_preferredTargetExt hquery _ _

theorem tells_preferredMediaKind (download : Download) (payload : Columns) :
    Tells (undisturbed host permits) (GetOffline.preferredMediaKind host download payload) s
      (s.preferredMediaKind host download payload) := by
  have hsource (profileId sourceType sourceName : String) :
      Tells (undisturbed host permits) (perform (.sourceNamed profileId sourceType sourceName)) s
        (s.sourceNamed profileId sourceType sourceName) :=
    tells_settle (hquery (.sourceNamed profileId sourceType sourceName) trivial) trivial fun _ => rfl
  rw [GetOffline.preferredMediaKind, Library.preferredMediaKind]
  dsimp only
  apply tells_ite
  · exact fun _ => tells_pure _
  · intro _
    apply Tells.bind (hsource _ _ _)
    apply tells_ite
    · exact fun _ => tells_pure _
    · intro _
      apply tells_ite
      · exact fun _ => tells_pure _
      · exact fun _ => tells_ite (fun _ => tells_pure _) fun _ => tells_pure _

/-- The paths that are found missing. -/
theorem tells_missingPaths (present : Option Node → Bool) (paths : List Path) :
    Tells (undisturbed host permits) (missingPaths present paths) s
      (paths.filter fun path => !present (s.files.node host path)) := by
  have hround : ∀ missing, ∀ path ∈ paths, Tells (undisturbed host permits) (do
        let node ← perform (HandlerOp.node path)
        return if present node then missing else missing ++ [path] : Handler (List Path)) s
      (if present (s.files.node host path) then missing else missing ++ [path]) :=
    fun missing path _ => Tells.bind (tells_node hquery path) (tells_pure _)
  have hloop := Tells.foldlM hround []
  rw [foldl_missing] at hloop
  exact hloop

theorem tells_conversionKind (payload : Columns) (subject : ConversionSubject) :
    Tells (undisturbed host permits) (GetOffline.conversionKind host payload subject) s
      (s.conversionKind host payload subject) := by
  cases subject with
  | row download => exact tells_preferredMediaKind hquery download payload
  | deferred lookup defaults => exact tells_pure _

end

end GetOffline
