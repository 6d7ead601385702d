import GetOffline.GlobPatterns
import GetOffline.TranscriptJobs

set_option autoImplicit true

namespace GetOffline
open Python

/-- A file: its text, which stands for the bytes of a media file, and when it was last written. -/
structure StoredFile where
  content : String
  mtime : Instant
deriving DecidableEq

/-- The files under their paths. -/
abbrev MediaFolder := Table Path StoredFile

/-- What the file system contributes: where a path leads, and what cannot be unlinked. -/
structure SidecarHost where
  real : Path → Path
  denied : Path → Bool

/-- The paths of `path.parent.glob(pattern)` among the files. -/
def inGlob (folder : Path) (pattern : String) (path : Path) : Bool :=
  path.parent = folder && fnmatch path.name pattern

-- workers/subtitles.py

/-- The suffix is one of `_SUBTITLE_SIDECAR_SUFFIXES`. -/
def isSubtitle (path : Path) : Bool :=
  lower path.suffix ∈ subtitleSidecarSuffixes

def sidecarPattern (mediaFile : Path) : String :=
  mediaFile.stem ++ "*.*"

/-- A path that `_cleanup_subtitle_sidecars` unlinks. -/
def removesSidecar (host : SidecarHost) (mediaFile keepSubtitle path : Path) : Bool :=
  inGlob mediaFile.parent (sidecarPattern mediaFile) path && isSubtitle path &&
    host.real path ≠ host.real keepSubtitle && (mediaFile.stem ++ ".").toList.isPrefixOf path.name.toList &&
    !host.denied path

namespace MediaFolder

def cleanupSubtitleSidecars (host : SidecarHost) (mediaFile keepSubtitle : Path) (folder : MediaFolder) :
    Except Error MediaFolder :=
  if hasDoubleStar (sidecarPattern mediaFile) then .error .valueError
  else .ok (folder.delete fun path _ => removesSidecar host mediaFile keepSubtitle path)

-- workers/content_filter.py

/-- The files that `delete_media_artifacts` unlinks, for a path without links. -/
def deleteMediaArtifacts (host : SidecarHost) (mediaPath : Path) (folder : MediaFolder) : MediaFolder :=
  folder.delete fun path _ =>
    (path = mediaPath || inGlob mediaPath.parent (globEscape mediaPath.stem ++ ".*") path) && !host.denied path

end MediaFolder

/-- The suffixes that `cleanup_subtitle_sidecars_for_folder` takes for those of media files. -/
def mediaExts : List String :=
  [".mp3", ".mp4", ".m4a", ".webm", ".wav", ".flac", ".ogg", ".opus"]

def isMediaName (path : Path) : Bool :=
  lower path.suffix ∈ mediaExts

-- Whose a subtitle is

/-- The path is `<stem>.<anything>` with the suffix of a subtitle. -/
def IsSidecar (media path : Path) : Prop :=
  beside media path = true ∧ isSubtitle path = true

/-- Of two media that a sidecar may be of, it belongs to the one whose stem reaches further into its name, or to
both. -/
def BelongsToOther (media other path : Path) : Prop :=
  IsSidecar other path ∧ media.stem.length ≤ other.stem.length

theorem beside_iff {media path : Path} : beside media path = true ↔
    path.parent = media.parent ∧ (media.stem ++ ".").toList <+: path.name.toList := by
  rw [beside, Bool.and_eq_true, decide_eq_true_eq, List.isPrefixOf_iff_prefix]

theorem inGlob_escape (media path : Path) :
    inGlob media.parent (globEscape media.stem ++ ".*") path = beside media path := by
  rw [inGlob, fnmatch_escape, beside]

/-- The pattern of a stem without a bracket meets all its sidecars. -/
theorem fnmatch_sidecarPattern {media path : Path} (h : '[' ∉ media.stem.toList) (hbeside : beside media path = true) :
    fnmatch path.name (sidecarPattern media) = true := by
  obtain ⟨rest, hrest⟩ := (beside_iff.1 hbeside).2
  have hpattern : (sidecarPattern media).toList = media.stem.toList ++ ['*', '.', '*'] := by
    rw [sidecarPattern, String.toList_append]
    rfl
  have hname : path.name.toList = media.stem.toList ++ '.' :: rest := by
    rw [← hrest, String.toList_append, List.append_assoc]
    rfl
  rw [fnmatch_eq, hpattern, hname]
  apply globMatches_self h
  exact globMatches_star_of_suffix List.suffix_rfl (globMatches_star_nil rest)

namespace MediaFolder

-- The cleanup of the sidecars

/-- A sidecar of the medium that is not the one to keep. -/
def IsExtra (host : SidecarHost) (mediaFile keepSubtitle path : Path) : Prop :=
  IsSidecar mediaFile path ∧ host.real path ≠ host.real keepSubtitle

/-- The cleanup removes the other sidecars of the medium and nothing else, and no file that belongs to another
media file of the folder. -/
def CleansExactly (host : SidecarHost) (mediaFile keepSubtitle : Path) (folder : MediaFolder) : Prop :=
  ∃ cleaned, folder.cleanupSubtitleSidecars host mediaFile keepSubtitle = .ok cleaned ∧
    ∀ path, (IsExtra host mediaFile keepSubtitle path → cleaned.lookup path = none) ∧
      (¬ IsExtra host mediaFile keepSubtitle path → cleaned.lookup path = folder.lookup path) ∧
      ((folder.lookup path).isSome → cleaned.lookup path = none → ∀ other, (folder.lookup other).isSome →
        isMediaName other = true → other ≠ mediaFile → ¬ BelongsToOther mediaFile other path)

theorem removesSidecar_iff {host : SidecarHost} {mediaFile keepSubtitle path : Path} :
    removesSidecar host mediaFile keepSubtitle path = true ↔ IsExtra host mediaFile keepSubtitle path ∧
      fnmatch path.name (sidecarPattern mediaFile) = true ∧ host.denied path = false := by
  rw [removesSidecar, IsExtra, IsSidecar, beside, inGlob]
  simp only [Bool.and_eq_true, decide_eq_true_eq, Bool.not_eq_true']
  constructor
  · rintro ⟨⟨⟨⟨⟨hfolder, hmatch⟩, hsuffix⟩, hkeep⟩, hprefix⟩, hdenied⟩
    exact ⟨⟨⟨⟨hfolder, hprefix⟩, hsuffix⟩, hkeep⟩, hmatch, hdenied⟩
  · rintro ⟨⟨⟨⟨hfolder, hprefix⟩, hsuffix⟩, hkeep⟩, hmatch, hdenied⟩
    exact ⟨⟨⟨⟨⟨hfolder, hmatch⟩, hsuffix⟩, hkeep⟩, hprefix⟩, hdenied⟩

/-- What the cleanup leaves under a path, where the glob takes its pattern. -/
theorem lookup_cleanup {host : SidecarHost} {mediaFile keepSubtitle : Path} {folder cleaned : MediaFolder}
    (h : folder.cleanupSubtitleSidecars host mediaFile keepSubtitle = .ok cleaned) (path : Path) :
    cleaned.lookup path =
      if removesSidecar host mediaFile keepSubtitle path then none else folder.lookup path := by
  rw [cleanupSubtitleSidecars] at h
  split at h
  · cases h
  · obtain rfl := Except.ok.inj h
    rw [Table.lookup_delete]
    cases removesSidecar host mediaFile keepSubtitle path <;> cases folder.lookup path <;> rfl

theorem cleansExactly_iff (host : SidecarHost) (mediaFile keepSubtitle : Path) (folder : MediaFolder) :
    folder.CleansExactly host mediaFile keepSubtitle ↔
      hasDoubleStar (sidecarPattern mediaFile) = false ∧
      ∀ path, (folder.lookup path).isSome → IsExtra host mediaFile keepSubtitle path →
        fnmatch path.name (sidecarPattern mediaFile) = true ∧ host.denied path = false ∧
        ∀ other, (folder.lookup other).isSome → isMediaName other = true → other ≠ mediaFile →
          IsSidecar other path → other.stem.length < mediaFile.stem.length := by
  constructor
  · rintro ⟨cleaned, hcleaned, hexact⟩
    refine ⟨?_, ?_⟩
    · by_contra hstars
      rw [cleanupSubtitleSidecars, if_pos (eq_true_of_ne_false hstars)] at hcleaned
      cases hcleaned
    · intro path hpath hextra
      obtain ⟨hgone, -, hothers⟩ := hexact path
      have hremoved : removesSidecar host mediaFile keepSubtitle path = true := by
        by_contra hspared
        have hkept := hgone hextra
        rw [lookup_cleanup hcleaned, if_neg hspared] at hkept
        rw [hkept] at hpath
        cases hpath
      obtain ⟨-, hmatch, hdenied⟩ := removesSidecar_iff.1 hremoved
      refine ⟨hmatch, hdenied, ?_⟩
      intro other hother hmedia hne hsidecar
      by_contra hshort
      exact hothers hpath (hgone hextra) other hother hmedia hne ⟨hsidecar, not_lt.1 hshort⟩
  · rintro ⟨hstars, hcondition⟩
    have hcleaned : ∃ cleaned, folder.cleanupSubtitleSidecars host mediaFile keepSubtitle = .ok cleaned := by
      rw [cleanupSubtitleSidecars, if_neg (ne_true_of_eq_false hstars)]
      exact ⟨_, rfl⟩
    obtain ⟨cleaned, hcleaned⟩ := hcleaned
    refine ⟨cleaned, hcleaned, ?_⟩
    intro path
    rw [lookup_cleanup hcleaned]
    cases hpath : folder.lookup path with
    | none => simp
    | some file =>
      refine ⟨?_, ?_, ?_⟩
      · intro hextra
        obtain ⟨hmatch, hdenied, -⟩ := hcondition path (by rw [hpath]; rfl) hextra
        rw [if_pos (removesSidecar_iff.2 ⟨hextra, hmatch, hdenied⟩)]
      · intro hextra
        rw [if_neg fun hremoved => hextra (removesSidecar_iff.1 hremoved).1]
      · intro _ hgone other hother hmedia hne hbelongs
        have hremoved : removesSidecar host mediaFile keepSubtitle path = true := by
          by_contra hspared
          rw [if_neg hspared] at hgone
          cases hgone
        exact absurd ((hcondition path (by rw [hpath]; rfl) (removesSidecar_iff.1 hremoved).1).2.2 other hother hmedia
          hne hbelongs.1) (not_lt.2 hbelongs.2)

/-- The cleanup is exact if the glob finds every sidecar to remove and none of them is another medium's. It finds
those of a stem without a bracket. -/
theorem cleanup_exact_iff (host : SidecarHost) (mediaFile keepSubtitle : Path) (folder : MediaFolder) :
    (folder.CleansExactly host mediaFile keepSubtitle ↔
      hasDoubleStar (sidecarPattern mediaFile) = false ∧
      ∀ path, (folder.lookup path).isSome → IsExtra host mediaFile keepSubtitle path →
        fnmatch path.name (sidecarPattern mediaFile) = true ∧ host.denied path = false ∧
        ∀ other, (folder.lookup other).isSome → isMediaName other = true → other ≠ mediaFile →
          IsSidecar other path → other.stem.length < mediaFile.stem.length) ∧
    ('[' ∉ mediaFile.stem.toList → ∀ path, IsSidecar mediaFile path →
      fnmatch path.name (sidecarPattern mediaFile) = true) :=
  ⟨cleansExactly_iff host mediaFile keepSubtitle folder, fun h _ hsidecar => fnmatch_sidecarPattern h hsidecar.1⟩

/-- Files of which only the names matter. -/
def named (names : List String) : MediaFolder :=
  (names.map fun name => ⟨Path.parse ("/downloads/" ++ name), ⟨"", 0⟩⟩).toAList

/-- A host without links that can unlink every file. -/
def plainHost : SidecarHost where
  real path := path
  denied _ := false

/-- The id of a video in its name is read as a set of characters, and its subtitles are not found. -/
theorem id_in_brackets_hides_sidecars : ¬ ∀ (host : SidecarHost) (mediaFile keepSubtitle : Path) (folder : MediaFolder),
    mediaFile.withSuffix ".srt" = .ok keepSubtitle → folder.CleansExactly host mediaFile keepSubtitle := by
  intro h
  have hexact := h plainHost (Path.parse "/downloads/a [x1].mp4") (Path.parse "/downloads/a [x1].srt")
    (named ["a [x1].mp4", "a [x1].srt", "a [x1].en.srt"]) (by decide +kernel)
  have hmatch := (((cleansExactly_iff _ _ _ _).1 hexact).2 (Path.parse "/downloads/a [x1].en.srt") (by decide +kernel)
    ⟨⟨by decide +kernel, by decide +kernel⟩, by decide +kernel⟩).1
  revert hmatch
  decide +kernel

-- The deletion of a medium

/-- The path is the media file of another download or a subtitle that belongs to it. -/
def IsOfOther (downloads : List Path) (mediaPath path : Path) : Prop :=
  ∃ other ∈ downloads, other ≠ mediaPath ∧ (path = other ∨ BelongsToOther mediaPath other path)

/-- The deletion removes the media file and its own subtitles and touches nothing of another download. -/
def DeletesOwn (host : SidecarHost) (downloads : List Path) (mediaPath : Path) (folder : MediaFolder) : Prop :=
  ∀ path, (folder.lookup path).isSome →
    (IsOfOther downloads mediaPath path →
      (folder.deleteMediaArtifacts host mediaPath).lookup path = folder.lookup path) ∧
    (¬ IsOfOther downloads mediaPath path → path = mediaPath ∨ IsSidecar mediaPath path →
      (folder.deleteMediaArtifacts host mediaPath).lookup path = none)

theorem lookup_deleteMediaArtifacts (host : SidecarHost) (mediaPath : Path) (folder : MediaFolder) (path : Path) :
    (folder.deleteMediaArtifacts host mediaPath).lookup path =
      if isMediaArtifact mediaPath path = true ∧ host.denied path = false then none else folder.lookup path := by
  rw [deleteMediaArtifacts, Table.lookup_delete, inGlob_escape, ← isMediaArtifact]
  cases isMediaArtifact mediaPath path <;> cases host.denied path <;> cases folder.lookup path <;> rfl

theorem deletesOwn_iff_denied (host : SidecarHost) (downloads : List Path) (mediaPath : Path) (folder : MediaFolder) :
    folder.DeletesOwn host downloads mediaPath ↔ ∀ path, (folder.lookup path).isSome →
      (IsOfOther downloads mediaPath path → isMediaArtifact mediaPath path = true → host.denied path = true) ∧
      (¬ IsOfOther downloads mediaPath path → path = mediaPath ∨ IsSidecar mediaPath path →
        host.denied path = false) := by
  apply forall_congr'
  intro path
  apply imp_congr_right
  intro hpath
  rw [lookup_deleteMediaArtifacts]
  have hown : path = mediaPath ∨ IsSidecar mediaPath path → isMediaArtifact mediaPath path = true := by
    intro h
    rw [isMediaArtifact, Bool.or_eq_true, decide_eq_true_eq]
    exact h.imp_right And.left
  have hne : folder.lookup path ≠ none := Option.isSome_iff_ne_none.1 hpath
  apply and_congr
  · apply imp_congr_right
    intro _
    constructor
    · intro h hartifact
      by_contra hdenied
      rw [if_pos ⟨hartifact, eq_false_of_ne_true hdenied⟩] at h
      exact hne h.symm
    · intro h
      rw [if_neg]
      rintro ⟨hartifact, hdenied⟩
      rw [h hartifact] at hdenied
      cases hdenied
  · apply imp_congr_right
    intro _
    apply imp_congr_right
    intro hsidecar
    constructor
    · intro h
      by_contra hdenied
      rw [if_neg fun hremoved => hdenied hremoved.2] at h
      exact hne h
    · intro hdenied
      rw [if_pos ⟨hown hsidecar, hdenied⟩]

theorem suffix_cases (name : List Char) :
    (splitSuffix name).2 = [] ∨ ∃ extension, (splitSuffix name).2 = '.' :: extension := by
  unfold splitSuffix
  dsimp only
  split
  · exact .inl rfl
  · split
    · exact .inl rfl
    · exact .inr ⟨_, rfl⟩

theorem dot_prefix_name {path : Path} (h : path.suffix ≠ "") : (path.stem ++ ".").toList <+: path.name.toList := by
  rcases suffix_cases path.name.toList with hnil | ⟨extension, hextension⟩
  · exact absurd (by rw [Path.suffix, hnil]) h
  · refine ⟨extension, ?_⟩
    have hsplit := splitSuffix_append path.name.toList
    rw [hextension] at hsplit
    rw [String.toList_append, Path.stem, String.toList_ofList, List.append_assoc]
    exact hsplit

/-- Where a subtitle of another download goes, that download's media file goes too. -/
theorem beside_other {media other path : Path} (hsuffix : other.suffix ≠ "") (h : BelongsToOther media other path)
    (hbeside : beside media path = true) : beside media other = true := by
  rw [beside_iff] at hbeside ⊢
  obtain ⟨hfolder, hprefix⟩ := beside_iff.1 h.1.1
  refine ⟨hfolder.symm.trans hbeside.1, ?_⟩
  have hle : (media.stem ++ ".").toList.length ≤ (other.stem ++ ".").toList.length := by
    rw [String.toList_append, String.toList_append, List.length_append, List.length_append, String.length_toList,
      String.length_toList]
    exact Nat.add_le_add_right h.2 _
  exact (List.prefix_of_prefix_length_le hbeside.2 hprefix hle).trans (dot_prefix_name hsuffix)

theorem isMediaArtifact_other {media other path : Path} (hsuffix : other.suffix ≠ "")
    (h : BelongsToOther media other path) (hartifact : isMediaArtifact media path = true) :
    beside media other = true := by
  rw [isMediaArtifact, Bool.or_eq_true, decide_eq_true_eq] at hartifact
  rcases hartifact with rfl | hbeside
  · -- the medium has the name of a subtitle
    have hne : path.suffix ≠ "" := by
      intro hempty
      have hsubtitle := h.1.2
      rw [isSubtitle, hempty] at hsubtitle
      exact absurd hsubtitle (by decide)
    exact beside_other hsuffix h (beside_iff.2 ⟨rfl, dot_prefix_name hne⟩)
  · exact beside_other hsuffix h hbeside

/-- Where every file can be unlinked, the names of the media files decide. -/
theorem deletesOwn_iff_names {host : SidecarHost} {downloads : List Path} {mediaPath : Path} {folder : MediaFolder}
    (hfree : ∀ path, host.denied path = false)
    (hfolder : ∀ download ∈ downloads, (folder.lookup download).isSome ∧ download.suffix ≠ "") :
    folder.DeletesOwn host downloads mediaPath ↔
      ∀ other ∈ downloads, other ≠ mediaPath → beside mediaPath other = false := by
  rw [deletesOwn_iff_denied]
  simp only [hfree, implies_true, and_true, Bool.false_eq_true]
  constructor
  · intro h other hother hne
    by_contra hbeside
    apply h other (hfolder other hother).1 ⟨other, hother, hne, .inl rfl⟩
    rw [isMediaArtifact, eq_true_of_ne_false hbeside, Bool.or_true]
  · rintro h path - ⟨other, hother, hne, rfl | hbelongs⟩ hartifact
    · rw [isMediaArtifact, h path hother hne, Bool.or_false, decide_eq_true_eq] at hartifact
      exact hne hartifact
    · have hbeside := isMediaArtifact_other (hfolder other hother).2 hbelongs hartifact
      rw [h other hother hne] at hbeside
      cases hbeside

/-- The deletion is confined to its medium unless a file of another download can be unlinked and its name begins
with the stem and a dot: unless another media file has such a name, where all files can be unlinked. -/
theorem delete_media_artifacts_iff (host : SidecarHost) (downloads : List Path) (mediaPath : Path)
    (folder : MediaFolder) :
    (folder.DeletesOwn host downloads mediaPath ↔ ∀ path, (folder.lookup path).isSome →
      (IsOfOther downloads mediaPath path → isMediaArtifact mediaPath path = true → host.denied path = true) ∧
      (¬ IsOfOther downloads mediaPath path → path = mediaPath ∨ IsSidecar mediaPath path →
        host.denied path = false)) ∧
    ((∀ path, host.denied path = false) →
      (∀ download ∈ downloads, (folder.lookup download).isSome ∧ download.suffix ≠ "") →
      (folder.DeletesOwn host downloads mediaPath ↔
        ∀ other ∈ downloads, other ≠ mediaPath → beside mediaPath other = false)) :=
  ⟨deletesOwn_iff_denied host downloads mediaPath folder, deletesOwn_iff_names⟩

/-- `a.mp3` takes `a.b.mp3` with it. -/
theorem longer_stem_is_deleted : ¬ ∀ (host : SidecarHost) (downloads : List Path) (mediaPath : Path)
    (folder : MediaFolder), mediaPath ∈ downloads → (∀ download ∈ downloads, (folder.lookup download).isSome) →
      folder.DeletesOwn host downloads mediaPath := by
  intro h
  have hown := h plainHost [Path.parse "/downloads/a.mp3", Path.parse "/downloads/a.b.mp3"]
    (Path.parse "/downloads/a.mp3") (named ["a.mp3", "a.b.mp3"]) (by decide +kernel) (by decide +kernel)
  have hdenied := ((deletesOwn_iff_denied _ _ _ _).1 hown (Path.parse "/downloads/a.b.mp3") (by decide +kernel)).1
    ⟨Path.parse "/downloads/a.b.mp3", by decide +kernel, by decide +kernel, .inl rfl⟩ (by decide +kernel)
  cases hdenied

end MediaFolder
end GetOffline
