import GetOffline.PythonFloatOrder
import GetOffline.Transcripts

set_option autoImplicit true

namespace GetOffline
open Python

namespace LibraryTables

/-- The segments that `transcript_search` answers. -/
def transcriptHits (rules : TextRules) (profileId query : String) (t : LibraryTables) :
    List (Nat × TranscriptSegment) :=
  (t.segments.rows.orderBy
    (fun _ segment => rules.icontains query segment.text && (t.searchable profileId segment).isSome)
    fun id segment => toLex (segment.downloadId, toLex (segment.startSeconds.toRat.getD 0, id))).take 50

/-- What `transcript_search` shows for a segment. -/
def searchResult (profileId : String) (t : LibraryTables) (segment : TranscriptSegment) :
    Option (Except Error TranscriptResult) :=
  (t.searchable profileId segment).map (transcriptResult segment)

theorem transcriptSearch_eq (rules : TextRules) (profileId : String) (q : Option String)
    (t : LibraryTables) :
    t.transcriptSearch rules profileId q =
      if (strip (orEmptyText q)).length < 2 then .ok []
      else ((t.transcriptHits rules profileId (strip (orEmptyText q))).filterMap fun e =>
        t.searchResult profileId e.2).mapM fun result => result := rfl

/-- The player that a link of the search opens. -/
def opened (hasSubtitles : DownloadRow → Bool) (profileId : String) (url : PlayerUrl)
    (t : LibraryTables) : Answer PlayerAnswer :=
  t.frontendPlayer hasSubtitles profileId url.downloadId (some (toString url.t)) none

/-- The link that the search shows for the segment opens the player at the whole second. -/
def LeadsTo (hasSubtitles : DownloadRow → Bool) (profileId : String) (start : Nat)
    (segment : TranscriptSegment) (t : LibraryTables) : Prop :=
  ∀ shown, t.searchResult profileId segment = some shown → ∃ result player, shown = .ok result ∧
    t.opened hasSubtitles profileId result.url = .ok player ∧
      player.seekSeconds.toRat = some ((start / 1000 : Nat) : ℚ)

end LibraryTables

/-- To the millisecond, the segment starts with the cue. -/
def TranscriptSegment.KeepsStart (start : Nat) (segment : TranscriptSegment) : Prop :=
  ∃ seconds, segment.startSeconds.toRat = some seconds ∧ |seconds - (start : ℚ) / 1000| < 1 / 2000

/-- The segments of the download are the cues, each with its time, and lead to where they are spoken. -/
def LibraryTables.FindsPlaces (hasSubtitles : DownloadRow → Bool) (profileId : String)
    (downloadId : Nat) (cues : List Cue) (t : LibraryTables) : Prop :=
  List.Forall₂ (fun cue segment => segment.text = cue.text ∧ ∀ start, cue.start = some start →
    segment.KeepsStart start ∧ t.LeadsTo hasSubtitles profileId start segment)
    cues (segmentsOf downloadId t.segments)

/-- The player would not go on from a later place. -/
def NotPositive (x : Float64) : Prop :=
  x.lt .zero = true ∨ x.toRat = some 0

section
variable {start : Nat} {saved : Float64}

/-- A segment at the start of the medium belongs to a cue of the first millisecond. -/
theorem keepsStart_newSegment_iff (downloadId : Nat) (subtitlePath text : String) (start : Nat) :
    (newSegment downloadId subtitlePath text).KeepsStart start ↔ start = 0 := by
  constructor
  · rintro ⟨seconds, hseconds, hnear⟩
    obtain rfl := Option.some.inj (Float64.toRat_zero.symm.trans hseconds)
    rw [zero_sub, abs_neg, abs_of_nonneg (by positivity)] at hnear
    by_contra hpos
    have hone : (1 : ℚ) ≤ start := by exact_mod_cast Nat.one_le_iff_ne_zero.2 hpos
    linarith
  · rintro rfl
    exact ⟨0, Float64.toRat_zero, by norm_num⟩

theorem toRat_max_zero_iff (x : Float64) : (x.max .zero).toRat = some 0 ↔ NotPositive x := by
  rw [Float64.max, NotPositive]
  cases x.lt .zero with
  | true => exact iff_of_true Float64.toRat_zero (.inl rfl)
  | false => exact (or_iff_right Bool.false_ne_true).symm

/-- A link to the first second opens the player there exactly if nothing later is saved. -/
theorem toRat_seek_iff (saved : Float64) :
    (saved.orZero.max .zero).toRat = some 0 ↔ NotPositive saved := by
  cases saved with
  | nan => exact toRat_max_zero_iff .nan
  | infinity negative => exact toRat_max_zero_iff (.infinity negative)
  | finite negative mantissa exponent =>
    cases mantissa with
    | zero =>
      have hzero : (Float64.finite negative 0 exponent).orZero = .zero := rfl
      rw [hzero]
      exact iff_of_true ((toRat_max_zero_iff .zero).2 (.inr Float64.toRat_zero))
        (.inr (Float64.toRat_of_mantissa_zero negative exponent))
    | succ mantissa => exact toRat_max_zero_iff (.finite negative (mantissa + 1) exponent)

end

namespace LibraryTables
variable {hasSubtitles : DownloadRow → Bool} {profileId : String} {t : LibraryTables}

/-- The rows as they are after the job. -/
theorem lookup_storeTranscript (downloadId : Nat) (path outputRoot : Path) (text : Option String)
    (t : LibraryTables) :
    (t.storeTranscript downloadId path outputRoot text).downloads.rows.lookup downloadId =
      (t.downloads.rows.lookup downloadId).map fun row =>
        { row with subtitlePath := some path.str, subtitlePathRelative := path.relativeTo outputRoot } := by
  rw [storeTranscript, AutoTable.lookup_update_at, if_pos rfl]

/-- What a link of a new segment leads to. -/
theorem leadsTo_newSegment_iff (subtitlePath text : String) (start downloadId : Nat) :
    t.LeadsTo hasSubtitles profileId start (newSegment downloadId subtitlePath text) ↔
      ∀ row, t.downloads.rows.lookup downloadId = some row → row.inLibrary profileId = true →
        (row.lastPositionSeconds.orZero.max .zero).toRat = some ((start / 1000 : Nat) : ℚ) := by
  have hsearch : t.searchable profileId (newSegment downloadId subtitlePath text) =
      (t.downloads.rows.lookup downloadId).filter fun row => row.inLibrary profileId := rfl
  have hrequested : (if hasText (some (toString (0 : Int))) = true then
      ((floatOfText (orEmptyText (some (toString (0 : Int))))).toOption).getD .zero else .zero) =
        Float64.zero := by
    decide +kernel
  have hresult (row : DownloadRow) : ∃ result,
      transcriptResult (newSegment downloadId subtitlePath text) row = .ok result ∧
        result.url = ⟨downloadId, 0⟩ := ⟨_, rfl, rfl⟩
  have hopened {row : DownloadRow} (hrow : t.downloads.rows.lookup downloadId = some row)
      (hlibrary : row.inLibrary profileId = true) : ∃ player,
      t.opened hasSubtitles profileId ⟨downloadId, 0⟩ = .ok player ∧
        player.seekSeconds = row.lastPositionSeconds.orZero.max .zero := by
    have hown : t.ownDownload profileId downloadId = some row := by
      rw [DownloadRow.inLibrary, Bool.and_eq_true, decide_eq_true_iff] at hlibrary
      rw [ownDownload, hrow, Option.filter_some, if_pos (decide_eq_true hlibrary.1)]
    rw [opened, frontendPlayer, hown]
    exact ⟨_, rfl, congrArg row.lastPositionSeconds.orZero.max hrequested⟩
  rw [LeadsTo, searchResult, hsearch]
  constructor
  · intro h row hrow hlibrary
    rw [hrow, Option.filter_some, if_pos hlibrary] at h
    obtain ⟨result, player, hshown, hplayer, hseek⟩ := h _ rfl
    obtain ⟨result', hresult, hurl⟩ := hresult row
    obtain rfl := Except.ok.inj (hresult.symm.trans hshown)
    obtain ⟨player', hplayer', hseek'⟩ := hopened hrow hlibrary
    rw [hurl, hplayer'] at hplayer
    obtain rfl := Answer.ok.inj hplayer
    rw [← hseek', hseek]
  · intro h shown hshown
    obtain ⟨row, hfound, rfl⟩ := Option.map_eq_some_iff.1 hshown
    obtain ⟨hrow, hlibrary⟩ := Option.filter_eq_some_iff.1 hfound
    obtain ⟨result, hresult, hurl⟩ := hresult row
    obtain ⟨player, hplayer, hseek⟩ := hopened hrow hlibrary
    refine ⟨result, player, hresult, ?_, ?_⟩
    · rw [hurl, hplayer]
    · rw [hseek, h row hrow hlibrary]

/-- The segments that a job leaves find the places exactly if all cues are spoken at the start and nothing
later is saved. -/
theorem findsPlaces_storeTranscript_iff {path : Path} (hsuffix : lower path.suffix = ".srt")
    (hasSubtitles : DownloadRow → Bool) (profileId : String) (downloadId : Nat) (outputRoot : Path)
    (text : String) (t : LibraryTables) :
    (t.storeTranscript downloadId path outputRoot (some text)).FindsPlaces hasSubtitles profileId
        downloadId (subtitleCues text) ↔
      ∀ cue ∈ subtitleCues text, ∀ start, cue.start = some start → start = 0 ∧
        ∀ row, t.downloads.rows.lookup downloadId = some row → row.inLibrary profileId = true →
          NotPositive row.lastPositionSeconds := by
  have hload : loadSegmentsFromSubtitle path (some text) = (subtitleCues text).map Cue.text := by
    rw [loadSegmentsFromSubtitle]
    exact if_neg (not_not.2 hsuffix)
  have hsegments : segmentsOf downloadId
      (t.storeTranscript downloadId path outputRoot (some text)).segments =
        (subtitleCues text).map fun cue => newSegment downloadId path.str cue.text := by
    rw [storeTranscript, segmentsOf_createSegments, segmentsOf_deleteSegments, if_pos rfl, if_pos rfl,
      hload, List.nil_append, List.map_map]
    rfl
  rw [FindsPlaces, hsegments, List.forall₂_map_right_iff, List.forall₂_same]
  refine forall₂_congr fun cue hcue => ?_
  have htext : (newSegment downloadId path.str cue.text).text = cue.text := rfl
  rw [and_iff_right htext]
  refine forall₂_congr fun start hstart => ?_
  rw [keepsStart_newSegment_iff, leadsTo_newSegment_iff, lookup_storeTranscript]
  refine and_congr_right fun hzero => ?_
  subst hzero
  rw [Nat.zero_div, Nat.cast_zero]
  constructor
  · intro h row hrow hlibrary
    rw [hrow] at h
    have hseek := h _ rfl hlibrary
    exact (toRat_seek_iff row.lastPositionSeconds).1 hseek
  · intro h stored hstored hlibrary
    obtain ⟨row, hrow, rfl⟩ := Option.map_eq_some_iff.1 hstored
    exact (toRat_seek_iff row.lastPositionSeconds).2 (h row hrow hlibrary)

end LibraryTables

/-- A transcript that the worker stores leads to the spoken places exactly if all its cues are spoken at
the start and nothing later is saved. -/
theorem transcript_leads_to_place_iff (hasSubtitles : DownloadRow → Bool) (profileId : String)
    (downloadId : Nat) {media path : Path} (hpath : media.withSuffix ".srt" = .ok path)
    (outputRoot : Path) (text : String) (t : LibraryTables) :
    (t.storeTranscript downloadId path outputRoot (some text)).FindsPlaces hasSubtitles profileId
        downloadId (subtitleCues text) ↔
      ∀ cue ∈ subtitleCues text, ∀ start, cue.start = some start → start = 0 ∧
        ∀ row, t.downloads.rows.lookup downloadId = some row → row.inLibrary profileId = true →
          NotPositive row.lastPositionSeconds := by
  apply LibraryTables.findsPlaces_storeTranscript_iff
  have hsuffix : path.suffix = ".srt" :=
    Path.suffix_withSuffix (List.cons_ne_nil 's' ['r', 't']) (by decide) hpath
  rw [hsuffix]
  decide

/-- A library with one episode, of which nothing has been played. -/
def oneEpisode : LibraryTables :=
  { LibraryTables.empty with
    downloads := AutoTable.empty.insert
      { sourceType := "podcast", sourceName := "Show", filePath := some "/downloads/Show/a.mp3",
        firstSeenAt := 0, lastSeenAt := 0 } }

/-- The place of a single cue at the start is found. -/
theorem place_at_start_found :
    (oneEpisode.storeTranscript 0 (Path.parse "/downloads/Show/a.srt") (Path.parse "/downloads")
      (some "1\n00:00:00,000 --> 00:00:02,000\nHello\n")).FindsPlaces (fun _ => true) "default" 0
        (subtitleCues "1\n00:00:00,000 --> 00:00:02,000\nHello\n") := by
  have hpath : (Path.parse "/downloads/Show/a.mp3").withSuffix ".srt" =
      .ok (Path.parse "/downloads/Show/a.srt") := by
    decide +kernel
  have hcues : ∀ cue ∈ subtitleCues "1\n00:00:00,000 --> 00:00:02,000\nHello\n", cue.start = some 0 := by
    decide +kernel
  apply (transcript_leads_to_place_iff _ _ _ hpath _ _ _).2
  intro cue hcue start hstart
  obtain rfl := Option.some.inj ((hcues cue hcue).symm.trans hstart)
  refine ⟨rfl, fun row hrow _ => ?_⟩
  obtain rfl := Option.some.inj hrow
  exact .inr Float64.toRat_zero

/-- A cue that is spoken after five seconds is not. -/
theorem place_of_later_cue_lost :
    ¬ (oneEpisode.storeTranscript 0 (Path.parse "/downloads/Show/a.srt") (Path.parse "/downloads")
      (some "1\n00:00:05,000 --> 00:00:07,000\nHello\n")).FindsPlaces (fun _ => true) "default" 0
        (subtitleCues "1\n00:00:05,000 --> 00:00:07,000\nHello\n") := by
  have hsuffix : lower (Path.parse "/downloads/Show/a.srt").suffix = ".srt" := by decide +kernel
  rw [LibraryTables.findsPlaces_storeTranscript_iff hsuffix]
  intro h
  have hcue : ∃ cue ∈ subtitleCues "1\n00:00:05,000 --> 00:00:07,000\nHello\n",
      cue.start = some 5000 := by
    decide +kernel
  obtain ⟨cue, hmem, hstart⟩ := hcue
  exact absurd (h cue hmem 5000 hstart).1 (by decide)

end GetOffline
