import GetOffline.PythonStrip
import GetOffline.YoutubeEntries

set_option autoImplicit true

namespace GetOffline
open Python

/-- The trimmed title in lower case. -/
def plainTitle (host : Host) (title : Option Json) : String :=
  lower (strip (host.textOr title ""))

/-- The title has a live marker. A blank at the start of a marker is where a word begins, which the start
of the title is too. -/
def HasLiveMarker (title : String) : Prop :=
  ∃ marker ∈ youtubeLiveTitleMarkers, marker.toList <:+: ' ' :: title.toList ++ [' ']

/-- The title is "live", starts with the word "live", or has a live marker. -/
def IsLiveTitle (title : String) : Prop :=
  title = "live" ∨ "live ".toList <+: title.toList ∨ HasLiveMarker title

/-- With `include_livestreams` off, an entry with a live title is rejected by discovery and by the filter
of the download, and another title makes no difference to either. -/
def LiveTitleRule (host : Host) (title : Json) : Prop :=
  ∀ (source : SourceConfig) (payload entry : Columns), source.includeLivestreams = false →
    ((Json.get "include_livestreams" payload).getD (.bool false)).truthy = false →
    Json.get "title" entry = some title →
      let untitled := entry.filter fun item => item.1 ≠ "title"
      (IsLiveTitle (plainTitle host (some title)) →
        (youtubeSourceSkipReason host source entry).isSome ∧
          (skipUnwantedYoutubeEntries host payload entry).isSome) ∧
      (¬ IsLiveTitle (plainTitle host (some title)) →
        youtubeSourceSkipReason host source entry = youtubeSourceSkipReason host source untitled ∧
          skipUnwantedYoutubeEntries host payload entry = skipUnwantedYoutubeEntries host payload untitled)

section
variable {host : Host}

theorem trimmed_plainTitle (host : Host) (title : Option Json) : Trimmed (plainTitle host title).toList := by
  rw [plainTitle, lower, strip, String.toList_ofList, String.toList_ofList]
  exact (trimmed_stripChars _).map isSpace_lowerChar

theorem padded_toList (text : String) : (" " ++ text ++ " ").toList = ' ' :: text.toList ++ [' '] := by
  rw [String.toList_append, String.toList_append]
  rfl

theorem strip_padded {text : String} (h : Trimmed text.toList) : strip (" " ++ text ++ " ") = text := by
  have hspace : ∀ c ∈ [' '], isSpace c = true := List.all_iff_forall_prop.1 (by decide)
  rw [strip, padded_toList, stripChars_append_right hspace, ← List.singleton_append,
    stripChars_append_left hspace, stripChars_of_trimmed h, String.ofList_toList]

/-- The prefix "live " is never found, as the normalised title begins with a blank. -/
theorem youtubeTitleLooksLive_iff (host : Host) (title : Option Json) :
    youtubeTitleLooksLive host title = true ↔
      plainTitle host title = "live" ∨ HasLiveMarker (plainTitle host title) := by
  have hstrip := strip_padded (trimmed_plainTitle host title)
  rw [youtubeTitleLooksLive]
  change (if strip (" " ++ plainTitle host title ++ " ") = "" then false
    else if youtubeLiveTitleMarkers.any fun marker => textContains marker (" " ++ plainTitle host title ++ " ")
      then true
    else strip (" " ++ plainTitle host title ++ " ") = "live" ||
      "live ".toList.isPrefixOf (" " ++ plainTitle host title ++ " ").toList) = true ↔ _
  rw [hstrip]
  generalize plainTitle host title = text
  have hmarker : (youtubeLiveTitleMarkers.any fun marker => textContains marker (" " ++ text ++ " ")) = true ↔
      HasLiveMarker text := by
    rw [List.any_eq_true]
    simp only [textContains, padded_toList, decide_eq_true_eq]
    rfl
  have hstart : "live ".toList.isPrefixOf (" " ++ text ++ " ").toList = false := by
    rw [padded_toList]
    rfl
  split
  · next hempty =>
    subst hempty
    refine iff_of_false Bool.false_ne_true ?_
    rintro (hlive | hmark)
    · exact absurd hlive (by decide)
    · rw [← hmarker] at hmark
      revert hmark
      decide
  · split
    · next hmark => exact iff_of_true rfl (.inr (hmarker.1 hmark))
    · next hmark =>
      rw [hmarker] at hmark
      rw [hstart, Bool.or_false, decide_eq_true_iff, or_iff_left hmark]

theorem get_untitled {key : String} (hkey : key ≠ "title") (entry : Columns) :
    Json.get key (entry.filter fun item => item.1 ≠ "title") = Json.get key entry := by
  induction entry with
  | nil => rfl
  | cons item entry ih =>
    obtain ⟨k, value⟩ := item
    rw [Json.get] at ih
    rw [List.filter_cons, Json.get, Json.get]
    split
    · rw [List.lookup_cons, List.lookup_cons, ih]
      rfl
    · next htitle =>
      have htitle : k = "title" := Decidable.not_not.1 fun hne => htitle (decide_eq_true hne)
      rw [List.lookup_cons, beq_false_of_ne (htitle ▸ hkey), ih]
      rfl

theorem get_title_untitled (entry : Columns) :
    Json.get "title" (entry.filter fun item => item.1 ≠ "title") = none := by
  rw [Json.get, List.lookup_eq_none_iff]
  rintro ⟨k, value⟩ hmem
  have hne := of_decide_eq_true (List.mem_filter.1 hmem).2
  exact bne_iff_ne.2 (Ne.symm hne)

theorem youtubeTitleLooksLive_none (host : Host) : youtubeTitleLooksLive host none = false := by
  have hempty : plainTitle host none = "" := by
    change lower (strip "") = ""
    decide
  rw [Bool.eq_false_iff, ne_eq, youtubeTitleLooksLive_iff, hempty]
  rintro (hlive | ⟨marker, hmarker, hinfix⟩)
  · exact absurd hlive (by decide)
  · have hall : ∀ marker ∈ youtubeLiveTitleMarkers, ¬ marker.toList <:+: ' ' :: "".toList ++ [' '] := by decide
    exact hall marker hmarker hinfix

/-- Shorts are known by their URLs. -/
theorem isYoutubeShortEntry_untitled (host : Host) (entry : Columns) :
    isYoutubeShortEntry host (entry.filter fun item => item.1 ≠ "title") = isYoutubeShortEntry host entry := by
  have hkeys : ∀ key ∈ ["webpage_url", "original_url", "url", "ie_key"], key ≠ "title" := by decide
  rw [isYoutubeShortEntry, isYoutubeShortEntry, Bool.eq_iff_iff, List.any_eq_true, List.any_eq_true]
  refine exists_congr fun key => and_congr_right fun hkey => ?_
  rw [entryText, entryText, get_untitled (hkeys key hkey)]

def hasLiveStatus (host : Host) (entry : Columns) : Bool :=
  ((Json.get "is_live" entry).getD .null).truthy ||
    lower (strip (entryText host "live_status" entry)) ∈ ["is_live", "is_upcoming", "was_live", "post_live"]

/-- A livestream is known by its status or by its title. -/
theorem isYoutubeLivestreamEntry_eq (host : Host) (entry : Columns) :
    isYoutubeLivestreamEntry host entry =
      (hasLiveStatus host entry || youtubeTitleLooksLive host (Json.get "title" entry)) := by
  change (if hasLiveStatus host entry then true else youtubeTitleLooksLive host (Json.get "title" entry)) = _
  cases hasLiveStatus host entry with
  | true => rw [if_pos rfl, Bool.true_or]
  | false => rw [if_neg Bool.false_ne_true, Bool.false_or]

theorem hasLiveStatus_untitled (host : Host) (entry : Columns) :
    hasLiveStatus host (entry.filter fun item => item.1 ≠ "title") = hasLiveStatus host entry := by
  rw [hasLiveStatus, hasLiveStatus, entryText, entryText, get_untitled (by decide), get_untitled (by decide)]

theorem unwantedReason_untitled (includeShorts : Bool)
    (h : youtubeTitleLooksLive host (Json.get "title" entry) = false) :
    unwantedReason host false includeShorts entry =
      unwantedReason host false includeShorts (entry.filter fun item => item.1 ≠ "title") := by
  rw [unwantedReason, unwantedReason, isYoutubeLivestreamEntry_eq, isYoutubeLivestreamEntry_eq, h,
    get_title_untitled, youtubeTitleLooksLive_none, hasLiveStatus_untitled, isYoutubeShortEntry_untitled]

theorem unwantedReason_live (includeShorts : Bool)
    (h : youtubeTitleLooksLive host (Json.get "title" entry) = true) :
    (unwantedReason host false includeShorts entry).isSome := by
  rw [unwantedReason, isYoutubeLivestreamEntry_eq, h, Bool.or_true]
  rfl

theorem liveTitleRule_of (title : Json)
    (h : ¬ ("live ".toList <+: (plainTitle host (some title)).toList ∧
      ¬ HasLiveMarker (plainTitle host (some title)))) : LiveTitleRule host title := by
  have hlooks : IsLiveTitle (plainTitle host (some title)) ↔ youtubeTitleLooksLive host (some title) = true := by
    rw [youtubeTitleLooksLive_iff, IsLiveTitle]
    refine or_congr_right ?_
    rw [not_and, not_not] at h
    exact ⟨fun hlive => hlive.elim h id, .inr⟩
  intro source payload entry hsource hpayload htitle
  rw [← htitle] at hlooks
  simp only [youtubeSourceSkipReason, skipUnwantedYoutubeEntries, hsource, hpayload, ← htitle]
  refine ⟨fun hlive => ?_, fun hlive => ?_⟩
  · exact ⟨unwantedReason_live _ (hlooks.1 hlive), unwantedReason_live _ (hlooks.1 hlive)⟩
  · rw [hlooks, Bool.not_eq_true] at hlive
    exact ⟨unwantedReason_untitled _ hlive, unwantedReason_untitled _ hlive⟩

/-- An entry without any fields is wanted. -/
theorem unwantedReason_empty (host : Host) : unwantedReason host false false [] = none := by
  have htext (key : String) : entryText host key [] = "" := rfl
  have hstatus : lower (strip "") ∉ ["is_live", "is_upcoming", "was_live", "post_live"] := by decide
  have hshort : textContains "/shorts/" "" = false := by decide
  have hnolive : isYoutubeLivestreamEntry host [] = false := by
    have hnone : Json.get "title" ([] : Columns) = none := rfl
    have hlive : ((Json.get "is_live" ([] : Columns)).getD .null).truthy = false := rfl
    rw [isYoutubeLivestreamEntry_eq, hasLiveStatus, htext, decide_eq_false hstatus, hnone, hlive,
      youtubeTitleLooksLive_none]
    rfl
  have hnoshort : isYoutubeShortEntry host [] = false := by
    rw [isYoutubeShortEntry, List.any_eq_false]
    intro key _
    rw [htext, hshort]
    exact Bool.false_ne_true
  rw [unwantedReason, hnolive, hnoshort]
  rfl

/-- A source that wants neither livestreams nor shorts. -/
def plainSource : SourceConfig where
  profileId := "default"
  sourceType := "youtube"
  position := 0
  name := ""
  url := ""
  mediaType := none
  enabled := true
  subtitles := true
  subtitleOffsetSeconds := none
  maxDownloads := none
  deleteExplicitContent := false
  includeShorts := false
  includeLivestreams := false
  titleExclude := none

theorem not_liveTitleRule (title : Json) (hstart : "live ".toList <+: (plainTitle host (some title)).toList)
    (hmarker : ¬ HasLiveMarker (plainTitle host (some title))) : ¬ LiveTitleRule host title := by
  intro hrule
  have hreject := ((hrule plainSource [] [("title", title)] rfl rfl rfl).1 (.inr (.inl hstart))).1
  have hlooks : youtubeTitleLooksLive host (some title) = false := by
    rw [Bool.eq_false_iff, ne_eq, youtubeTitleLooksLive_iff]
    rintro (hlive | hmark)
    · rw [hlive] at hstart
      revert hstart
      decide
    · exact hmarker hmark
  have hreason := @unwantedReason_untitled host [("title", title)] false hlooks
  have hempty : ([("title", title)] : Columns).filter (fun item => item.1 ≠ "title") = [] := by
    rw [List.filter_cons_of_neg, List.filter_nil]
    exact Bool.false_ne_true
  rw [hempty, unwantedReason_empty] at hreason
  have hskip : youtubeSourceSkipReason host plainSource [("title", title)] = none := hreason
  rw [hskip] at hreject
  cases hreject

/-- The rule holds of a title unless it starts with the word "live" and has no live marker. -/
theorem live_titles_iff (host : Host) (title : Json) :
    LiveTitleRule host title ↔ ¬ ("live ".toList <+: (plainTitle host (some title)).toList ∧
      ¬ HasLiveMarker (plainTitle host (some title))) := by
  constructor
  · rintro hrule ⟨hstart, hmarker⟩
    exact not_liveTitleRule title hstart hmarker hrule
  · exact liveTitleRule_of title

theorem live_from_the_studio_passes : ¬ LiveTitleRule Host.plain (.string "Live from the studio") := by
  refine not_liveTitleRule _ (by decide +kernel) ?_
  rintro ⟨marker, hmarker, hinfix⟩
  have hall : ∀ marker ∈ youtubeLiveTitleMarkers, ¬ marker.toList <:+:
      ' ' :: (plainTitle Host.plain (some (.string "Live from the studio"))).toList ++ [' '] := by
    decide +kernel
  exact hall marker hmarker hinfix

end

end GetOffline
