import GetOffline.CatchUp
import GetOffline.KeyedRequests

set_option autoImplicit true

namespace Python

/-- `str.rstrip()`. -/
def rstrip (s : String) : String :=
  String.ofList (s.toList.rdropWhile isSpace)

/-- White space is not taken off beyond a character that is none. -/
theorem rdropWhile_append_cons {p : α → Bool} (hc : p c = false) (xs ys : List α) :
    (xs ++ c :: ys).rdropWhile p = xs ++ c :: ys.rdropWhile p := by
  induction ys using List.reverseRecOn with
  | nil => exact List.rdropWhile_concat_neg _ _ _ (ne_true_of_eq_false hc)
  | append_singleton ys y ih =>
    rw [← List.cons_append, ← List.append_assoc, List.rdropWhile_concat, List.rdropWhile_concat]
    split
    · exact ih
    · rw [List.append_assoc, List.cons_append]

theorem stripChars_cons_append {a c : Char} (ha : isSpace a = false) (hc : isSpace c = false)
    (xs ys : List Char) :
    stripChars (a :: xs ++ c :: ys) = a :: xs ++ c :: ys.rdropWhile isSpace := by
  rw [stripChars_eq, List.cons_append, List.dropWhile_cons_of_neg (ne_true_of_eq_false ha),
    ← List.cons_append, rdropWhile_append_cons hc]

end Python

namespace GetOffline
open Python

namespace KeyedOperation

/-- The inputs for which the key fits its column. -/
def Fits (profileId : String) : KeyedOperation → Prop
  | .update token => profileId.length + token.length ≤ 237
  | .hourlyUpdate hour => profileId.length + hour.length ≤ 227
  | .dailyCleanup day => profileId.length + day.length ≤ 226
  | .scheduledRun scheduleId jobType dueAt =>
    (toString scheduleId).length + jobType.length + (isoformat dueAt).length ≤ 243
  | .downloadUrl url => profileId.length + url.length ≤ 238
  | .downloadNothing => profileId.length ≤ 232
  | .redownload downloadId => profileId.length + (toString downloadId).length ≤ 238
  | .document downloadId => profileId.length + (toString downloadId).length ≤ 241
  | .transcript downloadId => profileId.length + downloadId.length ≤ 234
  | .deferredTranscript sourceType sourceName itemUid =>
    profileId.length + sourceType.length + sourceName.length + itemUid.length ≤ 223
  | .convertRow downloadId => profileId.length + downloadId.length ≤ 229
  | .convertFiles _ => profileId.length ≤ 193
  | .episode _ _ => True

/-- Different operations of a profile that have one key. -/
def Clash (profileId : String) : KeyedOperation → KeyedOperation → Prop
  | .downloadUrl url, .downloadNothing => url = "manual"
  | .downloadNothing, .downloadUrl url => url = "manual"
  | .downloadUrl url, .redownload downloadId => url = toString downloadId
  | .redownload downloadId, .downloadUrl url => url = toString downloadId
  | .transcript downloadId, .deferredTranscript sourceType sourceName itemUid =>
    downloadId = "deferred:" ++ sourceType ++ ":" ++ sourceName ++ ":" ++ itemUid
  | .deferredTranscript sourceType sourceName itemUid, .transcript downloadId =>
    downloadId = "deferred:" ++ sourceType ++ ":" ++ sourceName ++ ":" ++ itemUid
  | .deferredTranscript sourceType sourceName itemUid, .deferredTranscript sourceType' sourceName' itemUid' =>
    sourceType ++ ":" ++ sourceName ++ ":" ++ itemUid = sourceType' ++ ":" ++ sourceName' ++ ":" ++ itemUid'
  | .convertFiles inputs, .convertFiles inputs' =>
    sha1Text ("|".intercalate inputs) = sha1Text ("|".intercalate inputs')
  | .episode sourceId uid, .episode sourceId' uid' =>
    sourceId = sourceId' ∧ rstrip (cut255 uid) = rstrip (cut255 uid') ∨
      episodeStart profileId sourceId = episodeStart profileId sourceId' ∧
        episodeText profileId sourceId uid ≠ episodeText profileId sourceId' uid' ∧
          sha1Text (episodeText profileId sourceId uid) = sha1Text (episodeText profileId sourceId' uid')
  | _, _ => False

section
variable {profileId : String}

theorem length_append_sep {head sep : String} (hhead : head.length = n) (hsep : sep.length = m)
    (tail : String) : (head ++ sep ++ tail).length = n + m + tail.length := by
  rw [String.length_append, String.length_append, hhead, hsep]

theorem length_joined {head sep : String} (hhead : head.length = n) (hsep : sep.length = m)
    (text tail : String) :
    (head ++ text ++ sep ++ tail).length = n + text.length + m + tail.length := by
  rw [length_append_sep (String.length_append head text) hsep, hhead]

theorem fits_iff (op : KeyedOperation) : (op.key profileId).length ≤ 255 ↔ op.Fits profileId := by
  cases op with
  | update token =>
    change ("update_downloads:" ++ profileId ++ ":" ++ token).length ≤ 255 ↔ profileId.length + token.length ≤ 237
    rw [length_joined (by rfl : "update_downloads:".length = 17) (by rfl : ":".length = 1)]
    omega
  | hourlyUpdate hour =>
    change ("scheduled:update_downloads:" ++ profileId ++ ":" ++ hour).length ≤ 255 ↔ profileId.length + hour.length ≤ 227
    rw [length_joined (by rfl : "scheduled:update_downloads:".length = 27) (by rfl : ":".length = 1)]
    omega
  | dailyCleanup day =>
    change ("scheduled:retention_cleanup:" ++ profileId ++ ":" ++ day).length ≤ 255 ↔ profileId.length + day.length ≤ 226
    rw [length_joined (by rfl : "scheduled:retention_cleanup:".length = 28) (by rfl : ":".length = 1)]
    omega
  | scheduledRun scheduleId jobType dueAt =>
    change ("scheduled:" ++ toString scheduleId ++ ":" ++ jobType ++ ":" ++ isoformat dueAt).length ≤ 255 ↔
      (toString scheduleId).length + jobType.length + (isoformat dueAt).length ≤ 243
    rw [length_append_sep (length_joined (by rfl : "scheduled:".length = 10) (by rfl : ":".length = 1) _ _)
      (by rfl : ":".length = 1)]
    omega
  | downloadUrl url =>
    change ("download_single:" ++ profileId ++ ":" ++ url).length ≤ 255 ↔ profileId.length + url.length ≤ 238
    rw [length_joined (by rfl : "download_single:".length = 16) (by rfl : ":".length = 1)]
    omega
  | downloadNothing =>
    change ("download_single:" ++ profileId ++ ":manual").length ≤ 255 ↔ profileId.length ≤ 232
    rw [String.length_append, String.length_append, (by rfl : "download_single:".length = 16),
      (by rfl : ":manual".length = 7)]
    omega
  | redownload downloadId =>
    change ("download_single:" ++ profileId ++ ":" ++ toString downloadId).length ≤ 255 ↔ profileId.length + (toString downloadId).length ≤ 238
    rw [length_joined (by rfl : "download_single:".length = 16) (by rfl : ":".length = 1)]
    omega
  | document downloadId =>
    change ("generate_ocr:" ++ profileId ++ ":" ++ toString downloadId).length ≤ 255 ↔ profileId.length + (toString downloadId).length ≤ 241
    rw [length_joined (by rfl : "generate_ocr:".length = 13) (by rfl : ":".length = 1)]
    omega
  | transcript downloadId =>
    change ("generate_transcript:" ++ profileId ++ ":" ++ downloadId).length ≤ 255 ↔ profileId.length + downloadId.length ≤ 234
    rw [length_joined (by rfl : "generate_transcript:".length = 20) (by rfl : ":".length = 1)]
    omega
  | deferredTranscript sourceType sourceName itemUid =>
    change ("generate_transcript:" ++ profileId ++ ":deferred:" ++ sourceType ++ ":" ++ sourceName ++ ":" ++
        itemUid).length ≤ 255 ↔
      profileId.length + sourceType.length + sourceName.length + itemUid.length ≤ 223
    rw [length_append_sep (length_append_sep
        (length_joined (by rfl : "generate_transcript:".length = 20) (by rfl : ":deferred:".length = 10) _ _)
        (by rfl : ":".length = 1) _) (by rfl : ":".length = 1)]
    omega
  | convertRow downloadId =>
    change ("transcode_media:" ++ profileId ++ ":download:" ++ downloadId).length ≤ 255 ↔ profileId.length + downloadId.length ≤ 229
    rw [length_joined (by rfl : "transcode_media:".length = 16) (by rfl : ":download:".length = 10)]
    omega
  | convertFiles inputs =>
    change ("transcode_media:" ++ profileId ++ ":file:" ++ sha1Text ("|".intercalate inputs)).length ≤ 255 ↔
      profileId.length ≤ 193
    rw [length_joined (by rfl : "transcode_media:".length = 16) (by rfl : ":file:".length = 6),
      length_sha1Text]
    omega
  | episode sourceId uid =>
    have hstart : (episodeStart profileId sourceId).length ≤ 160 := by
      rw [episodeStart, String.length_ofList]
      exact List.length_take_le _ _
    refine iff_of_true ?_ trivial
    change (episodeStart profileId sourceId ++ ":" ++ sha1Text (episodeText profileId sourceId uid)).length ≤ 255
    rw [length_append_sep rfl (by rfl : ":".length = 1), length_sha1Text]
    omega

end

end KeyedOperation

/-- The operations whose keys begin with one word. -/
inductive KeyFamily
  | update
  | scheduled
  | download
  | document
  | transcript
  | conversion
  | episode
deriving DecidableEq

def KeyFamily.word : KeyFamily → String
  | .update => "update_downloads"
  | .scheduled => "scheduled"
  | .download => "download_single"
  | .document => "generate_ocr"
  | .transcript => "generate_transcript"
  | .conversion => "transcode_media"
  | .episode => "download_episode"

theorem KeyFamily.colon_notMem_word (family : KeyFamily) : ':' ∉ family.word.toList := by
  cases family <;> decide

theorem KeyFamily.word_inj {family family' : KeyFamily} (h : family.word = family'.word) :
    family = family' := by
  revert h
  cases family <;> cases family' <;> decide

namespace KeyedOperation

def family : KeyedOperation → KeyFamily
  | .update _ => .update
  | .hourlyUpdate _ | .dailyCleanup _ | .scheduledRun _ _ _ => .scheduled
  | .downloadUrl _ | .downloadNothing | .redownload _ => .download
  | .document _ => .document
  | .transcript _ | .deferredTranscript _ _ _ => .transcript
  | .convertRow _ | .convertFiles _ => .conversion
  | .episode _ _ => .episode

/-- What stands behind the profile in the keys that have it, and behind the first word in the others. -/
def tail (profileId : String) : KeyedOperation → String
  | .update token => token
  | .hourlyUpdate hour => "update_downloads" ++ ":" ++ (profileId ++ ":" ++ hour)
  | .dailyCleanup day => "retention_cleanup" ++ ":" ++ (profileId ++ ":" ++ day)
  | .scheduledRun scheduleId jobType dueAt =>
    toString scheduleId ++ ":" ++ (jobType ++ ":" ++ isoformat dueAt)
  | .downloadUrl url => url
  | .downloadNothing => "manual"
  | .redownload downloadId => toString downloadId
  | .document downloadId => toString downloadId
  | .transcript downloadId => downloadId
  | .deferredTranscript sourceType sourceName itemUid =>
    "deferred:" ++ sourceType ++ ":" ++ sourceName ++ ":" ++ itemUid
  | .convertRow downloadId => "download" ++ ":" ++ downloadId
  | .convertFiles inputs => "file" ++ ":" ++ sha1Text ("|".intercalate inputs)
  | .episode sourceId uid =>
    String.ofList ((profileId ++ ":" ++ sourceText sourceId).toList.take 143) ++ ":" ++
      sha1Text (episodeText profileId sourceId uid)

/-- What stands behind the first word. -/
def rest (profileId : String) (op : KeyedOperation) : String :=
  match op.family with
  | .scheduled | .episode => op.tail profileId
  | _ => profileId ++ ":" ++ op.tail profileId

section
variable {profileId : String} {a b : KeyedOperation}

theorem episodeStart_eq (profileId : String) (sourceId : Nat) :
    episodeStart profileId sourceId =
      "download_episode:" ++ String.ofList ((profileId ++ ":" ++ sourceText sourceId).toList.take 143) := by
  have htake (xs : List Char) : String.ofList (("download_episode:".toList ++ xs).take 160) =
      "download_episode:" ++ String.ofList (xs.take 143) := by
    apply String.toList_injective
    rw [String.toList_append, String.toList_ofList, String.toList_ofList, String.toList_ofList]
    rfl
  rw [← htake, ← String.toList_append, episodeStart]
  simp only [String.append_assoc]

theorem key_eq_rest (op : KeyedOperation) : op.key profileId = op.family.word ++ ":" ++ op.rest profileId := by
  cases op with
  | update token =>
    change "update_downloads" ++ ":" ++ profileId ++ ":" ++ token =
      "update_downloads" ++ ":" ++ (profileId ++ ":" ++ token)
    simp only [String.append_assoc]
  | hourlyUpdate hour =>
    change "scheduled" ++ ":" ++ ("update_downloads" ++ ":") ++ profileId ++ ":" ++ hour =
      "scheduled" ++ ":" ++ ("update_downloads" ++ ":" ++ (profileId ++ ":" ++ hour))
    simp only [String.append_assoc]
  | dailyCleanup day =>
    change "scheduled" ++ ":" ++ ("retention_cleanup" ++ ":") ++ profileId ++ ":" ++ day =
      "scheduled" ++ ":" ++ ("retention_cleanup" ++ ":" ++ (profileId ++ ":" ++ day))
    simp only [String.append_assoc]
  | scheduledRun scheduleId jobType dueAt =>
    change "scheduled" ++ ":" ++ toString scheduleId ++ ":" ++ jobType ++ ":" ++ isoformat dueAt =
      "scheduled" ++ ":" ++ (toString scheduleId ++ ":" ++ (jobType ++ ":" ++ isoformat dueAt))
    simp only [String.append_assoc]
  | downloadUrl url =>
    change "download_single" ++ ":" ++ profileId ++ ":" ++ url =
      "download_single" ++ ":" ++ (profileId ++ ":" ++ url)
    simp only [String.append_assoc]
  | downloadNothing =>
    change "download_single" ++ ":" ++ profileId ++ (":" ++ "manual") =
      "download_single" ++ ":" ++ (profileId ++ ":" ++ "manual")
    simp only [String.append_assoc]
  | redownload downloadId =>
    change "download_single" ++ ":" ++ profileId ++ ":" ++ toString downloadId =
      "download_single" ++ ":" ++ (profileId ++ ":" ++ toString downloadId)
    simp only [String.append_assoc]
  | document downloadId =>
    change "generate_ocr" ++ ":" ++ profileId ++ ":" ++ toString downloadId =
      "generate_ocr" ++ ":" ++ (profileId ++ ":" ++ toString downloadId)
    simp only [String.append_assoc]
  | transcript downloadId =>
    change "generate_transcript" ++ ":" ++ profileId ++ ":" ++ downloadId =
      "generate_transcript" ++ ":" ++ (profileId ++ ":" ++ downloadId)
    simp only [String.append_assoc]
  | deferredTranscript sourceType sourceName itemUid =>
    change "generate_transcript" ++ ":" ++ profileId ++ (":" ++ "deferred:") ++ sourceType ++ ":" ++
        sourceName ++ ":" ++ itemUid =
      "generate_transcript" ++ ":" ++ (profileId ++ ":" ++
        ("deferred:" ++ sourceType ++ ":" ++ sourceName ++ ":" ++ itemUid))
    simp only [String.append_assoc]
  | convertRow downloadId =>
    change "transcode_media" ++ ":" ++ profileId ++ (":" ++ ("download" ++ ":")) ++ downloadId =
      "transcode_media" ++ ":" ++ (profileId ++ ":" ++ ("download" ++ ":" ++ downloadId))
    simp only [String.append_assoc]
  | convertFiles inputs =>
    change "transcode_media" ++ ":" ++ profileId ++ (":" ++ ("file" ++ ":")) ++
        sha1Text ("|".intercalate inputs) =
      "transcode_media" ++ ":" ++ (profileId ++ ":" ++ ("file" ++ ":" ++ sha1Text ("|".intercalate inputs)))
    simp only [String.append_assoc]
  | episode sourceId uid =>
    change episodeStart profileId sourceId ++ ":" ++ sha1Text (episodeText profileId sourceId uid) =
      "download_episode" ++ ":" ++
        (String.ofList ((profileId ++ ":" ++ sourceText sourceId).toList.take 143) ++ ":" ++
          sha1Text (episodeText profileId sourceId uid))
    rw [episodeStart_eq]
    change "download_episode" ++ ":" ++ _ ++ ":" ++ _ = _
    simp only [String.append_assoc]

/-- The first word of a key tells its family. -/
theorem key_eq_key_iff : a.key profileId = b.key profileId ↔
    a.family = b.family ∧ a.tail profileId = b.tail profileId := by
  rw [key_eq_rest, key_eq_rest]
  constructor
  · intro h
    obtain ⟨hword, hrest⟩ := separated_inj rfl a.family.colon_notMem_word b.family.colon_notMem_word h
    have hfamily := KeyFamily.word_inj hword
    refine ⟨hfamily, ?_⟩
    rw [rest, rest, hfamily] at hrest
    split at hrest
    · exact hrest
    · exact hrest
    · exact (String.append_right_inj _).1 hrest
  · rintro ⟨hfamily, htail⟩
    rw [rest, rest, hfamily, htail]

theorem separated_ne {first second : String} (hfirst : ':' ∉ first.toList) (hsecond : ':' ∉ second.toList)
    (hne : first ≠ second) (rest rest' : String) : first ++ ":" ++ rest ≠ second ++ ":" ++ rest' :=
  fun h => hne (separated_inj rfl hfirst hsecond h).1

/-- Texts of one length are told apart from what stands before them. -/
theorem append_last_inj {first second sep last last' : String} (h : last.length = last'.length) :
    first ++ sep ++ last = second ++ sep ++ last' ↔ first = second ∧ last = last' := by
  constructor
  · intro heq
    have hlist := congrArg String.toList heq
    rw [String.toList_append, String.toList_append (s := second ++ sep)] at hlist
    obtain ⟨hfirst, hlast⟩ := List.append_inj' hlist h
    exact ⟨(String.append_left_inj _).1 (String.toList_injective hfirst), String.toList_injective hlast⟩
  · rintro ⟨rfl, rfl⟩
    rfl

theorem word_ne_toString {word : String} {c : Char} (hc : c ∈ word.toList) (hdigit : c.isDigit = false)
    (n : Nat) : word ≠ toString n := by
  rintro rfl
  exact not_mem_toString hdigit n hc

theorem bar_notMem_sourceText (sourceId : Nat) : '|' ∉ (sourceText sourceId).toList := by
  rw [sourceText]
  split
  · exact List.not_mem_nil
  · exact not_mem_toString (by decide) sourceId

theorem sourceText_inj (h : sourceText sourceId = sourceText sourceId') : sourceId = sourceId' := by
  have hne (n : Nat) : "" ≠ toString n := by
    intro hempty
    rw [Nat.toString_eq_ofList_toDigits, eq_comm, String.ofList_eq_empty_iff] at hempty
    exact Nat.toDigits_ne_nil hempty
  rw [sourceText, sourceText] at h
  split at h
  · next hzero =>
    split at h
    · next hzero' => exact hzero.trans hzero'.symm
    · exact absurd h (hne sourceId')
  · split at h
    · exact absurd h.symm (hne sourceId)
    · exact toString_nat_inj h

theorem toList_episodeText (profileId : String) (sourceId : Nat) (uid : String) :
    (episodeText profileId sourceId uid).toList =
      "download_episode|".toList ++ (profileId.toList ++ '|' :: ((sourceText sourceId).toList ++
        '|' :: (rstrip (cut255 uid)).toList)) := by
  have hhead : "download_episode|".toList = 'd' :: "ownload_episode|".toList := rfl
  have hbar : "|".toList = ['|'] := rfl
  have hjoined : ("download_episode|" ++ profileId ++ "|" ++ sourceText sourceId ++ "|" ++
      cut255 uid).toList = 'd' :: ("ownload_episode|".toList ++ (profileId.toList ++ '|' ::
        (sourceText sourceId).toList)) ++ '|' :: (cut255 uid).toList := by
    simp only [String.toList_append, hhead, hbar, List.append_assoc, List.cons_append, List.nil_append]
  have hstrip (text : String) : (strip text).toList = stripChars text.toList := String.toList_ofList
  have hrstrip (text : String) : (rstrip text).toList = text.toList.rdropWhile isSpace :=
    String.toList_ofList
  rw [episodeText, hstrip, hjoined, stripChars_cons_append (by decide) (by decide), hrstrip, hhead]
  simp only [List.cons_append, List.append_assoc]

/-- The text of which the key has the digest tells the source and the identity, as far as it is kept. -/
theorem episodeText_eq_iff : episodeText profileId sourceId uid = episodeText profileId sourceId' uid' ↔
    sourceId = sourceId' ∧ rstrip (cut255 uid) = rstrip (cut255 uid') := by
  constructor
  · intro h
    have hlist := congrArg String.toList h
    rw [toList_episodeText, toList_episodeText, List.append_cancel_left_eq, List.append_cancel_left_eq] at hlist
    obtain ⟨hsource, huid⟩ := append_cons_inj (bar_notMem_sourceText sourceId)
      (bar_notMem_sourceText sourceId') (List.cons.inj hlist).2
    exact ⟨sourceText_inj (String.toList_injective hsource), String.toList_injective huid⟩
  · rintro ⟨rfl, huid⟩
    apply String.toList_injective
    rw [toList_episodeText, toList_episodeText, huid]

theorem episode_tail_eq_iff : (episode sourceId uid).tail profileId = (episode sourceId' uid').tail profileId ↔
    episode sourceId uid = episode sourceId' uid' ∨
      (episode sourceId uid).Clash profileId (episode sourceId' uid') := by
  have hstart : (episode sourceId uid).tail profileId = (episode sourceId' uid').tail profileId ↔
      episodeStart profileId sourceId = episodeStart profileId sourceId' ∧
        sha1Text (episodeText profileId sourceId uid) = sha1Text (episodeText profileId sourceId' uid') := by
    rw [episodeStart_eq, episodeStart_eq, String.append_right_inj]
    exact append_last_inj ((length_sha1Text _).trans (length_sha1Text _).symm)
  have hsame : episode sourceId uid = episode sourceId' uid' → sourceId = sourceId' ∧
      rstrip (cut255 uid) = rstrip (cut255 uid') := by
    rintro ⟨⟩
    exact ⟨rfl, rfl⟩
  rw [hstart, or_iff_right_of_imp fun h => .inl (hsame h)]
  change _ ↔ sourceId = sourceId' ∧ rstrip (cut255 uid) = rstrip (cut255 uid') ∨ _
  rw [← @episodeText_eq_iff profileId]
  by_cases htext : episodeText profileId sourceId uid = episodeText profileId sourceId' uid'
  · have hsource := (episodeText_eq_iff.1 htext).1
    subst hsource
    exact iff_of_true ⟨rfl, congrArg sha1Text htext⟩ (.inl htext)
  · rw [or_iff_right htext]
    exact and_congr_right fun _ => (and_iff_right htext).symm

theorem Clash.family_eq (h : a.Clash profileId b) : a.family = b.family := by
  cases a <;> cases b <;> first | rfl | exact False.elim h

/-- In a family that has the profile in its keys the rest of the key decides. -/
theorem tail_eq_iff (h : a.family = b.family) :
    a.tail profileId = b.tail profileId ↔ a = b ∨ a.Clash profileId b := by
  cases a with
  | update token =>
    cases b with
    | update token' =>
      change token = token' ↔ _ ∨ False
      rw [or_false, update.injEq]
    | _ => cases h
  | hourlyUpdate hour =>
    cases b with
    | hourlyUpdate hour' =>
      change "update_downloads" ++ ":" ++ (profileId ++ ":" ++ hour) =
        "update_downloads" ++ ":" ++ (profileId ++ ":" ++ hour') ↔ _ ∨ False
      rw [or_false, hourlyUpdate.injEq, String.append_right_inj, String.append_right_inj]
    | dailyCleanup day =>
      exact iff_of_false (separated_ne (by decide) (by decide) (by decide) _ _)
        (not_or_intro (by rintro ⟨⟩) id)
    | scheduledRun scheduleId jobType dueAt =>
      exact iff_of_false
        (separated_ne (by decide) (not_mem_toString (by decide) scheduleId)
          (word_ne_toString (c := 'u') (by decide) (by decide) scheduleId) _ _)
        (not_or_intro (by rintro ⟨⟩) id)
    | _ => cases h
  | dailyCleanup day =>
    cases b with
    | hourlyUpdate hour =>
      exact iff_of_false (separated_ne (by decide) (by decide) (by decide) _ _)
        (not_or_intro (by rintro ⟨⟩) id)
    | dailyCleanup day' =>
      change "retention_cleanup" ++ ":" ++ (profileId ++ ":" ++ day) =
        "retention_cleanup" ++ ":" ++ (profileId ++ ":" ++ day') ↔ _ ∨ False
      rw [or_false, dailyCleanup.injEq, String.append_right_inj, String.append_right_inj]
    | scheduledRun scheduleId jobType dueAt =>
      exact iff_of_false
        (separated_ne (by decide) (not_mem_toString (by decide) scheduleId)
          (word_ne_toString (c := 'r') (by decide) (by decide) scheduleId) _ _)
        (not_or_intro (by rintro ⟨⟩) id)
    | _ => cases h
  | scheduledRun scheduleId jobType dueAt =>
    cases b with
    | hourlyUpdate hour =>
      exact iff_of_false
        (separated_ne (not_mem_toString (by decide) scheduleId) (by decide)
          (word_ne_toString (c := 'u') (by decide) (by decide) scheduleId).symm _ _)
        (not_or_intro (by rintro ⟨⟩) id)
    | dailyCleanup day =>
      exact iff_of_false
        (separated_ne (not_mem_toString (by decide) scheduleId) (by decide)
          (word_ne_toString (c := 'r') (by decide) (by decide) scheduleId).symm _ _)
        (not_or_intro (by rintro ⟨⟩) id)
    | scheduledRun scheduleId' jobType' dueAt' =>
      change toString scheduleId ++ ":" ++ (jobType ++ ":" ++ isoformat dueAt) =
        toString scheduleId' ++ ":" ++ (jobType' ++ ":" ++ isoformat dueAt') ↔ _ ∨ False
      rw [or_false, scheduledRun.injEq]
      constructor
      · intro hrun
        obtain ⟨hid, hrest⟩ := separated_inj rfl (not_mem_toString (by decide) scheduleId)
          (not_mem_toString (by decide) scheduleId') hrun
        have hlist := congrArg String.toList hrest
        simp only [String.toList_append] at hlist
        have hdue := Subtype.ext (isoformat_end dueAt.2 dueAt'.2 hlist)
        subst hdue
        exact ⟨toString_nat_inj hid, (String.append_left_inj _).1 ((String.append_left_inj _).1 hrest), rfl⟩
      · rintro ⟨rfl, rfl, rfl⟩
        rfl
    | _ => cases h
  | downloadUrl url =>
    cases b with
    | downloadUrl url' =>
      change url = url' ↔ _ ∨ False
      rw [or_false, downloadUrl.injEq]
    | downloadNothing =>
      change url = "manual" ↔ _ ∨ url = "manual"
      rw [or_iff_right (by rintro ⟨⟩)]
    | redownload downloadId =>
      change url = toString downloadId ↔ _ ∨ url = toString downloadId
      rw [or_iff_right (by rintro ⟨⟩)]
    | _ => cases h
  | downloadNothing =>
    cases b with
    | downloadUrl url =>
      change "manual" = url ↔ _ ∨ url = "manual"
      rw [or_iff_right (by rintro ⟨⟩), eq_comm]
    | downloadNothing => exact iff_of_true rfl (.inl rfl)
    | redownload downloadId =>
      change "manual" = toString downloadId ↔ _ ∨ False
      rw [or_false]
      refine iff_of_false (word_ne_toString (c := 'm') (by decide) (by decide) downloadId) ?_
      rintro ⟨⟩
    | _ => cases h
  | redownload downloadId =>
    cases b with
    | downloadUrl url =>
      change toString downloadId = url ↔ _ ∨ url = toString downloadId
      rw [or_iff_right (by rintro ⟨⟩), eq_comm]
    | downloadNothing =>
      change toString downloadId = "manual" ↔ _ ∨ False
      rw [or_false]
      refine iff_of_false (word_ne_toString (c := 'm') (by decide) (by decide) downloadId).symm ?_
      rintro ⟨⟩
    | redownload downloadId' =>
      change toString downloadId = toString downloadId' ↔ _ ∨ False
      rw [or_false, redownload.injEq]
      exact ⟨toString_nat_inj, congrArg toString⟩
    | _ => cases h
  | document downloadId =>
    cases b with
    | document downloadId' =>
      change toString downloadId = toString downloadId' ↔ _ ∨ False
      rw [or_false, document.injEq]
      exact ⟨toString_nat_inj, congrArg toString⟩
    | _ => cases h
  | transcript downloadId =>
    cases b with
    | transcript downloadId' =>
      change downloadId = downloadId' ↔ _ ∨ False
      rw [or_false, transcript.injEq]
    | deferredTranscript sourceType sourceName itemUid => exact (or_iff_right (by rintro ⟨⟩)).symm
    | _ => cases h
  | deferredTranscript sourceType sourceName itemUid =>
    cases b with
    | transcript downloadId => exact eq_comm.trans (or_iff_right (by rintro ⟨⟩)).symm
    | deferredTranscript sourceType' sourceName' itemUid' =>
      change "deferred:" ++ sourceType ++ ":" ++ sourceName ++ ":" ++ itemUid =
          "deferred:" ++ sourceType' ++ ":" ++ sourceName' ++ ":" ++ itemUid' ↔
        _ ∨ sourceType ++ ":" ++ sourceName ++ ":" ++ itemUid =
          sourceType' ++ ":" ++ sourceName' ++ ":" ++ itemUid'
      rw [or_iff_right_of_imp (by rintro ⟨⟩; rfl)]
      generalize "deferred:" = head
      simp only [String.append_assoc, String.append_right_inj]
    | _ => cases h
  | convertRow downloadId =>
    cases b with
    | convertRow downloadId' =>
      change "download" ++ ":" ++ downloadId = "download" ++ ":" ++ downloadId' ↔ _ ∨ False
      rw [or_false, convertRow.injEq, String.append_right_inj]
    | convertFiles inputs =>
      exact iff_of_false (separated_ne (by decide) (by decide) (by decide) _ _)
        (not_or_intro (by rintro ⟨⟩) id)
    | _ => cases h
  | convertFiles inputs =>
    cases b with
    | convertRow downloadId =>
      exact iff_of_false (separated_ne (by decide) (by decide) (by decide) _ _)
        (not_or_intro (by rintro ⟨⟩) id)
    | convertFiles inputs' =>
      change "file" ++ ":" ++ sha1Text ("|".intercalate inputs) =
          "file" ++ ":" ++ sha1Text ("|".intercalate inputs') ↔
        _ ∨ sha1Text ("|".intercalate inputs) = sha1Text ("|".intercalate inputs')
      rw [or_iff_right_of_imp (by rintro ⟨⟩; rfl), String.append_right_inj]
    | _ => cases h
  | episode sourceId uid =>
    cases b with
    | episode sourceId' uid' => exact episode_tail_eq_iff
    | _ => cases h

/-- Two operations of a profile have one key if they are the same, or clash. -/
theorem key_eq_iff : a.key profileId = b.key profileId ↔ a = b ∨ a.Clash profileId b := by
  rw [key_eq_key_iff]
  by_cases h : a.family = b.family
  · rw [and_iff_right h]
    exact tail_eq_iff h
  · refine iff_of_false (fun hkey => h hkey.1) ?_
    rintro (rfl | hclash)
    · exact h rfl
    · exact h hclash.family_eq

end

end KeyedOperation

def KeySource.key (profileId : String) : KeySource → String
  | .client text => text
  | .generated operation => operation.key profileId

section
variable {host : Host} {profileId : String}

theorem substitute_hourlyUpdate (scheduleId profileId jobType dueAt dueDate dueHour : String) :
    substituteFrom [("schedule_id", scheduleId), ("profile_id", profileId), ("job_type", jobType),
      ("due_at", dueAt), ("due_date", dueDate), ("due_hour", dueHour)] .text
      ScheduleTemplate.hourlyUpdate.text.toList =
    "scheduled:update_downloads:".toList ++ (profileId.toList ++ ':' :: (dueHour.toList ++ [])) := rfl

theorem substitute_dailyCleanup (scheduleId profileId jobType dueAt dueDate dueHour : String) :
    substituteFrom [("schedule_id", scheduleId), ("profile_id", profileId), ("job_type", jobType),
      ("due_at", dueAt), ("due_date", dueDate), ("due_hour", dueHour)] .text
      ScheduleTemplate.dailyCleanup.text.toList =
    "scheduled:retention_cleanup:".toList ++ (profileId.toList ++ ':' :: (dueDate.toList ++ [])) := rfl

theorem renderIdempotencyKey_template (template : ScheduleTemplate) (scheduleId : Nat) (row : ScheduledJob)
    (dueAt : DateTime) :
    some (renderIdempotencyKey scheduleId { row with profileId, idempotencyKeyTemplate := template.text } dueAt) =
      ((KeyRequest.schedule template scheduleId row dueAt).source host).map (KeySource.key profileId) := by
  cases template with
  | hourlyUpdate =>
    have hne : ScheduleTemplate.hourlyUpdate.text ≠ "" := by decide
    refine congrArg some (String.toList_injective ?_)
    rw [renderIdempotencyKey, if_pos hne, safeSubstitute, String.toList_ofList]
    refine (substitute_hourlyUpdate _ _ _ _ _ _).trans ?_
    change _ = ("scheduled:update_downloads:" ++ profileId ++ ":" ++ isoHour dueAt).toList
    simp only [String.toList_append, List.append_assoc, List.append_nil]
    rfl
  | dailyCleanup =>
    have hne : ScheduleTemplate.dailyCleanup.text ≠ "" := by decide
    refine congrArg some (String.toList_injective ?_)
    rw [renderIdempotencyKey, if_pos hne, safeSubstitute, String.toList_ofList]
    refine (substitute_dailyCleanup _ _ _ _ _ _).trans ?_
    change _ = ("scheduled:retention_cleanup:" ++ profileId ++ ":" ++ (Date.ofInstant dueAt).isoformat).toList
    simp only [String.toList_append, List.append_assoc, List.append_nil]
    rfl
  | blank => rfl

theorem episodeText_ne (profileId : String) (sourceId : Nat) (uid : String) :
    episodeText profileId sourceId uid ≠ "" := by
  intro h
  have hlist := congrArg String.toList h
  rw [KeyedOperation.toList_episodeText] at hlist
  cases hlist

/-- The key of an episode, whose last cut takes nothing off. -/
theorem itemKey_eq (hsha : host.sha1 = sha1Text) (sourceId : Nat) (uid : String) :
    itemKey host profileId sourceId (cut255 uid) = (KeyedOperation.episode sourceId uid).key profileId := by
  have hfits : ((KeyedOperation.episode sourceId uid).key profileId).length ≤ 255 :=
    (KeyedOperation.fits_iff (.episode sourceId uid)).2 trivial
  have hjoined : itemKey host profileId sourceId (cut255 uid) =
      cut255 (episodeStart profileId sourceId ++ ":" ++
        host.sha1 (if episodeText profileId sourceId uid = "" then "unknown"
          else episodeText profileId sourceId uid)) := rfl
  rw [hjoined, if_neg (episodeText_ne profileId sourceId uid), hsha]
  change cut255 ((KeyedOperation.episode sourceId uid).key profileId) = _
  rw [cut255_of_le hfits]

/-- The key of a candidate whose identity is not empty. -/
theorem candidate_key (hsha : host.sha1 = sha1Text) (sourceId : Nat) {uid : String} (huid : uid ≠ "")
    {entry : Columns} (hentry : Json.get "item_uid" entry = some (.string (cut255 uid))) :
    (candidateOf host entry).key host profileId sourceId =
      (KeyedOperation.episode sourceId uid).key profileId := by
  have hkept : (candidateOf host entry).uid = cut255 uid := by
    rw [candidateOf, hentry, Host.textOr_text, cut255_cut255]
  rw [Candidate.key, Candidate.item, hkept, if_pos (cut255_spec huid).1]
  exact itemKey_eq hsha sourceId uid

theorem FeedEntry.uid_ne (host : Host) (source : SourceConfig) (entry : FeedEntry) :
    entry.uid host source ≠ "" := by
  rw [FeedEntry.uid]
  split
  · next h => exact h
  · rw [generatedUid]
    intro h
    have hlist := congrArg String.toList h
    rw [String.toList_append] at hlist
    cases hlist

theorem youtubeCandidate_uid {candidate : YoutubeCandidate}
    (h : youtubeCandidateFromEntry host source entry = some candidate) :
    candidate.itemUid = cut255 (youtubeUid host source entry) ∧ youtubeUid host source entry ≠ "" := by
  rw [youtubeCandidateFromEntry] at h
  split at h
  · cases h
  · dsimp only at h
    split at h
    · cases h
    · next hvideo =>
      rw [Bool.not_eq_true', Bool.not_eq_false] at hvideo
      have hurl : youtubeVideoUrl host entry ≠ "" := by
        intro hempty
        rw [hempty] at hvideo
        revert hvideo
        decide
      obtain rfl := Option.some.inj h
      unfold youtubeUid
      exact ⟨rfl, itemUid_ne_empty hurl⟩

theorem enqueueJob_key (post : List (String × String)) (token : String) :
    (KeyRequest.enqueueJob post token).key host profileId =
      ((KeyRequest.enqueueJob post token).source host).map (KeySource.key profileId) := by
  rw [KeyRequest.key, KeyRequest.source, enqueueJobArgs]
  dsimp only
  split
  · rfl
  · next htype =>
    rw [Option.bind_some]
    dsimp only
    cases (posted "idempotency_key" post).filter fun key => decide (key ≠ "") with
    | some key => rfl
    | none =>
      dsimp only
      rw [Option.getD_none]
      by_cases hupdate : postedText "job_type" post = "update_downloads"
      · rw [if_pos hupdate, if_pos hupdate, hupdate]
        rfl
      · have hsingle : postedText "job_type" post = "download_single" := by
          rw [not_not] at htype
          exact List.mem_singleton.1 ((List.mem_cons.1 htype).resolve_left hupdate)
        rw [if_neg hupdate, if_neg hupdate, hsingle]
        cases (posted "url" post).filter fun url => decide (url ≠ "") with
        | some url => rfl
        | none =>
          change some ("download_single" ++ ":" ++ profileId ++ ":" ++ "manual") =
            some ("download_single" ++ ":" ++ profileId ++ (":" ++ "manual"))
          simp only [String.append_assoc]

theorem download_key (data : List (String × Json)) :
    (KeyRequest.download data).key host profileId =
      ((KeyRequest.download data).source host).map (KeySource.key profileId) := by
  rw [KeyRequest.key, KeyRequest.source, downloadArgs]
  dsimp only
  split
  · rfl
  · rw [Option.bind_some]
    dsimp only
    unfold Json.orElse
    cases Json.get "idempotency_key" data with
    | none => rfl
    | some key =>
      dsimp only
      rw [Option.getD_some]
      split <;> rfl

theorem key_eq_source (hsha : host.sha1 = sha1Text) (request : KeyRequest) :
    request.key host profileId = (request.source host).map (KeySource.key profileId) := by
  cases request with
  | enqueueJob post token => exact enqueueJob_key post token
  | download data => exact download_key data
  | redownload row => rfl
  | document downloadId => rfl
  | upload downloadId mediaType => rfl
  | imported downloadId fileExt =>
    rw [KeyRequest.key, KeyRequest.source, importedArgs]
    split <;> rfl
  | schedule template scheduleId row dueAt =>
    exact renderIdempotencyKey_template template scheduleId row dueAt
  | podcastEpisode sourceId source entry =>
    exact congrArg some (candidate_key hsha sourceId (entry.uid_ne host source) rfl)
  | youtubeEpisode sourceId source entry =>
    rw [KeyRequest.key, KeyRequest.source]
    cases h : youtubeCandidateFromEntry host source entry with
    | none => rfl
    | some candidate =>
      obtain ⟨hcut, huid⟩ := youtubeCandidate_uid h
      refine congrArg some (candidate_key hsha sourceId huid ?_)
      rw [← hcut]
      rfl
  | conversion payload =>
    rw [KeyRequest.key, KeyRequest.source, transcodeIdempotencyKey, hsha]
    dsimp only
    split <;> rfl
  | deferredTranscript payload lookup defaults sourcePaths targetPath mediaKind => rfl
  | transcript payload downloadId id sourceType mediaKind => rfl

def KeySource.Fits (profileId : String) : KeySource → Prop
  | .client text => text.length ≤ 255
  | .generated operation => operation.Fits profileId

theorem KeySource.fits_iff (source : KeySource) :
    (source.key profileId).length ≤ 255 ↔ source.Fits profileId := by
  cases source with
  | client text => exact Iff.rfl
  | generated operation => exact operation.fits_iff

end

/-- Every key fits its column, and different operations have different keys. -/
structure KeysFit (host : Host) (profileId : String) (requests : Set KeyRequest) : Prop where
  short : ∀ request ∈ requests, ∀ key, request.key host profileId = some key → key.length ≤ 255
  distinct : ∀ request ∈ requests, ∀ request' ∈ requests, ∀ op op',
    request.source host = some (.generated op) → request'.source host = some (.generated op') → op ≠ op' →
      request.key host profileId ≠ request'.key host profileId

/-- The condition on what the requests are about. -/
structure KeysSafe (host : Host) (profileId : String) (requests : Set KeyRequest) : Prop where
  fits : ∀ request ∈ requests, ∀ source, request.source host = some source → source.Fits profileId
  apart : ∀ request ∈ requests, ∀ request' ∈ requests, ∀ op op',
    request.source host = some (.generated op) → request'.source host = some (.generated op') → op ≠ op' →
      ¬ op.Clash profileId op'

theorem keysFit_iff {host : Host} {profileId : String} (hsha : host.sha1 = sha1Text)
    (requests : Set KeyRequest) : KeysFit host profileId requests ↔ KeysSafe host profileId requests := by
  have hshort (request : KeyRequest) :
      (∀ key, request.key host profileId = some key → key.length ≤ 255) ↔
        ∀ source, request.source host = some source → source.Fits profileId := by
    rw [key_eq_source hsha]
    constructor
    · intro h source hsource
      exact source.fits_iff.1 (h _ (Option.map_eq_some_iff.2 ⟨source, hsource, rfl⟩))
    · intro h key hkey
      obtain ⟨source, hsource, rfl⟩ := Option.map_eq_some_iff.1 hkey
      exact source.fits_iff.2 (h source hsource)
  have hdistinct (request request' : KeyRequest) (op op' : KeyedOperation)
      (hop : request.source host = some (.generated op))
      (hop' : request'.source host = some (.generated op')) (hne : op ≠ op') :
      request.key host profileId ≠ request'.key host profileId ↔ ¬ op.Clash profileId op' := by
    rw [key_eq_source hsha, key_eq_source hsha, hop, hop', Option.map_some, Option.map_some, ne_eq,
      Option.some.injEq]
    exact (KeyedOperation.key_eq_iff.trans (or_iff_right hne)).not
  constructor
  · intro h
    exact ⟨fun request hr => (hshort request).1 (h.short request hr),
      fun request hr request' hr' op op' hop hop' hne =>
        (hdistinct request request' op op' hop hop' hne).1 (h.distinct request hr request' hr' op op' hop hop' hne)⟩
  · intro h
    exact ⟨fun request hr => (hshort request).2 (h.fits request hr),
      fun request hr request' hr' op op' hop hop' hne =>
        (hdistinct request request' op op' hop hop' hne).2 (h.apart request hr request' hr' op op' hop hop' hne)⟩

end GetOffline
