import GetOffline.Playback
import GetOffline.PythonFloatOrder

set_option autoImplicit true

namespace GetOffline
open Python

/-- The request was served. -/
def Answer.accepted : Answer α → Bool
  | .ok _ => true
  | .refused _ _ | .notFound | .raised _ => false

/-- `float(request.POST.get("position_seconds") or 0.0)`. -/
def postedPosition (positionSeconds : Option String) : Except Error Float64 :=
  if hasText positionSeconds then floatOfText (orEmptyText positionSeconds) else .ok .zero

/-- A body of the API and a form say the same about a position. A text, from a form too, is the same text;
a JSON number is one that the text of the form stands for. -/
def SamePosition : Option Json → Option String → Prop
  | none, text => text = none
  | some .null, text => hasText text = false
  | some (.string s), text => text = some s
  | some (.int n), text => text = some (toString n)
  | some (.float x), text => floatOfText (orEmptyText text) = .ok x
  | some (.bool _), _ | some (.array _), _ | some (.object _), _ => False

/-- Both endpoints accept the request or neither does, and they leave the same tables. -/
structure SameOutcome (r r' : Answer α × LibraryTables) : Prop where
  accepted : r.1.accepted = r'.1.accepted
  tables : r.2 = r'.2

/-- The words that complete an item for the API alone. -/
def apiEndings : List String := ["complete", "completed"]

/-- To complete the row at this time changes no more than to save the position. -/
structure DownloadRow.CompletedAt (position : Float64) (now : Instant) (row : DownloadRow) : Prop where
  start : Float64.zero.lt position = false
  played : row.played = true
  playedAt : row.playedAt = some now

section
variable {positionSeconds : Option String} {position : Option Json} {reason : Option String}
  {row : DownloadRow} {now : Instant} {update : PlaybackUpdate}

theorem toString_int_ne_empty (n : Int) : toString n ≠ "" := by
  cases n with
  | ofNat n => exact Nat.repr_ne_empty
  | negSucc n =>
    intro h
    have hlist := congrArg String.toList h
    rw [show toString (Int.negSucc n) = "-" ++ toString (n + 1) from rfl, String.toList_append] at hlist
    exact absurd (List.append_eq_nil_iff.1 hlist).1 (by decide)

theorem hasText_eq_false {text : Option String} : hasText text = false ↔ orEmptyText text = "" := by
  cases text with
  | none => exact iff_of_true rfl rfl
  | some text =>
    rw [hasText, Option.any_some, decide_eq_false_iff_not, not_not]
    rfl

theorem postedPosition_of_text {text : String} (h : text ≠ "") :
    postedPosition (some text) = floatOfText text :=
  if_pos (decide_eq_true h)

theorem zero_max_of_mantissa_zero (negative : Bool) (exponent : Int) :
    Float64.zero.max (.finite negative 0 exponent) = .zero := by
  rw [Float64.zero_max_eq_zero]
  apply eq_false_of_ne_true
  intro hlt
  rw [Float64.lt_iff Float64.toRat_zero (Float64.toRat_of_mantissa_zero negative exponent)] at hlt
  exact lt_irrefl 0 hlt

/-- The two ways to read a position differ in nothing that the rule looks at. -/
theorem max_position (h : SamePosition position positionSeconds) :
    (floatOfPosition position).map Float64.zero.max =
      (postedPosition positionSeconds).map Float64.zero.max := by
  cases position with
  | none =>
    obtain rfl := h
    rfl
  | some value =>
    cases value with
    | null =>
      have hposted : postedPosition positionSeconds = .ok .zero := if_neg (ne_true_of_eq_false h)
      rw [hposted]
      rfl
    | bool | array | object => exact h.elim
    | int n =>
      obtain rfl := h
      rw [postedPosition_of_text (toString_int_ne_empty n)]
      by_cases hn : n = 0
      · subst hn
        have hzero : floatOfText (toString (0 : Int)) = .ok .zero := by decide +kernel
        rw [hzero]
        rfl
      · have htruthy : (Json.int n).truthy = true := bne_iff_ne.2 hn
        rw [floatOfPosition, Json.orElse, if_pos htruthy]
    | float x =>
      rw [SamePosition] at h
      have htext : hasText positionSeconds = true := by
        by_contra hempty
        rw [Bool.not_eq_true, hasText_eq_false] at hempty
        rw [hempty, show floatOfText "" = .error .valueError by decide +kernel] at h
        cases h
      have hposted : postedPosition positionSeconds = .ok x := (if_pos htext).trans h
      rw [hposted]
      by_cases htruthy : (Json.float x).truthy = true
      · rw [floatOfPosition, Json.orElse, if_pos htruthy]
      · have hzero : Float64.zero.max x = .zero := by
          cases x with
          | nan | infinity => exact absurd rfl htruthy
          | finite negative mantissa exponent =>
            have hmantissa : mantissa = 0 := by
              simpa only [Json.truthy, bne_iff_ne, ne_eq, not_not] using htruthy
            rw [hmantissa]
            exact zero_max_of_mantissa_zero negative exponent
        rw [floatOfPosition, Json.orElse, if_neg htruthy]
        exact congrArg Except.ok ((zero_max_of_mantissa_zero false 0).trans hzero.symm)
    | string text =>
      obtain rfl := h
      by_cases htext : text = ""
      · subst htext
        rfl
      · have htruthy : (Json.string text).truthy = true := bne_iff_ne.2 htext
        rw [postedPosition_of_text htext, floatOfPosition, Json.orElse, if_pos htruthy]

theorem playbackUpdate_congr {endings : List String} {x y : Except Error Float64}
    (h : x.map Float64.zero.max = y.map Float64.zero.max) (reason : String) (row : DownloadRow) :
    playbackUpdate x reason endings row = playbackUpdate y reason endings row := by
  cases x with
  | error e =>
    cases y with
    | error e' => rfl
    | ok y => cases h
  | ok x =>
    cases y with
    | error e => cases h
    | ok y =>
      have hmax : Float64.zero.max x = Float64.zero.max y := Except.ok.inj h
      rw [playbackUpdate, playbackUpdate, hmax]

theorem str_reason (render : Json → String) (reason : Option String) :
    (Json.orEmpty (reason.map .string)).str render = orEmptyText reason := by
  cases reason with
  | none => rfl
  | some text =>
    rw [Option.map_some, Json.orEmpty]
    split
    · rfl
    · next hempty =>
      have htext : text = "" := by simpa only [Json.truthy, bne_iff_ne, ne_eq, not_not] using hempty
      rw [htext]
      rfl

/-- The updates of the two endpoints for one position and one reason. -/
theorem buildUpdate_eq (render : Json → String) (h : SamePosition position positionSeconds)
    (reason : Option String) (row : DownloadRow) :
    buildUpdate render position (reason.map .string) row =
      (playbackUpdateFromRequest positionSeconds reason row).map fun update =>
        { update with completed := update.completed || decide (update.reason ∈ apiEndings) } := by
  rw [buildUpdate, playbackUpdateFromRequest, str_reason, playbackUpdate_congr (max_position h)]
  rw [← postedPosition]
  cases postedPosition positionSeconds with
  | error e => rfl
  | ok x =>
    have hendings (word : String) : decide (word ∈ ["ended", "mini-ended", "complete", "completed"]) =
        (decide (word ∈ ["ended", "mini-ended"]) || decide (word ∈ apiEndings)) := by
      simp only [apiEndings, List.mem_cons, List.not_mem_nil, or_false, ← Bool.decide_or, or_assoc]
    simp only [playbackUpdate, Option.map_some, hendings]

/-- The updates differ in the completion alone. -/
theorem apply_completed_iff (hposition : update.position = Float64.zero.max x)
    (hcompleted : update.completed = false) (now : Instant) (row : DownloadRow) :
    update.apply now row = { update with completed := true }.apply now row ↔ row.CompletedAt x now := by
  have hstart : update.position = .zero ↔ Float64.zero.lt x = false := by
    rw [hposition, Float64.zero_max_eq_zero]
  rw [PlaybackUpdate.apply, PlaybackUpdate.apply, hcompleted]
  constructor
  · intro h
    have hlast := congrArg DownloadRow.lastPositionSeconds h
    have hplayed := congrArg DownloadRow.played h
    have hplayedAt := congrArg DownloadRow.playedAt h
    simp only [Bool.false_eq_true, ↓reduceIte, Bool.or_false, Bool.or_true] at hlast hplayed hplayedAt
    exact ⟨hstart.1 hlast, hplayed, hplayedAt⟩
  · rintro ⟨hlast, hplayed, hplayedAt⟩
    simp only [Bool.false_eq_true, ↓reduceIte, Bool.or_false, Bool.or_true, hstart.2 hlast, hplayed,
      hplayedAt]

/-- Two updates of one row leave the same tables exactly if they make the same of the row. -/
theorem update_downloads_iff {t : LibraryTables} {id : Nat} (hrow : t.downloads.rows.lookup id = some row)
    (f g : DownloadRow → DownloadRow) :
    { t with downloads := t.downloads.update (fun other _ => other == id) f } =
        { t with downloads := t.downloads.update (fun other _ => other == id) g } ↔
      f row = g row := by
  constructor
  · intro h
    have hlookup := congrArg (fun t => t.downloads.rows.lookup id) h
    dsimp only at hlookup
    rw [AutoTable.lookup_update_at, AutoTable.lookup_update_at, if_pos rfl, if_pos rfl, hrow] at hlookup
    exact Option.some.inj hlookup
  · intro h
    congr 1
    apply AutoTable.update_congr
    intro i other hother hi
    obtain rfl := eq_of_beq hi
    rw [hrow] at hother
    obtain rfl := Option.some.inj hother
    exact h

end

/-- The two endpoints do the same exactly where the reason is no word of the API alone, or completing the
item would change no more than saving its position. -/
theorem one_playback_rule_iff (render : Json → String) (profileId : String) (downloadId : Nat)
    (h : SamePosition position positionSeconds) (reason : Option String) (now : Instant)
    (t : LibraryTables) :
    SameOutcome
        (t.saveProgress render profileId downloadId (.savePosition positionSeconds reason) now)
        (t.saveProgress render profileId downloadId (.progress position (reason.map .string)) now) ↔
      ∀ row x, t.ownDownload profileId downloadId = some row → postedPosition positionSeconds = .ok x →
        lower (strip (orEmptyText reason)) ∈ apiEndings → row.CompletedAt x now := by
  unfold LibraryTables.saveProgress
  cases hown : t.ownDownload profileId downloadId with
  | none =>
    refine iff_of_true ⟨rfl, rfl⟩ ?_
    rintro row x ⟨⟩
  | some row =>
    have hrow : t.downloads.rows.lookup downloadId = some row :=
      (Option.filter_eq_some_iff.1 hown).1
    simp only [ProgressRequest.update, buildUpdate_eq render h]
    rw [playbackUpdateFromRequest, ← postedPosition]
    cases hposition : postedPosition positionSeconds with
    | error e =>
      refine iff_of_true ⟨rfl, rfl⟩ ?_
      rintro row x - ⟨⟩
    | ok x =>
      rw [playbackUpdate]
      generalize hupdate : PlaybackUpdate.mk (Float64.zero.max x) (lower (strip (orEmptyText reason)))
        (decide (lower (strip (orEmptyText reason)) ∈ ["ended", "mini-ended"]))
        (Float64.zero.max ((Float64.zero.max x).sub row.lastPositionSeconds.orZero)) = update
      have hword : update.reason = lower (strip (orEmptyText reason)) := by rw [← hupdate]
      have houtcome (a b : PlaybackState) (u u' : LibraryTables) :
          SameOutcome (.ok a, u) (.ok b, u') ↔ u = u' :=
        ⟨SameOutcome.tables, fun hu => ⟨rfl, hu⟩⟩
      dsimp only [Option.map_some]
      rw [houtcome, update_downloads_iff hrow]
      by_cases hending : update.reason ∈ apiEndings
      · have hcompleted : update.completed = false := by
          rw [apiEndings, List.mem_cons, List.mem_singleton, hword] at hending
          rw [← hupdate, decide_eq_false_iff_not]
          rcases hending with hending | hending
          · rw [hending]
            decide
          · rw [hending]
            decide
        rw [decide_eq_true hending, Bool.or_true, apply_completed_iff (by rw [← hupdate]) hcompleted]
        constructor
        · rintro hsame other y hother hy -
          obtain rfl := Option.some.inj hother
          obtain rfl := Except.ok.inj hy
          exact hsame
        · intro hall
          exact hall row x rfl rfl (hword ▸ hending)
      · rw [decide_eq_false hending, Bool.or_false]
        refine iff_of_true rfl ?_
        intro other y _ _ hreason
        exact absurd (hword ▸ hreason) hending

/-- An item that nobody has played. -/
def unplayedRow : DownloadRow where
  profileId := "p"
  sourceType := "podcast"
  sourceName := "N"
  firstSeenAt := 0
  lastSeenAt := 0

def unplayedItem : LibraryTables :=
  { LibraryTables.empty with downloads := AutoTable.empty.insert unplayedRow }

theorem ended_item_saved_alike : SameOutcome
    (unplayedItem.saveProgress (fun _ => "") "p" 0 (.savePosition (some "10") (some "ended")) 5)
    (unplayedItem.saveProgress (fun _ => "") "p" 0
      (.progress (some (.int 10)) (some (.string "ended"))) 5) := by
  have hsame : SamePosition (some (.int 10)) (some "10") := rfl
  apply (one_playback_rule_iff _ _ _ hsame (some "ended") _ _).2
  intro row x _ _ hword
  exact absurd hword (by decide)

/-- The API plays an item to its end where the form saves a position. -/
theorem completed_item_saved_apart : ¬ SameOutcome
    (unplayedItem.saveProgress (fun _ => "") "p" 0 (.savePosition (some "10") (some "complete")) 5)
    (unplayedItem.saveProgress (fun _ => "") "p" 0
      (.progress (some (.string "10")) (some (.string "complete"))) 5) := by
  intro h
  have hplayed := congrArg (fun t => (t.downloads.rows.lookup 0).map DownloadRow.played) h.tables
  exact absurd hplayed (by decide +kernel)

end GetOffline
