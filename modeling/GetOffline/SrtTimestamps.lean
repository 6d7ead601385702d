import GetOffline.PythonDecimal
import GetOffline.PythonRound

set_option autoImplicit true

namespace GetOffline
open Python

-- workers/subtitles.py; times are rationals here, where the code has floats

def parseSrtTimestamp (value : String) : Except Error ℚ :=
  match value.toList.splitOn ':' with
  | [hours, minutes, secondsMillis] =>
    match secondsMillis.splitOn ',' with
    | [seconds, millis] => do
      let hours ← intOfText (String.ofList hours)
      let minutes ← intOfText (String.ofList minutes)
      let seconds ← intOfText (String.ofList seconds)
      let millis ← intOfText (String.ofList millis)
      return hours * 3600 + minutes * 60 + seconds + millis / 1000
    | _ => .error .valueError
  | _ => .error .valueError

/-- `f"{hours:02d}:{minutes:02d}:{seconds:02d},{millis:03d}"`. -/
def timestampText (hours minutes seconds millis : Nat) : String :=
  pad 2 hours ++ ":" ++ pad 2 minutes ++ ":" ++ pad 2 seconds ++ "," ++ pad 3 millis

/-- The end of `_format_srt_timestamp`: the rounding may have filled a field. -/
def carriedText (hours minutes seconds millis : Nat) : String :=
  let (millis, seconds) := if millis = 1000 then (0, seconds + 1) else (millis, seconds)
  let (seconds, minutes) := if seconds = 60 then (0, minutes + 1) else (seconds, minutes)
  let (minutes, hours) := if minutes = 60 then (0, hours + 1) else (minutes, hours)
  timestampText hours minutes seconds millis

def formatSrtTimestamp (value : ℚ) : String :=
  let value := max 0 value
  let hours := ⌊value / 3600⌋₊
  let value := value - hours * 3600
  let minutes := ⌊value / 60⌋₊
  let value := value - minutes * 60
  let seconds := ⌊value⌋₊
  let millis := (roundToEven ((value - seconds) * 1000)).toNat
  carriedText hours minutes seconds millis

example : formatSrtTimestamp (35999995 / 10000) = "01:00:00,000" := by decide +kernel

/-- A time in whole milliseconds. -/
def millisText (millis : Nat) : String :=
  timestampText (millis / 3600000) (millis / 60000 % 60) (millis / 1000 % 60) (millis % 1000)

/-- The milliseconds that are written for a time. -/
def roundMillis (value : ℚ) : Nat :=
  (roundToEven (max 0 value * 1000)).toNat

theorem roundMillis_cast (value : ℚ) :
    ((roundMillis value : Nat) : Int) = roundToEven (max 0 value * 1000) := by
  have hpos : (0 : ℚ) ≤ max 0 value * 1000 := mul_nonneg (le_max_left _ _) (by norm_num)
  exact Int.toNat_of_nonneg ((Int.floor_nonneg.2 hpos).trans (floor_le_roundToEven _))

theorem carriedText_of_lt {hours minutes seconds millis : Nat} (hminutes : minutes < 60)
    (hseconds : seconds < 60) (hmillis : millis < 1000) :
    carriedText hours minutes seconds millis = timestampText hours minutes seconds millis := by
  rw [carriedText, if_neg hmillis.ne]
  dsimp only
  rw [if_neg hseconds.ne]
  dsimp only
  rw [if_neg hminutes.ne]

/-- The carries make no difference to the whole. -/
theorem carriedText_eq {hours minutes seconds millis : Nat} (hminutes : minutes < 60)
    (hseconds : seconds < 60) (hmillis : millis ≤ 1000) :
    carriedText hours minutes seconds millis =
      millisText (((hours * 60 + minutes) * 60 + seconds) * 1000 + millis) := by
  have hfields (h m s f : Nat) (hm : m < 60) (hs : s < 60) (hf : f < 1000) :
      timestampText h m s f = millisText (((h * 60 + m) * 60 + s) * 1000 + f) := by
    rw [millisText]
    congr 1 <;> omega
  rw [carriedText]
  by_cases h1 : millis = 1000
  · rw [if_pos h1]
    by_cases h2 : seconds + 1 = 60
    · dsimp only
      rw [if_pos h2]
      by_cases h3 : minutes + 1 = 60
      · dsimp only
        rw [if_pos h3]
        dsimp only
        rw [hfields _ _ _ _ (by decide) (by decide) (by decide)]
        exact congrArg millisText (by omega)
      · dsimp only
        rw [if_neg h3]
        dsimp only
        rw [hfields _ _ _ _ (by omega) (by decide) (by decide)]
        exact congrArg millisText (by omega)
    · dsimp only
      rw [if_neg h2]
      dsimp only
      rw [if_neg hminutes.ne]
      dsimp only
      rw [hfields _ _ _ _ hminutes (by omega) (by decide)]
      exact congrArg millisText (by omega)
  · rw [← carriedText, carriedText_of_lt hminutes hseconds (by omega)]
    exact hfields _ _ _ _ hminutes hseconds (by omega)

/-- What is written is the time to the nearest millisecond. -/
theorem formatSrtTimestamp_eq (value : ℚ) :
    formatSrtTimestamp value = millisText (roundMillis value) := by
  have hvalue : (0 : ℚ) ≤ max 0 value := le_max_left _ _
  have hmillis := roundMillis_cast value
  rw [formatSrtTimestamp]
  generalize max 0 value = x at hvalue hmillis ⊢
  obtain ⟨hpos1, hlt1⟩ := floor_div_bounds hvalue (by norm_num : (0 : ℚ) < 3600)
  generalize ⌊x / 3600⌋₊ = hours at *
  obtain ⟨hpos2, hlt2⟩ := floor_div_bounds hpos1 (by norm_num : (0 : ℚ) < 60)
  have hminutes := floor_div_lt (k := 60) hpos1 (by norm_num : (0 : ℚ) < 60) (hlt1.trans_eq (by norm_num))
  generalize ⌊(x - hours * 3600) / 60⌋₊ = minutes at *
  have hlow := Nat.floor_le hpos2
  have hhigh := Nat.lt_floor_add_one (x - hours * 3600 - minutes * 60)
  have hseconds : ⌊x - hours * 3600 - minutes * 60⌋₊ < 60 := (Nat.floor_lt hpos2).2 hlt2
  generalize ⌊x - hours * 3600 - minutes * 60⌋₊ = seconds at *
  -- the milliseconds are rounded by themselves
  have hround : roundToEven (x * 1000) =
      roundToEven ((x - hours * 3600 - minutes * 60 - seconds) * 1000) +
        2 * (((hours * 60 + minutes) * 60 + seconds : Nat) * 500) := by
    rw [← roundToEven_add_even]
    congr 1
    push_cast
    ring
  have hleft : 0 ≤ (x - hours * 3600 - minutes * 60 - seconds) * 1000 :=
    mul_nonneg (sub_nonneg.2 hlow) (by norm_num)
  have hright : (x - hours * 3600 - minutes * 60 - seconds) * 1000 ≤ 1000 := by linarith
  generalize (x - hours * 3600 - minutes * 60 - seconds) * 1000 = fraction at *
  have hmin : 0 ≤ roundToEven fraction := roundToEven_intCast 0 ▸ roundToEven_mono hleft
  have hmax : roundToEven fraction ≤ 1000 := roundToEven_intCast 1000 ▸ roundToEven_mono hright
  rw [carriedText_eq hminutes hseconds (by omega)]
  exact congrArg millisText (by omega)

theorem toList_timestampText (hours minutes seconds millis : Nat) :
    (timestampText hours minutes seconds millis).toList =
      (pad 2 hours).toList ++ ':' :: ((pad 2 minutes).toList ++ ':' ::
        ((pad 2 seconds).toList ++ ',' :: (pad 3 millis).toList)) := by
  have hcolon : ":".toList = [':'] := rfl
  have hcomma : ",".toList = [','] := rfl
  simp only [timestampText, String.toList_append, List.append_assoc, hcolon, hcomma,
    List.cons_append, List.nil_append]

theorem notMem_of_decimals {cs : List Char} (h : cs.mapM decimalValue = some ds)
    (hc : decimalValue c = none) : c ∉ cs := by
  intro hin
  obtain ⟨d, hd⟩ := decimalValue_of_mem h hin
  rw [hc] at hd
  cases hd

section
variable {hours minutes seconds millis : List Char} {hs ms ss fs : List Nat}

/-- The four numbers of a timestamp, between its two colons and its comma. -/
theorem parseSrtTimestamp_fields (hhours : hours.mapM decimalValue = some hs)
    (hminutes : minutes.mapM decimalValue = some ms) (hseconds : seconds.mapM decimalValue = some ss)
    (hmillis : millis.mapM decimalValue = some fs)
    (hne : hours ≠ [] ∧ minutes ≠ [] ∧ seconds ≠ [] ∧ millis ≠ [])
    (hlength : hs.length ≤ intMaxStrDigits ∧ ms.length ≤ intMaxStrDigits ∧
      ss.length ≤ intMaxStrDigits ∧ fs.length ≤ intMaxStrDigits) :
    parseSrtTimestamp (String.ofList (hours ++ ':' :: (minutes ++ ':' :: (seconds ++ ',' :: millis)))) =
      .ok (ofDigits hs * 3600 + ofDigits ms * 60 + ofDigits ss + ofDigits fs / 1000) := by
  have hcolon : decimalValue ':' = none := by decide
  have hcomma : decimalValue ',' = none := by decide
  have hrest : ':' ∉ seconds ++ ',' :: millis := by
    intro h
    rcases List.mem_append.1 h with h | h
    · exact notMem_of_decimals hseconds hcolon h
    · exact notMem_of_decimals hmillis hcolon (List.mem_of_ne_of_mem (by decide) h)
  have hint {cs : List Char} {ds : List Nat} (h : cs.mapM decimalValue = some ds) (hne : cs ≠ [])
      (hlength : ds.length ≤ intMaxStrDigits) : intOfText (String.ofList cs) = .ok (ofDigits ds) := by
    apply intOfText_decimals _ _ hlength
    · rwa [String.toList_ofList]
    · rwa [String.toList_ofList]
  rw [parseSrtTimestamp, String.toList_ofList,
    List.splitOn_append_cons_self_of_not_mem (notMem_of_decimals hhours hcolon),
    List.splitOn_append_cons_self_of_not_mem (notMem_of_decimals hminutes hcolon),
    List.splitOn_eq_singleton hrest]
  dsimp only
  rw [List.splitOn_append_cons_self_of_not_mem (notMem_of_decimals hseconds hcomma),
    List.splitOn_eq_singleton (notMem_of_decimals hmillis hcomma)]
  dsimp only
  rw [hint hhours hne.1 hlength.1, hint hminutes hne.2.1 hlength.2.1,
    hint hseconds hne.2.2.1 hlength.2.2.1, hint hmillis hne.2.2.2 hlength.2.2.2]
  rfl

end

theorem mapM_pad (width n : Nat) : ∃ ds, (pad width n).toList.mapM decimalValue = some ds ∧
    ofDigits ds = n ∧ ds.length = (pad width n).toList.length :=
  ⟨_, mapM_decimalValue fun c hc => isDigit_pad hc, by rw [ofDigits_map, ofDigitChars_pad],
    List.length_map _⟩

theorem parseSrtTimestamp_text {hours minutes seconds millis : Nat}
    (hhours : hours < 10 ^ intMaxStrDigits) (hminutes : minutes < 60) (hseconds : seconds < 60)
    (hmillis : millis < 1000) :
    parseSrtTimestamp (timestampText hours minutes seconds millis) =
      .ok (hours * 3600 + minutes * 60 + seconds + millis / 1000) := by
  obtain ⟨hs, hhs, hhval, hhlen⟩ := mapM_pad 2 hours
  obtain ⟨ms, hms, hmval, hmlen⟩ := mapM_pad 2 minutes
  obtain ⟨ss, hss, hsval, hslen⟩ := mapM_pad 2 seconds
  obtain ⟨fs, hfs, hfval, hflen⟩ := mapM_pad 3 millis
  rw [length_pad (by decide) (hminutes.trans (by decide))] at hmlen
  rw [length_pad (by decide) (hseconds.trans (by decide))] at hslen
  rw [length_pad (by decide) hmillis] at hflen
  rw [← String.ofList_toList (s := timestampText hours minutes seconds millis), toList_timestampText,
    parseSrtTimestamp_fields hhs hms hss hfs
      ⟨pad_ne_nil _ _, pad_ne_nil _ _, pad_ne_nil _ _, pad_ne_nil _ _⟩
      ⟨hhlen.trans_le (length_pad_le (by decide) hhours), hmlen.trans_le (by decide),
        hslen.trans_le (by decide), hflen.trans_le (by decide)⟩, hhval, hmval, hsval, hfval]

theorem parseSrtTimestamp_millisText {millis : Nat} (h : millis < 3600000 * 10 ^ intMaxStrDigits) :
    parseSrtTimestamp (millisText millis) = .ok (millis / 1000) := by
  rw [millisText, parseSrtTimestamp_text (Nat.div_lt_of_lt_mul h) (Nat.mod_lt _ (by decide))
    (Nat.mod_lt _ (by decide)) (Nat.mod_lt _ (by decide))]
  congr 1
  have hsum : ((millis / 3600000 * 60 + millis / 60000 % 60) * 60 + millis / 1000 % 60) * 1000 +
      millis % 1000 = millis := by omega
  nth_rewrite 5 [← hsum]
  push_cast
  ring

theorem roundMillis_natCast (millis : Nat) : roundMillis ((millis : ℚ) / 1000) = millis := by
  have hpos : (0 : ℚ) ≤ (millis : ℚ) / 1000 := by positivity
  have hround := roundMillis_cast ((millis : ℚ) / 1000)
  rw [max_eq_right hpos, div_mul_cancel₀ _ (by norm_num)] at hround
  have hint := roundToEven_intCast millis
  rw [Int.cast_natCast] at hint
  rw [hint] at hround
  exact Int.ofNat_inj.1 hround

/-- Below this the hours have two digits. -/
theorem roundMillis_lt_hundred_hours {x : ℚ} (hx : 0 ≤ x) :
    roundMillis x / 3600000 < 100 ↔ x < 360000 - 1 / 2000 := by
  have hlt : roundMillis x / 3600000 < 100 ↔ roundToEven (x * 1000) < 2 * 180000000 := by
    have hcast := roundMillis_cast x
    rw [max_eq_right hx] at hcast
    rw [← hcast]
    omega
  rw [hlt, roundToEven_lt_even]
  constructor
  · intro h
    norm_num at h
    linarith
  · intro h
    norm_num
    linarith

theorem parseSrtTimestamp_format {x : ℚ} (hx : 0 ≤ x)
    (hlimit : roundToEven (x * 1000) < 3600000 * 10 ^ intMaxStrDigits) :
    parseSrtTimestamp (formatSrtTimestamp x) = .ok (roundToEven (x * 1000) / 1000) := by
  have hcast := roundMillis_cast x
  rw [max_eq_right hx] at hcast
  rw [← hcast] at hlimit
  rw [formatSrtTimestamp_eq, parseSrtTimestamp_millisText (by exact_mod_cast hlimit), ← hcast,
    Int.cast_natCast]

/-- For every time that is not negative: the fields are in range and the hours have more than two
digits from hundred hours on; what is read back is the time to the nearest millisecond, as long as
`int` takes so many digits; both round trips give back what they started with; and later times
are not written as earlier ones. -/
theorem srt_timestamps :
    (∀ x : ℚ, 0 ≤ x → ∃ hours minutes seconds millis : Nat,
      formatSrtTimestamp x = timestampText hours minutes seconds millis ∧
        minutes < 60 ∧ seconds < 60 ∧ millis < 1000 ∧ (hours < 100 ↔ x < 360000 - 1 / 2000)) ∧
    (∀ x : ℚ, 0 ≤ x → roundToEven (x * 1000) < 3600000 * 10 ^ intMaxStrDigits →
      parseSrtTimestamp (formatSrtTimestamp x) = .ok (roundToEven (x * 1000) / 1000)) ∧
    (∀ millis : Nat, millis < 3600000 * 10 ^ intMaxStrDigits →
      parseSrtTimestamp (formatSrtTimestamp (millis / 1000)) = .ok (millis / 1000)) ∧
    (∀ hours minutes seconds millis : Nat,
      hours < 10 ^ intMaxStrDigits → minutes < 60 → seconds < 60 → millis < 1000 →
      ∃ x, parseSrtTimestamp (timestampText hours minutes seconds millis) = .ok x ∧
        formatSrtTimestamp x = timestampText hours minutes seconds millis) ∧
    ∀ x y : ℚ, 0 ≤ x → x ≤ y → roundToEven (y * 1000) < 3600000 * 10 ^ intMaxStrDigits →
      ∃ a b, parseSrtTimestamp (formatSrtTimestamp x) = .ok a ∧
        parseSrtTimestamp (formatSrtTimestamp y) = .ok b ∧ a ≤ b := by
  refine ⟨?_, ?_, ?_, ?_, ?_⟩
  · intro x hx
    exact ⟨_, _, _, _, formatSrtTimestamp_eq x, Nat.mod_lt _ (by decide), Nat.mod_lt _ (by decide),
      Nat.mod_lt _ (by decide), roundMillis_lt_hundred_hours hx⟩
  · exact fun x hx hlimit => parseSrtTimestamp_format hx hlimit
  · intro millis hlimit
    rw [formatSrtTimestamp_eq, roundMillis_natCast, parseSrtTimestamp_millisText hlimit]
  · intro hours minutes seconds millis hhours hminutes hseconds hmillis
    refine ⟨_, parseSrtTimestamp_text hhours hminutes hseconds hmillis, ?_⟩
    have hwhole : (hours * 3600 + minutes * 60 + seconds + millis / 1000 : ℚ) =
        ((((hours * 60 + minutes) * 60 + seconds) * 1000 + millis : Nat) : ℚ) / 1000 := by
      push_cast
      ring
    rw [hwhole, formatSrtTimestamp_eq, roundMillis_natCast,
      ← carriedText_eq hminutes hseconds hmillis.le, carriedText_of_lt hminutes hseconds hmillis]
  · intro x y hx hxy hlimit
    have hmono := roundToEven_mono (mul_le_mul_of_nonneg_right hxy (by norm_num : (0 : ℚ) ≤ 1000))
    refine ⟨_, _, parseSrtTimestamp_format hx (lt_of_le_of_lt hmono hlimit),
      parseSrtTimestamp_format (hx.trans hxy) hlimit, ?_⟩
    exact div_le_div_of_nonneg_right (Int.cast_le.2 hmono) (by norm_num)

/-- The rounding carries through all fields. -/
theorem srt_timestamps_hour :
    parseSrtTimestamp (formatSrtTimestamp (35999995 / 10000)) = .ok 3600 ∧
      (∃ x, parseSrtTimestamp (timestampText 0 59 59 999) = .ok x ∧
        formatSrtTimestamp x = timestampText 0 59 59 999) ∧
      ∃ a b, parseSrtTimestamp (formatSrtTimestamp (35999994 / 10000)) = .ok a ∧
        parseSrtTimestamp (formatSrtTimestamp (35999995 / 10000)) = .ok b ∧ a ≤ b := by
  obtain ⟨-, hparse, -, hformat, hmono⟩ := srt_timestamps
  have hround : roundToEven (35999995 / 10000 * 1000) = 3600000 := by decide +kernel
  have hlimit : roundToEven (35999995 / 10000 * 1000) < 3600000 * 10 ^ intMaxStrDigits := by
    rw [hround]
    exact lt_mul_of_one_lt_right (by decide) (one_lt_pow₀ (by decide) (by decide))
  refine ⟨?_, ?_, ?_⟩
  · rw [hparse _ (by norm_num) hlimit, hround]
    norm_num
  · exact hformat 0 59 59 999 (Nat.pow_pos (by decide)) (by decide) (by decide) (by decide)
  · exact hmono _ _ (by norm_num) (by norm_num) hlimit

/-- A recording of hundred hours and more has hours of three digits. -/
theorem hundred_hours_have_three_digits : ¬ ∀ x : ℚ, 0 ≤ x → ∃ hours minutes seconds millis : Nat,
    formatSrtTimestamp x = timestampText hours minutes seconds millis ∧
      hours < 100 ∧ minutes < 60 ∧ seconds < 60 ∧ millis < 1000 := by
  intro h
  obtain ⟨hours, minutes, seconds, millis, htext, hhours, hminutes, hseconds, hmillis⟩ :=
    h 360000 (by norm_num)
  have hlong : (formatSrtTimestamp 360000).toList.length = 13 := by decide +kernel
  rw [htext, toList_timestampText, List.length_append, List.length_cons, List.length_append,
    List.length_cons, List.length_append, List.length_cons, length_pad (by decide) hhours,
    length_pad (by decide) (hminutes.trans (by decide)),
    length_pad (by decide) (hseconds.trans (by decide)), length_pad (by decide) hmillis] at hlong
  cases hlong

end GetOffline
