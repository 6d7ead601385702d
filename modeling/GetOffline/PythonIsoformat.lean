import GetOffline.PythonTime
import Mathlib.Tactic.IntervalCases

set_option autoImplicit true

namespace Python

/-- The day of a date, counted from the epoch. -/
def Date.toDays (d : Date) : Int :=
  let year := if d.month ≤ 2 then (d.year : Int) - 1 else d.year
  let yearOfEra := year % 400
  let month := if d.month ≤ 2 then d.month + 9 else d.month - 3
  let dayOfYear := (153 * month + 2) / 5 + d.day - 1
  year / 400 * 146097 + (yearOfEra * 365 + yearOfEra / 4 - yearOfEra / 100 + dayOfYear) - 719468

example : (⟨2024, 2, 29⟩ : Date).toDays = 19782 := by decide

section
variable {day year : Nat} (h : day < 146097)
  (hyear : year = (day - day / 1460 + day / 36524 - day / 146096) / 365)
include h hyear

/-- The centuries before a day of an era. -/
theorem century_of_day : year / 100 = day / 36524 - day / 146096 := by
  have hle : day / 36524 ≤ 4 := by omega
  generalize hb : day / 36524 = b at *
  by_cases hlast : day = 146096
  · subst day
    subst b
    subst year
    rfl
  · have hc : day / 146096 = 0 := by omega
    rw [hc] at hyear ⊢
    interval_cases b <;> omega

/-- The leap years before a day of an era, the centuries left in. -/
theorem leaps_of_day : year / 4 ≤ day / 1460 ∧ day / 1460 ≤ year / 4 + 1 := by
  omega

theorem year_bounds : year < 400 ∧ 365 * year + year / 4 - year / 100 ≤ day ∧
    day - (365 * year + year / 4 - year / 100) ≤ 365 := by
  have hc := century_of_day h hyear
  have hl := leaps_of_day h hyear
  omega

end

theorem month_of_day {dayOfYear month : Nat} (h : dayOfYear ≤ 365)
    (hmonth : month = (5 * dayOfYear + 2) / 153) :
    month ≤ 11 ∧ (153 * month + 2) / 5 ≤ dayOfYear := by
  omega

theorem Date.toDays_ofDays {days : Int} (h : -719468 ≤ days) : (Date.ofDays days).toDays = days := by
  have hdays : days = (days + 719468) / 146097 * 146097 + ((days + 719468) % 146097).toNat - 719468 := by
    omega
  have hday : ((days + 719468) % 146097).toNat < 146097 := by omega
  have hpos : 0 ≤ (days + 719468) / 146097 := by omega
  rw [Date.ofDays, Date.toDays]
  generalize ((days + 719468) % 146097).toNat = dayOfEra at *
  generalize (days + 719468) / 146097 = era at *
  generalize hyear : (dayOfEra - dayOfEra / 1460 + dayOfEra / 36524 - dayOfEra / 146096) / 365 = year
  obtain ⟨hlt, hle, hrest⟩ := year_bounds hday hyear.symm
  clear hyear h
  generalize hdayOfYear : dayOfEra - (365 * year + year / 4 - year / 100) = dayOfYear at *
  generalize hmonth : (5 * dayOfYear + 2) / 153 = month
  obtain ⟨hm, hstart⟩ := month_of_day hrest hmonth.symm
  clear hmonth
  have hcount : ((era * 400 + year).toNat : Int) = era * 400 + year := by omega
  have hera : (era * 400 + year) / 400 = era := by omega
  have hyearOfEra : (era * 400 + year) % 400 = year := by omega
  dsimp only
  by_cases h10 : month < 10
  · have hlate : ¬ month + 3 ≤ 2 := by omega
    simp only [h10, hlate, ↓reduceIte, Nat.add_zero, Nat.add_sub_cancel, hcount, hera, hyearOfEra]
    clear hcount hera hyearOfEra h10 hlate
    omega
  · have hearly : month - 9 ≤ 2 := by omega
    have hback : month - 9 + 9 = month := by omega
    have hnext : ((era * 400 + year).toNat + 1 : Nat) - (1 : Int) = era * 400 + year := by omega
    simp only [h10, hearly, hback, ↓reduceIte, hnext, hera, hyearOfEra]
    clear hcount hera hyearOfEra h10 hearly hback hnext
    omega

/-- A number of the given width, and the rest of the text. -/
def fixedDigits (width : Nat) (cs : List Char) : Option (Nat × List Char) :=
  if (cs.take width).length = width ∧ (cs.take width).all Char.isDigit then
    some (Nat.ofDigitChars 10 (cs.take width) 0, cs.drop width)
  else none

def expect (c : Char) : List Char → Option (List Char)
  | [] => none
  | d :: cs => if d = c then some cs else none

def dateOfText (cs : List Char) : Option (Date × List Char) := do
  let (year, cs) ← fixedDigits 4 cs
  let (month, cs) ← fixedDigits 2 (← expect '-' cs)
  let (day, cs) ← fixedDigits 2 (← expect '-' cs)
  return (⟨year, month, day⟩, cs)

/-- Whole seconds since midnight. -/
def secondsOfText (cs : List Char) : Option (Nat × List Char) := do
  let (hour, cs) ← fixedDigits 2 cs
  let (minute, cs) ← fixedDigits 2 (← expect ':' cs)
  let (second, cs) ← fixedDigits 2 (← expect ':' cs)
  return ((hour * 60 + minute) * 60 + second, cs)

def fractionOfText : List Char → Option (Nat × List Char)
  | '.' :: cs => fixedDigits 6 cs
  | cs => some (0, cs)

/-- `datetime.fromisoformat` of the texts that `isoformat` writes; it is given no others. -/
def fromisoformat (s : String) : Option Instant := do
  let (date, cs) ← dateOfText s.toList
  let (seconds, cs) ← secondsOfText (← expect 'T' cs)
  let (fraction, cs) ← fractionOfText cs
  if cs = "+00:00".toList then
    some (date.toDays * dayLength + (seconds * 1000000 + fraction : Nat))
  else none

theorem toList_pad (width n : Nat) : (pad width n).toList =
    List.replicate (width - (Nat.toDigits 10 n).length) '0' ++ Nat.toDigits 10 n := by
  simp only [pad, Nat.toString_eq_ofList_toDigits, String.toList_append, String.toList_ofList,
    String.length_ofList]

theorem length_pad {width n : Nat} (hw : 0 < width) (hn : n < 10 ^ width) :
    (pad width n).toList.length = width := by
  have hle := (Nat.length_toDigits_le_iff (by decide) hw).2 hn
  rw [toList_pad, List.length_append, List.length_replicate]
  omega

theorem isDigit_pad {width n : Nat} {c : Char} (h : c ∈ (pad width n).toList) : c.isDigit := by
  rw [toList_pad] at h
  rcases List.mem_append.1 h with hzero | hdigit
  · rw [(List.mem_replicate.1 hzero).2]
    rfl
  · exact Nat.isDigit_of_mem_toDigits (by decide) le_rfl hdigit

theorem ofDigitChars_pad (width n : Nat) : Nat.ofDigitChars 10 (pad width n).toList 0 = n := by
  rw [toList_pad, Nat.ofDigitChars_append, Nat.ofDigitChars_replicate_zero, Nat.mul_zero,
    Nat.ofDigitChars_ten_toDigits]

theorem fixedDigits_pad {width n : Nat} (hw : 0 < width) (hn : n < 10 ^ width) (cs : List Char) :
    fixedDigits width ((pad width n).toList ++ cs) = some (n, cs) := by
  have hlength := length_pad hw hn
  have hall : (pad width n).toList.all Char.isDigit = true :=
    List.all_eq_true.2 fun c hc => isDigit_pad hc
  rw [fixedDigits, List.take_left' hlength, List.drop_left' hlength, if_pos ⟨hlength, hall⟩,
    ofDigitChars_pad]

/-- The dates that Python knows fit into the fields of their text. -/
theorem Date.fields_ofDays {days : Int} (hlow : -719162 ≤ days) (hhigh : days < 2932897) :
    (Date.ofDays days).year < 10 ^ 4 ∧ (Date.ofDays days).month < 10 ^ 2 ∧
      (Date.ofDays days).day < 10 ^ 2 := by
  have hday : ((days + 719468) % 146097).toNat < 146097 := by omega
  have hera : 0 ≤ (days + 719468) / 146097 ∧ (days + 719468) / 146097 ≤ 24 := by omega
  have hlast : (days + 719468) / 146097 = 24 → ((days + 719468) % 146097).toNat < 146037 := by omega
  rw [Date.ofDays]
  generalize ((days + 719468) % 146097).toNat = dayOfEra at *
  generalize (days + 719468) / 146097 = era at *
  generalize hyear : (dayOfEra - dayOfEra / 1460 + dayOfEra / 36524 - dayOfEra / 146096) / 365 = year
  obtain ⟨hlt, hle, hrest⟩ := year_bounds hday hyear.symm
  clear hyear
  generalize hdayOfYear : dayOfEra - (365 * year + year / 4 - year / 100) = dayOfYear at *
  generalize hmonth : (5 * dayOfYear + 2) / 153 = month
  obtain ⟨hm, hstart⟩ := month_of_day hrest hmonth.symm
  dsimp only
  refine ⟨?_, ?_, ?_⟩
  · split
    · omega
    · omega
  · split
    · omega
    · omega
  · omega

theorem expect_cons (c : Char) (cs : List Char) : expect c (c :: cs) = some cs :=
  if_pos rfl

theorem dayLength_bounds {t : Int} (hlow : -62135596800 * 1000000 ≤ t)
    (hhigh : t ≤ 253402300800 * 1000000 - 1) :
    -719162 ≤ t / (86400 * 1000000) ∧ t / (86400 * 1000000) < 2932897 ∧
      (t % (86400 * 1000000)).toNat < 86400 * 1000000 ∧
      t / (86400 * 1000000) * (86400 * 1000000) + ((t % (86400 * 1000000)).toNat : Int) = t := by
  omega

theorem Date.toList_isoformat (date : Date) : date.isoformat.toList =
    (pad 4 date.year).toList ++
      '-' :: ((pad 2 date.month).toList ++ '-' :: (pad 2 date.day).toList) := by
  have hdash : "-".toList = ['-'] := rfl
  simp only [Date.isoformat, String.toList_append, List.append_assoc, hdash, List.cons_append,
    List.nil_append]

theorem dateOfText_isoformat (date : Date) (hyear : date.year < 10 ^ 4)
    (hmonth : date.month < 10 ^ 2) (hday : date.day < 10 ^ 2) (cs : List Char) :
    dateOfText (date.isoformat.toList ++ cs) = some (date, cs) := by
  rw [Date.toList_isoformat, List.append_assoc, List.cons_append, List.append_assoc,
    List.cons_append, dateOfText, fixedDigits_pad (by decide) hyear]
  simp only [Option.bind_eq_bind, Option.bind_some, expect_cons]
  rw [fixedDigits_pad (by decide) hmonth]
  simp only [Option.bind_some, expect_cons]
  rw [fixedDigits_pad (by decide) hday]
  rfl

theorem secondsOfText_pad {seconds : Nat} (h : seconds < 86400) (cs : List Char) :
    secondsOfText ((pad 2 (seconds / 3600)).toList ++ ':' :: ((pad 2 (seconds / 60 % 60)).toList ++
      ':' :: ((pad 2 (seconds % 60)).toList ++ cs))) = some (seconds, cs) := by
  have hhour : seconds / 3600 < 10 ^ 2 := by omega
  have hminute : seconds / 60 % 60 < 10 ^ 2 := by omega
  have hsecond : seconds % 60 < 10 ^ 2 := by omega
  have hsum : (seconds / 3600 * 60 + seconds / 60 % 60) * 60 + seconds % 60 = seconds := by omega
  rw [secondsOfText, fixedDigits_pad (by decide) hhour]
  simp only [Option.bind_eq_bind, Option.bind_some, expect_cons]
  rw [fixedDigits_pad (by decide) hminute]
  simp only [Option.bind_some, expect_cons]
  rw [fixedDigits_pad (by decide) hsecond]
  simp only [Option.bind_some, hsum]
  rfl

theorem fractionOfText_pad {fraction : Nat} (h : fraction < 1000000) :
    fractionOfText ((if fraction = 0 then "" else "." ++ pad 6 fraction).toList ++
      "+00:00".toList) = some (fraction, "+00:00".toList) := by
  by_cases h0 : fraction = 0
  · rw [if_pos h0, h0]
    rfl
  · have htext : ("." ++ pad 6 fraction).toList ++ "+00:00".toList =
        '.' :: ((pad 6 fraction).toList ++ "+00:00".toList) := by
      have hpoint : ".".toList = ['.'] := rfl
      rw [String.toList_append, List.append_assoc, hpoint, List.singleton_append]
    rw [if_neg h0, htext, fractionOfText, fixedDigits_pad (by decide) h]

theorem toList_isoformat (t : Instant) :
    (isoformat t).toList = (Date.ofInstant t).isoformat.toList ++ 'T' ::
      ((pad 2 ((t % dayLength).toNat / 1000000 / 3600)).toList ++ ':' ::
        ((pad 2 ((t % dayLength).toNat / 1000000 / 60 % 60)).toList ++ ':' ::
          ((pad 2 ((t % dayLength).toNat / 1000000 % 60)).toList ++
            ((if (t % dayLength).toNat % 1000000 = 0 then ""
              else "." ++ pad 6 ((t % dayLength).toNat % 1000000)).toList ++ "+00:00".toList)))) := by
  have hcolon : ":".toList = [':'] := rfl
  have hsep : "T".toList = ['T'] := rfl
  simp only [isoformat, String.toList_append, List.append_assoc, hcolon, hsep,
    List.cons_append, List.nil_append]

/-- A time that Python can represent is read back from its text. -/
theorem fromisoformat_isoformat {t : Instant} (hlow : minInstant ≤ t) (hhigh : t ≤ maxInstant) :
    fromisoformat (isoformat t) = some t := by
  obtain ⟨hfirst, hlast, hmicros, ht⟩ := dayLength_bounds hlow hhigh
  obtain ⟨hyear, hmonth, hday⟩ := Date.fields_ofDays hfirst hlast
  have hdate : (Date.ofInstant t).toDays = t / dayLength :=
    Date.toDays_ofDays (le_trans (by decide) hfirst)
  have hseconds : (t % dayLength).toNat / 1000000 < 86400 := Nat.div_lt_of_lt_mul hmicros
  have hsum := Nat.div_add_mod' (t % dayLength).toNat 1000000
  rw [fromisoformat, toList_isoformat, dateOfText_isoformat (.ofInstant t) hyear hmonth hday]
  simp only [Option.bind_eq_bind, Option.bind_some, expect_cons]
  rw [secondsOfText_pad hseconds]
  simp only [Option.bind_some]
  rw [fractionOfText_pad (Nat.mod_lt _ (by decide))]
  simp only [Option.bind_some, ↓reduceIte]
  rw [hsum, hdate]
  exact congrArg some ht

theorem length_isoformat {t : Instant} (hlow : minInstant ≤ t) (hhigh : t ≤ maxInstant) :
    (isoformat t).toList.length = 25 ∨ (isoformat t).toList.length = 32 := by
  obtain ⟨hfirst, hlast, hmicros, -⟩ := dayLength_bounds hlow hhigh
  obtain ⟨hyear, hmonth, hday⟩ := Date.fields_ofDays hfirst hlast
  have hseconds : (t % dayLength).toNat / 1000000 < 86400 := Nat.div_lt_of_lt_mul hmicros
  have hfraction : (t % dayLength).toNat % 1000000 < 10 ^ 6 := Nat.mod_lt _ (by decide)
  have hzone : "+00:00".toList.length = 6 := rfl
  have hpoint : ".".toList.length = 1 := rfl
  generalize hs : (t % dayLength).toNat / 1000000 = seconds at hseconds
  have hhour : seconds / 3600 < 10 ^ 2 := by omega
  have hminute : seconds / 60 % 60 < 10 ^ 2 := by omega
  have hsecond : seconds % 60 < 10 ^ 2 := by omega
  rw [toList_isoformat, Date.toList_isoformat, Date.ofInstant, dayLength] at *
  rw [hs]
  simp only [List.length_append, List.length_cons, length_pad (by decide : 0 < 4) hyear,
    length_pad (by decide : 0 < 2) hmonth, length_pad (by decide : 0 < 2) hday,
    length_pad (by decide : 0 < 2) hhour, length_pad (by decide : 0 < 2) hminute,
    length_pad (by decide : 0 < 2) hsecond, hzone]
  split
  · exact .inl rfl
  · right
    rw [String.toList_append, List.length_append, hpoint, length_pad (by decide) hfraction]

end Python
