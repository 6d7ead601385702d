import GetOffline.PythonText

set_option autoImplicit true

namespace Python

/-- Microseconds since the epoch, in UTC. -/
abbrev Instant := Int

/-- The earliest and the latest `datetime`, and the longest `timedelta` in whole seconds. -/
def minInstant : Instant := -62135596800 * 1000000

def maxInstant : Instant := 253402300800 * 1000000 - 1

def maxDeltaSeconds : Int := 86399999999999

structure Date where
  year : Nat
  month : Nat
  day : Nat
deriving DecidableEq

/-- The Gregorian date of a day, counted from the epoch. A year of the count begins in March, so
that its leap day is its last. -/
def Date.ofDays (days : Int) : Date :=
  let era := (days + 719468) / 146097
  let dayOfEra := ((days + 719468) % 146097).toNat
  let yearOfEra := (dayOfEra - dayOfEra / 1460 + dayOfEra / 36524 - dayOfEra / 146096) / 365
  let dayOfYear := dayOfEra - (365 * yearOfEra + yearOfEra / 4 - yearOfEra / 100)
  let month := (5 * dayOfYear + 2) / 153
  { year := (era * 400 + yearOfEra).toNat + if month < 10 then 0 else 1
    month := if month < 10 then month + 3 else month - 9
    day := dayOfYear - (153 * month + 2) / 5 + 1 }

example : Date.ofDays 19782 = ⟨2024, 2, 29⟩ := by decide

def pad (width n : Nat) : String :=
  let digits := toString n
  String.ofList (List.replicate (width - digits.length) '0') ++ digits

def dayLength : Int := 86400 * 1000000

def Date.ofInstant (t : Instant) : Date :=
  .ofDays (t / dayLength)

/-- `date.isoformat()`. -/
def Date.isoformat (d : Date) : String :=
  pad 4 d.year ++ "-" ++ pad 2 d.month ++ "-" ++ pad 2 d.day

/-- `datetime.isoformat()` of an aware `datetime` in UTC. -/
def isoformat (t : Instant) : String :=
  let micros := (t % dayLength).toNat
  let seconds := micros / 1000000
  let fraction := micros % 1000000
  (Date.ofInstant t).isoformat ++ "T" ++ pad 2 (seconds / 3600) ++ ":" ++
    pad 2 (seconds / 60 % 60) ++ ":" ++ pad 2 (seconds % 60) ++
    (if fraction = 0 then "" else "." ++ pad 6 fraction) ++ "+00:00"

/-- `datetime.strftime("%Y-%m-%dT%H")`, which does not pad the year. -/
def isoHour (t : Instant) : String :=
  let d := Date.ofInstant t
  let hour := (t % dayLength).toNat / (3600 * 1000000)
  toString d.year ++ "-" ++ pad 2 d.month ++ "-" ++ pad 2 d.day ++ "T" ++ pad 2 hour

-- string.Template

/-- Where a template stands: in its text, after a delimiter, or in the name of a placeholder. -/
inductive TemplateState
  | text
  | delimiter
  | named (name : List Char)
  | braced (name : List Char)

def isNameStart (c : Char) : Bool :=
  c == '_' || c.isAlpha

def isNameChar (c : Char) : Bool :=
  c == '_' || c.isAlphanum

/-- The value of a placeholder, or else its own text. -/
def placeholder (mapping : List (String × String)) (name original : List Char) : List Char :=
  ((mapping.lookup (String.ofList name)).map String.toList).getD original

def substituteFrom (mapping : List (String × String)) : TemplateState → List Char → List Char
  | .text, [] => []
  | .text, c :: cs =>
    if c = '$' then substituteFrom mapping .delimiter cs else c :: substituteFrom mapping .text cs
  | .delimiter, [] => ['$']
  | .delimiter, c :: cs =>
    if c = '$' then '$' :: substituteFrom mapping .text cs
    else if c = '{' then substituteFrom mapping (.braced []) cs
    else if isNameStart c then substituteFrom mapping (.named [c]) cs
    else '$' :: c :: substituteFrom mapping .text cs
  | .named name, [] => placeholder mapping name ('$' :: name)
  | .named name, c :: cs =>
    if isNameChar c then substituteFrom mapping (.named (name ++ [c])) cs
    else placeholder mapping name ('$' :: name) ++
      if c = '$' then substituteFrom mapping .delimiter cs
      else c :: substituteFrom mapping .text cs
  | .braced name, [] => '$' :: '{' :: name
  | .braced name, c :: cs =>
    if c = '}' ∧ name ≠ [] then
      placeholder mapping name ('$' :: '{' :: (name ++ ['}'])) ++ substituteFrom mapping .text cs
    else if (if name = [] then isNameStart c else isNameChar c) then
      substituteFrom mapping (.braced (name ++ [c])) cs
    else '$' :: '{' :: (name ++
      if c = '$' then substituteFrom mapping .delimiter cs
      else c :: substituteFrom mapping .text cs)

/-- `Template(template).safe_substitute(mapping)`. -/
def safeSubstitute (template : String) (mapping : List (String × String)) : String :=
  String.ofList (substituteFrom mapping .text template.toList)

end Python
