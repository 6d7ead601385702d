import GetOffline.Json
import Mathlib.Data.List.TakeDrop
import Mathlib.Data.List.TakeWhile

set_option autoImplicit true

namespace Python

-- bytes.decode("utf-8")

/-- The six bits of a continuation byte. -/
def utf8Tail (b : Nat) : Option Nat :=
  if 0x80 ≤ b ∧ b < 0xC0 then some (b - 0x80) else none

/-- A character of a sequence that is not overlong and does not encode a surrogate. -/
def utf8Char (least n : Nat) : Option Char :=
  if least ≤ n ∧ n.isValidChar then some (Char.ofNat n) else none

/-- `owed` continuation bytes are still to come for a character of at least `least`. -/
def decodeUtf8From (owed least value : Nat) : List Nat → Option (List Char)
  | [] => if owed = 0 then some [] else none
  | b :: bs =>
    match owed with
    | 0 =>
      if b < 0x80 then (decodeUtf8From 0 0 0 bs).map (Char.ofNat b :: ·)
      else if b < 0xC0 then none
      else if b < 0xE0 then decodeUtf8From 1 0x80 (b - 0xC0) bs
      else if b < 0xF0 then decodeUtf8From 2 0x800 (b - 0xE0) bs
      else if b < 0xF8 then decodeUtf8From 3 0x10000 (b - 0xF0) bs
      else none
    | owed + 1 => do
      let value := value * 64 + (← utf8Tail b)
      if owed = 0 then do
        let char ← utf8Char least value
        return char :: (← decodeUtf8From 0 0 0 bs)
      else decodeUtf8From owed least value bs

def decodeUtf8 (body : List UInt8) : Option (List Char) :=
  decodeUtf8From 0 0 0 (body.map UInt8.toNat)

-- float()

/-- `n / d` rounded to the nearest integer, ties to even. -/
def roundHalfEven (n d : Nat) : Nat :=
  let q := n / d
  let r := n % d
  if 2 * r < d then q else if d < 2 * r then q + 1 else q + q % 2

/-- The fraction that `n / d` is of `2 ^ e`. -/
def scaleBy (e : Int) (n d : Nat) : Nat × Nat :=
  if 0 ≤ e then (n, d * Nat.pow 2 e.toNat) else (n * Nat.pow 2 (-e).toNat, d)

/-- The binary64 value nearest to `digits * 10 ^ exponent`. -/
def Float64.ofDecimal (negative : Bool) (digits : Nat) (exponent : Int) : Float64 :=
  if digits = 0 then .finite negative 0 0
  else
    let n := digits * Nat.pow 10 exponent.toNat
    let d := Nat.pow 10 (-exponent).toNat
    let e : Int := (n.log2 : Int) - d.log2 - 52
    let floor := scaleBy e n d
    let e := max (if floor.1 / floor.2 < Nat.pow 2 52 then e - 1 else e) (-1074)
    let scaled := scaleBy e n d
    let mantissa := roundHalfEven scaled.1 scaled.2
    if 1024 ≤ (mantissa.log2 : Int) + e then .infinity negative
    else .finite negative mantissa e

/-- `int()` of a float. -/
def Float64.toInt : Float64 → Except Error Int
  | .nan => .error .valueError
  | .infinity _ => .error .overflowError
  | .finite negative mantissa exponent =>
    let magnitude := mantissa * Nat.pow 2 exponent.toNat / Nat.pow 2 (-exponent).toNat
    .ok (if negative then -(magnitude : Int) else magnitude)

-- json.loads

def skipSpace (cs : List Char) : List Char :=
  cs.dropWhile fun c => c == ' ' || c == '\t' || c == '\n' || c == '\r'

def hexValue (c : Char) : Option Nat :=
  if '0' ≤ c ∧ c ≤ '9' then some (c.toNat - 0x30)
  else if 'a' ≤ c ∧ c ≤ 'f' then some (c.toNat - 0x57)
  else if 'A' ≤ c ∧ c ≤ 'F' then some (c.toNat - 0x37)
  else none

/-- The code unit of four hexadecimal digits. -/
def hexUnit (a b c d : Char) : Option Nat := do
  return (((← hexValue a) * 16 + (← hexValue b)) * 16 + (← hexValue c)) * 16 + (← hexValue d)

def escapeChar : Char → Option Char
  | '"' => some '"'
  | '\\' => some '\\'
  | '/' => some '/'
  | 'b' => some '\x08'
  | 'f' => some '\x0c'
  | 'n' => some '\n'
  | 'r' => some '\r'
  | 't' => some '\t'
  | _ => none

/-- The rest of a string after its opening quote, as code units and characters. -/
def scanString : List Char → Except Error (List Nat × List Char)
  | [] => .error .jsonDecodeError
  | '"' :: cs => .ok ([], cs)
  | '\\' :: 'u' :: a :: b :: c :: d :: cs =>
    match hexUnit a b c d with
    | none => .error .jsonDecodeError
    | some unit => (scanString cs).map fun r => (unit :: r.1, r.2)
  | '\\' :: c :: cs =>
    match escapeChar c with
    | none => .error .jsonDecodeError
    | some char => (scanString cs).map fun r => (char.toNat :: r.1, r.2)
  | c :: cs =>
    if c.toNat < 0x20 then .error .jsonDecodeError
    else (scanString cs).map fun r => (c.toNat :: r.1, r.2)

/-- The characters of code units. A surrogate that is not one of a pair has no `Char`; it becomes
REPLACEMENT CHARACTER, which is no more part of a number or of a name than the surrogate is. -/
def joinUnits : List Nat → List Char
  | [] => []
  | [a] => [if a.isValidChar then Char.ofNat a else '�']
  | a :: b :: units =>
    if 0xD800 ≤ a ∧ a < 0xDC00 ∧ 0xDC00 ≤ b ∧ b < 0xE000 then
      Char.ofNat (0x10000 + (a - 0xD800) * 0x400 + (b - 0xDC00)) :: joinUnits units
    else (if a.isValidChar then Char.ofNat a else '�') :: joinUnits (b :: units)

def scanText (cs : List Char) : Except Error (String × List Char) :=
  (scanString cs).map fun r => (String.ofList (joinUnits r.1), r.2)

def isAsciiDigit (c : Char) : Bool :=
  '0' ≤ c && c ≤ '9'

def asciiDigits (cs : List Char) : List Nat :=
  cs.map fun c => c.toNat - 0x30

/-- The digits before the point: `0` alone, or digits that do not start with it. -/
def scanIntPart : List Char → Option (List Char × List Char)
  | '0' :: cs => some (['0'], cs)
  | c :: cs => if isAsciiDigit c then some ((c :: cs).span isAsciiDigit) else none
  | [] => none

/-- The digits after a point, if a digit follows it. -/
def scanFraction : List Char → Option (List Char × List Char)
  | '.' :: c :: cs => if isAsciiDigit c then some ((c :: cs).span isAsciiDigit) else none
  | _ => none

def scanExponentDigits (negative : Bool) (cs : List Char) : Option (Int × List Char) :=
  match cs.span isAsciiDigit with
  | ([], _) => none
  | (ds, cs) =>
    let n : Int := ofDigits (asciiDigits ds)
    some (if negative then -n else n, cs)

/-- An exponent, if a digit follows its letter and sign. -/
def scanExponent : List Char → Option (Int × List Char)
  | c :: cs =>
    if c == 'e' || c == 'E' then
      match cs with
      | '+' :: cs => scanExponentDigits false cs
      | '-' :: cs => scanExponentDigits true cs
      | cs => scanExponentDigits false cs
    else none
  | [] => none

def scanUnsigned (negative : Bool) (cs : List Char) : Except Error (Json × List Char) :=
  match scanIntPart cs with
  | none => .error .jsonDecodeError
  | some (whole, cs) =>
    let fraction := scanFraction cs
    let cs := (fraction.map Prod.snd).getD cs
    let exponent := scanExponent cs
    let cs := (exponent.map Prod.snd).getD cs
    if fraction.isNone && exponent.isNone then
      if intMaxStrDigits < whole.length then .error .valueError
      else
        let n : Int := ofDigits (asciiDigits whole)
        .ok (.int (if negative then -n else n), cs)
    else
      let after := (fraction.map Prod.fst).getD []
      .ok (.float (.ofDecimal negative (ofDigits (asciiDigits (whole ++ after)))
        ((exponent.map Prod.fst).getD 0 - after.length)), cs)

/-- A literal, the constants that are not JSON but accepted, or a number. -/
def scanAtom : List Char → Except Error (Json × List Char)
  | 'n' :: 'u' :: 'l' :: 'l' :: cs => .ok (.null, cs)
  | 't' :: 'r' :: 'u' :: 'e' :: cs => .ok (.bool true, cs)
  | 'f' :: 'a' :: 'l' :: 's' :: 'e' :: cs => .ok (.bool false, cs)
  | 'N' :: 'a' :: 'N' :: cs => .ok (.float .nan, cs)
  | 'I' :: 'n' :: 'f' :: 'i' :: 'n' :: 'i' :: 't' :: 'y' :: cs => .ok (.float (.infinity false), cs)
  | '-' :: 'I' :: 'n' :: 'f' :: 'i' :: 'n' :: 'i' :: 't' :: 'y' :: cs =>
    .ok (.float (.infinity true), cs)
  | '-' :: cs => scanUnsigned true cs
  | cs => scanUnsigned false cs

mutual

/-- One value. `depth` more arrays and objects may be nested in each other; each call costs a unit
of fuel. -/
def scanOnce : Nat → Nat → List Char → Except Error (Json × List Char)
  | 0, _, _ => .error .jsonDecodeError
  | fuel + 1, depth, cs =>
    match cs with
    | '"' :: cs => (scanText cs).map fun r => (.string r.1, r.2)
    | '{' :: cs =>
      match depth with
      | 0 => .error .recursionError
      | depth + 1 =>
        match skipSpace cs with
        | '}' :: cs => .ok (.object [], cs)
        | cs => scanMembers fuel depth [] cs
    | '[' :: cs =>
      match depth with
      | 0 => .error .recursionError
      | depth + 1 =>
        match skipSpace cs with
        | ']' :: cs => .ok (.array [], cs)
        | cs => scanItems fuel depth [] cs
    | cs => scanAtom cs

/-- The members of an object from one of its keys on. -/
def scanMembers : Nat → Nat → List (String × Json) → List Char → Except Error (Json × List Char)
  | 0, _, _, _ => .error .jsonDecodeError
  | fuel + 1, depth, members, cs =>
    match cs with
    | '"' :: cs => do
      let (key, cs) ← scanText cs
      match skipSpace cs with
      | ':' :: cs =>
        let (value, cs) ← scanOnce fuel depth (skipSpace cs)
        let members := Json.set key value members
        match skipSpace cs with
        | ',' :: cs => scanMembers fuel depth members (skipSpace cs)
        | '}' :: cs => .ok (.object members, cs)
        | _ => .error .jsonDecodeError
      | _ => .error .jsonDecodeError
    | _ => .error .jsonDecodeError

/-- The items of an array from one of them on. -/
def scanItems : Nat → Nat → List Json → List Char → Except Error (Json × List Char)
  | 0, _, _, _ => .error .jsonDecodeError
  | fuel + 1, depth, items, cs => do
    let (value, cs) ← scanOnce fuel depth cs
    let items := items ++ [value]
    match skipSpace cs with
    | ',' :: cs => scanItems fuel depth items (skipSpace cs)
    | ']' :: cs => .ok (.array items, cs)
    | _ => .error .jsonDecodeError

end

/-- `json.loads` of a text; `limit` is how deep the interpreter lets it recurse. -/
def jsonLoads (limit : Nat) (cs : List Char) : Except Error Json :=
  match cs with
  | '\uFEFF' :: _ => .error .jsonDecodeError
  | cs => do
    let (value, cs) ← scanOnce (2 * cs.length + 1) limit (skipSpace cs)
    if (skipSpace cs).isEmpty then return value else throw .jsonDecodeError

/-- `int()` of a decoded value. -/
def Json.toInt : Json → Except Error Int
  | .bool b => .ok b.toNat
  | .int n => .ok n
  | .float x => x.toInt
  | .string s => intOfText s
  | .null | .array _ | .object _ => .error .typeError

end Python
