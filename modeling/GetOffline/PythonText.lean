import Mathlib.Data.List.Basic

set_option autoImplicit true

namespace Python

/-- The exceptions that the modelled code meets, by the class that an `except` clause sees. -/
inductive Error
  | valueError
  | typeError
  | keyError
  | overflowError
  | recursionError
  | unicodeDecodeError
  | jsonDecodeError
  | databaseError
  | other (message : String)
deriving DecidableEq

theorem bind_eq_ok {x : Except ε α} {f : α → Except ε β} :
    x >>= f = .ok b ↔ ∃ a, x = .ok a ∧ f a = .ok b := by
  cases x with
  | error e =>
    constructor
    · intro h
      cases h
    · rintro ⟨a, h, -⟩
      cases h
  | ok a =>
    constructor
    · intro h
      exact ⟨a, rfl, h⟩
    · rintro ⟨a, ⟨⟩, h⟩
      exact h

/-- `str.isspace` of one character. -/
def isSpace (c : Char) : Bool :=
  let n := c.toNat
  (9 ≤ n && n ≤ 13) || (28 ≤ n && n ≤ 32) || n == 0x85 || n == 0xA0 || n == 0x1680 ||
    (0x2000 ≤ n && n ≤ 0x200A) || n == 0x2028 || n == 0x2029 || n == 0x202F || n == 0x205F ||
    n == 0x3000

def stripChars (cs : List Char) : List Char :=
  ((cs.dropWhile isSpace).reverse.dropWhile isSpace).reverse

/-- `str.strip()`. -/
def strip (s : String) : String :=
  String.ofList (stripChars s.toList)

/-- `str.lower()` of one character, exact where the result is ASCII. KELVIN SIGN is the only
character outside ASCII whose whole lower case is inside it. -/
def lowerChar (c : Char) : Char :=
  if c.toNat == 0x212A then 'k' else c.toLower

/-- `str.lower()`, for comparison with ASCII text. -/
def lower (s : String) : String :=
  String.ofList (s.toList.map lowerChar)

/-- The characters for zero of the decimal digits (Unicode category Nd); each is followed by
those for one to nine. -/
def decimalZeros : List Nat :=
  [0x30, 0x660, 0x6F0, 0x7C0, 0x966, 0x9E6, 0xA66, 0xAE6, 0xB66, 0xBE6, 0xC66, 0xCE6, 0xD66,
    0xDE6, 0xE50, 0xED0, 0xF20, 0x1040, 0x1090, 0x17E0, 0x1810, 0x1946, 0x19D0, 0x1A80, 0x1A90,
    0x1B50, 0x1BB0, 0x1C40, 0x1C50, 0xA620, 0xA8D0, 0xA900, 0xA9D0, 0xA9F0, 0xAA50, 0xABF0,
    0xFF10, 0x104A0, 0x10D30, 0x11066, 0x110F0, 0x11136, 0x111D0, 0x112F0, 0x11450, 0x114D0,
    0x11650, 0x116C0, 0x11730, 0x118E0, 0x11950, 0x11C50, 0x11D50, 0x11DA0, 0x11F50, 0x16A60,
    0x16AC0, 0x16B50, 0x1D7CE, 0x1D7D8, 0x1D7E2, 0x1D7EC, 0x1D7F6, 0x1E140, 0x1E2F0, 0x1E4F0,
    0x1E950, 0x1FBF0]

/-- The digits that are not decimal: superscripts, subscripts, circled digits and the like. -/
def otherDigitRanges : List (Nat × Nat) :=
  [(0xB2, 0xB3), (0xB9, 0xB9), (0x1369, 0x1371), (0x19DA, 0x19DA), (0x2070, 0x2070),
    (0x2074, 0x2079), (0x2080, 0x2089), (0x2460, 0x2468), (0x2474, 0x247C), (0x2488, 0x2490),
    (0x24EA, 0x24EA), (0x24F5, 0x24FD), (0x24FF, 0x24FF), (0x2776, 0x277E), (0x2780, 0x2788),
    (0x278A, 0x2792), (0x10A40, 0x10A43), (0x10E60, 0x10E68), (0x11052, 0x1105A),
    (0x1F100, 0x1F10A)]

/-- The value of a decimal digit. -/
def decimalValue (c : Char) : Option Nat :=
  (decimalZeros.find? fun z => z ≤ c.toNat && c.toNat < z + 10).map (c.toNat - ·)

/-- `str.isdigit` of one character. -/
def isDigitChar (c : Char) : Bool :=
  (decimalValue c).isSome || otherDigitRanges.any fun r => r.1 ≤ c.toNat && c.toNat ≤ r.2

/-- `str.isdigit()`. -/
def isDigit (s : String) : Bool :=
  !s.toList.isEmpty && s.toList.all isDigitChar

/-- The digits of `int()` text, where a single underscore may stand between two of them. -/
def decimalDigits : List Char → Option (List Nat)
  | [] => none
  | [c] => (decimalValue c).map ([·])
  | c :: '_' :: cs => do
    let d ← decimalValue c
    let ds ← decimalDigits cs
    return d :: ds
  | c :: cs => do
    let d ← decimalValue c
    let ds ← decimalDigits cs
    return d :: ds

/-- `sys.get_int_max_str_digits()`. -/
def intMaxStrDigits : Nat := 4300

def ofDigits (ds : List Nat) : Nat :=
  ds.foldl (fun n d => 10 * n + d) 0

def intOfDigits (cs : List Char) : Except Error Nat :=
  match decimalDigits cs with
  | none => .error .valueError
  | some ds => if intMaxStrDigits < ds.length then .error .valueError else .ok (ofDigits ds)

/-- `int()` of a text. -/
def intOfText (s : String) : Except Error Int :=
  match stripChars s.toList with
  | '-' :: cs => (intOfDigits cs).map fun n => -(n : Int)
  | '+' :: cs => (intOfDigits cs).map fun n => (n : Int)
  | cs => (intOfDigits cs).map fun n => (n : Int)

example : (intOfText " 12_34 ").toOption = some 1234 := by decide

end Python
