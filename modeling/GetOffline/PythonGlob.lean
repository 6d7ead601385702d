import Mathlib.Data.List.Basic

set_option autoImplicit true

namespace Python

/-- A part of an `fnmatch` pattern. -/
inductive GlobPart
  | star
  | question
  | oneOf (negated : Bool) (ranges : List (Char × Char))
  | literal (c : Char)

/-- The members of a bracket. -/
def globRanges : List Char → List (Char × Char)
  | c :: '-' :: d :: cs => (c, d) :: globRanges cs
  | c :: cs => (c, c) :: globRanges cs
  | [] => []

/-- A bracket after its `[`, and what follows it, if it is closed. A `]` in the first place is a member. -/
def globBracket (cs : List Char) : Option (GlobPart × List Char) :=
  let (negated, body) :=
    match cs with
    | '!' :: cs => (true, cs)
    | cs => (false, cs)
  match body with
  | [] => none
  | c :: cs =>
    match cs.dropWhile (· ≠ ']') with
    | [] => none
    | _ :: rest => some (.oneOf negated (globRanges (c :: cs.takeWhile (· ≠ ']'))), rest)

/-- The parts of a pattern; each takes at least one character off it. -/
def globParts : Nat → List Char → List GlobPart
  | 0, _ | _, [] => []
  | n + 1, '*' :: cs => .star :: globParts n cs
  | n + 1, '?' :: cs => .question :: globParts n cs
  | n + 1, '[' :: cs =>
    match globBracket cs with
    | some (part, rest) => part :: globParts n rest
    | none => .literal '[' :: globParts n cs
  | n + 1, c :: cs => .literal c :: globParts n cs

def GlobPart.accepts (c : Char) : GlobPart → Bool
  | .star | .question => true
  | .oneOf negated ranges => (ranges.any fun r => r.1 ≤ c && c ≤ r.2) != negated
  | .literal d => c = d

def globMatches : List GlobPart → List Char → Bool
  | [], cs => cs = []
  | .star :: parts, cs => cs.tails.any fun rest => globMatches parts rest
  | part :: parts, c :: cs => part.accepts c && globMatches parts cs
  | _ :: _, [] => false

/-- `fnmatch.fnmatchcase(name, pattern)`. -/
def fnmatch (name pattern : String) : Bool :=
  globMatches (globParts pattern.toList.length pattern.toList) name.toList

example : (fnmatch "a [x].en.srt" "a [x]*.*", fnmatch "a x.en.srt" "a [x]*.*") = (false, true) := by
  decide +kernel

end Python
