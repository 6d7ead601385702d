import GetOffline.Delimiters
import GetOffline.PythonEncode

set_option autoImplicit true

open Python

/-- What a reader of a `multipart/form-data` body makes of a part. -/
structure FormPart where
  name : List UInt8
  filename : Option (List UInt8)
  content : List UInt8
deriving DecidableEq

namespace FormPart

def crlf : List UInt8 := [13, 10]

/-- The line break before a boundary line belongs to the delimiter. -/
def delimiter (boundary : List UInt8) : List UInt8 :=
  13 :: 10 :: 45 :: 45 :: boundary

def isBlank (b : UInt8) : Bool :=
  b == 32 || b == 9

/-- Neither a space nor a control character nor one of `()<>@,;:\"/[]?=`. -/
def isToken (b : UInt8) : Bool :=
  32 < b && b < 127 && b ∉ [40, 41, 60, 62, 64, 44, 59, 58, 92, 34, 47, 91, 93, 63, 61]

def lower (text : List UInt8) : List UInt8 :=
  text.map fun b => if 65 ≤ b ∧ b ≤ 90 then b + 32 else b

/-- The rest of a quoted string, and what follows it: a backslash takes the next character literally, and
there are no carriage returns. -/
def readQuoted : List UInt8 → Option (List UInt8 × List UInt8)
  | [] => none
  | b :: text =>
    if b = 34 then some ([], text)
    else if b = 13 then none
    else if b = 92 then
      match text with
      | [] => none
      | c :: text =>
        if c = 13 then none
        else (readQuoted text).map fun read => (c :: read.1, read.2)
    else (readQuoted text).map fun read => (b :: read.1, read.2)

/-- A token, or a quoted string. -/
def readValue (text : List UInt8) : Option (List UInt8 × List UInt8) :=
  if text.head? = some 34 then readQuoted text.tail
  else if text.takeWhile isToken = [] then none
  else some (text.takeWhile isToken, text.dropWhile isToken)

/-- What follows the character that has to come. -/
def readMark (mark : UInt8) (text : List UInt8) : Option (List UInt8) :=
  if text.head? = some mark then some text.tail else none

/-- The parameters of a header field, at most so many. -/
def readParameters : Nat → List UInt8 → Option (List (List UInt8 × List UInt8))
  | 0, _ => none
  | limit + 1, text =>
    if text.dropWhile isBlank = [] then some []
    else do
      let name ← readMark 59 (text.dropWhile isBlank)
      let name := name.dropWhile isBlank
      let value ← readMark 61 (name.dropWhile isToken)
      let (value, text) ← readValue value
      let parameters ← readParameters limit text
      some ((lower (name.takeWhile isToken), value) :: parameters)

/-- Lines that begin with a blank continue the line before. -/
def unfoldLines : List (List UInt8) → List (List UInt8)
  | [] => []
  | line :: lines =>
    match unfoldLines lines with
    | next :: rest => if (next.head?.any isBlank) then (line ++ next) :: rest else line :: next :: rest
    | [] => [line]

def isDisposition (line : List UInt8) : Bool :=
  lower (line.takeWhile (· ≠ 58)) = encode "content-disposition"

/-- The parameters `name` and `filename` of the header field. -/
def readDisposition (line : List UInt8) : Option (List UInt8 × Option (List UInt8)) := do
  let value := ((line.dropWhile (· ≠ 58)).drop 1).dropWhile isBlank
  if lower (value.takeWhile isToken) = encode "form-data" then
    let parameters ← readParameters value.length (value.dropWhile isToken)
    let name ← parameters.lookup (encode "name")
    some (name, parameters.lookup (encode "filename"))
  else none

/-- Of the header fields only the disposition is looked at. -/
def readHeader (lines : List (List UInt8)) : Option (List UInt8 × Option (List UInt8)) :=
  ((unfoldLines lines).find? isDisposition).bind readDisposition

/-- What stands between two delimiters: the end of the boundary line, the header up to the first empty line,
and the content. -/
def readPart (piece : List UInt8) : Option FormPart := do
  match splitSeq crlf 0 piece with
  | padding :: lines =>
    if padding.all isBlank then
      match lines.dropWhile (· ≠ []) with
      | _ :: content =>
        let (name, filename) ← readHeader (lines.takeWhile (· ≠ []))
        some ⟨name, filename, crlf.intercalate content⟩
      | [] => none
    else none
  | [] => none

/-- The delimiter before the piece is the last. -/
def closes (piece : List UInt8) : Bool :=
  [45, 45].isPrefixOf piece && ((splitSeq crlf 0 (piece.drop 2)).headD []).all isBlank

def readParts : List (List UInt8) → Option (List FormPart)
  | [] => none
  | piece :: pieces =>
    if closes piece then some []
    else do
      let part ← readPart piece
      let parts ← readParts pieces
      some (part :: parts)

/-- The body as RFC 7578 and RFC 2046 have it: what precedes the first delimiter and what follows the last
does not count. -/
def readBody (boundary body : List UInt8) : Option (List FormPart) :=
  readParts (splitSeq (delimiter boundary) 0 (crlf ++ body)).tail

/-- The text stands for itself in a quoted string. -/
def Plain (text : List UInt8) : Prop :=
  ∀ b ∈ text, b ≠ 34 ∧ b ≠ 92 ∧ b ≠ 13

section
variable {b c : UInt8} {text rest v w : List UInt8}

theorem plain_cons : Plain (b :: text) ↔ (b ≠ 34 ∧ b ≠ 92 ∧ b ≠ 13) ∧ Plain text :=
  List.forall_mem_cons

theorem readQuoted_close (text : List UInt8) : readQuoted (34 :: text) = some ([], text) := by
  rw [readQuoted.eq_def]
  exact if_pos rfl

theorem readQuoted_escape (hc : c ≠ 13) (text : List UInt8) :
    readQuoted (92 :: c :: text) = (readQuoted text).map fun read => (c :: read.1, read.2) := by
  rw [readQuoted.eq_def]
  dsimp only
  rw [if_neg (by decide), if_neg (by decide), if_pos rfl, if_neg hc]

theorem readQuoted_step (hb : b ≠ 34 ∧ b ≠ 92 ∧ b ≠ 13) (text : List UInt8) :
    readQuoted (b :: text) = (readQuoted text).map fun read => (b :: read.1, read.2) := by
  rw [readQuoted.eq_def]
  dsimp only
  rw [if_neg hb.1, if_neg hb.2.2, if_neg hb.2.1]

/-- What a first character of a quoted string can be. -/
theorem readQuoted_cons (h : readQuoted (b :: text) = some (v, rest)) :
    b = 34 ∧ v = [] ∧ rest = text ∨
    (∃ c text' v', b = 92 ∧ text = c :: text' ∧ c ≠ 13 ∧ v = c :: v' ∧ readQuoted text' = some (v', rest)) ∨
    ∃ v', (b ≠ 34 ∧ b ≠ 92 ∧ b ≠ 13) ∧ v = b :: v' ∧ readQuoted text = some (v', rest) := by
  rw [readQuoted.eq_def] at h
  dsimp only at h
  split at h
  · next hquote =>
    obtain ⟨rfl, rfl⟩ := Prod.mk.inj (Option.some.inj h)
    exact .inl ⟨hquote, rfl, rfl⟩
  · next hquote =>
    split at h
    · cases h
    · next hreturn =>
      split at h
      · next hslash =>
        cases text with
        | nil => cases h
        | cons c text =>
          dsimp only at h
          split at h
          · cases h
          · next hc =>
            obtain ⟨⟨v', rest'⟩, hread, heq⟩ := Option.map_eq_some_iff.1 h
            obtain ⟨rfl, rfl⟩ := Prod.mk.inj heq
            exact .inr (.inl ⟨c, text, v', hslash, rfl, hc, rfl, hread⟩)
      · next hslash =>
        obtain ⟨⟨v', rest'⟩, hread, heq⟩ := Option.map_eq_some_iff.1 h
        obtain ⟨rfl, rfl⟩ := Prod.mk.inj heq
        exact .inr (.inr ⟨v', ⟨hquote, hslash, hreturn⟩, rfl, hread⟩)

theorem readQuoted_plain (h : Plain v) (rest : List UInt8) : readQuoted (v ++ 34 :: rest) = some (v, rest) := by
  induction v with
  | nil => exact readQuoted_close rest
  | cons b v ih =>
    rw [plain_cons] at h
    rw [List.cons_append, readQuoted_step h.1, ih h.2]
    rfl

/-- Two backslashes are read as one, and nothing makes up for it. -/
theorem readQuoted_ne (rest' : List UInt8) : ∀ (k : Nat) (v : List UInt8) {w rest : List UInt8},
    readQuoted (v ++ 34 :: rest') = some (w, rest) → w ≠ List.replicate (k + 1) 92 ++ v
  | k, [], w, rest, h => by
    rw [List.nil_append, readQuoted_close] at h
    obtain ⟨rfl, -⟩ := Prod.mk.inj (Option.some.inj h)
    exact List.cons_ne_nil _ _ ∘ Eq.symm
  | k, b :: v, w, rest, h => by
    rw [List.replicate_succ, List.cons_append]
    rcases readQuoted_cons h with ⟨-, rfl, -⟩ | ⟨c, text', w', rfl, htext, hc, rfl, hread⟩ |
      ⟨w', hb, rfl, -⟩
    · exact List.cons_ne_nil _ _ ∘ Eq.symm
    · intro heq
      obtain ⟨rfl, hw'⟩ := List.cons.inj heq
      cases v with
      | nil => cases htext
      | cons d v =>
        obtain ⟨rfl, rfl⟩ := List.cons.inj htext
        apply readQuoted_ne rest' (k + 1) v hread
        rw [hw', List.replicate_succ', List.replicate_succ', List.append_assoc, List.append_assoc]
        rfl
    · intro heq
      exact hb.2.1 (List.cons.inj heq).1

/-- A quoted text is read as itself exactly if it is plain. -/
theorem readQuoted_eq_iff (rest' : List UInt8) :
    readQuoted (v ++ 34 :: rest') = some (v, rest) ↔ Plain v ∧ rest = rest' := by
  constructor
  · intro h
    induction v with
    | nil =>
      rw [List.nil_append, readQuoted_close] at h
      exact ⟨List.forall_mem_nil _, (Prod.mk.inj (Option.some.inj h)).2.symm⟩
    | cons b v ih =>
      rcases readQuoted_cons h with ⟨-, hnil, -⟩ | ⟨c, text', w, rfl, htext, hc, heq, hread⟩ | ⟨w, hb, heq, hread⟩
      · cases hnil
      · obtain ⟨rfl, rfl⟩ := List.cons.inj heq
        cases v with
        | nil => cases htext
        | cons d v =>
          obtain ⟨rfl, rfl⟩ := List.cons.inj htext
          exact absurd rfl (readQuoted_ne rest' 0 v hread)
      · obtain ⟨-, rfl⟩ := List.cons.inj heq
        obtain ⟨hplain, hrest⟩ := ih hread
        exact ⟨plain_cons.2 ⟨hb, hplain⟩, hrest⟩
  · rintro ⟨hplain, rfl⟩
    exact readQuoted_plain hplain rest

theorem not_mem_of_readQuoted : ∀ {text v rest : List UInt8}, readQuoted text = some (v, rest) → 13 ∉ v
  | [], v, _, h => by cases h
  | b :: text, v, _, h => by
    rcases readQuoted_cons h with ⟨-, rfl, -⟩ | ⟨c, text', v', -, rfl, hc, rfl, hread⟩ | ⟨v', hb, rfl, hread⟩
    · exact List.not_mem_nil
    · rw [List.mem_cons, not_or]
      exact ⟨Ne.symm hc, not_mem_of_readQuoted hread⟩
    · rw [List.mem_cons, not_or]
      exact ⟨Ne.symm hb.2.2, not_mem_of_readQuoted hread⟩

theorem not_mem_of_readValue (h : readValue text = some (v, rest)) : 13 ∉ v := by
  rw [readValue] at h
  split at h
  · exact not_mem_of_readQuoted h
  · split at h
    · cases h
    · obtain ⟨rfl, -⟩ := Prod.mk.inj (Option.some.inj h)
      intro hmem
      have htoken := List.all_eq_true.1 List.all_takeWhile 13 hmem
      exact absurd htoken (by decide)

/-- The values of parameters have no carriage returns. -/
theorem not_mem_of_readParameters {limit : Nat} {parameters : List (List UInt8 × List UInt8)}
    (h : readParameters limit text = some parameters) : ∀ parameter ∈ parameters, 13 ∉ parameter.2 := by
  induction limit generalizing text parameters with
  | zero => cases h
  | succ limit ih =>
    rw [readParameters] at h
    split at h
    · obtain rfl := Option.some.inj h
      exact List.forall_mem_nil _
    · obtain ⟨name, -, h⟩ := Option.bind_eq_some_iff.1 h
      obtain ⟨value, -, h⟩ := Option.bind_eq_some_iff.1 h
      obtain ⟨⟨v, rest⟩, hvalue, h⟩ := Option.bind_eq_some_iff.1 h
      obtain ⟨others, hothers, h⟩ := Option.bind_eq_some_iff.1 h
      obtain rfl := Option.some.inj h
      rw [List.forall_mem_cons]
      exact ⟨not_mem_of_readValue hvalue, ih hothers⟩

theorem isBlank_of_isToken (h : isToken b = true) : isBlank b = false := by
  rw [isToken, Bool.and_eq_true, Bool.and_eq_true, decide_eq_true_eq, UInt8.lt_iff_toNat_lt] at h
  rw [isBlank, Bool.or_eq_false_iff, beq_eq_false_iff_ne, beq_eq_false_iff_ne]
  constructor
  · rintro rfl
    exact absurd h.1.1 (by decide)
  · rintro rfl
    exact absurd h.1.1 (by decide)

theorem readMark_cons (mark : UInt8) (text : List UInt8) : readMark mark (mark :: text) = some text :=
  if_pos rfl

theorem readValue_quoted (text : List UInt8) : readValue (34 :: text) = readQuoted text :=
  if_pos rfl

theorem readParameters_quoted (limit : Nat) (hb : isToken b = true) (htext : ∀ c ∈ text, isToken c = true)
    (rest : List UInt8) :
    readParameters (limit + 1) (59 :: 32 :: (b :: text ++ 61 :: 34 :: rest)) =
      (readQuoted rest).bind fun read =>
        (readParameters limit read.2).map fun parameters => (lower (b :: text), read.1) :: parameters := by
  have hblank : ¬ isBlank b = true := by
    rw [isBlank_of_isToken hb]
    exact Bool.false_ne_true
  have htoken : ∀ c ∈ b :: text, isToken c = true := List.forall_mem_cons.2 ⟨hb, htext⟩
  have hname : (32 :: (b :: text ++ 61 :: 34 :: rest)).dropWhile isBlank = b :: text ++ 61 :: 34 :: rest := by
    rw [List.dropWhile_cons_of_pos (by decide), List.cons_append, List.dropWhile_cons_of_neg hblank]
  have hvalue : (b :: text ++ 61 :: 34 :: rest).dropWhile isToken = 61 :: 34 :: rest := by
    rw [List.dropWhile_append_of_pos htoken, List.dropWhile_cons_of_neg (by decide)]
  have hnamed : (b :: text ++ 61 :: 34 :: rest).takeWhile isToken = b :: text := by
    rw [List.takeWhile_append_of_pos htoken, List.takeWhile_cons_of_neg (by decide), List.append_nil]
  have hfirst : (59 :: 32 :: (b :: text ++ 61 :: 34 :: rest)).dropWhile isBlank =
      59 :: 32 :: (b :: text ++ 61 :: 34 :: rest) := List.dropWhile_cons_of_neg (by decide)
  rw [readParameters, hfirst, if_neg (List.cons_ne_nil _ _), readMark_cons, Option.bind_eq_bind, Option.bind_some]
  dsimp only
  rw [hname, hvalue, hnamed, readMark_cons, Option.bind_eq_bind, Option.bind_some, readValue_quoted]
  cases readQuoted rest with
  | none => rfl
  | some read =>
    obtain ⟨v, rest'⟩ := read
    dsimp only [Option.bind_eq_bind, Option.bind_some]
    cases readParameters limit rest' with
    | none => rfl
    | some parameters => rfl

end

/-- The header field of a part in its usual form. -/
def dispositionLine (name : List UInt8) (filename : Option (List UInt8)) : List UInt8 :=
  encode "Content-Disposition" ++ 58 :: 32 :: (encode "form-data" ++
    59 :: 32 :: (encode "name" ++ 61 :: 34 :: (name ++ 34 :: (filename.elim [] fun filename =>
      59 :: 32 :: (encode "filename" ++ 61 :: 34 :: (filename ++ [34]))))))

section
variable {name : List UInt8} {filename : Option (List UInt8)}

theorem readParameters_nil (limit : Nat) : readParameters (limit + 1) [] = some [] := by
  rw [readParameters]
  rfl

theorem readParameters_name (limit : Nat) (rest : List UInt8) :
    readParameters (limit + 1) (59 :: 32 :: (encode "name" ++ 61 :: 34 :: rest)) =
      (readQuoted rest).bind fun read =>
        (readParameters limit read.2).map fun parameters => (encode "name", read.1) :: parameters := by
  have hcons : encode "name" = 110 :: [97, 109, 101] := by decide
  rw [hcons, readParameters_quoted limit (by decide) (List.all_eq_true.1 (by decide))]
  rfl

theorem readParameters_filename (limit : Nat) (rest : List UInt8) :
    readParameters (limit + 1) (59 :: 32 :: (encode "filename" ++ 61 :: 34 :: rest)) =
      (readQuoted rest).bind fun read =>
        (readParameters limit read.2).map fun parameters => (encode "filename", read.1) :: parameters := by
  have hcons : encode "filename" = 102 :: [105, 108, 101, 110, 97, 109, 101] := by decide
  rw [hcons, readParameters_quoted limit (by decide) (List.all_eq_true.1 (by decide))]
  rfl

theorem takeWhile_dispositionLine (name : List UInt8) (filename : Option (List UInt8)) :
    (dispositionLine name filename).takeWhile (· ≠ 58) = encode "Content-Disposition" := by
  rw [dispositionLine, List.takeWhile_append_of_pos (List.all_eq_true.1 (by decide)),
    List.takeWhile_cons_of_neg (by decide), List.append_nil]

theorem isDisposition_dispositionLine (name : List UInt8) (filename : Option (List UInt8)) :
    isDisposition (dispositionLine name filename) = true := by
  rw [isDisposition, takeWhile_dispositionLine]
  decide

theorem readDisposition_dispositionLine (name : List UInt8) (filename : Option (List UInt8)) :
    ∃ limit, readDisposition (dispositionLine name filename) =
      (readParameters (limit + 3) (59 :: 32 :: (encode "name" ++ 61 :: 34 :: (name ++ 34 ::
        (filename.elim [] fun filename => 59 :: 32 :: (encode "filename" ++ 61 :: 34 :: (filename ++ [34]))))))).bind
          fun parameters => (parameters.lookup (encode "name")).bind fun name =>
            some (name, parameters.lookup (encode "filename")) := by
  generalize hrest : 59 :: 32 :: (encode "name" ++ 61 :: 34 :: (name ++ 34 ::
    (filename.elim [] fun filename => 59 :: 32 :: (encode "filename" ++ 61 :: 34 :: (filename ++ [34]))))) = rest
  have hvalue : (((dispositionLine name filename).dropWhile (· ≠ 58)).drop 1).dropWhile isBlank =
      encode "form-data" ++ rest := by
    rw [dispositionLine, hrest, List.dropWhile_append_of_pos (List.all_eq_true.1 (by decide)),
      List.dropWhile_cons_of_neg (by decide), List.drop_one, List.tail_cons,
      List.dropWhile_cons_of_pos (by decide)]
    rfl
  have htoken : ∀ b ∈ encode "form-data", isToken b = true := List.all_eq_true.1 (by decide)
  have hkind : (encode "form-data" ++ rest).takeWhile isToken = encode "form-data" := by
    rw [List.takeWhile_append_of_pos htoken, ← hrest, List.takeWhile_cons_of_neg (by decide), List.append_nil]
  have hparameters : (encode "form-data" ++ rest).dropWhile isToken = rest := by
    rw [List.dropWhile_append_of_pos htoken, ← hrest, List.dropWhile_cons_of_neg (by decide)]
  have hlength : (encode "form-data" ++ rest).length = 6 + rest.length + 3 := by
    have hkindLength : (encode "form-data").length = 9 := by decide
    rw [List.length_append, hkindLength]
    omega
  refine ⟨6 + rest.length, ?_⟩
  rw [readDisposition, hvalue, hkind, hparameters, if_pos (by decide), hlength]
  rfl

/-- The names are read as they are exactly if they need no quoting of their own. -/
theorem readDisposition_iff : readDisposition (dispositionLine name filename) = some (name, filename) ↔
    Plain name ∧ ∀ text ∈ filename, Plain text := by
  have hne : (encode "filename" == encode "name") = false := by decide
  obtain ⟨limit, heq⟩ := readDisposition_dispositionLine name filename
  rw [heq, readParameters_name]
  constructor
  · intro h
    obtain ⟨parameters, hparameters, h⟩ := Option.bind_eq_some_iff.1 h
    obtain ⟨⟨v, rest⟩, hquoted, h'⟩ := Option.bind_eq_some_iff.1 hparameters
    obtain ⟨others, hothers, rfl⟩ := Option.map_eq_some_iff.1 h'
    rw [List.lookup_cons_self, Option.bind_some, Option.some.injEq, Prod.mk.injEq, List.lookup_cons, hne] at h
    obtain ⟨rfl, hlookup⟩ := h
    obtain ⟨hname, rfl⟩ := (readQuoted_eq_iff _).1 hquoted
    refine ⟨hname, ?_⟩
    rintro text rfl
    rw [Option.elim_some, readParameters_filename] at hothers
    obtain ⟨⟨v', rest'⟩, hquoted', h'⟩ := Option.bind_eq_some_iff.1 hothers
    obtain ⟨others', hothers', rfl⟩ := Option.map_eq_some_iff.1 h'
    rw [List.lookup_cons_self, Option.some.injEq] at hlookup
    obtain rfl := hlookup
    exact ((readQuoted_eq_iff _).1 hquoted').1
  · rintro ⟨hname, hfilename⟩
    rw [readQuoted_plain hname, Option.bind_some]
    cases filename with
    | none =>
      rw [Option.elim_none, readParameters_nil, Option.map_some, Option.bind_some, List.lookup_cons_self,
        Option.bind_some, List.lookup_cons, hne]
      rfl
    | some text =>
      rw [Option.elim_some, readParameters_filename, readQuoted_plain (hfilename text rfl), Option.bind_some,
        readParameters_nil, Option.map_some, Option.map_some, Option.bind_some, List.lookup_cons_self,
        Option.bind_some, List.lookup_cons, hne]
      dsimp only
      rw [List.lookup_cons_self]

/-- What a header says of names has no carriage returns. -/
theorem not_mem_of_readDisposition {line : List UInt8} (h : readDisposition line = some (name, filename)) :
    13 ∉ name ∧ ∀ text ∈ filename, 13 ∉ text := by
  rw [readDisposition] at h
  split at h
  · obtain ⟨parameters, hparameters, h⟩ := Option.bind_eq_some_iff.1 h
    obtain ⟨name', hname, h⟩ := Option.bind_eq_some_iff.1 h
    obtain ⟨rfl, rfl⟩ := Prod.mk.inj (Option.some.inj h)
    have hvalue {key value : List UInt8} (hvalue : parameters.lookup key = some value) : 13 ∉ value := by
      obtain ⟨before, after, heq, -⟩ := List.lookup_eq_some_iff.1 hvalue
      exact not_mem_of_readParameters hparameters (key, value)
        (heq ▸ List.mem_append_right _ List.mem_cons_self)
    exact ⟨hvalue hname, fun text htext => hvalue htext⟩
  · cases h

end

section
variable {boundary content line : List UInt8} {lines pieces : List (List UInt8)} {name : List UInt8}
  {filename : Option (List UInt8)}

/-- None of the names of the part has a carriage return. -/
def Unbroken (part : FormPart) : Prop :=
  13 ∉ part.name ∧ ∀ text ∈ part.filename, 13 ∉ text

theorem unbroken_of_readParts {parts : List FormPart} (h : readParts pieces = some parts) :
    ∀ part ∈ parts, part.Unbroken := by
  induction pieces generalizing parts with
  | nil => cases h
  | cons piece pieces ih =>
    rw [readParts] at h
    split at h
    · obtain rfl := Option.some.inj h
      exact List.forall_mem_nil _
    · obtain ⟨part, hpart, h⟩ := Option.bind_eq_some_iff.1 h
      obtain ⟨rest, hrest, h⟩ := Option.bind_eq_some_iff.1 h
      obtain rfl := Option.some.inj h
      rw [List.forall_mem_cons]
      refine ⟨?_, ih hrest⟩
      rw [readPart] at hpart
      split at hpart
      · split at hpart
        · split at hpart
          · obtain ⟨header, hheader, hpart⟩ := Option.bind_eq_some_iff.1 hpart
            obtain rfl := Option.some.inj hpart
            obtain ⟨line, -, hline⟩ := Option.bind_eq_some_iff.1 hheader
            exact not_mem_of_readDisposition hline
          · cases hpart
        · cases hpart
      · cases hpart

/-- The lines of a header, each after a line break. -/
def headerText (lines : List (List UInt8)) : List UInt8 :=
  lines.flatMap (crlf ++ ·)

/-- The lines of a header and what is behind it. -/
theorem splitSeq_headerText (lines : List (List UInt8)) (hlines : ∀ line ∈ lines, ¬ crlf <:+: line)
    (x rest : List UInt8) :
    splitSeq crlf 0 (x ++ (headerText lines ++ (crlf ++ rest))) =
      splitSeq crlf 0 x ++ (lines ++ splitSeq crlf 0 rest) := by
  induction lines generalizing x with
  | nil => exact splitSeq_append (by decide) (Nat.zero_le _) rest
  | cons line lines ih =>
    rw [List.forall_mem_cons] at hlines
    have hrest := ih hlines.2 line
    rw [splitSeq_of_absent hlines.1] at hrest
    rw [headerText, List.flatMap_cons, List.append_assoc, List.append_assoc]
    exact (splitSeq_append (by decide) (Nat.zero_le _) _).trans (congrArg (splitSeq crlf 0 x ++ ·) hrest)

/-- A line that begins otherwise than with a dash has no delimiter before it. -/
theorem splitSeq_line (hline : ¬ crlf <:+: line) (hdash : line.head? ≠ some 45) (rest : List UInt8) :
    splitSeq (delimiter boundary) 0 (crlf ++ (line ++ 13 :: rest)) =
      (splitSeq (delimiter boundary) 0 (13 :: rest)).modifyHead (crlf ++ line ++ ·) := by
  have hstep : ¬ delimiter boundary <+: 13 :: 10 :: (line ++ 13 :: rest) := by
    rw [delimiter, List.cons_prefix_cons, List.cons_prefix_cons]
    rintro ⟨-, -, h⟩
    cases line with
    | nil => exact absurd (List.cons_prefix_cons.1 h).1 (by decide)
    | cons b line => exact hdash (congrArg some (List.cons_prefix_cons.1 h).1.symm)
  have hbreak : ¬ [13, 10] <:+: 10 :: line := by
    rw [List.infix_cons_iff, List.cons_prefix_cons]
    rintro (⟨h, -⟩ | h)
    · exact absurd h (by decide)
    · exact hline h
  change splitSeq (delimiter boundary) 0 (13 :: 10 :: (line ++ 13 :: rest)) = _
  rw [splitSeq_step hstep, ← List.cons_append, delimiter, splitSeq_append_left (by decide) hbreak,
    List.modifyHead_modifyHead]
  rfl

/-- The lines of a header belong to the first piece. -/
theorem splitSeq_header (hlines : ∀ line ∈ lines, ¬ crlf <:+: line ∧ line.head? ≠ some 45) (rest : List UInt8) :
    splitSeq (delimiter boundary) 0 (headerText lines ++ 13 :: rest) =
      (splitSeq (delimiter boundary) 0 (13 :: rest)).modifyHead (headerText lines ++ ·) := by
  induction lines with
  | nil =>
    obtain ⟨piece, pieces, heq⟩ := exists_splitSeq (delimiter boundary) 0 (13 :: rest)
    rw [headerText, List.flatMap_nil, List.nil_append, heq]
    rfl
  | cons line lines ih =>
    rw [List.forall_mem_cons] at hlines
    obtain ⟨after, hafter⟩ : ∃ after, headerText lines ++ 13 :: rest = 13 :: after := by
      cases lines with
      | nil => exact ⟨rest, rfl⟩
      | cons next lines => exact ⟨_, rfl⟩
    have hrest := ih hlines.2
    rw [hafter] at hrest
    rw [headerText, List.flatMap_cons, ← headerText, List.append_assoc, List.append_assoc, hafter,
      splitSeq_line hlines.1.1 hlines.1.2, hrest, List.modifyHead_modifyHead]
    congr 1
    funext piece
    exact (List.append_assoc _ _ _).symm

/-- A piece with a header is read by its header; there may be nothing behind it. -/
theorem readPart_header (hlines : ∀ line ∈ lines, ¬ crlf <:+: line ∧ line ≠ []) {rest : List UInt8}
    (hrest : rest = crlf ++ content ∨ rest = [] ∧ content = []) :
    readPart (headerText lines ++ (crlf ++ rest)) =
      (readHeader lines).map fun header => ⟨header.1, header.2, content⟩ := by
  obtain ⟨after, hafter, hcontent⟩ : ∃ after, splitSeq crlf 0 rest = [] :: after ∧
      crlf.intercalate after = content := by
    rcases hrest with rfl | ⟨rfl, rfl⟩
    · exact ⟨_, splitSeq_sep 13 [10] content, intercalate_splitSeq [10] content⟩
    · exact ⟨[], by rw [splitSeq], rfl⟩
  have hpiece := splitSeq_headerText lines (fun line hline => (hlines line hline).1) [] rest
  have hfilled : ∀ line ∈ lines, decide (line ≠ []) = true :=
    fun line hline => decide_eq_true (hlines line hline).2
  rw [List.nil_append, splitSeq, hafter, List.singleton_append] at hpiece
  rw [readPart, hpiece]
  dsimp only
  rw [if_pos List.all_nil, List.dropWhile_append_of_pos hfilled, List.takeWhile_append_of_pos hfilled,
    List.dropWhile_cons_of_neg (by decide), List.takeWhile_cons_of_neg (by decide), List.append_nil]
  dsimp only
  rw [hcontent]
  cases readHeader lines with
  | none => rfl
  | some header => rfl

theorem readParts_cons {piece : List UInt8} {part : FormPart} {parts : List FormPart} (h : closes piece = false) :
    readParts (piece :: pieces) = some (part :: parts) ↔
      readPart piece = some part ∧ readParts pieces = some parts := by
  rw [readParts, if_neg (by rw [h]; exact Bool.false_ne_true)]
  cases readPart piece with
  | none => exact iff_of_false nofun nofun
  | some first =>
    cases readParts pieces with
    | none => exact iff_of_false nofun nofun
    | some rest =>
      change some (first :: rest) = some (part :: parts) ↔ _
      rw [Option.some.injEq, Option.some.injEq, Option.some.injEq, List.cons_eq_cons]

theorem closes_header (lines : List (List UInt8)) (rest : List UInt8) :
    closes (headerText lines ++ (crlf ++ rest)) = false := by
  cases lines with
  | nil => rfl
  | cons line lines => rfl

theorem not_mem_tail_delimiter (hboundary : 13 ∉ boundary) : 13 ∉ 10 :: 45 :: 45 :: boundary := by
  rw [List.mem_cons, List.mem_cons, List.mem_cons]
  rintro (h | h | h | h)
  · exact absurd h (by decide)
  · exact absurd h (by decide)
  · exact absurd h (by decide)
  · exact hboundary h

theorem splitSeq_delimiter (boundary rest : List UInt8) :
    splitSeq (delimiter boundary) 0 (delimiter boundary ++ rest) = [] :: splitSeq (delimiter boundary) 0 rest :=
  splitSeq_sep 13 (10 :: 45 :: 45 :: boundary) rest

theorem splitSeq_append_delimiter (hboundary : 13 ∉ boundary) (x rest : List UInt8) :
    splitSeq (delimiter boundary) 0 (x ++ (delimiter boundary ++ rest)) =
      splitSeq (delimiter boundary) 0 x ++ splitSeq (delimiter boundary) 0 rest :=
  splitSeq_append (not_mem_tail_delimiter hboundary) (Nat.zero_le _) rest

/-- The last delimiter has two dashes and a line break behind it. -/
theorem readParts_end (boundary : List UInt8) :
    readParts (splitSeq (delimiter boundary) 0 (delimiter boundary ++ [45, 45, 13, 10])).tail = some [] := by
  have hno : ¬ delimiter boundary <:+: [45, 45, 13, 10] := by
    intro h
    have heq := h.eq_of_length_le (by rw [delimiter]; exact Nat.le_add_left 4 boundary.length)
    rw [delimiter, List.cons.injEq] at heq
    exact absurd heq.1 (by decide)
  rw [splitSeq_delimiter, List.tail_cons, splitSeq_of_absent hno]
  rfl

theorem not_prefix_newline (boundary content : List UInt8) : ¬ delimiter boundary <+: 10 :: content := by
  rw [delimiter, List.cons_prefix_cons]
  exact fun h => absurd h.1 (by decide)

/-- The content begins behind an empty line. -/
theorem splitSeq_content (boundary content : List UInt8) :
    delimiter boundary <+: crlf ++ content ∧
        (∃ pieces, splitSeq (delimiter boundary) 0 (crlf ++ content) = [] :: pieces) ∨
      ¬ delimiter boundary <+: crlf ++ content ∧
        splitSeq (delimiter boundary) 0 (crlf ++ content) =
          (splitSeq (delimiter boundary) 0 content).modifyHead (crlf ++ ·) := by
  by_cases h : delimiter boundary <+: crlf ++ content
  · obtain ⟨rest, hrest⟩ := h
    refine .inl ⟨⟨rest, hrest⟩, ?_⟩
    rw [← hrest]
    exact ⟨_, splitSeq_sep _ _ _⟩
  · refine .inr ⟨h, ?_⟩
    have hfirst : splitSeq (delimiter boundary) 0 (crlf ++ content) =
        (splitSeq (delimiter boundary) 0 (10 :: content)).modifyHead (13 :: ·) := splitSeq_step h
    rw [hfirst, splitSeq_step (not_prefix_newline _ _), List.modifyHead_modifyHead]
    rfl

/-- A part is read as it was written, and the others after it, exactly if its header is and there is no
delimiter in its content. -/
theorem readParts_header (hboundary : 13 ∉ boundary)
    (hlines : ∀ line ∈ lines, ¬ crlf <:+: line ∧ line ≠ [] ∧ line.head? ≠ some 45) {parts : List FormPart} :
    readParts (splitSeq (delimiter boundary) 0 (headerText lines ++ (crlf ++ (crlf ++ content))) ++ pieces) =
        some (⟨name, filename, content⟩ :: parts) ↔
      readHeader lines = some (name, filename) ∧ ¬ delimiter boundary <:+: crlf ++ content ∧
        readParts pieces = some parts := by
  have hpiece {rest : List UInt8} {content' : List UInt8}
      (hrest : rest = crlf ++ content' ∨ rest = [] ∧ content' = []) :
      readPart (headerText lines ++ (crlf ++ rest)) = some ⟨name, filename, content⟩ ↔
        readHeader lines = some (name, filename) ∧ content' = content := by
    rw [readPart_header (fun line hline => ⟨(hlines line hline).1, (hlines line hline).2.1⟩) hrest]
    cases readHeader lines with
    | none => exact iff_of_false nofun nofun
    | some header =>
      obtain ⟨name', filename'⟩ := header
      rw [Option.map_some, Option.some.injEq, Option.some.injEq, FormPart.mk.injEq, Prod.mk.injEq, and_assoc]
  have hsplit : splitSeq (delimiter boundary) 0 (headerText lines ++ (crlf ++ (crlf ++ content))) =
      (splitSeq (delimiter boundary) 0 (crlf ++ content)).modifyHead
        fun rest => headerText lines ++ (crlf ++ rest) := by
    have hempty : splitSeq (delimiter boundary) 0 (crlf ++ (crlf ++ content)) =
        (splitSeq (delimiter boundary) 0 (crlf ++ content)).modifyHead (crlf ++ ·) :=
      @splitSeq_line boundary [] (by decide) (by decide) (10 :: content)
    have hheader : splitSeq (delimiter boundary) 0 (headerText lines ++ (crlf ++ (crlf ++ content))) =
        (splitSeq (delimiter boundary) 0 (crlf ++ (crlf ++ content))).modifyHead (headerText lines ++ ·) :=
      splitSeq_header (fun line hline => ⟨(hlines line hline).1, (hlines line hline).2.2⟩) _
    rw [hheader, hempty, List.modifyHead_modifyHead]
    rfl
  rw [hsplit]
  rcases splitSeq_content boundary content with ⟨hfront, rest, hcontent⟩ | ⟨hfront, hcontent⟩
  · rw [hcontent, List.modifyHead_cons, List.cons_append, readParts_cons (closes_header _ _),
      hpiece (.inr ⟨rfl, rfl⟩)]
    constructor
    · rintro ⟨⟨-, rfl⟩, -⟩
      have hlength := hfront.length_le
      rw [delimiter, List.length_cons, List.length_cons, List.length_cons, List.length_append,
        List.length_nil] at hlength
      exact absurd hlength (by change ¬ _ ≤ 2; omega)
    · rintro ⟨-, hno, -⟩
      exact absurd hfront.isInfix hno
  · obtain ⟨piece, rest, hpieces⟩ := exists_splitSeq (delimiter boundary) 0 content
    rw [hcontent, hpieces, List.modifyHead_cons, List.modifyHead_cons, List.cons_append,
      readParts_cons (closes_header _ _), hpiece (.inl rfl)]
    constructor
    · rintro ⟨⟨hheader, rfl⟩, hrest⟩
      obtain ⟨rfl, hno⟩ := splitSeq_eq_self (not_mem_tail_delimiter hboundary) hpieces
      refine ⟨hheader, ?_, hrest⟩
      change ¬ delimiter boundary <:+: 13 :: 10 :: piece
      rw [List.infix_cons_iff, List.infix_cons_iff]
      rintro (h | h | h)
      · exact hfront h
      · exact not_prefix_newline _ _ h
      · exact hno h
    · rintro ⟨hheader, hno, hrest⟩
      rw [splitSeq_of_absent fun h => hno (h.trans (List.suffix_append _ _).isInfix)] at hpieces
      obtain ⟨rfl, rfl⟩ := List.cons.inj hpieces
      exact ⟨⟨hheader, rfl⟩, hrest⟩

theorem not_mem_dispositionLine (hname : 13 ∉ name) (hfilename : ∀ text ∈ filename, 13 ∉ text) :
    13 ∉ dispositionLine name filename := by
  have hdisposition : 13 ∉ encode "Content-Disposition" := by decide
  have hkind : 13 ∉ encode "form-data" := by decide
  have hkey : 13 ∉ encode "name" := by decide
  have hfile : 13 ∉ encode "filename" := by decide
  have hrest : 13 ∉ filename.elim [] fun text => 59 :: 32 :: (encode "filename" ++ 61 :: 34 :: (text ++ [34])) := by
    cases filename with
    | none => exact List.not_mem_nil
    | some text =>
      have htext := hfilename text rfl
      simp only [Option.elim_some, List.mem_cons, List.mem_append, List.not_mem_nil, hfile, htext, or_false,
        false_or, not_or]
      decide
  simp only [dispositionLine, List.mem_cons, List.mem_append, hdisposition, hkind, hkey, hname, hrest, or_false,
    false_or, not_or]
  decide

theorem head_dispositionLine (name : List UInt8) (filename : Option (List UInt8)) :
    (dispositionLine name filename).head? = some 67 := by
  have hfirst : encode "Content-Disposition" = 67 :: (encode "Content-Disposition").tail := by decide
  rw [dispositionLine, hfirst]
  rfl

theorem unfoldLines_cons (line : List UInt8) (lines : List (List UInt8)) :
    ∃ more rest, unfoldLines (line :: lines) = (line ++ more) :: rest := by
  rw [unfoldLines]
  split
  · next next rest _ =>
    split
    · exact ⟨next, rest, rfl⟩
    · exact ⟨[], next :: rest, by rw [List.append_nil]⟩
  · exact ⟨[], [], by rw [List.append_nil]⟩

/-- The disposition comes first, and the line behind it is one of its own. -/
theorem readHeader_disposition
    (hlines : lines = [] ∨ ∃ b text rest, lines = (b :: text) :: rest ∧ isBlank b = false) :
    readHeader (dispositionLine name filename :: lines) = readDisposition (dispositionLine name filename) := by
  obtain ⟨rest, hrest⟩ : ∃ rest, unfoldLines (dispositionLine name filename :: lines) =
      dispositionLine name filename :: rest := by
    rcases hlines with rfl | ⟨b, text, rest, rfl, hb⟩
    · exact ⟨[], rfl⟩
    · obtain ⟨more, others, hothers⟩ := unfoldLines_cons (b :: text) rest
      have hfirst : ¬ (((b :: text) ++ more).head?.any isBlank) = true := by
        rw [List.cons_append, List.head?_cons, Option.any_some, hb]
        exact Bool.false_ne_true
      rw [unfoldLines, hothers]
      dsimp only
      rw [if_neg hfirst]
      exact ⟨_, rfl⟩
  rw [readHeader, hrest, List.find?_cons_of_pos (isDisposition_dispositionLine name filename)]
  rfl

end

end FormPart
