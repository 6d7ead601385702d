import GetOffline.PythonDecimal
import GetOffline.PythonPath

set_option autoImplicit true

namespace GetOffline
open Python

-- api/streaming/media.py: `media_response`

/-- `MEDIA_RANGE_CHUNK_SIZE`. -/
def mediaRangeChunkSize : Nat :=
  64 * 1024

/-- The turns of the loop of `file_range_iterator`: each but the last takes a byte at least. -/
def fileChunks (chunkSize : Nat) : Nat → List UInt8 → Nat → List (List UInt8)
  | 0, _, _ => []
  | rounds + 1, rest, remaining =>
    if remaining = 0 then []
    else
      let chunk := rest.take (min chunkSize remaining)
      if chunk = [] then []
      else chunk :: fileChunks chunkSize rounds (rest.drop chunk.length) (remaining - chunk.length)

def fileRangeIterator (chunkSize : Nat) (content : List UInt8) (start length : Int) :
    List (List UInt8) :=
  fileChunks chunkSize length.toNat (content.drop start.toNat) length.toNat

structure ContentRange where
  start : Int
  last : Int
  fileSize : Nat

def ContentRange.text (range : ContentRange) : String :=
  "bytes " ++ toString range.start ++ "-" ++ toString range.last ++ "/" ++ toString range.fileSize

/-- What is sent: the chunks are the body, as they are read. -/
structure MediaResponse where
  status : Nat
  contentType : String
  contentRange : Option ContentRange := none
  contentLength : Int
  chunks : List (List UInt8)

namespace MediaResponse

def body (response : MediaResponse) : List UInt8 :=
  response.chunks.flatten

def headers (response : MediaResponse) : List (String × String) :=
  (response.contentRange.map fun range => ("Content-Range", range.text)).toList ++
    [("Content-Length", toString response.contentLength), ("Accept-Ranges", "bytes"),
      ("Content-Disposition", "inline")] ++
    if response.contentType = "application/pdf" then
      [("X-Frame-Options", "SAMEORIGIN"),
        ("Content-Security-Policy", "default-src 'none'; frame-ancestors 'self'")]
    else []

end MediaResponse

/-- `text.partition("-")`, without the separator. -/
def partitionDash (text : String) : String × String :=
  (String.ofList (text.toList.takeWhile (· ≠ '-')), String.ofList (text.toList.dropWhile (· ≠ '-')).tail)

/-- `int(text) if text else default`. -/
def intOr (default : α) (number : Int → α) (text : String) : Except Error α :=
  if text = "" then .ok default else (intOfText text).map number

/-- The start and the end that are asked for, in what follows `bytes=`. -/
def requestedRange (fileSize : Nat) (startText endText : String) : Except Error (Int × Option Int) :=
  if startText ≠ "" then do
    let start ← intOfText startText
    let requestedEnd ← intOr none some endText
    return (start, requestedEnd)
  else do
    let suffixLength ← intOr (fileSize : Int) id endText
    return (max (fileSize - suffixLength) 0, some (fileSize - 1))

/-- The range within the file that comes closest to what is asked for. -/
def clampedRange (fileSize : Nat) (start : Int) (requestedEnd : Option Int) : ContentRange :=
  let start := max 0 (min start (fileSize - 1))
  { start
    last :=
      match requestedEnd with
      | none => fileSize - 1
      | some requestedEnd => max start (min requestedEnd (fileSize - 1))
    fileSize }

/-- The range that is served. A request that is not made of numbers is one for everything. -/
def servedRange (fileSize : Nat) (specification : String) : ContentRange :=
  let parts := partitionDash specification
  let requested := ((requestedRange fileSize parts.1 parts.2).toOption).getD (0, none)
  clampedRange fileSize requested.1 requested.2

/-- `media_response`, for a file with the given content. -/
def mediaResponse (guessType : String → Option String) (chunkSize : Nat) (path : Path)
    (content : List UInt8) (rangeHeader : String) : MediaResponse :=
  let contentType := (guessType path.name).getD "application/octet-stream"
  if "bytes=".toList.isPrefixOf rangeHeader.toList then
    let range := servedRange content.length (String.ofList (rangeHeader.toList.drop 6))
    let length := range.last - range.start + 1
    { status := 206, contentType, contentRange := some range, contentLength := length
      chunks := fileRangeIterator chunkSize content range.start length }
  else
    { status := 200, contentType, contentLength := content.length, chunks := [content] }

-- What the range of a request stands for

/-- A single range in the grammar of HTTP; the numbers are written with digits. -/
inductive ByteRange
  | between (first last : String)
  | onward (first : String)
  | suffix (length : String)

namespace ByteRange

def text : ByteRange → String
  | between first last => first ++ "-" ++ last
  | onward first => first ++ "-"
  | suffix length => "-" ++ length

def numerals : ByteRange → List String
  | between first last => [first, last]
  | onward first => [first]
  | suffix length => [length]

def digitsValue (digits : String) : Nat :=
  ofDigits (digits.toList.map fun c => c.toNat - 48)

/-- The first and the last byte of the range in a file, if it is satisfiable. -/
def prescribed (fileSize : Nat) : ByteRange → Option (Nat × Nat)
  | between first last =>
    if digitsValue first ≤ digitsValue last ∧ digitsValue first < fileSize then
      some (digitsValue first, min (digitsValue last) (fileSize - 1))
    else none
  | onward first =>
    if digitsValue first < fileSize then some (digitsValue first, fileSize - 1) else none
  | suffix length =>
    if 0 < digitsValue length ∧ 0 < fileSize then
      some (fileSize - min (digitsValue length) fileSize, fileSize - 1)
    else none

/-- A text of digits. -/
def IsNumeral (digits : String) : Prop :=
  digits.toList ≠ [] ∧ ∀ c ∈ digits.toList, c.isDigit = true

end ByteRange

/-- The response is the part of the content from the one byte to the other, and says so. -/
structure MediaResponse.Serves (content : List UInt8) (start last : Nat) (response : MediaResponse) :
    Prop where
  status : response.status = 206
  inFile : start ≤ last ∧ last < content.length
  body : response.body = (content.drop start).take (last - start + 1)
  contentLength : response.headers.lookup "Content-Length" = some (toString response.body.length)
  contentRange : response.headers.lookup "Content-Range" =
    some ("bytes " ++ toString start ++ "-" ++ toString last ++ "/" ++ toString content.length)

section
variable {chunkSize : Nat} {content : List UInt8} {guessType : String → Option String} {path : Path}

/-- The loop reads what is left, as far as it is wanted. -/
theorem flatten_fileChunks (hchunk : 0 < chunkSize) (rounds : Nat) (rest : List UInt8) (remaining : Nat)
    (h : remaining ≤ rounds) : (fileChunks chunkSize rounds rest remaining).flatten = rest.take remaining := by
  induction rounds generalizing rest remaining with
  | zero =>
    obtain rfl := Nat.le_zero.1 h
    rfl
  | succ rounds ih =>
    rw [fileChunks]
    split
    · next hnone => simp only [hnone, List.flatten_nil, List.take_zero]
    · next hsome =>
      dsimp only
      split
      · next hempty =>
        have hrest : rest = [] := by
          rcases List.take_eq_nil_iff.1 hempty with hzero | hrest
          · omega
          · exact hrest
        simp only [hrest, List.flatten_nil, List.take_nil]
      · next hfilled =>
        have hpos : 0 < (rest.take (min chunkSize remaining)).length := List.length_pos_iff.2 hfilled
        have hle : (rest.take (min chunkSize remaining)).length ≤ remaining :=
          (List.length_take_le _ _).trans (min_le_right _ _)
        rw [List.flatten_cons, ih]
        · have hstart : rest.take (min chunkSize remaining) =
              rest.take (rest.take (min chunkSize remaining)).length := by
            rw [List.length_take, List.take_eq_take_min]
          generalize (rest.take (min chunkSize remaining)).length = taken at hstart hle
          rw [hstart, ← List.take_add, Nat.add_sub_cancel' hle]
        · omega

theorem fileRangeIterator_nil (chunkSize : Nat) (start length : Int) :
    fileRangeIterator chunkSize [] start length = [] := by
  rw [fileRangeIterator, List.drop_nil]
  cases length.toNat with
  | zero => rfl
  | succ rounds =>
    rw [fileChunks]
    simp

theorem flatten_fileRangeIterator (hchunk : 0 < chunkSize) {start last : Nat} (hle : start ≤ last) :
    (fileRangeIterator chunkSize content start ((last : Int) - start + 1)).flatten =
      (content.drop start).take (last - start + 1) := by
  have hlength : ((last : Int) - start + 1).toNat = last - start + 1 := by omega
  rw [fileRangeIterator, hlength, flatten_fileChunks hchunk _ _ _ le_rfl]
  rfl

/-- The range that is served lies in the file. -/
theorem clampedRange_bounds (hsize : 0 < fileSize) (start : Int) (requestedEnd : Option Int) :
    0 ≤ (clampedRange fileSize start requestedEnd).start ∧
      (clampedRange fileSize start requestedEnd).start ≤ (clampedRange fileSize start requestedEnd).last ∧
        (clampedRange fileSize start requestedEnd).last < fileSize := by
  cases requestedEnd with
  | none =>
    simp only [clampedRange]
    omega
  | some requestedEnd =>
    simp only [clampedRange]
    omega

theorem dash_notMem (h : ByteRange.IsNumeral digits) : '-' ∉ digits.toList :=
  fun hdash => absurd (h.2 _ hdash) (by decide)

theorem ByteRange.IsNumeral.ne_empty (h : ByteRange.IsNumeral digits) : digits ≠ "" := by
  rintro rfl
  exact h.1 rfl

theorem partitionDash_append (h : '-' ∉ startText.toList) (endText : String) :
    partitionDash (startText ++ "-" ++ endText) = (startText, endText) := by
  have hne : ∀ c ∈ startText.toList, decide (c ≠ '-') = true :=
    fun c hc => decide_eq_true (ne_of_mem_of_not_mem hc h)
  have htext : (startText ++ "-" ++ endText).toList = startText.toList ++ '-' :: endText.toList := by
    simp
  rw [partitionDash, htext, List.takeWhile_append_of_pos hne, List.dropWhile_append_of_pos hne]
  simp

theorem intOfText_numeral (h : ByteRange.IsNumeral digits)
    (hlength : digits.toList.length ≤ intMaxStrDigits) :
    intOfText digits = .ok (ByteRange.digitsValue digits : Int) := by
  apply intOfText_decimals h.1 (mapM_decimalValue h.2)
  rw [List.length_map]
  exact hlength

theorem intOr_numeral (default : α) (number : Int → α) (h : ByteRange.IsNumeral digits)
    (hlength : digits.toList.length ≤ intMaxStrDigits) :
    intOr default number digits = .ok (number (ByteRange.digitsValue digits)) := by
  rw [intOr, if_neg h.ne_empty, intOfText_numeral h hlength]
  rfl

theorem servedRange_bounds (hsize : 0 < fileSize) (specification : String) :
    0 ≤ (servedRange fileSize specification).start ∧
      (servedRange fileSize specification).start ≤ (servedRange fileSize specification).last ∧
        (servedRange fileSize specification).last < fileSize :=
  clampedRange_bounds hsize _ _

theorem servedRange_eq {specification startText endText : String} {start : Int} {requestedEnd : Option Int}
    (hparts : partitionDash specification = (startText, endText))
    (hrequested : requestedRange fileSize startText endText = .ok (start, requestedEnd)) :
    servedRange fileSize specification = clampedRange fileSize start requestedEnd := by
  rw [servedRange, hparts]
  dsimp only
  rw [hrequested]
  rfl

/-- A satisfiable range in numbers that `int` reads is served as it stands. -/
theorem servedRange_prescribed {range : ByteRange} {fileSize start last : Nat}
    (hnumerals : ∀ digits ∈ range.numerals, ByteRange.IsNumeral digits)
    (hlength : ∀ digits ∈ range.numerals, digits.toList.length ≤ intMaxStrDigits)
    (h : range.prescribed fileSize = some (start, last)) :
    servedRange fileSize range.text = ⟨start, last, fileSize⟩ := by
  cases range with
  | between first final =>
    have hfirst := hnumerals first List.mem_cons_self
    have hfinal := hnumerals final (List.mem_cons_of_mem _ List.mem_cons_self)
    have hrequested : requestedRange fileSize first final =
        .ok (ByteRange.digitsValue first, some (ByteRange.digitsValue final : Int)) := by
      rw [requestedRange, if_pos hfirst.ne_empty, intOfText_numeral hfirst (hlength first List.mem_cons_self),
        intOr_numeral none some hfinal (hlength final (List.mem_cons_of_mem _ List.mem_cons_self))]
      rfl
    rw [ByteRange.text, servedRange_eq (partitionDash_append (dash_notMem hfirst) final) hrequested]
    obtain ⟨⟨hle, hlt⟩, h⟩ := Option.ite_none_right_eq_some.1 h
    simp only [Option.some.injEq, Prod.mk.injEq] at h
    simp only [clampedRange, ContentRange.mk.injEq, and_true]
    omega
  | onward first =>
    have hfirst := hnumerals first List.mem_cons_self
    have hrequested : requestedRange fileSize first "" = .ok (ByteRange.digitsValue first, none) := by
      rw [requestedRange, if_pos hfirst.ne_empty, intOfText_numeral hfirst (hlength first List.mem_cons_self)]
      rfl
    have htext : first ++ "-" = first ++ "-" ++ "" := String.append_empty.symm
    rw [ByteRange.text, htext, servedRange_eq (partitionDash_append (dash_notMem hfirst) "") hrequested]
    obtain ⟨hlt, h⟩ := Option.ite_none_right_eq_some.1 h
    simp only [Option.some.injEq, Prod.mk.injEq] at h
    simp only [clampedRange, ContentRange.mk.injEq, and_true]
    omega
  | suffix length =>
    have hsuffix := hnumerals length List.mem_cons_self
    have hrequested : requestedRange fileSize "" length =
        .ok (max ((fileSize : Int) - ByteRange.digitsValue length) 0, some ((fileSize : Int) - 1)) := by
      rw [requestedRange, if_neg (not_not_intro rfl),
        intOr_numeral _ id hsuffix (hlength length List.mem_cons_self)]
      rfl
    have htext : "-" ++ length = "" ++ "-" ++ length := by
      rw [String.empty_append]
    rw [ByteRange.text, htext, servedRange_eq (partitionDash_append List.not_mem_nil length) hrequested]
    obtain ⟨⟨hpos, hsize⟩, h⟩ := Option.ite_none_right_eq_some.1 h
    simp only [Option.some.injEq, Prod.mk.injEq] at h
    simp only [clampedRange, ContentRange.mk.injEq, and_true]
    omega

theorem exists_specification {rangeHeader : String} (h : "bytes=".toList <+: rangeHeader.toList) :
    ∃ specification, rangeHeader = "bytes=" ++ specification := by
  obtain ⟨rest, hrest⟩ := h
  refine ⟨String.ofList rest, ?_⟩
  have htext : (String.ofList rest).toList = rest := String.toList_ofList
  rw [← String.toList_inj, String.toList_append, htext]
  exact hrest.symm

theorem mediaResponse_bytes (guessType : String → Option String) (chunkSize : Nat) (path : Path)
    (content : List UInt8) (specification : String) :
    mediaResponse guessType chunkSize path content ("bytes=" ++ specification) =
      let range := servedRange content.length specification
      { status := 206, contentType := (guessType path.name).getD "application/octet-stream"
        contentRange := some range, contentLength := range.last - range.start + 1
        chunks := fileRangeIterator chunkSize content range.start (range.last - range.start + 1) } := by
  have hrange : "bytes=".toList.isPrefixOf ("bytes=" ++ specification).toList = true := by
    rw [List.isPrefixOf_iff_prefix, String.toList_append]
    exact List.prefix_append _ _
  have hrest : String.ofList (("bytes=" ++ specification).toList.drop 6) = specification := by
    rw [String.toList_append]
    exact String.ofList_toList
  rw [mediaResponse]
  dsimp only
  rw [if_pos hrange, hrest]

theorem mediaResponse_whole (guessType : String → Option String) (chunkSize : Nat) (path : Path)
    (content : List UInt8) {rangeHeader : String} (h : ¬ "bytes=".toList <+: rangeHeader.toList) :
    mediaResponse guessType chunkSize path content rangeHeader =
      { status := 200, contentType := (guessType path.name).getD "application/octet-stream"
        contentLength := content.length, chunks := [content] } := by
  rw [mediaResponse]
  dsimp only
  rw [if_neg (mt List.isPrefixOf_iff_prefix.1 h)]

/-- A request for a range, whatever it says, is answered with the range that is served. -/
theorem serves_range (guessType : String → Option String) (hchunk : 0 < chunkSize) (path : Path)
    (hcontent : content ≠ []) {specification : String} {start last : Nat}
    (hserved : servedRange content.length specification = ⟨start, last, content.length⟩) :
    (mediaResponse guessType chunkSize path content ("bytes=" ++ specification)).Serves content start last := by
  have hbounds := servedRange_bounds (List.length_pos_iff.2 hcontent) specification
  rw [hserved] at hbounds
  obtain ⟨-, hle, hlt⟩ := hbounds
  have hle := Int.ofNat_le.1 hle
  have hlt := Int.ofNat_lt.1 hlt
  have hbody : (fileRangeIterator chunkSize content start ((last : Int) - start + 1)).flatten =
      (content.drop start).take (last - start + 1) :=
    flatten_fileRangeIterator hchunk hle
  have hlength : (last : Int) - start + 1 = ((content.drop start).take (last - start + 1)).length := by
    rw [List.length_take, List.length_drop]
    omega
  rw [mediaResponse_bytes, hserved]
  constructor
  · rfl
  · exact ⟨hle, hlt⟩
  · exact hbody
  · rw [MediaResponse.body]
    dsimp only
    rw [hbody, hlength]
    rfl
  · rfl

/-- Each range that is served from a file with content has its first and its last byte there. -/
theorem servedRange_eq_nat (hcontent : content ≠ []) (specification : String) :
    ∃ start last : Nat, servedRange content.length specification = ⟨start, last, content.length⟩ := by
  have hbounds := servedRange_bounds (List.length_pos_iff.2 hcontent) specification
  obtain ⟨start, hstart⟩ := Int.eq_ofNat_of_zero_le hbounds.1
  obtain ⟨last, hlast⟩ := Int.eq_ofNat_of_zero_le (hbounds.1.trans hbounds.2.1)
  refine ⟨start, last, ?_⟩
  rw [← hstart, ← hlast]
  rfl

end

/-- For a file that is not empty: what a partial answer says of itself is true, a satisfiable range in
numbers of at most 4300 digits is answered with just that range, and what does not ask for bytes is answered
with the whole file. -/
theorem media_response_ranges (guessType : String → Option String) (hchunk : 0 < chunkSize) (path : Path)
    (hcontent : content ≠ []) (rangeHeader : String) :
    ((mediaResponse guessType chunkSize path content rangeHeader).status = 206 →
        ∃ start last, (mediaResponse guessType chunkSize path content rangeHeader).Serves content start last) ∧
      (∀ (range : ByteRange) (start last : Nat), (∀ digits ∈ range.numerals, ByteRange.IsNumeral digits) →
        (∀ digits ∈ range.numerals, digits.toList.length ≤ intMaxStrDigits) →
        range.prescribed content.length = some (start, last) → rangeHeader = "bytes=" ++ range.text →
          (mediaResponse guessType chunkSize path content rangeHeader).Serves content start last) ∧
      (¬ "bytes=".toList <+: rangeHeader.toList →
        (mediaResponse guessType chunkSize path content rangeHeader).status = 200 ∧
          (mediaResponse guessType chunkSize path content rangeHeader).body = content ∧
          (mediaResponse guessType chunkSize path content rangeHeader).headers.lookup "Content-Length" =
            some (toString content.length)) := by
  refine ⟨?_, ?_, ?_⟩
  · intro hstatus
    by_cases hstart : "bytes=".toList <+: rangeHeader.toList
    · obtain ⟨specification, rfl⟩ := exists_specification hstart
      obtain ⟨start, last, hserved⟩ := servedRange_eq_nat hcontent specification
      exact ⟨start, last, serves_range guessType hchunk path hcontent hserved⟩
    · rw [mediaResponse_whole guessType chunkSize path content hstart] at hstatus
      cases hstatus
  · rintro range start last hnumerals hlength hprescribed rfl
    apply serves_range guessType hchunk path hcontent
    exact servedRange_prescribed hnumerals hlength hprescribed
  · intro h
    rw [mediaResponse_whole guessType chunkSize path content h]
    refine ⟨rfl, ?_, ?_⟩
    · exact List.append_nil content
    · rfl

theorem isNumeral_one : ByteRange.IsNumeral "1" := by
  refine ⟨List.cons_ne_nil _ _, ?_⟩
  intro c hc
  obtain rfl := List.mem_singleton.1 hc
  rfl

theorem media_response_ranges_twoBytes :
    (mediaResponse (fun _ => none) mediaRangeChunkSize (Path.parse "/a.mp3") [104, 105] "bytes=1-").Serves
      [104, 105] 1 1 := by
  have hnumerals : ∀ digits ∈ (ByteRange.onward "1").numerals, ByteRange.IsNumeral digits := by
    rintro digits hdigits
    obtain rfl := List.mem_singleton.1 hdigits
    exact isNumeral_one
  have hlength : ∀ digits ∈ (ByteRange.onward "1").numerals, digits.toList.length ≤ intMaxStrDigits := by
    rintro digits hdigits
    obtain rfl := List.mem_singleton.1 hdigits
    decide
  exact (media_response_ranges _ (by decide) _ (List.cons_ne_nil 104 [105]) "bytes=1-").2.1
    (.onward "1") 1 1 hnumerals hlength rfl rfl

/-- One, written with more digits than `int` takes. -/
def longOne : String :=
  String.ofList (List.replicate intMaxStrDigits '0' ++ ['1'])

theorem isNumeral_longOne : ByteRange.IsNumeral longOne := by
  rw [ByteRange.IsNumeral, longOne, String.toList_ofList]
  constructor
  · exact List.append_ne_nil_of_right_ne_nil _ (List.cons_ne_nil _ _)
  · intro c hc
    rcases List.mem_append.1 hc with hc | hc
    · rw [List.eq_of_mem_replicate hc]
      decide
    · rw [List.mem_singleton.1 hc]
      decide

theorem ofDigits_replicate (n : Nat) (ds : List Nat) : ofDigits (List.replicate n 0 ++ ds) = ofDigits ds := by
  induction n with
  | zero => rfl
  | succ n ih => exact ih

theorem digitsValue_longOne : ByteRange.digitsValue longOne = 1 := by
  rw [ByteRange.digitsValue, longOne, String.toList_ofList, List.map_append, List.map_replicate]
  exact ofDigits_replicate intMaxStrDigits [1]

theorem intOfText_longOne : intOfText longOne = .error .valueError := by
  rw [intOfText_digits isNumeral_longOne.1 (mapM_decimalValue isNumeral_longOne.2), if_pos]
  rw [List.length_map, longOne, String.toList_ofList, List.length_append, List.length_replicate]
  exact Nat.lt_succ_self _

/-- A number that is too long for `int` is not read, and the whole file is sent. -/
theorem long_range_is_not_served : ¬ ∀ (guessType : String → Option String) (chunkSize : Nat) (path : Path)
    (content : List UInt8), 0 < chunkSize → content ≠ [] →
      ∀ (range : ByteRange) (start last : Nat), (∀ digits ∈ range.numerals, ByteRange.IsNumeral digits) →
        range.prescribed content.length = some (start, last) →
          (mediaResponse guessType chunkSize path content ("bytes=" ++ range.text)).Serves content start
            last := by
  intro h
  have hnumerals : ∀ digits ∈ (ByteRange.between "1" longOne).numerals, ByteRange.IsNumeral digits := by
    rintro digits hdigits
    rcases List.mem_pair.1 hdigits with rfl | rfl
    · exact isNumeral_one
    · exact isNumeral_longOne
  have hprescribed : (ByteRange.between "1" longOne).prescribed 2 = some (1, 1) := by
    rw [ByteRange.prescribed, digitsValue_longOne]
    rfl
  have hserved : servedRange 2 (ByteRange.between "1" longOne).text = ⟨0, 1, 2⟩ := by
    have hrequested : requestedRange 2 "1" longOne = .error .valueError := by
      rw [requestedRange, if_pos isNumeral_one.ne_empty, intOr, if_neg isNumeral_longOne.ne_empty, intOfText_longOne]
      rfl
    rw [ByteRange.text, servedRange, partitionDash_append (dash_notMem isNumeral_one)]
    dsimp only
    rw [hrequested]
    rfl
  have hone' := h (fun _ => none) 1 (Path.parse "/a.mp3") [104, 105] Nat.one_pos (List.cons_ne_nil _ _)
    (.between "1" longOne) 1 1 hnumerals hprescribed
  have hwhole := serves_range (fun _ => none) Nat.one_pos (Path.parse "/a.mp3")
    (List.cons_ne_nil 104 [105]) hserved
  have hbody := hone'.body.symm.trans hwhole.body
  cases hbody

end GetOffline
