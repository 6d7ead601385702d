import GetOffline.HandlerCalls
import GetOffline.PythonStrip
import GetOffline.SubtitleReaders

set_option autoImplicit true

namespace Python

/-- Pieces with white space between them, all but the last one closed. -/
inductive Spaced (closed : List Char → Prop) : List Char → List (List Char) → Prop
  | one (cs : List Char) : Spaced closed cs [cs]
  | cut (cs : List Char) (hclosed : closed cs) (hne : gap ≠ []) (hgap : ∀ c ∈ gap, isSpace c = true)
    (rest : Spaced closed text pieces) : Spaced closed (cs ++ (gap ++ text)) (cs :: pieces)

/-- A search that white space around what it finds makes no difference to, and that finds nothing across the
end of a closed piece. -/
structure Piecewise (closed : List Char → Prop) (p : List Char → Bool) : Prop where
  nil : p [] = false
  left : ∀ spaces text, (∀ c ∈ spaces, isSpace c = true) → p (spaces ++ text) = p text
  right : ∀ spaces text, (∀ c ∈ spaces, isSpace c = true) → p (text ++ spaces) = p text
  part : ∀ cs gap text, gap ≠ [] → (∀ c ∈ gap, isSpace c = true) → (p cs = true ∨ p text = true) →
    p (cs ++ (gap ++ text)) = true
  cut : ∀ cs gap text, closed cs → gap ≠ [] → (∀ c ∈ gap, isSpace c = true) →
    p (cs ++ (gap ++ text)) = true → p cs = true ∨ p text = true

section
variable {closed closed' : List Char → Prop} {p : List Char → Bool}

/-- What is in a piece is found in the whole. -/
theorem Piecewise.of_piece (h : Piecewise closed p) (hspaced : Spaced closed' text pieces)
    (hmem : piece ∈ pieces) (hp : p piece = true) : p text = true := by
  induction hspaced with
  | one cs =>
    obtain rfl := List.mem_singleton.1 hmem
    exact hp
  | cut cs hclosed hne hgap _ ih =>
    apply h.part _ _ _ hne hgap
    rcases List.mem_cons.1 hmem with rfl | hmem
    · exact .inl hp
    · exact .inr (ih hmem)

/-- What is in the whole is found in a piece. -/
theorem Piecewise.exists_piece (h : Piecewise closed p) (hspaced : Spaced closed text pieces)
    (hp : p text = true) : ∃ piece ∈ pieces, p piece = true := by
  induction hspaced with
  | one cs => exact ⟨cs, List.mem_singleton_self cs, hp⟩
  | cut cs hclosed hne hgap _ ih =>
    rcases h.cut _ _ _ hclosed hne hgap hp with hp | hp
    · exact ⟨cs, List.mem_cons_self, hp⟩
    · obtain ⟨piece, hmem, hpiece⟩ := ih hp
      exact ⟨piece, List.mem_cons_of_mem _ hmem, hpiece⟩

theorem Piecewise.any (h : Piecewise closed p) (hspaced : Spaced closed text pieces) :
    pieces.any p = p text := by
  rw [Bool.eq_iff_iff, List.any_eq_true]
  constructor
  · rintro ⟨piece, hmem, hp⟩
    exact h.of_piece hspaced hmem hp
  · exact h.exists_piece hspaced

theorem exists_stripChars (cs : List Char) : ∃ before after : List Char, cs = before ++ (stripChars cs ++ after) ∧
    (∀ c ∈ before, isSpace c = true) ∧ ∀ c ∈ after, isSpace c = true := by
  refine ⟨cs.takeWhile isSpace, (cs.dropWhile isSpace).rtakeWhile isSpace, ?_, ?_, ?_⟩
  · rw [stripChars_eq, List.rdropWhile_append_rtakeWhile, List.takeWhile_append_dropWhile]
  · exact fun c hc => List.mem_takeWhile_imp hc
  · exact fun c hc => List.mem_rtakeWhile_imp hc

theorem Piecewise.strip (h : Piecewise closed p) (cs : List Char) : p (stripChars cs) = p cs := by
  obtain ⟨before, after, hcs, hbefore, hafter⟩ := exists_stripChars cs
  conv_rhs => rw [hcs]
  rw [h.left _ _ hbefore, h.right _ _ hafter]

theorem Spaced.isInfix (hspaced : Spaced closed text pieces) (hmem : piece ∈ pieces) : piece <:+: text := by
  induction hspaced with
  | one cs =>
    obtain rfl := List.mem_singleton.1 hmem
    exact List.infix_refl _
  | cut cs hclosed hne hgap _ ih =>
    rcases List.mem_cons.1 hmem with rfl | hmem
    · exact (List.prefix_append _ _).isInfix
    · exact (ih hmem).trans ((List.suffix_append _ _).isInfix.trans (List.suffix_append _ _).isInfix)

theorem stripChars_isInfix (cs : List Char) : stripChars cs <:+: cs := by
  obtain ⟨before, after, hcs, -, -⟩ := exists_stripChars cs
  exact ⟨before, after, by rw [List.append_assoc, ← hcs]⟩

theorem spaced_intercalate (pieces : List (List Char)) (hne : pieces ≠ []) :
    Spaced (fun _ => True) ([' '].intercalate pieces) pieces := by
  induction pieces with
  | nil => exact absurd rfl hne
  | cons piece pieces ih =>
    cases pieces with
    | nil =>
      rw [List.intercalate_singleton]
      exact .one piece
    | cons next pieces =>
      rw [List.intercalate_cons_cons, List.append_assoc]
      refine .cut piece trivial (List.cons_ne_nil _ _) ?_ (ih (List.cons_ne_nil _ _))
      intro c hc
      obtain rfl := List.mem_singleton.1 hc
      decide

end

end Python

namespace GetOffline
open Python

-- workers/content_filter.py

/-- Where a reader of `_SENTENCE_BOUNDARY_RE.split` is. -/
inductive Place
  | inside
  | ended
  | between

def isTerminator (c : Char) : Bool :=
  c = '.' || c = '!' || c = '?'

def prepend (c : Char) : List (List Char) → List (List Char)
  | [] => [[c]]
  | piece :: pieces => (c :: piece) :: pieces

/-- `_SENTENCE_BOUNDARY_RE.split`. -/
def splitAtEnds : Place → List Char → List (List Char)
  | _, [] => [[]]
  | place, c :: cs =>
    match place, isSpace c with
    | .ended, true => [] :: splitAtEnds .between cs
    | .between, true => splitAtEnds .between cs
    | _, _ => prepend c (splitAtEnds (if isTerminator c then .ended else .inside) cs)

/-- `find_explicit_content`; what `profanityfilter` finds is a parameter. -/
def findExplicitContent (isProfane : List Char → Bool) (text : String) : Option ExplicitContentMatch :=
  let transcript := stripChars text.toList
  if transcript = [] then none
  else
    let sentences := ((splitAtEnds .inside transcript).map stripChars).filter fun sentence => !sentence.isEmpty
    let sentences := if sentences = [] then [transcript] else sentences
    (sentences.find? isProfane).map fun sentence => {
      category := "profanity"
      term := "profanityfilter"
      sentence := String.ofList sentence }

/-- `screen_transcript`, of a file that there may be. -/
def screenTranscript (isProfane : List Char → Bool) (file : Option String) : Option ExplicitContentMatch :=
  file.bind fun text => findExplicitContent isProfane (transcriptText text)

/-- The last character ends a sentence. -/
def EndsSentence (cs : List Char) : Prop :=
  ∃ before c, cs = before ++ [c] ∧ isTerminator c = true

/-- Text is cut in white space after the end of a sentence only; `before` is what the reader has of the
piece that it is in. -/
theorem spaced_splitAtEnds (place : Place) (before cs : List Char)
    (hended : place = .ended → EndsSentence before) :
    ∃ gap text piece pieces, cs = gap ++ text ∧ (∀ c ∈ gap, isSpace c = true) ∧
      (place ≠ .between → gap = []) ∧ splitAtEnds place cs = piece :: pieces ∧
      Spaced EndsSentence (before ++ text) ((before ++ piece) :: pieces) := by
  induction cs generalizing place before with
  | nil =>
    refine ⟨[], [], [], [], rfl, fun _ hc => absurd hc List.not_mem_nil, fun _ => rfl, ?_, .one _⟩
    cases place <;> rfl
  | cons c cs ih =>
    unfold splitAtEnds
    split
    · next hspace =>
      obtain ⟨gap, text, piece, pieces, rfl, hgap, -, hsplit, hspaced⟩ := ih .between [] nofun
      refine ⟨[], c :: (gap ++ text), [], piece :: pieces, rfl, fun _ hc => absurd hc List.not_mem_nil,
        fun _ => rfl, by rw [hsplit], ?_⟩
      rw [List.append_nil]
      exact .cut before (hended rfl) (List.cons_ne_nil c gap) (List.forall_mem_cons.2 ⟨hspace, hgap⟩) hspaced
    · next hspace =>
      obtain ⟨gap, text, piece, pieces, rfl, hgap, -, hsplit, hspaced⟩ := ih .between before nofun
      exact ⟨c :: gap, text, piece, pieces, rfl, List.forall_mem_cons.2 ⟨hspace, hgap⟩,
        fun h => absurd rfl h, hsplit, hspaced⟩
    · have hnext : (if isTerminator c then Place.ended else .inside) = .ended → EndsSentence (before ++ [c]) := by
        intro hplace
        split at hplace
        · next hc => exact ⟨before, c, rfl, hc⟩
        · cases hplace
      obtain ⟨gap, text, piece, pieces, rfl, -, hnil, hsplit, hspaced⟩ := ih _ (before ++ [c]) hnext
      obtain rfl : gap = [] := by
        apply hnil
        split <;> exact nofun
      refine ⟨[], c :: text, c :: piece, pieces, rfl, fun _ hc => absurd hc List.not_mem_nil, fun _ => rfl, ?_, ?_⟩
      · rw [hsplit, prepend]
      · rw [List.append_assoc, List.append_assoc] at hspaced
        exact hspaced

section
variable {isProfane : List Char → Bool}

theorem spaced_sentences (cs : List Char) : Spaced EndsSentence cs (splitAtEnds .inside cs) := by
  obtain ⟨gap, text, piece, pieces, rfl, -, hnil, hsplit, hspaced⟩ := spaced_splitAtEnds .inside [] cs nofun
  obtain rfl := hnil nofun
  rw [hsplit]
  exact hspaced

theorem any_sentences (h : Piecewise EndsSentence isProfane) (cs : List Char) :
    (((splitAtEnds .inside cs).map stripChars).filter fun sentence => !sentence.isEmpty).any isProfane =
      isProfane cs := by
  have hkeep (sentence : List Char) : (!sentence.isEmpty && isProfane sentence) = isProfane sentence := by
    cases sentence with
    | nil => exact h.nil.symm
    | cons c sentence => rfl
  rw [List.any_filter, List.any_map]
  simp only [hkeep, Function.comp_def, h.strip]
  exact h.any (spaced_sentences cs)

/-- No sentence that is looked at separately hides anything from the search. -/
theorem findExplicitContent_isSome (h : Piecewise EndsSentence isProfane) (text : String) :
    (findExplicitContent isProfane text).isSome = isProfane text.toList := by
  rw [← h.strip text.toList]
  unfold findExplicitContent
  dsimp only
  split
  · next hempty =>
    rw [hempty, h.nil]
    rfl
  · have hany := any_sentences h (stripChars text.toList)
    rw [Option.isSome_map, Bool.eq_iff_iff, List.find?_isSome, ← List.any_eq_true]
    split
    · rw [List.any_cons, List.any_nil, Bool.or_false]
    · rw [hany]

/-- The sentence that is reported is one of the text's, and one that the search finds something in. -/
theorem findExplicitContent_sentence (h : findExplicitContent isProfane text = some found) :
    isProfane found.sentence.toList = true ∧ found.sentence.toList <:+: text.toList := by
  unfold findExplicitContent at h
  dsimp only at h
  split at h
  · cases h
  · obtain ⟨sentence, hfind, rfl⟩ := Option.map_eq_some_iff.1 h
    rw [String.toList_ofList]
    refine ⟨List.find?_some hfind, ?_⟩
    have hmem := List.mem_of_find?_eq_some hfind
    split at hmem
    · obtain rfl := List.mem_singleton.1 hmem
      exact stripChars_isInfix _
    · obtain ⟨piece, hpiece, rfl⟩ := List.mem_map.1 (List.mem_filter.1 hmem).1
      exact (stripChars_isInfix piece).trans (((spaced_sentences _).isInfix hpiece).trans (stripChars_isInfix _))

theorem isProfane_transcript (h : Piecewise EndsSentence isProfane) (hmem : line ∈ spokenLines file)
    (hp : isProfane line = true) : isProfane (transcriptText file).toList = true := by
  rw [transcriptText, String.toList_ofList]
  exact h.of_piece (spaced_intercalate _ (List.ne_nil_of_mem hmem)) hmem hp

/-- To search a transcript sentence by sentence is to search all of it: no line that is spoken is missed, and
a sentence that is reported is one of its own with something in it. -/
theorem screening_complete (isProfane : List Char → Bool) (file : String)
    (h : Piecewise EndsSentence isProfane) :
    (screenTranscript isProfane (some file)).isSome = isProfane (transcriptText file).toList ∧
    (∀ line ∈ splitlines file.toList, isMetadata (stripChars line) = false → isProfane line = true →
      (screenTranscript isProfane (some file)).isSome = true) ∧
    ∀ found ∈ screenTranscript isProfane (some file), isProfane found.sentence.toList = true ∧
      found.sentence.toList <:+: (transcriptText file).toList := by
  rw [screenTranscript, Option.bind_some, findExplicitContent_isSome h]
  refine ⟨rfl, ?_, ?_⟩
  · intro line hline hspoken hp
    rw [← h.strip line] at hp
    refine isProfane_transcript h (List.mem_filter.2 ⟨List.mem_map_of_mem hline, ?_⟩) hp
    rw [hspoken, Bool.not_false, Bool.and_true, Bool.not_eq_true', List.isEmpty_eq_false_iff]
    intro hempty
    rw [hempty, h.nil] at hp
    cases hp
  · intro found hfound
    exact findExplicitContent_sentence (Option.mem_def.1 hfound)

/-- A search for a word. -/
def hasWord (word text : List Char) : Bool :=
  (text.splitOnP isSpace).any fun piece => piece = word

theorem hasWord_nil {word : List Char} (hword : word ≠ []) : hasWord word [] = false := by
  rw [hasWord, List.splitOnP_nil, List.any_cons, decide_eq_false hword.symm, List.any_nil, Bool.or_false]

theorem hasWord_append_cons (word cs text : List Char) (hc : isSpace c = true) :
    hasWord word (cs ++ c :: text) = (hasWord word cs || hasWord word text) := by
  rw [hasWord, List.splitOnP_append_cons cs text hc, List.any_append]
  rfl

theorem hasWord_spaces {word : List Char} (hword : word ≠ []) (hspaces : ∀ c ∈ spaces, isSpace c = true)
    (text : List Char) : hasWord word (spaces ++ text) = hasWord word text := by
  induction spaces with
  | nil => rfl
  | cons c spaces ih =>
    have hcons := hasWord_append_cons word [] (spaces ++ text) (hspaces c List.mem_cons_self)
    rw [hasWord_nil hword, Bool.false_or] at hcons
    exact hcons.trans (ih fun d hd => hspaces d (List.mem_cons_of_mem _ hd))

theorem hasWord_gap {word : List Char} (hword : word ≠ []) (cs text : List Char) (hne : gap ≠ [])
    (hgap : ∀ c ∈ gap, isSpace c = true) :
    hasWord word (cs ++ (gap ++ text)) = (hasWord word cs || hasWord word text) := by
  cases gap with
  | nil => exact absurd rfl hne
  | cons c gap =>
    rw [List.cons_append, hasWord_append_cons word cs _ (hgap c List.mem_cons_self),
      hasWord_spaces hword fun d hd => hgap d (List.mem_cons_of_mem _ hd)]

theorem piecewise_hasWord {word : List Char} (hword : word ≠ []) : Piecewise EndsSentence (hasWord word) where
  nil := hasWord_nil hword
  left _ text hspaces := hasWord_spaces hword hspaces text
  right spaces text hspaces := by
    cases spaces with
    | nil => rw [List.append_nil]
    | cons c spaces =>
      have hgap := hasWord_gap hword text [] (List.cons_ne_nil c spaces) hspaces
      rw [List.append_nil, hasWord_nil hword, Bool.or_false] at hgap
      exact hgap
  part cs gap text hne hgap hp := by
    rw [hasWord_gap hword cs text hne hgap, Bool.or_eq_true]
    exact hp
  cut cs gap text _ hne hgap hp := by
    rw [hasWord_gap hword cs text hne hgap, Bool.or_eq_true] at hp
    exact hp

theorem screening_complete_damn : (screenTranscript (hasWord "damn".toList)
      (some "1\n00:00:00,000 --> 00:00:01,000\nWell. Oh damn it\n")).isSome = true :=
  (screening_complete (hasWord "damn".toList) _ (piecewise_hasWord (by decide))).2.1
    "Well. Oh damn it".toList (by decide +kernel) (by decide +kernel) (by decide +kernel)

end

end GetOffline
