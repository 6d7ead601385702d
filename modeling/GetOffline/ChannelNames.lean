import GetOffline.PythonPath
import Mathlib.Data.Bool.AllAny
import Mathlib.Data.List.DropRight

set_option autoImplicit true

namespace Python

/-- The class `\w` of a regular expression; its tables for characters beyond ASCII are Unicode's. -/
structure WordClass where
  isWord : Char → Bool
  ascii : ∀ c, c.toNat < 128 → isWord c = (c.isAlphanum || c == '_')

/-- `text.strip(marks)`. -/
def stripOf (marks cs : List Char) : List Char :=
  (cs.dropWhile fun c => c ∈ marks).rdropWhile fun c => c ∈ marks

/-- `re.sub(r"\.{2,}", ".", text)`. -/
def collapseDots : List Char → List Char
  | '.' :: '.' :: cs => collapseDots ('.' :: cs)
  | c :: cs => c :: collapseDots cs
  | [] => []

end Python

namespace GetOffline
open Python

-- workers/utils.py

def sanitize (words : WordClass) (name : String) : String :=
  let sanitized := name.toList.map fun c => if words.isWord c || c ∈ ['.', '-'] then c else '_'
  let stripped := stripOf ['.', ' '] (collapseDots sanitized)
  if stripped = [] then "item" else String.ofList stripped

def sanitizeChannelName (words : WordClass) (name : String) : String :=
  let sanitized := (sanitize words name).toList.filter fun c => c ≠ '_'
  if sanitized = [] then "channel" else String.ofList sanitized

-- The pieces between the dots

/-- The maximal parts of a text without dots. -/
def dotPieces (cs : List Char) : List (List Char) :=
  (cs.splitOn '.').filter fun piece => piece ≠ []

theorem dotPieces_dot (cs : List Char) : dotPieces ('.' :: cs) = dotPieces cs := by
  rw [dotPieces, List.splitOn_cons_eq_if_modifyHead, if_pos (beq_self_eq_true _), List.filter_cons_of_neg]
  · rfl
  · decide

theorem dotPieces_before_dot (hc : c ≠ '.') (cs : List Char) :
    dotPieces (c :: '.' :: cs) = [c] :: dotPieces cs := by
  rw [dotPieces, List.splitOn_cons_eq_if_modifyHead, if_neg (by rwa [beq_iff_eq]),
    List.splitOn_cons_eq_if_modifyHead, if_pos (beq_self_eq_true _), List.modifyHead_cons,
    List.filter_cons_of_pos]
  · rfl
  · exact decide_eq_true (List.cons_ne_nil _ _)

theorem dotPieces_single (hc : c ≠ '.') : dotPieces [c] = [[c]] := by
  rw [dotPieces, List.splitOn_cons_eq_if_modifyHead, if_neg (by rwa [beq_iff_eq]), List.splitOn_nil]
  rfl

theorem filter_cons_piece (c : Char) (piece : List Char) (pieces : List (List Char)) :
    ((c :: piece) :: pieces).filter (fun piece => piece ≠ []) =
      (c :: piece) :: pieces.filter fun piece => piece ≠ [] :=
  List.filter_cons_of_pos (decide_eq_true (List.cons_ne_nil _ _))

theorem dotPieces_cons_cons (hc : c ≠ '.') (hd : d ≠ '.') (cs : List Char) :
    ∃ piece pieces, dotPieces (d :: cs) = (d :: piece) :: pieces ∧
      dotPieces (c :: d :: cs) = (c :: d :: piece) :: pieces := by
  cases hsplit : cs.splitOn '.' with
  | nil => exact absurd hsplit (List.splitOn_ne_nil _ _)
  | cons piece pieces =>
    have hlast : (d :: cs).splitOn '.' = (d :: piece) :: pieces := by
      rw [List.splitOn_cons_eq_if_modifyHead, if_neg (by rwa [beq_iff_eq]), hsplit, List.modifyHead_cons]
    refine ⟨piece, pieces.filter fun piece => piece ≠ [], ?_, ?_⟩
    · rw [dotPieces, hlast, filter_cons_piece]
    · rw [dotPieces, List.splitOn_cons_eq_if_modifyHead, if_neg (by rwa [beq_iff_eq]), hlast,
        List.modifyHead_cons, filter_cons_piece]

theorem dotPieces_map {f : Char → Char} (hf : ∀ c, f c = '.' ↔ c = '.') (cs : List Char) :
    dotPieces (cs.map f) = (dotPieces cs).map (List.map f) := by
  have hsplit : (cs.map f).splitOn '.' = (cs.splitOn '.').map (List.map f) := by
    induction cs with
    | nil => rfl
    | cons c cs ih =>
      rw [List.map_cons, List.splitOn_cons_eq_if_modifyHead, List.splitOn_cons_eq_if_modifyHead, ih]
      simp only [beq_iff_eq, hf]
      split
      · rfl
      · cases cs.splitOn '.' with
        | nil => rfl
        | cons piece pieces => rfl
  rw [dotPieces, dotPieces, hsplit, List.filter_map]
  congr 1
  apply List.filter_congr
  intro piece _
  rw [Function.comp_apply, decide_eq_decide, ne_eq, List.map_eq_nil_iff]

theorem mem_of_dotPieces {piece : List Char} (hpiece : piece ∈ dotPieces cs) (hc : c ∈ piece) :
    c ∈ cs ∧ c ≠ '.' := by
  replace hpiece : piece ∈ cs.splitOn '.' := (List.mem_filter.1 hpiece).1
  induction cs generalizing piece with
  | nil =>
    rw [List.splitOn_nil, List.mem_singleton] at hpiece
    subst hpiece
    exact (List.not_mem_nil hc).elim
  | cons d cs ih =>
    have hlift (h : c ∈ cs ∧ c ≠ '.') : c ∈ d :: cs ∧ c ≠ '.' := ⟨List.mem_cons_of_mem _ h.1, h.2⟩
    rw [List.splitOn_cons_eq_if_modifyHead] at hpiece
    split at hpiece
    · rcases List.mem_cons.1 hpiece with rfl | hpiece
      · exact (List.not_mem_nil hc).elim
      · exact hlift (ih hc hpiece)
    · next hd =>
      cases hsplit : cs.splitOn '.' with
      | nil => exact absurd hsplit (List.splitOn_ne_nil _ _)
      | cons first rest =>
        rw [hsplit] at hpiece ih
        rcases List.mem_cons.1 hpiece with rfl | hpiece
        · rcases List.mem_cons.1 hc with rfl | hc
          · exact ⟨List.mem_cons_self, fun h => hd (beq_iff_eq.2 h)⟩
          · exact hlift (ih hc List.mem_cons_self)
        · exact hlift (ih hc (List.mem_cons_of_mem _ hpiece))

/-- The pieces with one dot between every two. -/
def joinedPieces (cs : List Char) : List Char :=
  ['.'].intercalate (dotPieces cs)

theorem joinedPieces_dot (cs : List Char) : joinedPieces ('.' :: cs) = joinedPieces cs := by
  rw [joinedPieces, dotPieces_dot, joinedPieces]

theorem joinedPieces_eq_nil : joinedPieces cs = [] ↔ dotPieces cs = [] := by
  constructor
  · intro h
    cases hpieces : dotPieces cs with
    | nil => rfl
    | cons piece pieces =>
      have hmem : piece ∈ dotPieces cs := hpieces ▸ List.mem_cons_self
      have hne : piece ≠ [] := of_decide_eq_true (List.mem_filter.1 hmem).2
      rw [joinedPieces, hpieces] at h
      cases pieces with
      | nil => exact (hne (List.intercalate_singleton.symm.trans h)).elim
      | cons piece' pieces =>
        rw [List.intercalate_cons_cons, List.append_assoc, List.append_eq_nil_iff] at h
        exact (hne h.1).elim
  · intro h
    rw [joinedPieces, h, List.intercalate_nil]

/-- A character in front belongs to the first piece, unless a dot follows. -/
theorem joinedPieces_cons (hc : c ≠ '.') (cs : List Char) : joinedPieces (c :: cs) =
    c :: if cs.head? = some '.' ∧ dotPieces cs ≠ [] then '.' :: joinedPieces cs else joinedPieces cs := by
  cases cs with
  | nil =>
    rw [joinedPieces, dotPieces_single hc, List.intercalate_singleton, if_neg (by decide)]
    rfl
  | cons d cs =>
    by_cases hd : d = '.'
    · subst hd
      rw [joinedPieces, dotPieces_before_dot hc, joinedPieces_dot, dotPieces_dot]
      split
      · next hne =>
        rw [List.intercalate_cons_of_ne_nil hne.2]
        rfl
      · next hnil =>
        rw [List.head?_cons, not_and_not_right] at hnil
        have hnil := hnil rfl
        rw [joinedPieces, hnil, List.intercalate_singleton, List.intercalate_nil]
    · obtain ⟨piece, pieces, hcs, hccs⟩ := dotPieces_cons_cons hc hd cs
      rw [if_neg, joinedPieces, joinedPieces, hcs, hccs]
      · cases pieces with
        | nil => rw [List.intercalate_singleton, List.intercalate_singleton]
        | cons piece' pieces =>
          rw [List.intercalate_cons_cons, List.intercalate_cons_cons]
          rfl
      · rintro ⟨hhead, -⟩
        exact hd (Option.some.inj hhead)

-- What `sanitize` leaves

theorem rdropWhile_cons (p : Char → Bool) (c : Char) (cs : List Char) :
    (c :: cs).rdropWhile p = if p c = true ∧ cs.rdropWhile p = [] then [] else c :: cs.rdropWhile p := by
  rw [List.rdropWhile, List.reverse_cons, List.dropWhile_append, List.rdropWhile]
  cases hrest : cs.reverse.dropWhile p with
  | nil =>
    rw [List.isEmpty_nil, if_pos rfl]
    by_cases hc : p c = true
    · rw [List.dropWhile_cons_of_pos hc, if_pos ⟨hc, rfl⟩]
      rfl
    · rw [List.dropWhile_cons_of_neg hc, if_neg fun h => hc h.1]
      rfl
  | cons d ds =>
    rw [List.isEmpty_cons, if_neg Bool.false_ne_true, if_neg, List.reverse_append]
    · rfl
    · rintro ⟨-, h⟩
      exact List.cons_ne_nil _ _ (List.reverse_eq_nil_iff.1 h)

theorem mem_collapseDots : c ∈ collapseDots cs ↔ c ∈ cs := by
  induction cs using collapseDots.induct with
  | case1 cs ih =>
    rw [collapseDots, ih, List.mem_cons, List.mem_cons, List.mem_cons, or_self_left]
  | case2 d cs hd ih =>
    rw [collapseDots, List.mem_cons, List.mem_cons, ih]
    exact hd
  | case3 => exact Iff.rfl

section
variable {p : Char → Bool}

theorem rdropWhile_collapseDots (h : ∀ c ∈ cs, p c = (c == '.')) :
    (collapseDots cs).rdropWhile p =
      if cs.head? = some '.' ∧ dotPieces cs ≠ [] then '.' :: joinedPieces cs else joinedPieces cs := by
  induction cs using collapseDots.induct with
  | case1 cs ih =>
    rw [collapseDots, ih fun c hc => h c (List.mem_cons_of_mem _ hc), joinedPieces_dot, dotPieces_dot]
    rw [dotPieces_dot, joinedPieces_dot]
    rfl
  | case2 d cs hd ih =>
    have ih := ih fun c hc => h c (List.mem_cons_of_mem _ hc)
    rw [collapseDots, rdropWhile_cons, ih]
    · by_cases hdot : d = '.'
      · subst hdot
        have hhead : ¬ (cs.head? = some '.' ∧ dotPieces cs ≠ []) := by
          rintro ⟨hhead, -⟩
          cases cs with
          | nil => cases hhead
          | cons c cs => exact hd cs rfl (Option.some.inj hhead ▸ rfl)
        have hp : p '.' = true := h '.' List.mem_cons_self
        rw [if_neg hhead, joinedPieces_dot, dotPieces_dot]
        by_cases hnone : dotPieces cs = []
        · have hnil := joinedPieces_eq_nil.2 hnone
          rw [if_pos ⟨hp, hnil⟩, if_neg fun h => h.2 hnone, hnil]
        · rw [if_neg fun h => hnone (joinedPieces_eq_nil.1 h.2), if_pos ⟨rfl, hnone⟩]
      · have hp : ¬ p d = true := by
          rw [h d List.mem_cons_self, beq_iff_eq]
          exact hdot
        have hhead : ¬ ((d :: cs).head? = some '.' ∧ dotPieces (d :: cs) ≠ []) :=
          fun h => hdot (Option.some.inj h.1)
        rw [if_neg fun h => hp h.1, if_neg hhead, joinedPieces_cons hdot]
    · exact hd
  | case3 => rfl

theorem dropWhile_collapseDots (h : ∀ c ∈ cs, p c = (c == '.')) :
    (collapseDots cs).dropWhile p = collapseDots (cs.dropWhile p) := by
  induction cs using collapseDots.induct with
  | case1 cs ih =>
    have hp : p '.' = true := h '.' List.mem_cons_self
    rw [collapseDots, ih fun c hc => h c (List.mem_cons_of_mem _ hc), List.dropWhile_cons_of_pos hp,
      List.dropWhile_cons_of_pos hp, List.dropWhile_cons_of_pos hp]
  | case2 d cs hd ih =>
    have ih := ih fun c hc => h c (List.mem_cons_of_mem _ hc)
    by_cases hp : p d = true
    · rw [collapseDots, List.dropWhile_cons_of_pos hp, List.dropWhile_cons_of_pos hp, ih]
      exact hd
    · rw [List.dropWhile_cons_of_neg hp, collapseDots, List.dropWhile_cons_of_neg hp]
      exact hd
  | case3 => rfl

theorem dotPieces_dropWhile (h : ∀ c ∈ cs, p c = (c == '.')) : dotPieces (cs.dropWhile p) = dotPieces cs := by
  induction cs with
  | nil => rfl
  | cons c cs ih =>
    have ih := ih fun c hc => h c (List.mem_cons_of_mem _ hc)
    by_cases hp : p c = true
    · rw [List.dropWhile_cons_of_pos hp, ih]
      rw [h c List.mem_cons_self, beq_iff_eq] at hp
      rw [hp, dotPieces_dot]
    · rw [List.dropWhile_cons_of_neg hp]

/-- Runs of dots become one dot, and those at the ends go. -/
theorem strip_collapseDots {marks cs : List Char} (h : ∀ c ∈ cs, c ∈ marks ↔ c = '.') :
    stripOf marks (collapseDots cs) = joinedPieces cs := by
  have hp : ∀ c ∈ cs, decide (c ∈ marks) = (c == '.') := by
    intro c hc
    rw [Bool.eq_iff_iff, decide_eq_true_iff, beq_iff_eq]
    exact h c hc
  have hp' : ∀ c ∈ cs.dropWhile (fun c => decide (c ∈ marks)), decide (c ∈ marks) = (c == '.') :=
    fun c hc => hp c (List.dropWhile_subset _ hc)
  rw [stripOf, dropWhile_collapseDots hp, rdropWhile_collapseDots hp', joinedPieces, joinedPieces,
    dotPieces_dropWhile hp, if_neg]
  rintro ⟨hhead, -⟩
  have hmark := List.head?_dropWhile_not (fun c => decide (c ∈ marks)) cs
  rw [hhead] at hmark
  have hmem := hp' '.' (List.mem_of_mem_head? hhead)
  rw [of_decide_eq_false hmark |> decide_eq_false] at hmem
  cases hmem

end

-- Folder names

/-- A text that names an entry of the directory it is put under. -/
structure IsFolderName (text : String) : Prop where
  nonempty : text ≠ ""
  noSlash : '/' ∉ text.toList
  notDot : text ≠ "."
  notParent : text ≠ ".."

/-- The character stays in a channel's folder name. -/
def IsPlain (words : WordClass) (c : Char) : Prop :=
  words.isWord c = true ∧ c ≠ '_' ∨ c = '-'

section
variable {words : WordClass} {name : String}

def maskChar (words : WordClass) (c : Char) : Char :=
  if words.isWord c || c ∈ ['.', '-'] then c else '_'

theorem isWord_mark (words : WordClass) {c : Char} (h : c ∈ ['/', ' ', '.', '-']) : words.isWord c = false := by
  have hmarks : ∀ c ∈ ['/', ' ', '.', '-'], c.toNat < 128 ∧ (c.isAlphanum || c == '_') = false :=
    List.all_iff_forall_prop.1 (by decide)
  rw [words.ascii c (hmarks c h).1, (hmarks c h).2]

theorem maskChar_cases (words : WordClass) (c : Char) :
    maskChar words c = c ∧ (words.isWord c = true ∨ c = '.' ∨ c = '-') ∨
      maskChar words c = '_' ∧ ¬ (words.isWord c = true ∨ c = '.' ∨ c = '-') := by
  rw [maskChar]
  split
  · next h => exact .inl ⟨rfl, by simpa only [Bool.or_eq_true, decide_eq_true_eq, List.mem_cons, List.not_mem_nil, or_false] using h⟩
  · next h => exact .inr ⟨rfl, by simpa only [Bool.or_eq_true, decide_eq_true_eq, List.mem_cons, List.not_mem_nil, or_false] using h⟩

theorem maskChar_eq_dot (c : Char) : maskChar words c = '.' ↔ c = '.' := by
  rcases maskChar_cases words c with ⟨h, -⟩ | ⟨h, hnot⟩
  · rw [h]
  · rw [h]
    refine iff_of_false (by decide) ?_
    rintro rfl
    exact hnot (.inr (.inl rfl))

theorem maskChar_ne {d : Char} (hd : d ∈ ['/', ' ']) (c : Char) : maskChar words c ≠ d := by
  rcases maskChar_cases words c with ⟨h, hplain⟩ | ⟨h, -⟩
  · rw [h]
    rintro rfl
    have hmark : c ∈ ['/', ' ', '.', '-'] := List.mem_append_left ['.', '-'] hd
    rw [isWord_mark words hmark] at hplain
    have hall : ∀ c ∈ ['/', ' '], ¬ (false = true ∨ c = '.' ∨ c = '-') :=
      List.all_iff_forall_prop.1 (by decide)
    exact hall c hd hplain
  · rw [h]
    rintro rfl
    revert hd
    decide

theorem sanitize_toList (words : WordClass) (name : String) : (sanitize words name).toList =
    if joinedPieces (name.toList.map (maskChar words)) = [] then "item".toList
    else joinedPieces (name.toList.map (maskChar words)) := by
  have hmarks : ∀ c ∈ name.toList.map (maskChar words), c ∈ ['.', ' '] ↔ c = '.' := by
    intro c hc
    obtain ⟨d, -, rfl⟩ := List.mem_map.1 hc
    rw [List.mem_cons, List.mem_singleton, or_iff_left (maskChar_ne (by decide) d)]
  have hstrip := strip_collapseDots hmarks
  rw [sanitize]
  change (if stripOf ['.', ' '] (collapseDots (name.toList.map (maskChar words))) = [] then "item"
    else String.ofList (stripOf ['.', ' '] (collapseDots (name.toList.map (maskChar words))))).toList = _
  rw [hstrip]
  split
  · rfl
  · rw [String.toList_ofList]

theorem mem_joinedPieces {cs : List Char} (hc : c ≠ '.') : c ∈ joinedPieces cs ↔ c ∈ cs := by
  rw [← @strip_collapseDots ['.'] _ fun c _ => List.mem_singleton, stripOf]
  have hkeep {ds : List Char} : c ∈ ds.dropWhile (fun c => c ∈ ['.']) ↔ c ∈ ds := by
    refine ⟨fun h => List.dropWhile_subset _ h, fun h => ?_⟩
    rw [← List.takeWhile_append_dropWhile (p := fun c => decide (c ∈ ['.'])) (l := ds), List.mem_append] at h
    refine h.resolve_left fun htake => ?_
    have hmark := List.mem_takeWhile_imp htake
    rw [decide_eq_true_iff, List.mem_singleton] at hmark
    exact hc hmark
  rw [List.rdropWhile, List.mem_reverse, hkeep, List.mem_reverse, hkeep, mem_collapseDots]

/-- Pieces of underscores leave the dots between them. -/
theorem filter_intercalate {pieces : List (List Char)} (h : ∀ piece ∈ pieces, ∀ c ∈ piece, c = '_') :
    (['.'].intercalate pieces).filter (fun c => c ≠ '_') = List.replicate (pieces.length - 1) '.' := by
  have hgone : ∀ piece ∈ pieces, piece.filter (fun c => c ≠ '_') = [] := by
    intro piece hpiece
    rw [List.filter_eq_nil_iff]
    intro c hc
    rw [h piece hpiece c hc]
    decide
  clear h
  induction pieces with
  | nil => rfl
  | cons piece pieces ih =>
    have hpiece := hgone piece List.mem_cons_self
    have ih := ih fun piece h => hgone piece (List.mem_cons_of_mem _ h)
    cases pieces with
    | nil => rw [List.intercalate_singleton, hpiece, List.length_singleton, Nat.sub_self, List.replicate_zero]
    | cons piece' pieces =>
      rw [List.intercalate_cons_cons, List.filter_append, List.filter_append, hpiece, ih]
      rfl

/-- A plain character of the name is kept. -/
theorem mem_sanitizeChannelName (hmem : c ∈ name.toList) (hplain : IsPlain words c) :
    c ∈ (sanitizeChannelName words name).toList := by
  have hmask : maskChar words c = c ∧ c ≠ '_' ∧ c ≠ '.' := by
    rcases hplain with ⟨hword, hne⟩ | rfl
    · refine ⟨?_, hne, ?_⟩
      · rw [maskChar, hword, Bool.true_or, if_pos rfl]
      · rintro rfl
        rw [isWord_mark words (by decide)] at hword
        cases hword
    · refine ⟨?_, by decide, by decide⟩
      exact if_pos (Bool.or_eq_true_iff.2 (.inr (by decide)))
  have hjoined : c ∈ joinedPieces (name.toList.map (maskChar words)) :=
    (mem_joinedPieces hmask.2.2).2 (List.mem_map.2 ⟨c, hmem, hmask.1⟩)
  have hkept : c ∈ (sanitize words name).toList.filter fun c => c ≠ '_' := by
    rw [sanitize_toList, if_neg fun h => List.ne_nil_of_mem hjoined h]
    exact List.mem_filter.2 ⟨hjoined, decide_eq_true hmask.2.1⟩
  rw [sanitizeChannelName]
  split
  · next hnil =>
    rw [hnil] at hkept
    exact (List.not_mem_nil hkept).elim
  · rwa [String.toList_ofList]

/-- Without plain characters only dots are left, one between every two pieces. -/
theorem sanitizeChannelName_of_marks (hnone : ∀ c ∈ name.toList, ¬ IsPlain words c) :
    sanitizeChannelName words name =
      match (dotPieces name.toList).length with
      | 0 => "item"
      | 1 => "channel"
      | n + 2 => String.ofList (List.replicate (n + 1) '.') := by
  have hmarks : ∀ piece ∈ dotPieces (name.toList.map (maskChar words)), ∀ c ∈ piece, c = '_' := by
    intro piece hpiece c hc
    obtain ⟨hmem, hdot⟩ := mem_of_dotPieces hpiece hc
    obtain ⟨d, hd, rfl⟩ := List.mem_map.1 hmem
    rcases maskChar_cases words d with ⟨hsame, hplain⟩ | ⟨hmask, -⟩
    · rw [hsame] at hdot ⊢
      by_contra hne
      rcases hplain with hword | hmark | hmark
      · exact hnone d hd (.inl ⟨hword, hne⟩)
      · exact hdot hmark
      · exact hnone d hd (.inr hmark)
    · exact hmask
  have hpieces : (dotPieces (name.toList.map (maskChar words))).length = (dotPieces name.toList).length := by
    rw [dotPieces_map fun c => maskChar_eq_dot c, List.length_map]
  have hfilter := filter_intercalate hmarks
  rw [hpieces] at hfilter
  have hnil : joinedPieces (name.toList.map (maskChar words)) = [] ↔ (dotPieces name.toList).length = 0 := by
    rw [joinedPieces_eq_nil, ← List.length_eq_zero_iff, hpieces]
  rw [sanitizeChannelName, sanitize_toList]
  cases hlength : (dotPieces name.toList).length with
  | zero =>
    rw [if_pos (hnil.2 hlength)]
    rfl
  | succ n =>
    have hne : ¬ joinedPieces (name.toList.map (maskChar words)) = [] := by
      rw [hnil, hlength]
      exact Nat.succ_ne_zero n
    rw [hlength] at hfilter
    rw [if_neg hne, joinedPieces, hfilter]
    cases n with
    | zero => rfl
    | succ n => rfl

theorem slash_notMem_sanitizeChannelName (words : WordClass) (name : String) :
    '/' ∉ (sanitizeChannelName words name).toList := by
  rw [sanitizeChannelName]
  split
  · decide
  · rw [String.toList_ofList]
    intro h
    have h := (List.mem_filter.1 h).1
    rw [sanitize_toList] at h
    split at h
    · exact absurd h (by decide)
    · obtain ⟨c, -, hc⟩ := List.mem_map.1 ((mem_joinedPieces (by decide)).1 h)
      exact maskChar_ne (by decide) c hc

theorem sanitizeChannelName_ne_empty (words : WordClass) (name : String) :
    sanitizeChannelName words name ≠ "" := by
  rw [sanitizeChannelName]
  split
  · decide
  · next hne => exact fun h => hne (String.ofList_eq_empty_iff.1 h)

end

theorem IsFolderName.truediv {text : String} (h : IsFolderName text) (root : Path) :
    (root.truediv text).parts = root.parts ++ [text] := by
  rw [Path.truediv]
  split
  · next cs hslash => exact (h.noSlash (hslash ▸ List.mem_cons_self)).elim
  · exact parts_join ⟨h.nonempty, h.notDot, h.noSlash⟩ root

/-- A channel's folder is a child of the root, except for names without a letter, a digit or a hyphen
that have two or three pieces between their dots. -/
theorem channel_folder_iff (words : WordClass) (name : String) :
    (IsFolderName (sanitizeChannelName words name) ∧
        ∀ root : Path, (root.truediv (sanitizeChannelName words name)).parts =
          root.parts ++ [sanitizeChannelName words name]) ↔
      ¬ ((∀ c ∈ name.toList, ¬ IsPlain words c) ∧ (dotPieces name.toList).length ∈ [2, 3]) := by
  have hchild : (IsFolderName (sanitizeChannelName words name) ∧
        ∀ root : Path, (root.truediv (sanitizeChannelName words name)).parts =
          root.parts ++ [sanitizeChannelName words name]) ↔
      sanitizeChannelName words name ≠ "." ∧ sanitizeChannelName words name ≠ ".." := by
    constructor
    · rintro ⟨hfolder, -⟩
      exact ⟨hfolder.notDot, hfolder.notParent⟩
    · rintro ⟨hdot, hparent⟩
      have hfolder : IsFolderName (sanitizeChannelName words name) :=
        ⟨sanitizeChannelName_ne_empty words name, slash_notMem_sanitizeChannelName words name, hdot, hparent⟩
      exact ⟨hfolder, hfolder.truediv⟩
  rw [hchild]
  by_cases hplain : ∃ c ∈ name.toList, IsPlain words c
  · obtain ⟨c, hmem, hc⟩ := hplain
    have hkept := mem_sanitizeChannelName hmem hc
    have hne : c ≠ '.' := by
      rcases hc with ⟨hword, -⟩ | rfl
      · rintro rfl
        rw [isWord_mark words (by decide)] at hword
        cases hword
      · decide
    refine iff_of_true ⟨?_, ?_⟩ fun h => h.1 c hmem hc
    · intro h
      rw [h] at hkept
      exact hne (List.mem_singleton.1 hkept)
    · intro h
      rw [h] at hkept
      have hall : ∀ c ∈ "..".toList, c = '.' := List.all_iff_forall_prop.1 (by decide)
      exact hne (hall c hkept)
  · have hnone : ∀ c ∈ name.toList, ¬ IsPlain words c := fun c hmem hc => hplain ⟨c, hmem, hc⟩
    rw [not_and, forall_prop_of_true hnone, sanitizeChannelName_of_marks hnone]
    match (dotPieces name.toList).length with
    | 0 => decide
    | 1 => decide
    | 2 => decide
    | 3 => decide
    | n + 4 =>
      have hlong : (n + 4) ∉ [2, 3] := by
        simp only [List.mem_cons, List.not_mem_nil, or_false]
        omega
      refine iff_of_true ⟨?_, ?_⟩ hlong
      · intro h
        have hlength := congrArg (fun text => text.toList.length) h
        rw [String.toList_ofList, List.length_replicate] at hlength
        cases hlength
      · intro h
        have hlength := congrArg (fun text => text.toList.length) h
        rw [String.toList_ofList, List.length_replicate] at hlength
        cases hlength

/-- `\w` on ASCII texts. -/
def asciiWords : WordClass := ⟨fun c => c.isAlphanum || c == '_', fun _ _ => rfl⟩

/-- A name of slashes and dots becomes the parent directory. -/
theorem slashes_and_dots_leave_root :
    sanitizeChannelName asciiWords "/././" = ".." ∧
      ¬ IsFolderName (sanitizeChannelName asciiWords "/././") := by
  have hname : sanitizeChannelName asciiWords "/././" = ".." := by decide +kernel
  exact ⟨hname, fun h => h.notParent hname⟩

end GetOffline
