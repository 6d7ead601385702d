import GetOffline.PythonText
import Mathlib.Data.List.TakeWhile

set_option autoImplicit true

namespace Python

/-- What can stand between two slashes of a path: `pathlib` drops the empty parts and the dots. -/
def IsPart (part : String) : Prop :=
  part ≠ "" ∧ part ≠ "." ∧ '/' ∉ part.toList

instance : DecidablePred IsPart := fun part =>
  inferInstanceAs (Decidable (part ≠ "" ∧ part ≠ "." ∧ '/' ∉ part.toList))

/-- An absolute `PosixPath`. -/
structure Path where
  parts : List String
  valid : ∀ part ∈ parts, IsPart part
deriving DecidableEq

/-- The parts of a text that is taken for a path. -/
def pathParts (text : String) : List String :=
  ((text.toList.splitOn '/').map String.ofList).filter fun part => IsPart part

theorem isPart_of_mem (h : part ∈ pathParts text) : IsPart part :=
  of_decide_eq_true (List.mem_filter.1 h).2

/-- The stem and the suffix of a file name, as Python 3.12 tells them apart. -/
def splitSuffix (name : List Char) : List Char × List Char :=
  let extension := (name.reverse.takeWhile fun c => c ≠ '.').reverse
  match name.reverse.dropWhile fun c => c ≠ '.' with
  | [] => (name, [])
  | _ :: stem => if stem = [] ∨ extension = [] then (name, []) else (stem.reverse, '.' :: extension)

theorem splitSuffix_append (name : List Char) :
    (splitSuffix name).1 ++ (splitSuffix name).2 = name := by
  unfold splitSuffix
  dsimp only
  split
  · exact List.append_nil name
  · next c stem hdrop =>
    split
    · exact List.append_nil name
    · have hc : c = '.' := by
        have h := List.head?_dropWhile_not (fun c => decide (c ≠ '.')) name.reverse
        rw [hdrop] at h
        exact Decidable.not_not.1 (of_decide_eq_false h)
      have h := List.takeWhile_append_dropWhile (p := fun c => decide (c ≠ '.')) (l := name.reverse)
      rw [hdrop, hc] at h
      have hname := congrArg List.reverse h
      rw [List.reverse_reverse, List.reverse_append, List.reverse_cons, List.append_assoc] at hname
      exact hname

/-- A suffix has no dot but its first character. -/
theorem dot_notMem_suffix (name : List Char) : '.' ∉ (splitSuffix name).2.tail := by
  unfold splitSuffix
  dsimp only
  split
  · exact List.not_mem_nil
  · split
    · exact List.not_mem_nil
    · intro h
      have hmem := List.mem_takeWhile_imp (List.mem_reverse.1 h)
      simp only [ne_eq, not_true_eq_false, decide_false, Bool.false_eq_true] at hmem

/-- A suffix is empty, or a dot and letters. -/
theorem suffix_cases (name : List Char) : (splitSuffix name).2 = [] ∨
    ∃ letters, letters ≠ [] ∧ '.' ∉ letters ∧ (splitSuffix name).2 = '.' :: letters := by
  have hdot := dot_notMem_suffix name
  unfold splitSuffix at hdot ⊢
  dsimp only at hdot ⊢
  split
  · exact .inl rfl
  · next stem hdrop =>
    rw [hdrop] at hdot
    dsimp only at hdot
    split
    · exact .inl rfl
    · next hparts =>
      rw [if_neg hparts] at hdot
      exact .inr ⟨_, fun hnil => hparts (.inr hnil), hdot, rfl⟩

/-- A name of a stem and a suffix is taken apart again. -/
theorem splitSuffix_of_parts {stem extension : List Char} (hstem : stem ≠ []) (hne : extension ≠ [])
    (hdot : '.' ∉ extension) : splitSuffix (stem ++ '.' :: extension) = (stem, '.' :: extension) := by
  have hreverse : (stem ++ '.' :: extension).reverse = extension.reverse ++ '.' :: stem.reverse := by
    rw [List.reverse_append, List.reverse_cons, List.append_assoc]
    rfl
  have hall : ∀ c ∈ extension.reverse, decide (c ≠ '.') = true := by
    intro c hc
    rw [decide_eq_true_iff]
    rintro rfl
    exact hdot (List.mem_reverse.1 hc)
  have hpoint : ¬ decide ('.' ≠ '.') = true := by decide
  have htake : (stem ++ '.' :: extension).reverse.takeWhile (fun c => decide (c ≠ '.')) =
      extension.reverse := by
    rw [hreverse, List.takeWhile_append_of_pos hall, List.takeWhile_cons_of_neg (p := fun c => decide (c ≠ '.')) hpoint,
      List.append_nil]
  have hdrop : (stem ++ '.' :: extension).reverse.dropWhile (fun c => decide (c ≠ '.')) =
      '.' :: stem.reverse := by
    rw [hreverse, List.dropWhile_append_of_pos hall, List.dropWhile_cons_of_neg (p := fun c => decide (c ≠ '.')) hpoint]
  have hkept : ¬ (stem.reverse = [] ∨ extension = []) := by
    rw [List.reverse_eq_nil_iff]
    exact not_or.2 ⟨hstem, hne⟩
  unfold splitSuffix
  dsimp only
  rw [htake, hdrop, List.reverse_reverse]
  dsimp only
  rw [if_neg hkept, List.reverse_reverse]

/-- What has no dot in front of a name stays in front of its stem. -/
theorem prefix_stem {front : List Char} (hdot : '.' ∉ front) (rest : List Char) :
    front <+: (splitSuffix (front ++ rest)).1 := by
  have hsplit := splitSuffix_append (front ++ rest)
  rcases List.append_eq_append_iff.1 hsplit with ⟨middle, hfront, hsuffix⟩ | ⟨middle, hstem, -⟩
  · have hmiddle : middle = [] := by
      rcases suffix_cases (front ++ rest) with hnil | ⟨letters, -, -, hletters⟩
      · rw [hnil] at hsuffix
        exact (List.append_eq_nil_iff.1 hsuffix.symm).1
      · rw [hletters] at hsuffix
        cases middle with
        | nil => rfl
        | cons c middle =>
          rw [hfront, ← (List.cons.inj hsuffix).1] at hdot
          exact absurd (List.mem_append_right _ List.mem_cons_self) hdot
    rw [hmiddle, List.append_nil] at hfront
    exact ⟨[], by rw [List.append_nil, ← hfront]⟩
  · exact ⟨middle, hstem.symm⟩

/-- What a dot follows in a name is followed by a dot under any other suffix. -/
theorem prefix_withSuffix {front name : List Char} (h : front ++ ['.'] <+: name) (letters : List Char) :
    front ++ ['.'] <+: (splitSuffix name).1 ++ '.' :: letters := by
  obtain ⟨rest, hrest⟩ := h
  have hsplit := splitSuffix_append name
  rw [← hrest, List.append_assoc] at hsplit
  rw [← hrest, List.append_assoc]
  rcases List.append_eq_append_iff.1 hsplit with ⟨middle, hfront, hsuffix⟩ | ⟨middle, hstem, hsuffix⟩
  · rcases suffix_cases (front ++ (['.'] ++ rest)) with hnil | ⟨own, -, hdot, hletters⟩
    · rw [hnil] at hsuffix
      cases (List.append_eq_nil_iff.1 hsuffix.symm).2
    · rw [hletters] at hsuffix
      cases middle with
      | nil =>
        rw [List.append_nil] at hfront
        exact ⟨letters, by rw [← hfront, List.append_assoc, List.singleton_append]⟩
      | cons c middle =>
        rw [(List.cons.inj hsuffix).2] at hdot
        exact absurd (List.mem_append_right _ List.mem_cons_self) hdot
  · cases middle with
    | nil =>
      rw [List.append_nil] at hstem
      exact ⟨letters, by rw [hstem, List.append_assoc, List.singleton_append]⟩
    | cons c middle =>
      rw [List.singleton_append, List.cons_append] at hsuffix
      obtain ⟨rfl, -⟩ := List.cons.inj hsuffix
      rw [hstem]
      exact ⟨middle ++ '.' :: letters, by simp only [List.append_assoc, List.cons_append, List.nil_append]⟩

theorem stem_ne_nil {name : List Char} (h : name ≠ []) : (splitSuffix name).1 ≠ [] := by
  unfold splitSuffix
  dsimp only
  split
  · exact h
  · next stem hdrop =>
    split
    · exact h
    · next hparts => exact fun hnil => hparts (.inl (List.reverse_eq_nil_iff.1 hnil))

namespace Path

/-- `str(path)`. -/
def str (path : Path) : String :=
  String.ofList ('/' :: ['/'].intercalate (path.parts.map String.toList))

/-- The path that an absolute path's text is read as. -/
def parse (text : String) : Path where
  parts := pathParts text
  valid := fun _ h => isPart_of_mem h

def append (path : Path) (parts : List String) (h : ∀ part ∈ parts, IsPart part) : Path where
  parts := path.parts ++ parts
  valid := by
    intro part hpart
    exact (List.mem_append.1 hpart).elim (path.valid part) (h part)

/-- `path / text`, for a text that is a relative path. -/
def join (path : Path) (text : String) : Path :=
  path.append (pathParts text) fun _ h => isPart_of_mem h

/-- `path / text`. -/
def truediv (path : Path) (text : String) : Path :=
  match text.toList with
  | '/' :: _ => parse text
  | _ => path.join text

def name (path : Path) : String :=
  path.parts.getLast?.getD ""

def parent (path : Path) : Path where
  parts := path.parts.dropLast
  valid := fun part h => path.valid part (List.dropLast_subset _ h)

def stem (path : Path) : String :=
  String.ofList (splitSuffix path.name.toList).1

def suffix (path : Path) : String :=
  String.ofList (splitSuffix path.name.toList).2

/-- `path.suffix.lstrip(".")`. -/
def extension (path : Path) : String :=
  String.ofList (path.suffix.toList.dropWhile fun c => c = '.')

def withName (path : Path) (name : String) : Except Error Path :=
  if path.name = "" then .error .valueError
  else if h : IsPart name then .ok (path.parent.append [name] (List.forall_mem_singleton.2 h))
  else .error .valueError

/-- `path.with_suffix(suffix)`, for a suffix that is a dot and a name without slashes. -/
def withSuffix (path : Path) (suffix : String) : Except Error Path :=
  path.withName (path.stem ++ suffix)

/-- `str(path.relative_to(root))`, unless the path is not under the root. -/
def relativeTo (path root : Path) : Option String :=
  if root.parts <+: path.parts then
    let parts := path.parts.drop root.parts.length
    if parts = [] then some "."
    else some (String.ofList (['/'].intercalate (parts.map String.toList)))
  else none

/-- The parts of a relative path's text. -/
theorem pathParts_intercalate {parts : List String} (hparts : ∀ part ∈ parts, IsPart part)
    (hne : parts ≠ []) :
    pathParts (String.ofList (['/'].intercalate (parts.map String.toList))) = parts := by
  have hfilter : parts.filter (fun part => decide (IsPart part)) = parts :=
    List.filter_eq_self.2 fun part h => decide_eq_true (hparts part h)
  rw [pathParts, String.toList_ofList, List.splitOn_intercalate '/' _ (List.map_eq_nil_iff.not.2 hne),
    List.map_map]
  · have hid : String.ofList ∘ String.toList = id := funext fun s => String.ofList_toList
    rw [hid, List.map_id, hfilter]
  · intro l hl
    obtain ⟨p, hp, rfl⟩ := List.mem_map.1 hl
    exact (hparts p hp).2.2

/-- A slash in front makes no difference to the parts. -/
theorem pathParts_slash (text : List Char) :
    pathParts (String.ofList ('/' :: text)) = pathParts (String.ofList text) := by
  have hempty : decide (IsPart (String.ofList [])) = false := by decide
  have hdrop (l : List String) : (String.ofList [] :: l).filter (fun part => decide (IsPart part)) =
      l.filter fun part => decide (IsPart part) :=
    List.filter_cons_of_neg (ne_true_of_eq_false hempty)
  rw [pathParts, String.toList_ofList, List.splitOn_cons_eq_if_modifyHead, if_pos (beq_self_eq_true _),
    List.map_cons, hdrop, pathParts, String.toList_ofList]

/-- The text of a path is read as that path. -/
theorem parse_str (path : Path) : parse path.str = path := by
  obtain ⟨parts, valid⟩ := path
  have hparts : pathParts (str ⟨parts, valid⟩) = parts := by
    rw [str, pathParts_slash]
    cases parts with
    | nil =>
      have hnone : pathParts (String.ofList []) = [] := by decide
      exact hnone
    | cons part parts => exact pathParts_intercalate valid (List.cons_ne_nil _ _)
  rw [parse]
  simp only [hparts]

theorem intercalate_head {part : String} {parts : List String} (hpart : IsPart part) :
    ∃ c chars, c ≠ '/' ∧ ['/'].intercalate ((part :: parts).map String.toList) = c :: chars := by
  cases hchars : part.toList with
  | nil => exact absurd (String.toList_eq_nil_iff.1 hchars) hpart.1
  | cons c chars =>
    have hc : c ≠ '/' := by
      rintro rfl
      apply hpart.2.2
      rw [hchars]
      exact List.mem_cons_self
    rw [List.map_cons, hchars]
    cases parts with
    | nil => exact ⟨c, _, hc, rfl⟩
    | cons part' parts => exact ⟨c, _, hc, rfl⟩

/-- What `relative_to` gives is a relative path, and leads from the root to the path. -/
theorem relativeTo_spec {path root : Path} (h : path.relativeTo root = some text) :
    (∃ c chars, c ≠ '/' ∧ text.toList = c :: chars) ∧ root.parts ++ pathParts text = path.parts := by
  rw [relativeTo] at h
  split at h
  · next hunder =>
    obtain ⟨rest, hrest⟩ := hunder
    have hvalid : ∀ part ∈ rest, IsPart part := by
      intro part hpart
      apply path.valid
      rw [← hrest]
      exact List.mem_append_right _ hpart
    rw [← hrest, List.drop_left] at h
    rw [← hrest]
    cases rest with
    | nil =>
      obtain rfl := Option.some.inj h
      have hdot : pathParts "." = [] := by decide
      rw [hdot]
      exact ⟨⟨'.', [], by decide, rfl⟩, rfl⟩
    | cons part parts =>
      obtain rfl := Option.some.inj h
      obtain ⟨c, chars, hc, hhead⟩ := intercalate_head (hvalid part List.mem_cons_self)
      refine ⟨⟨c, chars, hc, ?_⟩, ?_⟩
      · rw [String.toList_ofList, hhead]
      · rw [pathParts_intercalate hvalid (List.cons_ne_nil _ _)]
  · cases h

theorem truediv_relativeTo {path root : Path} (h : path.relativeTo root = some text) :
    root.truediv text = path := by
  obtain ⟨⟨c, chars, hc, htext⟩, hparts⟩ := relativeTo_spec h
  rw [truediv]
  split
  · next chars' hslash =>
    rw [htext] at hslash
    exact absurd (List.cons.inj hslash).1 hc
  · rw [join, append]
    simp only [hparts]

theorem relativeTo_ne_empty {path root : Path} (h : path.relativeTo root = some text) : text ≠ "" := by
  obtain ⟨⟨c, chars, -, htext⟩, -⟩ := relativeTo_spec h
  rintro rfl
  cases htext

theorem str_ne_empty (path : Path) : path.str ≠ "" := by
  intro h
  have hchars := congrArg String.toList h
  rw [str, String.toList_ofList] at hchars
  cases hchars

/-- The stem and two more dots do not make the name of the path. -/
theorem stem_append_ne_name {path : Path} {text : String} (hdot : '.' ∈ text.toList) :
    path.stem ++ "." ++ text ≠ path.name := by
  intro h
  have hname := splitSuffix_append path.name.toList
  have htext : (splitSuffix path.name.toList).1 ++ '.' :: text.toList = path.name.toList := by
    have hpoint : ".".toList = ['.'] := rfl
    have hchars := congrArg String.toList h
    rw [String.toList_append, String.toList_append, stem, String.toList_ofList, hpoint,
      List.append_assoc] at hchars
    exact hchars
  have hsuffix : '.' :: text.toList = (splitSuffix path.name.toList).2 :=
    List.append_cancel_left (htext.trans hname.symm)
  apply dot_notMem_suffix path.name.toList
  rw [← hsuffix]
  exact hdot

/-- A path that has a name can take another suffix. -/
theorem withSuffix_ok {path : Path} {suffix : String} (hname : path.name ≠ "") (hslash : '/' ∉ suffix.toList)
    (hlength : 1 < suffix.toList.length) : ∃ path', path.withSuffix suffix = .ok path' := by
  have hvalid : IsPart path.name := by
    rw [name] at hname ⊢
    cases hlast : path.parts.getLast? with
    | none => exact absurd (by rw [hlast, Option.getD_none]) hname
    | some part => exact path.valid part (List.mem_of_getLast? hlast)
  have hstem : '/' ∉ (splitSuffix path.name.toList).1 := by
    intro h
    apply hvalid.2.2
    rw [← splitSuffix_append path.name.toList]
    exact List.mem_append_left _ h
  have htext : (path.stem ++ suffix).toList = (splitSuffix path.name.toList).1 ++ suffix.toList := by
    rw [String.toList_append, stem, String.toList_ofList]
  have hlong : 1 < (path.stem ++ suffix).toList.length := by
    rw [htext, List.length_append]
    omega
  have hpart : IsPart (path.stem ++ suffix) := by
    refine ⟨?_, ?_, ?_⟩
    · intro h
      rw [h] at hlong
      exact absurd hlong (by decide)
    · intro h
      rw [h] at hlong
      exact absurd hlong (by decide)
    · rw [htext, List.mem_append]
      exact fun h => h.elim hstem hslash
  rw [withSuffix, withName, if_neg hname, dif_pos hpart]
  exact ⟨_, rfl⟩

theorem name_withName {path path' : Path} {text : String} (h : path.withName text = .ok path') :
    path'.name = text := by
  rw [withName] at h
  split at h
  · cases h
  · split at h
    · obtain rfl := Except.ok.inj h
      rw [name, append, List.getLast?_append, List.getLast?_singleton]
      rfl
    · cases h

theorem parent_withName {path path' : Path} {text : String} (h : path.withName text = .ok path') :
    path'.parent = path.parent := by
  rw [withName] at h
  split at h
  · cases h
  · split at h
    · obtain rfl := Except.ok.inj h
      simp only [parent, append, List.dropLast_concat]
    · cases h

/-- A path has the suffix that it has been given. -/
theorem suffix_withSuffix {path path' : Path} {extension : List Char} (hne : extension ≠ [])
    (hdot : '.' ∉ extension) (h : path.withSuffix (String.ofList ('.' :: extension)) = .ok path') :
    path'.suffix = String.ofList ('.' :: extension) := by
  have hname : path.name.toList ≠ [] := by
    intro hnil
    rw [withSuffix, withName, if_pos (String.toList_eq_nil_iff.1 hnil)] at h
    cases h
  rw [suffix, name_withName h, String.toList_append, String.toList_ofList, stem, String.toList_ofList,
    splitSuffix_of_parts (stem_ne_nil hname) hne hdot]

end Path

theorem pathParts_of_isPart {text : String} (h : IsPart text) : pathParts text = [text] := by
  have htext := @Path.pathParts_intercalate [text] (List.forall_mem_singleton.2 h) (List.cons_ne_nil _ _)
  rwa [List.map_singleton, List.intercalate_singleton, String.ofList_toList] at htext

theorem parts_join {text : String} (h : IsPart text) (path : Path) :
    (path.join text).parts = path.parts ++ [text] :=
  congrArg (path.parts ++ ·) (pathParts_of_isPart h)

theorem parent_join {text : String} (h : IsPart text) (path : Path) : (path.join text).parent = path := by
  obtain ⟨parts, valid⟩ := path
  rw [Path.parent]
  simp only [parts_join h, List.dropLast_concat]

end Python
