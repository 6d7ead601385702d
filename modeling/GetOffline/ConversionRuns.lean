import GetOffline.ConversionReads

set_option autoImplicit true

namespace GetOffline
open Python Effects Program

theorem withName_spec {path path' : Path} {name : String} (h : path.withName name = .ok path') :
    path'.name = name ∧ path'.parent = path.parent := by
  rw [Path.withName] at h
  split at h
  · cases h
  · split at h
    · obtain rfl := Except.ok.inj h
      constructor
      · rw [Path.name, Path.append, List.getLast?_append_of_ne_nil _ (List.cons_ne_nil _ _)]
        rfl
      · rw [Path.parent, Path.append]
        simp only [List.dropLast_concat]
    · cases h

theorem targetName_ne (path : Path) (cleanExt : String) (counter : Nat) :
    targetName path.stem cleanExt counter ≠ path.name := by
  have htext : targetName path.stem cleanExt counter = path.stem ++ "." ++
      ("converted" ++ (if counter = 0 then "" else "-" ++ toString counter) ++ "." ++ cleanExt) := by
    have hconverted : ".converted" = "." ++ "converted" := by decide
    rw [targetName, hconverted]
    simp only [String.append_assoc]
  rw [htext]
  apply Path.stem_append_ne_name
  simp only [String.toList_append, List.mem_append]
  exact .inl (.inr (by decide))

theorem targetPathFrom_spec {files : Path → Bool} {source path : Path} {cleanExt : String}
    {rounds counter : Nat} (h : targetPathFrom files source cleanExt rounds counter = some (.ok path)) :
    files path = false ∧ ∃ counter, source.withName (targetName source.stem cleanExt counter) = .ok path := by
  induction rounds generalizing counter with
  | zero => cases h
  | succ rounds ih =>
    rw [targetPathFrom] at h
    split at h
    · cases h
    · next candidate hcandidate =>
      have hne : candidate ≠ source := by
        rintro rfl
        exact targetName_ne candidate cleanExt counter (withName_spec hcandidate).1.symm
      split at h
      · exact ih h
      · next hfree =>
        obtain rfl := Except.ok.inj (Option.some.inj h)
        refine ⟨?_, _, hcandidate⟩
        apply eq_false_of_ne_true
        exact fun hfile => hfree ⟨hfile, hne⟩

/-- The target beside a source is one under which there was nothing. -/
theorem FreeName.spec (h : FreeName host s source targetExt path) :
    s.files.node host path = none ∧ ∃ name, source.withName name = .ok path := by
  obtain ⟨rounds, h⟩ := h
  obtain ⟨hfree, counter, hname⟩ := targetPathFrom_spec h
  exact ⟨Option.not_isSome_iff_eq_none.1 (ne_true_of_eq_false hfree), _, hname⟩

namespace ConversionSubject

/-- The subject is what the payload names in the library. -/
def FoundIn (profileId : String) (payload : Columns) (s : Library) : ConversionSubject → Prop
  | .row download => ((Json.get "download_id" payload).getD .null).truthy = true ∧
    s.downloads.byId ((Json.get "download_id" payload).getD .null) profileId = .ok (some download)
  | .deferred lookup defaults => (((Json.get "download_id" payload).getD .null).truthy = true →
      s.downloads.byId ((Json.get "download_id" payload).getD .null) profileId = .ok none) ∧
    payloadObject "download_lookup" payload = some lookup ∧
      payloadObject "download_defaults" payload = some defaults

end ConversionSubject

/-- The target that a payload names. -/
def explicitTarget (host : Host) (payload : Columns) (subject : ConversionSubject) : Path :=
  let target := host.absolute (host.str ((Json.get "target_file_path" payload).getD .null))
  if subject.download.isSome then host.real target else target

/-- The target is beside the source, and there is nothing under it. -/
def IsDerived (host : Host) (source target : Path) (s : Library) : Prop :=
  ∃ path name, source.withName name = .ok path ∧ s.files.node host path = none ∧
    (target = path ∨ target = host.real path)

/-- What is known when `convert` starts in the one library, in a run that has started in the other one. -/
structure ConvertsIn (host : Host) (profileId : String) (payload : Columns) (s : Library)
    (subject : ConversionSubject) (sources : ConversionSources) (target : Path) (t : Library) : Prop where
  grown : Grown host s t
  found : subject.FoundIn profileId payload s
  inputs : ∀ path ∈ sources.all, t.files.node host path ≠ none
  origin : sources = conversionSources host payload subject ∨
    ∃ download, subject = .row download ∧
      (∃ path ∈ (conversionSources host payload subject).all, s.files.node host path = none) ∧
      ∀ path ∈ sources.all, path ∈ (conversionSources host payload subject).all ∨
        path = cachePath host download
  explicit : hasTarget payload = true → target = explicitTarget host payload subject
  derived : hasTarget payload = false → IsDerived host sources.first target t
  current : ∀ download, subject = .row download →
    host.resolve (host.textOr (some (download.get "file_path")) "") = host.real target →
      s.files.node host target = none

/-- The target that the payload names is there, and it is the row's file or an input is gone. -/
def Skips (host : Host) (payload : Columns) (s : Library) (download : Download) : Prop :=
  let target := explicitTarget host payload (.row download)
  hasTarget payload = true ∧ s.files.node host target ≠ none ∧
    (host.resolve (host.textOr (some (download.get "file_path")) "") = target ∨
      ∃ path ∈ (conversionSources host payload (.row download)).all, s.files.node host path = none)

/-- The target that is made up for the subject. -/
def NamedTarget (host : Host) (subject : ConversionSubject) (source : Path) (targetExt : String)
    (target : Path) (s : Library) : Prop :=
  ∃ path, FreeName host s source targetExt path ∧
    target = if subject.download.isSome then host.real path else path

theorem NamedTarget.isDerived (h : NamedTarget host subject source targetExt target s) :
    IsDerived host source target s := by
  obtain ⟨path, hpath, rfl⟩ := h
  obtain ⟨hfree, name, hname⟩ := hpath.spec
  refine ⟨path, name, hname, hfree, ?_⟩
  split
  · exact .inr rfl
  · exact .inl rfl

theorem NamedTarget.free (h : NamedTarget host subject source targetExt target s) :
    s.files.node host target = none := by
  obtain ⟨path, name, -, hfree, rfl | rfl⟩ := h.isDerived
  · exact hfree
  · rw [Files.node_real]
    exact hfree

/-- What else is known when `convert` starts: the kind, the extension and the target are those of the
library in which the run has started, unless inputs had to be fetched. -/
structure ConvertsAs (host : Host) (profileId : String) (payload : Columns) (s : Library)
    (subject : ConversionSubject) (mediaKind targetExt : String) (sources : ConversionSources)
    (target : Path) (t : Library) : Prop
    extends ConvertsIn host profileId payload s subject sources target t where
  kind : mediaKind = s.conversionKind host payload subject
  ext : targetExt = s.conversionExt profileId mediaKind
  named : hasTarget payload = false →
    (t = s ∧ sources = conversionSources host payload subject ∧
      NamedTarget host subject sources.first targetExt target s) ∨
    ((∃ path ∈ (conversionSources host payload subject).all, s.files.node host path = none) ∧
      FreeName host t sources.first targetExt target)
  due : ∀ download, subject = .row download → ¬ Skips host payload s download

section
variable {host : Host} {permits : Library → {β : Type} → HandlerOp β → Prop} {s : Library}
  {I : Library → Prop} {S : α → Library → Prop} {T : β → Library → Prop} {p : Handler α} {f : α → Handler β}

/-- What comes after a program that leaves the library as it is. -/
theorem ends_still (hp : p.Meets (undisturbed host permits) (Ends (fun t => t = s) S) s) (hI : I s)
    (hf : ∀ a, S a s → (f a).Meets (undisturbed host permits) (Ends I T) s) :
    (p >>= f).Meets (undisturbed host permits) (Ends I T) s := by
  apply Meets.bind hp
  · rintro a t ⟨rfl, hS⟩
    exact hf a (hS a rfl)
  · rintro e t ⟨rfl, -⟩
    exact .error hI e

theorem settle_ok_eq {reply : Reply} {result : Except Error (α × Library)}
    (h : (reply.settle result s).1 = .ok a) : ∃ s', result = .ok (a, s') := by
  rcases reply.settle_cases result s with ⟨-, e, he⟩ | ⟨answer, s', hresult, -, hanswer | ⟨e, he⟩⟩
  · rw [h] at he
    cases he
  · rw [h] at hanswer
    obtain rfl := Except.ok.inj hanswer
    exact ⟨s', hresult⟩
  · rw [h] at he
    cases he

theorem downloadById_answer {pk : Json} {profileId : String} {reply : Reply}
    (hrun : (HandlerOp.downloadById pk profileId).run host reply s = some r) (h : r.1 = .ok found) :
    s.downloads.byId pk profileId = .ok found := by
  obtain rfl := Option.some.inj hrun
  obtain ⟨s', hresult⟩ := settle_ok_eq h
  cases hfound : s.downloads.byId pk profileId with
  | error e =>
    rw [hfound] at hresult
    cases hresult
  | ok found' =>
    rw [hfound] at hresult
    rw [(Prod.mk.inj (Except.ok.inj hresult)).1]

theorem targetPath_answer {source path : Path} {targetExt : String} {reply : Reply}
    (hrun : (HandlerOp.targetPath source targetExt).run host reply s = some r) (h : r.1 = .ok path) :
    FreeName host s source targetExt path := by
  obtain ⟨result, hresult, rfl⟩ := Option.map_eq_some_iff.1 hrun
  obtain ⟨s', hsettled⟩ := settle_ok_eq h
  cases result with
  | error e => cases hsettled
  | ok found =>
    obtain rfl := (Prod.mk.inj (Except.ok.inj hsettled)).1
    exact ⟨reply.rounds, hresult⟩

variable (hquery : ∀ {γ : Type} (op : HandlerOp γ), op.IsQuery → permits s op)
include hquery

/-- The row that is read again under the lock. -/
theorem tells_refreshed {subject : ConversionSubject} (hfound : subject.FoundIn profileId payload s) :
    Tells (undisturbed host permits) (if ((Json.get "download_id" payload).getD .null).truthy then
        perform (.downloadById ((Json.get "download_id" payload).getD .null) profileId)
      else pure none : Handler (Option Download)) s subject.download := by
  have hread {found : Option Download}
      (h : s.downloads.byId ((Json.get "download_id" payload).getD .null) profileId = .ok found) :
      Tells (undisturbed host permits)
        (perform (.downloadById ((Json.get "download_id" payload).getD .null) profileId)) s found := by
    have hop : (HandlerOp.downloadById ((Json.get "download_id" payload).getD .null) profileId).IsQuery :=
      trivial
    apply tells_settle (hquery _ hop) trivial
    intro reply
    rw [HandlerOp.run, h]
    rfl
  cases subject with
  | row download =>
    rw [if_pos hfound.1]
    exact hread hfound.2
  | deferred lookup defaults =>
    by_cases htruthy : ((Json.get "download_id" payload).getD .null).truthy = true
    · rw [if_pos htruthy]
      exact hread (hfound.1 htruthy)
    · rw [if_neg htruthy]
      exact tells_pure _

/-- The target of a conversion is the one that the payload names, or a free one beside the source. -/
theorem undisturbed_conversionTarget (payload : Columns) (subject : ConversionSubject) (source : Path)
    (targetExt : String) : (conversionTarget host payload subject source targetExt).Meets
      (undisturbed host permits) (Ends (fun t => t = s) fun target _ =>
        (hasTarget payload = true → target = explicitTarget host payload subject) ∧
          (hasTarget payload = false → NamedTarget host subject source targetExt target s) ∧
            (subject.download.isSome = true → host.real target = target)) s := by
  have hfirst : (if hasTarget payload then
        pure (host.absolute (host.str ((Json.get "target_file_path" payload).getD .null)))
      else targetPathOf source targetExt : Handler Path).Meets (undisturbed host permits)
      (Ends (fun t => t = s) fun target _ => (hasTarget payload = true →
          target = host.absolute (host.str ((Json.get "target_file_path" payload).getD .null))) ∧
        (hasTarget payload = false → FreeName host s source targetExt target)) s := by
    apply meets_ite
    · intro htarget
      apply ends_pure
      · rfl
      · refine ⟨fun _ => rfl, ?_⟩
        intro hnot
        rw [htarget] at hnot
        cases hnot
    · intro htarget
      have hop : (HandlerOp.targetPath source targetExt).IsQuery := trivial
      apply ends_perform (hquery _ hop)
      intro reply r _ hrun
      refine ⟨hop.run_eq hrun, ?_⟩
      intro target ha
      exact ⟨fun h => absurd h htarget, fun _ => targetPath_answer hrun ha⟩
  apply ends_bind hfirst
  rintro target t rfl ⟨hexplicit, hderived⟩
  apply ends_pure
  · rfl
  · refine ⟨?_, ?_, ?_⟩
    · intro htarget
      rw [explicitTarget, hexplicit htarget]
    · exact fun htarget => ⟨target, hderived htarget, rfl⟩
    · intro hrow
      rw [if_pos hrow, host.real_real]

theorem undisturbed_conversionSubject (profileId : String) (payload : Columns) :
    (conversionSubject profileId payload).Meets (undisturbed host permits) (Ends (fun t => t = s)
      fun found _ => (∀ subject, found = some subject → subject.FoundIn profileId payload s) ∧
        (found = none → ∀ download, ¬ (ConversionSubject.row download).FoundIn profileId payload s)) s := by
  have hfirst : (if ((Json.get "download_id" payload).getD .null).truthy then
        perform (.downloadById ((Json.get "download_id" payload).getD .null) profileId)
      else pure none : Handler (Option Download)).Meets (undisturbed host permits)
      (Ends (fun t => t = s) fun found _ =>
        (∀ download, found = some download →
          (ConversionSubject.row download).FoundIn profileId payload s) ∧
        (found = none → ((Json.get "download_id" payload).getD .null).truthy = true →
          s.downloads.byId ((Json.get "download_id" payload).getD .null) profileId = .ok none)) s := by
    apply meets_ite
    · intro htruthy
      have hop : (HandlerOp.downloadById ((Json.get "download_id" payload).getD .null) profileId).IsQuery :=
        trivial
      apply ends_perform (hquery _ hop)
      intro reply r _ hrun
      refine ⟨hop.run_eq hrun, ?_⟩
      intro found hanswer
      have hfound := downloadById_answer hrun hanswer
      constructor
      · rintro download rfl
        exact ⟨htruthy, hfound⟩
      · rintro rfl _
        exact hfound
    · intro hfalsy
      apply ends_pure
      · rfl
      · refine ⟨?_, fun _ htruthy => absurd htruthy hfalsy⟩
        intro download hdownload
        cases hdownload
  have hnone : ∀ subject, none = some subject → ConversionSubject.FoundIn profileId payload s subject := by
    intro subject hsubject
    cases hsubject
  apply ends_bind hfirst
  rintro found t rfl ⟨hrow, hmissing⟩
  cases found with
  | some download =>
    apply ends_pure
    · rfl
    · refine ⟨?_, ?_⟩
      · intro subject hsubject
        obtain rfl := Option.some.inj hsubject
        exact hrow download rfl
      · intro hfound
        cases hfound
  | none =>
    have hrows : ∀ download, ¬ (ConversionSubject.row download).FoundIn profileId payload t := by
      rintro download ⟨htruthy, hfound⟩
      cases hfound.symm.trans (hmissing rfl htruthy)
    dsimp only
    split
    · next lookup defaults hlookup hdefaults =>
      apply ends_pure
      · rfl
      · refine ⟨?_, fun _ => hrows⟩
        intro subject hsubject
        split at hsubject
        · obtain rfl := Option.some.inj hsubject
          exact ⟨hmissing rfl, hlookup, hdefaults⟩
        · cases hsubject
    · apply ends_pure
      · rfl
      · exact ⟨hnone, fun _ => hrows⟩

end

theorem filter_missing {present : Option Node → Bool} {node : Path → Option Node} {paths : List Path}
    (h : [] = paths.filter fun path => !present (node path)) :
    ∀ path ∈ paths, present (node path) = true := by
  intro path hpath
  have hnone := List.filter_eq_nil_iff.1 h.symm path hpath
  rw [Bool.not_eq_true', Bool.not_eq_false] at hnone
  exact hnone

section
variable {host : Host} {permits : Library → {β : Type} → HandlerOp β → Prop} {profileId : String}
  {payload : Columns} {s t : Library} {subject : ConversionSubject} {I : Library → Prop}
  {S : Option Download → Library → Prop} {mediaKind targetExt : String}

/-- The conversion goes on only where no input is missing. -/
theorem ends_convertPresent {sources : ConversionSources} {target : Path} {missing : List Path} (hI : I t)
    (hconvert : missing = [] →
      (convert host profileId payload subject mediaKind targetExt sources target).Meets
        (undisturbed host permits) (Ends I S) t) :
    (convertPresent host profileId payload subject mediaKind targetExt sources target missing).Meets
      (undisturbed host permits) (Ends I S) t := by
  cases missing with
  | nil => exact hconvert rfl
  | cons path paths => exact ends_raise hI _

variable (hpermits : ∀ t, Grown host s t → ∀ {γ : Type} (op : HandlerOp γ), op.Prepares → permits t op)
  (hI : ∀ t, Grown host s t → I t)
  (hskip : ∀ download, (ConversionSubject.row download).FoundIn profileId payload s →
    Skips host payload s download → S (some download) s)
  (hconvert : ∀ subject mediaKind targetExt sources target t,
    ConvertsAs host profileId payload s subject mediaKind targetExt sources target t →
      (convert host profileId payload subject mediaKind targetExt sources target).Meets
        (undisturbed host permits) (Ends I S) t)
include hpermits hI hskip hconvert

theorem undisturbed_convertSources (hfound : subject.FoundIn profileId payload s) {target : Path}
    (hkind : mediaKind = s.conversionKind host payload subject)
    (hext : targetExt = s.conversionExt profileId mediaKind)
    (hexplicit : hasTarget payload = true → target = explicitTarget host payload subject)
    (hnamed : hasTarget payload = false →
      NamedTarget host subject (conversionSources host payload subject).first targetExt target s)
    (hcurrent : ∀ download, subject = .row download →
      host.resolve (host.textOr (some (download.get "file_path")) "") = host.real target →
        s.files.node host target = none)
    (hreal : subject.download.isSome = true → host.real target = target) :
    (convertSources host profileId payload subject mediaKind targetExt
      (conversionSources host payload subject) target).Meets (undisturbed host permits) (Ends I S) s := by
  have hquery (t : Library) (ht : Grown host s t) {γ : Type} (op : HandlerOp γ) (hop : op.IsQuery) :
      permits t op :=
    hpermits t ht op hop.prepares
  have hs := Grown.refl host s
  have hpresent (h : (conversionSources host payload subject).all.filter (fun path =>
      !(s.files.node host path).isSome) = []) :
      (convert host profileId payload subject mediaKind targetExt (conversionSources host payload subject)
        target).Meets (undisturbed host permits) (Ends I S) s := by
    have hinputs : ∀ path ∈ (conversionSources host payload subject).all,
        s.files.node host path ≠ none :=
      fun path hpath => Option.isSome_iff_ne_none.1 (filter_missing h.symm path hpath)
    apply hconvert
    refine ⟨⟨hs, hfound, hinputs, .inl rfl, hexplicit, fun htarget => (hnamed htarget).isDerived, hcurrent⟩,
      hkind, hext, fun htarget => .inl ⟨rfl, rfl, hnamed htarget⟩, ?_⟩
    rintro download rfl ⟨htarget, hnode, hfile | ⟨path, hpath, hgone⟩⟩
    · rw [← hexplicit htarget] at hnode hfile
      exact hnode (hcurrent download rfl (hfile.trans (hreal rfl).symm))
    · exact hinputs path hpath hgone
  have hmissing : Tells (undisturbed host permits) _ s _ :=
    tells_missingPaths (hquery s hs) Option.isSome (conversionSources host payload subject).all
  apply (hmissing.meets_bind_iff fun e => .error (hI s hs) e).2
  cases subject with
  | deferred lookup defaults =>
    exact ends_convertPresent (hI s hs) hpresent
  | row download =>
    apply meets_ite
    · exact fun hnone => ends_convertPresent (hI s hs) hpresent
    · intro hsome
      have hgone : ∃ path ∈ (conversionSources host payload (.row download)).all,
          s.files.node host path = none := by
        obtain ⟨path, hpath⟩ := List.exists_mem_of_ne_nil _ hsome
        obtain ⟨hmem, hgone⟩ := List.mem_filter.1 hpath
        rw [Bool.not_eq_true'] at hgone
        exact ⟨path, hmem, Option.not_isSome_iff_eq_none.1 (ne_true_of_eq_false hgone)⟩
      apply ends_read (reads_node target) (hquery s hs (.node target) trivial) (hI s hs)
      apply meets_ite
      · intro hstands
        have hstands := Option.isSome_iff_ne_none.1 hstands
        apply ends_pure (hI s hs)
        apply hskip download hfound
        cases htarget : hasTarget payload with
        | true =>
          rw [hexplicit htarget] at hstands
          exact ⟨htarget, hstands, .inr hgone⟩
        | false => exact absurd (hnamed htarget).free hstands
      · intro hnone
        have hnone := Option.not_isSome_iff_eq_none.1 hnone
        have hfetched := grown_fetchSources hpermits download (conversionSources host payload (.row download)) hs
        apply Meets.bind hfetched
        · rintro sources t ⟨ht, hsources⟩
          have hsources := hsources sources rfl
          have htarget : (if hasTarget payload then pure target
              else targetPathOf sources.first targetExt : Handler Path).Meets (undisturbed host permits)
              (Ends (fun u => u = t) fun target' _ => (hasTarget payload = true → target' = target) ∧
                (hasTarget payload = false → FreeName host t sources.first targetExt target')) t := by
            apply meets_ite
            · intro htarget
              apply ends_pure
              · rfl
              · refine ⟨fun _ => rfl, ?_⟩
                intro hnot
                rw [htarget] at hnot
                cases hnot
            · intro htarget
              have hop : (HandlerOp.targetPath sources.first targetExt).IsQuery := trivial
              apply ends_perform (hquery t ht _ hop)
              intro reply r _ hrun
              refine ⟨hop.run_eq hrun, ?_⟩
              intro target' ha
              exact ⟨fun h => absurd h htarget, fun _ => targetPath_answer hrun ha⟩
          apply ends_still htarget (hI t ht)
          rintro target' ⟨hsame, hfree⟩
          have hpresent : Tells (undisturbed host permits) _ t _ :=
            tells_missingPaths (hquery t ht) Node.isFile sources.all
          apply (hpresent.meets_bind_iff fun e => .error (hI t ht) e).2
          apply ends_convertPresent (hI t ht)
          · intro hfiles
            apply hconvert
            refine ⟨⟨ht, hfound, ?_, .inr ⟨download, rfl, hgone, hsources⟩, ?_, ?_, ?_⟩, hkind, hext,
              fun htarget => .inr ⟨hgone, hfree htarget⟩, ?_⟩
            · intro path hpath hgone
              have hfile := filter_missing hfiles.symm path hpath
              rw [hgone] at hfile
              cases hfile
            · intro htarget
              rw [hsame htarget]
              exact hexplicit htarget
            · intro htarget
              obtain ⟨hnone, name, hname⟩ := (hfree htarget).spec
              exact ⟨target', name, hname, hnone, .inl rfl⟩
            · intro other hother hfile
              cases htarget : hasTarget payload with
              | true =>
                rw [hsame htarget] at hfile ⊢
                exact hcurrent other hother hfile
              | false => exact ht.of_none (hfree htarget).spec.1
            · rintro other hother ⟨htarget, hstands, -⟩
              rw [← hother, ← hexplicit htarget] at hstands
              exact hstands hnone
        · rintro e t ⟨ht, -⟩
          exact .error (hI t ht) e

theorem undisturbed_convertOnce (hfound : subject.FoundIn profileId payload s) {target : Path}
    (hkind : mediaKind = s.conversionKind host payload subject)
    (hext : targetExt = s.conversionExt profileId mediaKind)
    (hexplicit : hasTarget payload = true → target = explicitTarget host payload subject)
    (hnamed : hasTarget payload = false →
      NamedTarget host subject (conversionSources host payload subject).first targetExt target s)
    (hreal : subject.download.isSome = true → host.real target = target) :
    (convertOnce host profileId payload subject mediaKind targetExt
      (conversionSources host payload subject) target).Meets (undisturbed host permits) (Ends I S) s := by
  have hs := Grown.refl host s
  have hquery {γ : Type} (op : HandlerOp γ) (hop : op.IsQuery) : permits s op :=
    hpermits s hs op hop.prepares
  have hsources (hcurrent : ∀ download, subject = .row download →
      host.resolve (host.textOr (some (download.get "file_path")) "") = host.real target →
        s.files.node host target = none) :
      (convertSources host profileId payload subject mediaKind targetExt
        (conversionSources host payload subject) target).Meets (undisturbed host permits) (Ends I S) s :=
    undisturbed_convertSources hpermits hI hskip hconvert hfound hkind hext hexplicit hnamed hcurrent hreal
  apply ((tells_refreshed hquery hfound).meets_bind_iff fun e => .error (hI s hs) e).2
  cases subject with
  | deferred lookup defaults =>
    apply hsources
    intro download hdownload
    cases hdownload
  | row download =>
    apply meets_ite
    · intro hsame
      apply ends_read (reads_node target) (hpermits s hs (.node target) trivial) (hI s hs)
      apply meets_ite
      · intro hstands
        have hstands := Option.isSome_iff_ne_none.1 hstands
        apply ends_pure (hI s hs)
        apply hskip download hfound
        cases htarget : hasTarget payload with
        | true =>
          rw [hexplicit htarget] at hstands hsame
          exact ⟨htarget, hstands, .inl hsame⟩
        | false => exact absurd (hnamed htarget).free hstands
      · intro hnone
        apply hsources
        intro _ _ _
        exact Option.not_isSome_iff_eq_none.1 hnone
    · intro hother
      apply hsources
      rintro other hrow hfile
      obtain rfl := ConversionSubject.row.inj hrow
      rw [hreal rfl] at hfile
      exact absurd hfile hother

/-- What holds in every library that the preparations of a conversion can leave, and from each of them
through the conversion, holds at the end. -/
theorem undisturbed_postprocess (hlock : ∀ t key owner, I t → permits t (.releaseLock key owner))
    (hnone : (∀ download, ¬ (ConversionSubject.row download).FoundIn profileId payload s) → S none s)
    (parentJobId : String) :
    (postprocessDownloadWithFfmpeg host profileId payload parentJobId).Meets (undisturbed host permits)
      (Ends I S) s := by
  have hs := Grown.refl host s
  have hquery {γ : Type} (op : HandlerOp γ) (hop : op.IsQuery) : permits s op :=
    hpermits s hs op hop.prepares
  apply ends_still (undisturbed_conversionSubject hquery profileId payload) (hI s hs)
  rintro found ⟨hfound, hmissing⟩
  cases found with
  | none => exact ends_pure (hI s hs) (hnone (hmissing rfl))
  | some subject =>
    have hfound := hfound subject rfl
    apply ((tells_conversionKind hquery payload subject).meets_bind_iff fun e => .error (hI s hs) e).2
    apply ((tells_conversionExt hquery profileId _).meets_bind_iff fun e => .error (hI s hs) e).2
    apply ends_still (undisturbed_conversionTarget hquery payload subject _ _) (hI s hs)
    rintro target ⟨hexplicit, hnamed, hreal⟩
    apply ends_call (hpermits s hs (.acquireLock (transcodeLockKey host profileId payload) parentJobId)
      trivial)
    intro reply r _ hrun
    obtain rfl := Option.some.inj hrun
    have hsame : (reply.settle (.ok ((), s)) s).2 = s := reply.settle_ok (P := fun t => t = s) () rfl rfl
    refine ⟨?_, ?_⟩
    · rw [hsame]
      exact hI s hs
    · intro _ _
      rw [hsame]
      apply Meets.tryFinally
        (undisturbed_convertOnce hpermits hI hskip hconvert hfound rfl rfl hexplicit hnamed hreal)
      intro r t hr
      apply meets_perform (hlock t _ _ hr.1)
      rintro r' t' ⟨reply, -, hrun⟩
      have hsame : (reply.settle (.ok ((), t)) t).2 = t := reply.settle_ok (P := fun u => u = t) () rfl rfl
      obtain rfl : t' = t := (congrArg Prod.snd (Option.some.inj hrun)).symm.trans hsame
      exact ⟨fun e _ => .error hr.1 e, fun _ => hr⟩

end

/-- Nothing is changed but that files are gone which are among the sources and are not the target. -/
structure OnlyDeletes (host : Host) (sources : List Path) (target : Path) (s t : Library) : Prop where
  rest : s.ChangesFiles t
  files : ∀ path, t.files.node host path = s.files.node host path ∨
    t.files.node host path = none ∧ Node.isFile (s.files.node host path) = true ∧
      host.real path ∈ sources.map host.real ∧ host.real path ≠ host.real target

section
variable {host : Host} {permits : Library → {β : Type} → HandlerOp β → Prop} {s t : Library}
  {sources : List Path} {target : Path}

theorem OnlyDeletes.unlink {source : Path} {files : Files} (h : OnlyDeletes host sources target s t)
    (hsource : source ∈ sources) (htarget : host.real source ≠ host.real target)
    (hfile : Node.isFile (t.files.node host (host.real source)) = true)
    (hunlink : t.files.unlink host (host.real source) = .ok files) :
    OnlyDeletes host sources target s { t with files } := by
  unfold Files.unlink at hunlink
  split at hunlink
  · cases hunlink
  · obtain rfl := Except.ok.inj hunlink
    constructor
    · obtain ⟨files, rfl⟩ := h.rest
      exact s.changesFiles _
    · intro path
      rw [Files.node_put, host.real_real]
      split
      · next hsame =>
        right
        have hnode : t.files.node host path = t.files.node host (host.real source) := by
          rw [← hsame, Files.node_real]
        refine ⟨rfl, ?_, ?_, ?_⟩
        · rcases h.files path with hkept | ⟨hgone, -⟩
          · rw [← hkept, hnode]
            exact hfile
          · rw [← hnode, hgone] at hfile
            cases hfile
        · rw [hsame]
          exact List.mem_map_of_mem hsource
        · rw [hsame]
          exact htarget
      · exact h.files path

variable (hpermits : ∀ t, OnlyDeletes host sources target s t → ∀ {γ : Type} (op : HandlerOp γ),
  op.Prepares → permits t op)
include hpermits

theorem onlyDeletes_round (h : OnlyDeletes host sources target s t) (deleted : List Path)
    {source : Path} (hsource : source ∈ sources) :
    (deleteFfmpegSourceFile host (host.real target) deleted source).Meets (undisturbed host permits)
      (Ends (OnlyDeletes host sources target s) fun _ _ => True) t := by
  apply ends_read (reads_node _) (hpermits t h (.node (host.real source)) trivial) h
  apply meets_ite
  · intro _
    exact ends_pure h trivial
  · intro hdelete
    obtain ⟨htarget, hfile⟩ := not_or.1 hdelete
    have hfile := Bool.eq_true_of_not_eq_false hfile
    apply ends_bind (S := fun _ _ => True)
    · apply Meets.tryCatch (Q := Ends (OnlyDeletes host sources target s) fun _ _ => True)
      · apply ends_call (hpermits t h (.unlink (host.real source)) trivial)
        intro reply r _ hrun
        obtain rfl := Option.some.inj hrun
        have hunlinked : OnlyDeletes host sources target s
            (reply.settle ((t.files.unlink host (host.real source)).map fun files =>
              ((), { t with files })) t).2 :=
          reply.settle_map _ h fun files hfiles => h.unlink hsource htarget hfile hfiles
        exact ⟨hunlinked, fun _ _ => ends_pure hunlinked trivial⟩
      · exact fun _ _ hr => hr
      · intro e u hu
        exact ends_pure hu.1 trivial
    · intro unlinked u hu _
      apply meets_ite
      · intro _
        apply ends_read (reads_node _) (hpermits u hu (.node (host.real source)) trivial) hu
        exact ends_pure hu trivial
      · intro _
        exact ends_pure hu trivial

/-- What the cleanup after a conversion does. -/
theorem onlyDeletes_deleteFfmpegSourceFiles :
    (deleteFfmpegSourceFiles host sources target).Meets (undisturbed host permits)
      (Ends (OnlyDeletes host sources target s) fun _ _ => True) s := by
  apply Meets.foldlM (I := fun _ t => OnlyDeletes host sources target s t)
  · intro deleted source t hsource h
    apply Meets.mono (onlyDeletes_round hpermits h deleted hsource)
    intro r u hr
    exact ⟨fun _ _ => hr.1, fun e _ => .error hr.1 e⟩
  · intro _ t h
    exact .ok h trivial
  · exact ⟨s.changesFiles s.files, fun _ => .inl rfl⟩

end

/-- The library with a file at the path. -/
def Library.withFile (host : Host) (path : Path) (size : Nat) (s : Library) : Library :=
  { s with files := s.files.put host path (some (.file size)) }

section
variable {host : Host} {permits : Library → {β : Type} → HandlerOp β → Prop} {profileId mediaKind : String}
  {targetExt : String} {payload : Columns} {t : Library} {sources : ConversionSources} {target : Path}
  {I : Library → Prop} {S : Option Download → Library → Prop}
  (hpermits : ∀ u, I u → ∀ {γ : Type} (op : HandlerOp γ), op.Prepares → permits u op)
  (hffmpeg : ∀ command, permits t (.runFfmpeg command sources.all target)) (hI : I t)
  (hafter : ∀ node : Option Node, node ≠ some .directory →
    I { t with files := t.files.put host target node })
include hpermits hffmpeg hI hafter

/-- A conversion that succeeds leaves a file at the target. -/
theorem undisturbed_runConversion :
    (runConversion profileId mediaKind targetExt sources target).Meets (undisturbed host permits)
      (Ends I fun _ u => ∃ size, u = t.withFile host target size) t := by
  have hquery (u : Library) (hu : I u) {γ : Type} (op : HandlerOp γ) (hop : op.IsQuery) : permits u op :=
    hpermits u hu op hop.prepares
  apply ends_asks (asks_totalSize _) (hquery t hI) hI
  intro _
  apply ends_asks (asks_profileSetting _ _ _) (hquery t hI) hI
  intro ffmpegPath
  apply ends_asks _ (hquery t hI) hI
  · intro codecArgs
    apply ends_asks (asks_ffmpegThreadCount _) (hquery t hI) hI
    intro threads
    apply ends_call (hffmpeg _)
    intro reply r hfair hrun
    obtain rfl := Option.some.inj hrun
    have hafter := hafter reply.node hfair
    refine ⟨hafter, ?_⟩
    intro _ _
    apply ends_read (reads_node target) (hquery _ hafter (.node target) trivial) hafter
    apply meets_ite
    · intro _
      exact ends_raise hafter _
    · intro hsome
      apply ends_read (reads_node target) (hquery _ hafter (.node target) trivial) hafter
      rw [Files.node_put, if_pos rfl] at hsome ⊢
      cases hnode : reply.node with
      | none =>
        rw [hnode] at hsome
        exact absurd rfl hsome
      | some node =>
        cases node with
        | directory => exact absurd hnode hfair
        | file size =>
          rw [hnode] at hafter
          exact ends_pure hafter ⟨size, rfl⟩
  · exact yields_ite (fun _ => asks_ffmpegAudioArgs _ _) fun _ => asks_ffmpegVideoArgs _ _ _

/-- From the conversion of a row's media on: what holds of each library in between and in the end. -/
theorem undisturbed_convert_row {download : Download}
    (hsave : ∀ u fields, I u → permits u (.saveDownload download.id fields))
    (hsaved : ∀ size outputRoot outputSize completedAt lastSeenAt downloads u,
      t.downloads.saveFields download.id
        (convertedColumns target outputRoot outputSize completedAt lastSeenAt) = .ok downloads →
      OnlyDeletes host sources.all target { t.withFile host target size with downloads } u →
        I u ∧ S (some ⟨download.id, Json.update
          (convertedColumns target outputRoot outputSize completedAt lastSeenAt) download.columns⟩) u) :
    (convert host profileId payload (.row download) mediaKind targetExt sources target).Meets
      (undisturbed host permits) (Ends I S) t := by
  have hquery (u : Library) (hu : I u) {γ : Type} (op : HandlerOp γ) (hop : op.IsQuery) : permits u op :=
    hpermits u hu op hop.prepares
  apply ends_bind (undisturbed_runConversion hpermits hffmpeg hI hafter)
  rintro outputSize u hu ⟨size, rfl⟩
  apply ends_asks (asks_conversionRoot host profileId payload) (hquery _ hu) hu
  intro outputRoot
  have hnow : Asks (perform .now) := calls_perform trivial
  apply ends_asks hnow (hquery _ hu) hu
  intro completedAt
  apply ends_asks hnow (hquery _ hu) hu
  intro lastSeenAt
  have hsaves : (saveConversion (.row download)
      (convertedColumns target outputRoot outputSize completedAt lastSeenAt)).Meets
      (undisturbed host permits) (Ends I fun saved v => saved = ⟨download.id, Json.update
        (convertedColumns target outputRoot outputSize completedAt lastSeenAt) download.columns⟩ ∧
        ∃ downloads, t.downloads.saveFields download.id
          (convertedColumns target outputRoot outputSize completedAt lastSeenAt) = .ok downloads ∧
            v = { t.withFile host target size with downloads }) (t.withFile host target size) := by
    apply ends_call (hsave _ _ hu)
    intro reply r _ hrun
    rcases HandlerOp.run_saveDownload hrun with ⟨hsame, e, he⟩ | ⟨downloads, hdownloads, hr⟩
    · rw [hsame]
      refine ⟨hu, ?_⟩
      intro _ ha
      rw [he] at ha
      cases ha
    · rw [hr]
      have hv := (hsaved size outputRoot outputSize completedAt lastSeenAt downloads _ hdownloads
        ⟨Library.changesFiles _ _, fun _ => .inl rfl⟩).1
      exact ⟨hv, fun _ _ => ends_pure hv ⟨rfl, downloads, hdownloads, rfl⟩⟩
  apply ends_bind hsaves
  rintro saved v hv ⟨rfl, downloads, hdownloads, rfl⟩
  have hdeletes : ∀ w, OnlyDeletes host sources.all target { t.withFile host target size with downloads } w →
      I w ∧ S (some ⟨download.id, Json.update
        (convertedColumns target outputRoot outputSize completedAt lastSeenAt) download.columns⟩) w :=
    fun w hw => hsaved size outputRoot outputSize completedAt lastSeenAt downloads w hdownloads hw
  have hdeleted : (deleteFfmpegSourceFiles host sources.all target).Meets (undisturbed host permits)
      (Ends (OnlyDeletes host sources.all target { t.withFile host target size with downloads })
        fun _ _ => True) { t.withFile host target size with downloads } :=
    onlyDeletes_deleteFfmpegSourceFiles fun w hw {_} op hop => hpermits w (hdeletes w hw).1 op hop
  apply Meets.bind hdeleted
  · rintro deleted w ⟨hw, -⟩
    exact ends_pure (hdeletes w hw).1 (hdeletes w hw).2
  · rintro e w ⟨hw, -⟩
    exact .error (hdeletes w hw).1 e

end

end GetOffline
