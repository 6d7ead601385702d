import GetOffline.ConversionDeciders

set_option autoImplicit true

namespace GetOffline
open Python Effects Program

/-- A call that starts a conversion. -/
def HandlerOp.IsConversion : HandlerOp β → Prop
  | .runFfmpeg _ _ _ => True
  | _ => False

theorem HandlerOp.IsQuery.not_isConversion {op : HandlerOp β} (h : op.IsQuery) : ¬ op.IsConversion := by
  cases op with
  | runFfmpeg command inputs output => exact h.elim
  | _ => exact not_false

/-- No conversion is to be started. -/
abbrev idle (host : Host) : Contract HandlerOp Error Library :=
  undisturbed host fun _ {_} op => ¬ op.IsConversion

/-- The rows of the downloads and the files are the same ones. -/
def Library.SameMedia (s t : Library) : Prop :=
  t.downloads = s.downloads ∧ t.files = s.files

theorem Library.SameMedia.refl (s : Library) : s.SameMedia s :=
  ⟨rfl, rfl⟩

/-- However the handler runs, it starts no conversion and leaves the rows and the files as they are. -/
def DoesNothing (host : Host) (p : Handler α) (t : Library) : Prop :=
  p.Meets (idle host) (fun _ u => t.SameMedia u) t

section
variable {host : Host} {t : Library} {p : Handler α} {f : α → Handler β}

theorem idle_query {γ : Type} (op : HandlerOp γ) (hop : op.IsQuery) : ¬ op.IsConversion :=
  hop.not_isConversion

theorem doesNothing_pure (a : α) : DoesNothing host (pure a) t :=
  meets_pure.2 (.refl t)

theorem doesNothing_raise (e : Error) : DoesNothing host (raise e : Handler α) t :=
  meets_raise.2 (.refl t)

theorem doesNothing_tells (h : Tells (idle host) p t a) :
    DoesNothing host (p >>= f) t ↔ DoesNothing host (f a) t :=
  h.meets_bind_iff fun _ => .refl t

/-- What can be reached without a conversion leaves the rows and the files as they are. -/
theorem DoesNothing.steps {q : Handler α} (h : DoesNothing host p t) (hsteps : Steps (idle host) p t q u) :
    q.Meets (idle host) (fun _ u => t.SameMedia u) u :=
  Meets.steps h hsteps fun _ _ _ _ hnext => hnext

end

/-- No call is a conversion until the program ends. -/
def Permitted (host : Host) (p : Handler α) (t : Library) : Prop :=
  p.Meets (idle host) (fun _ _ => True) t

section
variable {host : Host} {t : Library} {p : Handler α} {f : α → Handler β}

theorem permitted_tells (h : Tells (idle host) p t a) :
    Permitted host (p >>= f) t ↔ Permitted host (f a) t :=
  h.meets_bind_iff fun _ => trivial

theorem permitted_of_bind (h : Permitted host (p >>= f) t) : Permitted host p t := by
  unfold Permitted at h ⊢
  induction p generalizing t with
  | done a => exact meets_pure.2 trivial
  | raise e => exact meets_raise.2 trivial
  | call op k ih =>
    obtain ⟨hop, hk⟩ := meets_call.1 h
    exact meets_call.2 ⟨hop, fun r u hu => ih r (hk r u hu)⟩

theorem DoesNothing.permitted (h : DoesNothing host p t) : Permitted host p t :=
  Meets.mono h fun _ _ _ => trivial

theorem not_permitted_conversion {command : List String} {inputs : List Path} {output : Path}
    {f : Unit → Handler β} : ¬ Permitted host (perform (.runFfmpeg command inputs output) >>= f) t :=
  fun h => (meets_call.1 (permitted_of_bind h)).1 trivial

theorem tells_fileSize {path : Path} (h : t.files.node host path ≠ none) :
    ∃ size, Tells (idle host) (fileSize path) t size := by
  have hnode : Tells (idle host) _ t _ := tells_node idle_query path
  cases hfound : t.files.node host path with
  | none => exact absurd hfound h
  | some node =>
    rw [hfound] at hnode
    cases node with
    | file size => exact ⟨size, hnode.bind (tells_pure size)⟩
    | directory => exact ⟨0, hnode.bind (tells_pure 0)⟩

theorem tells_totalSize {paths : List Path} (h : ∀ path ∈ paths, t.files.node host path ≠ none) :
    ∃ size, Tells (idle host) (totalSize paths) t size := by
  have hfrom (total : Nat) : ∃ size, Tells (idle host) (paths.foldlM (fun total path => do
      let size ← fileSize path
      return total + size) total) t size := by
    induction paths generalizing total with
    | nil => exact ⟨total, tells_pure total⟩
    | cons path paths ih =>
      obtain ⟨size, hsize⟩ := tells_fileSize (h path List.mem_cons_self)
      obtain ⟨rest, hrest⟩ := ih (fun path hpath => h path (List.mem_cons_of_mem _ hpath)) (total + size)
      rw [List.foldlM_cons]
      exact ⟨rest, (hsize.bind (tells_pure (total + size))).bind hrest⟩
  exact hfrom 0

theorem tells_ffmpegThreadCount (profileId : String) :
    ∃ threads, Tells (idle host) (ffmpegThreadCount profileId) t threads := by
  have hsetting : Tells (idle host) _ t _ := tells_profileSetting idle_query profileId "ffmpeg_threads" "1"
  rw [ffmpegThreadCount]
  generalize t.workerSetting profileId "ffmpeg_threads" "1" = value at hsetting
  cases hcount : intOfText (if strip value = "" then "1" else strip value) with
  | ok count =>
    refine ⟨toString (max 1 count), hsetting.bind ?_⟩
    simp only [hcount]
    exact tells_pure _
  | error e =>
    refine ⟨"1", hsetting.bind ?_⟩
    simp only [hcount]
    exact tells_pure _

theorem tells_codecArgs (profileId mediaKind targetExt : String) (inputCount : Nat) :
    ∃ args, Tells (idle host) (if mediaKind = "audio" then ffmpegAudioArgs profileId targetExt
      else ffmpegVideoArgs profileId targetExt inputCount) t args := by
  obtain ⟨threads, hthreads⟩ : ∃ threads, Tells (idle host) (ffmpegThreadCount profileId) t threads :=
    tells_ffmpegThreadCount profileId
  have hsetting (key default : String) : Tells (idle host) _ t _ :=
    tells_profileSetting idle_query profileId key default
  split
  · exact ⟨_, (hsetting _ _).bind ((hsetting _ _).bind (hthreads.bind (tells_pure _)))⟩
  · exact ⟨_, (tells_videoCodec idle_query profileId).bind (hthreads.bind (tells_pure _))⟩

/-- Where the inputs are there, a conversion starts. -/
theorem not_permitted_convert {subject : ConversionSubject} {sources : ConversionSources}
    (profileId : String) (payload : Columns) (mediaKind targetExt : String) (target : Path)
    (hinputs : ∀ path ∈ sources.all, t.files.node host path ≠ none) :
    ¬ Permitted host (convert host profileId payload subject mediaKind targetExt sources target) t := by
  intro h
  have hrun : Permitted host (runConversion profileId mediaKind targetExt sources target) t :=
    permitted_of_bind h
  obtain ⟨total, htotal⟩ := tells_totalSize hinputs
  obtain ⟨args, hargs⟩ : ∃ args, Tells (idle host) _ t args :=
    tells_codecArgs profileId mediaKind targetExt sources.all.length
  obtain ⟨threads, hthreads⟩ : ∃ threads, Tells (idle host) (ffmpegThreadCount profileId) t threads :=
    tells_ffmpegThreadCount profileId
  have hpath : Tells (idle host) _ t _ := tells_profileSetting idle_query profileId "ffmpeg_path" "ffmpeg"
  rw [runConversion, permitted_tells htotal, permitted_tells hpath, permitted_tells hargs,
    permitted_tells hthreads] at hrun
  exact not_permitted_conversion hrun

end

-- Fetching the inputs

/-- The program only raises, and leaves the rows and the files as they are. -/
def Raises (host : Host) (p : Handler α) (t : Library) : Prop :=
  p.Meets (idle host) (fun r u => t.SameMedia u ∧ ∀ a, r ≠ .ok a) t

/-- The program can raise after it has changed the rows or the files. -/
def Disturbs (host : Host) (p : Handler α) (t : Library) : Prop :=
  ∃ e u, Steps (idle host) p t (raise e) u ∧ ¬ t.SameMedia u

section
variable {host : Host} {t : Library} {p : Handler α} {f : α → Handler β}

theorem raises_raise (e : Error) : Raises host (raise e : Handler α) t := by
  apply meets_raise.2
  refine ⟨.refl t, ?_⟩
  intro a ha
  cases ha

theorem Raises.bind (h : Raises host p t) (f : α → Handler β) : Raises host (p >>= f) t := by
  apply Meets.bind h
  · intro a u hu
    exact absurd rfl (hu.2 a)
  · intro e u hu
    refine ⟨hu.1, ?_⟩
    intro b hb
    cases hb

theorem raises_tells (h : Tells (idle host) p t a) : Raises host (p >>= f) t ↔ Raises host (f a) t := by
  apply h.meets_bind_iff
  intro e
  refine ⟨.refl t, ?_⟩
  intro b hb
  cases hb

theorem Disturbs.bind (h : Disturbs host p t) (f : α → Handler β) : Disturbs host (p >>= f) t := by
  obtain ⟨e, u, hsteps, hu⟩ := h
  exact ⟨e, u, hsteps.bind f, hu⟩

theorem disturbs_tells (h : Tells (idle host) p t a) (hf : Disturbs host (f a) t) :
    Disturbs host (p >>= f) t := by
  obtain ⟨e, u, hsteps, hu⟩ := hf
  exact ⟨e, u, (h.can.bind f).trans hsteps, hu⟩

theorem Disturbs.not_doesNothing (h : Disturbs host p t) : ¬ DoesNothing host p t := by
  obtain ⟨e, u, hsteps, hu⟩ := h
  exact fun hnothing => hu (meets_raise.1 (hnothing.steps hsteps))

/-- A call that changes the files and then raises. -/
theorem disturbs_call {op : HandlerOp α} {reply : Reply} {e : Error} {path : Path} {node : Node}
    (hfair : op.Fair reply) (hfree : t.files.node host path = none)
    (hrun : op.run host reply t =
      some (.error e, { t with files := t.files.put host path (some node) })) :
    Disturbs host (perform op >>= f) t := by
  refine ⟨e, _, .call ⟨reply, hfair, hrun⟩ (.refl _ _), ?_⟩
  rintro ⟨-, hfiles⟩
  have hnode := congrArg (Files.node host path) hfiles
  rw [Files.node_put, if_pos rfl, hfree] at hnode
  cases hnode

end

/-- What stands for an input when the ones that are not files are fetched from the cache. -/
def fetchedPath (host : Host) (download : Download) (t : Library) (path : Path) : Path :=
  if Node.isFile (t.files.node host path) then path else cachePath host download

def fetchedSources (host : Host) (download : Download) (t : Library) (sources : ConversionSources) :
    ConversionSources :=
  ⟨fetchedPath host download t sources.first, sources.rest.map (fetchedPath host download t)⟩

/-- There is a token, and the directory in the cache can be made or a file can be put into it. -/
def CanReceive (host : Host) (download : Download) (t : Library) : Prop :=
  strip host.apiToken ≠ "" ∧ (t.files.node host (cachePath host download).parent = none ∨
    t.files.node host (cachePath host download).parent = some .directory ∧
      ∃ path, t.files.node host path = none ∧ path.parent = (cachePath host download).parent)

section
variable {host : Host} {download : Download} {t : Library} {path : Path}

theorem tells_fetchSource_file (h : Node.isFile (t.files.node host path) = true) :
    Tells (idle host) (fetchSource host download path) t path := by
  have hread : Tells (idle host) _ t _ := tells_node idle_query path
  apply hread.bind
  rw [if_pos h]
  exact tells_pure path

theorem tells_fetchSource (hcached : Node.isFile (t.files.node host (cachePath host download)) = true)
    (path : Path) :
    Tells (idle host) (fetchSource host download path) t (fetchedPath host download t path) := by
  have hread (path : Path) : Tells (idle host) _ t _ := tells_node idle_query path
  apply (hread path).bind
  apply tells_ite
  · exact fun _ => tells_pure path
  · intro hnot
    apply (hread path).bind
    rw [if_neg hnot]
    apply (hread _).bind
    rw [if_pos hcached]
    exact tells_pure _

theorem foldl_snoc {g : α → β} (as : List α) (bs : List β) :
    as.foldl (fun bs a => bs ++ [g a]) bs = bs ++ as.map g := by
  induction as generalizing bs with
  | nil => exact (List.append_nil bs).symm
  | cons a as ih =>
    rw [List.foldl_cons, ih, List.append_assoc]
    rfl

theorem tells_fetchSources (hcached : Node.isFile (t.files.node host (cachePath host download)) = true)
    (sources : ConversionSources) :
    Tells (idle host) (fetchSources host download sources) t (fetchedSources host download t sources) := by
  apply (tells_fetchSource hcached sources.first).bind
  have hround : ∀ rest, ∀ path ∈ sources.rest, Tells (idle host) (do
        let path ← fetchSource host download path
        return rest ++ [path] : Handler (List Path)) t (rest ++ [fetchedPath host download t path]) :=
    fun rest path _ => (tells_fetchSource hcached path).bind (tells_pure _)
  have hrest := Tells.foldlM hround []
  rw [foldl_snoc] at hrest
  exact hrest.bind (tells_pure _)

/-- What is not a file has to come from the API. -/
theorem ensureLocalMedia_api (hpath : Node.isFile (t.files.node host path) = false)
    (hcached : Node.isFile (t.files.node host (cachePath host download)) = false) :
    (Raises host (downloadFromApi host download (cachePath host download)) t →
        Raises host (fetchSource host download path) t) ∧
      (Disturbs host (downloadFromApi host download (cachePath host download)) t →
        Disturbs host (fetchSource host download path) t) := by
  have hread (path : Path) : Tells (idle host) _ t _ := tells_node idle_query path
  have hnot := Bool.eq_false_iff.1 hpath
  have hgone := Bool.eq_false_iff.1 hcached
  constructor
  · intro h
    apply (raises_tells (hread path)).2
    rw [if_neg hnot]
    apply (raises_tells (hread path)).2
    rw [if_neg hnot]
    apply (raises_tells (hread _)).2
    rw [if_neg hgone]
    exact h
  · intro h
    apply disturbs_tells (hread path)
    rw [if_neg hnot]
    apply disturbs_tells (hread path)
    rw [if_neg hnot]
    apply disturbs_tells (hread _)
    rw [if_neg hgone]
    exact h

theorem tells_mkdir (hparent : t.files.node host path = some .directory) :
    Tells (idle host) (perform (.mkdir path)) t () := by
  have hfair : (HandlerOp.mkdir path).Fair {} := trivial
  apply tells_settle not_false hfair
  intro reply
  rw [HandlerOp.run, Files.mkdir, hparent]
  rfl

theorem raises_mkdir {size : Nat} (hparent : t.files.node host path = some (.file size)) :
    Raises host (perform (.mkdir path)) t := by
  apply meets_perform not_false
  rintro r u ⟨reply, -, hrun⟩
  rw [HandlerOp.run, Files.mkdir, hparent] at hrun
  have hr : reply.settle (.error (.other "FileExistsError") : Except Error (Unit × Library)) t = (r, u) :=
    Option.some.inj hrun
  rcases reply.settle_cases (.error (.other "FileExistsError") : Except Error (Unit × Library)) t with
    ⟨hsame, e, he⟩ | ⟨_, _, hresult, -⟩
  · rw [hr] at hsame he
    dsimp only at hsame he
    rw [hsame, he]
    refine ⟨.refl t, ?_⟩
    intro a ha
    cases ha
  · cases hresult

theorem raises_downloadFromApi (h : ¬ CanReceive host download t) :
    Raises host (downloadFromApi host download (cachePath host download)) t := by
  rw [downloadFromApi]
  split
  · exact raises_raise _
  · next htoken =>
    cases hparent : t.files.node host (cachePath host download).parent with
    | none => exact absurd ⟨htoken, .inl hparent⟩ h
    | some node =>
      cases node with
      | file size => exact (raises_mkdir hparent).bind _
      | directory =>
        apply (raises_tells (tells_mkdir hparent)).2
        -- no name is free for a temporary file
        apply Raises.bind
        apply meets_perform not_false
        rintro r u ⟨reply, -, hrun⟩
        obtain ⟨⟨hfree, hname⟩, -⟩ := Option.ite_none_right_eq_some.1 hrun
        exact absurd ⟨htoken, .inr ⟨hparent, reply.path, Option.isNone_iff_eq_none.1 hfree, hname⟩⟩ h

theorem disturbs_downloadFromApi (h : CanReceive host download t) :
    Disturbs host (downloadFromApi host download (cachePath host download)) t := by
  obtain ⟨htoken, hparent⟩ := h
  rw [downloadFromApi, if_neg htoken]
  rcases hparent with hnone | ⟨hparent, temporary, hfree, hname⟩
  · have hrun : (HandlerOp.mkdir (cachePath host download).parent).run host { outcome := .lost "" } t =
        some (.error (.other ""), { t with
          files := t.files.put host (cachePath host download).parent (some .directory) }) := by
      rw [HandlerOp.run, Files.mkdir, hnone]
      rfl
    exact disturbs_call trivial hnone hrun
  · apply disturbs_tells (tells_mkdir hparent)
    have hrun : (HandlerOp.makeTemporary (cachePath host download)).run host
          { outcome := .lost "", path := temporary } t =
        some (.error (.other ""), { t with files := t.files.put host temporary (some (.file 0)) }) :=
      if_pos ⟨Option.isNone_iff_eq_none.2 hfree, hname⟩
    exact disturbs_call trivial hfree hrun

/-- A round of the loop over the inputs but the first. -/
theorem fetchRest_cases (hcached : Node.isFile (t.files.node host (cachePath host download)) = false)
    (rest paths : List Path) (h : ∃ path ∈ paths, Node.isFile (t.files.node host path) = false) :
    (¬ CanReceive host download t → Raises host (paths.foldlM (fun rest path => do
        let path ← fetchSource host download path
        return rest ++ [path]) rest) t) ∧
      (CanReceive host download t → Disturbs host (paths.foldlM (fun rest path => do
        let path ← fetchSource host download path
        return rest ++ [path]) rest) t) := by
  induction paths generalizing rest with
  | nil =>
    obtain ⟨path, hpath, -⟩ := h
    exact absurd hpath List.not_mem_nil
  | cons path paths ih =>
    rw [List.foldlM_cons]
    cases hfile : Node.isFile (t.files.node host path) with
    | false =>
      obtain ⟨hraises, hdisturbs⟩ := ensureLocalMedia_api hfile hcached
      constructor
      · intro hnot
        exact ((hraises (raises_downloadFromApi hnot)).bind _).bind _
      · intro hcan
        exact ((hdisturbs (disturbs_downloadFromApi hcan)).bind _).bind _
    | true =>
      have hround : Tells (idle host) (do
          let path ← fetchSource host download path
          return rest ++ [path] : Handler (List Path)) t (rest ++ [path]) :=
        (tells_fetchSource_file hfile).bind (tells_pure _)
      have hmissing : ∃ path ∈ paths, Node.isFile (t.files.node host path) = false := by
        obtain ⟨other, hother, hgone⟩ := h
        rcases List.mem_cons.1 hother with rfl | hother
        · rw [hfile] at hgone
          cases hgone
        · exact ⟨other, hother, hgone⟩
      obtain ⟨hraises, hdisturbs⟩ := ih (rest ++ [path]) hmissing
      exact ⟨fun hnot => (raises_tells hround).2 (hraises hnot),
        fun hcan => disturbs_tells hround (hdisturbs hcan)⟩

theorem fetchSources_cases (hcached : Node.isFile (t.files.node host (cachePath host download)) = false)
    {sources : ConversionSources} (h : ∃ path ∈ sources.all, Node.isFile (t.files.node host path) = false) :
    (¬ CanReceive host download t → Raises host (fetchSources host download sources) t) ∧
      (CanReceive host download t → Disturbs host (fetchSources host download sources) t) := by
  cases hfile : Node.isFile (t.files.node host sources.first) with
  | false =>
    obtain ⟨hraises, hdisturbs⟩ := ensureLocalMedia_api hfile hcached
    exact ⟨fun hnot => (hraises (raises_downloadFromApi hnot)).bind _,
      fun hcan => (hdisturbs (disturbs_downloadFromApi hcan)).bind _⟩
  | true =>
    have hmissing : ∃ path ∈ sources.rest, Node.isFile (t.files.node host path) = false := by
      obtain ⟨other, hother, hgone⟩ := h
      rcases List.mem_cons.1 hother with rfl | hother
      · rw [hfile] at hgone
        cases hgone
      · exact ⟨other, hother, hgone⟩
    obtain ⟨hraises, hdisturbs⟩ := fetchRest_cases hcached [] sources.rest hmissing
    exact ⟨fun hnot => (raises_tells (tells_fetchSource_file hfile)).2 ((hraises hnot).bind _),
      fun hcan => disturbs_tells (tells_fetchSource_file hfile) ((hdisturbs hcan).bind _)⟩

end

-- The run from its start

section
variable {host : Host} {t : Library} {source path target : Path} {profileId targetExt mediaKind : String}
  {payload : Columns} {subject : ConversionSubject} {download : Download} {sources : ConversionSources}

theorem tells_targetPathOf (h : FreeName host t source targetExt path) :
    Tells (idle host) (targetPathOf source targetExt) t path := by
  have hop : (HandlerOp.targetPath source targetExt).IsQuery := trivial
  apply tells_perform hop.not_isConversion
  · rintro r u ⟨reply, -, hrun⟩
    refine ⟨hop.run_eq hrun, ?_⟩
    intro path' ha
    exact (targetPath_answer hrun ha).unique h
  · obtain ⟨rounds, hrounds⟩ := h
    refine ⟨{ rounds := rounds }, trivial, ?_⟩
    rw [HandlerOp.run, hrounds]
    rfl

theorem raises_targetPathOf (h : ¬ ∃ path, FreeName host t source targetExt path) :
    Raises host (targetPathOf source targetExt) t := by
  have hop : (HandlerOp.targetPath source targetExt).IsQuery := trivial
  apply meets_perform hop.not_isConversion
  rintro r u ⟨reply, -, hrun⟩
  refine ⟨?_, ?_⟩
  · rw [show u = t from hop.run_eq hrun]
    exact .refl t
  · intro path ha
    exact h ⟨path, targetPath_answer hrun ha⟩

theorem Raises.doesNothing {p : Handler α} (h : Raises host p t) : DoesNothing host p t :=
  Meets.mono h fun _ _ hu => hu.1

theorem filter_missing_eq_nil {node : Path → Option Node} {present : Option Node → Bool} {paths : List Path} :
    (paths.filter fun path => !present (node path)) = [] ↔ ∀ path ∈ paths, present (node path) = true := by
  simp only [List.filter_eq_nil_iff, Bool.not_eq_true, Bool.not_eq_false']

/-- A conversion whose inputs are looked for. -/
theorem doesNothing_convertPresent {missing : List Path}
    (hinputs : missing = [] → ∀ path ∈ sources.all, t.files.node host path ≠ none) :
    DoesNothing host (convertPresent host profileId payload subject mediaKind targetExt sources target missing) t
      ↔ missing ≠ [] := by
  cases missing with
  | nil =>
    refine iff_of_false ?_ fun h => h rfl
    exact fun h => not_permitted_convert _ _ _ _ _ (hinputs rfl) h.permitted
  | cons path paths => exact iff_of_true (doesNothing_raise _) (List.cons_ne_nil path paths)

theorem doesNothing_convertSources_deferred {lookup defaults : Columns} :
    DoesNothing host (convertSources host profileId payload (.deferred lookup defaults) mediaKind targetExt
      sources target) t ↔ ¬ ∀ path ∈ sources.all, t.files.node host path ≠ none := by
  have hmissing : Tells (idle host) _ t _ := tells_missingPaths idle_query Option.isSome sources.all
  rw [convertSources, doesNothing_tells hmissing, doesNothing_convertPresent, ne_eq, filter_missing_eq_nil]
  · simp only [Option.isSome_iff_ne_none]
  · intro hnone path hpath
    exact Option.isSome_iff_ne_none.1 (filter_missing_eq_nil.1 hnone path hpath)

/-- The inputs are there, or can be fetched for a conversion, or at least the attempt leaves something. -/
def CanStart (host : Host) (download : Download) (t : Library) (sources : ConversionSources)
    (targetExt : String) : Prop :=
  (∀ path ∈ sources.all, t.files.node host path ≠ none) ∨
    (Node.isFile (t.files.node host (cachePath host download)) = true ∧
      ∃ path, FreeName host t (fetchedSources host download t sources).first targetExt path) ∨
    (Node.isFile (t.files.node host (cachePath host download)) = false ∧ CanReceive host download t)

theorem isFile_fetchedPath (hcached : Node.isFile (t.files.node host (cachePath host download)) = true)
    (path : Path) : Node.isFile (t.files.node host (fetchedPath host download t path)) = true := by
  rw [fetchedPath]
  split
  · next hfile => exact hfile
  · exact hcached

theorem isFile_fetchedSources (hcached : Node.isFile (t.files.node host (cachePath host download)) = true)
    (sources : ConversionSources) : ∀ path ∈ (fetchedSources host download t sources).all,
      Node.isFile (t.files.node host path) = true := by
  rw [ConversionSources.all, fetchedSources, List.forall_mem_cons, List.forall_mem_map]
  exact ⟨isFile_fetchedPath hcached _, fun path _ => isFile_fetchedPath hcached path⟩

/-- Under the lock, for a row whose target is not there yet. -/
theorem doesNothing_convertSources_row (hfree : t.files.node host target = none)
    (htarget : hasTarget payload = false) :
    DoesNothing host (convertSources host profileId payload (.row download) mediaKind targetExt sources
      target) t ↔ ¬ CanStart host download t sources targetExt := by
  have hmissing : Tells (idle host) _ t _ := tells_missingPaths idle_query Option.isSome sources.all
  have hnode : Tells (idle host) _ t _ := tells_node idle_query target
  rw [convertSources, doesNothing_tells hmissing]
  dsimp only
  by_cases hall : ∀ path ∈ sources.all, t.files.node host path ≠ none
  · have hnone : (sources.all.filter fun path => !(t.files.node host path).isSome) = [] :=
      filter_missing_eq_nil.2 fun path hpath => Option.isSome_iff_ne_none.2 (hall path hpath)
    rw [if_pos hnone, doesNothing_convertPresent fun _ => hall, hnone]
    exact iff_of_false (fun h => h rfl) fun h => h (.inl hall)
  · have hsome : ¬ (sources.all.filter fun path => !(t.files.node host path).isSome) = [] :=
      fun hnone => hall fun path hpath => Option.isSome_iff_ne_none.1 (filter_missing_eq_nil.1 hnone path hpath)
    rw [if_neg hsome, doesNothing_tells hnode, hfree, Option.isSome_none,
      if_neg Bool.false_ne_true, CanStart, or_iff_right hall]
    cases hcached : Node.isFile (t.files.node host (cachePath host download)) with
    | true =>
      rw [doesNothing_tells (tells_fetchSources hcached sources), htarget]
      by_cases hname : ∃ path, FreeName host t (fetchedSources host download t sources).first targetExt path
      · have hfiles := isFile_fetchedSources hcached sources
        have hpresent : Tells (idle host) _ t _ :=
          tells_missingPaths idle_query Node.isFile (fetchedSources host download t sources).all
        obtain ⟨path, hpath⟩ := hname
        rw [if_neg Bool.false_ne_true, doesNothing_tells (tells_targetPathOf hpath), doesNothing_tells hpresent,
          filter_missing_eq_nil.2 hfiles]
        refine iff_of_false ?_ fun h => h (.inl ⟨rfl, path, hpath⟩)
        rw [doesNothing_convertPresent]
        · exact fun h => h rfl
        · intro _ path hpath hnone
          have hfile := hfiles path hpath
          rw [hnone] at hfile
          cases hfile
      · rw [if_neg Bool.false_ne_true]
        refine iff_of_true ((raises_targetPathOf hname).bind _).doesNothing ?_
        rintro (⟨-, hfound⟩ | ⟨hnot, -⟩)
        · exact hname hfound
        · cases hnot
    | false =>
      have hgone : ∃ path ∈ sources.all, Node.isFile (t.files.node host path) = false := by
        obtain ⟨path, hpath, hnone⟩ : ∃ path ∈ sources.all, t.files.node host path = none := by
          simpa only [ne_eq, not_forall, not_not, exists_prop] using hall
        refine ⟨path, hpath, ?_⟩
        rw [hnone]
        rfl
      obtain ⟨hraises, hdisturbs⟩ := fetchSources_cases hcached hgone
      by_cases hcan : CanReceive host download t
      · exact iff_of_false ((hdisturbs hcan).bind _).not_doesNothing fun h => h (.inr ⟨rfl, hcan⟩)
      · refine iff_of_true ((hraises hcan).bind _).doesNothing ?_
        rintro (⟨hnot, -⟩ | ⟨-, hreceive⟩)
        · cases hnot
        · exact hcan hreceive

end

-- The whole run

/-- A run for the subject starts a conversion, or changes something on the way to it, unless the target that
the payload names is there already. -/
def ConvertsAgain (host : Host) (profileId : String) (payload : Columns) (t : Library) :
    ConversionSubject → Prop
  | .row download =>
    let sources := conversionSources host payload (.row download)
    let targetExt := t.conversionExt profileId (t.preferredMediaKind host download payload)
    hasTarget payload = false ∧ (∃ path, FreeName host t sources.first targetExt path) ∧
      CanStart host download t sources targetExt
  | .deferred lookup defaults =>
    let sources := conversionSources host payload (.deferred lookup defaults)
    let targetExt := t.conversionExt profileId (t.conversionKind host payload (.deferred lookup defaults))
    ((Json.get "source_file_path" payload).getD .null).truthy = true ∧
      (hasTarget payload = true ∨ ∃ path, FreeName host t sources.first targetExt path) ∧
        ∀ path ∈ sources.all, t.files.node host path ≠ none

section
variable {host : Host} {t : Library} {profileId targetExt mediaKind parentJobId : String} {payload : Columns}
  {subject : ConversionSubject} {download : Download} {source path target : Path}

theorem ConversionSubject.FoundIn.eq {subject subject' : ConversionSubject}
    (h : subject.FoundIn profileId payload t) (h' : subject'.FoundIn profileId payload t) :
    subject' = subject := by
  cases subject with
  | row download => exact h.unique h'
  | deferred lookup defaults =>
    cases subject' with
    | row download => exact (h'.unique h).symm
    | deferred lookup' defaults' =>
      rw [Option.some.inj (h.2.1.symm.trans h'.2.1), Option.some.inj (h.2.2.symm.trans h'.2.2)]

theorem tells_conversionSubject_row (h : (ConversionSubject.row download).FoundIn profileId payload t) :
    Tells (idle host) (conversionSubject profileId payload) t (some (.row download)) :=
  (tells_refreshed idle_query h).bind (tells_pure _)

theorem tells_conversionSubject_deferred {lookup defaults : Columns}
    (h : (ConversionSubject.deferred lookup defaults).FoundIn profileId payload t) :
    Tells (idle host) (conversionSubject profileId payload) t
      (if ((Json.get "source_file_path" payload).getD .null).truthy then some (.deferred lookup defaults)
      else none) := by
  apply (tells_refreshed idle_query h).bind
  dsimp only [ConversionSubject.download]
  rw [h.2.1, h.2.2]
  exact tells_pure _

theorem tells_conversionTarget_explicit (htarget : hasTarget payload = true) :
    Tells (idle host) (conversionTarget host payload subject source targetExt) t
      (explicitTarget host payload subject) := by
  rw [conversionTarget, if_pos htarget]
  exact (tells_pure _).bind (tells_pure _)

theorem tells_conversionTarget_derived (htarget : hasTarget payload = false)
    (h : FreeName host t source targetExt path) :
    Tells (idle host) (conversionTarget host payload subject source targetExt) t
      (if subject.download.isSome then host.real path else path) := by
  rw [conversionTarget, htarget, if_neg Bool.false_ne_true]
  exact (tells_targetPathOf h).bind (tells_pure _)

theorem raises_conversionTarget (htarget : hasTarget payload = false)
    (h : ¬ ∃ path, FreeName host t source targetExt path) :
    Raises host (conversionTarget host payload subject source targetExt) t := by
  rw [conversionTarget, htarget, if_neg Bool.false_ne_true]
  exact (raises_targetPathOf h).bind _

/-- The lock comes and goes without a trace. -/
theorem doesNothing_withTranscodeLock {body : Handler α} :
    DoesNothing host (withTranscodeLock host profileId payload parentJobId body) t ↔
      DoesNothing host body t := by
  have hacquire : Tells (idle host)
      (perform (.acquireLock (transcodeLockKey host profileId payload) parentJobId)) t () :=
    tells_settle not_false trivial fun _ => rfl
  have hrelease (u : Library) : Tells (idle host)
      (perform (.releaseLock (transcodeLockKey host profileId payload) parentJobId)) u () :=
    tells_settle not_false trivial fun _ => rfl
  rw [withTranscodeLock, doesNothing_tells hacquire]
  apply meets_tryFinally_iff
  intro r u
  constructor
  · intro h
    have hend := h.steps ((hrelease u).can.bind fun _ => ofExcept r) fun _ _ _ _ hnext => hnext
    cases r with
    | ok a => exact meets_pure.1 hend
    | error e => exact meets_raise.1 hend
  · intro hu
    apply ((hrelease u).meets_bind_iff fun _ => hu).2
    cases r with
    | ok a => exact meets_pure.2 hu
    | error e => exact meets_raise.2 hu

variable {sources : ConversionSources}

theorem doesNothing_convertOnce_row (h : (ConversionSubject.row download).FoundIn profileId payload t)
    (hfree : t.files.node host target = none) :
    DoesNothing host (convertOnce host profileId payload (.row download) mediaKind targetExt sources target) t ↔
      DoesNothing host
        (convertSources host profileId payload (.row download) mediaKind targetExt sources target) t := by
  have hnode : Tells (idle host) _ t _ := tells_node idle_query target
  rw [convertOnce, doesNothing_tells (tells_refreshed idle_query h)]
  dsimp only [ConversionSubject.download]
  split
  · rw [doesNothing_tells hnode, hfree, Option.isSome_none, if_neg Bool.false_ne_true]
  · exact Iff.rfl

theorem doesNothing_convertOnce_deferred {lookup defaults : Columns}
    (h : (ConversionSubject.deferred lookup defaults).FoundIn profileId payload t) :
    DoesNothing host
        (convertOnce host profileId payload (.deferred lookup defaults) mediaKind targetExt sources target) t ↔
      ¬ ∀ path ∈ sources.all, t.files.node host path ≠ none := by
  rw [convertOnce, doesNothing_tells (tells_refreshed idle_query h)]
  exact doesNothing_convertSources_deferred

/-- What has been converted already is not converted again. -/
theorem doesNothing_convertOnce_skips (h : (ConversionSubject.row download).FoundIn profileId payload t)
    (hskips : Skips host payload t download) :
    DoesNothing host (convertOnce host profileId payload (.row download) mediaKind targetExt
      (conversionSources host payload (.row download)) (explicitTarget host payload (.row download))) t := by
  obtain ⟨-, hstands, hdone⟩ := hskips
  have hstands := Option.isSome_iff_ne_none.2 hstands
  have hnode : Tells (idle host) _ t _ := tells_node idle_query (explicitTarget host payload (.row download))
  rw [convertOnce, doesNothing_tells (tells_refreshed idle_query h)]
  dsimp only [ConversionSubject.download]
  split
  · rw [doesNothing_tells hnode, if_pos hstands]
    exact doesNothing_pure _
  · next hother =>
    obtain ⟨path, hpath, hgone⟩ := hdone.resolve_left hother
    have hmissing : Tells (idle host) _ t _ :=
      tells_missingPaths idle_query Option.isSome (conversionSources host payload (.row download)).all
    rw [convertSources, doesNothing_tells hmissing]
    dsimp only
    rw [if_neg, doesNothing_tells hnode, if_pos hstands]
    · exact doesNothing_pure _
    · intro hnone
      have hsome := filter_missing_eq_nil.1 hnone path hpath
      rw [hgone] at hsome
      cases hsome

theorem doesNothing_postprocess_row (h : (ConversionSubject.row download).FoundIn profileId payload t)
    (hdone : hasTarget payload = true → Skips host payload t download) :
    DoesNothing host (postprocessDownloadWithFfmpeg host profileId payload parentJobId) t ↔
      ¬ ConvertsAgain host profileId payload t (.row download) := by
  have hkind : Tells (idle host) _ t _ := tells_conversionKind idle_query payload (.row download)
  have hext : Tells (idle host) _ t _ :=
    tells_conversionExt idle_query profileId (t.conversionKind host payload (.row download))
  rw [postprocessDownloadWithFfmpeg, doesNothing_tells (tells_conversionSubject_row h)]
  dsimp only
  rw [doesNothing_tells hkind, doesNothing_tells hext]
  cases htarget : hasTarget payload with
  | true =>
    rw [doesNothing_tells (tells_conversionTarget_explicit htarget), doesNothing_withTranscodeLock]
    refine iff_of_true (doesNothing_convertOnce_skips h (hdone htarget)) ?_
    rintro ⟨hnone, -⟩
    cases htarget.symm.trans hnone
  | false =>
    by_cases hname : ∃ path, FreeName host t (conversionSources host payload (.row download)).first
        (t.conversionExt profileId (t.conversionKind host payload (.row download))) path
    · obtain ⟨path, hpath⟩ := hname
      have hfree : t.files.node host (host.real path) = none := by
        rw [Files.node_real]
        exact hpath.spec.1
      rw [doesNothing_tells (tells_conversionTarget_derived htarget hpath), doesNothing_withTranscodeLock]
      refine ((doesNothing_convertOnce_row h hfree).trans
        (doesNothing_convertSources_row hfree htarget)).trans (not_congr ?_)
      exact ⟨fun hstart => ⟨htarget, ⟨path, hpath⟩, hstart⟩, fun hagain => hagain.2.2⟩
    · refine iff_of_true ((raises_conversionTarget htarget hname).bind _).doesNothing ?_
      exact fun hagain => hname hagain.2.1

theorem doesNothing_postprocess_deferred {lookup defaults : Columns}
    (h : (ConversionSubject.deferred lookup defaults).FoundIn profileId payload t) :
    DoesNothing host (postprocessDownloadWithFfmpeg host profileId payload parentJobId) t ↔
      ¬ ConvertsAgain host profileId payload t (.deferred lookup defaults) := by
  have hkind : Tells (idle host) _ t _ :=
    tells_conversionKind idle_query payload (.deferred lookup defaults)
  have hext : Tells (idle host) _ t _ :=
    tells_conversionExt idle_query profileId (t.conversionKind host payload (.deferred lookup defaults))
  rw [postprocessDownloadWithFfmpeg, doesNothing_tells (tells_conversionSubject_deferred h)]
  by_cases hsource : ((Json.get "source_file_path" payload).getD .null).truthy = true
  · rw [if_pos hsource]
    dsimp only
    rw [doesNothing_tells hkind, doesNothing_tells hext]
    cases htarget : hasTarget payload with
    | true =>
      rw [doesNothing_tells (tells_conversionTarget_explicit htarget), doesNothing_withTranscodeLock,
        doesNothing_convertOnce_deferred h]
      exact not_congr ⟨fun hinputs => ⟨hsource, .inl htarget, hinputs⟩, fun hagain => hagain.2.2⟩
    | false =>
      by_cases hname : ∃ path, FreeName host t
          (conversionSources host payload (.deferred lookup defaults)).first
          (t.conversionExt profileId (t.conversionKind host payload (.deferred lookup defaults))) path
      · have hname' := hname
        obtain ⟨path, hpath⟩ := hname
        rw [doesNothing_tells (tells_conversionTarget_derived htarget hpath), doesNothing_withTranscodeLock,
          doesNothing_convertOnce_deferred h]
        exact not_congr ⟨fun hinputs => ⟨hsource, .inr hname', hinputs⟩, fun hagain => hagain.2.2⟩
      · refine iff_of_true ((raises_conversionTarget htarget hname).bind _).doesNothing ?_
        rintro ⟨-, hexplicit | hfound, -⟩
        · cases htarget.symm.trans hexplicit
        · exact hname hfound
  · rw [if_neg hsource]
    exact iff_of_true (doesNothing_pure none) fun hagain => hsource hagain.1

theorem doesNothing_postprocess_none (h : ∀ subject : ConversionSubject, ¬ subject.FoundIn profileId payload t) :
    DoesNothing host (postprocessDownloadWithFfmpeg host profileId payload parentJobId) t := by
  apply Meets.bind (undisturbed_conversionSubject idle_query profileId payload)
  · rintro found u ⟨rfl, hfound⟩
    obtain ⟨hfound, -⟩ := hfound found rfl
    cases found with
    | none => exact doesNothing_pure none
    | some subject => exact absurd (hfound subject rfl) (h subject)
  · rintro e u ⟨rfl, -⟩
    exact .refl u

/-- What the payload names in the library decides whether a run does something. -/
theorem doesNothing_postprocess_iff (hdone : hasTarget payload = true → ∀ download,
      (ConversionSubject.row download).FoundIn profileId payload t → Skips host payload t download) :
    DoesNothing host (postprocessDownloadWithFfmpeg host profileId payload parentJobId) t ↔
      ∀ subject : ConversionSubject, subject.FoundIn profileId payload t →
        ¬ ConvertsAgain host profileId payload t subject := by
  by_cases hsome : ∃ subject : ConversionSubject, subject.FoundIn profileId payload t
  · obtain ⟨subject, hfound⟩ := hsome
    have hall : (∀ subject : ConversionSubject, subject.FoundIn profileId payload t →
        ¬ ConvertsAgain host profileId payload t subject) ↔
          ¬ ConvertsAgain host profileId payload t subject := by
      constructor
      · exact fun h => h subject hfound
      · intro h other hother
        rw [hfound.eq hother]
        exact h
    rw [hall]
    cases subject with
    | row download => exact doesNothing_postprocess_row hfound fun htarget => hdone htarget download hfound
    | deferred lookup defaults => exact doesNothing_postprocess_deferred hfound
  · have hnone := not_exists.1 hsome
    exact iff_of_true (doesNothing_postprocess_none hnone) fun subject hfound => absurd hfound (hnone subject)

end

end GetOffline
