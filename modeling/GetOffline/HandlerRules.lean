import GetOffline.Pipeline

set_option autoImplicit true

namespace GetOffline
open Python Effects Program

/-- A call that leaves the library as it is. -/
def HandlerOp.IsQuery : HandlerOp β → Prop
  | .now | .profileSetting _ _ | .appSetting _ | .sourceNamed _ _ _ | .candidates _ | .downloadById _ _
  | .downloadExists _ | .node _ | .targetPath _ _ | .resolveSourceName _ | .downloadEvents _
  | .prepareFilename _ | .subtitleSegments _ => True
  | _ => False

/-- A call that neither writes a row of `jobs` or of `downloads` nor has a part in screening. -/
def HandlerOp.IsQuiet : HandlerOp β → Prop
  | .createJob _ | .saveTouch _ _ | .updateOrCreateDownload _ _ | .saveDownload _ _
  | .createSubtitles _ _ _ _ _ | .screenTranscript _ | .deleteMediaArtifacts _ _
  | .enabledSources _ => False
  | _ => True

theorem HandlerOp.IsQuery.isQuiet {op : HandlerOp β} (h : op.IsQuery) : op.IsQuiet := by
  cases op <;> trivial

/-- The program only asks. -/
abbrev Asks (p : Handler α) : Prop :=
  p.Calls fun op => op.IsQuery

abbrev Quiet (p : Handler α) : Prop :=
  p.Calls fun op => op.IsQuiet

theorem Asks.quiet {p : Handler α} (h : Asks p) : Quiet p :=
  h.mono (fun _ hop => hop.isQuiet) fun _ _ => trivial

theorem asks_profileSetting (profileId key default : String) :
    Asks (profileSetting profileId key default) :=
  Calls.bind (calls_perform trivial) fun _ => calls_pure _

theorem asks_downloadOutputRoot (host : Host) (profileId : String) :
    Asks (downloadOutputRoot host profileId) :=
  Calls.bind (asks_profileSetting _ _ _) fun _ => calls_pure _

theorem asks_preferredMediaKind (host : Host) (download : Download) (payload : Columns) :
    Asks (preferredMediaKind host download payload) := by
  unfold preferredMediaKind
  apply yields_ite
  · exact fun _ => calls_pure _
  · intro _
    apply Calls.bind (calls_perform trivial)
    intro source
    apply yields_ite
    · exact fun _ => calls_pure _
    · intro _
      apply yields_ite
      · exact fun _ => calls_pure _
      · exact fun _ => yields_ite (fun _ => calls_pure _) fun _ => calls_pure _

theorem asks_preferredTargetExt (profileId mediaKind : String) :
    Asks (preferredTargetExt profileId mediaKind) :=
  Calls.bind (asks_profileSetting _ _ _) fun _ => calls_pure _

theorem asks_videoCodec (profileId : String) : Asks (videoCodec profileId) :=
  Calls.bind (asks_profileSetting _ _ _) fun _ => calls_pure _

theorem asks_downloadRequiresFfmpeg (host : Host) (download : Download) (payload : Columns) :
    Asks (downloadRequiresFfmpeg host download payload) := by
  apply Calls.bind (asks_preferredMediaKind host download payload)
  intro mediaKind
  apply Calls.bind (asks_preferredTargetExt _ mediaKind)
  intro targetExt
  apply yields_ite
  · exact fun _ => Calls.bind (asks_videoCodec _) fun _ => calls_pure _
  · exact fun _ => calls_pure _

theorem asks_downloadedMediaRequiresFfmpeg (profileId mediaKind currentExt : String) (inputCount : Nat) :
    Asks (downloadedMediaRequiresFfmpeg profileId mediaKind currentExt inputCount) := by
  apply Calls.bind (yields_ite (fun _ => calls_pure _) fun _ => asks_preferredTargetExt _ _)
  intro targetExt
  apply yields_ite
  · exact fun _ => Calls.bind (asks_videoCodec _) fun _ => calls_pure _
  · exact fun _ => calls_pure _

theorem asks_ffmpegThreadCount (profileId : String) : Asks (ffmpegThreadCount profileId) := by
  apply Calls.bind (asks_profileSetting _ _ _)
  intro value
  dsimp only
  split <;> exact calls_pure _

theorem asks_ffmpegAudioArgs (profileId targetExt : String) :
    Asks (ffmpegAudioArgs profileId targetExt) := by
  apply Calls.bind (asks_profileSetting _ _ _)
  intro quality
  apply Calls.bind (asks_profileSetting _ _ _)
  intro audioFilter
  exact Calls.bind (asks_ffmpegThreadCount _) fun _ => calls_pure _

theorem asks_ffmpegVideoArgs (profileId targetExt : String) (inputCount : Nat) :
    Asks (ffmpegVideoArgs profileId targetExt inputCount) := by
  apply Calls.bind (asks_videoCodec _)
  intro codec
  exact Calls.bind (asks_ffmpegThreadCount _) fun _ => calls_pure _

theorem asks_missingPaths (present : Option Node → Bool) (paths : List Path) :
    Asks (missingPaths present paths) :=
  Calls.foldlM (fun _ _ => Calls.bind (calls_perform trivial) fun _ => calls_pure _) _

theorem asks_fileSize (path : Path) : Asks (fileSize path) := by
  apply Calls.bind (calls_perform trivial)
  intro node
  cases node with
  | none => exact calls_raise _
  | some node => cases node <;> exact calls_pure _

theorem asks_totalSize (paths : List Path) : Asks (totalSize paths) :=
  Calls.foldlM (fun _ path => Calls.bind (asks_fileSize path) fun _ => calls_pure _) _

theorem asks_conversionTarget (host : Host) (payload : Columns) (subject : ConversionSubject)
    (source : Path) (targetExt : String) :
    Asks (conversionTarget host payload subject source targetExt) := by
  apply Calls.bind (yields_ite (fun _ => calls_pure _) fun _ => calls_perform trivial)
  exact fun _ => calls_pure _

theorem asks_conversionKind (host : Host) (payload : Columns) (subject : ConversionSubject) :
    Asks (conversionKind host payload subject) := by
  cases subject with
  | row download => exact asks_preferredMediaKind host download payload
  | deferred lookup defaults => exact calls_pure _

theorem asks_conversionRoot (host : Host) (profileId : String) (payload : Columns) :
    Asks (conversionRoot host profileId payload) :=
  yields_ite (fun _ => calls_pure _) fun _ => asks_downloadOutputRoot _ _

theorem quiet_deleteFfmpegSourceFiles (host : Host) (paths : List Path) (target : Path) :
    Quiet (deleteFfmpegSourceFiles host paths target) := by
  apply Calls.foldlM
  intro deleted path
  apply Calls.bind (calls_perform trivial)
  intro node
  apply yields_ite
  · exact fun _ => calls_pure _
  · intro _
    apply Calls.bind
    · exact Calls.tryCatch (Calls.bind (calls_perform trivial) fun _ => calls_pure _)
        fun _ => calls_pure _
    · intro unlinked
      apply yields_ite
      · exact fun _ => Calls.bind (calls_perform trivial) fun _ => calls_pure _
      · exact fun _ => calls_pure _

theorem quiet_receiveFromApi (download : Download) (destination temporary : Path) :
    Quiet (receiveFromApi download destination temporary) := by
  apply Calls.bind (calls_perform trivial)
  intro bytesWritten
  apply Calls.bind (calls_ofExcept _)
  intro expectedSize
  exact yields_ite (fun _ => calls_raise _) fun _ => calls_perform trivial

theorem quiet_downloadFromApi (host : Host) (download : Download) (destination : Path) :
    Quiet (downloadFromApi host download destination) := by
  apply yields_ite
  · exact fun _ => calls_raise _
  · intro _
    apply Calls.bind (calls_perform trivial)
    intro _
    apply Calls.bind (calls_perform trivial)
    intro temporary
    apply Calls.bind
    · apply Calls.tryCatch (quiet_receiveFromApi _ _ _)
      exact fun error => Calls.bind (calls_perform trivial) fun _ => calls_raise error
    · exact fun _ => calls_pure _

theorem quiet_ensureLocalMedia (host : Host) (download : Download) (path : Path) :
    Quiet (ensureLocalMedia host download path) := by
  apply Calls.bind (calls_perform trivial)
  intro node
  apply yields_ite
  · exact fun _ => calls_pure _
  · intro _
    apply Calls.bind (calls_perform trivial)
    intro cached
    exact yields_ite (fun _ => calls_pure _) fun _ => quiet_downloadFromApi _ _ _

theorem quiet_fetchSource (host : Host) (download : Download) (path : Path) :
    Quiet (fetchSource host download path) := by
  apply Calls.bind (calls_perform trivial)
  intro node
  exact yields_ite (fun _ => calls_pure _) fun _ => quiet_ensureLocalMedia _ _ _

theorem quiet_fetchSources (host : Host) (download : Download) (sources : ConversionSources) :
    Quiet (fetchSources host download sources) := by
  apply Calls.bind (quiet_fetchSource _ _ sources.first)
  intro first
  apply Calls.bind
  · exact Calls.foldlM (fun _ path => Calls.bind (quiet_fetchSource _ _ path) fun _ =>
      calls_pure _) _
  · exact fun _ => calls_pure _

theorem quiet_runConversion (profileId mediaKind targetExt : String) (sources : ConversionSources)
    (target : Path) : Quiet (runConversion profileId mediaKind targetExt sources target) := by
  apply Calls.bind (asks_totalSize _).quiet
  intro _
  apply Calls.bind (asks_profileSetting _ _ _).quiet
  intro ffmpegPath
  apply Calls.bind (yields_ite (fun _ => (asks_ffmpegAudioArgs _ _).quiet)
    fun _ => (asks_ffmpegVideoArgs _ _ _).quiet)
  intro codecArgs
  apply Calls.bind (asks_ffmpegThreadCount _).quiet
  intro threads
  apply Calls.bind (calls_perform trivial)
  intro _
  apply Calls.bind (calls_perform trivial)
  intro output
  exact yields_ite (fun _ => calls_raise _) fun _ => (asks_fileSize _).quiet

/-- What is asked of a process: the calls that are permitted after its past, the answers that are
reckoned with, and what has to be done when it ends. -/
structure Rules where
  permits : List Record → {β : Type} → HandlerOp β → Prop
  answers : List Record → {β : Type} → HandlerOp β → Except Error β → Prop
  ends : List Record → Prop

def Rules.contract (rules : Rules) : Contract HandlerOp Error (List Record) where
  ok past op := rules.permits past op
  next past op r past' := rules.answers past op r ∧ past' = past ++ [⟨op, r⟩]

/-- The later past has some more calls, all of them of one kind. -/
def Extends (P : {β : Type} → HandlerOp β → Prop) (past past' : List Record) : Prop :=
  ∃ calls, past' = past ++ calls ∧ ∀ call ∈ calls, P call.op

section
variable {P : {β : Type} → HandlerOp β → Prop}

theorem Extends.refl (past : List Record) : Extends P past past :=
  ⟨[], (List.append_nil past).symm, List.forall_mem_nil _⟩

theorem Extends.trans (h : Extends P past past') (h' : Extends P past' past'') :
    Extends P past past'' := by
  obtain ⟨calls, rfl, hcalls⟩ := h
  obtain ⟨calls', rfl, hcalls'⟩ := h'
  refine ⟨calls ++ calls', List.append_assoc _ _ _, ?_⟩
  intro call hcall
  exact (List.mem_append.1 hcall).elim (hcalls call) (hcalls' call)

theorem Extends.call {op : HandlerOp β} (h : P op) (past : List Record) (r : Except Error β) :
    Extends P past (past ++ [⟨op, r⟩]) :=
  ⟨[⟨op, r⟩], rfl, List.forall_mem_singleton.2 h⟩

theorem Extends.subset (h : Extends P past past') : past ⊆ past' := by
  obtain ⟨calls, rfl, -⟩ := h
  exact List.subset_append_left past calls

variable {rules : Rules} {Q : Except Error β → List Record → Prop} {p : Handler α}
  {f : α → Handler β} {R : α → Prop}

theorem Yields.extends (hp : p.Yields P R)
    (hpermits : ∀ past {β} (op : HandlerOp β), P op → rules.permits past op) (past : List Record) :
    p.Meets rules.contract (fun r past' => Extends P past past' ∧ ∀ a, r = .ok a → R a) past := by
  apply Yields.meets hp
  · intro β op past' hop _
    exact hpermits past' op hop
  · intro β op past' r past'' hop hpast hnext
    obtain ⟨-, rfl⟩ := hnext
    exact hpast.trans (Extends.call hop past' r)
  · exact Extends.refl past

/-- What comes after calls of one kind, when an exception may end a run of them at any point. -/
theorem Yields.bind_meets {base past : List Record} (hbase : Extends P base past) (hp : p.Yields P R)
    (hpermits : ∀ past {β} (op : HandlerOp β), P op → rules.permits past op)
    (herror : ∀ e past', Extends P base past' → Q (.error e) past')
    (hf : ∀ a past', R a → Extends P base past' → (f a).Meets rules.contract Q past') :
    (p >>= f).Meets rules.contract Q past := by
  apply Meets.bind (Yields.extends hp hpermits past)
  · intro a past' h
    exact hf a past' (h.2 a rfl) (hbase.trans h.1)
  · intro e past' h
    exact herror e past' (hbase.trans h.1)

/-- What comes after one call. -/
theorem perform_bind_meets {op : HandlerOp α} (hpermits : rules.permits past op)
    (hf : ∀ a, rules.answers past op (.ok a) →
      (f a).Meets rules.contract Q (past ++ [⟨op, .ok a⟩]))
    (herror : ∀ e, rules.answers past op (.error e) → Q (.error e) (past ++ [⟨op, .error e⟩])) :
    (perform op >>= f).Meets rules.contract Q past := by
  have hcall : (perform op : Handler α).Meets rules.contract (fun r past' =>
      rules.answers past op r ∧ past' = past ++ [(⟨op, r⟩ : Record)]) past := by
    apply meets_perform hpermits
    intro r past' h
    exact h
  apply Meets.bind hcall
  · intro a past' h
    rw [h.2]
    exact hf a h.1
  · intro e past' h
    rw [h.2]
    exact herror e h.1

/-- What holds of the value, if there is one. -/
def Returns (R : α → List Record → Prop) (r : Except Error α) (past : List Record) : Prop :=
  ∀ a, r = .ok a → R a past

theorem returns_ok {R : α → List Record → Prop} (h : R a past) : Returns R (.ok a) past := by
  intro a' ha
  obtain rfl := Except.ok.inj ha
  exact h

theorem returns_error (R : α → List Record → Prop) (e : Error) (past : List Record) :
    Returns R (.error e) past := by
  intro a h
  cases h

theorem Yields.bind_returns {S : β → List Record → Prop} {base past : List Record}
    (hbase : Extends P base past) (hp : p.Yields P R)
    (hpermits : ∀ past {β} (op : HandlerOp β), P op → rules.permits past op)
    (hf : ∀ a past', R a → Extends P base past' → (f a).Meets rules.contract (Returns S) past') :
    (p >>= f).Meets rules.contract (Returns S) past :=
  Yields.bind_meets hbase hp hpermits (fun e past' _ => returns_error S e past') hf

theorem perform_bind_returns {S : β → List Record → Prop} {op : HandlerOp α}
    (hpermits : rules.permits past op)
    (hf : ∀ a, rules.answers past op (.ok a) →
      (f a).Meets rules.contract (Returns S) (past ++ [⟨op, .ok a⟩])) :
    (perform op >>= f).Meets rules.contract (Returns S) past :=
  perform_bind_meets hpermits hf fun e _ => returns_error S e _

theorem Meets.bind_returns {S : α → List Record → Prop} {T : β → List Record → Prop}
    (hp : p.Meets rules.contract (Returns S) past)
    (hf : ∀ a past', S a past' → (f a).Meets rules.contract (Returns T) past') :
    (p >>= f).Meets rules.contract (Returns T) past :=
  Meets.bind hp (fun a past' h => hf a past' (h a rfl)) fun e past' _ => returns_error T e past'

end

end GetOffline
