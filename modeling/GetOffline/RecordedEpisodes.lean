import GetOffline.DiscoveryOnce
import GetOffline.HandlerWrites
import GetOffline.SourceForms

set_option autoImplicit true

namespace GetOffline
open Python Effects Program Execution Database

-- api/services/dashboard_actions.py

namespace Library

/-- `update_source` and each row of `save_sources`, once the form has passed its checks. -/
def saveSource (profileId : String) (sourceId : Nat) (form : SourceFormData) (includeEnabled : Bool)
    (s : Library) : Library :=
  { s with
    sources := s.sources.update (fun i source => i == sourceId && source.profileId = profileId)
      (applySourceFormData form includeEnabled) }

def toggleSource (profileId : String) (sourceId : Nat) (s : Library) : Library :=
  { s with
    sources := s.sources.update (fun i source => i == sourceId && source.profileId = profileId)
      fun source => { source with enabled := !source.enabled } }

def deleteSource (profileId : String) (sourceId : Nat) (s : Library) : Library :=
  { s with sources := s.sources.delete fun i source => i == sourceId && source.profileId = profileId }

/-- The columns that `edit_metadata` saves. -/
def editedColumns (title sourceName : String) (now : Instant) : Columns :=
  [("title", .string (strip title)), ("source_name", .string (strip sourceName)),
    ("last_seen_at", timeJson now)]

/-- The row is one of the profile's, and the form is filled in. -/
def editable (profileId : String) (id : Nat) (title sourceName : String) (s : Library) : Bool :=
  (s.downloads.rows.lookup id).any (fun row => Columns.matches [("profile_id", .string profileId)] row) &&
    strip title ≠ "" && strip sourceName ≠ ""

/-- `edit_metadata`; what it rejects changes nothing. -/
def editMetadata (profileId : String) (id : Nat) (title sourceName : String) (now : Instant)
    (s : Library) : Library :=
  if s.editable profileId id title sourceName = true then
    { s with downloads := s.downloads.save id (editedColumns title sourceName now) }
  else s

end Library

instance (fields : Columns) : Decidable (KeepsKey fields) :=
  decidable_of_iff ((fields.map Prod.fst).Nodup ∧
      ∀ column ∈ episodeColumns, column ∉ fields.map Prod.fst)
    ⟨fun h => ⟨h.1, h.2⟩, fun h => ⟨h.1, h.2⟩⟩

def Job.itemUid (host : Host) (job : Job) : String :=
  cut255 (host.textOr (Json.get "item_uid" job.payload.dict) "")

/-- The source and the job of an episode that a pass has found. -/
structure FoundEpisode where
  sourceId : Nat
  job : Job

namespace FoundEpisode

/-- The source and the item. -/
def item (host : Host) (episode : FoundEpisode) : Nat × String :=
  (episode.sourceId, episode.job.itemUid host)

/-- The key of the episode's row; `resolved` is the name of a source that has none. -/
def key (host : Host) (resolved : String) (episode : FoundEpisode) : EpisodeKey :=
  let payload := episode.job.payload.dict
  let sourceName := strip (host.textOr (Json.get "source_name" payload) "")
  { profileId := episode.job.profileId
    sourceType := (parseJsonEnum SourceType (Json.get "source_type" payload)).getD .youtube
    sourceName := if sourceName = "" then resolved else sourceName
    itemUid := episode.job.itemUid host }

/-- A row that is looked for in this way is the episode's. -/
def isFor (host : Host) (lookup : Columns) (episode : FoundEpisode) : Bool :=
  episode.job.itemUid host ≠ "" &&
    (episode.key host (host.textOr (Json.get "source_name" lookup) "")).lookup.matches lookup

end FoundEpisode

/-- The rows and jobs, the processes at work, what passes have found, and the sources and items that rows
have been recorded for. -/
structure EpisodeHistory where
  pipeline : Pipeline
  found : List FoundEpisode
  recorded : List (Nat × String)

abbrev EpisodeHistory.library (w : EpisodeHistory) : Library :=
  w.pipeline.library

/-- A pass that nothing interferes with; a step of the workers; a download that is asked for by a form or
through the API; new values for columns by which no row is found, as retention sets them; an edit of a row
or of a source; new settings. -/
inductive HistoryEvent
  | pass (replies : List Reply)
  | work (event : PipelineEvent)
  | request (profileId : String) (request : EnqueueRequest) (createdAt updatedAt : Instant)
  | saveRow (id : Nat) (fields : Columns)
  | editMetadata (profileId : String) (id : Nat) (title sourceName : String) (now : Instant)
  | saveSource (profileId : String) (sourceId : Nat) (form : SourceFormData) (includeEnabled : Bool)
  | toggleSource (profileId : String) (sourceId : Nat)
  | addSource (sourceId : Nat) (source : SourceConfig)
  | deleteSource (profileId : String) (sourceId : Nat)
  | configure (settings : Table (String × String) String) (appSettings : Table String String)

def PipelineEvent.isWork : PipelineEvent → Bool
  | .configure _ _ _ | .manualUpload _ _ => false
  | _ => true

def EnqueueRequest.isDownload : EnqueueRequest → Bool
  | .createJob _ _ _ => false
  | _ => true

/-- The items of the found episodes whose row stands in the library after the call. -/
def HandlerOp.records (host : Host) (found : List FoundEpisode) (s : Library) :
    HandlerOp β → List (Nat × String)
  | .updateOrCreateDownload lookup _ =>
    if s.downloads.rows.any fun _ row => Columns.matches lookup row then
      (found.filter (FoundEpisode.isFor host lookup)).map (FoundEpisode.item host)
    else []
  | _ => []

namespace EpisodeHistory

def initial (library : Library) : EpisodeHistory where
  pipeline := Pipeline.initial library
  found := []
  recorded := []

def setLibrary (library : Library) (w : EpisodeHistory) : EpisodeHistory :=
  { w with pipeline := { w.pipeline with library } }

/-- The episodes of the jobs that are in the one database and not in the other. -/
def newEpisodes (before after : Database) : List FoundEpisode :=
  after.jobs.entries.filterMap fun e =>
    if (before.jobs.lookup e.1).isNone then e.2.foundItem.map fun item => ⟨item.1, e.2⟩ else none

/-- What the step of the workers records. -/
def newRecords (host : Host) (w : EpisodeHistory) (event : PipelineEvent) (s : Library) :
    List (Nat × String) :=
  match event with
  | .advance i _ =>
    match w.pipeline.processes[i]? with
    | some process =>
      match process.program with
      | .call op _ => op.records host w.found s
      | _ => []
    | none => []
  | _ => []

def step (host : Host) (w : EpisodeHistory) : HistoryEvent → Option EpisodeHistory
  | .pass replies =>
    (runSerially host (checkForEpisodes host) replies w.library).map fun r =>
      { w.setLibrary r.2.library with
        found := newEpisodes w.library.database r.2.library.database ++ w.found }
  | .work event =>
    if event.isWork then
      (w.pipeline.step host event).map fun pipeline => { w with
        pipeline
        recorded := w.newRecords host event pipeline.library ++ w.recorded }
    else none
  | .request profileId request createdAt updatedAt =>
    if request.isDownload then
      (request.args host.render profileId).map fun args => w.setLibrary { w.library with
        database := (createJob args createdAt updatedAt w.library.database).2 }
    else none
  | .saveRow id fields =>
    if KeepsKey fields then
      some (w.setLibrary { w.library with downloads := w.library.downloads.save id fields })
    else none
  | .editMetadata profileId id title sourceName now =>
    some (w.setLibrary (w.library.editMetadata profileId id title sourceName now))
  | .saveSource profileId sourceId form includeEnabled =>
    some (w.setLibrary (w.library.saveSource profileId sourceId form includeEnabled))
  | .toggleSource profileId sourceId => some (w.setLibrary (w.library.toggleSource profileId sourceId))
  | .addSource sourceId source =>
    if w.library.sources.lookup sourceId = none ∧ sourceId ∉ w.recorded.map Prod.fst then
      some (w.setLibrary { w.library with sources := AList.insert sourceId source w.library.sources })
    else none
  | .deleteSource profileId sourceId => some (w.setLibrary (w.library.deleteSource profileId sourceId))
  | .configure settings appSettings =>
    some (w.setLibrary { w.library with settings, appSettings })

/-- No pass makes a job again for an item of a source whose row has been recorded. -/
def Remembers (host : Host) (w : EpisodeHistory) : Prop :=
  ∀ replies r s, runSerially host (checkForEpisodes host) replies w.library = some (r, s) →
    ∀ episode ∈ newEpisodes w.library.database s.library.database,
      episode.item host ∉ w.recorded

/-- The row is of this item of the source. -/
def IsItem (source : SourceConfig) (uid : String) (row : Columns) : Prop :=
  Columns.matches (sourceColumns source.profileId source ++ [("item_uid", .string uid)]) row = true

/-- A row is recorded under the name that its source has, and edits of names leave each recorded item of
a source a row under the source's name. -/
def NamesAgree (host : Host) (w : EpisodeHistory) : HistoryEvent → Prop
  | .work (.advance i _) => ∀ process, w.pipeline.processes[i]? = some process →
    ∀ lookup defaults k, process.program = .call (.updateOrCreateDownload lookup defaults) k →
    ∀ episode ∈ w.found, episode.isFor host lookup = true → ∀ source,
      w.library.sources.lookup episode.sourceId = some source →
      (sourceColumns source.profileId source).matches lookup = true ∨
        ∃ n row, w.library.downloads.rows.lookup n = some row ∧ IsItem source (episode.job.itemUid host) row
  | .editMetadata profileId id title sourceName _ =>
    w.library.editable profileId id title sourceName = true →
    ∀ item ∈ w.recorded, ∀ source, w.library.sources.lookup item.1 = some source →
      strip sourceName = source.name ∨
        ∃ n row, n ≠ id ∧ w.library.downloads.rows.lookup n = some row ∧ IsItem source item.2 row
  | .saveSource profileId sourceId form includeEnabled => ∀ source,
    w.library.sources.lookup sourceId = some source → source.profileId = profileId →
    (applySourceFormData form includeEnabled source).name = source.name ∨
      ∀ uid, (sourceId, uid) ∈ w.recorded → ∃ n row, w.library.downloads.rows.lookup n = some row ∧
        IsItem (applySourceFormData form includeEnabled source) uid row
  | _ => True

theorem isItem_iff {source : SourceConfig} {uid : String} {row : Columns} :
    IsItem source uid row ↔ Json.get "profile_id" row = some (.string source.profileId) ∧
      Json.get "source_type" row = some (.string source.sourceType) ∧
      Json.get "source_name" row = some (.string source.name) ∧
      Json.get "item_uid" row = some (.string uid) := by
  simp only [IsItem, sourceColumns, Columns.matches, List.cons_append, List.nil_append, List.all_cons,
    List.all_nil, Bool.and_true, Bool.and_eq_true, same_string]

theorem columns_item (source : SourceConfig) (uid : String) :
    ∀ item ∈ sourceColumns source.profileId source ++ [("item_uid", .string uid)],
      item.1 ∈ episodeColumns := by
  intro item hitem
  exact List.mem_map_of_mem (f := Prod.fst) hitem

theorem hasRow_of_isItem {s : Library} (hrow : s.downloads.rows.lookup n = some row)
    (h : IsItem source uid row) (huid : uid ≠ "") :
    s.hasRow source.profileId source "item_uid" uid = true := by
  rw [Library.hasRow, decide_eq_true huid, Bool.true_and]
  exact Table.any_iff.2 ⟨n, row, hrow, h⟩

/-- Each item that is recorded for a source has a row under the source's name. -/
def Known (s : Library) (recorded : List (Nat × String)) : Prop :=
  ∀ item ∈ recorded, item.2 ≠ "" ∧ ∀ source, s.sources.lookup item.1 = some source →
    ∃ n row, s.downloads.rows.lookup n = some row ∧ IsItem source item.2 row

/-- Jobs and processes keep to what the handlers write, and what is recorded is known. -/
structure Tidy (w : EpisodeHistory) : Prop where
  jobs : w.library.database.Orderly
  programs : ∀ process ∈ w.pipeline.processes, Orderly process.program
  known : Known w.library w.recorded

section
variable {host : Host} {w t : EpisodeHistory} {recorded : List (Nat × String)} {s s' : Library}

theorem tidy_initial (h : s.database.Orderly) : Tidy (initial s) where
  jobs := h
  programs _ hprocess := absurd hprocess List.not_mem_nil
  known _ hitem := absurd hitem List.not_mem_nil

theorem Tidy.setLibrary (h : Tidy w) (hjobs : s.database.Orderly) (hknown : Known s w.recorded) :
    Tidy (w.setLibrary s) where
  jobs := hjobs
  programs := h.programs
  known := hknown

/-- Whatever leaves the rows where they are found, and the sources, leaves known what is known. -/
theorem Known.rows (h : Known s recorded) (hsources : s'.sources = s.sources)
    (hrows : ∀ n row lookup, s.downloads.rows.lookup n = some row →
      (∀ item ∈ lookup, item.1 ∈ episodeColumns) → Columns.matches lookup row = true →
      ∃ row', s'.downloads.rows.lookup n = some row' ∧ Columns.matches lookup row' = true) :
    Known s' recorded := by
  intro item hitem
  obtain ⟨huid, hsource⟩ := h item hitem
  refine ⟨huid, ?_⟩
  intro source hlookup
  rw [hsources] at hlookup
  obtain ⟨n, row, hrow, his⟩ := hsource source hlookup
  obtain ⟨row', hrow', his'⟩ := hrows n row _ hrow (columns_item source item.2) his
  exact ⟨n, row', hrow', his'⟩

theorem Known.same (h : Known s recorded) (hsources : s'.sources = s.sources)
    (hdownloads : s'.downloads = s.downloads) : Known s' recorded := by
  apply h.rows hsources
  intro n row lookup hrow _ hmatches
  rw [hdownloads]
  exact ⟨row, hrow, hmatches⟩

/-- Each source is as it was, as far as its rows are found, or is one of which nothing is recorded. -/
theorem Known.sources (h : Known s recorded) (hdownloads : s'.downloads = s.downloads)
    (hsources : ∀ item ∈ recorded, ∀ source, s'.sources.lookup item.1 = some source →
      (∃ old, s.sources.lookup item.1 = some old ∧ source.profileId = old.profileId ∧
        source.sourceType = old.sourceType ∧ source.name = old.name) ∨
      ∃ n row, s.downloads.rows.lookup n = some row ∧ IsItem source item.2 row) : Known s' recorded := by
  intro item hitem
  obtain ⟨huid, hknown⟩ := h item hitem
  refine ⟨huid, ?_⟩
  intro source hlookup
  rw [hdownloads]
  rcases hsources item hitem source hlookup with ⟨old, hold, hprofile, htype, hname⟩ | hrow
  · obtain ⟨n, row, hrow, his⟩ := hknown old hold
    refine ⟨n, row, hrow, ?_⟩
    rw [isItem_iff] at his ⊢
    rw [hprofile, htype, hname]
    exact his
  · exact hrow

/-- The row of a found episode, recorded under the name of its source, is the item's. -/
theorem isItem_of_isFor {episode : FoundEpisode} {key : EpisodeKey} {source : SourceConfig}
    (hfor : episode.isFor host key.lookup = true)
    (hnames : (sourceColumns source.profileId source).matches key.lookup = true)
    (hrow : key.lookup.matches row = true) :
    episode.job.itemUid host ≠ "" ∧ IsItem source (episode.job.itemUid host) row := by
  rw [FoundEpisode.isFor, Bool.and_eq_true, decide_eq_true_eq] at hfor
  obtain ⟨huid, hlookup⟩ := hfor
  obtain ⟨-, -, -, hitem⟩ := EpisodeKey.matches_iff.1 hlookup
  obtain ⟨hprofile, htype, hname, hitem'⟩ := EpisodeKey.matches_iff.1 hrow
  simp only [sourceColumns, Columns.matches, List.all_cons, List.all_nil, Bool.and_true,
    Bool.and_eq_true, same_string] at hnames
  obtain ⟨hprofile', htype', hname'⟩ := hnames
  have hself := EpisodeKey.matches_iff.1 (key.matches_self)
  refine ⟨huid, isItem_iff.2 ⟨?_, ?_, ?_, ?_⟩⟩
  · rw [hprofile, ← hself.1, hprofile']
  · rw [htype, ← hself.2.1, htype']
  · rw [hname, ← hself.2.2.1, hname']
  · rw [hitem', ← hself.2.2.2, hitem]
    rfl

variable (host) in
theorem deferred_candidate (c : Candidate) (profileId : String) (source : Nat × SourceConfig)
    (limit : Nat) : Deferred ((c.args host profileId source limit).payload.getD []) :=
  deferred_episodeArgs _ _ _ _ _ _ _ (c.key host profileId source.1) _

theorem Tidy.pass {replies : List Reply} {r : Except Error Unit × Serial} (h : Tidy w)
    (hrun : runSerially host (checkForEpisodes host) replies w.library = some r) :
    Tidy (w.setLibrary r.2.library) := by
  obtain ⟨-, hstopped⟩ := pass_reaches hrun
  apply h.setLibrary
  · intro i job hrow
    cases hold : w.library.database.jobs.lookup i with
    | some old =>
      obtain ⟨job', hrow', hkept⟩ := hstopped.turns.stays i old hold
      obtain rfl := Option.some.inj (hrow'.symm.trans hrow)
      have hpayload : job'.payload = old.payload := by
        rcases hkept with rfl | ⟨-, now, rfl⟩ <;> rfl
      rw [hpayload]
      exact h.jobs i old hold
    | none =>
      obtain ⟨args, hargs, ⟨createdAt, updatedAt, rfl⟩, -⟩ := hstopped.turns.rows i job hrow hold
      obtain ⟨v, -, hrequest⟩ := List.mem_flatMap.1 hargs
      obtain ⟨entry, -, -, rfl⟩ := mem_requests hrequest
      exact deferred_candidate host _ v.source.2.profileId _ _
  · rw [hstopped.library]
    exact h.known

theorem Tidy.start {origin : Origin} {program : Handler Unit} (h : Tidy w) (hprogram : Orderly program) :
    Tidy { w with pipeline := { w.pipeline with
      processes := w.pipeline.processes ++ [⟨origin, [], program⟩] } } where
  jobs := h.jobs
  known := h.known
  programs process hprocess := by
    rcases List.mem_append.1 hprocess with hold | hnew
    · exact h.programs process hold
    · rw [List.mem_singleton.1 hnew]
      exact hprogram

/-- What a call records has its row under the name of its source. -/
theorem known_records {op : HandlerOp β} {reply : Reply} {r : Except Error β × Library} (hop : op.Orderly)
    (hrun : op.run host reply w.library = some r)
    (hnames : ∀ lookup defaults answer,
      (⟨op, r.1⟩ : Record) = ⟨.updateOrCreateDownload lookup defaults, answer⟩ →
      ∀ episode ∈ w.found, episode.isFor host lookup = true → ∀ source,
        w.library.sources.lookup episode.sourceId = some source →
        (sourceColumns source.profileId source).matches lookup = true ∨ ∃ n row,
          w.library.downloads.rows.lookup n = some row ∧ IsItem source (episode.job.itemUid host) row) :
    Known r.2 (op.records host w.found r.2) := by
  intro item hitem
  cases op with
  | updateOrCreateDownload lookup defaults =>
    rw [HandlerOp.records] at hitem
    split at hitem
    · next hany =>
      obtain ⟨episode, hepisode, rfl⟩ := List.mem_map.1 hitem
      obtain ⟨hfound, hfor⟩ := List.mem_filter.1 hepisode
      obtain ⟨n, row, hrow, hmatches⟩ := Table.any_iff.1 hany
      obtain ⟨⟨key, rfl⟩, hkeeps⟩ := hop
      have huid : episode.job.itemUid host ≠ "" := by
        rw [FoundEpisode.isFor, Bool.and_eq_true, decide_eq_true_eq] at hfor
        exact hfor.1
      refine ⟨huid, ?_⟩
      intro source hsource
      rw [(HandlerOp.run_configuration hrun).1] at hsource
      rcases hnames _ _ _ rfl episode hfound hfor source hsource with hnames | ⟨m, row', hrow', his⟩
      · exact ⟨n, row, hrow, (isItem_of_isFor hfor hnames hmatches).2⟩
      · have hop : (HandlerOp.updateOrCreateDownload key.lookup defaults).KeepsRows := ⟨⟨key, rfl⟩, hkeeps⟩
        obtain ⟨row'', hrow'', his'⟩ := rows_keep hop hrun hrow' (columns_item source _) his
        exact ⟨m, row'', hrow'', his'⟩
    · cases hitem
  | _ => cases hitem

theorem Known.append {recorded' : List (Nat × String)} (h : Known s recorded) (h' : Known s recorded') :
    Known s (recorded ++ recorded') := by
  intro item hitem
  exact (List.mem_append.1 hitem).elim (h item) (h' item)

theorem Tidy.advance {i : Nat} {reply : Reply} {pipeline : Pipeline} (h : Tidy w)
    (hnames : w.NamesAgree host (.work (.advance i reply)))
    (hstep : w.pipeline.advance host i reply = some pipeline) : Tidy { w with
      pipeline
      recorded := w.newRecords host (.advance i reply) pipeline.library ++ w.recorded } := by
  obtain ⟨process, hi, β, op, k, r, hop, hrun, rfl⟩ := Pipeline.advance_spec hstep
  have hprogram := h.programs process (List.mem_of_getElem? hi)
  rw [hop] at hprogram
  obtain ⟨horderly, hk⟩ := yields_call.1 hprogram
  have hrecords : w.newRecords host (.advance i reply) r.2 = op.records host w.found r.2 := by
    unfold newRecords
    dsimp only
    rw [hi]
    dsimp only
    rw [hop]
  constructor
  · exact orderly_run horderly hrun h.jobs
  · intro p hp
    rcases Pipeline.mem_called hp with rfl | hold
    · exact hk r.1
    · exact h.programs p hold
  · have hknown : Known r.2 (op.records host w.found r.2 ++ w.recorded) := by
      apply Known.append
      · apply known_records horderly hrun
        intro lookup defaults answer hcall
        cases hcall
        exact hnames process hi lookup defaults k hop
      · apply h.known.rows (HandlerOp.run_configuration hrun).1
        exact fun n row lookup hrow hlookup => rows_keep horderly.keepsRows hrun hrow hlookup
    rw [← hrecords] at hknown
    exact hknown

theorem Tidy.work {event : PipelineEvent} {pipeline : Pipeline} (h : Tidy w) (hwork : event.isWork = true)
    (hnames : w.NamesAgree host (.work event)) (hstep : w.pipeline.step host event = some pipeline) :
    Tidy { w with
      pipeline
      recorded := w.newRecords host event pipeline.library ++ w.recorded } := by
  cases event with
  | startJob id =>
    obtain ⟨job, hjob, hstart⟩ := Option.bind_eq_some_iff.1 hstep
    obtain ⟨program, hprogram, rfl⟩ := Pipeline.start_spec hstart
    exact h.start (orderly_jobHandler (h.jobs id job hjob) hprogram)
  | batchDownload profileId ids =>
    obtain ⟨program, hprogram, rfl⟩ := Pipeline.start_spec hstep
    obtain rfl := Option.some.inj hprogram
    exact h.start (orderly_batchDownload host profileId ids)
  | manualUpload profileId names => cases hwork
  | advance i reply => exact h.advance hnames hstep
  | crash i =>
    obtain ⟨process, hi, rfl⟩ := Option.map_eq_some_iff.1 hstep
    refine ⟨h.jobs, ?_, h.known⟩
    intro p hp
    rcases List.mem_or_eq_of_mem_set hp with hold | rfl
    · exact h.programs p hold
    · exact calls_pure ()
  | work id work =>
    obtain rfl := Option.some.inj hstep
    refine ⟨?_, h.programs, h.known⟩
    intro i job hrow
    dsimp only at hrow
    rw [Database.save, lookup_saveFields] at hrow
    split at hrow
    · obtain ⟨old, hold, rfl⟩ := Option.map_eq_some_iff.1 hrow
      exact (h.jobs id old hold).touched (touched_work work old)
    · exact h.jobs i job hrow
  | configure sources settings appSettings => cases hwork
  | changeFiles files =>
    obtain rfl := Option.some.inj hstep
    exact ⟨h.jobs, h.programs, h.known⟩

/-- The keys of a payload are among these. -/
def KeysAmong (names : List String) (payload : Columns) : Prop :=
  ∀ name ∈ payload.map Prod.fst, name ∈ names

theorem KeysAmong.set {names : List String} {payload : Columns} (h : KeysAmong names payload)
    {key : String} (hkey : key ∈ names) (value : Json) : KeysAmong names (Json.set key value payload) := by
  intro name hname
  rcases Json.mem_keys_set.1 hname with rfl | hname
  · exact hkey
  · exact h name hname

theorem KeysAmong.set_if {names : List String} {payload payload' : Columns} {c : Prop} [Decidable c]
    (h : KeysAmong names payload) (h' : KeysAmong names payload') :
    KeysAmong names (if c then payload else payload') := by
  split
  · exact h
  · exact h'

def enqueueKeys : List String :=
  ["source", "completion_token", "manual_enqueue", "delete_explicit_content", "url"]

theorem keysAmong_enqueueJobArgs {profileId token : String} {post : List (String × String)}
    {args : JobArgs} (h : enqueueJobArgs profileId post token = some args) :
    KeysAmong enqueueKeys (args.payload.getD []) := by
  unfold enqueueJobArgs at h
  dsimp only at h
  split at h
  · cases h
  · obtain rfl := Option.some.inj h
    have hsource : KeysAmong enqueueKeys [("source", .string "django_app")] := by
      intro name hname
      rw [List.mem_singleton.1 hname]
      exact List.mem_cons_self
    rw [Option.getD_some]
    generalize (posted "url" post).filter _ = url
    cases url with
    | none =>
      apply KeysAmong.set_if
      · exact ((KeysAmong.set_if (hsource.set (by decide) _) hsource).set (by decide) _).set (by decide) _
      · exact KeysAmong.set_if (hsource.set (by decide) _) hsource
    | some url =>
      apply KeysAmong.set _ (by decide)
      apply KeysAmong.set_if
      · exact ((KeysAmong.set_if (hsource.set (by decide) _) hsource).set (by decide) _).set (by decide) _
      · exact KeysAmong.set_if (hsource.set (by decide) _) hsource

theorem deferred_request {profileId : String} {request : EnqueueRequest} {args : JobArgs}
    {render : Json → String} (hdownload : request.isDownload = true)
    (h : request.args render profileId = some args) : Deferred (args.payload.getD []) := by
  cases request with
  | createJob jobType payload idempotencyKey => cases hdownload
  | download data =>
    unfold EnqueueRequest.args downloadArgs at h
    dsimp only at h
    split at h
    · cases h
    · obtain rfl := Option.some.inj h
      exact .of_keys ["source", "url", "source_type", "media_type", "subtitles", "manual_enqueue"] rfl
        (by decide)
  | enqueueJob post token =>
    exact .of_subset enqueueKeys (keysAmong_enqueueJobArgs h) (by decide)

theorem orderly_createJob {db : Database} {args : JobArgs} (h : db.Orderly)
    (hargs : Deferred (args.payload.getD [])) (createdAt updatedAt : Instant) :
    (createJob args createdAt updatedAt db).2.Orderly := by
  unfold createJob
  cases existingJob args db.jobs with
  | some found => exact h
  | none =>
    intro i job hrow
    dsimp only at hrow
    rw [Database.lookup_create] at hrow
    split at hrow
    · obtain rfl := Option.some.inj hrow
      exact hargs
    · exact h i job hrow

/-- An edit of a row's names leaves its item known when they agree. -/
theorem known_editMetadata {profileId title sourceName : String} {id : Nat} {now : Instant}
    (h : Known w.library w.recorded)
    (hnames : w.NamesAgree host (.editMetadata profileId id title sourceName now)) :
    Known (w.library.editMetadata profileId id title sourceName now) w.recorded := by
  unfold Library.editMetadata
  split
  · next heditable =>
    intro item hitem
    obtain ⟨huid, hknown⟩ := h item hitem
    refine ⟨huid, ?_⟩
    intro source hsource
    have hother : ∀ n row, n ≠ id → w.library.downloads.rows.lookup n = some row →
        IsItem source item.2 row → ∃ n row, (w.library.downloads.save id
          (Library.editedColumns title sourceName now)).rows.lookup n = some row ∧
          IsItem source item.2 row := by
      intro n row hne hrow his
      refine ⟨n, row, ?_, his⟩
      rw [Downloads.lookup_save, if_neg hne]
      exact hrow
    rcases hnames heditable item hitem source hsource with hname | ⟨n, row, hne, hrow, his⟩
    · obtain ⟨n, row, hrow, his⟩ := hknown source hsource
      by_cases hn : n = id
      · subst n
        refine ⟨id, Json.update (Library.editedColumns title sourceName now) row, ?_, ?_⟩
        · rw [Downloads.lookup_save, if_pos rfl, hrow]
          rfl
        · have hnodup : ((Library.editedColumns title sourceName now).map Prod.fst).Nodup := by
            rw [show (Library.editedColumns title sourceName now).map Prod.fst =
              ["title", "source_name", "last_seen_at"] from rfl]
            decide
          rw [isItem_iff] at his ⊢
          rw [Json.get_update_of_nodup hnodup, Json.get_update_of_nodup hnodup,
            Json.get_update_of_nodup hnodup, Json.get_update_of_nodup hnodup]
          refine ⟨his.1, his.2.1, ?_, his.2.2.2⟩
          rw [← hname]
          rfl
      · exact hother n row hn hrow his
    · exact hother n row hne hrow his
  · exact h

theorem lookup_saveSource {profileId : String} {sourceId i : Nat} {form : SourceFormData}
    {includeEnabled : Bool} {source : SourceConfig}
    (h : (s.saveSource profileId sourceId form includeEnabled).sources.lookup i = some source) :
    s.sources.lookup i = some source ∨ (i = sourceId ∧ ∃ old, s.sources.lookup i = some old ∧
      old.profileId = profileId ∧ source = applySourceFormData form includeEnabled old) := by
  rw [Library.saveSource, Table.lookup_update] at h
  obtain ⟨old, hold, rfl⟩ := Option.map_eq_some_iff.1 h
  split
  · next hp =>
    rw [Bool.and_eq_true, beq_iff_eq, decide_eq_true_eq] at hp
    exact .inr ⟨hp.1, old, hold, hp.2, rfl⟩
  · exact .inl hold

theorem known_saveSource {profileId : String} {sourceId : Nat} {form : SourceFormData}
    {includeEnabled : Bool} (h : Known w.library w.recorded)
    (hnames : w.NamesAgree host (.saveSource profileId sourceId form includeEnabled)) :
    Known (w.library.saveSource profileId sourceId form includeEnabled) w.recorded := by
  have hsame : (w.library.saveSource profileId sourceId form includeEnabled).downloads =
    w.library.downloads := rfl
  apply h.sources hsame
  intro item hitem source hsource
  rcases lookup_saveSource hsource with hold | ⟨hi, old, hold, hprofile, rfl⟩
  · exact .inl ⟨source, hold, rfl, rfl, rfl⟩
  · rw [hi] at hold
    rcases hnames old hold hprofile with hname | hrows
    · refine .inl ⟨old, ?_, rfl, rfl, hname⟩
      rw [hi]
      exact hold
    · apply Or.inr
      apply hrows
      rw [← hi]
      exact hitem

theorem known_save (h : Known s recorded) {fields : Columns} (hkeeps : KeepsKey fields) (id : Nat) :
    Known { s with downloads := s.downloads.save id fields } recorded := by
  have hrows : ∀ n row lookup, s.downloads.rows.lookup n = some row →
      (∀ item ∈ lookup, item.1 ∈ episodeColumns) → Columns.matches lookup row = true →
      ∃ row', (s.downloads.save id fields).rows.lookup n = some row' ∧
        Columns.matches lookup row' = true := by
    intro n row lookup hrow hlookup hmatches
    rw [Downloads.lookup_save]
    split
    · next hn =>
      rw [← hn, hrow]
      exact ⟨_, rfl, (hkeeps.matches_update hlookup row).trans hmatches⟩
    · exact ⟨row, hrow, hmatches⟩
  exact h.rows rfl hrows

theorem known_toggleSource (h : Known s recorded) (profileId : String) (sourceId : Nat) :
    Known (s.toggleSource profileId sourceId) recorded := by
  have hsame : (s.toggleSource profileId sourceId).downloads = s.downloads := rfl
  apply h.sources hsame
  intro item _ source hsource
  rw [Library.toggleSource, Table.lookup_update] at hsource
  obtain ⟨old, hold, rfl⟩ := Option.map_eq_some_iff.1 hsource
  refine .inl ⟨old, hold, ?_⟩
  split <;> exact ⟨rfl, rfl, rfl⟩

theorem known_addSource (h : Known s recorded) {sourceId : Nat}
    (hfresh : sourceId ∉ recorded.map Prod.fst) (source : SourceConfig) :
    Known { s with sources := AList.insert sourceId source s.sources } recorded := by
  have hsame : ({ s with sources := AList.insert sourceId source s.sources } : Library).downloads =
    s.downloads := rfl
  apply h.sources hsame
  intro item hitem source' hsource
  have hne : item.1 ≠ sourceId := by
    rintro rfl
    exact hfresh (List.mem_map_of_mem hitem)
  dsimp only at hsource
  rw [AList.lookup_insert_ne hne] at hsource
  exact .inl ⟨source', hsource, rfl, rfl, rfl⟩

theorem known_deleteSource (h : Known s recorded) (profileId : String) (sourceId : Nat) :
    Known (s.deleteSource profileId sourceId) recorded := by
  have hsame : (s.deleteSource profileId sourceId).downloads = s.downloads := rfl
  apply h.sources hsame
  intro item _ source hsource
  rw [Library.deleteSource, Table.lookup_delete] at hsource
  obtain ⟨hold, -⟩ := Option.filter_eq_some_iff.1 hsource
  exact .inl ⟨source, hold, rfl, rfl, rfl⟩

theorem Tidy.step {event : HistoryEvent} (h : Tidy w) (hnames : w.NamesAgree host event)
    (hstep : w.step host event = some t) : Tidy t := by
  cases event with
  | pass replies =>
    obtain ⟨r, hrun, rfl⟩ := Option.map_eq_some_iff.1 hstep
    have htidy := h.pass hrun
    exact ⟨htidy.jobs, htidy.programs, htidy.known⟩
  | work event =>
    obtain ⟨hwork, hstep⟩ := Option.ite_none_right_eq_some.1 hstep
    obtain ⟨pipeline, hpipeline, rfl⟩ := Option.map_eq_some_iff.1 hstep
    exact h.work hwork hnames hpipeline
  | request profileId request createdAt updatedAt =>
    obtain ⟨hdownload, hstep⟩ := Option.ite_none_right_eq_some.1 hstep
    obtain ⟨args, hargs, rfl⟩ := Option.map_eq_some_iff.1 hstep
    exact h.setLibrary (orderly_createJob h.jobs (deferred_request hdownload hargs) _ _)
      (h.known.same rfl rfl)
  | saveRow id fields =>
    obtain ⟨hkeeps, hstep⟩ := Option.ite_none_right_eq_some.1 hstep
    obtain rfl := Option.some.inj hstep
    exact h.setLibrary (fun i job hrow => h.jobs i job hrow) (known_save h.known hkeeps id)
  | editMetadata profileId id title sourceName now =>
    obtain rfl := Option.some.inj hstep
    apply h.setLibrary
    · unfold Library.editMetadata
      split <;> exact h.jobs
    · exact known_editMetadata h.known hnames
  | saveSource profileId sourceId form includeEnabled =>
    obtain rfl := Option.some.inj hstep
    exact h.setLibrary h.jobs (known_saveSource h.known hnames)
  | toggleSource profileId sourceId =>
    obtain rfl := Option.some.inj hstep
    exact h.setLibrary (fun i job hrow => h.jobs i job hrow) (known_toggleSource h.known profileId sourceId)
  | addSource sourceId source =>
    obtain ⟨⟨-, hfresh⟩, hstep⟩ := Option.ite_none_right_eq_some.1 hstep
    obtain rfl := Option.some.inj hstep
    exact h.setLibrary (fun i job hrow => h.jobs i job hrow) (known_addSource h.known hfresh source)
  | deleteSource profileId sourceId =>
    obtain rfl := Option.some.inj hstep
    exact h.setLibrary (fun i job hrow => h.jobs i job hrow) (known_deleteSource h.known profileId sourceId)
  | configure settings appSettings =>
    obtain rfl := Option.some.inj hstep
    exact h.setLibrary h.jobs (h.known.same rfl rfl)

theorem mem_newEpisodes {before after : Database} {episode : FoundEpisode}
    (h : episode ∈ newEpisodes before after) : ∃ i, before.jobs.lookup i = none ∧
      after.jobs.lookup i = some episode.job ∧ ∃ item, episode.job.foundItem = some (episode.sourceId, item) := by
  obtain ⟨⟨i, job⟩, hentry, hsome⟩ := List.mem_filterMap.1 h
  obtain ⟨hnone, hsome⟩ := Option.ite_none_right_eq_some.1 hsome
  obtain ⟨⟨id, item⟩, hitem, rfl⟩ := Option.map_eq_some_iff.1 hsome
  rw [Option.isNone_iff_eq_none] at hnone
  exact ⟨i, hnone, Table.mem_entries_iff.1 hentry, item, hitem⟩

/-- The item of a job that a pass makes is that of its candidate. -/
theorem itemUid_newJob (entry : Columns) (profileId : String) (source : Nat × SourceConfig) (limit : Nat)
    (createdAt updatedAt : Instant) :
    (newJob ((candidateOf host entry).args host profileId source limit) createdAt updatedAt).itemUid host =
      (candidateOf host entry).uid := by
  have hget : Json.get "item_uid" (newJob ((candidateOf host entry).args host profileId source limit)
      createdAt updatedAt).payload.dict = some (.string (candidateOf host entry).uid) := rfl
  rw [Job.itemUid, hget, Host.textOr_text]
  exact cut255_cut255 _

/-- Where all that is recorded is known, no pass makes a job for it again. -/
theorem Tidy.remembers (h : Tidy w) : w.Remembers host := by
  intro replies r s hrun episode hepisode hrecorded
  obtain ⟨i, hnone, hrow, item, hitem⟩ := mem_newEpisodes hepisode
  obtain ⟨v, -, hv, entry, -, hmade⟩ := (pass_bounded hrun).made i episode.job hrow hnone
  obtain ⟨createdAt, updatedAt, hjob⟩ := hmade.job
  rw [hjob, foundItem_newJob] at hitem
  obtain ⟨hid, -⟩ := Prod.mk.inj (Option.some.inj hitem)
  have hsource := mem_sourcesInOrder hv
  obtain ⟨huid, hknown⟩ := h.known _ hrecorded
  rw [FoundEpisode.item] at huid hknown
  dsimp only at huid hknown
  rw [hjob, itemUid_newJob] at huid hknown
  rw [← hid] at hknown
  obtain ⟨n, row, hrow', his⟩ := hknown v.source.2 hsource
  have hunknown := hmade.unknown
  rw [Library.wasDownloaded, hasRow_of_isItem hrow' his huid, Bool.true_or, Bool.true_or] at hunknown
  cases hunknown

end

end EpisodeHistory

/-- While names agree, no pass finds an episode again that has been recorded. -/
theorem recorded_never_rediscovered (host : Host) (library : Library) (events : List HistoryEvent)
    (hjobs : library.database.Orderly)
    (hnames : Along (EpisodeHistory.step host) (EpisodeHistory.NamesAgree host) (.initial library) events)
    (hrun : exec (EpisodeHistory.step host) (.initial library) events = some w) : w.Remembers host := by
  have htidy : w.Tidy := by
    apply exec_invariant _ _ hnames hrun
    · exact fun w event t h hevent hstep => h.step hevent hstep
    · exact EpisodeHistory.tidy_initial hjobs
  exact htidy.remembers

/-- As `NamesAgree`, without looking for other rows. -/
def EpisodeHistory.keepsNames (host : Host) (w : EpisodeHistory) : HistoryEvent → Bool
  | .work (.advance i _) => w.pipeline.processes[i]?.all fun process =>
    match process.program with
    | .call (.updateOrCreateDownload lookup _) _ => w.found.all fun episode =>
      !episode.isFor host lookup || (w.library.sources.lookup episode.sourceId).all fun source =>
        (sourceColumns source.profileId source).matches lookup
    | _ => true
  | .editMetadata _ _ _ sourceName _ => w.recorded.all fun item =>
    (w.library.sources.lookup item.1).all fun source => strip sourceName = source.name
  | .saveSource _ sourceId form includeEnabled => (w.library.sources.lookup sourceId).all fun source =>
    (applySourceFormData form includeEnabled source).name = source.name
  | _ => true

theorem EpisodeHistory.namesAgree_of_keepsNames {host : Host} {w : EpisodeHistory} {event : HistoryEvent}
    (h : w.keepsNames host event = true) : w.NamesAgree host event := by
  unfold keepsNames at h
  split at h
  · intro process hi lookup defaults k hprogram episode hfound hfor source hsource
    left
    rw [hi, Option.all_some] at h
    rw [hprogram] at h
    have hepisode := List.all_eq_true.1 h episode hfound
    rw [hfor, Bool.not_true, Bool.false_or, hsource] at hepisode
    exact hepisode
  · intro _ item hitem source hsource
    left
    have hall := List.all_eq_true.1 h item hitem
    rw [hsource, Option.all_some, decide_eq_true_eq] at hall
    exact hall
  · intro source hsource _
    left
    rw [hsource, Option.all_some, decide_eq_true_eq] at h
    exact h
  · next hother hother' hother'' =>
    cases event with
    | work event =>
      cases event with
      | advance i reply => exact absurd rfl (hother i reply)
      | _ => trivial
    | editMetadata profileId id title sourceName now =>
      exact absurd rfl (hother' profileId id title sourceName now)
    | saveSource profileId sourceId form includeEnabled =>
      exact absurd rfl (hother'' profileId sourceId form includeEnabled)
    | _ => trivial

/-- The feed has one episode. -/
def episodeReplies (calls : Nat) : List Reply :=
  ([{}, {}, { candidates := ([[("item_uid", .string "a"), ("title", .string "A"),
    ("media_url", .string "https://m/a.mp3")]], none) }] : List Reply) ++ List.replicate calls ({} : Reply)

/-- The episode's file is downloaded and needs no conversion. -/
def downloadReplies : List Reply :=
  let files : Files := AList.insert (Path.parse "/d/N/a.mp3") (.file 7) ∅
  [{}, {}, {}, { info := .ok (.object [("filepath", .string "/d/N/a.mp3")]), files := some files }, {},
    { filename := "/d/N/a.mp3" }, {}, {}, {}, {}, {}]

/-- The episode is found, its row is recorded, and its job ends. -/
def recordingEvents : List HistoryEvent :=
  [.pass (episodeReplies 5), .work (.startJob 1)] ++
    downloadReplies.map (fun reply => .work (.advance 0 reply)) ++
    [.work (.crash 0), .work (.work 1 (.finish 0 .failed none))]

def sourceForm (name : String) : SourceFormData where
  name := name
  url := "https://n/feed"
  mediaType := none
  enabled := true
  subtitles := true
  subtitleOffsetSeconds := none
  maxDownloads := some 2
  deleteExplicitContent := false
  includeShorts := false
  includeLivestreams := false
  titleExclude := ""

/-- The source and the row are edited, but keep the name. -/
def podcastHistory : List HistoryEvent :=
  recordingEvents ++ [.saveSource "p" 1 (sourceForm "N") false, .editMetadata "p" 1 "B" " N " 0,
    .pass (episodeReplies 1)]

theorem orderly_podcastLibrary : podcastLibrary.database.Orderly := by
  intro i job hrow
  cases hrow

theorem podcast_never_rediscovered : ∃ w, exec (EpisodeHistory.step .plain) (.initial podcastLibrary)
    podcastHistory = some w ∧ w.recorded = [(1, "a")] ∧ w.Remembers .plain := by
  have hrun : (exec (EpisodeHistory.step .plain) (.initial podcastLibrary) podcastHistory).any
      (fun w => w.recorded = [(1, "a")]) = true := by
    decide +kernel
  have hkeeps : Along (EpisodeHistory.step .plain) (fun w event => w.keepsNames .plain event = true)
      (.initial podcastLibrary) podcastHistory := by
    decide +kernel
  obtain ⟨w, hw, hrecorded⟩ := (Option.any_eq_true _ _).1 hrun
  exact ⟨w, hw, of_decide_eq_true hrecorded, recorded_never_rediscovered .plain podcastLibrary _
    orderly_podcastLibrary (hkeeps.mono fun _ _ => EpisodeHistory.namesAgree_of_keepsNames) hw⟩

/-- The source is renamed, and the next pass finds the episode again. -/
theorem renamed_source_rediscovers : ∃ w, exec (EpisodeHistory.step .plain) (.initial podcastLibrary)
    (recordingEvents ++ [.saveSource "p" 1 (sourceForm "M") false]) = some w ∧ ¬w.Remembers .plain := by
  have hcheck : (exec (EpisodeHistory.step .plain) (.initial podcastLibrary)
      (recordingEvents ++ [.saveSource "p" 1 (sourceForm "M") false])).any (fun w =>
        (runSerially .plain (checkForEpisodes .plain) (episodeReplies 5) w.library).any fun r =>
          (EpisodeHistory.newEpisodes w.library.database r.2.library.database).any fun episode =>
            episode.item .plain ∈ w.recorded) = true := by
    decide +kernel
  obtain ⟨w, hw, hpass⟩ := (Option.any_eq_true _ _).1 hcheck
  obtain ⟨⟨r, s⟩, hrun, hnew⟩ := (Option.any_eq_true _ _).1 hpass
  obtain ⟨episode, hepisode, hrecorded⟩ := List.any_eq_true.1 hnew
  refine ⟨w, hw, ?_⟩
  intro h
  exact h _ r s hrun episode hepisode (of_decide_eq_true hrecorded)

end GetOffline
