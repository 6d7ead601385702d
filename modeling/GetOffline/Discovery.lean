import GetOffline.EpisodeChecks
import GetOffline.JobTurns
import GetOffline.SerialRuns

set_option autoImplicit true

namespace GetOffline
open Python Effects Program Database

/-- What is looked at of an entry of a feed or of a channel. -/
structure Candidate where
  uid : String
  url : String
  title : String
  entry : Columns

def candidateOf (host : Host) (entry : Columns) : Candidate where
  uid := cut255 (host.textOr (Json.get "item_uid" entry) "")
  url := host.textOr (Json.get "item_url" entry) ""
  title := host.textOr (Json.get "title" entry) ""
  entry := entry

/-- The key of the job for an item of a source. -/
def itemKey (host : Host) (profileId : String) (id : Nat) (item : String) : String :=
  partsKey host ["download_episode", profileId, if id = 0 then "" else toString id, item]

namespace Candidate

def item (c : Candidate) : String :=
  if c.uid ≠ "" then c.uid else if c.url ≠ "" then c.url else c.title

def key (host : Host) (profileId : String) (id : Nat) (c : Candidate) : String :=
  itemKey host profileId id c.item

/-- The job that is asked for a candidate. -/
def args (host : Host) (profileId : String) (source : Nat × SourceConfig) (limit : Nat) (c : Candidate) :
    JobArgs :=
  episodeArgs profileId source.1 source.2 limit c.uid c.url c.title (c.key host profileId source.1)
    c.entry

end Candidate

namespace Library

/-- Some row of the source has the text, which is not empty, in the column. -/
def hasRow (profileId : String) (source : SourceConfig) (column text : String) (s : Library) : Bool :=
  text ≠ "" && s.downloads.rows.any fun _ row =>
    Columns.matches (sourceColumns profileId source ++ [(column, .string text)]) row

def wasDownloaded (profileId : String) (source : SourceConfig) (c : Candidate) (s : Library) : Bool :=
  s.hasRow profileId source "item_uid" c.uid || s.hasRow profileId source "item_url" c.url ||
    s.hasRow profileId source "title" c.title

/-- The limit of a source in the settings as they are. -/
def sourceLimit (source : SourceConfig) (s : Library) : Except Error Nat :=
  match source.maxDownloads with
  | some (.ofNat (n + 1)) => .ok (n + 1)
  | some (.negSucc _) => .ok 1
  | _ =>
    let profileDefault := strip ((s.settings.lookup (source.profileId, "max_downloads")).getD "")
    if isDigit profileDefault then (intOfText profileDefault).map fun limit => (max 1 limit).toNat
    else .ok 10

def limitOf (s : Library) (source : Nat × SourceConfig) : Nat :=
  (s.sourceLimit source.2).toOption.getD 0

end Library

/-- A source of which a pass has got the candidates. -/
structure Visit where
  source : Nat × SourceConfig
  candidates : List Columns

/-- The candidates that are not known yet, up to the limit of the source. -/
def Visit.admitted (host : Host) (s : Library) (v : Visit) : List Candidate :=
  ((v.candidates.map (candidateOf host)).filter fun c =>
    !s.wasDownloaded v.source.2.profileId v.source.2 c).take (s.limitOf v.source)

def Visit.requests (host : Host) (s : Library) (v : Visit) : List JobArgs :=
  (v.admitted host s).map (Candidate.args host v.source.2.profileId v.source (s.limitOf v.source))

def HandlerOp.visit : HandlerOp β → Except Error β → Option Visit
  | .candidates source, .ok answer => some ⟨source, answer.1⟩
  | _, _ => none

/-- A job is created, or one that is there is reserved. -/
def HandlerOp.takesSlot : HandlerOp β → Except Error β → Bool
  | .createJob _, _ => true
  | .activeDownloadJob _, .ok (some _) => true
  | _, _ => false

/-- The sources that have been visited, in their order. -/
def visits (past : List Record) : List Visit :=
  past.filterMap fun record => record.op.visit record.answer

/-- A visit opens as many slots as the limit of its source says, and a job takes one. -/
def Record.slots (limit : Nat × SourceConfig → Nat) (slots : Nat) (record : Record) : Option Nat :=
  match record.op.visit record.answer with
  | some visit => some (limit visit.source)
  | none =>
    if record.op.takesSlot record.answer then
      match slots with
      | n + 1 => some n
      | 0 => none
    else some slots

/-- The slots that are open in the end, unless more were taken than there were. -/
def slotsLeft (limit : Nat × SourceConfig → Nat) (past : List Record) : Option Nat :=
  past.foldlM (Record.slots limit) 0

theorem visits_append (past : List Record) (record : Record) :
    visits (past ++ [record]) = visits past ++ (record.op.visit record.answer).toList := by
  rw [visits, List.filterMap_append]
  cases h : record.op.visit record.answer with
  | none => simp only [List.filterMap, h, visits, Option.toList]
  | some visit => simp only [List.filterMap, h, visits, Option.toList]

theorem slotsLeft_append {limit : Nat × SourceConfig → Nat} (h : slotsLeft limit past = some n)
    (record : Record) : slotsLeft limit (past ++ [record]) = record.slots limit n := by
  rw [slotsLeft] at h ⊢
  simp only [List.foldlM_append, h, List.foldlM_cons, List.foldlM_nil, Option.bind_eq_bind,
    Option.bind_some, Option.pure_def, Option.bind_fun_some]

end GetOffline
