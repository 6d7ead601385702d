import GetOffline.Execution
import GetOffline.JobRequests
import GetOffline.MediaRequests

set_option autoImplicit true

namespace GetOffline
open Python Effects Program Execution

/-- What a process runs for: a job, of which it has a copy, or a request of a profile. -/
inductive Origin
  | job (id : Nat) (copy : Job)
  | batchDownload (profileId : String) (ids : List Nat)
  | manualUpload (profileId : String) (names : List String)

/-- `HANDLERS`; documents and retention have no part in this. -/
def jobHandler (host : Host) (id : Nat) (job : Job) : Option (Handler Unit) :=
  match job.jobType with
  | "check_for_episodes" | "update_downloads" => some (checkForEpisodes host)
  | "download_episode" | "download_single" => some (downloadEpisode host id job)
  | "transcode_media" => some (transcodeMedia host id job)
  | "generate_transcript" => some (generateTranscript host id job)
  | _ => none

def Origin.program (host : Host) : Origin → Option (Handler Unit)
  | .job id copy => jobHandler host id copy
  | .batchDownload profileId ids => some (GetOffline.batchDownload host profileId ids)
  | .manualUpload profileId names => some (GetOffline.manualUpload host profileId names)

/-- A call that a process has made, and what came of it. -/
structure Record where
  {β : Type}
  op : HandlerOp β
  answer : Except Error β

/-- A process: what it was started for, what it has done, and what it still has to do. -/
structure Process where
  origin : Origin
  past : List Record
  program : Handler Unit

/-- The rows and files, the processes in the order in which they were started, and the jobs that have
been inserted, each with its maker. -/
structure Pipeline where
  library : Library
  processes : List Process
  created : List (Origin × JobArgs)

/-- A worker starts on a job, whatever its status; a request comes in; a process makes its next call
or dies; the runner notes how a job stands; users change the sources and the settings; files come and
go. -/
inductive PipelineEvent
  | startJob (id : Nat)
  | batchDownload (profileId : String) (ids : List Nat)
  | manualUpload (profileId : String) (names : List String)
  | advance (i : Nat) (reply : Reply)
  | crash (i : Nat)
  | work (id : Nat) (work : JobWork)
  | configure (sources : Table Nat SourceConfig) (settings : Table (String × String) String)
      (appSettings : Table String String)
  | changeFiles (files : Files)

/-- The row that a call inserts into `jobs`. -/
def HandlerOp.creates (reply : Reply) (s : Library) : HandlerOp β → Option JobArgs
  | .createJob args =>
    if reply.outcome.applied = true ∧ (existingJob args s.database.jobs).isNone then some args
    else none
  | _ => none

namespace Pipeline

def initial (library : Library) : Pipeline where
  library := library
  processes := []
  created := []

def start (host : Host) (origin : Origin) (w : Pipeline) : Option Pipeline :=
  (origin.program host).map fun program =>
    { w with processes := w.processes ++ [⟨origin, [], program⟩] }

/-- The process has made a call. -/
def called (i : Nat) (process : Process) {β : Type} (op : HandlerOp β)
    (k : Except Error β → Handler Unit) (reply : Reply) (answer : Except Error β) (library : Library)
    (w : Pipeline) : Pipeline where
  library := library
  processes := w.processes.set i
    { process with past := process.past ++ [⟨op, answer⟩], program := k answer }
  created := w.created ++ ((op.creates reply w.library).map fun args => (process.origin, args)).toList

def advance (host : Host) (i : Nat) (reply : Reply) (w : Pipeline) : Option Pipeline :=
  w.processes[i]?.bind fun process =>
    match process.program with
    | .call op k =>
      (op.run host reply w.library).map fun r => w.called i process op k reply r.1 r.2
    | _ => none

def step (host : Host) (w : Pipeline) : PipelineEvent → Option Pipeline
  | .startJob id => (w.library.database.jobs.lookup id).bind fun job => w.start host (.job id job)
  | .batchDownload profileId ids => w.start host (.batchDownload profileId ids)
  | .manualUpload profileId names => w.start host (.manualUpload profileId names)
  | .advance i reply => w.advance host i reply
  | .crash i => w.processes[i]?.map fun process =>
    { w with processes := w.processes.set i { process with program := .done () } }
  | .work id work => some { w with
      library := { w.library with database := w.library.database.save id (JobWork.apply · work) } }
  | .configure sources settings appSettings =>
    some { w with library := { w.library with sources, settings, appSettings } }
  | .changeFiles files => some { w with library := { w.library with files } }

end Pipeline

end GetOffline
