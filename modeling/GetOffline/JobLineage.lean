import GetOffline.HandlerWrites

set_option autoImplicit true

namespace GetOffline
open Python Effects Program Execution

def HandlerOp.isCreate : HandlerOp β → Bool
  | .createJob _ => true
  | _ => false

/-- The program inserts no job. -/
abbrev Childless (p : Handler α) : Prop :=
  p.Calls fun op => op.isCreate = false

theorem HandlerOp.IsCalm.isCreate {op : HandlerOp β} (h : op.IsCalm jobId job) : op.isCreate = false := by
  cases op <;> first | rfl | exact False.elim h

section
variable {host : Host} {jobId : Nat} {job : Job} {lookup defaults payload : Columns}

end

/-- The types of the jobs that a job's process may insert. -/
def nextStages : String → List String
  | "check_for_episodes" | "update_downloads" => ["download_episode"]
  | "download_episode" | "download_single" => ["transcode_media", "generate_transcript"]
  | "transcode_media" => ["generate_transcript"]
  | _ => []

def isDiscovery (jobType : String) : Bool :=
  jobType ∈ ["check_for_episodes", "update_downloads"]

def NoJobYet (past : List Record) : Prop :=
  ∀ record ∈ past, record.op.isCreate = false

namespace Origin

/-- The job may come of what the process runs for. -/
def Makes : Origin → JobArgs → Prop
  | .job _ copy, args => args.jobType ∈ nextStages copy.jobType ∧
    (isDiscovery copy.jobType = false → args.profileId = copy.profileId)
  | .batchDownload profileId _, args => args.jobType = "download_single" ∧ args.profileId = profileId
  | .manualUpload profileId _, args =>
    args.jobType ∈ ["generate_ocr", "generate_transcript"] ∧ args.profileId = profileId

/-- The job with that id, and one that works on a single file. -/
def isFileJob (id : Nat) : Origin → Bool
  | .job i copy => i == id && !isDiscovery copy.jobType
  | _ => false

def lineageRules (origin : Origin) : Rules where
  permits past _ op := match op with
    | .createJob args => origin.Makes args ∧ ∀ id, origin.isFileJob id = true → NoJobYet past
    | _ => True
  answers _ _ _ _ := True
  ends _ := True

theorem permits_childless (origin : Origin) (past : List Record) {β : Type} (op : HandlerOp β)
    (h : op.isCreate = false) : origin.lineageRules.permits past op := by
  cases op <;> trivial

end Origin

theorem NoJobYet.extends (h : NoJobYet past)
    (hpast : Extends (fun op => op.isCreate = false) past past') : NoJobYet past' := by
  obtain ⟨calls, rfl, hcalls⟩ := hpast
  intro record hrecord
  exact (List.mem_append.1 hrecord).elim (h record) (hcalls record)

/-- While no job has been inserted, a program that inserts none leaves it at that. -/
theorem Childless.meets {origin : Origin} {p : Handler α} (hp : Childless p) (h : NoJobYet past) :
    p.Meets origin.lineageRules.contract (Returns fun _ past' => NoJobYet past') past := by
  apply (Yields.extends hp origin.permits_childless past).mono
  exact fun _ _ hpast _ _ => h.extends hpast.1

theorem Childless.bind_meets {origin : Origin} {p : Handler α} {f : α → Handler β}
    {S : β → List Record → Prop} (hp : Childless p) (h : NoJobYet past)
    (hf : ∀ a past', NoJobYet past' → (f a).Meets origin.lineageRules.contract (Returns S) past') :
    (p >>= f).Meets origin.lineageRules.contract (Returns S) past :=
  Meets.bind_returns (hp.meets h) hf

section
variable {host : Host} {jobId : Nat} {job : Job} {payload : Columns} {origin : Origin}
  {past : List Record}

end

-- Discovery and requests insert as many jobs as they find episodes, rows and files

/-- A job that the call inserts may come of the origin, which is not that of a single file. -/
abbrev Breeds (origin : Origin) (p : Handler α) : Prop :=
  p.Calls fun op => match op with
    | .createJob args => origin.Makes args
    | _ => True

section
variable {host : Host} {origin : Origin}

theorem Breeds.meets {p : Handler Unit} (hp : Breeds origin p)
    (h : ∀ id, origin.isFileJob id = false) :
    p.Meets origin.lineageRules.contract (fun _ _ => True) [] := by
  apply (Yields.extends hp _ []).mono fun _ _ _ => trivial
  intro past β op hop
  cases op with
  | createJob args =>
    refine ⟨hop, fun id hid => ?_⟩
    rw [h id] at hid
    cases hid
  | _ => trivial

end

namespace Pipeline

variable {host : Host} {w t : Pipeline}

end Pipeline

end GetOffline
