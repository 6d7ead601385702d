import GetOffline.HandlerRules

set_option autoImplicit true

namespace GetOffline
open Python Effects Program

/-- A call leaves the library as it is and raises, or has its effect, which may then be lost to the
caller. -/
theorem Reply.settle_cases (reply : Reply) (result : Except Error (β × Library)) (s : Library) :
    ((reply.settle result s).2 = s ∧ ∃ e, (reply.settle result s).1 = .error e) ∨
      ∃ answer s', result = .ok (answer, s') ∧ (reply.settle result s).2 = s' ∧
        ((reply.settle result s).1 = .ok answer ∨ ∃ e, (reply.settle result s).1 = .error e) := by
  unfold Reply.settle
  cases reply.outcome with
  | returned =>
    cases result with
    | error e => exact .inl ⟨rfl, e, rfl⟩
    | ok r => exact .inr ⟨r.1, r.2, rfl, rfl, .inl rfl⟩
  | rolledBack error => exact .inl ⟨rfl, _, rfl⟩
  | lost error =>
    cases result with
    | error e => exact .inl ⟨rfl, _, rfl⟩
    | ok r => exact .inr ⟨r.1, r.2, rfl, rfl, .inr ⟨_, rfl⟩⟩

def HandlerOp.WritesDownloads : HandlerOp β → Prop
  | .updateOrCreateDownload _ _ | .saveDownload _ _ => True
  | _ => False

def HandlerOp.WritesJobs : HandlerOp β → Prop
  | .createJob _ | .saveTouch _ _ | .saveRequeued _ _ => True
  | _ => False

namespace Library

/-- The rest of the library is as it was. -/
def ChangesFiles (s s' : Library) : Prop :=
  ∃ files, s' = { s with files }

def ChangesDownloads (s s' : Library) : Prop :=
  ∃ downloads, s' = { s with downloads }

def ChangesJobs (s s' : Library) : Prop :=
  ∃ database, s' = { s with database }

theorem changesFiles (s : Library) (files : Files) : s.ChangesFiles { s with files } :=
  ⟨files, rfl⟩

theorem changesDownloads (s : Library) (downloads : Downloads) :
    s.ChangesDownloads { s with downloads } :=
  ⟨downloads, rfl⟩

theorem changesJobs (s : Library) (database : Database) : s.ChangesJobs { s with database } :=
  ⟨database, rfl⟩

end Library

namespace Reply
variable {s : Library}

theorem settle_ok {P : Library → Prop} (reply : Reply) (answer : β) (hs : P s) (hs' : P s') :
    P (reply.settle (.ok (answer, s')) s).2 := by
  rcases reply.settle_cases (.ok (answer, s')) s with ⟨hsame, -⟩ | ⟨_, _, hresult, hsame, -⟩
  · rw [hsame]
    exact hs
  · obtain ⟨-, rfl⟩ := Prod.mk.inj (Except.ok.inj hresult)
    rw [hsame]
    exact hs'

/-- A call that may raise before it has its effect. -/
theorem settle_map {P : Library → Prop} (reply : Reply) (result : Except Error δ) {g : δ → β × Library}
    (hs : P s) (h : ∀ c, result = .ok c → P (g c).2) : P (reply.settle (result.map g) s).2 := by
  rcases reply.settle_cases (result.map g) s with ⟨hsame, -⟩ | ⟨answer, s', hresult, hsame, -⟩
  · rw [hsame]
    exact hs
  · rw [hsame]
    cases result with
    | error e => cases hresult
    | ok c =>
      have hc := h c rfl
      rw [Except.ok.inj hresult] at hc
      exact hc

end Reply

/-- A call changes only what it is there to change. -/
theorem HandlerOp.run_changes {op : HandlerOp β} {host : Host} {reply : Reply} {s : Library}
    {r : Except Error β × Library} (h : op.run host reply s = some r) :
    s.ChangesFiles r.2 ∨ (op.WritesDownloads ∧ s.ChangesDownloads r.2) ∨
      (op.WritesJobs ∧ s.ChangesJobs r.2) := by
  have hfiles := s.changesFiles
  have hsame := hfiles s.files
  have hdownloads := s.changesDownloads
  have hjobs := s.changesJobs
  cases op with
  | updateOrCreateDownload lookup defaults =>
    obtain rfl := Option.some.inj h
    exact .inr (.inl ⟨trivial, reply.settle_map _ (hdownloads s.downloads) fun r _ => hdownloads r.2⟩)
  | saveDownload id fields =>
    obtain rfl := Option.some.inj h
    exact .inr (.inl ⟨trivial, reply.settle_map _ (hdownloads s.downloads) fun t _ => hdownloads t⟩)
  | createJob args =>
    obtain rfl := Option.some.inj h
    exact .inr (.inr ⟨trivial, reply.settle_ok _ (hjobs s.database)
      (hjobs (GetOffline.createJob args reply.now reply.later s.database).2)⟩)
  | saveTouch id copy =>
    obtain rfl := Option.some.inj h
    exact .inr (.inr ⟨trivial, reply.settle_ok _ (hjobs s.database)
      (hjobs (s.database.save id copy.saveTouch))⟩)
  | saveRequeued id updatedAt =>
    obtain rfl := Option.some.inj h
    exact .inr (.inr ⟨trivial, reply.settle_ok _ (hjobs s.database)
      (hjobs (s.database.save id (Job.requeue updatedAt)))⟩)
  | downloadById pk profileId =>
    obtain rfl := Option.some.inj h
    exact .inl (reply.settle_map _ hsame fun _ _ => hsame)
  | mkdir path =>
    obtain rfl := Option.some.inj h
    exact .inl (reply.settle_map _ hsame fun files _ => hfiles files)
  | unlink path =>
    obtain rfl := Option.some.inj h
    exact .inl (reply.settle_map _ hsame fun files _ => hfiles files)
  | replace source destination =>
    obtain rfl := Option.some.inj h
    exact .inl (reply.settle_map _ hsame fun files _ => hfiles files)
  | targetPath source targetExt =>
    obtain ⟨result, -, rfl⟩ := Option.map_eq_some_iff.1 h
    exact .inl (reply.settle_map _ hsame fun _ _ => hsame)
  | storeUpload root stem suffix =>
    obtain ⟨path, -, rfl⟩ := Option.map_eq_some_iff.1 h
    exact .inl (hfiles _)
  | makeTemporary destination =>
    obtain ⟨-, h⟩ := Option.ite_none_right_eq_some.1 h
    obtain rfl := Option.some.inj h
    exact .inl (hfiles _)
  | createSubtitles media offset enabled contextName mode =>
    rw [HandlerOp.run] at h
    split at h
    · obtain rfl := Option.some.inj h
      exact .inl (hfiles _)
    · obtain rfl := Option.some.inj h
      exact .inl hsame
  | _ =>
    obtain rfl := Option.some.inj h
    first
      | exact .inl (reply.settle_ok _ hsame hsame)
      | exact .inl (hfiles _)

namespace HandlerOp
variable {host : Host} {reply : Reply} {s : Library}

theorem run_configuration {op : HandlerOp β} {r : Except Error β × Library}
    (h : op.run host reply s = some r) :
    r.2.sources = s.sources ∧ r.2.settings = s.settings ∧ r.2.appSettings = s.appSettings := by
  rcases run_changes h with ⟨files, hr⟩ | ⟨-, downloads, hr⟩ | ⟨-, database, hr⟩
  · rw [hr]
    exact ⟨rfl, rfl, rfl⟩
  · rw [hr]
    exact ⟨rfl, rfl, rfl⟩
  · rw [hr]
    exact ⟨rfl, rfl, rfl⟩

theorem run_downloads {op : HandlerOp β} {r : Except Error β × Library}
    (h : op.run host reply s = some r) (hop : ¬op.WritesDownloads) : r.2.downloads = s.downloads := by
  rcases run_changes h with ⟨files, hr⟩ | ⟨hwrites, -⟩ | ⟨-, database, hr⟩
  · rw [hr]
  · exact (hop hwrites).elim
  · rw [hr]

theorem run_database {op : HandlerOp β} {r : Except Error β × Library}
    (h : op.run host reply s = some r) (hop : ¬op.WritesJobs) : r.2.database = s.database := by
  rcases run_changes h with ⟨files, hr⟩ | ⟨-, downloads, hr⟩ | ⟨hwrites, -⟩
  · rw [hr]
  · rw [hr]
  · exact (hop hwrites).elim

/-- Either nothing is written and the call raises, or the row is there. -/
theorem run_updateOrCreate {lookup defaults : Columns} {r : Except Error Download × Library}
    (h : (updateOrCreateDownload lookup defaults).run host reply s = some r) :
    (r.2 = s ∧ ∃ e, r.1 = .error e) ∨
      ∃ id downloads, s.downloads.updateOrCreate lookup defaults = .ok (id, downloads) ∧
        r.2 = { s with downloads } ∧ (r.1 = .ok (downloads.copy id) ∨ ∃ e, r.1 = .error e) := by
  obtain rfl := Option.some.inj h
  rcases reply.settle_cases _ s with hraised | ⟨answer, s', hresult, hr⟩
  · exact .inl hraised
  · right
    cases hwrite : s.downloads.updateOrCreate lookup defaults with
    | error e =>
      rw [hwrite] at hresult
      cases hresult
    | ok c =>
      rw [hwrite] at hresult hr
      obtain ⟨rfl, rfl⟩ := Prod.mk.inj (Except.ok.inj hresult)
      exact ⟨c.1, c.2, rfl, hr⟩

theorem run_saveDownload {id : Nat} {fields : Columns} {r : Except Error Unit × Library}
    (h : (saveDownload id fields).run host reply s = some r) :
    (r.2 = s ∧ ∃ e, r.1 = .error e) ∨
      ∃ downloads, s.downloads.saveFields id fields = .ok downloads ∧ r.2 = { s with downloads } := by
  obtain rfl := Option.some.inj h
  rcases reply.settle_cases _ s with hraised | ⟨answer, s', hresult, hr, -⟩
  · exact .inl hraised
  · right
    cases hwrite : s.downloads.saveFields id fields with
    | error e =>
      rw [hwrite] at hresult
      cases hresult
    | ok downloads =>
      rw [hwrite] at hresult hr
      obtain ⟨-, rfl⟩ := Prod.mk.inj (Except.ok.inj hresult)
      exact ⟨downloads, rfl, hr⟩

theorem run_createJob_cases {args : JobArgs} {r : Except Error Nat × Library}
    (h : (createJob args).run host reply s = some r) :
    (r.2 = s ∧ ∃ e, r.1 = .error e) ∨ r.2 = { s with
      database := (GetOffline.createJob args reply.now reply.later s.database).2 } := by
  obtain rfl := Option.some.inj h
  rcases reply.settle_cases _ s with hraised | ⟨answer, s', hresult, hs, -⟩
  · exact .inl hraised
  · obtain ⟨-, rfl⟩ := Prod.mk.inj (Except.ok.inj hresult)
    exact .inr hs

theorem run_createJob {args : JobArgs} {r : Except Error Nat × Library}
    (h : (createJob args).run host reply s = some r) :
    r.2 = s ∨ r.2 = { s with
      database := (GetOffline.createJob args reply.now reply.later s.database).2 } :=
  (run_createJob_cases h).imp_left And.left

theorem run_saveTouch {id : Nat} {copy : Job} {r : Except Error Unit × Library}
    (h : (saveTouch id copy).run host reply s = some r) :
    r.2 = s ∨ r.2 = { s with database := s.database.save id copy.saveTouch } := by
  obtain rfl := Option.some.inj h
  exact reply.settle_ok (P := fun s' => s' = s ∨ s' = _) _ (.inl rfl) (.inr rfl)

theorem run_saveRequeued {id : Nat} {updatedAt : Instant} {r : Except Error Unit × Library}
    (h : (saveRequeued id updatedAt).run host reply s = some r) :
    r.2 = s ∨ r.2 = { s with database := s.database.save id (Job.requeue updatedAt) } := by
  obtain rfl := Option.some.inj h
  exact reply.settle_ok (P := fun s' => s' = s ∨ s' = _) _ (.inl rfl) (.inr rfl)

theorem run_downloadById {pk : Json} {profileId : String} {r : Except Error (Option Download) × Library}
    (h : (downloadById pk profileId).run host reply s = some r) (hr : r.1 = .ok (some download)) :
    pk.toInt = .ok download.id ∧ s.downloads.rows.lookup download.id = some download.columns := by
  obtain rfl := Option.some.inj h
  rcases reply.settle_cases _ s with ⟨-, e, hraised⟩ | ⟨answer, s', hresult, -, hanswer | ⟨e, he⟩⟩
  · rw [hr] at hraised
    cases hraised
  · rw [hr] at hanswer
    obtain rfl := Except.ok.inj hanswer
    cases hbyId : s.downloads.byId pk profileId with
    | error e =>
      rw [hbyId] at hresult
      cases hresult
    | ok found =>
      rw [hbyId] at hresult
      obtain ⟨rfl, -⟩ := Prod.mk.inj (Except.ok.inj hresult)
      exact Downloads.byId_spec hbyId
  · rw [hr] at he
    cases he

end HandlerOp

/-- What the process still has to do keeps to the rules. -/
def Process.Follows (rules : Rules) (process : Process) : Prop :=
  process.program.Meets rules.contract (fun _ past => rules.ends past) process.past

namespace Process
variable {rules : Rules} {process : Process}

theorem Follows.permits {k : Except Error β → Handler Unit} (h : process.Follows rules)
    (hop : process.program = .call op k) : rules.permits process.past op := by
  rw [Follows, hop, meets_call] at h
  exact h.1

theorem Follows.called {k : Except Error β → Handler Unit} {answer : Except Error β}
    (h : process.Follows rules) (hop : process.program = .call op k)
    (hanswer : rules.answers process.past op answer) :
    Process.Follows rules ⟨process.origin, process.past ++ [⟨op, answer⟩], k answer⟩ := by
  rw [Follows, hop, meets_call] at h
  exact h.2 answer _ ⟨hanswer, rfl⟩

theorem follows_crashed (h : rules.ends process.past) :
    Process.Follows rules { process with program := .done () } :=
  meets_pure.2 h

end Process

namespace Pipeline
variable {host : Host} {w t : Pipeline}

theorem start_spec (h : w.start host origin = some t) :
    ∃ program, origin.program host = some program ∧
      t = { w with processes := w.processes ++ [⟨origin, [], program⟩] } := by
  obtain ⟨program, hprogram, rfl⟩ := Option.map_eq_some_iff.1 h
  exact ⟨program, hprogram, rfl⟩

theorem advance_spec {reply : Reply} (h : w.advance host i reply = some t) :
    ∃ process, w.processes[i]? = some process ∧
      ∃ (β : Type) (op : HandlerOp β) (k : Except Error β → Handler Unit) (r : Except Error β × Library),
        process.program = .call op k ∧ op.run host reply w.library = some r ∧
        t = w.called i process op k reply r.1 r.2 := by
  obtain ⟨process, hprocess, h⟩ := Option.bind_eq_some_iff.1 h
  refine ⟨process, hprocess, ?_⟩
  cases hop : process.program with
  | done a =>
    rw [hop] at h
    cases h
  | raise e =>
    rw [hop] at h
    cases h
  | call op k =>
    rw [hop] at h
    obtain ⟨r, hr, rfl⟩ := Option.map_eq_some_iff.1 h
    exact ⟨_, op, k, r, rfl, hr, rfl⟩

/-- A process after a call is the one that has made it, or one of the others. -/
theorem mem_called {process p : Process} {k : Except Error β → Handler Unit} {reply : Reply}
    {answer : Except Error β} {library : Library}
    (hp : p ∈ (w.called i process op k reply answer library).processes) :
    p = ⟨process.origin, process.past ++ [⟨op, answer⟩], k answer⟩ ∨ p ∈ w.processes :=
  (List.mem_or_eq_of_mem_set hp).symm

end Pipeline

end GetOffline
