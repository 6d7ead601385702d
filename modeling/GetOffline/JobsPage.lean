import GetOffline.LibraryPages
import GetOffline.PythonDecimal
import GetOffline.StatusPolls

set_option autoImplicit true

namespace GetOffline
open Python Execution

-- frontend/static/app/jobs.js

/-- What the API answers for a page of the jobs. -/
abbrev JobsAnswer := List JobSummary × Pagination

/-- What the page shows, and its requests that have not come back, with their answers once there are any. -/
structure JobsPage where
  jobs : List JobSummary
  page : Int
  totalPages : Int
  waiting : List (Nat × Option JobsAnswer)
  /-- All that has been shown, the last first. -/
  shown : List JobsAnswer

namespace JobsPage

/-- `renderPagination`: there is a button for the target, and it is enabled. -/
def offers (target : Nat) (p : JobsPage) : Bool :=
  1 < p.totalPages &&
    (target = p.page - 1 && 1 < p.page ||
      max 1 (p.page - 2) ≤ target && (target : Int) ≤ min p.totalPages (p.page + 2) && (target : Int) ≠ p.page ||
      target = p.page + 1 && p.page < p.totalPages)

/-- `loadPage` up to its `fetch`. -/
def loadPage (target : Nat) (p : JobsPage) : JobsPage :=
  if target < 1 then p else { p with waiting := p.waiting ++ [(target, none)] }

/-- `renderJobs` and `renderPagination` of an answer. -/
def render (answer : JobsAnswer) (p : JobsPage) : JobsPage :=
  { p with
    jobs := answer.1
    page := answer.2.page
    totalPages := answer.2.totalPages
    shown := answer :: p.shown }

/-- The ids that have been shown. -/
def seen (p : JobsPage) : List Nat :=
  p.shown.flatMap fun answer => answer.1.map JobSummary.id

theorem seen_render (answer : JobsAnswer) (p : JobsPage) :
    (p.render answer).seen = answer.1.map JobSummary.id ++ p.seen := List.flatMap_cons

end JobsPage

/-- The page of a profile, and the system behind it. -/
structure JobsWorld (W P C : Type) where
  system : JobWorld W P C
  page : JobsPage

/-- `answer` tells whether the request has come back well. -/
inductive JobsEvent (W P C : Type)
  | server (e : JobEvent W P C)
  | click (target : Nat)
  | serve (i : Nat)
  | answer (i : Nat) (ok : Bool)

def jobsRequest (profileId : String) (target : Nat) (jobs : JobTable) : JobsAnswer :=
  frontendJobs profileId (some (toString target)) (some "100") jobs

namespace JobsWorld
variable [DecidableEq W] [DecidableEq P] [DecidableEq C]

def step (str : Json → String) (profileId : String) (w : JobsWorld W P C) :
    JobsEvent W P C → Option (JobsWorld W P C)
  | .server e => (w.system.step str e).map fun system => { w with system }
  | .click target => if w.page.offers target then some { w with page := w.page.loadPage target } else none
  | .serve i =>
    match w.page.waiting[i]? with
    | some (target, none) =>
      some { w with page := { w.page with
        waiting := w.page.waiting.set i (target, some (jobsRequest profileId target w.system.jobs)) } }
    | _ => none
  | .answer i ok =>
    match w.page.waiting[i]?, ok with
    | some (_, some answer), true =>
      some { w with page := { w.page with waiting := w.page.waiting.eraseIdx i }.render answer }
    | some _, false => some { w with page := { w.page with waiting := w.page.waiting.eraseIdx i } }
    | _, _ => none

/-- The page as the server has rendered it, with its first answer. -/
def opened (profileId : String) (system : JobWorld W P C) : JobsWorld W P C where
  system := system
  page :=
    let answer := jobsRequest profileId 1 system.jobs
    { jobs := answer.1
      page := answer.2.page
      totalPages := answer.2.totalPages
      waiting := []
      shown := [answer] }

/-- The clock that dates the jobs does not go back. -/
def Dated (str : Json → String) (w : JobsWorld W P C) : JobsEvent W P C → Prop
  | .server e => ∀ w' i row, w.system.step str e = some w' → w.system.jobs.lookup i = none →
      w'.jobs.lookup i = some row → ∀ j old, w.system.jobs.lookup j = some old → old.createdAt ≤ row.createdAt
  | _ => True

/-- The user waits for what has been asked for, and then asks for the next page, the number of which the script
can count. -/
def Forward (w : JobsWorld W P C) : JobsEvent W P C → Prop
  | .click target => w.page.waiting = [] ∧ (target : Int) = w.page.page + 1 ∧ target ≤ 2 ^ 53
  | _ => True

end JobsWorld

/-- The ids of a profile's jobs, in the order of the pages. -/
def jobIds (profileId : String) (jobs : JobTable) : List Nat :=
  (jobsInOrder profileId jobs).map Prod.fst

-- The requests

section
variable {profileId : String} {jobs jobs' : JobTable}

theorem pageNumber_toString {n : Nat} (hn : n ≤ 2 ^ 53) (default : Int) :
    pageNumber default (some (toString n)) = n := by
  have htext : (toString n).toList = Nat.toDigits 10 n := by
    rw [Nat.toString_eq_ofList_toDigits, String.toList_ofList]
  have hne : (toString n).toList ≠ [] := by
    rw [htext]
    exact Nat.toDigits_ne_nil
  have hdigits : ∀ c ∈ (toString n).toList, c.isDigit := by
    intro c hc
    rw [htext] at hc
    exact Nat.isDigit_of_mem_toDigits (by decide) (by decide) hc
  have hlength : ((toString n).toList.map fun c => c.toNat - 48).length ≤ intMaxStrDigits := by
    have hle := (Nat.length_toDigits_le_iff (by decide) (by decide : 0 < 16)).2 (by omega : n < 10 ^ 16)
    rw [List.length_map, htext]
    exact hle.trans (by decide)
  have hint := intOfText_decimals hne (mapM_decimalValue hdigits) hlength
  rw [ofDigits_map, htext, Nat.ofDigitChars_ten_toDigits] at hint
  have hempty : hasText (some (toString n)) = true := by
    rw [hasText, Option.any_some, decide_eq_true_eq]
    intro htoString
    rw [htoString] at hne
    exact hne rfl
  rw [pageNumber, if_pos hempty, orEmptyText, Option.getD_some, hint]
  rfl

theorem jobsRequest_spec {n : Nat} (hn : n + 1 ≤ 2 ^ 53)
    (hle : (n + 1 : Int) ≤ totalPages (jobIds profileId jobs).length 100) :
    (jobsRequest profileId (n + 1) jobs).1.map JobSummary.id = Paging.page 100 n (jobIds profileId jobs) ∧
      (jobsRequest profileId (n + 1) jobs).2.page = n + 1 ∧
        (jobsRequest profileId (n + 1) jobs).2.totalPages = totalPages (jobIds profileId jobs).length 100 := by
  have hsize : pageNumber 100 (some "100") = 100 := by decide
  have hparams : paginationParams (some (toString (n + 1))) (some "100") = ((n + 1 : Int), 100) := by
    rw [paginationParams, pageNumber_toString hn, hsize]
    refine Prod.ext ?_ rfl
    exact max_eq_right (by omega)
  have hlength : (jobIds profileId jobs).length = (jobsInOrder profileId jobs).length := List.length_map _
  rw [hlength] at hle ⊢
  have hpage : min (n + 1 : Int) (totalPages (jobsInOrder profileId jobs).length 100) = n + 1 := min_eq_left hle
  unfold jobsRequest frontendJobs
  rw [hparams]
  dsimp only
  rw [hpage]
  refine ⟨?_, rfl, rfl⟩
  have hdrop : ((n + 1 - 1 : Int) * 100).toNat = n * 100 := by omega
  rw [hdrop, List.map_map, Paging.page, jobIds, ← List.map_drop, ← List.map_take]
  rfl

/-- The jobs stay in their order, and new ones come in front. -/
structure Grows (profileId : String) (jobs jobs' : JobTable) : Prop where
  kept : ∀ i row, jobs.lookup i = some row →
    ∃ row', jobs'.lookup i = some row' ∧ row'.profileId = row.profileId ∧ row'.createdAt = row.createdAt
  newer : ∀ i row, jobs.lookup i = none → jobs'.lookup i = some row →
    ∀ j old, jobs.lookup j = some old → old.createdAt ≤ row.createdAt ∧ j < i

theorem orders_newestFirst : Table.Orders newestFirst := by
  intro j r k s h
  have hid := congrArg (fun key : Int ×ₗ Int => (ofLex key).2) h
  simp only [newestFirst, ofLex_toLex] at hid
  omega

theorem newestFirst_lt (hcreated : old.createdAt ≤ row.createdAt) (hid : j < i) :
    newestFirst i row < newestFirst j old := by
  rw [newestFirst, newestFirst, Prod.Lex.toLex_lt_toLex]
  rcases lt_or_eq_of_le hcreated with hlt | heq
  · exact .inl (Int.neg_lt_neg hlt)
  · exact .inr ⟨by rw [heq], Int.neg_lt_neg (Int.ofNat_lt.2 hid)⟩

theorem Grows.suffix (h : Grows profileId jobs jobs') : jobIds profileId jobs <:+ jobIds profileId jobs' := by
  refine Table.orderBy_suffix orders_newestFirst ?_ ?_
  · intro i row hrow
    obtain ⟨kept, hkept, hprofile, hcreated⟩ := h.kept i row hrow
    exact ⟨kept, hkept, by rw [hprofile], by rw [newestFirst, newestFirst, hcreated]⟩
  · intro i row hnone hrow j old hold
    obtain ⟨hcreated, hid⟩ := h.newer i row hnone hrow j old hold
    exact newestFirst_lt hcreated hid

end

namespace JobWorld
variable [DecidableEq W] [DecidableEq P] [DecidableEq C] {w w' : JobWorld W P C} {e : JobEvent W P C}

omit [DecidableEq W] [DecidableEq P] [DecidableEq C] in
theorem createdAt_save (i : Nat) {f : Job → Job} (hf : ∀ row, (f row).createdAt = row.createdAt)
    (hrow : w.jobs.lookup j = some row) :
    ∃ row', (w.save i f).jobs.lookup j = some row' ∧ row'.createdAt = row.createdAt := by
  rw [lookup_save]
  split
  · next h =>
    subst h
    exact ⟨f row, by rw [hrow, Option.map_some], hf row⟩
  · exact ⟨row, hrow, rfl⟩

/-- No step dates a job anew. -/
theorem Effect.createdAt (h : Effect w e w') (hnum : w.Numbered) (hrow : w.jobs.lookup i = some row) :
    ∃ row', w'.jobs.lookup i = some row' ∧ row'.createdAt = row.createdAt := by
  have hemits {u : JobWorld W P C} (hemit : Emits w u) : u.jobs.lookup i = some row := by
    obtain rfl | ⟨message, -, rfl⟩ := hemit
    · exact hrow
    · exact lookup_create hnum message hrow
  cases h with
  | kept => exact ⟨row, hrow, rfl⟩
  | read passes => exact ⟨row, hrow, rfl⟩
  | selected hfree => exact ⟨row, hrow, rfl⟩
  | aborted => exact ⟨row, hrow, rfl⟩
  | inserted hc happlied => exact ⟨row, lookup_create hnum _ hrow, rfl⟩
  | claimed hfree hjob hq => exact createdAt_save _ (fun _ => rfl) hrow
  | claimLost hjob hq => exact createdAt_save _ (fun _ => rfl) hrow
  | started hk hp => exact ⟨row, hrow, rfl⟩
  | moved hk hid hphase => exact ⟨row, hrow, rfl⟩
  | left => exact ⟨row, hrow, rfl⟩
  | touched hk hp => exact createdAt_save _ (fun _ => rfl) hrow
  | succeeded hk hp hid hp' => exact createdAt_save _ (fun _ => rfl) hrow
  | succeededLost hk hp hid hp' => exact createdAt_save _ (fun _ => rfl) hrow
  | failed hk hp hid hp' => exact createdAt_save _ (fun _ => rfl) hrow
  | failedLost hk hp => exact createdAt_save _ (fun _ => rfl) hrow
  | announced hemit =>
    have hkept := hemits hemit
    exact ⟨row, hkept, rfl⟩
  | announceRaised hk hp hemit hraised =>
    have hkept := hemits hemit
    exact ⟨row, hkept, rfl⟩
  | requeued hp hstale => exact createdAt_save _ (fun _ => rfl) hrow

end JobWorld

namespace JobsWorld
variable [DecidableEq W] [DecidableEq P] [DecidableEq C] {str : Json → String} {profileId : String}
  {w w' : JobsWorld W P C} {e : JobsEvent W P C}

/-- A step of the system, under a clock that does not go back. -/
theorem grows_step {e : JobEvent W P C} {system : JobWorld W P C} (hnum : w.system.Numbered)
    (hcopies : w.system.CopiesAgree) (hdated : w.Dated str (.server e))
    (hstep : w.system.step str e = some system) : Grows profileId w.system.jobs system.jobs := by
  have hcontinues := JobWorld.continues_step hnum hcopies hstep
  constructor
  · intro i row hrow
    obtain ⟨kept, hkept, hcreated⟩ := (JobWorld.step_effect hstep).createdAt hnum hrow
    obtain ⟨same, hsame, hdata⟩ := hcontinues.keeps i row hrow
    rw [hkept] at hsame
    obtain rfl := Option.some.inj hsame
    exact ⟨kept, hkept, hdata.profileId, hcreated⟩
  · intro i row hnone hrow j old hold
    refine ⟨hdated system i row hstep hnone hrow j old hold, ?_⟩
    rcases hcontinues.added i row hrow with ⟨before, hbefore⟩ | ⟨rfl, -⟩
    · rw [hnone] at hbefore
      cases hbefore
    · exact hnum j old hold

/-- A page is shown, counted from zero: of the jobs in question those up to it have been seen, and the others are
on later pages. -/
structure Shows (profileId : String) (ids : List Nat) (n : Nat) (jobs : JobTable) (page total : Int)
    (seen : List Nat) : Prop where
  page : page = n + 1
  low : (n + 1 : Int) ≤ total
  high : total ≤ totalPages (jobIds profileId jobs).length 100
  covers : ∀ i ∈ ids, i ∈ seen ∨ i ∈ (jobIds profileId jobs).drop ((n + 1) * 100) ∧ (n + 1 : Int) < total

theorem totalPages_mono {total total' : Nat} (h : total ≤ total') : totalPages total 100 ≤ totalPages total' 100 := by
  rw [totalPages, totalPages]
  omega

theorem Shows.grows {page total : Int} (h : Shows profileId ids n jobs page total seen) (hgrows : Grows profileId jobs jobs') :
    Shows profileId ids n jobs' page total seen where
  page := h.page
  low := h.low
  high := h.high.trans (totalPages_mono hgrows.suffix.length_le)
  covers i hi := (h.covers i hi).imp_right fun hlater => ⟨Paging.mem_drop_of_suffix hgrows.suffix _ hlater.1, hlater.2⟩

/-- The server's answer for the next page. -/
theorem shows_jobsRequest {jobs : JobTable} {ids seen : List Nat} {n : Nat} (hn : n + 1 ≤ 2 ^ 53)
    (hle : (n + 1 : Int) ≤ totalPages (jobIds profileId jobs).length 100)
    (hbefore : ∀ i ∈ ids, i ∈ seen ∨ i ∈ (jobIds profileId jobs).drop (n * 100)) :
    Shows profileId ids n jobs (jobsRequest profileId (n + 1) jobs).2.page
      (jobsRequest profileId (n + 1) jobs).2.totalPages
      ((jobsRequest profileId (n + 1) jobs).1.map JobSummary.id ++ seen) := by
  obtain ⟨hids, hpage, htotal⟩ := jobsRequest_spec hn hle
  rw [hids, hpage, htotal]
  refine ⟨rfl, hle, le_rfl, ?_⟩
  intro i hi
  rcases hbefore i hi with hseen | hlater
  · exact .inl (List.mem_append_right _ hseen)
  · rcases Paging.mem_page_or_later hlater with hshown | hlater
    · exact .inl (List.mem_append_left _ hshown)
    · refine .inr ⟨hlater, ?_⟩
      have hlength := List.length_pos_of_mem hlater
      rw [List.length_drop] at hlength
      rw [totalPages]
      omega

/-- The invariant of a walk through the pages. -/
structure Walked (profileId : String) (ids : List Nat) (w : JobsWorld W P C) (n : Nat) : Prop where
  agree : w.system.Numbered ∧ w.system.CopiesAgree
  shows : Shows profileId ids n w.system.jobs w.page.page w.page.totalPages w.page.seen
  waiting : w.page.waiting = [] ∨ ∃ answer, w.page.waiting = [(n + 2, answer)] ∧ n + 2 ≤ 2 ^ 53 ∧
    (n + 1 : Int) < w.page.totalPages ∧ ∀ a, answer = some a →
      Shows profileId ids (n + 1) w.system.jobs a.2.page a.2.totalPages (a.1.map JobSummary.id ++ w.page.seen)

theorem Walked.server {e : JobEvent W P C} (h : w.Walked profileId ids n) (hdated : w.Dated (Json.str render) (.server e))
    (hstep : w.step (Json.str render) profileId (.server e) = some w') : w'.Walked profileId ids n := by
  obtain ⟨system, hsystem, rfl⟩ := Option.map_eq_some_iff.1 hstep
  have hgrows : Grows profileId w.system.jobs system.jobs := grows_step h.agree.1 h.agree.2 hdated hsystem
  refine ⟨JobWorld.agree_step h.agree hsystem, h.shows.grows hgrows, ?_⟩
  rcases h.waiting with hnone | ⟨answer, hwaiting, hn, hlt, hanswer⟩
  · exact .inl hnone
  · exact .inr ⟨answer, hwaiting, hn, hlt, fun a ha => (hanswer a ha).grows hgrows⟩

theorem Walked.click (h : w.Walked profileId ids n) (hforward : w.Forward (.click target))
    (hstep : w.step str profileId (.click target) = some w') : w'.Walked profileId ids n := by
  obtain ⟨hnone, htarget, hexact⟩ := hforward
  simp only [JobsWorld.step] at hstep
  split at hstep
  · next hoffers =>
    obtain rfl := Option.some.inj hstep
    obtain rfl : target = n + 2 := by
      rw [h.shows.page] at htarget
      omega
    have hlt : (n + 1 : Int) < w.page.totalPages := by
      rw [JobsPage.offers, h.shows.page] at hoffers
      simp only [Bool.and_eq_true, Bool.or_eq_true, decide_eq_true_eq] at hoffers
      omega
    have hload : w.page.loadPage (n + 2) = { w.page with waiting := [(n + 2, none)] } := by
      rw [JobsPage.loadPage, if_neg (by omega), hnone, List.nil_append]
    rw [hload]
    exact ⟨h.agree, h.shows, .inr ⟨none, rfl, hexact, hlt, fun a ha => by cases ha⟩⟩
  · cases hstep

theorem Walked.serve (h : w.Walked profileId ids n)
    (hstep : w.step str profileId (.serve i) = some w') : w'.Walked profileId ids n := by
  simp only [JobsWorld.step] at hstep
  split at hstep
  · next target hwait =>
    obtain rfl := Option.some.inj hstep
    rcases h.waiting with hnone | ⟨answer, hwaiting, hn, hlt, -⟩
    · rw [hnone, List.getElem?_nil] at hwait
      cases hwait
    · rw [hwaiting, List.getElem?_singleton] at hwait
      split at hwait
      · next hi =>
        subst hi
        cases hwait
        refine ⟨h.agree, h.shows, .inr ⟨some (jobsRequest profileId (n + 2) w.system.jobs), ?_, hn, hlt, ?_⟩⟩
        · dsimp only
          rw [hwaiting]
          rfl
        · intro a ha
          obtain rfl := Option.some.inj ha
          refine shows_jobsRequest hn ?_ fun j hj => (h.shows.covers j hj).imp_right And.left
          have hhigh := h.shows.high
          push_cast
          omega
      · cases hwait
  · cases hstep

theorem Walked.answer (h : w.Walked profileId ids n)
    (hstep : w.step str profileId (.answer i ok) = some w') : ∃ m, w'.Walked profileId ids m := by
  simp only [JobsWorld.step] at hstep
  rcases h.waiting with hnone | ⟨answer, hwaiting, hn, hlt, hanswer⟩
  · rw [hnone, List.getElem?_nil] at hstep
    cases hstep
  · cases i with
    | succ i =>
      rw [hwaiting] at hstep
      cases hstep
    | zero =>
      rw [hwaiting] at hstep
      cases ok with
      | false =>
        have hfailed : w' = { w with page := { w.page with waiting := [] } } := by
          cases answer <;> exact (Option.some.inj hstep).symm
        rw [hfailed]
        exact ⟨n, h.agree, h.shows, .inl rfl⟩
      | true =>
        cases answer with
        | none => cases hstep
        | some a =>
          obtain rfl := Option.some.inj hstep
          refine ⟨n + 1, h.agree, ?_, .inl rfl⟩
          rw [JobsPage.seen_render]
          exact hanswer a rfl

theorem Walked.step (h : w.Walked profileId ids n) (hdated : w.Dated (Json.str render) e) (hforward : w.Forward e)
    (hstep : w.step (Json.str render) profileId e = some w') : ∃ m, w'.Walked profileId ids m := by
  cases e with
  | server e => exact ⟨n, h.server hdated hstep⟩
  | click target => exact ⟨n, h.click hforward hstep⟩
  | serve i => exact ⟨n, h.serve hstep⟩
  | answer i ok => exact h.answer hstep

omit [DecidableEq P] [DecidableEq C] in
/-- On the last page all the jobs in question have been seen. -/
theorem Walked.last (h : w.Walked profileId ids n) (hlast : w.page.page = w.page.totalPages) (hi : i ∈ ids) :
    i ∈ w.page.seen := by
  refine (h.shows.covers i hi).resolve_right fun hlater => ?_
  rw [← hlast, h.shows.page] at hlater
  exact lt_irrefl _ hlater.2

/-- The row is a job of the profile. -/
def IsOwn (profileId : String) (jobs : JobTable) (i : Nat) : Prop :=
  ∃ row, jobs.lookup i = some row ∧ row.profileId = profileId

theorem isOwn_of_mem_jobIds {jobs : JobTable} (h : i ∈ jobIds profileId jobs) : IsOwn profileId jobs i := by
  obtain ⟨e, he, rfl⟩ := List.mem_map.1 h
  obtain ⟨hrow, hprofile⟩ := Table.mem_orderBy.1 he
  exact ⟨e.2, hrow, of_decide_eq_true hprofile⟩

theorem isOwn_jobsRequest {jobs : JobTable} (h : i ∈ (jobsRequest profileId target jobs).1.map JobSummary.id) :
    IsOwn profileId jobs i := by
  unfold jobsRequest frontendJobs at h
  obtain ⟨job, hjob, rfl⟩ := List.mem_map.1 h
  obtain ⟨e, he, rfl⟩ := List.mem_map.1 hjob
  exact isOwn_of_mem_jobIds (List.mem_map.2 ⟨e, List.mem_of_mem_drop (List.mem_of_mem_take he), rfl⟩)

/-- What is shown and what is on its way is the profile's. -/
structure Owned (profileId : String) (w : JobsWorld W P C) : Prop where
  agree : w.system.Numbered ∧ w.system.CopiesAgree
  seen : ∀ i ∈ w.page.seen, IsOwn profileId w.system.jobs i
  waiting : ∀ target answer, (target, some answer) ∈ w.page.waiting →
    ∀ i ∈ answer.1.map JobSummary.id, IsOwn profileId w.system.jobs i

theorem Owned.step (h : w.Owned profileId) (hstep : w.step (Json.str render) profileId e = some w') :
    w'.Owned profileId := by
  cases e with
  | server e =>
    obtain ⟨system, hsystem, rfl⟩ := Option.map_eq_some_iff.1 hstep
    have hkeeps (i : Nat) (hi : IsOwn profileId w.system.jobs i) : IsOwn profileId system.jobs i := by
      obtain ⟨row, hrow, hprofile⟩ := hi
      obtain ⟨kept, hkept, hdata⟩ := (JobWorld.continues_step h.agree.1 h.agree.2 hsystem).keeps i row hrow
      exact ⟨kept, hkept, hdata.profileId.trans hprofile⟩
    exact ⟨JobWorld.agree_step h.agree hsystem, fun i hi => hkeeps i (h.seen i hi),
      fun target answer hmem i hi => hkeeps i (h.waiting target answer hmem i hi)⟩
  | click target =>
    simp only [JobsWorld.step] at hstep
    split at hstep
    · obtain rfl := Option.some.inj hstep
      rw [JobsPage.loadPage]
      split
      · exact h
      · refine ⟨h.agree, h.seen, ?_⟩
        intro other answer hmem
        rcases List.mem_append.1 hmem with hold | hnew
        · exact h.waiting other answer hold
        · cases List.mem_singleton.1 hnew
    · cases hstep
  | serve i =>
    simp only [JobsWorld.step] at hstep
    split at hstep
    · next target hwait =>
      obtain rfl := Option.some.inj hstep
      refine ⟨h.agree, h.seen, ?_⟩
      intro other answer hmem
      rcases List.mem_or_eq_of_mem_set hmem with hold | hnew
      · exact h.waiting other answer hold
      · obtain ⟨rfl, hanswer⟩ := Prod.mk.inj hnew
        obtain rfl := Option.some.inj hanswer
        exact fun j hj => isOwn_jobsRequest hj
    · cases hstep
  | answer i ok =>
    simp only [JobsWorld.step] at hstep
    have hrest (target : Nat) (answer : JobsAnswer) (hmem : (target, some answer) ∈ w.page.waiting.eraseIdx i) :=
      h.waiting target answer (List.mem_of_mem_eraseIdx hmem)
    split at hstep
    · next target answer hwait =>
      obtain rfl := Option.some.inj hstep
      refine ⟨h.agree, ?_, hrest⟩
      intro j hj
      rw [JobsPage.seen_render] at hj
      rcases List.mem_append.1 hj with hnew | hold
      · exact h.waiting target answer (List.mem_of_getElem? hwait) j hnew
      · exact h.seen j hold
    · obtain rfl := Option.some.inj hstep
      exact ⟨h.agree, h.seen, hrest⟩
    · cases hstep

end JobsWorld

open JobsWorld

end GetOffline
