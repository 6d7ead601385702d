import GetOffline.MediaSync
import Mathlib.Data.Set.Function

set_option autoImplicit true

namespace GetOffline
open Python

section
variable {γ : Type}

/-- A turn can skip the source. -/
def skips (probe : γ → Bool) (force : Bool) (directory : SyncDirectory γ) (e : Path × SourceFile γ) : Bool :=
  !force && upToDate probe e.2 (directory.lookup (destination e.1))

/-- The directory after the source has been copied. -/
def copiedTo (directory : SyncDirectory γ) (e : Path × SourceFile γ) : SyncDirectory γ :=
  AList.insert (destination e.1) (.file e.2.content e.2.modified (some e.1)) directory

/-- What a turn does that does not fail: it passes over a file, or skips a source, or copies it. -/
inductive Turn (probe : γ → Bool) (force : Bool) (copying : Path → Copying) (run : SyncRun γ)
    (e : Path × SourceFile γ) : SyncRun γ → Prop
  | other (hmedia : isMediaFile e.1 = false) : Turn probe force copying run e run
  | skipped (hmedia : isMediaFile e.1 = true) (hvalid : probe e.2.content = true)
      (hskips : skips probe force run.directory e = true) :
      Turn probe force copying run e { run with skipped := run.skipped + 1 }
  | copied (hmedia : isMediaFile e.1 = true) (hvalid : probe e.2.content = true)
      (hskips : skips probe force run.directory e = false) (hdone : copying e.1 = .done)
      (hentry : run.directory.lookup (destination e.1) ≠ some .directory) :
      Turn probe force copying run e
        { run with directory := copiedTo run.directory e, copied := run.copied + 1 }

/-- Turns that do not fail, one for each source. -/
inductive Turns (probe : γ → Bool) (force : Bool) (copying : Path → Copying) :
    SyncRun γ → List (Path × SourceFile γ) → SyncRun γ → Prop
  | nil (run : SyncRun γ) : Turns probe force copying run [] run
  | cons {run run' run'' : SyncRun γ} {e : Path × SourceFile γ} {sources : List (Path × SourceFile γ)}
      (hturn : Turn probe force copying run e run')
      (hrest : Turns probe force copying run' sources run'') :
      Turns probe force copying run (e :: sources) run''

end

section
variable {γ : Type} {probe : γ → Bool} {force : Bool} {copying : Path → Copying} {tree : SourceTree γ}
  {directory : SyncDirectory γ} {run : SyncRun γ} {e d : Path × SourceFile γ}
  {sources : List (Path × SourceFile γ)}

/-- A copy that returns has replaced a destination that is no directory. -/
theorem copyMedia_ok (h : copyMedia probe copying e.1 e.2 directory = (replaced, true)) :
    copying e.1 = .done ∧ directory.lookup (destination e.1) ≠ some .directory ∧
      replaced = copiedTo directory e := by
  rw [copyMedia] at h
  split at h
  · cases h
  · split at h
    · cases h
    · cases h
    · cases h
    · next hdone hentry =>
      cases h
      exact ⟨hdone, fun hdirectory => hentry hdirectory, rfl⟩

theorem turn_of_ok (hok : (syncSource probe force copying run e).failed = 0) :
    run.failed = 0 ∧ Turn probe force copying run e (syncSource probe force copying run e) := by
  rw [syncSource] at hok ⊢
  by_cases hmedia : isMediaFile e.1 = true
  · rw [hmedia] at hok ⊢
    by_cases hvalid : probe e.2.content = true
    · rw [hvalid] at hok ⊢
      cases hskips : skips probe force run.directory e with
      | true =>
        rw [skips] at hskips
        rw [hskips] at hok ⊢
        exact ⟨hok, .skipped hmedia hvalid hskips⟩
      | false =>
        rw [skips] at hskips
        rw [hskips] at hok ⊢
        rcases hcopy : copyMedia probe copying e.1 e.2 run.directory with ⟨replaced, returned⟩
        rw [hcopy] at hok
        cases returned with
        | false => cases hok
        | true =>
          obtain ⟨hdone, hentry, rfl⟩ := copyMedia_ok hcopy
          exact ⟨hok, .copied hmedia hvalid hskips hdone hentry⟩
    · rw [Bool.not_eq_true] at hvalid
      rw [hvalid] at hok
      cases hok
  · rw [Bool.not_eq_true] at hmedia
    rw [hmedia] at hok ⊢
    exact ⟨hok, .other hmedia⟩

theorem turns_of_ok (hok : (sources.foldl (syncSource probe force copying) run).failed = 0) :
    run.failed = 0 ∧
      Turns probe force copying run sources (sources.foldl (syncSource probe force copying) run) := by
  induction sources generalizing run with
  | nil => exact ⟨hok, .nil run⟩
  | cons e sources ih =>
    rw [List.foldl_cons] at hok ⊢
    obtain ⟨hfirst, hrest⟩ := ih hok
    obtain ⟨hrun, hturn⟩ := turn_of_ok hfirst
    exact ⟨hrun, .cons hturn hrest⟩

theorem lookup_copiedTo (directory : SyncDirectory γ) (e : Path × SourceFile γ) (name : String) :
    (copiedTo directory e).lookup name =
      if name = destination e.1 then some (.file e.2.content e.2.modified (some e.1))
      else directory.lookup name := by
  have h := congrFun (Table.lookup_insert_eq (destination e.1)
    (.file e.2.content e.2.modified (some e.1)) directory) name
  simp only [Function.update_apply] at h
  exact h

theorem Turn.lookup_of_ne {run' : SyncRun γ} {name : String} (h : Turn probe force copying run e run')
    (hne : isMediaFile e.1 = true → name ≠ destination e.1) :
    run'.directory.lookup name = run.directory.lookup name := by
  cases h with
  | other hmedia => rfl
  | skipped hmedia hvalid hskips => rfl
  | copied hmedia hvalid hskips hdone hentry => exact (lookup_copiedTo _ _ _).trans (if_neg (hne hmedia))

/-- A destination of no source stays as it is. -/
theorem Turns.lookup_of_ne {run' : SyncRun γ} {name : String}
    (h : Turns probe force copying run sources run')
    (hne : ∀ e ∈ sources, isMediaFile e.1 = true → name ≠ destination e.1) :
    run'.directory.lookup name = run.directory.lookup name := by
  induction h with
  | nil run => rfl
  | cons hturn hrest ih =>
    rw [ih fun e he => hne e (List.mem_cons_of_mem _ he),
      hturn.lookup_of_ne (hne _ List.mem_cons_self)]

/-- What a source's own turn leaves under its destination. -/
theorem Turn.lookup_own {run' : SyncRun γ} (h : Turn probe force copying run e run')
    (hmedia : isMediaFile e.1 = true) :
    run'.directory.lookup (destination e.1) =
      if skips probe force run.directory e = true then run.directory.lookup (destination e.1)
      else some (.file e.2.content e.2.modified (some e.1)) := by
  cases h with
  | other hother =>
    rw [hmedia] at hother
    cases hother
  | skipped _ hvalid hskips => rw [if_pos hskips]
  | copied _ hvalid hskips hdone hentry =>
    rw [hskips, if_neg Bool.false_ne_true]
    exact (lookup_copiedTo _ _ _).trans (if_pos rfl)

/-- Where no two sources have one destination, each finds its own as it was before the run. -/
theorem Turns.lookup_own {run' : SyncRun γ} (h : Turns probe force copying run sources run')
    (hdistinct : sources.Pairwise fun d e =>
      isMediaFile d.1 = true → isMediaFile e.1 = true → destination d.1 ≠ destination e.1)
    (he : e ∈ sources) (hmedia : isMediaFile e.1 = true) :
    run'.directory.lookup (destination e.1) =
      if skips probe force run.directory e = true then run.directory.lookup (destination e.1)
      else some (.file e.2.content e.2.modified (some e.1)) := by
  induction h with
  | nil run => exact (List.not_mem_nil he).elim
  | @cons run d mid sources run' hturn hrest ih =>
    rw [List.pairwise_cons] at hdistinct
    rcases List.mem_cons.1 he with rfl | he
    · rw [← hturn.lookup_own hmedia]
      exact hrest.lookup_of_ne fun d hd hmedia' => hdistinct.1 d hd hmedia hmedia'
    · have hsame := hturn.lookup_of_ne fun hmedia' => (hdistinct.1 e he hmedia' hmedia).symm
      rw [ih hdistinct.2 he, skips, skips, hsame]

/-- A copy that is skipped for one source is not older than a newer one's. -/
theorem Turn.keeps_upToDate {run' : SyncRun γ} (h : Turn probe false copying run d run')
    (he : upToDate probe e.2 (run.directory.lookup (destination e.1)) = true) :
    upToDate probe e.2 (run'.directory.lookup (destination e.1)) = true := by
  cases h with
  | other hmedia => exact he
  | skipped hmedia hvalid hskips => exact he
  | copied hmedia hvalid hskips hdone hentry =>
    dsimp only
    rw [lookup_copiedTo]
    split
    · next hsame =>
      rw [skips, ← hsame, Bool.not_false, Bool.true_and] at hskips
      cases hfound : run.directory.lookup (destination e.1) with
      | none =>
        rw [hfound] at he
        cases he
      | some entry =>
        cases entry with
        | directory =>
          rw [hfound] at he
          cases he
        | file content modified copyOf =>
          rw [hfound, upToDate, Bool.and_eq_true, decide_eq_true_iff] at he
          rw [hfound, upToDate, he.2, Bool.and_true, decide_eq_false_iff_not, not_le] at hskips
          rw [upToDate, hvalid, Bool.and_true, decide_eq_true_iff]
          exact he.1.trans hskips.le
    · exact he

theorem Turn.own_upToDate {run' : SyncRun γ} (h : Turn probe force copying run e run')
    (hmedia : isMediaFile e.1 = true) :
    upToDate probe e.2 (run'.directory.lookup (destination e.1)) = true := by
  cases h with
  | other hother =>
    rw [hmedia] at hother
    cases hother
  | skipped _ hvalid hskips => exact (Bool.and_eq_true_iff.1 hskips).2
  | copied _ hvalid hskips hdone hentry =>
    dsimp only
    rw [lookup_copiedTo, if_pos rfl, upToDate, hvalid, Bool.and_true, decide_eq_true_iff]

/-- After the run no source is newer than what stands under its destination. -/
theorem Turns.upToDate {run' : SyncRun γ} (h : Turns probe false copying run sources run')
    (he : e ∈ sources) (hmedia : isMediaFile e.1 = true) :
    upToDate probe e.2 (run'.directory.lookup (destination e.1)) = true := by
  have hkeeps {run run' : SyncRun γ} {sources : List (Path × SourceFile γ)}
      (h : Turns probe false copying run sources run')
      (hdate : GetOffline.upToDate probe e.2 (run.directory.lookup (destination e.1)) = true) :
      GetOffline.upToDate probe e.2 (run'.directory.lookup (destination e.1)) = true := by
    induction h with
    | nil run => exact hdate
    | cons hturn hrest ih => exact ih (hturn.keeps_upToDate hdate)
  induction h with
  | nil run => exact (List.not_mem_nil he).elim
  | cons hturn hrest ih =>
    rcases List.mem_cons.1 he with rfl | he
    · exact hkeeps hrest (hturn.own_upToDate hmedia)
    · exact ih he

end

end GetOffline
