import GetOffline.SyncCopies

set_option autoImplicit true

namespace GetOffline
open Python

section
variable {γ : Type}

/-- The media files of the downloads tree. -/
def mediaPaths (tree : SourceTree γ) : Set Path :=
  {path | isMediaFile path = true ∧ (tree.lookup path).isSome}

/-- The entry has the bytes of the source, or is a valid copy of the same source that is not older. -/
def IsCopyOf (probe : γ → Bool) (path : Path) (source : SourceFile γ) : Option (SyncEntry γ) → Prop
  | some (.file content modified copyOf) =>
    content = source.content ∨ source.modified ≤ modified ∧ probe content = true ∧ copyOf = some path
  | _ => False

/-- Every media file has a file of the sync directory to itself, which is a copy of it. -/
structure IsCopyMap (probe : γ → Bool) (name : Path → String) (tree : SourceTree γ)
    (directory : SyncDirectory γ) : Prop where
  injective : Set.InjOn name (mediaPaths tree)
  copies : ∀ path source, isMediaFile path = true → tree.lookup path = some source →
    IsCopyOf probe path source (directory.lookup (name path))

/-- No two media files have one destination, and a destination that a plain run takes for up to date
is a copy of its source; a forced run has nothing to copy. -/
structure Syncable (probe : γ → Bool) (force : Bool) (tree : SourceTree γ)
    (directory : SyncDirectory γ) : Prop where
  distinct : Set.InjOn destination (mediaPaths tree)
  known : force = false → ∀ path source, isMediaFile path = true → tree.lookup path = some source →
    upToDate probe source (directory.lookup (destination path)) = true →
    IsCopyOf probe path source (directory.lookup (destination path))
  plain : force = true → mediaPaths tree = ∅

end

section
variable {γ : Type} {probe : γ → Bool} {force : Bool} {copying : Path → Copying} {tree : SourceTree γ}
  {directory : SyncDirectory γ} {host : SyncHost} {run : SyncRun γ} {e : Path × SourceFile γ}
  {sources : List (Path × SourceFile γ)}

theorem mem_sortedSources : e ∈ sortedSources tree ↔ tree.lookup e.1 = some e.2 := by
  rw [sortedSources, Table.mem_orderBy, and_iff_left rfl]

theorem mem_mediaPaths (hmedia : isMediaFile path = true) (hsource : tree.lookup path = some source) :
    path ∈ mediaPaths tree := by
  refine ⟨hmedia, ?_⟩
  rw [hsource]
  rfl

theorem pairwise_sortedSources (hdistinct : Set.InjOn destination (mediaPaths tree)) :
    (sortedSources tree).Pairwise fun d e =>
      isMediaFile d.1 = true → isMediaFile e.1 = true → destination d.1 ≠ destination e.1 := by
  have hne : (sortedSources tree).Pairwise fun d e => d.1 ≠ e.1 := List.pairwise_map.1 Table.nodup_orderBy
  refine hne.imp_of_mem ?_
  intro d e hd he hne hmedia hmedia' hsame
  have hd' := mem_mediaPaths hmedia (mem_sortedSources.1 hd)
  exact hne (hdistinct hd' (mem_mediaPaths hmedia' (mem_sortedSources.1 he)) hsame)

/-- A run that exits with 0 got past the checks, and no turn failed. -/
theorem syncMain_ok (hok : (syncMain probe force copying host tree directory).1 = 0) :
    Turns probe force copying { directory } (sortedSources tree)
        (syncMain probe force copying host tree directory).2 ∧
      ∀ directory', (syncMain probe force copying host tree directory').2 =
        (sortedSources tree).foldl (syncSource probe force copying) { directory := directory' } := by
  simp only [syncMain] at hok ⊢
  split at hok
  · cases hok
  · next hdir =>
    split at hok
    · cases hok
    · next hprobe =>
      split at hok
      · cases hok
      · next howner =>
        split at hok
        · cases hok
        · next howned =>
          simp only [if_neg hdir, if_neg hprobe, if_neg howner, if_neg howned] at hok ⊢
          refine ⟨?_, fun _ => trivial⟩
          split at hok
          · next hfailed => exact (turns_of_ok hfailed.1).2
          · cases hok

/-- A turn that skips its source copies nothing. -/
theorem syncSource_skips (hskips : isMediaFile e.1 = true → skips probe force run.directory e = true) :
    (syncSource probe force copying run e).directory = run.directory ∧
      (syncSource probe force copying run e).copied = run.copied := by
  rw [syncSource]
  split
  · exact ⟨rfl, rfl⟩
  · next hmedia =>
    rw [Bool.not_eq_true', Bool.not_eq_false] at hmedia
    have hskips := hskips hmedia
    rw [skips] at hskips
    rw [hskips]
    split
    · exact ⟨rfl, rfl⟩
    · exact ⟨rfl, rfl⟩

theorem copied_foldl_skips
    (hskips : ∀ e ∈ sources, isMediaFile e.1 = true → skips probe force run.directory e = true) :
    (sources.foldl (syncSource probe force copying) run).copied = run.copied := by
  induction sources generalizing run with
  | nil => rfl
  | cons e sources ih =>
    obtain ⟨hsame, hcopied⟩ : (syncSource probe force copying run e).directory = run.directory ∧
        (syncSource probe force copying run e).copied = run.copied :=
      syncSource_skips (hskips e List.mem_cons_self)
    rw [List.foldl_cons, ih, hcopied]
    intro d hd hmedia
    rw [hsame]
    exact hskips d (List.mem_cons_of_mem _ hd) hmedia

theorem le_copied (run : SyncRun γ) (e : Path × SourceFile γ) :
    run.copied ≤ (syncSource probe force copying run e).copied := by
  rw [syncSource]
  split
  · exact le_rfl
  · split
    · exact le_rfl
    · split
      · exact le_rfl
      · split
        · exact Nat.le_succ _
        · exact le_rfl

theorem le_copied_foldl (sources : List (Path × SourceFile γ)) (run : SyncRun γ) :
    run.copied ≤ (sources.foldl (syncSource probe force copying) run).copied := by
  induction sources generalizing run with
  | nil => exact le_rfl
  | cons e sources ih =>
    rw [List.foldl_cons]
    exact (le_copied run e).trans (ih _)

/-- The turn of a forced run at a valid source whose copy succeeds. -/
theorem syncSource_forced (hmedia : isMediaFile e.1 = true) (hvalid : probe e.2.content = true)
    (hdone : copying e.1 = .done) (hentry : run.directory.lookup (destination e.1) ≠ some .directory) :
    (syncSource probe true copying run e).copied = run.copied + 1 := by
  have hcopy : copyMedia probe copying e.1 e.2 run.directory = (copiedTo run.directory e, true) := by
    rw [copyMedia, hvalid, hdone]
    cases hfound : run.directory.lookup (destination e.1) with
    | none => rfl
    | some entry =>
      cases entry with
      | file content modified copyOf => rfl
      | directory => exact (hentry hfound).elim
  rw [syncSource, hmedia, hvalid, hcopy]
  rfl

/-- A forced run over a media file that can be copied copies something. -/
theorem copied_foldl_pos (hmedia : ∃ e ∈ sources, isMediaFile e.1 = true)
    (hable : ∀ e ∈ sources, isMediaFile e.1 = true → probe e.2.content = true ∧
      copying e.1 = .done ∧ run.directory.lookup (destination e.1) ≠ some .directory) :
    (sources.foldl (syncSource probe true copying) run).copied ≠ 0 := by
  induction sources generalizing run with
  | nil =>
    obtain ⟨e, he, -⟩ := hmedia
    exact (List.not_mem_nil he).elim
  | cons d sources ih =>
    rw [List.foldl_cons]
    by_cases hd : isMediaFile d.1 = true
    · obtain ⟨hvalid, hdone, hentry⟩ := hable d List.mem_cons_self hd
      have hle : (syncSource probe true copying run d).copied ≤
          (sources.foldl (syncSource probe true copying) (syncSource probe true copying run d)).copied :=
        le_copied_foldl sources _
      rw [syncSource_forced hd hvalid hdone hentry] at hle
      omega
    · have hsame : syncSource probe true copying run d = run := by
        rw [syncSource, Bool.eq_false_of_not_eq_true hd]
        rfl
      rw [hsame]
      apply ih
      · obtain ⟨e, he, hmedia⟩ := hmedia
        rcases List.mem_cons.1 he with rfl | he
        · exact (hd hmedia).elim
        · exact ⟨e, he, hmedia⟩
      · exact fun e he => hable e (List.mem_cons_of_mem _ he)

theorem Turn.keeps_file {run' : SyncRun γ} {name : String} (h : Turn probe force copying run e run')
    (hentry : run.directory.lookup name ≠ some .directory) :
    run'.directory.lookup name ≠ some .directory := by
  cases h with
  | other hmedia => exact hentry
  | skipped hmedia hvalid hskips => exact hentry
  | copied hmedia hvalid hskips hdone hown =>
    dsimp only
    rw [lookup_copiedTo]
    split
    · exact nofun
    · exact hentry

theorem Turns.keeps_file {run' : SyncRun γ} {name : String}
    (h : Turns probe force copying run sources run')
    (hentry : run.directory.lookup name ≠ some .directory) :
    run'.directory.lookup name ≠ some .directory := by
  induction h with
  | nil run => exact hentry
  | cons hturn hrest ih => exact ih (hturn.keeps_file hentry)

/-- A forced run that does not fail could copy every source, and can do so again. -/
theorem Turns.able {run' : SyncRun γ} (h : Turns probe true copying run sources run')
    (he : e ∈ sources) (hmedia : isMediaFile e.1 = true) :
    probe e.2.content = true ∧ copying e.1 = .done ∧
      run'.directory.lookup (destination e.1) ≠ some .directory := by
  induction h with
  | nil run => exact (List.not_mem_nil he).elim
  | cons hturn hrest ih =>
    rcases List.mem_cons.1 he with rfl | he
    · cases hturn with
      | other hother =>
        rw [hmedia] at hother
        cases hother
      | skipped _ hvalid hskips => cases hskips
      | copied _ hvalid hskips hdone hentry =>
        refine ⟨hvalid, hdone, hrest.keeps_file ?_⟩
        dsimp only
        rw [lookup_copiedTo, if_pos rfl]
        exact nofun
    · exact ih he

/-- What a run that does not fail leaves is a copy of the tree, where the condition holds. -/
theorem Turns.isCopyMap {run' : SyncRun γ}
    (h : Turns probe force copying { directory } (sortedSources tree) run')
    (hsync : Syncable probe force tree directory) : IsCopyMap probe destination tree run'.directory where
  injective := hsync.distinct
  copies := by
    intro path source hmedia hsource
    have he : (path, source) ∈ sortedSources tree := mem_sortedSources.2 hsource
    rw [h.lookup_own (pairwise_sortedSources hsync.distinct) he hmedia]
    split
    · next hskips =>
      rw [skips, Bool.and_eq_true, Bool.not_eq_true'] at hskips
      exact hsync.known hskips.1 path source hmedia hsource hskips.2
    · exact Or.inl rfl

/-- The second run copies something exactly where it is forced and there is a media file. -/
theorem Turns.second_copies_iff {run' : SyncRun γ}
    (h : Turns probe force copying { directory } (sortedSources tree) run') :
    ((sortedSources tree).foldl (syncSource probe force copying) { directory := run'.directory }).copied = 0 ↔
      (force = true → mediaPaths tree = ∅) := by
  cases force with
  | false =>
    refine iff_of_true ?_ nofun
    refine copied_foldl_skips fun e he hmedia => ?_
    exact (Bool.true_and _).trans (h.upToDate he hmedia)
  | true =>
    rw [forall_prop_of_true rfl]
    constructor
    · intro hnone
      by_contra hsome
      obtain ⟨path, hmedia, hpath⟩ := Set.nonempty_iff_ne_empty.2 hsome
      obtain ⟨source, hsource⟩ := Option.isSome_iff_exists.1 hpath
      refine copied_foldl_pos ⟨(path, source), mem_sortedSources.2 hsource, hmedia⟩ ?_ hnone
      exact fun e he hmedia => h.able he hmedia
    · intro hnone
      refine copied_foldl_skips fun e he hmedia => ?_
      have hmem := mem_mediaPaths hmedia (mem_sortedSources.1 he)
      rw [hnone] at hmem
      exact hmem.elim

end

section
variable {γ : Type}

/-- A run that exits with 0 leaves under every destination a copy of its own source, and copies nothing
the second time, exactly where the destinations are distinct and the plain run skips nothing else. -/
theorem sync_faithful_iff (probe : γ → Bool) (force : Bool) (copying : Path → Copying) (host : SyncHost)
    (tree : SourceTree γ) (directory : SyncDirectory γ)
    (hok : (syncMain probe force copying host tree directory).1 = 0) :
    IsCopyMap probe destination tree (syncMain probe force copying host tree directory).2.directory ∧
        (syncMain probe force copying host tree
          (syncMain probe force copying host tree directory).2.directory).2.copied = 0 ↔
      Syncable probe force tree directory := by
  obtain ⟨hturns, hrun⟩ := syncMain_ok hok
  rw [hrun (syncMain probe force copying host tree directory).2.directory]
  generalize (syncMain probe force copying host tree directory).2 = final at hturns ⊢
  constructor
  · rintro ⟨hcopies, hsecond⟩
    refine ⟨hcopies.injective, ?_, hturns.second_copies_iff.1 hsecond⟩
    intro hforce path source hmedia hsource hdate
    have he : (path, source) ∈ sortedSources tree := mem_sortedSources.2 hsource
    have hskips : skips probe force directory (path, source) = true := by
      rw [skips, hforce, hdate]
      rfl
    have hown := hturns.lookup_own (pairwise_sortedSources hcopies.injective) he hmedia
    rw [if_pos hskips] at hown
    rw [← hown]
    exact hcopies.copies path source hmedia hsource
  · intro hsync
    exact ⟨hturns.isCopyMap hsync, hturns.second_copies_iff.2 hsync.plain⟩

end

def tidesPath : Path := Path.parse "/downloads/Tides/Season 1/01.mp3"
def riversPath : Path := Path.parse "/downloads/Rivers/Season 1/01.mp3"

/-- Two episodes of one name, in season folders of one name. -/
def seasonTree : SourceTree Nat :=
  AList.insert riversPath ⟨2, 7⟩ (AList.insert tidesPath ⟨1, 5⟩ ∅)

def readyHost : SyncHost := ⟨true, true, true, true, true⟩

theorem one_episode_synced :
    IsCopyMap (fun _ => true) destination (AList.insert tidesPath (⟨1, 5⟩ : SourceFile Nat) ∅)
      (syncMain (fun _ => true) false (fun _ => .done) readyHost
        (AList.insert tidesPath ⟨1, 5⟩ ∅) ∅).2.directory := by
  have hok : (syncMain (fun _ => true) false (fun _ => .done) readyHost
      (AList.insert tidesPath (⟨1, 5⟩ : SourceFile Nat) ∅) ∅).1 = 0 := by decide +kernel
  refine ((sync_faithful_iff _ _ _ _ _ _ hok).2 ⟨?_, ?_, nofun⟩).1
  · rintro path ⟨-, hpath⟩ path' ⟨-, hpath'⟩ -
    rw [AList.lookup_isSome, AList.mem_insert, or_iff_left (AList.notMem_empty _)] at hpath hpath'
    exact hpath.trans hpath'.symm
  · intro _ path source _ _ hdate
    exact absurd hdate Bool.false_ne_true

/-- One episode is overwritten by the other: no map gives each a file of its own. -/
theorem same_season_name_loses_episode :
    (syncMain (fun _ => true) false (fun _ => .done) readyHost seasonTree ∅).1 = 0 ∧
      ¬ ∃ name, IsCopyMap (fun _ => true) name seasonTree
        (syncMain (fun _ => true) false (fun _ => .done) readyHost seasonTree ∅).2.directory := by
  have hok : (syncMain (fun _ => true) false (fun _ => .done) readyHost seasonTree ∅).1 = 0 := by
    decide +kernel
  refine ⟨hok, ?_⟩
  rintro ⟨name, hname⟩
  obtain ⟨hturns, -⟩ := syncMain_ok hok
  generalize (syncMain (fun _ => true) false (fun _ => .done) readyHost seasonTree ∅).2 = final at hname hturns
  have hdestination : ∀ e ∈ sortedSources seasonTree, destination e.1 = "Season 1 - 01.mp3" := by
    decide +kernel
  have hone : ∀ path source, isMediaFile path = true → seasonTree.lookup path = some source →
      name path = "Season 1 - 01.mp3" := by
    intro path source hmedia hsource
    have hcopy := hname.copies path source hmedia hsource
    by_contra hne
    have hnone := hturns.lookup_of_ne fun e he _ => (hdestination e he).symm ▸ hne
    rw [AList.lookup_empty] at hnone
    rw [hnone] at hcopy
    exact hcopy
  have htides : isMediaFile tidesPath = true ∧ seasonTree.lookup tidesPath = some ⟨1, 5⟩ := by
    decide +kernel
  have hrivers : isMediaFile riversPath = true ∧ seasonTree.lookup riversPath = some ⟨2, 7⟩ := by
    decide +kernel
  have hsame := hname.injective (mem_mediaPaths htides.1 htides.2) (mem_mediaPaths hrivers.1 hrivers.2)
    ((hone _ _ htides.1 htides.2).trans (hone _ _ hrivers.1 hrivers.2).symm)
  have hne : tidesPath ≠ riversPath := by decide +kernel
  exact hne hsame

end GetOffline
