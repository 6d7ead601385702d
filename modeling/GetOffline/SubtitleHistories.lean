import GetOffline.FreshSubtitles

set_option autoImplicit true

namespace GetOffline
open Python Interruptible Execution

/-- What happens in a folder: calls, with how their parts go, files that arrive, replace others or go, and workers
that start again. -/
inductive SubtitleEvent
  | call (mediaFile : Path) (subtitleOffsetSeconds : Option ℚ) (enabled : Bool) (fates : CallFates)
  | put (path : Path) (file : StoredFile)
  | remove (path : Path)
  | restart

/-- The folder and the worker, with a record of the subtitles that calls have made to their end: for which medium
and offset, as long as neither the subtitle nor the medium has been touched since. -/
structure SubtitleHistory where
  world : SubtitleWorld
  made : Table Path (Path × ℚ)

namespace SubtitleHistory

def initial (files : MediaFolder) : SubtitleHistory where
  world := { files, cache := ∅, generating := [] }
  made := ∅

/-- The record loses what has been touched. -/
def settle (s : SubtitleHistory) (world : SubtitleWorld) : SubtitleHistory where
  world := world
  made := s.made.delete fun path owner =>
    world.files.lookup path ≠ s.world.files.lookup path || world.files.lookup owner.1 ≠ s.world.files.lookup owner.1

def record (path : Path) (owner : Path × ℚ) (s : SubtitleHistory) : SubtitleHistory :=
  { s with made := AList.insert path owner s.made }

def restarted (world : SubtitleWorld) : SubtitleWorld :=
  { world with cache := ∅ }

def step (host : SubtitleHost) (s : SubtitleHistory) : SubtitleEvent → SubtitleHistory
  | .call mediaFile subtitleOffsetSeconds enabled fates =>
    match SubtitleWorld.createSubtitles host mediaFile subtitleOffsetSeconds enabled fates s.world with
    | (.ok (some path), world) =>
      if (s.world.files.lookup path).isNone then
        (s.settle world).record path (mediaFile, subtitleOffsetSeconds.getD 0)
      else s.settle world
    | (.ok none, world) | (.error (.raised _), world) => s.settle world
    | (.error .died, world) => s.settle (restarted world)
  | .put path file => s.settle (s.world.store path file)
  | .remove path => s.settle { s.world with files := AList.erase path s.world.files }
  | .restart => s.settle (restarted s.world)

/-- The steps that a run may have: a subtitle that is found has been made for the medium and the offset, the medium
does not look like a subtitle, and a medium that is replaced has another time than those at which it has been heard. -/
def Meets (s : SubtitleHistory) : SubtitleEvent → Prop
  | .call mediaFile subtitleOffsetSeconds enabled _ =>
    enabled = true → (s.world.files.lookup mediaFile).isSome → IsMedium mediaFile ∧
      ∀ path, mediaFile.withSuffix ".srt" = .ok path → (s.world.files.lookup path).isSome →
        s.made.lookup path = some (mediaFile, subtitleOffsetSeconds.getD 0)
  | .put path file => IsMedium path → s.world.cache.lookup (path, file.mtime) = none
  | .remove _ | .restart => True

/-- A call that returns a subtitle leaves there the transcript of the medium as it is. -/
def Fresh (host : SubtitleHost) (s : SubtitleHistory) : SubtitleEvent → Prop
  | .call mediaFile subtitleOffsetSeconds enabled fates => ∀ path world,
    SubtitleWorld.createSubtitles host mediaFile subtitleOffsetSeconds enabled fates s.world = (.ok (some path), world) →
      ∃ media, world.files.lookup mediaFile = some media ∧
        world.Transcribes host media.content (subtitleOffsetSeconds.getD 0) path
  | .put _ _ | .remove _ | .restart => True

/-- The cache is right, and so are the subtitles on record. -/
structure Sound (host : SubtitleHost) (s : SubtitleHistory) : Prop where
  cache : s.world.CacheSound host
  made : ∀ path owner media, s.made.lookup path = some owner → s.world.files.lookup owner.1 = some media →
    s.world.Transcribes host media.content owner.2 path

variable {host : SubtitleHost} {s : SubtitleHistory} {world : SubtitleWorld}

theorem sound_initial (files : MediaFolder) : (initial files).Sound host where
  cache _ _ _ _ _ hcached := by cases hcached
  made _ _ _ hmade := by cases hmade

theorem Sound.settle (h : s.Sound host) (hcache : world.CacheSound host) : (s.settle world).Sound host where
  cache := hcache
  made := by
    intro path owner media hmade hmedia
    rw [SubtitleHistory.settle, Table.lookup_delete, Option.filter_eq_some_iff] at hmade
    obtain ⟨hmade, huntouched⟩ := hmade
    simp only [Bool.not_eq_true', Bool.or_eq_false_iff, decide_eq_false_iff_not, ne_eq, not_not] at huntouched
    obtain ⟨file, hfile, hcomplete⟩ := h.made path owner media hmade (huntouched.2.symm.trans hmedia)
    exact ⟨file, huntouched.1.trans hfile, hcomplete⟩

theorem Sound.record (h : s.Sound host) {path : Path} {owner : Path × ℚ}
    (hnew : ∀ media, s.world.files.lookup owner.1 = some media →
      s.world.Transcribes host media.content owner.2 path) : (s.record path owner).Sound host where
  cache := h.cache
  made := by
    intro other owner' media hmade hmedia
    rw [SubtitleHistory.record] at hmade
    by_cases heq : other = path
    · subst heq
      rw [AList.lookup_insert] at hmade
      obtain rfl := Option.some.inj hmade
      exact hnew media hmedia
    · rw [AList.lookup_insert_ne heq] at hmade
      exact h.made other owner' media hmade hmedia

theorem cacheSound_restarted (world : SubtitleWorld) : (restarted world).CacheSound host := by
  intro path file segments _ _ hcached
  cases hcached

theorem cacheSound_put (h : world.CacheSound host) {path : Path} {file : StoredFile}
    (hnew : IsMedium path → world.cache.lookup (path, file.mtime) = none) :
    (world.store path file).CacheSound host := by
  intro other file' segments hmedium hfile hcached
  by_cases heq : other = path
  · subst heq
    rw [SubtitleWorld.store, AList.lookup_insert] at hfile
    obtain rfl := Option.some.inj hfile
    rw [SubtitleWorld.store, hnew hmedium] at hcached
    cases hcached
  · rw [SubtitleWorld.store, AList.lookup_insert_ne heq] at hfile
    exact h other file' segments hmedium hfile hcached

theorem cacheSound_remove (h : world.CacheSound host) (path : Path) :
    ({ world with files := AList.erase path world.files } : SubtitleWorld).CacheSound host := by
  intro other file segments hmedium hfile hcached
  by_cases heq : other = path
  · subst heq
    rw [AList.lookup_erase] at hfile
    cases hfile
  · rw [AList.lookup_erase_ne heq] at hfile
    exact h other file segments hmedium hfile hcached

/-- What a call leaves, and what it returns. -/
theorem createSubtitles_spec (h : s.Sound host) {mediaFile : Path} {subtitleOffsetSeconds : Option ℚ} {enabled : Bool}
    {fates : CallFates} (hmeets : s.Meets (.call mediaFile subtitleOffsetSeconds enabled fates))
    (hcall : SubtitleWorld.createSubtitles host mediaFile subtitleOffsetSeconds enabled fates s.world =
      (outcome, world)) :
    world.CacheSound host ∧ ∀ path, outcome = .ok (some path) → ∃ media, world.files.lookup mediaFile = some media ∧
      world.Transcribes host media.content (subtitleOffsetSeconds.getD 0) path := by
  have hensures := SubtitleWorld.ensures_createSubtitles fates subtitleOffsetSeconds enabled h.cache
    fun henabled hexists => (hmeets henabled hexists).1
  cases outcome with
  | error halted => exact ⟨(hensures.of_error hcall).cache, nofun⟩
  | ok returned =>
    obtain ⟨hkeeps, hreturned⟩ := hensures.of_ok hcall
    refine ⟨hkeeps.cache, ?_⟩
    rintro path ⟨⟩
    obtain ⟨henabled, hsidecar, hmedium, media, hmedia, hfound, hnew⟩ := hreturned path rfl
    refine ⟨media, (hkeeps.media mediaFile hmedium).trans hmedia, ?_⟩
    cases hpath : s.world.files.lookup path with
    | none => exact hnew hpath
    | some file =>
      -- the subtitle that has been found is on record
      have hsome : (s.world.files.lookup path).isSome = true := by rw [hpath]; rfl
      have hrecord := (hmeets henabled (by rw [hmedia]; rfl)).2 path hsidecar hsome
      obtain ⟨file', hfile', hcomplete⟩ := h.made path _ media hrecord hmedia
      exact ⟨file', (hfound hsome).trans hfile', hcomplete⟩

theorem Sound.step (h : s.Sound host) {event : SubtitleEvent} (hmeets : s.Meets event) :
    (s.step host event).Sound host := by
  cases event with
  | call mediaFile subtitleOffsetSeconds enabled fates =>
    rw [SubtitleHistory.step]
    rcases hcall : SubtitleWorld.createSubtitles host mediaFile subtitleOffsetSeconds enabled fates s.world with
      ⟨(halted | returned), world⟩
    · have hcache := (createSubtitles_spec h hmeets hcall).1
      cases halted with
      | raised error => exact h.settle hcache
      | died => exact h.settle (cacheSound_restarted world)
    · obtain ⟨hcache, hfresh⟩ := createSubtitles_spec h hmeets hcall
      cases returned with
      | none => exact h.settle hcache
      | some path =>
        dsimp only
        split
        · apply (h.settle hcache).record
          intro media hmedia
          obtain ⟨media', hmedia', hcomplete⟩ := hfresh path rfl
          obtain rfl := Option.some.inj (hmedia'.symm.trans hmedia)
          exact hcomplete
        · exact h.settle hcache
  | put path file => exact h.settle (cacheSound_put h.cache hmeets)
  | remove path => exact h.settle (cacheSound_remove h.cache path)
  | restart => exact h.settle (cacheSound_restarted s.world)

theorem Sound.fresh (h : s.Sound host) {event : SubtitleEvent} (hmeets : s.Meets event) : s.Fresh host event := by
  cases event with
  | call mediaFile subtitleOffsetSeconds enabled fates =>
    intro path world hcall
    exact (createSubtitles_spec h hmeets hcall).2 path rfl
  | put path file => trivial
  | remove path => trivial
  | restart => trivial

/-- The runs of a folder. -/
def run (host : SubtitleHost) (s : SubtitleHistory) (event : SubtitleEvent) : Option SubtitleHistory :=
  some (s.step host event)

/-- In a run whose steps meet the conditions, every subtitle that is returned is fresh and complete. -/
theorem subtitles_fresh (host : SubtitleHost) (files : MediaFolder) (events : List SubtitleEvent)
    (h : Along (run host) Meets (initial files) events) :
    Along (run host) (Fresh host) (initial files) events := by
  have hsound : ∀ s : SubtitleHistory, s.Sound host → Along (run host) Meets s events →
      Along (run host) (Fresh host) s events := by
    clear h
    induction events with
    | nil => exact fun _ _ _ => trivial
    | cons event events ih =>
      intro s hs halong
      exact ⟨hs.fresh halong.head, ih _ (hs.step halong.head) (halong.tail rfl)⟩
  exact hsound _ (sound_initial files) h

/-- A host that hears the content of a file as one remark. -/
def echoHost : SubtitleHost where
  real path := path
  denied _ := false
  hear content := [⟨some 0, some 1, content⟩]

/-- A call in which nothing fails. -/
def smooth : CallFates where
  now := 5
  checks := .returns
  transcription := .returns
  marker := ⟨.returns, none⟩
  subtitle := ⟨.returns, none⟩
  unmark := .returns
  readBack := .returns
  shift := ⟨.returns, none⟩
  cleanup := .returns
  spared _ := false

def episode : Path := Path.parse "/downloads/a.mp3"

def episodeSubtitle : Path := Path.parse "/downloads/a.srt"

def subtitled (offset : Option ℚ) : SubtitleEvent :=
  .call episode offset true smooth

theorem along_cons {ok : SubtitleHistory → SubtitleEvent → Prop} {event : SubtitleEvent} {events : List SubtitleEvent}
    (h : ok s event) (hrest : Along (run host) ok (s.step host event) events) :
    Along (run host) ok s (event :: events) := ⟨h, hrest⟩

/-- A subtitle is made with an offset, found again, and made anew once it has gone with its medium replaced. -/
theorem subtitles_fresh_twice :
    Along (run echoHost) (Fresh echoHost) (initial ∅)
      [.put episode ⟨"one", 1⟩, subtitled (some 2), subtitled (some 2), .remove episodeSubtitle,
        .put episode ⟨"two", 9⟩, subtitled none] := by
  have hmedium : IsMedium episode := ⟨by decide +kernel, by decide +kernel⟩
  have hsidecar : ∀ path, episode.withSuffix ".srt" = .ok path → path = episodeSubtitle := fun path h =>
    Except.ok.inj (h.symm.trans (by decide +kernel))
  apply subtitles_fresh
  apply along_cons
  · exact fun _ => rfl
  apply along_cons
  · refine fun _ _ => ⟨hmedium, ?_⟩
    intro path hpath hfound
    obtain rfl := hsidecar path hpath
    revert hfound
    decide +kernel
  apply along_cons
  · refine fun _ _ => ⟨hmedium, ?_⟩
    intro path hpath _
    obtain rfl := hsidecar path hpath
    decide +kernel
  apply along_cons
  · trivial
  apply along_cons
  · intro _
    decide +kernel
  apply along_cons
  · refine fun _ _ => ⟨hmedium, ?_⟩
    intro path hpath hfound
    obtain rfl := hsidecar path hpath
    revert hfound
    decide +kernel
  trivial

/-- After the medium has been replaced, the old subtitle is returned. -/
theorem replaced_medium_keeps_subtitle : ¬ ∀ (host : SubtitleHost) (files : MediaFolder) (events : List SubtitleEvent),
    Along (run host) (Fresh host) (initial files) events := by
  intro h
  have hfresh := along_iff.1 (h echoHost ∅ [.put episode ⟨"one", 1⟩, subtitled none, .put episode ⟨"two", 9⟩,
    subtitled none]) [.put episode ⟨"one", 1⟩, subtitled none, .put episode ⟨"two", 9⟩] (subtitled none) [] _ rfl rfl
  obtain ⟨media, hmedia, file, hfile, hcomplete⟩ := hfresh episodeSubtitle _ (Prod.ext (by decide +kernel) rfl)
  have hnew : media = ⟨"two", 9⟩ := Option.some.inj (hmedia.symm.trans (by decide +kernel))
  have hold : file = ⟨writeSegments (echoHost.hear "one"), 5⟩ :=
    Option.some.inj (hfile.symm.trans (by decide +kernel))
  rw [hnew, hold] at hcomplete
  revert hcomplete
  decide +kernel

end SubtitleHistory
end GetOffline
