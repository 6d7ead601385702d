import GetOffline.FileLinks
import GetOffline.RetentionPromise

set_option autoImplicit true

namespace GetOffline
open Python

namespace Disk

/-- `path.resolve()`: links that go round in a circle raise. -/
def resolve (name : Path) (disk : Disk) : Except Error Path :=
  match disk.target (disk.keys.length + 1) name with
  | some last => .ok last
  | none => .error (.other "RuntimeError")

end Disk

-- api/services/settings.py

/-- The values of `output_root`: the profiles' own and the one for all. -/
structure RootSettings where
  profile : String → Option String
  app : Option String

namespace RootSettings

/-- The text of a profile's root. -/
def outputRoot (settings : RootSettings) (profileId : String) : String :=
  (((settings.profile profileId).filter fun text => text ≠ "").or
    (settings.app.filter fun text => text ≠ "")).getD "./downloads/default"

/-- `profile_output_root`. -/
def profileOutputRoot (machine : Machine) (disk : Disk) (profileId : String) (settings : RootSettings) :
    Except Error Path :=
  disk.resolve (machine.entry (settings.outputRoot profileId))

end RootSettings

-- api/streaming/media.py

/-- `Http404("File unavailable")`. -/
def fileUnavailable : Error := .other "File unavailable"

namespace Disk

/-- `safe_path`, the links being entries of the disk. -/
def safePath (machine : Machine) (rawPath : String) (disk : Disk) : Except Error Path :=
  if rawPath = "" then .error fileUnavailable
  else
    match disk.resolve (machine.entry rawPath) with
    | .error error => .error error
    | .ok path => if disk.isFile path then .ok path else .error fileUnavailable

/-- The loop of `resolve_media_path`. -/
def firstSafePath (machine : Machine) (disk : Disk) : List String → Except Error Path
  | [] => .error fileUnavailable
  | candidate :: candidates =>
    match disk.safePath machine candidate with
    | .ok path => .ok path
    | .error error =>
      if error = fileUnavailable then disk.firstSafePath machine candidates else .error error

end Disk

namespace DownloadRow

/-- `Path(file_path)` as a candidate: its text names what `file_path` names. -/
def ownCandidates (row : DownloadRow) : List String :=
  (row.filePath.filter fun text => text ≠ "").toList

/-- `resolve_media_path`. -/
def resolveMediaPath (machine : Machine) (settings : RootSettings) (disk : Disk) (row : DownloadRow) :
    Except Error Path :=
  match row.filePathRelative.filter fun text => text ≠ "" with
  | none => disk.firstSafePath machine row.ownCandidates
  | some text =>
    match settings.profileOutputRoot machine disk row.profileId with
    | .error error => .error error
    | .ok root => disk.firstSafePath machine ((root.truediv text).str :: row.ownCandidates)

/-- The entry that `file_path_relative` names under the root. -/
def RelativeEntry (machine : Machine) (settings : RootSettings) (disk : Disk) (row : DownloadRow)
    (name : Path) : Prop :=
  ∃ text root, row.filePathRelative = some text ∧ text ≠ "" ∧
    disk.LeadsTo (machine.entry (settings.outputRoot row.profileId)) root ∧
    name = machine.entry (root.truediv text).str

/-- The file that `file_path_relative` leads to under the root. -/
def RelativeFile (machine : Machine) (settings : RootSettings) (disk : Disk) (row : DownloadRow)
    (file : Path) : Prop :=
  ∃ name, row.RelativeEntry machine settings disk name ∧ disk.LeadsToFile name file

/-- The links of the root, or those of `file_path_relative` under it, go round in a circle. -/
def Circular (machine : Machine) (settings : RootSettings) (disk : Disk) (row : DownloadRow) : Prop :=
  (∃ text, row.filePathRelative = some text ∧ text ≠ "") ∧
    ∀ name last, row.RelativeEntry machine settings disk name → ¬ disk.LeadsTo name last

/-- The file that `file_path` leads to. -/
def OwnFile (machine : Machine) (disk : Disk) (row : DownloadRow) (file : Path) : Prop :=
  ∃ name, row.mediaEntry machine = some name ∧ disk.LeadsToFile name file

end DownloadRow

namespace Disk
variable {machine : Machine} {disk : Disk} {name last file : Path} {text : String}

theorem resolve_eq_ok_iff : disk.resolve name = .ok last ↔ disk.LeadsTo name last := by
  rw [← FileTree.target_eq_some_iff, resolve]
  split
  · next other hother =>
    rw [hother, Except.ok.injEq, Option.some.injEq]
  · next hnone =>
    rw [hnone]
    simp only [reduceCtorEq]

theorem resolve_cases (disk : Disk) (name : Path) : (∃ last, disk.resolve name = .ok last) ∨
    disk.resolve name = .error (.other "RuntimeError") := by
  rw [resolve]
  split
  · next last _ => exact .inl ⟨last, rfl⟩
  · exact .inr rfl

/-- A name that is no link is that of a file, or leads to none. -/
theorem isFile_of_not_link (h : ∀ next, disk.lookup name ≠ some (.link next)) :
    disk.isFile name = true ↔ ∃ size, disk.lookup name = some (.file size) := by
  rw [isFile, linkLimit, FileTree.follow]
  split
  · next next hnext => exact absurd hnext (h next)
  · next size hsize => exact iff_of_true rfl ⟨size, hsize⟩
  · next hother =>
    refine iff_of_false Bool.false_ne_true ?_
    rintro ⟨size, hsize⟩
    exact hother size hsize

/-- What `safe_path` does with a candidate: it raises, gives the file, or has the next one tried. -/
theorem safePath_cases (machine : Machine) (disk : Disk) (htext : text ≠ "") :
    ((∀ last, ¬ disk.LeadsTo (machine.entry text) last) ∧
        disk.safePath machine text = .error (.other "RuntimeError")) ∨
      (∃ file, disk.LeadsToFile (machine.entry text) file ∧ disk.safePath machine text = .ok file) ∨
      (∃ last, disk.LeadsTo (machine.entry text) last) ∧
        (∀ file, ¬ disk.LeadsToFile (machine.entry text) file) ∧
        disk.safePath machine text = .error fileUnavailable := by
  rw [safePath, if_neg htext]
  rcases disk.resolve_cases (machine.entry text) with ⟨last, hlast⟩ | hcircle
  · have hleads := resolve_eq_ok_iff.1 hlast
    rw [hlast]
    dsimp only
    cases hfile : disk.isFile last with
    | true =>
      have hentry := (isFile_of_not_link hleads.end_not_link).1 hfile
      exact .inr (.inl ⟨last, ⟨hleads, hentry⟩, rfl⟩)
    | false =>
      refine .inr (.inr ⟨⟨last, hleads⟩, ?_, rfl⟩)
      rintro file ⟨hleads', hentry⟩
      obtain rfl := hleads.unique hleads'
      have hfound := (isFile_of_not_link hleads.end_not_link).2 hentry
      rw [hfile] at hfound
      cases hfound
  · refine .inl ⟨?_, ?_⟩
    · intro last hleads
      have hlast := resolve_eq_ok_iff.2 hleads
      rw [hcircle] at hlast
      cases hlast
    · rw [hcircle]

/-- The first candidate that is not missing decides. -/
theorem firstSafePath_cons_ok_iff (htext : text ≠ "") (texts : List String) :
    disk.firstSafePath machine (text :: texts) = .ok file ↔
      disk.LeadsToFile (machine.entry text) file ∨
        (∃ last, disk.LeadsTo (machine.entry text) last) ∧
          (∀ other, ¬ disk.LeadsToFile (machine.entry text) other) ∧
          disk.firstSafePath machine texts = .ok file := by
  rw [firstSafePath]
  rcases safePath_cases machine disk htext with
    ⟨hcircle, hresult⟩ | ⟨found, hfound, hresult⟩ | ⟨hleads, hnone, hresult⟩
  · rw [hresult]
    have hother : Error.other "RuntimeError" ≠ fileUnavailable := by decide
    dsimp only
    rw [if_neg hother]
    refine iff_of_false (fun h => by cases h) ?_
    rintro (h | ⟨⟨last, h⟩, -⟩)
    · exact hcircle file h.1
    · exact hcircle last h
  · rw [hresult]
    dsimp only
    rw [Except.ok.injEq]
    constructor
    · rintro rfl
      exact .inl hfound
    · rintro (h | ⟨-, hnone, -⟩)
      · exact hfound.unique h
      · exact absurd hfound (hnone found)
  · rw [hresult]
    dsimp only
    rw [if_pos rfl]
    constructor
    · exact fun h => .inr ⟨hleads, hnone, h⟩
    · rintro (h | ⟨-, -, h⟩)
      · exact absurd h (hnone file)
      · exact h

end Disk

namespace DownloadRow
variable {machine : Machine} {settings : RootSettings} {disk : Disk} {row : DownloadRow}
  {name file : Path}

theorem firstSafePath_ownCandidates :
    disk.firstSafePath machine row.ownCandidates = .ok file ↔ row.OwnFile machine disk file := by
  rw [ownCandidates, OwnFile, mediaEntry]
  cases htext : row.filePath.filter fun text => text ≠ "" with
  | none =>
    refine iff_of_false (fun h => by cases h) ?_
    rintro ⟨name, hname, -⟩
    cases hname
  | some text =>
    have hne : text ≠ "" := of_decide_eq_true (Option.filter_eq_some_iff.1 htext).2
    rw [Option.toList_some, Disk.firstSafePath_cons_ok_iff hne]
    constructor
    · rintro (h | ⟨-, -, h⟩)
      · exact ⟨_, rfl, h⟩
      · cases h
    · rintro ⟨name, hname, h⟩
      obtain rfl := Option.some.inj hname
      exact .inl h

/-- A row without a relative path has neither a file under the root nor links there. -/
theorem no_relative (machine : Machine) (settings : RootSettings) (disk : Disk)
    (h : row.filePathRelative.filter (fun text => text ≠ "") = none) :
    (∀ file, ¬ row.RelativeFile machine settings disk file) ∧ ¬ row.Circular machine settings disk := by
  have hnone (text : String) (htext : row.filePathRelative = some text) : ¬ text ≠ "" := by
    intro hne
    rw [htext, Option.filter_some, if_pos (decide_eq_true hne)] at h
    cases h
  constructor
  · rintro file ⟨name, ⟨text, root, htext, hne, -⟩, -⟩
    exact hnone text htext hne
  · rintro ⟨⟨text, htext, hne⟩, -⟩
    exact hnone text htext hne

section
variable {text : String} {root : Path} (htext : row.filePathRelative = some text) (hne : text ≠ "")
  (hroot : disk.LeadsTo (machine.entry (settings.outputRoot row.profileId)) root)
include htext hne hroot

theorem relativeEntry_iff : row.RelativeEntry machine settings disk name ↔
    name = machine.entry (root.truediv text).str := by
  constructor
  · rintro ⟨text', root', htext', -, hroot', rfl⟩
    rw [htext] at htext'
    obtain rfl := Option.some.inj htext'
    rw [hroot.unique hroot']
  · rintro rfl
    exact ⟨text, root, htext, hne, hroot, rfl⟩

theorem relativeFile_iff : row.RelativeFile machine settings disk file ↔
    disk.LeadsToFile (machine.entry (root.truediv text).str) file := by
  constructor
  · rintro ⟨name, hname, hfile⟩
    rwa [(relativeEntry_iff htext hne hroot).1 hname] at hfile
  · exact fun hfile => ⟨_, (relativeEntry_iff htext hne hroot).2 rfl, hfile⟩

theorem circular_iff : row.Circular machine settings disk ↔
    ∀ last, ¬ disk.LeadsTo (machine.entry (root.truediv text).str) last := by
  constructor
  · exact fun h last => h.2 _ last ((relativeEntry_iff htext hne hroot).2 rfl)
  · intro h
    refine ⟨⟨text, htext, hne⟩, ?_⟩
    intro name last hname
    rw [(relativeEntry_iff htext hne hroot).1 hname]
    exact h last

end

/-- What a streaming request gets: the file under the root, or else the row's own one. -/
theorem resolveMediaPath_eq_ok_iff : row.resolveMediaPath machine settings disk = .ok file ↔
    row.RelativeFile machine settings disk file ∨
      ¬ row.Circular machine settings disk ∧ (∀ other, ¬ row.RelativeFile machine settings disk other) ∧
        row.OwnFile machine disk file := by
  rw [resolveMediaPath]
  cases htext : row.filePathRelative.filter fun text => text ≠ "" with
  | none =>
    obtain ⟨hnone, hstraight⟩ := no_relative machine settings disk htext
    dsimp only
    rw [firstSafePath_ownCandidates]
    constructor
    · exact fun h => .inr ⟨hstraight, hnone, h⟩
    · rintro (h | ⟨-, -, h⟩)
      · exact absurd h (hnone file)
      · exact h
  | some text =>
    obtain ⟨htext, hdecide⟩ := Option.filter_eq_some_iff.1 htext
    have hne : text ≠ "" := of_decide_eq_true hdecide
    dsimp only
    rw [RootSettings.profileOutputRoot]
    rcases disk.resolve_cases (machine.entry (settings.outputRoot row.profileId)) with ⟨root, hroot⟩ | hcircle
    · have hleads := Disk.resolve_eq_ok_iff.1 hroot
      rw [hroot]
      dsimp only
      rw [Disk.firstSafePath_cons_ok_iff (Path.str_ne_empty _), firstSafePath_ownCandidates,
        circular_iff htext hne hleads]
      simp only [relativeFile_iff htext hne hleads, not_forall, not_not]
    · have hnone (root : Path) : ¬ disk.LeadsTo (machine.entry (settings.outputRoot row.profileId)) root := by
        intro hleads
        rw [Disk.resolve_eq_ok_iff.2 hleads] at hcircle
        cases hcircle
      rw [hcircle]
      refine iff_of_false (fun h => by cases h) ?_
      rintro (⟨name, ⟨text', root, -, -, hleads, -⟩, -⟩ | ⟨hstraight, -⟩)
      · exact hnone root hleads
      · apply hstraight
        refine ⟨⟨text, htext, hne⟩, ?_⟩
        rintro name last ⟨text', root, -, -, hleads, -⟩
        exact absurd hleads (hnone root)

end DownloadRow

end GetOffline
