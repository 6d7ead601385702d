import GetOffline.FileTree
import GetOffline.LibraryRows
import GetOffline.PythonPath

set_option autoImplicit true

namespace GetOffline
open Python

/-- The files of a machine, with their sizes. -/
abbrev Disk := FileTree Path Nat

/-- What stays the same on a machine: the entry that `Path(text).expanduser()` names, the links among its
directories being resolved, and the entries that a process may not unlink. -/
structure Machine where
  entry : String → Path
  denied : Path → Bool

/-- How many links the system follows. -/
def linkLimit : Nat := 40

/-- The errors of `unlink`, by the class that an `except` clause sees. -/
inductive UnlinkError
  | fileNotFound
  | osError

namespace Disk

/-- `path.is_file()`. -/
def isFile (name : Path) (disk : Disk) : Bool :=
  (disk.follow linkLimit name).isSome

/-- `path.unlink()`. -/
def unlink (machine : Machine) (name : Path) (disk : Disk) : Except UnlinkError Disk :=
  match disk.lookup name with
  | none => .error .fileNotFound
  | some .directory => .error .osError
  | some _ => if machine.denied name then .error .osError else .ok (AList.erase name disk)

end Disk

/-- The media file of a row, if it names one. -/
def DownloadRow.mediaEntry (machine : Machine) (row : DownloadRow) : Option Path :=
  (row.filePath.filter fun text => text ≠ "").map machine.entry

/-- The rows and the files that a clean-up works on. -/
structure MediaStore where
  downloads : AutoTable DownloadRow
  disk : Disk

namespace Disk
variable {disk disk' : Disk} {name : Path} {machine : Machine}

theorem isFile_iff : disk.isFile name = true ↔ ∃ size, disk.follow linkLimit name = some size :=
  Option.isSome_iff_exists

theorem isFile_of_within (h : disk'.Within disk) (hfile : disk'.isFile name = true) :
    disk.isFile name = true := by
  obtain ⟨size, hsize⟩ := isFile_iff.1 hfile
  exact isFile_iff.2 ⟨size, (h.follow hsize).1⟩

theorem not_isFile_of_none (h : disk.lookup name = none) : disk.isFile name = false := by
  rw [isFile, FileTree.follow_of_lookup_none h, Option.isSome_none]

/-- The file that a name leads to can be unlinked under that name, unless the system denies it. -/
theorem unlink_of_isFile (hfile : disk.isFile name = true) :
    disk.unlink machine name =
      if machine.denied name then .error .osError else .ok (AList.erase name disk) := by
  obtain ⟨size, hsize⟩ := isFile_iff.1 hfile
  rw [unlink]
  split
  · next hnone =>
    rw [FileTree.follow_of_lookup_none hnone] at hsize
    cases hsize
  · next hdirectory =>
    simp only [linkLimit, FileTree.follow, hdirectory, reduceCtorEq] at hsize
  · rfl

/-- The name leads to a file as before exactly if nothing on the way has gone. -/
theorem isFile_iff_of_within (h : disk'.Within disk) (hfile : disk.isFile name = true) :
    disk'.isFile name = true ↔ ∀ other ∈ disk.trail linkLimit name, disk'.lookup other ≠ none := by
  obtain ⟨size, hsize⟩ := isFile_iff.1 hfile
  rw [← h.follow_iff hsize, isFile_iff]
  constructor
  · rintro ⟨size', hsize'⟩
    rw [← hsize, (h.follow hsize').1, hsize']
  · exact fun hfound => ⟨size, hfound⟩

theorem lookup_of_mem_trail {other : Path} (hfile : disk.isFile name = true)
    (hother : other ∈ disk.trail linkLimit name) : disk.lookup other ≠ none := by
  obtain ⟨size, hsize⟩ := isFile_iff.1 hfile
  intro hnone
  have hfound := FileTree.follow_of_mem_trail hsize hother
  rw [FileTree.follow_of_lookup_none hnone] at hfound
  cases hfound

end Disk

end GetOffline
