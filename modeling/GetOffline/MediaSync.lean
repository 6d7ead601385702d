import GetOffline.PythonPath
import GetOffline.TableOrder
import Mathlib.Data.String.Basic

set_option autoImplicit true

namespace GetOffline
open Python

-- crons/sync_media_downloads.py

/-- `MEDIA_SUFFIXES`. -/
def mediaSuffixes : List String := [".mp3", ".mp4"]

/-- `value.strip(" .-")`. -/
def stripMarks (cs : List Char) : List Char :=
  let isMark (c : Char) : Bool := c ∈ [' ', '.', '-']
  ((cs.dropWhile isMark).reverse.dropWhile isMark).reverse

def sanitizeComponent (value : String) : String :=
  let replaced := value.toList.map fun c =>
    if c = '\n' ∨ c = '\r' then ' '
    else if c ∈ ['/', '\\', ':', '*', '?', '"', '<', '>', '|'] then '-'
    else c
  let words := (replaced.splitOnP isSpace).filter fun word => word ≠ []
  let stripped := stripMarks ([' '].intercalate words)
  if stripped = [] then "Unknown Artist" else String.ofList stripped

def isMediaFile (path : Path) : Bool :=
  lower path.suffix ∈ mediaSuffixes

/-- The name under which the file is looked for in the sync directory. -/
def destination (path : Path) : String :=
  sanitizeComponent path.parent.name ++ " - " ++ sanitizeComponent path.name

/-- A file of the downloads tree. -/
structure SourceFile (γ : Type) where
  content : γ
  modified : Int
  deriving DecidableEq

/-- What stands in the sync directory; a file is remembered to be a copy of a source. -/
inductive SyncEntry (γ : Type)
  | file (content : γ) (modified : Int) (copyOf : Option Path)
  | directory

abbrev SourceTree (γ : Type) := Table Path (SourceFile γ)
abbrev SyncDirectory (γ : Type) := Table String (SyncEntry γ)

/-- What the system makes of the calls of `copy_media`: they succeed, or one fails before or after the
destination has been replaced. -/
inductive Copying
  | done
  | failed (replaced : Bool)

/-- What the checks of `main` find, and whether its two calls of `chown_tree` return; it crashes where
one raises. -/
structure SyncHost where
  downloadsIsDir : Bool
  ffprobeFound : Bool
  ownerResolved : Bool
  ownedBefore : Bool
  ownedAfter : Bool

structure SyncRun (γ : Type) where
  directory : SyncDirectory γ
  copied : Nat := 0
  skipped : Nat := 0
  failed : Nat := 0

section
variable {γ : Type} (probe : γ → Bool) (force : Bool) (copying : Path → Copying)

/-- The destination exists, is not older than the source, and has a media stream. -/
def upToDate (source : SourceFile γ) : Option (SyncEntry γ) → Bool
  | some (.file content modified _) => source.modified ≤ modified && probe content
  | _ => false

/-- `copy_media`, and whether it returns. The times are copied too. -/
def copyMedia (path : Path) (source : SourceFile γ) (directory : SyncDirectory γ) :
    SyncDirectory γ × Bool :=
  let replaced := AList.insert (destination path) (.file source.content source.modified (some path)) directory
  if !probe source.content then (directory, false)
  else
    match copying path, directory.lookup (destination path) with
    | .failed false, _ | _, some .directory => (directory, false)
    | .failed true, _ => (replaced, false)
    | .done, _ => (replaced, true)

/-- A turn of the loop of `main`. -/
def syncSource (run : SyncRun γ) (e : Path × SourceFile γ) : SyncRun γ :=
  if !isMediaFile e.1 then run
  else if !probe e.2.content then { run with failed := run.failed + 1 }
  else if !force && upToDate probe e.2 (run.directory.lookup (destination e.1)) then
    { run with skipped := run.skipped + 1 }
  else
    match copyMedia probe copying e.1 e.2 run.directory with
    | (directory, true) => { run with directory, copied := run.copied + 1 }
    | (directory, false) => { run with directory, failed := run.failed + 1 }

/-- `sorted(..., key=str)` of the files below the downloads directory. -/
def sortedSources (tree : SourceTree γ) : List (Path × SourceFile γ) :=
  tree.orderBy (fun _ _ => true) fun path _ => path.str

/-- `main`, no dry run: the exit code and the run. -/
def syncMain (host : SyncHost) (tree : SourceTree γ) (directory : SyncDirectory γ) :
    Nat × SyncRun γ :=
  if !host.downloadsIsDir then (66, { directory })
  else if !host.ffprobeFound then (69, { directory })
  else if !host.ownerResolved then (64, { directory })
  else if !host.ownedBefore then (1, { directory })
  else
    let run := (sortedSources tree).foldl (syncSource probe force copying) { directory }
    (if run.failed = 0 ∧ host.ownedAfter then 0 else 1, run)

end

example : destination (Path.parse "/downloads/A:B/x  y?.mp3") = "A-B - x y-.mp3" := by decide +kernel

end GetOffline
