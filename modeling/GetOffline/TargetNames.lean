import GetOffline.ConversionRuns
import GetOffline.UploadPairs

set_option autoImplicit true

namespace GetOffline
open Python

-- workers/handlers.py

/-- The extension without its leading dots, or else the source's own one. -/
def cleanExtension (lowerText : String → String) (source : Path) (targetExt : String) : String :=
  let cleanExt := String.ofList ((lowerText targetExt).toList.dropWhile fun c => c = '.')
  if cleanExt = "" then source.extension else cleanExt

/-- `_target_path`, for any `str.lower`. -/
def targetPathLowering (lowerText : String → String) (files : Path → Bool) (rounds : Nat) (source : Path)
    (targetExt : String) : Option (Except Error Path) :=
  targetPathFrom files source (cleanExtension lowerText source targetExt) rounds 0

theorem targetPathLowering_lower (files : Path → Bool) (rounds : Nat) (source : Path) (targetExt : String) :
    targetPathLowering lower files rounds source targetExt = targetPath files rounds source targetExt := rfl

section
variable {source : Path} {cleanExt : String}

variable {files : Path → Bool} (hname : source.name ≠ "") (hext : '/' ∉ cleanExt.toList)
include hname hext

end

end GetOffline
