import GetOffline.JsonText
import Mathlib.Data.Rat.Floor

set_option autoImplicit true

namespace Python
namespace Float64

def zero : Float64 := .finite false 0 0

/-- The number that a finite float stands for. -/
def toRat : Float64 → Option ℚ
  | .finite negative mantissa exponent =>
    let scaled := scaleBy (-exponent) mantissa 1
    some (if negative then -((scaled.1 : ℚ) / scaled.2) else (scaled.1 : ℚ) / scaled.2)
  | _ => none

/-- The binary64 value nearest to `n / d`. -/
def ofRatio (negative : Bool) (n d : Nat) : Float64 :=
  if n = 0 then .finite negative 0 0
  else
    let e : Int := (n.log2 : Int) - d.log2 - 52
    let floor := scaleBy e n d
    let e := max (if floor.1 / floor.2 < Nat.pow 2 52 then e - 1 else e) (-1074)
    let scaled := scaleBy e n d
    let mantissa := roundHalfEven scaled.1 scaled.2
    if 1024 ≤ (mantissa.log2 : Int) + e then .infinity negative
    else .finite negative mantissa e

def neg : Float64 → Float64
  | .nan => .nan
  | .infinity negative => .infinity !negative
  | .finite negative mantissa exponent => .finite (!negative) mantissa exponent

/-- `x + y`. -/
def add : Float64 → Float64 → Float64
  | .nan, _ | _, .nan => .nan
  | .infinity negative, .infinity negative' => if negative = negative' then .infinity negative else .nan
  | .infinity negative, _ | _, .infinity negative => .infinity negative
  | .finite negative mantissa exponent, .finite negative' mantissa' exponent' =>
    let sum := (toRat (.finite negative mantissa exponent)).getD 0 +
      (toRat (.finite negative' mantissa' exponent')).getD 0
    if sum = 0 then .finite (negative && negative') 0 0 else ofRatio (sum < 0) sum.num.natAbs sum.den

/-- `x - y`. -/
def sub (x y : Float64) : Float64 := x.add y.neg

/-- `x < y`. -/
def lt : Float64 → Float64 → Bool
  | .nan, _ | _, .nan => false
  | .infinity negative, .infinity negative' => negative && !negative'
  | .infinity negative, _ => negative
  | _, .infinity negative => !negative
  | .finite negative mantissa exponent, .finite negative' mantissa' exponent' =>
    (toRat (.finite negative mantissa exponent)).getD 0 <
      (toRat (.finite negative' mantissa' exponent')).getD 0

/-- `max(x, y)`: the first of two that neither exceeds the other. -/
def max (x y : Float64) : Float64 := if x.lt y then y else x

/-- `x or 0.0`. -/
def orZero : Float64 → Float64
  | .finite _ 0 _ => zero
  | x => x

end Float64

/-- The digits before and after the point, the sign and the digits of the exponent. -/
def floatOfDecimalText (negative : Bool) (cs : List Char) : Except Error Float64 :=
  let digits (cs : List Char) : Option (List Nat) := if cs = [] then some [] else decimalDigits cs
  let mantissa := cs.takeWhile fun c => c ≠ 'e' ∧ c ≠ 'E'
  let whole := mantissa.takeWhile (· ≠ '.')
  let fraction := (mantissa.dropWhile (· ≠ '.')).drop 1
  let exponent : Option Int :=
    match cs.dropWhile fun c => c ≠ 'e' ∧ c ≠ 'E' with
    | [] => some 0
    | _ :: '-' :: ds => (decimalDigits ds).map fun ds => -(ofDigits ds : Int)
    | _ :: '+' :: ds | _ :: ds => (decimalDigits ds).map fun ds => (ofDigits ds : Int)
  match digits whole, digits fraction, exponent with
  | some whole, some fraction, some exponent =>
    if whole ++ fraction = [] then .error .valueError
    else .ok (.ofDecimal negative (ofDigits (whole ++ fraction)) (exponent - fraction.length))
  | _, _, _ => .error .valueError

/-- `float()` of a text. -/
def floatOfText (s : String) : Except Error Float64 :=
  let (negative, cs) :=
    match stripChars s.toList with
    | '-' :: cs => (true, cs)
    | '+' :: cs => (false, cs)
    | cs => (false, cs)
  if lower (String.ofList cs) ∈ ["inf", "infinity"] then .ok (.infinity negative)
  else if lower (String.ofList cs) = "nan" then .ok .nan
  else floatOfDecimalText negative cs

example : ((floatOfText " -1_2.5e1 ").toOption.bind Float64.toRat) = some (-125) := by decide +kernel

end Python
