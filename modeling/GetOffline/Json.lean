import GetOffline.PythonText

set_option autoImplicit true

namespace Python

/-- A binary64 value. A finite one is `mantissa * 2 ^ exponent` up to its sign. -/
inductive Float64
  | nan
  | infinity (negative : Bool)
  | finite (negative : Bool) (mantissa : Nat) (exponent : Int)
deriving DecidableEq

/-- A decoded JSON value. The items of a dict stand in insertion order under distinct keys. -/
inductive Json
  | null
  | bool (b : Bool)
  | int (n : Int)
  | float (x : Float64)
  | string (s : String)
  | array (items : List Json)
  | object (items : List (String × Json))

namespace Json

/-- `bool(value)`. -/
def truthy : Json → Bool
  | .null => false
  | .bool b => b
  | .int n => n != 0
  | .float (.finite _ mantissa _) => mantissa != 0
  | .float _ => true
  | .string s => s != ""
  | .array items => !items.isEmpty
  | .object items => !items.isEmpty

/-- `value or ""`, for a value that a `str()` follows. -/
def orEmpty : Option Json → Json
  | some value => if value.truthy then value else .string ""
  | none => .string ""

/-- `first or second`. -/
def orElse (first : Option Json) (second : Json) : Json :=
  match first with
  | some value => if value.truthy then value else second
  | none => second

/-- `str(value)`. `render` is `str()` of a float or of a container. -/
def str (render : Json → String) : Json → String
  | .null => "None"
  | .bool true => "True"
  | .bool false => "False"
  | .int n => toString n
  | .string s => s
  | value => render value

/-- `items.get(key)`, where an absent key and a null are told apart by the caller. -/
def get (key : String) (items : List (String × Json)) : Option Json :=
  items.lookup key

/-- `items[key] = value`. -/
def set (key : String) (value : Json) : List (String × Json) → List (String × Json)
  | [] => [(key, value)]
  | (k, v) :: items => if k = key then (k, value) :: items else (k, v) :: set key value items

theorem get_set_self (key : String) (value : Json) (items : List (String × Json)) :
    get key (set key value items) = some value := by
  induction items with
  | nil => exact List.lookup_cons_self
  | cons item items ih =>
    obtain ⟨k, v⟩ := item
    simp only [set]
    split
    · next h =>
      subst k
      exact List.lookup_cons_self
    · next h =>
      rw [get, List.lookup_cons, beq_false_of_ne (Ne.symm h)]
      exact ih

theorem get_set_of_ne {key other : String} (h : other ≠ key) (value : Json)
    (items : List (String × Json)) : get other (set key value items) = get other items := by
  induction items with
  | nil => rw [set, get, List.lookup_cons, beq_false_of_ne h, get]
  | cons item items ih =>
    obtain ⟨k, v⟩ := item
    simp only [set]
    split
    · next hk =>
      subst k
      rw [get, get, List.lookup_cons, List.lookup_cons, beq_false_of_ne h]
    · rw [get, get, List.lookup_cons, List.lookup_cons]
      split
      · rfl
      · exact ih

/-- The dict that a value is, or the empty one. -/
def dict : Json → List (String × Json)
  | .object items => items
  | _ => []

end Json

end Python
