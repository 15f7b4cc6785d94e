import Mathlib.Tactic.Common

/-!
# Values without a schema

What `json.loads` and `yaml.safe_load` return, before a validator has read it.
-/

namespace IncidentAwareness.Common

/-- A parsed JSON or YAML value. A float is its `repr`; a `dict` has its string
keys, each once; `other` is a value of a type that no check accepts. -/
inductive PyValue where
  | none
  | bool (value : Bool)
  | int (value : Int)
  | float (repr : String)
  | str (value : String)
  | list (items : List PyValue)
  | dict (entries : List (String × PyValue))
  | other (typeName : String)

/-- The entries of a `dict`. -/
abbrev PyDict := List (String × PyValue)

/-- `mapping.get(key)`. -/
def PyDict.get (mapping : PyDict) (key : String) : PyValue :=
  (mapping.lookup key).getD .none

/-- The names of `fields` that `mapping` has no key for. -/
def PyDict.missing (mapping : PyDict) (fields : List String) : List String :=
  fields.filter fun name => (mapping.lookup name).isNone

namespace PyValue

/-- The string, of a value that is one. -/
def str? : PyValue → Option String
  | str value => some value
  | _ => Option.none

/-- The entries, of a value that is a `dict`. -/
def dict? : PyValue → Option PyDict
  | dict entries => some entries
  | _ => Option.none

theorem str?_eq_some {v : PyValue} {s : String} : v.str? = some s ↔ v = str s := by
  cases v with
  | str value => simp [str?]
  | none => simp [str?]
  | bool value => simp [str?]
  | int value => simp [str?]
  | float repr => simp [str?]
  | list items => simp [str?]
  | dict entries => simp [str?]
  | other typeName => simp [str?]

theorem dict?_eq_some {v : PyValue} {d : PyDict} : v.dict? = some d ↔ v = dict d := by
  cases v with
  | dict entries => simp [dict?]
  | none => simp [dict?]
  | bool value => simp [dict?]
  | int value => simp [dict?]
  | float repr => simp [dict?]
  | str value => simp [dict?]
  | list items => simp [dict?]
  | other typeName => simp [dict?]

end PyValue

end IncidentAwareness.Common
