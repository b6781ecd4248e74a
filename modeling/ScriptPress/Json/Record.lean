import ScriptPress.Json.Value

/-!
# Records in JSON

A record has a fixed list of names. It is read from an object, where unknown names are passed over
and a known one may occur once, or from an array that gives its values in the order of the names.
-/
namespace ScriptPress.Json

/-- The values of the members with a given name, in order. -/
def valuesOf (name : String) (members : List (Option String × Value)) : List Value :=
  members.filterMap fun m => if m.1 = some name then some m.2 else none

/-- The value of a name that may occur once: `none` when it occurs twice. -/
def single? (name : String) (members : List (Option String × Value)) : Option (Option Value) :=
  match valuesOf name members with
  | [] => some none
  | [value] => some (some value)
  | _ => none

/-- The values of a record in the order of its names; a name that does not occur has none. -/
def record? (names : List String) : Value → Option (List (Option Value))
  | .object members =>
    if members.all fun m => m.1.isSome then names.mapM fun name => single? name members
    else none
  | .array values =>
    if values.length ≤ names.length then
      some (values.map some ++ List.replicate (names.length - values.length) none)
    else none
  | _ => none

def text? : Value → Option String
  | .string content => content
  | _ => none

/-- A string with content, or null, which stands for nothing; a missing value does too. -/
def optionalText? : Option Value → Option (Option String)
  | none => some none
  | some .null => some none
  | some value => (text? value).map some

def texts? : Value → Option (List String)
  | .array values => values.mapM text?
  | _ => none

end ScriptPress.Json
