-- SUMMARY: Reading a record from a JSON object, or from an array of its fields in order.
import TaskGraph.Json.Value

/-!
# Fields of a record

A record with named fields is read from an object, in which no field may occur
twice and other members are ignored, or from an array with the fields in
declared order, of which only the last ones may be left off.
-/
namespace TaskGraph.Json

/-- The fields that are present. -/
abbrev Fields := List (String × Value)

/-- The members of an object under the given names, if none of them is repeated. -/
def Fields.ofMembers? (names : List String) : List (Literal × Value) → Option Fields
  | [] => some []
  | (none, _) :: _ => none
  | (some k, v) :: ms => do
    let fs ← ofMembers? names ms
    if k ∈ names then
      if (fs.lookup k).isSome then none else some ((k, v) :: fs)
    else some fs

/-- The fields of a record with the given names. -/
def Value.fields? (names : List String) : Value → Option Fields
  | .object ms => Fields.ofMembers? names ms
  | .array vs => if vs.length ≤ names.length then some (names.zip vs) else none
  | _ => none

namespace Fields

variable {α : Type}

/-- A field that must be present. -/
def required? (fs : Fields) (name : String) (read : Value → Option α) : Option α := do
  read (← fs.lookup name)

/-- A field with a default. -/
def withDefault? (fs : Fields) (name : String) (default : α) (read : Value → Option α) :
    Option α :=
  match fs.lookup name with
  | some v => read v
  | none => some default

/-- A field that may be absent or null. -/
def optional? (fs : Fields) (name : String) (read : Value → Option α) : Option (Option α) :=
  fs.withDefault? name none (Value.nullable? read)

end Fields
end TaskGraph.Json
