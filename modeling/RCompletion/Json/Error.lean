import RCompletion.Text.Quoted

/-!
# What is wrong with a JSON text

A text is read in one pass, and the first problem from the left decides: the
text is no JSON, it ends too early, or it holds something else than asked for.
-/

namespace RCompletion
namespace Json

/-- The largest number that a 32-bit field can hold. -/
def largestNatural32 : Nat := Nat.pow 2 32 - 1

/-- A value that stands where another kind of value is asked for. -/
inductive Found where
  /-- The null value. -/
  | null
  /-- A truth value. -/
  | boolean (value : Bool)
  /-- An integer. -/
  | integer (value : Int)
  /-- Another number, as its shortest decimal. -/
  | decimal (text : String)
  /-- A string. -/
  | string (value : String)
  /-- An array. -/
  | sequence
  /-- An object. -/
  | map
deriving Repr, DecidableEq

/-- A kind of value that is asked for. -/
inductive Wanted where
  /-- A string. -/
  | string
  /-- A string that is a path. -/
  | path
  /-- An array. -/
  | sequence
  /-- A number of 32 bits without a sign. -/
  | natural32
  /-- A record with the given name. -/
  | record (name : String)
deriving Repr, DecidableEq

/-- How a text differs from what is asked for. -/
inductive Mismatch where
  /-- A value of another kind. -/
  | wrongType (found : Found) (wanted : Wanted)
  /-- An integer that is too small or too large. -/
  | outOfRange (value : Int)
  /-- A field that is given twice. -/
  | duplicateField (name : String)
  /-- A field that is not given. -/
  | missingField (name : String)
  /-- An array with too few of the fields of a record. -/
  | tooShort (length : Nat) (record : String) (fields : Nat)
deriving Repr, DecidableEq

/-- The first problem of a text. -/
inductive Error where
  /-- The text is no JSON, or nested too deeply. -/
  | malformed
  /-- The text ends too early. -/
  | truncated
  /-- The text does not hold what is asked for. -/
  | mismatch (detail : Mismatch)
deriving Repr, DecidableEq

/-- The name of a value in messages. -/
def Found.text : Found → String
  | null => "null"
  | boolean value => "boolean `" ++ (if value then "true" else "false") ++ "`"
  | integer value => "integer `" ++ toString value ++ "`"
  | decimal text => "floating point `" ++ text ++ "`"
  | string value => "string " ++ Text.quoted value
  | sequence => "sequence"
  | map => "map"

/-- The name of a kind of value in messages. -/
def Wanted.text : Wanted → String
  | string => "a string"
  | path => "path string"
  | sequence => "a sequence"
  | natural32 => "u32"
  | record name => "struct " ++ name

/-- The message of a mismatch. -/
def Mismatch.message : Mismatch → String
  | wrongType found wanted =>
      "invalid type: " ++ found.text ++ ", expected " ++ wanted.text
  | outOfRange value =>
      "invalid value: " ++ (Found.integer value).text ++ ", expected " ++
        Wanted.natural32.text
  | duplicateField name => "duplicate field `" ++ name ++ "`"
  | missingField name => "missing field `" ++ name ++ "`"
  | tooShort length record fields =>
      "invalid length " ++ toString length ++ ", expected " ++
        (Wanted.record record).text ++ " with " ++ toString fields ++ " elements"

end Json
end RCompletion
