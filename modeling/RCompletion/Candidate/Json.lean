import RCompletion.Candidate.Basic
import RCompletion.Json.Basic
import RCompletion.Json.Reader

/-!
# Candidates in JSON

A candidate is written as an object of its fields, of which the unknown ones
are left out, and read back from an object or from an array of its fields.
-/

namespace RCompletion
namespace Candidate

/-! ## Writing -/

/-- A member that is written only if there is a value. -/
def optionalMember (name : String) : Option Json → List (String × Json)
  | none => []
  | some value => [(name, value)]

mutual

/-- The JSON value of a candidate. -/
def toJson : Candidate → Json
  | ⟨label, category, package, menu, snippet, arguments⟩ =>
      .object (
        [("label", .string label), ("category", .string category.tag)] ++
          optionalMember "package" (package.map .string) ++
          [("menu", .string menu)] ++
          optionalMember "snippet" (snippet.map .string) ++
          argumentsMember arguments)

/-- The member of the arguments, if there are any. -/
def argumentsMember : Option (List Candidate) → List (String × Json)
  | none => []
  | some arguments => [("arguments", .array (listToJson arguments))]

/-- The JSON values of candidates. -/
def listToJson : List Candidate → List Json
  | [] => []
  | candidate :: candidates => toJson candidate :: listToJson candidates

end

/-! ## Reading -/

/-- The candidate that reading starts from. -/
def blank : Candidate :=
  plain "" (.object "")

/-- A candidate, given how its arguments are read. -/
def shape (readArguments : Json.Reader (Option (List Candidate))) :
    Json.RecordShape Candidate where
  name := "Candidate"
  fields := [
    { name := "label"
      required := true
      read := fun candidate text =>
        (Json.readString text).map fun (label, rest) =>
          ({ candidate with label := label }, rest) },
    { name := "category"
      required := true
      read := fun candidate text =>
        (Json.readString text).map fun (tag, rest) =>
          ({ candidate with category := .ofTag tag }, rest) },
    { name := "package"
      required := false
      read := fun candidate text =>
        (Json.readNullable Json.readString text).map fun (package, rest) =>
          ({ candidate with package := package }, rest) },
    { name := "menu"
      required := true
      read := fun candidate text =>
        (Json.readString text).map fun (menu, rest) =>
          ({ candidate with menu := menu }, rest) },
    { name := "snippet"
      required := false
      read := fun candidate text =>
        (Json.readNullable Json.readString text).map fun (snippet, rest) =>
          ({ candidate with snippet := snippet }, rest) },
    { name := "arguments"
      required := false
      read := fun candidate text =>
        (readArguments text).map fun (arguments, rest) =>
          ({ candidate with arguments := arguments }, rest) }]

/-- Read a candidate, given how many levels are left. -/
def readAt : Nat → Json.Reader Candidate
  | 0 => (shape fun _ => .error .malformed).read 0 blank
  | 1 =>
      (shape (Json.readNullable (Json.readList 0 fun _ => .error .malformed))).read
        1 blank
  | depth + 2 =>
      (shape (Json.readNullable (Json.readList (depth + 1) (readAt depth)))).read
        (depth + 2) blank

/-- Read the JSON text of a candidate. -/
def ofJson (text : String) : Except Json.Error Candidate :=
  Json.readDocument (readAt Json.depthLimit) text

end Candidate
end RCompletion
