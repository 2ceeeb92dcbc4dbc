import RCompletion.Json.Skip

/-!
# Reading JSON

A reader takes a value of a known type from the start of a text and gives the
rest.  Records are read from objects, where unknown fields are skipped, and from
arrays of their fields in order.  Arrays and objects may be nested to a fixed
depth; a reader is told how many levels are left.
-/

namespace RCompletion
namespace Json

/-- A reader of values. -/
abbrev Reader (α : Type) :=
  List Char → Except Error (α × List Char)

/-- How deeply arrays and objects may be nested. -/
def depthLimit : Nat := 127

/-! ## Values of the wrong kind -/

/-- What stands where another value is asked for. -/
def readFound (text : List Char) : Except Error Found :=
  match text with
  | [] => .error .truncated
  | 'n' :: rest => (readLiteral "ull".toList rest).map fun _ => .null
  | 't' :: rest => (readLiteral "rue".toList rest).map fun _ => .boolean true
  | 'f' :: rest => (readLiteral "alse".toList rest).map fun _ => .boolean false
  | '"' :: rest => (readStringBody rest).map fun (value, _) => .string value
  | '[' :: _ => .ok .sequence
  | '\x7B' :: _ => .ok .map
  | first :: rest =>
      if first = '-' ∨ first.isDigit then
        (readNumber (first :: rest)).map fun (value, _) => value.found
      else
        .error .malformed

/-- The problem of a value of the wrong kind. -/
def wrongType (wanted : Wanted) (text : List Char) : Error :=
  match readFound text with
  | .ok found => .mismatch (.wrongType found wanted)
  | .error problem => problem

/-! ## Simple values -/

/-- Read a string, where another kind of it may be asked for. -/
def readText (wanted : Wanted) : Reader String := fun text =>
  match dropBlanks text with
  | '"' :: rest => readStringBody rest
  | rest => .error (wrongType wanted rest)

/-- Read a string. -/
def readString : Reader String :=
  readText .string

/-- Read a number of 32 bits without a sign. -/
def readNatural32 : Reader Nat := fun text =>
  match dropBlanks text with
  | [] => .error .truncated
  | first :: rest =>
      if first = '-' ∨ first.isDigit then do
        let (number, after) ← readNumber (first :: rest)
        match number with
        | .integer value =>
            if 0 ≤ value ∧ value ≤ largestNatural32 then
              return (value.toNat, after)
            else
              throw (.mismatch (.outOfRange value))
        | .float _ => throw (.mismatch (.wrongType number.found .natural32))
      else
        .error (wrongType .natural32 (first :: rest))

/-- Read a value, or null for none. -/
def readNullable (read : Reader α) : Reader (Option α) := fun text =>
  match dropBlanks text with
  | 'n' :: rest => (readLiteral "ull".toList rest).map (none, ·)
  | rest => (read rest).map fun (value, rest) => (some value, rest)

/-! ## Arrays -/

/--
Go on to the next value of an array: the text where it starts, or none at the
end of the array, which is left in place.
-/
def nextElement (first : Bool) (text : List Char) :
    Except Error (Option (List Char) × List Char) :=
  match dropBlanks text with
  | [] => .error .truncated
  | ']' :: rest => .ok (none, ']' :: rest)
  | start :: rest =>
      if first then
        .ok (some (start :: rest), start :: rest)
      else if start = ',' then
        match dropBlanks rest with
        | [] => .error .truncated
        | ']' :: _ => .error .malformed
        | value => .ok (some value, value)
      else
        .error .malformed

/-- Read the end of an array. -/
def readArrayEnd (text : List Char) : Except Error (List Char) :=
  match dropBlanks text with
  | [] => .error .truncated
  | ']' :: rest => .ok rest
  | _ => .error .malformed

/-- Read the values of an array, which follow its opening bracket. -/
def readElements (read : Reader α) : Nat → Bool → Reader (List α)
  | 0, _, _ => .error .truncated
  | fuel + 1, first, text => do
      let (value?, rest) ← nextElement first text
      match value? with
      | none => return ([], ← readArrayEnd rest)
      | some value => do
          let (element, rest) ← read value
          let (elements, rest) ← readElements read fuel false rest
          return (element :: elements, rest)

/-- Read an array, given how many levels are left. -/
def readList (depth : Nat) (read : Reader α) : Reader (List α) := fun text =>
  match dropBlanks text with
  | '[' :: rest =>
      if depth = 0 then
        .error .malformed
      else
        readElements read (rest.length + 1) true rest
  | rest => .error (wrongType .sequence rest)

/-! ## Records -/

/-- A field of a record, which is stored in a value of type `α`. -/
structure Field (α : Type) where
  /-- The name of the field. -/
  name : String
  /-- Whether the field has to be given. -/
  required : Bool
  /-- Read the value of the field and store it. -/
  read : α → Reader α

/-- A record: its name and its fields in order. -/
structure RecordShape (α : Type) where
  /-- The name of the record. -/
  name : String
  /-- The fields of the record. -/
  fields : List (Field α)

/--
Go on to the name of the next member of an object: the text after its opening
quotation mark, or none at the end of the object.
-/
def nextMember (first : Bool) (text : List Char) :
    Except Error (Option (List Char) × List Char) :=
  match dropBlanks text with
  | [] => .error .truncated
  | '\x7D' :: rest => .ok (none, rest)
  | start :: rest =>
      if first then
        if start = '"' then .ok (some rest, rest) else .error .malformed
      else if start = ',' then
        match dropBlanks rest with
        | [] => .error .truncated
        | '"' :: name => .ok (some name, name)
        | _ => .error .malformed
      else
        .error .malformed

/-- The first field that has to be given and is not among the names. -/
def RecordShape.missing? (shape : RecordShape α) (seen : List String) :
    Option (Field α) :=
  shape.fields.find? fun field => field.required && !seen.contains field.name

/--
Read the members of an object, which follow its opening brace, given the names
of the fields so far.
-/
def RecordShape.readMembers (shape : RecordShape α) :
    Nat → Bool → List String → α → Reader α
  | 0, _, _, _, _ => .error .truncated
  | fuel + 1, first, seen, value, text => do
      let (start?, rest) ← nextMember first text
      match start? with
      | none =>
          match shape.missing? seen with
          | some field => throw (.mismatch (.missingField field.name))
          | none => return (value, rest)
      | some start => do
          let (name, rest) ← readStringBody start
          match shape.fields.find? (·.name = name) with
          | none => do
              let rest ← skipValue (← readColon rest)
              shape.readMembers fuel false seen value rest
          | some field =>
              if seen.contains name then
                throw (.mismatch (.duplicateField name))
              else do
                let (value, rest) ← field.read value (← readColon rest)
                shape.readMembers fuel false (name :: seen) value rest

/-- Read the fields of a record in order, which follow an opening bracket. -/
def RecordShape.readPositions (shape : RecordShape α) :
    List (Field α) → Nat → α → Reader α
  | [], _, value, text => do
      return (value, ← readArrayEnd text)
  | field :: fields, position, value, text => do
      let (start?, rest) ← nextElement (position == 0) text
      match start? with
      | some start => do
          let (value, rest) ← field.read value start
          shape.readPositions fields (position + 1) value rest
      | none =>
          if field.required then
            throw (.mismatch (.tooShort position shape.name shape.fields.length))
          else
            shape.readPositions fields (position + 1) value rest

/-- Read a record, given how many levels are left and the value to start with. -/
def RecordShape.read (shape : RecordShape α) (depth : Nat) (start : α) :
    Reader α := fun text =>
  match dropBlanks text with
  | '\x7B' :: rest =>
      if depth = 0 then
        .error .malformed
      else
        shape.readMembers (rest.length + 1) true [] start rest
  | '[' :: rest =>
      if depth = 0 then
        .error .malformed
      else
        shape.readPositions shape.fields 0 start rest
  | rest => .error (wrongType (.record shape.name) rest)

/-! ## Documents -/

/-- Read a text that holds one value and nothing else. -/
def readDocument (read : Reader α) (text : String) : Except Error α := do
  let (value, rest) ← read text.toList
  if (dropBlanks rest).isEmpty then
    return value
  else
    throw .malformed

end Json
end RCompletion
