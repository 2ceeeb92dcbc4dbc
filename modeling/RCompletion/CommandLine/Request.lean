import RCompletion.Buffer.Typed
import RCompletion.Disk.Path

/-!
# Requests on the command line

The options of the command line may come in any order, and of an option that is
given several times the last one counts.
-/

namespace RCompletion
namespace CommandLine

/-- The reason why arguments are no request. -/
inductive Problem where
  /-- An option lacks its value. -/
  | missingValue (option : String)
  /-- The value of an option is no number. -/
  | invalidNumber (option : String)
  /-- An argument is no option. -/
  | unknownArgument (argument : String)
  /-- The line of the cursor is zero. -/
  | lineZero
deriving Repr, DecidableEq

/-- The message of a problem. -/
def Problem.message : Problem → String
  | missingValue option => "Missing value for '" ++ option ++ "'"
  | invalidNumber option => "Invalid " ++ option
  | unknownArgument argument => "Unknown argument: '" ++ argument ++ "'"
  | lineZero => "Lines start at 1"

/-- A request for completions. -/
structure Completion where
  /-- The script to complete in. -/
  file : Path
  /-- The cursor in the script. -/
  cursor : Buffer.Cursor
  /-- The configuration file, if one is given. -/
  configuration : Option Path
deriving Repr, DecidableEq

/-- What the command line asks for. -/
inductive Request where
  /-- Completions at a cursor. -/
  | complete (completion : Completion)
  /-- How the source registers with the editor. -/
  | sourceInfo (configuration : Option Path)
  /-- The version. -/
  | version
  /-- The usage. -/
  | help
deriving Repr, DecidableEq

/-! ## Numbers -/

/-- The bound of the numbers that options take. -/
def numberBound : Nat := Nat.pow 2 64

/-- The number that decimal digits write, if they are at least one and no other. -/
def decimal? (digits : List Char) : Option Nat :=
  if digits.isEmpty || !digits.all Char.isDigit then
    none
  else
    some (digits.foldl
      (fun value digit => value * 10 + (digit.toNat - '0'.toNat)) 0)

/-- The number that a value writes, with or without a plus sign. -/
def number? (value : String) : Option Nat :=
  let digits :=
    match value.toList with
    | '+' :: digits => digits
    | digits => digits
  (decimal? digits).filter (· < numberBound)

/-! ## Options -/

/-- The options that were given so far. -/
structure Options where
  /-- The script. -/
  file : Option Path := none
  /-- The line of the cursor, from one on. -/
  line : Option Nat := none
  /-- The number of characters before the cursor. -/
  column : Option Nat := none
  /-- The configuration file. -/
  configuration : Option Path := none
  /-- Whether the registration of the source is asked for. -/
  sourceInfo : Bool := false
deriving Repr, DecidableEq

/-- The request that complete options make. -/
def Options.request (options : Options) : Except Problem Request :=
  if options.sourceInfo then
    .ok (.sourceInfo options.configuration)
  else
    match options.file, options.line, options.column with
    | some file, some line, some column =>
        if line = 0 then
          .error .lineZero
        else
          .ok (.complete ⟨file, ⟨line - 1, column⟩, options.configuration⟩)
    | _, _, _ => .ok .help

/-- Take over the value of an option that has one. -/
def Options.withValue (options : Options) (option value : String) :
    Except Problem Options :=
  if option = "--file" then
    .ok { options with file := some ⟨value⟩ }
  else if option = "--config" then
    .ok { options with configuration := some ⟨value⟩ }
  else
    match number? value with
    | none => .error (.invalidNumber option)
    | some number =>
        if option = "--line" then
          .ok { options with line := some number }
        else
          .ok { options with column := some number }

/-- Whether an option has a value. -/
def takesValue (option : String) : Bool :=
  option == "--file" || option == "--line" || option == "--column" ||
    option == "--config"

/-- The request that arguments make, after the options before them. -/
def Options.parse (options : Options) : List String → Except Problem Request
  | [] => options.request
  | argument :: arguments =>
      if takesValue argument then
        match arguments with
        | [] => .error (.missingValue argument)
        | value :: arguments =>
            match options.withValue argument value with
            | .error problem => .error problem
            | .ok options => options.parse arguments
      else if argument = "--source-info" then
        parse { options with sourceInfo := true } arguments
      else if argument = "--version" then
        .ok .version
      else if argument = "--help" then
        .ok .help
      else
        .error (.unknownArgument argument)

/-- The request that the arguments of the command line make. -/
def parse (arguments : List String) : Except Problem Request :=
  Options.parse {} arguments

end CommandLine
end RCompletion
