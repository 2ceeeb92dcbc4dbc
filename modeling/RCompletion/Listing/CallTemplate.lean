import RCompletion.Text.Split

/-!
# Call templates

The template that is inserted when a function is completed.  Arguments without
a default value get a numbered place, in the order of the signature.  The
remaining arguments `...` get one only if they are the first of these.
-/

namespace RCompletion
namespace Listing

/-- What a listing writes in place of the arguments of a function without any. -/
def noArguments : String := "NO_ARGS"

/-- The argument that stands for all remaining ones. -/
def dots : String := "..."

/-- The arguments without a default value. -/
def mandatory (tokens : List String) : List String :=
  tokens.filter fun token => !Text.contains token "="

/-- The arguments that get a place in the template. -/
def placed (tokens : List String) : List String :=
  match mandatory tokens with
  | [] => []
  | first :: rest => first :: rest.filter (· != dots)

/-- A numbered place that shows the name of an argument. -/
def place (number : Nat) (token : String) : String :=
  "$\x7B" ++ toString number ++ ":" ++ token ++ "\x7D"

/-- Places for arguments, numbered from a given number on. -/
def placesFrom (number : Nat) : List String → List String
  | [] => []
  | token :: tokens => place number token :: placesFrom (number + 1) tokens

/--
The call template of a function.  A function with a single argument gets a
place after it, where the cursor ends, or instead of it when the argument has a
default value.
-/
def callTemplate (function : String) (tokens : List String) : String :=
  if tokens.head? = some noArguments then
    function ++ "()"
  else
    let places := placesFrom 1 (placed tokens)
    let places := if tokens.length = 1 then places ++ ["$1"] else places
    function ++ "(" ++ Text.join ", " places ++ ")"

@[simp]
theorem placesFrom_nil (number : Nat) : placesFrom number [] = [] := rfl

@[simp]
theorem placesFrom_cons (number : Nat) (token : String) (tokens : List String) :
    placesFrom number (token :: tokens) =
      place number token :: placesFrom (number + 1) tokens := rfl

end Listing
end RCompletion
