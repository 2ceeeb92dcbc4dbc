import RCompletion.Json.Number

/-!
# Skipping JSON values

The values of unknown fields are skipped.  They have to be well formed, but may
be nested to any depth; the arrays and objects that are open are kept on a
stack.
-/

namespace RCompletion
namespace Json

/-- An array or an object that is open. -/
inductive Frame where
  /-- An array. -/
  | array
  /-- An object. -/
  | object
deriving Repr, DecidableEq

/-- The character that closes a frame. -/
def Frame.closing : Frame → Char
  | array => ']'
  | object => '\x7D'

/-- Skip what comes before a value of a frame: a name and a colon in an object. -/
def Frame.skipName (frame : Frame) (text : List Char) : Except Error (List Char) :=
  match frame with
  | array => .ok text
  | object =>
      match dropBlanks text with
      | [] => .error .truncated
      | '"' :: rest => do
          let rest ← skipStringBody rest
          readColon rest
      | _ => .error .malformed

/-- What is skipped next. -/
inductive SkipState where
  /-- A value. -/
  | value
  /-- The first value of the innermost frame, or its end. -/
  | opened
  /-- A comma, or the end of the innermost frame. -/
  | filled
deriving Repr, DecidableEq

/-- What skipping the start of a value leaves: an open frame, or nothing. -/
def skipStart (text : List Char) : Except Error (Option Frame × List Char) :=
  match dropBlanks text with
  | [] => .error .truncated
  | 'n' :: rest => (readLiteral "ull".toList rest).map (none, ·)
  | 't' :: rest => (readLiteral "rue".toList rest).map (none, ·)
  | 'f' :: rest => (readLiteral "alse".toList rest).map (none, ·)
  | '"' :: rest => (skipStringBody rest).map (none, ·)
  | '[' :: rest => .ok (some .array, rest)
  | '\x7B' :: rest => .ok (some .object, rest)
  | first :: rest =>
      if first = '-' ∨ first.isDigit then
        (skipNumber (first :: rest)).map (none, ·)
      else
        .error .malformed

/--
Skip to the end of the outermost open frame.  Every other turn at least reads a
character.
-/
def skipFrames : Nat → SkipState → List Frame → List Char →
    Except Error (List Char)
  | 0, _, _, _ => .error .truncated
  | _ + 1, _, [], text => .ok text
  | fuel + 1, .value, frames, text => do
      let (frame, rest) ← skipStart text
      match frame with
      | some frame => skipFrames fuel .opened (frame :: frames) rest
      | none => skipFrames fuel .filled frames rest
  | fuel + 1, state, frame :: frames, text =>
      match dropBlanks text with
      | [] => .error .truncated
      | first :: rest =>
          if first = frame.closing then
            skipFrames fuel .filled frames rest
          else if state = .opened then do
            let rest ← frame.skipName (first :: rest)
            skipFrames fuel .value (frame :: frames) rest
          else if first = ',' then do
            let rest ← frame.skipName rest
            skipFrames fuel .value (frame :: frames) rest
          else
            .error .malformed

/-- Skip a value. -/
def skipValue (text : List Char) : Except Error (List Char) := do
  let (frame, rest) ← skipStart text
  match frame with
  | some frame => skipFrames (2 * rest.length + 2) .opened [frame] rest
  | none => return rest

end Json
end RCompletion
