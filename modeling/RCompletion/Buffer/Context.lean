import RCompletion.Buffer.Pipe
import RCompletion.Configuration.Basic
import RCompletion.Failure
import RCompletion.Pattern.Match
import RCompletion.Pattern.Parse

/-!
# Completion contexts

What the text around the cursor tells about a completion request.  Main
definitions: `Detector.ofConfiguration` checks the operators and patterns of a
configuration, and `Detector.detect` finds the context of a cursor.
-/

namespace RCompletion
namespace Buffer

/-- What the text around the cursor tells. -/
structure Context where
  /-- The word being typed, with its `$` accessors. -/
  word : String
  /-- The call whose arguments the cursor is in. -/
  function : Option String
  /-- The value that flows through the pipe chain the cursor is in. -/
  pipe : Option String
  /-- Whether the word is in quotation marks. -/
  inQuotes : Bool
  /-- The column from which a candidate replaces the typed text. -/
  startColumn : Nat
deriving Repr, DecidableEq

/-- How a request is answered. -/
inductive Context.Kind where
  /-- In a string, with nothing to offer. -/
  | quoted
  /-- In the arguments of a call. -/
  | call (function : String)
  /-- In a word, which may be a field of an object. -/
  | word
  /-- With nothing typed and nothing around. -/
  | empty
deriving Repr, DecidableEq

namespace Context

/-- How the request in a context is answered. -/
def kind (context : Context) : Kind :=
  if context.inQuotes then
    .quoted
  else
    match context.function with
    | some function => .call function
    | none =>
        if context.word = "" ∧ context.pipe = none then .empty else .word

/-- Whether the word reaches into an object with `$`. -/
def isFieldAccess (context : Context) : Bool :=
  Text.contains context.word "$"

/-- A word is completed when no call is and there is something to go by. -/
theorem kind_eq_word_iff (context : Context) :
    context.kind = .word ↔
      context.inQuotes = false ∧ context.function = none ∧
        ¬(context.word = "" ∧ context.pipe = none) := by
  unfold kind
  cases context.inQuotes with
  | true => simp
  | false =>
      cases context.function with
      | some function => simp
      | none =>
          by_cases nothing : context.word = "" ∧ context.pipe = none
          · simp [nothing]
          · simp [nothing]

end Context

/-! ## Detection -/

/-- What is needed to find contexts. -/
structure Detector where
  /-- The operators of pipe chains. -/
  operators : PipeOperators
  /-- The pattern of the word that a candidate replaces, at the end of a text. -/
  wordPattern : Pattern
  /-- The patterns of typed texts after which to ask for candidates again. -/
  refreshPatterns : List Pattern

/-- The pattern of a text that ends with what a configured pattern matches. -/
def patternAtEnd (text : String) : Except Failure Pattern :=
  (Pattern.parseAtEnd text).mapError .invalidPattern

namespace Detector

/-- The detector of a configuration, if its operators and patterns are proper. -/
def ofConfiguration (configuration : Configuration) : Except Failure Detector := do
  match PipeOperators.ofList? configuration.pipeOperators with
  | none => throw .noPipeOperator
  | some operators => do
      let wordPattern ← patternAtEnd configuration.source.wordPattern
      let refreshPatterns ←
        configuration.source.refreshPatterns.mapM patternAtEnd
      return ⟨operators, wordPattern, refreshPatterns⟩

/-- The number of characters at the end of a text that a candidate replaces. -/
def replacedLength (detector : Detector) (typed : String) : Nat :=
  match detector.wordPattern.find? typed.toList with
  | some span => span.length
  | none => 0

/-- The column from which a candidate replaces the typed text. -/
def startColumn (detector : Detector) (typed : String) (column : Nat) : Nat :=
  min column typed.length - detector.replacedLength typed

/-- The context of a cursor. -/
def detect (detector : Detector) (rows : List String) (cursor : Cursor) :
    Context :=
  let typed := Buffer.typed rows cursor
  let inQuotes := isQuoted typed
  { word := typedWord typed
    function := if inQuotes then none else enclosingCall? typed
    pipe :=
      if inQuotes then none
      else (scanPipe detector.operators rows cursor).source?
    inQuotes := inQuotes
    startColumn := detector.startColumn typed cursor.column }

/-- Whether to ask for candidates again after a typed text. -/
def triggersRefresh (detector : Detector) (typed : String) : Bool :=
  detector.refreshPatterns.any (·.occursIn typed.toList)

end Detector
end Buffer
end RCompletion
