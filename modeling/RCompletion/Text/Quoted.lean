import RCompletion.Unicode.Printable

/-!
# Quoted text

A text is shown in messages between quotation marks, with a backslash before
quotation marks and backslashes, and with escapes for characters that are not
visible on their own.
-/

namespace RCompletion
namespace Text

/-- The escape of a code point, with its hexadecimal digits in braces. -/
def codePointEscape (character : Char) : List Char :=
  ['\\', 'u', '\x7B'] ++ Nat.toDigits 16 character.toNat ++ ['\x7D']

/-- How a character is shown in quoted text. -/
def quotedCharacter (character : Char) : List Char :=
  match character with
  | '\x00' => ['\\', '0']
  | '\t' => ['\\', 't']
  | '\n' => ['\\', 'n']
  | '\r' => ['\\', 'r']
  | '"' => ['\\', '"']
  | '\\' => ['\\', '\\']
  | _ =>
      if Unicode.isPrintable character then
        [character]
      else
        codePointEscape character

/-- A text between quotation marks. -/
def quoted (text : String) : String :=
  String.ofList ('"' :: text.toList.flatMap quotedCharacter ++ ['"'])

end Text
end RCompletion
