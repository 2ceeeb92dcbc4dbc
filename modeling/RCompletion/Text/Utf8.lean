/-!
# UTF-8 with replacements

Bytes that are not UTF-8 are shown with one replacement character for every
longest piece that begins like an encoded character but is none.
-/

namespace RCompletion
namespace Text

/-- The bytes that may follow the first byte of an encoded character. -/
def secondByteRange? (first : UInt8) : Option (UInt8 × UInt8) :=
  if 0xC2 ≤ first && first ≤ 0xDF then some (0x80, 0xBF)
  else if first == 0xE0 then some (0xA0, 0xBF)
  else if first == 0xED then some (0x80, 0x9F)
  else if 0xE1 ≤ first && first ≤ 0xEF then some (0x80, 0xBF)
  else if first == 0xF0 then some (0x90, 0xBF)
  else if 0xF1 ≤ first && first ≤ 0xF3 then some (0x80, 0xBF)
  else if first == 0xF4 then some (0x80, 0x8F)
  else none

/-- The number of bytes of the character that a first byte announces. -/
def encodedLength (first : UInt8) : Nat :=
  if first < 0x80 then 1
  else if first < 0xE0 then 2
  else if first < 0xF0 then 3
  else 4

/-- The bits of a first byte that belong to the character. -/
def leadingBits (first : UInt8) : Nat :=
  if first < 0x80 then first.toNat
  else if first < 0xE0 then first.toNat % 0x20
  else if first < 0xF0 then first.toNat % 0x10
  else first.toNat % 0x08

/-- Whether a byte continues an encoded character. -/
def isContinuation (byte : UInt8) : Bool :=
  0x80 ≤ byte && byte ≤ 0xBF

/-- The character that shows bytes that are none. -/
def replacementCharacter : Char := '\uFFFD'

/--
The character at the start of nonempty bytes, or the replacement character, and
the number of further bytes that it takes.
-/
def decodeFirst (first : UInt8) (rest : List UInt8) : Char × Nat :=
  if first < 0x80 then
    (Char.ofNat first.toNat, 0)
  else
    match secondByteRange? first, rest with
    | some (low, high), second :: rest =>
        if low ≤ second && second ≤ high then
          let wanted := encodedLength first - 2
          let further := (rest.take wanted).takeWhile isContinuation
          if further.length = wanted then
            let value := (second :: further).foldl
              (fun value byte => value * 0x40 + byte.toNat % 0x40)
              (leadingBits first)
            (Char.ofNat value, wanted + 1)
          else
            (replacementCharacter, further.length + 1)
        else
          (replacementCharacter, 0)
    | _, _ => (replacementCharacter, 0)

/-- The characters of bytes, skipping as many bytes as the last one took. -/
def decodeFrom : Nat → List UInt8 → List Char
  | _, [] => []
  | skipped + 1, _ :: rest => decodeFrom skipped rest
  | 0, first :: rest =>
      let (character, taken) := decodeFirst first rest
      character :: decodeFrom taken rest

/-- The text of bytes, with replacements where they are not UTF-8. -/
def decodeLossy (bytes : ByteArray) : String :=
  String.ofList (decodeFrom 0 bytes.data.toList)

end Text
end RCompletion
