import RCompletion.Unicode.Stretch

/-!
# Separators and other code points

The separators, the control and format characters, and the code points that
stand for no character, after the Unicode standard, version 16.
-/

namespace RCompletion
namespace Unicode

/-- The spaces. -/
def spaceSeparators : List Stretch := [
  ⟨0x20, 0x20, 1⟩, ⟨0xA0, 0xA0, 1⟩, ⟨0x1680, 0x1680, 1⟩, ⟨0x2000, 0x200A, 1⟩,
  ⟨0x202F, 0x202F, 1⟩, ⟨0x205F, 0x205F, 1⟩, ⟨0x3000, 0x3000, 1⟩]

/-- The line separator. -/
def lineSeparators : List Stretch := [
  ⟨0x2028, 0x2028, 1⟩]

/-- The paragraph separator. -/
def paragraphSeparators : List Stretch := [
  ⟨0x2029, 0x2029, 1⟩]

/-- The control characters. -/
def controls : List Stretch := [
  ⟨0x0, 0x1F, 1⟩, ⟨0x7F, 0x9F, 1⟩]

/-- The format characters. -/
def formats : List Stretch := [
  ⟨0xAD, 0xAD, 1⟩, ⟨0x600, 0x605, 1⟩, ⟨0x61C, 0x61C, 1⟩, ⟨0x6DD, 0x6DD, 1⟩,
  ⟨0x70F, 0x70F, 1⟩, ⟨0x890, 0x891, 1⟩, ⟨0x8E2, 0x8E2, 1⟩,
  ⟨0x180E, 0x180E, 1⟩, ⟨0x200B, 0x200F, 1⟩, ⟨0x202A, 0x202E, 1⟩,
  ⟨0x2060, 0x2064, 1⟩, ⟨0x2066, 0x206F, 1⟩, ⟨0xFEFF, 0xFEFF, 1⟩,
  ⟨0xFFF9, 0xFFFB, 1⟩, ⟨0x110BD, 0x110BD, 1⟩, ⟨0x110CD, 0x110CD, 1⟩,
  ⟨0x13430, 0x1343F, 1⟩, ⟨0x1BCA0, 0x1BCA3, 1⟩, ⟨0x1D173, 0x1D17A, 1⟩,
  ⟨0xE0001, 0xE0001, 1⟩, ⟨0xE0020, 0xE007F, 1⟩]

/-- The surrogate code points. -/
def surrogates : List Stretch := [
  ⟨0xD800, 0xDFFF, 1⟩]

/-- The private-use code points. -/
def privateUse : List Stretch := [
  ⟨0xE000, 0xF8FF, 1⟩, ⟨0xF0000, 0xFFFFD, 1⟩, ⟨0x100000, 0x10FFFD, 1⟩]

end Unicode
end RCompletion
