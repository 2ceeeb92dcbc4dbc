import RCompletion.Unicode.Category

/-!
# Printable characters

A character is shown as it is when it is visible on its own: it is assigned,
neither a control nor a format nor a separator other than the space, and does
not extend the character before it.
-/

namespace RCompletion
namespace Unicode

/-- The spacing marks and format characters that extend what is before them. -/
def spacingExtenders : List Stretch := [
  ⟨0x9BE, 0x9BE, 1⟩, ⟨0x9D7, 0x9D7, 1⟩, ⟨0xB3E, 0xB3E, 1⟩, ⟨0xB57, 0xB57, 1⟩,
  ⟨0xBBE, 0xBBE, 1⟩, ⟨0xBD7, 0xBD7, 1⟩, ⟨0xCC0, 0xCC0, 1⟩, ⟨0xCC2, 0xCC2, 1⟩,
  ⟨0xCC7, 0xCC8, 1⟩, ⟨0xCCA, 0xCCB, 1⟩, ⟨0xCD5, 0xCD6, 1⟩, ⟨0xD3E, 0xD3E, 1⟩,
  ⟨0xD57, 0xD57, 1⟩, ⟨0xDCF, 0xDCF, 1⟩, ⟨0xDDF, 0xDDF, 1⟩,
  ⟨0x1B35, 0x1B35, 1⟩, ⟨0x1B3B, 0x1B3B, 1⟩, ⟨0x1B3D, 0x1B3D, 1⟩,
  ⟨0x1B43, 0x1B44, 1⟩, ⟨0x1BAA, 0x1BAA, 1⟩, ⟨0x1BF2, 0x1BF3, 1⟩,
  ⟨0x200C, 0x200C, 1⟩, ⟨0x302E, 0x302F, 1⟩, ⟨0xA953, 0xA953, 1⟩,
  ⟨0xA9C0, 0xA9C0, 1⟩, ⟨0xFF9E, 0xFF9F, 1⟩, ⟨0x111C0, 0x111C0, 1⟩,
  ⟨0x11235, 0x11235, 1⟩, ⟨0x1133E, 0x1133E, 1⟩, ⟨0x1134D, 0x1134D, 1⟩,
  ⟨0x11357, 0x11357, 1⟩, ⟨0x113B8, 0x113B8, 1⟩, ⟨0x113C2, 0x113C2, 1⟩,
  ⟨0x113C5, 0x113C5, 1⟩, ⟨0x113C7, 0x113C9, 1⟩, ⟨0x113CF, 0x113CF, 1⟩,
  ⟨0x114B0, 0x114B0, 1⟩, ⟨0x114BD, 0x114BD, 1⟩, ⟨0x115AF, 0x115AF, 1⟩,
  ⟨0x116B6, 0x116B6, 1⟩, ⟨0x11930, 0x11930, 1⟩, ⟨0x1193D, 0x1193D, 1⟩,
  ⟨0x11F41, 0x11F41, 1⟩, ⟨0x16FF0, 0x16FF1, 1⟩, ⟨0x1D165, 0x1D165, 1⟩,
  ⟨0x1D16E, 0x1D172, 1⟩, ⟨0xE0020, 0xE007F, 1⟩]

/-- Whether a code point extends the character before it. -/
def extendsPrevious (point : Nat) : Bool :=
  covers nonspacingMarks point || covers enclosingMarks point ||
    covers spacingExtenders point

/-- Whether a code point is visible, if only together with another one. -/
def isVisible (point : Nat) : Bool :=
  isLetter point || isMark point || isNumber point || isPunctuation point ||
    isSymbol point

/-- Whether a character is shown as it is. -/
def isPrintable (character : Char) : Bool :=
  let point := character.toNat
  if point < 0x80 then
    0x20 ≤ point && point < 0x7F
  else
    isVisible point && !extendsPrevious point

end Unicode
end RCompletion
