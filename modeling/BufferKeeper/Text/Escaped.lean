import BufferKeeper.Text.Hidden
import BufferKeeper.Text.Numeral
import BufferKeeper.Text.Utf8

/-!
# Texts between quotation marks

In the report of an error that ends the program, a text stands between quotation marks. Quotation
marks and backslashes in it are preceded by a backslash, line ends, tabs and zero characters are
written by letter, and other characters that do not show by their code point. A byte that is no
part of a character is written as two hexadecimal digits.
-/

namespace BufferKeeper.Text

/-! ## 1. Characters and bytes -/

def codePointEscape (c : Char) : String :=
  "\\u\x7b" ++ hexDigits c.toNat ++ "\x7d"

def escapedChar (c : Char) : String :=
  if c = '\x00' then "\\0"
  else if c = '\t' then "\\t"
  else if c = '\r' then "\\r"
  else if c = '\n' then "\\n"
  else if c = '\x22' then "\\\""
  else if c = '\\' then "\\\\"
  else if c.toNat < 0x20 ∨ c.toNat = 0x7F ∨ isHidden c then codePointEscape c
  else String.singleton c

def escapedByte (b : UInt8) : String :=
  let digit (n : Nat) := (Nat.digitChar n).toUpper
  "\\x" ++ String.ofList [digit (b.toNat / 16), digit (b.toNat % 16)]

def escapedGlyph : Glyph → String
  | .char c => escapedChar c
  | .broken bytes => String.join (bytes.map escapedByte)

/-! ## 2. Texts -/

def quotedGlyphs (glyphs : List Glyph) : String :=
  "\"" ++ String.join (glyphs.map escapedGlyph) ++ "\""

def quoted (s : String) : String :=
  quotedGlyphs (ofString s)

end BufferKeeper.Text
