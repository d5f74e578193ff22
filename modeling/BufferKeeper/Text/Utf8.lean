/-!
# Text that arrives as bytes

Command-line arguments, file names and file contents are bytes that should be UTF-8 but need not
be. `ofBytes` decodes them to glyphs: characters, and broken pieces where the bytes are no UTF-8. A
broken piece is as long as it can be while it still could have become a character, so the number of
pieces is fixed. `text?` is the text when nothing is broken, and `lossy` shows each broken piece as
one replacement character.
-/

namespace BufferKeeper.Text

/-! ## 1. Glyphs -/

/-- A character, or bytes that are no part of one. -/
inductive Glyph where
  | char (c : Char)
  | broken (bytes : List UInt8)
  deriving DecidableEq

namespace Glyph

def bytes : Glyph → List UInt8
  | .char c => String.utf8EncodeChar c
  | .broken bytes => bytes

def char? : Glyph → Option Char
  | .char c => some c
  | .broken _ => none

def shown : Glyph → Char
  | .char c => c
  | .broken _ => '\uFFFD'

end Glyph

/-! ## 2. Decoding -/

/-- What the first byte of a character promises: how many bytes follow, the range of the next one,
and the high bits of the code point. -/
structure Lead where
  more : Nat
  low : UInt8
  high : UInt8
  bits : Nat

def lead? (b : UInt8) : Option Lead :=
  if b < 0x80 then some ⟨0, 0x80, 0xBF, b.toNat⟩
  else if b < 0xC2 then none
  else if b < 0xE0 then some ⟨1, 0x80, 0xBF, b.toNat - 0xC0⟩
  else if b = 0xE0 then some ⟨2, 0xA0, 0xBF, 0⟩
  else if b = 0xED then some ⟨2, 0x80, 0x9F, 0xD⟩
  else if b < 0xF0 then some ⟨2, 0x80, 0xBF, b.toNat - 0xE0⟩
  else if b = 0xF0 then some ⟨3, 0x90, 0xBF, 0⟩
  else if b < 0xF4 then some ⟨3, 0x80, 0xBF, b.toNat - 0xF0⟩
  else if b = 0xF4 then some ⟨3, 0x80, 0x8F, 4⟩
  else none

/-- Reads `more` further bytes of a character whose bytes so far are `taken`. -/
def complete (more : Nat) (low high : UInt8) (bits : Nat) (taken : List UInt8) :
    List UInt8 → Glyph × List UInt8
  | [] => (if more = 0 then .char (Char.ofNat bits) else .broken taken, [])
  | b :: rest =>
    match more with
    | 0 => (.char (Char.ofNat bits), b :: rest)
    | more + 1 =>
      if low ≤ b ∧ b ≤ high then
        complete more 0x80 0xBF (bits * 64 + (b.toNat - 0x80)) (taken ++ [b]) rest
      else
        (.broken taken, b :: rest)

theorem length_complete_le (more : Nat) (low high : UInt8) (bits : Nat) (taken s : List UInt8) :
    (complete more low high bits taken s).2.length ≤ s.length := by
  induction s generalizing more low high bits taken with
  | nil => simp [complete]
  | cons b rest ih =>
    cases more with
    | zero => simp [complete]
    | succ more =>
      rw [complete]
      split
      · have h := ih more 0x80 0xBF (bits * 64 + (b.toNat - 0x80)) (taken ++ [b])
        rw [List.length_cons]
        omega
      · simp

def firstGlyph (b : UInt8) (rest : List UInt8) : Glyph × List UInt8 :=
  match lead? b with
  | none => (.broken [b], rest)
  | some l => complete l.more l.low l.high l.bits [b] rest

theorem length_firstGlyph_le (b : UInt8) (rest : List UInt8) :
    (firstGlyph b rest).2.length ≤ rest.length := by
  unfold firstGlyph
  split
  · simp
  · exact length_complete_le ..

def ofBytes : List UInt8 → List Glyph
  | [] => []
  | b :: rest =>
    have := length_firstGlyph_le b rest
    (firstGlyph b rest).1 :: ofBytes (firstGlyph b rest).2
termination_by s => s.length
decreasing_by simp only [List.length_cons]; omega

/-! ## 3. Glyphs as text -/

def ofString (s : String) : List Glyph :=
  s.toList.map .char

def text? (glyphs : List Glyph) : Option String :=
  (glyphs.mapM Glyph.char?).map String.ofList

def lossy (glyphs : List Glyph) : String :=
  String.ofList (glyphs.map Glyph.shown)

def byteCount (glyphs : List Glyph) : Nat :=
  (glyphs.flatMap Glyph.bytes).length

@[simp] theorem text?_ofString (s : String) : text? (ofString s) = some s := by
  have h (cs : List Char) : (cs.map Glyph.char).mapM Glyph.char? = some cs := by
    induction cs with
    | nil => rfl
    | cons c cs ih => simp [List.mapM_cons, Glyph.char?, ih]
  simp [text?, ofString, h]

end BufferKeeper.Text
