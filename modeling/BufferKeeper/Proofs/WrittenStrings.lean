import BufferKeeper.Proofs.Numerals
import BufferKeeper.Toml.Quoted

/-!
# Written strings

Any text can be written as a string on one line between quotation marks, character by character, where a
character stands for itself or is escaped. How each character is written is left to an `EscapeStyle`. Such
a string reads back as its text (`EscapeStyle.readString_quote`).
-/

namespace BufferKeeper

/-! ## 1. Pieces one after another -/

namespace Text

variable {α β : Type} {stop piece : Reader (List β)} {write : α → List Char} {value : α → List β}
  {items : List α}

/-- Each item is read as one piece, whatever follows it. -/
def ReadsPieces (stop piece : Reader (List β)) (write : α → List Char) (value : α → List β)
    (items : List α) : Prop :=
  ∀ x ∈ items, ∀ rest, stop (write x ++ rest) = none ∧ piece (write x ++ rest) = some (value x, rest)

-- On the items, with the clock left open: each round takes one item and one tick.
theorem readUntilWithin_append (hitems : ReadsPieces stop piece write value items) {rest : List Char}
    {back : List β} {behind : List Char} (hstop : stop rest = some (back, behind))
    {clock : List Char} (hclock : items.length ≤ clock.length) :
    readUntilWithin stop piece clock (items.flatMap write ++ rest) =
      some (items.flatMap value ++ back, behind) := by
  induction items generalizing clock with
  | nil =>
    cases clock with
    | nil => exact hstop
    | cons c clock =>
      rw [List.flatMap_nil, List.nil_append, readUntilWithin, hstop]
      rfl
  | cons x items ih =>
    cases clock with
    | nil => cases hclock
    | cons c clock =>
      obtain ⟨hgo, hpiece⟩ := hitems x List.mem_cons_self (items.flatMap write ++ rest)
      have hrest := ih (fun y hy => hitems y (List.mem_cons_of_mem x hy))
        (Nat.le_of_succ_le_succ hclock)
      rw [List.flatMap_cons, List.append_assoc, readUntilWithin, hgo]
      dsimp only
      rw [hpiece]
      dsimp only
      rw [hrest, Option.map_some, List.flatMap_cons, List.append_assoc]

theorem length_le_length_flatMap (hnonempty : ∀ x ∈ items, write x ≠ []) :
    items.length ≤ (items.flatMap write).length := by
  induction items with
  | nil => exact Nat.le_refl 0
  | cons x items ih =>
    have hx := List.length_pos_iff.mpr (hnonempty x List.mem_cons_self)
    have hrest := ih fun y hy => hnonempty y (List.mem_cons_of_mem x hy)
    rw [List.flatMap_cons, List.length_append, List.length_cons]
    omega

theorem readUntil_append (hitems : ReadsPieces stop piece write value items)
    (hnonempty : ∀ x ∈ items, write x ≠ []) {rest : List Char} {back : List β} {behind : List Char}
    (hstop : stop rest = some (back, behind)) :
    readUntil stop piece (items.flatMap write ++ rest) =
      some (items.flatMap value ++ back, behind) := by
  apply readUntilWithin_append hitems hstop
  rw [List.length_append]
  exact Nat.le_add_right_of_le (length_le_length_flatMap hnonempty)

end Text

namespace Toml

open Text

/-! ## 2. Characters -/

/-- The letters behind a backslash and the characters they stand for. -/
def namedEscapes : List (Char × Char) :=
  [('b', '\x08'), ('t', '\t'), ('n', '\n'), ('f', '\x0C'), ('r', '\r'), ('\\', '\\'),
    (quotationMark, quotationMark)]

/-- The ways to write a character between quotation marks. -/
inductive Stands (c : Char) : List Char → Prop where
  | itself (plain : isPlain c) (mark : c ≠ quotationMark) (backslash : c ≠ '\\') : Stands c [c]
  | named {letter : Char} (escape : (letter, c) ∈ namedEscapes) : Stands c ['\\', letter]
  | fourDigits {digits : List Char} (length : digits.length = 4)
      (value : ofDigits? 16 digits = some c.toNat) : Stands c ('\\' :: 'u' :: digits)
  | eightDigits {digits : List Char} (length : digits.length = 8)
      (value : ofDigits? 16 digits = some c.toNat) : Stands c ('\\' :: 'U' :: digits)

variable {c : Char} {written : List Char}

theorem readCodePoint_append {digits : List Char} {count : Nat} (hlength : digits.length = count)
    (hvalue : ofDigits? 16 digits = some c.toNat) (rest : List Char) :
    readCodePoint count (digits ++ rest) = some (c, rest) := by
  unfold readCodePoint
  rw [List.take_left' hlength, List.drop_left' hlength, hvalue]
  dsimp only
  rw [if_pos ⟨hlength, c.valid⟩, Char.ofNat_toNat]

theorem readEscape_named {letter : Char} (h : (letter, c) ∈ namedEscapes) (rest : List Char) :
    readEscape (letter :: rest) = some (c, rest) := by
  simp only [namedEscapes, List.mem_cons, Prod.mk.injEq, List.not_mem_nil, or_false] at h
  rcases h with ⟨rfl, rfl⟩ | ⟨rfl, rfl⟩ | ⟨rfl, rfl⟩ | ⟨rfl, rfl⟩ | ⟨rfl, rfl⟩ | ⟨rfl, rfl⟩ | ⟨rfl, rfl⟩
  all_goals rfl

theorem Stands.readLinePiece_append (h : Stands c written) (rest : List Char) :
    readLinePiece true (written ++ rest) = some ([c], rest) := by
  have hescape {t : List Char} (h : readEscape t = some (c, rest)) :
      readLinePiece true ('\\' :: t) = some ([c], rest) := by
    rw [readLinePiece, if_pos ⟨rfl, rfl⟩, h]
    rfl
  cases h with
  | itself plain mark backslash =>
    show readLinePiece true (c :: rest) = _
    rw [readLinePiece, if_neg fun hc => backslash hc.2, if_pos plain]
  | named escape => exact hescape (readEscape_named escape rest)
  | fourDigits length value => exact hescape (readCodePoint_append length value rest)
  | eightDigits length value => exact hescape (readCodePoint_append length value rest)

theorem Stands.head_ne_mark (h : Stands c written) :
    ∃ d t, written = d :: t ∧ d ≠ quotationMark := by
  cases h with
  | itself plain mark backslash => exact ⟨c, [], rfl, mark⟩
  | named escape => exact ⟨_, _, rfl, by decide⟩
  | fourDigits length value => exact ⟨_, _, rfl, by decide⟩
  | eightDigits length value => exact ⟨_, _, rfl, by decide⟩

/-! ## 3. Strings -/

/-- A choice of how to write each character. -/
structure EscapeStyle where
  write : Char → List Char
  stands : ∀ c, Stands c (write c)

namespace EscapeStyle

def quote (style : EscapeStyle) (s : String) : List Char :=
  quotationMark :: (s.toList.flatMap style.write ++ [quotationMark])

theorem readLineString_append (style : EscapeStyle) (s : String) (rest : List Char) :
    readLineString quotationMark (s.toList.flatMap style.write ++ quotationMark :: rest) =
      some (s, rest) := by
  have hpieces : ReadsPieces (readClose quotationMark) (readLinePiece true) style.write (fun c => [c])
      s.toList := by
    intro c _ rest
    obtain ⟨d, t, hwritten, hmark⟩ := (style.stands c).head_ne_mark
    refine ⟨?_, (style.stands c).readLinePiece_append rest⟩
    rw [hwritten, readClose, List.cons_append, skipChar, if_neg hmark]
    rfl
  have hnonempty : ∀ c ∈ s.toList, style.write c ≠ [] := by
    intro c _
    obtain ⟨d, t, hwritten, -⟩ := (style.stands c).head_ne_mark
    rw [hwritten]
    exact List.cons_ne_nil d t
  have hclose : readClose quotationMark (quotationMark :: rest) = some ([], rest) := by
    rw [readClose, skipChar_cons]
    rfl
  unfold readLineString
  rw [decide_eq_true rfl, readUntil_append hpieces hnonempty hclose, Option.map_some, List.append_nil,
    List.flatMap_singleton']
  exact congrArg (fun t => some (t, rest)) String.ofList_toList

-- Three marks in a row would open a string over several lines.
theorem readString_quote (style : EscapeStyle) (s : String) {rest : List Char}
    (hrest : rest.head? ≠ some quotationMark) :
    readString (style.quote s ++ rest) = some (s, rest) := by
  have htext : style.quote s ++ rest =
      quotationMark :: (s.toList.flatMap style.write ++ quotationMark :: rest) := by
    rw [quote, List.cons_append, List.append_assoc]
    rfl
  have hline : skipChars [quotationMark, quotationMark]
      (s.toList.flatMap style.write ++ quotationMark :: rest) = none := by
    cases s.toList with
    | nil =>
      rw [List.flatMap_nil, List.nil_append, skipChars, skipChar_cons, Option.bind_some]
      cases rest with
      | nil => rfl
      | cons c rest =>
        have hc : c ≠ quotationMark := fun h => hrest (congrArg some h)
        rw [skipChars, skipChar, if_neg hc]
        rfl
    | cons c cs =>
      obtain ⟨d, t, hwritten, hmark⟩ := (style.stands c).head_ne_mark
      rw [List.flatMap_cons, hwritten, List.cons_append, List.cons_append, skipChars, skipChar,
        if_neg hmark]
      rfl
  rw [htext, readString, if_pos (.inl rfl), hline]
  exact readLineString_append style s rest

/-- The style that escapes nothing without need, and control characters by their number. -/
def plain : EscapeStyle where
  write c :=
    if c = quotationMark then ['\\', quotationMark]
    else if c = '\\' then ['\\', '\\']
    else if isPlain c then [c]
    else ['\\', 'u', '0', '0', (c.toNat / 16).digitChar, (c.toNat % 16).digitChar]
  stands c := by
    have hdigits : ∀ n < 128,
        ofDigits? 16 ['0', '0', (n / 16).digitChar, (n % 16).digitChar] = some n := by
      decide +kernel
    split
    · next hmark =>
      subst hmark
      exact .named (by decide)
    · next hmark =>
      split
      · next hbackslash =>
        subst hbackslash
        exact .named (by decide)
      · next hbackslash =>
        split
        · next hplain => exact .itself hplain hmark hbackslash
        · next hplain =>
          have hsmall : c.toNat < 128 := by
            by_cases hdelete : c = '\x7F'
            · rw [hdelete]
              decide
            · have hcontrol : c < ' ' := by
                rw [← Char.not_le]
                intro hle
                exact hplain (decide_eq_true (.inr ⟨hle, hdelete⟩))
              have hval := UInt32.lt_iff_toNat_lt.mp (Char.lt_def.mp hcontrol)
              exact Nat.lt_trans hval (by decide)
          exact .fourDigits rfl (hdigits _ hsmall)

end EscapeStyle

end Toml

end BufferKeeper
