import BufferKeeper.Proofs.WrittenNumbers
import BufferKeeper.Proofs.WrittenStrings

/-!
# Written documents

A document of tables that hold texts and numbers is written line by line: a header for each table, and a
line for each of its pairs. Every line is read as its statement whatever follows it, and the statements
build the tables one after another, each pair going into the table opened last. So the document describes
the tables that it was written from (`parse?_render`), as long as names are bare and none is used twice.
-/

namespace BufferKeeper.Toml

open Text

/-! ## 1. Keys -/

def IsBare (name : String) : Prop :=
  name.toList ≠ [] ∧ ∀ c ∈ name.toList, isBareChar c

-- By the characters of the name, and not by all that there are.
instance (name : String) : Decidable (IsBare name) :=
  decidable_of_iff (name.toList ≠ [] ∧ name.toList.all isBareChar = true)
    (and_congr Iff.rfl List.all_eq_true)

theorem IsBare.head {name : String} (h : IsBare name) :
    ∃ c t, name.toList = c :: t ∧ isBareChar c := by
  cases htext : name.toList with
  | nil => exact absurd htext h.1
  | cons c t => exact ⟨c, t, rfl, h.2 c (by rw [htext]; exact List.mem_cons_self)⟩

theorem isBlank_of_isBareChar {c : Char} (h : isBareChar c) : isBlank c = false := by
  apply decide_eq_false
  rintro (rfl | rfl)
  · exact absurd h (by decide)
  · exact absurd h (by decide)

theorem skipBlanks_cons {c : Char} (h : isBlank c = false) (t : List Char) :
    skipBlanks (c :: t) = c :: t :=
  List.dropWhile_cons_of_neg (by simp [h])

-- A name that is written as it is ends where no bare character follows.
theorem readPart_append {name : String} (hname : IsBare name) {c : Char} (hc : isBareChar c = false)
    (rest : List Char) : readPart (name.toList ++ c :: rest) = some (name, c :: rest) := by
  have htake : (name.toList ++ c :: rest).takeWhile isBareChar = name.toList := by
    rw [List.takeWhile_append_of_pos hname.2, List.takeWhile_cons_of_neg (by simp [hc]),
      List.append_nil]
  have hdrop : (name.toList ++ c :: rest).dropWhile isBareChar = c :: rest := by
    rw [List.dropWhile_append_of_pos hname.2, List.dropWhile_cons_of_neg (by simp [hc])]
  obtain ⟨first, others, htext, hfirst⟩ := hname.head
  have hmark : ¬(first = quotationMark ∨ first = apostrophe) := by
    rintro (rfl | rfl)
    · exact absurd hfirst (by decide)
    · exact absurd hfirst (by decide)
  rw [htext, List.cons_append] at htake hdrop
  rw [htext, List.cons_append, readPart, if_neg hmark, htake, hdrop, if_neg (List.cons_ne_nil _ _),
    ← htext, String.ofList_toList]

theorem readKey_append {name : String} (hname : IsBare name) {c : Char} {rest t : List Char}
    (hc : isBareChar c = false) (hrest : skipBlanks (c :: rest) = t) (hdot : t.head? ≠ some '.') :
    readKey (name.toList ++ c :: rest) = some (⟨[], name⟩, t) := by
  have hblanks : skipBlanks (name.toList ++ c :: rest) = name.toList ++ c :: rest := by
    obtain ⟨first, others, htext, hfirst⟩ := hname.head
    rw [htext]
    exact skipBlanks_cons (isBlank_of_isBareChar hfirst) _
  have hpart : readSpacedPart (name.toList ++ c :: rest) = some (name, t) := by
    rw [readSpacedPart, hblanks, readPart_append hname hc, ← hrest]
    rfl
  have hmany : many (fun s => (skipChar '.' s).bind readSpacedPart) t = ([], t) := by
    cases t with
    | nil => rfl
    | cons d t =>
      have hd : d ≠ '.' := fun h => hdot (congrArg some h)
      rw [many, manyWithin, skipChar, if_neg hd]
      rfl
  unfold readKey separated
  simp only [hpart, hmany, Option.bind_eq_bind, Option.bind_some, Option.pure_def]
  rfl

/-! ## 2. Values -/

inductive Literal where
  | text (value : String)
  | integer (value : Int32)
  deriving DecidableEq

namespace Literal

def value : Literal → Value
  | .text s => .text s
  | .integer n => .integer n.toInt

def write (style : EscapeStyle) : Literal → List Char
  | .text s => style.quote s
  | .integer n => (signedDecimal n.toInt).toList

-- Brackets and braces begin the values that contain others.
theorem head_write (literal : Literal) (style : EscapeStyle) (rest : List Char) :
    ∃ c t, literal.write style ++ '\n' :: rest = c :: t ∧ isBlank c = false ∧ c ≠ '[' ∧ c ≠ '\x7B' := by
  cases literal with
  | text s => exact ⟨quotationMark, _, rfl, by decide, by decide, by decide⟩
  | integer n =>
    obtain ⟨c, t, htext, hc⟩ := head_numberLine n.toInt rest
    refine ⟨c, t, htext, ?_, ?_, ?_⟩
    · apply decide_eq_false
      rintro (rfl | rfl)
      · exact absurd hc (by decide)
      · exact absurd hc (by decide)
    · rintro rfl
      exact absurd hc (by decide)
    · rintro rfl
      exact absurd hc (by decide)

theorem readScalar_append (literal : Literal) (style : EscapeStyle) (rest : List Char) :
    readScalar (literal.write style ++ '\n' :: rest) = some (literal.value, '\n' :: rest) := by
  cases literal with
  | text s =>
    have hend : ('\n' :: rest).head? ≠ some quotationMark :=
      fun h => absurd (Option.some.inj h) (by decide)
    unfold readScalar
    show ((readString (style.quote s ++ '\n' :: rest)).map _ <|> _) = _
    rw [style.readString_quote s hend]
    rfl
  | integer n => exact readScalar_numberLine (int64?_toInt n) rest

theorem readValue_append (literal : Literal) (style : EscapeStyle) (nesting : Nat) (rest : List Char) :
    readValue (nesting + 1) (literal.write style ++ '\n' :: rest) =
      some (literal.value, '\n' :: rest) := by
  obtain ⟨c, t, htext, -, hbracket, hbrace⟩ := literal.head_write style rest
  rw [← literal.readScalar_append style rest, htext]
  unfold readValue
  split
  · next heq => exact absurd (List.cons.inj heq).1 hbracket
  · next heq => exact absurd (List.cons.inj heq).1 hbrace
  · rfl

end Literal

/-! ## 3. Lines -/

inductive Line where
  | header (name : String)
  | pair (key : String) (literal : Literal)

namespace Line

def name : Line → String
  | .header name => name
  | .pair key _ => key

def statement : Line → Statement
  | .header name => .table ⟨[], name⟩
  | .pair key literal => .assign ⟨[], key⟩ literal.value

def write (style : EscapeStyle) : Line → List Char
  | .header name => '[' :: (name.toList ++ [']', '\n'])
  | .pair key literal => key.toList ++ [' ', '=', ' '] ++ literal.write style ++ ['\n']

variable {style : EscapeStyle} {line : Line}

theorem finishLine_eq_none {c : Char} (hblank : isBlank c = false) (hcomment : c ≠ '#')
    (hnewline : c ≠ '\n') (hreturn : c ≠ '\r') (t : List Char) : finishLine (c :: t) = none := by
  have hskip : skipComment (skipBlanks (c :: t)) = c :: t := by
    rw [skipBlanks_cons hblank]
    unfold skipComment
    split
    · next heq => exact absurd (List.cons.inj heq).1 hcomment
    · rfl
  unfold finishLine
  rw [hskip]
  dsimp only
  unfold skipNewline
  split
  · next heq => exact absurd (List.cons.inj heq).1 hnewline
  · next heq => exact absurd (List.cons.inj heq).1 hreturn
  · rfl

theorem readBareStatement_header {name : String} (hname : IsBare name) (rest : List Char) :
    readBareStatement ('[' :: (name.toList ++ ']' :: '\n' :: rest)) =
      some (.table ⟨[], name⟩, '\n' :: rest) := by
  have hkey : readKey (name.toList ++ ']' :: '\n' :: rest) =
      some (⟨[], name⟩, ']' :: '\n' :: rest) :=
    readKey_append hname (by decide) (skipBlanks_cons (by decide) _) (by simp)
  obtain ⟨c, t, htext, hc⟩ := hname.head
  have hbracket : c ≠ '[' := by
    rintro rfl
    exact absurd hc (by decide)
  rw [htext, List.cons_append] at hkey ⊢
  unfold readBareStatement
  split
  · next heq =>
    cases heq
    exact absurd rfl hbracket
  · next heq =>
    cases heq
    simp only [hkey, skipChar_cons, Option.bind_eq_bind, Option.bind_some, Option.pure_def]
  · next hother => exact absurd rfl (hother _)

theorem readBareStatement_pair {key : String} (hkey : IsBare key) (literal : Literal)
    (style : EscapeStyle) (rest : List Char) :
    readBareStatement (key.toList ++ ' ' :: '=' :: ' ' :: (literal.write style ++ '\n' :: rest)) =
      some (.assign ⟨[], key⟩ literal.value, '\n' :: rest) := by
  have hname : readKey (key.toList ++ ' ' :: '=' :: ' ' :: (literal.write style ++ '\n' :: rest)) =
      some (⟨[], key⟩, '=' :: ' ' :: (literal.write style ++ '\n' :: rest)) :=
    readKey_append hkey (by decide) rfl (by simp)
  have hblanks : skipBlanks (' ' :: (literal.write style ++ '\n' :: rest)) =
      literal.write style ++ '\n' :: rest := by
    obtain ⟨c, t, htext, hc, -, -⟩ := literal.head_write style rest
    rw [htext]
    exact skipBlanks_cons hc t
  have hpair : readPair (readValue (nestingLimit - 1))
      (key.toList ++ ' ' :: '=' :: ' ' :: (literal.write style ++ '\n' :: rest)) =
        some ((⟨[], key⟩, literal.value), '\n' :: rest) := by
    have hvalue : readValue (nestingLimit - 1) (literal.write style ++ '\n' :: rest) =
        some (literal.value, '\n' :: rest) := literal.readValue_append style 78 rest
    unfold readPair
    simp only [hname, skipChar_cons, hblanks, hvalue, Option.bind_eq_bind, Option.bind_some,
      Option.pure_def]
    rfl
  obtain ⟨c, t, htext, hc⟩ := hkey.head
  have hbracket : c ≠ '[' := by
    rintro rfl
    exact absurd hc (by decide)
  rw [htext, List.cons_append] at hpair ⊢
  unfold readBareStatement
  split
  · next heq => exact absurd (List.cons.inj heq).1 hbracket
  · next heq => exact absurd (List.cons.inj heq).1 hbracket
  · rw [hpair]
    rfl

theorem readLine_of_bare {c : Char} {t rest : List Char} {statement : Statement}
    (hline : finishLine (c :: t) = none) (hblank : isBlank c = false)
    (hbare : readBareStatement (c :: t) = some (statement, '\n' :: rest)) :
    readLine (c :: t) = some ([statement], rest) := by
  have hstatement : readStatement (c :: t) = some (statement, rest) := by
    unfold readStatement
    rw [hbare]
    rfl
  unfold readLine
  rw [hline]
  dsimp only
  rw [skipBlanks_cons hblank, hstatement]
  rfl

theorem readLine_append (hname : IsBare line.name) (style : EscapeStyle) (rest : List Char) :
    readLine (line.write style ++ rest) = some ([line.statement], rest) := by
  cases line with
  | header name =>
    have htext : (header name).write style ++ rest = '[' :: (name.toList ++ ']' :: '\n' :: rest) := by
      simp [write]
    rw [htext]
    exact readLine_of_bare (finishLine_eq_none (by decide) (by decide) (by decide) (by decide) _)
      (by decide) (readBareStatement_header hname rest)
  | pair key literal =>
    have htext : (pair key literal).write style ++ rest =
        key.toList ++ ' ' :: '=' :: ' ' :: (literal.write style ++ '\n' :: rest) := by
      simp [write]
    have hproper : IsBare key := hname
    have hbare := readBareStatement_pair hproper literal style rest
    obtain ⟨c, t, hkey, hc⟩ := hproper.head
    have hother {d : Char} (hd : isBareChar d = false) : c ≠ d := by
      rintro rfl
      rw [hd] at hc
      cases hc
    have hblank := isBlank_of_isBareChar hc
    rw [hkey, List.cons_append] at hbare
    rw [htext, hkey, List.cons_append]
    exact readLine_of_bare (finishLine_eq_none hblank (hother (by decide)) (hother (by decide))
      (hother (by decide)) _) hblank hbare

theorem write_ne_nil (style : EscapeStyle) (line : Line) : line.write style ≠ [] := by
  cases line <;> simp [write]

end Line

/-! ## 4. Tables -/

/-- A table of a written document: its name, and its pairs in their order. -/
structure WrittenTable where
  name : String
  pairs : List (String × Literal)

namespace WrittenTable

def lines (table : WrittenTable) : List Line :=
  .header table.name :: table.pairs.map fun pair => .pair pair.1 pair.2

def entries (table : WrittenTable) : Entries :=
  table.pairs.map fun pair => (pair.1, pair.2.value)

theorem keys_entries (table : WrittenTable) :
    table.entries.map Prod.fst = table.pairs.map Prod.fst :=
  List.map_map

/-- The names are bare, and no key is used twice. -/
structure IsProper (table : WrittenTable) : Prop where
  name : IsBare table.name
  keys : ∀ pair ∈ table.pairs, IsBare pair.1
  distinct : (table.pairs.map Prod.fst).Nodup

end WrittenTable

/-- The text of a document, table after table. -/
def render (style : EscapeStyle) (tables : List WrittenTable) : String :=
  String.ofList ((tables.flatMap WrittenTable.lines).flatMap (Line.write style))

theorem isBare_of_mem_lines {tables : List WrittenTable} (hproper : ∀ table ∈ tables, table.IsProper)
    {line : Line} (hline : line ∈ tables.flatMap WrittenTable.lines) : IsBare line.name := by
  obtain ⟨table, htable, hline⟩ := List.mem_flatMap.mp hline
  rcases List.mem_cons.mp hline with rfl | hline
  · exact (hproper table htable).name
  · obtain ⟨pair, hpair, rfl⟩ := List.mem_map.mp hline
    exact (hproper table htable).keys pair hpair

-- A document begins with a bracket, and so with no byte order mark.
theorem skipByteOrderMark_lines (style : EscapeStyle) (tables : List WrittenTable) :
    skipByteOrderMark ((tables.flatMap WrittenTable.lines).flatMap (Line.write style)) =
      (tables.flatMap WrittenTable.lines).flatMap (Line.write style) := by
  cases tables <;> rfl

theorem statements?_render (style : EscapeStyle) {tables : List WrittenTable}
    (hproper : ∀ table ∈ tables, table.IsProper) :
    statements? (render style tables) =
      some ((tables.flatMap WrittenTable.lines).map Line.statement) := by
  have hlines : ReadsPieces readEnd readLine (Line.write style) (fun line => [line.statement])
      (tables.flatMap WrittenTable.lines) := by
    intro line hline rest
    refine ⟨?_, Line.readLine_append (isBare_of_mem_lines hproper hline) style rest⟩
    cases htext : line.write style with
    | nil => exact absurd htext (line.write_ne_nil style)
    | cons c t => rfl
  have hread := readUntil_append hlines (fun line _ => line.write_ne_nil style)
    (show readEnd [] = some ([], []) from rfl)
  rw [List.append_nil, List.append_nil, ← List.map_eq_flatMap] at hread
  unfold statements? render
  rw [String.toList_ofList, skipByteOrderMark_lines, hread]
  rfl

/-! ## 5. What a document describes -/

def WrittenTable.entry (table : WrittenTable) : String × Value :=
  (table.name, .table .header table.entries)

theorem Entries.value?_eq_none {entries : Entries} {name : String}
    (h : name ∉ entries.map Prod.fst) : entries.value? name = none := by
  rw [Entries.value?, List.lookup_eq_none_iff]
  intro entry hentry
  rw [bne_iff_ne]
  rintro rfl
  exact h (List.mem_map_of_mem hentry)

theorem Entries.value?_of_mem {entries : Entries} {name : String} {value : Value}
    (hdistinct : (entries.map Prod.fst).Nodup) (h : (name, value) ∈ entries) :
    entries.value? name = some value := by
  obtain ⟨before, behind, rfl⟩ := List.append_of_mem h
  have hbefore : Entries.value? before name = none := by
    apply Entries.value?_eq_none
    intro hmem
    rw [List.map_append, List.nodup_append] at hdistinct
    exact hdistinct.2.2 _ hmem _ List.mem_cons_self rfl
  rw [Entries.value?, List.lookup_append, show before.lookup name = none from hbefore, Option.none_or,
    List.lookup_cons_self]

section Building

variable {before inner : Entries} {name : String}

-- The table opened last is the only one of its name.
theorem changeAt_last (h : name ∉ before.map Prod.fst) (change : Entries → Option Entries) :
    Entries.changeAt (before ++ [(name, .table .header inner)]) [name] change =
      (change inner).map fun inner => before ++ [(name, .table .header inner)] := by
  have hvalue : Entries.value? (before ++ [(name, .table .header inner)]) name =
      some (.table .header inner) := by
    have hbefore : before.lookup name = none := Entries.value?_eq_none h
    rw [Entries.value?, List.lookup_append, hbefore, Option.none_or, List.lookup_cons_self]
  have hreplace (changed : Entries) :
      Entries.replaceValue (before ++ [(name, .table .header inner)]) name (.table .header changed) =
        before ++ [(name, .table .header changed)] := by
    have hbefore : before.map (fun entry =>
        if entry.1 = name then (name, Value.table .header changed) else entry) = before := by
      refine (List.map_congr_left fun entry hentry => if_neg ?_).trans (List.map_id' before)
      rintro rfl
      exact h (List.mem_map_of_mem hentry)
    rw [Entries.replaceValue, List.map_append, hbefore, List.map_singleton, if_pos rfl]
  rw [Entries.changeAt, hvalue]
  simp only [Entries.changeAt, hreplace]

theorem step_header (current : List String) (h : name ∉ before.map Prod.fst) :
    Draft.step ⟨before, current⟩ (.table ⟨[], name⟩) =
      some ⟨before ++ [(name, .table .header [])], [name]⟩ := by
  have hopen : Entries.openTable before ⟨[], name⟩ = some (before ++ [(name, .table .header [])]) := by
    unfold Entries.openTable Entries.changeAt
    dsimp only
    rw [Entries.value?_eq_none h]
    rfl
  unfold Draft.step
  dsimp only
  rw [hopen]
  rfl

theorem step_pair (h : name ∉ before.map Prod.fst) {key : String} (hkey : key ∉ inner.map Prod.fst)
    (value : Value) :
    Draft.step ⟨before ++ [(name, .table .header inner)], [name]⟩ (.assign ⟨[], key⟩ value) =
      some ⟨before ++ [(name, .table .header (inner ++ [(key, value)]))], [name]⟩ := by
  have hassign : Entries.assign inner [] key value = some (inner ++ [(key, value)]) := by
    unfold Entries.assign
    rw [Entries.value?_eq_none hkey]
    rfl
  unfold Draft.step
  dsimp only
  rw [changeAt_last h, hassign]
  rfl

-- On the pairs, with those that the table has already left open.
theorem foldlM_pairs (h : name ∉ before.map Prod.fst) {pairs : List (String × Literal)}
    (hdistinct : (inner.map Prod.fst ++ pairs.map Prod.fst).Nodup) :
    ((pairs.map fun pair => Line.pair pair.1 pair.2).map Line.statement).foldlM Draft.step
        ⟨before ++ [(name, .table .header inner)], [name]⟩ =
      some ⟨before ++ [(name, .table .header (inner ++ pairs.map fun pair => (pair.1, pair.2.value)))],
        [name]⟩ := by
  induction pairs generalizing inner with
  | nil =>
    rw [List.map_nil, List.map_nil, List.map_nil, List.append_nil]
    rfl
  | cons pair pairs ih =>
    have hkey : pair.1 ∉ inner.map Prod.fst := by
      intro hmem
      exact (List.nodup_append.mp hdistinct).2.2 _ hmem _ List.mem_cons_self rfl
    have hrest : ((inner ++ [(pair.1, pair.2.value)]).map Prod.fst ++ pairs.map Prod.fst).Nodup := by
      rw [List.map_append, List.append_assoc]
      exact hdistinct
    have hpair := step_pair h hkey pair.2.value
    rw [List.map_cons, List.map_cons, List.foldlM_cons]
    show (Draft.step _ (.assign ⟨[], pair.1⟩ pair.2.value) >>= fun draft => _) = _
    rw [hpair]
    show List.foldlM Draft.step _ _ = _
    rw [ih hrest, List.append_assoc]
    rfl

-- On the tables, with those that are there already left open.
theorem foldlM_tables (current : List String) {tables : List WrittenTable}
    (hproper : ∀ table ∈ tables, table.IsProper)
    (hdistinct : (before.map Prod.fst ++ tables.map WrittenTable.name).Nodup) :
    ∃ current', ((tables.flatMap WrittenTable.lines).map Line.statement).foldlM Draft.step
      ⟨before, current⟩ = some ⟨before ++ tables.map WrittenTable.entry, current'⟩ := by
  induction tables generalizing before current with
  | nil => exact ⟨current, by rw [List.map_nil, List.append_nil]; rfl⟩
  | cons table tables ih =>
    rw [List.forall_mem_cons] at hproper
    have hname : table.name ∉ before.map Prod.fst := by
      intro hmem
      exact (List.nodup_append.mp hdistinct).2.2 _ hmem _ List.mem_cons_self rfl
    have hrest : ((before ++ [table.entry]).map Prod.fst ++ tables.map WrittenTable.name).Nodup := by
      rw [List.map_append, List.append_assoc]
      exact hdistinct
    have hpairs := foldlM_pairs hname
      (show ((([] : Entries).map Prod.fst) ++ _).Nodup from hproper.1.distinct)
    have htable : (table.lines.map Line.statement).foldlM Draft.step ⟨before, current⟩ =
        some ⟨before ++ [table.entry], [table.name]⟩ := by
      rw [WrittenTable.lines, List.map_cons, List.foldlM_cons]
      show (Draft.step _ (.table ⟨[], table.name⟩) >>= fun draft => _) = _
      rw [step_header current hname]
      exact hpairs
    obtain ⟨current', hfold⟩ := ih [table.name] hproper.2 hrest
    refine ⟨current', ?_⟩
    rw [List.flatMap_cons, List.map_append, List.foldlM_append, htable]
    show List.foldlM Draft.step _ _ = _
    rw [hfold, List.append_assoc]
    rfl

end Building

theorem parse?_render (style : EscapeStyle) {tables : List WrittenTable}
    (hproper : ∀ table ∈ tables, table.IsProper) (hdistinct : (tables.map WrittenTable.name).Nodup) :
    parse? (render style tables) = some (tables.map WrittenTable.entry) := by
  obtain ⟨current, hfold⟩ := foldlM_tables [] hproper
    (show ((([] : Entries).map Prod.fst) ++ _).Nodup from hdistinct)
  rw [parse?, statements?_render style hproper, Option.bind_some, Entries.ofStatements, hfold]
  rfl

end BufferKeeper.Toml
