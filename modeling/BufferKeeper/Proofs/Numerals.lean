import BufferKeeper.Text.Reader

/-!
# Numbers inside a text

A number is written in the digits of its base and reads back from them. In a text with words between
numbers each numeral ends where the word behind it begins, since words do not begin with a digit. So
the numbers can be told from the text (`phrase_injective`), and texts that begin in different ways are
different texts (`eq_of_marks`).
-/

namespace BufferKeeper.Text

/-! ## 1. Digits -/

variable {base : Nat}

theorem digitValue?_digitChar {d : Nat} (h : d < 16) : digitValue? d.digitChar = some d := by
  revert d
  decide

theorem isDigitIn_digitChar (hbase : base ≤ 16) {d : Nat} (h : d < base) :
    isDigitIn base d.digitChar := by
  rw [isDigitIn, digitValue?_digitChar (by omega)]
  exact decide_eq_true h

theorem isDigitIn_of_mem_toDigits (hone : 1 < base) (hbase : base ≤ 16) (n : Nat) :
    ∀ c ∈ Nat.toDigits base n, isDigitIn base c := by
  induction n using Nat.strongRecOn with
  | ind n ih =>
    rw [Nat.toDigits_eq_if hone]
    split
    · next hsmall =>
      intro c hc
      rw [List.mem_singleton.mp hc]
      exact isDigitIn_digitChar hbase hsmall
    · next hlarge =>
      intro c hc
      rcases List.mem_append.mp hc with hc | hc
      · exact ih _ (Nat.div_lt_self (by omega) hone) c hc
      · rw [List.mem_singleton.mp hc]
        exact isDigitIn_digitChar hbase (Nat.mod_lt _ (by omega))

theorem isDigit_of_mem_toDigits (n : Nat) : ∀ c ∈ Nat.toDigits 10 n, isDigitIn 10 c :=
  isDigitIn_of_mem_toDigits (by decide) (by decide) n

theorem valueOf_concat (digits : List Char) (c : Char) :
    valueOf base (digits ++ [c]) = valueOf base digits * base + (digitValue? c).getD 0 := by
  simp only [valueOf, List.foldl_append, List.foldl_cons, List.foldl_nil]

theorem valueOf_toDigits (hone : 1 < base) (hbase : base ≤ 16) (n : Nat) :
    valueOf base (Nat.toDigits base n) = n := by
  induction n using Nat.strongRecOn with
  | ind n ih =>
    rw [Nat.toDigits_eq_if hone]
    split
    · next hsmall =>
      rw [← List.nil_append [n.digitChar], valueOf_concat, digitValue?_digitChar (by omega)]
      show 0 * base + n = n
      omega
    · next hlarge =>
      have hlast : n % base < 16 := Nat.lt_of_lt_of_le (Nat.mod_lt _ (by omega)) hbase
      rw [valueOf_concat, ih _ (Nat.div_lt_self (by omega) hone), digitValue?_digitChar hlast]
      exact Nat.div_add_mod' n base

/-- The text does not go on with a digit of the base. -/
def EndsDigits (base : Nat) (s : List Char) : Prop :=
  ∀ c ∈ s.head?, isDigitIn base c = false

theorem endsDigits_cons {c : Char} (h : isDigitIn base c = false) (s : List Char) :
    EndsDigits base (c :: s) := by
  intro d hd
  cases hd
  exact h

theorem EndsDigits.of_base {s : List Char} (h : EndsDigits 16 s) (hbase : base ≤ 16) :
    EndsDigits base s := by
  intro c hc
  have hdigit := h c hc
  unfold isDigitIn at hdigit ⊢
  split
  · next v hv =>
    rw [hv] at hdigit
    have hlarge : ¬v < 16 := of_decide_eq_false hdigit
    exact decide_eq_false (by omega)
  · rfl

theorem EndsDigits.digitRun {s : List Char} (h : EndsDigits base s) : digitRun base s = ([], s) := by
  cases s with
  | nil => rfl
  | cons c s =>
    have hc := h c rfl
    rw [Text.digitRun, List.takeWhile_cons_of_neg (by simp [hc]),
      List.dropWhile_cons_of_neg (by simp [hc])]

theorem digitRun_toDigits_append (hone : 1 < base) (hbase : base ≤ 16) (n : Nat) {s : List Char}
    (hs : EndsDigits base s) :
    digitRun base (Nat.toDigits base n ++ s) = (Nat.toDigits base n, s) := by
  have hdigits := isDigitIn_of_mem_toDigits hone hbase n
  obtain ⟨htake, hdrop⟩ := Prod.mk.inj hs.digitRun
  rw [digitRun, List.takeWhile_append_of_pos hdigits, List.dropWhile_append_of_pos hdigits, htake,
    hdrop, List.append_nil]

/-! ## 2. Reading what was written -/

theorem digitChar_ne_zero {d : Nat} (h : d < 16) (hd : d ≠ 0) : d.digitChar ≠ '0' := by
  revert d
  decide

-- Only zero is written with a zero in front.
theorem head?_toDigits_ne_zero (hone : 1 < base) (hbase : base ≤ 16) {n : Nat} (hn : n ≠ 0) :
    (Nat.toDigits base n).head? ≠ some '0' := by
  induction n using Nat.strongRecOn with
  | ind n ih =>
    rw [Nat.toDigits_eq_if hone]
    split
    · next hsmall =>
      intro h
      exact digitChar_ne_zero (by omega) hn (Option.some.inj h)
    · next hlarge =>
      have hquotient : n / base ≠ 0 := by
        rw [Ne, Nat.div_eq_zero_iff]
        omega
      have hhead := ih _ (Nat.div_lt_self (by omega) hone) hquotient
      rw [List.head?_append]
      cases hdigits : Nat.toDigits base (n / base) with
      | nil => exact absurd hdigits Nat.toDigits_ne_nil
      | cons c digits =>
        rw [hdigits] at hhead
        exact hhead

theorem ofDigits?_toDigits (hone : 1 < base) (hbase : base ≤ 16) (n : Nat) :
    ofDigits? base (Nat.toDigits base n) = some n := by
  have hall : (Nat.toDigits base n).all (isDigitIn base) :=
    List.all_eq_true.mpr (isDigitIn_of_mem_toDigits hone hbase n)
  rw [ofDigits?, if_pos ⟨Nat.toDigits_ne_nil, hall⟩, valueOf_toDigits hone hbase]

theorem readNumber_toDigits_append (hone : 1 < base) (hbase : base ≤ 16) {n largest : Nat}
    (hn : n ≤ largest) {s : List Char} (hs : EndsDigits base s) :
    readNumber base largest (Nat.toDigits base n ++ s) = some (n, s) := by
  unfold readNumber
  rw [digitRun_toDigits_append hone hbase n hs]
  dsimp only
  rw [valueOf_toDigits hone hbase, if_pos ⟨Nat.toDigits_ne_nil, hn⟩]

theorem ofSigned?_signedDecimal (i : Int) : ofSigned? (signedDecimal i).toList = some i := by
  have hten (n : Nat) : ofDigits? 10 (Nat.toDigits 10 n) = some n :=
    ofDigits?_toDigits (by decide) (by decide) n
  cases i with
  | ofNat n =>
    have hdigit := isDigit_of_mem_toDigits n
    show ofSigned? (decimal n).toList = _
    rw [decimal, String.toList_ofList]
    unfold ofSigned?
    split
    · next hsign => exact absurd (hdigit '+' (by rw [hsign]; exact List.mem_cons_self)) (by decide)
    · next hsign => exact absurd (hdigit '-' (by rw [hsign]; exact List.mem_cons_self)) (by decide)
    · rw [hten]
      rfl
  | negSucc n =>
    show ofSigned? ("-" ++ decimal (n + 1)).toList = _
    rw [String.toList_append, decimal, String.toList_ofList, String.toList_ofList]
    show (ofDigits? 10 (Nat.toDigits 10 (n + 1))).map _ = _
    rw [hten]
    rfl

/-! ## 3. Numerals with words behind them -/

/-- The text does not go on with a digit of any base. -/
def EndsNumeral (s : String) : Prop :=
  ∀ c ∈ s.toList.head?, isDigitIn 16 c = false

theorem EndsNumeral.of_base {s : String} (h : EndsNumeral s) (hbase : base ≤ 16) :
    EndsDigits base s.toList :=
  EndsDigits.of_base h hbase

theorem ofList_toDigits_append_inj (hone : 1 < base) (hbase : base ≤ 16) {n m : Nat} {s t : String}
    (hs : EndsNumeral s) (ht : EndsNumeral t)
    (h : String.ofList (Nat.toDigits base n) ++ s = String.ofList (Nat.toDigits base m) ++ t) :
    n = m ∧ s = t := by
  have hchars := congrArg String.toList h
  rw [String.toList_append, String.toList_append, String.toList_ofList, String.toList_ofList]
    at hchars
  have hruns := congrArg (digitRun base) hchars
  rw [digitRun_toDigits_append hone hbase n (hs.of_base hbase),
    digitRun_toDigits_append hone hbase m (ht.of_base hbase)] at hruns
  obtain ⟨hdigits, hrest⟩ := Prod.mk.inj hruns
  have hvalues := congrArg (valueOf base) hdigits
  rw [valueOf_toDigits hone hbase, valueOf_toDigits hone hbase] at hvalues
  exact ⟨hvalues, String.toList_inj.mp hrest⟩

/-- The number can be told from its written form, and where that ends, in front of any text that does
not go on with a digit. -/
def TellsNumbers (write : Nat → String) : Prop :=
  ∀ n m s t, EndsNumeral s → EndsNumeral t → write n ++ s = write m ++ t → n = m ∧ s = t

theorem tellsNumbers_decimal : TellsNumbers decimal := by
  intro n m s t hs ht h
  exact ofList_toDigits_append_inj (by decide) (by decide) hs ht h

theorem tellsNumbers_hex : TellsNumbers hex := by
  intro n m s t hs ht h
  rw [hex, hex, String.append_assoc, String.append_assoc] at h
  exact ofList_toDigits_append_inj (by decide) (by decide) hs ht ((String.append_right_inj _).mp h)

/-! ## 4. Numbers between words -/

/-- Numbers, each with a word behind it. -/
def phrase (write : Nat → String) : List (Nat × String) → String
  | [] => ""
  | (n, word) :: rest => write n ++ (word ++ phrase write rest)

/-- No word begins with a digit; only the last may be empty. -/
def separates : List String → Bool
  | [] => true
  | [word] => word.toList.head?.all fun c => !isDigitIn 16 c
  | word :: next :: words =>
    (word.toList.head?.any fun c => !isDigitIn 16 c) && separates (next :: words)

variable {write : Nat → String} {word : String} {words : List String}

theorem separates_tail (h : separates (word :: words)) : separates words := by
  cases words with
  | nil => rfl
  | cons next words =>
    simp only [separates, Bool.and_eq_true] at h
    exact h.2

theorem endsNumeral_append_phrase {rest : List (Nat × String)} (hwords : separates (word :: words))
    (hrest : rest.map Prod.snd = words) : EndsNumeral (word ++ phrase write rest) := by
  intro c hc
  cases rest with
  | nil =>
    cases hrest
    rw [phrase, String.append_empty] at hc
    simp only [List.map_nil, separates, Option.all_eq_true] at hwords
    simpa using hwords c hc
  | cons first rest =>
    cases hrest
    simp only [List.map_cons, separates, Bool.and_eq_true, Option.any_eq_true] at hwords
    obtain ⟨⟨d, hd, hdigit⟩, -⟩ := hwords
    rw [String.toList_append, List.head?_append, hd] at hc
    cases hc
    simpa using hdigit

theorem phrase_injective (hwrite : TellsNumbers write) {parts parts' : List (Nat × String)}
    (h : phrase write parts = phrase write parts') (hwords : separates (parts.map Prod.snd))
    (hsame : parts'.map Prod.snd = parts.map Prod.snd) : parts = parts' := by
  induction parts generalizing parts' with
  | nil =>
    cases parts' with
    | nil => rfl
    | cons _ _ => cases hsame
  | cons part rest ih =>
    obtain ⟨n, word⟩ := part
    cases parts' with
    | nil => cases hsame
    | cons part' rest' =>
      obtain ⟨m, word'⟩ := part'
      obtain ⟨rfl, hrest⟩ := List.cons.inj hsame
      obtain ⟨rfl, htail⟩ := hwrite n m _ _ (endsNumeral_append_phrase hwords rfl)
        (endsNumeral_append_phrase hwords hrest) h
      rw [ih ((String.append_right_inj _).mp htail) (separates_tail hwords) hrest]

/-! ## 5. How texts begin -/

-- Of two beginnings of one text the shorter is a beginning of the longer.
theorem eq_of_marks {marks : List String}
    (hmarks : ∀ mark ∈ marks, ∀ mark' ∈ marks, mark.toList <+: mark'.toList → mark = mark')
    {mark mark' s t : String} (hmark : mark ∈ marks) (hmark' : mark' ∈ marks)
    (h : mark ++ s = mark' ++ t) : mark = mark' ∧ s = t := by
  have hchars := congrArg String.toList h
  rw [String.toList_append, String.toList_append] at hchars
  have hsame : mark = mark' := by
    rcases List.prefix_or_prefix_of_prefix ⟨s.toList, hchars⟩ ⟨t.toList, rfl⟩ with hlt | hlt
    · exact hmarks mark hmark mark' hmark' hlt
    · exact (hmarks mark' hmark' mark hmark hlt).symm
  subst hsame
  exact ⟨rfl, (String.append_right_inj mark).mp h⟩

end BufferKeeper.Text
