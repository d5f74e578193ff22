import BufferKeeper.Proofs.WrittenOptions

/-!
# Order and spelling of options

What a row of options for different settings gives depends on the settings and their values alone: the
options can be put in any order and each can be spelled in any way in which it is accepted. A row with two
options for one setting is refused in every order.
-/

namespace BufferKeeper

open CommandLine Text

namespace CommandLine

/-! ## 1. What options say -/

namespace WrittenOption

/-- The setting and the value, without the spelling. -/
def content (option : WrittenOption) : Setting × Argument :=
  (option.setting, option.value)

theorem alone_congr {program : Argument} {option other : WrittenOption} {given : Given}
    (hcontent : other.content = option.content) (hother : other.IsAccepted program)
    (h : option.alone program = .ok given) : other.alone program = .ok given := by
  obtain ⟨hsetting, hvalue⟩ := Prod.mk.inj hcontent
  obtain ⟨given', hgiven'⟩ := hother
  have hrecord := (reads_of_alone h).2
  have hrecord' := (reads_of_alone hgiven').2
  rw [hsetting, hvalue, hrecord] at hrecord'
  cases hrecord'
  exact hgiven'

end WrittenOption

section Rows

variable {program : Argument} {options others : List WrittenOption}

theorem exists_alone_of_perm (hothers : ∀ option ∈ others, option.IsAccepted program)
    (hsame : (others.map WrittenOption.content).Perm (options.map WrittenOption.content))
    {choice : Choice}
    (h : ∃ option ∈ options, ∃ alone, option.alone program = .ok alone ∧ alone.Holds choice) :
    ∃ option ∈ others, ∃ alone, option.alone program = .ok alone ∧ alone.Holds choice := by
  obtain ⟨option, hoption, alone, halone, hholds⟩ := h
  have hmem : option.content ∈ others.map WrittenOption.content :=
    hsame.mem_iff.mpr (List.mem_map_of_mem hoption)
  obtain ⟨other, hother, hcontent⟩ := List.mem_map.mp hmem
  exact ⟨other, hother, alone,
    WrittenOption.alone_congr hcontent (hothers other hother) halone, hholds⟩

theorem perm_settings
    (hsame : (others.map WrittenOption.content).Perm (options.map WrittenOption.content)) :
    (others.map WrittenOption.setting).Perm (options.map WrittenOption.setting) := by
  have hfirst := hsame.map Prod.fst
  rw [List.map_map, List.map_map] at hfirst
  exact hfirst

theorem Gathers.congr {given given' start : Given} (h : Gathers program start options given)
    (h' : Gathers program start others given')
    (haccepted : ∀ option ∈ options, option.IsAccepted program)
    (hothers : ∀ option ∈ others, option.IsAccepted program)
    (hsame : (others.map WrittenOption.content).Perm (options.map WrittenOption.content)) :
    given = given' := by
  apply Given.eq_of_holds_iff
  · intro choice
    rw [h.choices, h'.choices]
    apply or_congr_right
    exact ⟨exists_alone_of_perm hothers hsame, exists_alone_of_perm haccepted hsame.symm⟩
  · rw [h.extras, h'.extras]

end Rows

def lineOf (program : Argument) (options : List WrittenOption) (rest : List Argument) :
    List Argument :=
  program :: (options.flatMap WrittenOption.arguments ++ rest)

end CommandLine

/-! ## 2. The law -/

/-- Options that are accepted alone, and the same options reordered and respelled. When they are for
different settings, both rows give the same with whatever extra arguments behind the separator: each
option what it gives alone, and nothing besides; so both lead to the same settings or the same error.
When a setting occurs twice, the row is refused for such a setting, whatever follows the separator. -/
theorem order_and_spelling_do_not_matter (program : Argument) (options others : List WrittenOption)
    (haccepted : ∀ option ∈ options, option.IsAccepted program)
    (hothers : ∀ option ∈ others, option.IsAccepted program)
    (hsame : (others.map WrittenOption.content).Perm (options.map WrittenOption.content)) :
    ((options.map WrittenOption.setting).Nodup → ∀ extras : List String,
      ∃ given, given.extras = extras ∧
        (∀ choice, given.Holds choice ↔
          ∃ option ∈ options, ∃ alone, option.alone program = .ok alone ∧ alone.Holds choice) ∧
        Given.ofArguments (lineOf program options (Given.separator :: extras.map ofString)) =
          .ok given ∧
        Given.ofArguments (lineOf program others (Given.separator :: extras.map ofString)) =
          .ok given ∧
        ∀ files,
          Settings.load files (lineOf program options (Given.separator :: extras.map ofString)) =
            Settings.load files (lineOf program others (Given.separator :: extras.map ofString))) ∧
      (¬(options.map WrittenOption.setting).Nodup → ∀ rest : List Argument,
        (∀ argument ∈ rest.head?, argument = Given.separator) →
        ∃ setting, 2 ≤ (options.map WrittenOption.setting).count setting ∧
          Given.ofArguments (lineOf program others rest) =
            .error (.refused (.repeated setting))) := by
  have hsettings := perm_settings hsame
  constructor
  · intro hdistinct extras
    obtain ⟨given, hgathers, hscan⟩ := scan_options haccepted hdistinct
      (fun option _ => Given.not_has_nothing option.setting)
    obtain ⟨given', hgathers', hscan'⟩ := scan_options hothers (hsettings.nodup_iff.mpr hdistinct)
      (fun option _ => Given.not_has_nothing option.setting)
    have hgiven := hgathers.congr hgathers' haccepted hothers hsame
    subst hgiven
    have hline : Given.ofArguments (lineOf program options (Given.separator :: extras.map ofString)) =
        .ok { given with extras } := (hscan _).trans (Given.scan_separator given extras)
    have hline' : Given.ofArguments (lineOf program others (Given.separator :: extras.map ofString)) =
        .ok { given with extras } := (hscan' _).trans (Given.scan_separator given extras)
    refine ⟨{ given with extras }, rfl, ?_, hline, hline', ?_⟩
    · intro choice
      have hholds : ({ given with extras } : Given).Holds choice ↔ given.Holds choice := by
        cases choice <;> exact Iff.rfl
      rw [hholds, hgathers.choices, or_iff_right (Given.not_holds_nothing choice)]
    · intro files
      unfold Settings.load
      rw [hline, hline']
  · intro hrepeated rest hrest
    have hchecks : ∀ argument ∈ rest.head?, Given.Checks argument := by
      intro argument hargument
      rw [hrest argument hargument]
      exact Given.checks_separator
    have hrepeated' : ¬((others.map WrittenOption.setting).Nodup ∧
        ∀ option ∈ others, Given.nothing.has option.setting = false) := by
      rintro ⟨hdistinct, -⟩
      exact hrepeated (hsettings.nodup_iff.mp hdistinct)
    obtain ⟨setting, -, hgiven | htwice, hscan⟩ := scan_options_repeated hothers hrepeated' hchecks
    · rw [Given.not_has_nothing] at hgiven
      cases hgiven
    · rw [hsettings.count_eq] at htwice
      exact ⟨setting, htwice, hscan⟩

-- The value `-v` looks like an option, and `-h` behind the separator like a request.
theorem listen_and_mode_in_both_orders :
    let program := ofString "keeper"
    let listen : WrittenOption := ⟨.listen, ofString "-v", _, .long⟩
    let mode : WrittenOption := ⟨.mode, ofString "vulnerable", _, .attached⟩
    let listen' : WrittenOption := ⟨.listen, ofString "-v", _, .short (c := 'l') rfl⟩
    let mode' : WrittenOption := ⟨.mode, ofString "vulnerable", _, .long⟩
    let other : WrittenOption := ⟨.listen, ofString "0.0.0.0:1", _, .attached⟩
    (∃ given,
        Given.ofArguments (["keeper", "--listen", "-v", "--mode=vulnerable", "--", "-h"].map ofString) =
          .ok given ∧
        Given.ofArguments (["keeper", "--mode", "vulnerable", "-l", "-v", "--", "-h"].map ofString) =
          .ok given ∧
        given.extras = ["-h"] ∧ given.Holds (.listen "-v") ∧ given.Holds (.mode .vulnerable)) ∧
      (∀ option ∈ [listen, mode, listen', mode', other], option.IsAccepted program) ∧
      ∃ setting, Given.ofArguments (["keeper", "--listen=0.0.0.0:1", "-l", "-v"].map ofString) =
        .error (.refused (.repeated setting)) := by
  intro program listen mode listen' mode' other
  have haccepted : ∀ option ∈ [listen, mode, listen', mode', other], option.IsAccepted program := by
    simp only [List.forall_mem_cons]
    exact ⟨⟨_, rfl⟩, ⟨_, rfl⟩, ⟨_, rfl⟩, ⟨_, rfl⟩, ⟨_, rfl⟩, nofun⟩
  have hrow {row : List WrittenOption} (h : row ⊆ [listen, mode, listen', mode', other]) :
      ∀ option ∈ row, option.IsAccepted program := fun option hoption => haccepted option (h hoption)
  obtain ⟨hgiven, -⟩ := order_and_spelling_do_not_matter program [listen, mode] [mode', listen']
    (hrow (by simp)) (hrow (by simp)) (.swap _ _ _)
  obtain ⟨-, hrefused⟩ := order_and_spelling_do_not_matter program [listen', other] [other, listen']
    (hrow (by simp)) (hrow (by simp)) (.swap _ _ _)
  obtain ⟨given, hextras, hholds, hline, hline', -⟩ := hgiven (by decide) ["-h"]
  refine ⟨⟨given, hline, hline', hextras, ?_, ?_⟩, haccepted, ?_⟩
  · exact (hholds _).mpr ⟨listen, by simp, _, rfl, rfl⟩
  · exact (hholds _).mpr ⟨mode, by simp, _, rfl, rfl⟩
  · obtain ⟨setting, -, hscan⟩ := hrefused (by decide) [] nofun
    exact ⟨setting, hscan⟩

end BufferKeeper
