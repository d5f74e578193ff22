import BufferKeeper.Settings.Resolve

/-!
# Options as they are written

A setting with its value takes one argument or two, and there are several ways to write the same. An
option that is accepted when it stands alone is taken whole wherever it stands, up to the last of its
arguments and no further (`Reads.scan_append`). So a row of options for different settings gives what
they give alone (`scan_options`), and one that gives a setting twice is refused for that
(`scan_options_repeated`).
-/

namespace BufferKeeper.CommandLine

open Text

/-! ## 1. Choices -/

/-- A setting with a value that is right for it. -/
inductive Choice where
  | config (path : Argument)
  | listen (text : String)
  | backlog (n : Int32)
  | mode (policy : Policy)
  | logLevel (text : String)

namespace Choice

def setting : Choice → Setting
  | .config _ => .config
  | .listen _ => .listen
  | .backlog _ => .backlog
  | .mode _ => .mode
  | .logLevel _ => .logLevel

def read (setting : Setting) (value : Argument) : Except Stop Choice :=
  match setting with
  | .config => if value = [] then .error (.refused (.invalidValue .config)) else .ok (.config value)
  | .listen => (Given.textValue value).map .listen
  | .backlog => (Given.backlogValue value).map .backlog
  | .mode => (Given.modeValue value).map .mode
  | .logLevel => (Given.textValue value).map .logLevel

theorem setting_of_read {setting : Setting} {value : Argument} {choice : Choice}
    (h : read setting value = .ok choice) : choice.setting = setting := by
  have hmap {α : Type} {result : Except Stop α} {make : α → Choice} {s : Setting}
      (hmake : ∀ x, (make x).setting = s) (h : result.map make = .ok choice) : choice.setting = s := by
    cases result with
    | error stop => cases h
    | ok x =>
      cases h
      exact hmake x
  cases setting with
  | config =>
    simp only [read] at h
    split at h
    · cases h
    · cases h
      rfl
  | listen => exact hmap (fun _ => rfl) h
  | backlog => exact hmap (fun _ => rfl) h
  | mode => exact hmap (fun _ => rfl) h
  | logLevel => exact hmap (fun _ => rfl) h

end Choice

namespace Given

def put (given : Given) : Choice → Given
  | .config path => { given with config := some path }
  | .listen text => { given with preferences := { given.preferences with listen := some text } }
  | .backlog n => { given with preferences := { given.preferences with backlog := some n } }
  | .mode policy => { given with preferences := { given.preferences with policy := some policy } }
  | .logLevel text => { given with preferences := { given.preferences with level := some text } }

def Holds (given : Given) : Choice → Prop
  | .config path => given.config = some path
  | .listen text => given.preferences.listen = some text
  | .backlog n => given.preferences.backlog = some n
  | .mode policy => given.preferences.policy = some policy
  | .logLevel text => given.preferences.level = some text

variable {given given' : Given} {setting : Setting} {value : Argument} {choice : Choice}

theorem assign_eq (given : Given) (setting : Setting) (value : Argument) :
    given.assign setting value = (Choice.read setting value).map given.put := by
  cases setting with
  | config =>
    unfold assign Choice.read
    dsimp only
    split <;> rfl
  | listen => cases h : textValue value <;> simp only [assign, Choice.read, h] <;> rfl
  | backlog => cases h : backlogValue value <;> simp only [assign, Choice.read, h] <;> rfl
  | mode => cases h : modeValue value <;> simp only [assign, Choice.read, h] <;> rfl
  | logLevel => cases h : textValue value <;> simp only [assign, Choice.read, h] <;> rfl

theorem extras_put (given : Given) (choice : Choice) : (given.put choice).extras = given.extras := by
  cases choice <;> rfl

theorem holds_put_iff {other : Choice} :
    (given.put choice).Holds other ↔
      other = choice ∨ (other.setting ≠ choice.setting ∧ given.Holds other) := by
  cases choice <;> cases other <;> simp [put, Holds, Choice.setting, eq_comm]

theorem has_iff : given.has setting ↔ ∃ choice, choice.setting = setting ∧ given.Holds choice := by
  constructor
  · intro h
    cases setting with
    | config => exact (Option.isSome_iff_exists.mp h).elim fun x hx => ⟨.config x, rfl, hx⟩
    | listen => exact (Option.isSome_iff_exists.mp h).elim fun x hx => ⟨.listen x, rfl, hx⟩
    | backlog => exact (Option.isSome_iff_exists.mp h).elim fun x hx => ⟨.backlog x, rfl, hx⟩
    | mode => exact (Option.isSome_iff_exists.mp h).elim fun x hx => ⟨.mode x, rfl, hx⟩
    | logLevel => exact (Option.isSome_iff_exists.mp h).elim fun x hx => ⟨.logLevel x, rfl, hx⟩
  · rintro ⟨choice, rfl, h⟩
    cases choice <;> exact Option.isSome_iff_exists.mpr ⟨_, h⟩

theorem has_put_iff : (given.put choice).has setting ↔ setting = choice.setting ∨ given.has setting := by
  cases choice <;> cases setting <;> simp [put, has, Choice.setting]

theorem holds_put_of_not_has (h : given.has choice.setting = false) (other : Choice) :
    (given.put choice).Holds other ↔ other = choice ∨ given.Holds other := by
  rw [holds_put_iff]
  constructor
  · exact Or.imp_right And.right
  · intro hother
    refine hother.imp_right fun hholds => ⟨?_, hholds⟩
    intro hsetting
    have hhas : given.has choice.setting := has_iff.mpr ⟨other, hsetting, hholds⟩
    rw [h] at hhas
    cases hhas

theorem not_holds_nothing (choice : Choice) : ¬nothing.Holds choice := by
  cases choice <;> exact nofun

theorem not_has_nothing (setting : Setting) : nothing.has setting = false := by
  cases setting <;> rfl

-- Two givens differ in a choice or in the extra arguments.
theorem eq_of_holds_iff (h : ∀ choice, given.Holds choice ↔ given'.Holds choice)
    (hextras : given.extras = given'.extras) : given = given' := by
  obtain ⟨config, ⟨listen, backlog, policy, level⟩, extras⟩ := given
  obtain ⟨config', ⟨listen', backlog', policy', level'⟩, extras'⟩ := given'
  have hconfig : config = config' := Option.ext fun x => h (.config x)
  have hlisten : listen = listen' := Option.ext fun x => h (.listen x)
  have hbacklog : backlog = backlog' := Option.ext fun x => h (.backlog x)
  have hpolicy : policy = policy' := Option.ext fun x => h (.mode x)
  have hlevel : level = level' := Option.ext fun x => h (.logLevel x)
  have hextras' : extras = extras' := hextras
  rw [hconfig, hlisten, hbacklog, hpolicy, hlevel, hextras']

theorem record_of_has (h : given.has setting) (value : Argument) :
    given.record setting value = .error (.refused (.repeated setting)) := by
  rw [record, if_pos h]

theorem record_of_not_has (h : given.has setting = false) (hread : Choice.read setting value = .ok choice) :
    given.record setting value = .ok (given.put choice) := by
  have hnot : ¬given.has setting := by
    rw [h]
    exact Bool.false_ne_true
  rw [record, if_neg hnot, assign_eq, hread]
  rfl

theorem read_of_record (h : given.record setting value = .ok given') :
    ∃ choice, Choice.read setting value = .ok choice ∧ given' = given.put choice := by
  unfold record at h
  split at h
  · cases h
  · rw [assign_eq] at h
    cases hread : Choice.read setting value with
    | error stop =>
      rw [hread] at h
      cases h
    | ok choice =>
      rw [hread] at h
      cases h
      exact ⟨choice, rfl, rfl⟩

/-! ## 2. Scanning one option -/

-- An argument that ends the scan at once would be seen before a value that is still unchecked.
theorem scan_holding (h : given.record setting value = .ok given') (arguments : List Argument) :
    scan given (.holding setting value) arguments = scan given' .nothing arguments := by
  have hsettle : given.settle (.holding setting value) = .ok given' := h
  cases arguments with
  | nil => exact h
  | cons argument rest =>
    unfold scan
    cases Token.ofArgument argument with
    | setting setting attached =>
      cases attached <;> simp only [hsettle] <;> rfl
    | plain =>
      show (given.settle _ >>= fun given => given.withExtras _) = _
      rw [hsettle]
      rfl
    | _ => simp only [hsettle] <;> rfl

/-- The argument does not end a scan before values are checked. -/
def Checks (argument : Argument) : Prop :=
  Token.ofArgument argument ≠ .unreadable ∧ Token.ofArgument argument ≠ .overfull

theorem scan_holding_error {stop : Stop} (h : given.record setting value = .error stop)
    {arguments : List Argument} (hchecks : ∀ argument ∈ arguments.head?, Checks argument) :
    scan given (.holding setting value) arguments = .error stop := by
  have hsettle : given.settle (.holding setting value) = .error stop := h
  cases arguments with
  | nil => exact h
  | cons argument rest =>
    obtain ⟨hreadable, hfull⟩ := hchecks argument rfl
    unfold scan
    cases htoken : Token.ofArgument argument with
    | unreadable => exact absurd htoken hreadable
    | overfull => exact absurd htoken hfull
    | setting setting attached =>
      cases attached <;> simp only [hsettle] <;> rfl
    | plain =>
      show (given.settle _ >>= fun given => given.withExtras _) = _
      rw [hsettle]
      rfl
    | _ =>
      simp only [hsettle]
      rfl

theorem scan_attached {argument : Argument} (h : Token.ofArgument argument = .setting setting (some value))
    (given : Given) (rest : List Argument) :
    scan given .nothing (argument :: rest) =
      (given.record setting value >>= fun given => scan given .nothing rest) := by
  rw [scan.eq_def]
  simp only [h]
  rfl

theorem scan_named {argument : Argument} (h : Token.ofArgument argument = .setting setting none)
    (given : Given) (rest : List Argument) :
    scan given .nothing (argument :: rest) = scan given (.awaiting setting) rest := by
  rw [scan.eq_def]
  simp only [h]
  rfl

theorem scan_awaiting (hvalue : Token.ofArgument value = .plain) (given : Given)
    (rest : List Argument) :
    scan given (.awaiting setting) (value :: rest) = scan given (.holding setting value) rest := by
  rw [scan.eq_def]
  simp only [hvalue]

-- A setting that waits for its value takes a plain argument and nothing else.
theorem scan_awaiting_eq_ok (h : scan given (.awaiting setting) [value] = .ok given') :
    Token.ofArgument value = .plain ∧ given.record setting value = .ok given' := by
  unfold scan at h
  cases htoken : Token.ofArgument value with
  | plain =>
    rw [htoken] at h
    exact ⟨rfl, h⟩
  | setting setting attached =>
    rw [htoken] at h
    cases attached <;> cases h
  | _ =>
    rw [htoken] at h
    cases h

end Given

/-! ## 3. Ways to write an option -/

/-- The arguments are one of the written forms of a setting with its value. -/
inductive Spells (setting : Setting) (value : Argument) : List Argument → Prop where
  /-- `--name value` -/
  | long : Spells setting value [ofString ("--" ++ setting.name), value]
  /-- `--name=value` -/
  | attached : Spells setting value [ofString ("--" ++ setting.name ++ "=") ++ value]
  /-- `-l value` -/
  | short {c : Char} (letter : Setting.ofLetter? c = some setting) :
      Spells setting value [[.char '-', .char c], value]
  /-- `-lc`, where the value is made of known letters -/
  | joined {c : Char} (letter : Setting.ofLetter? c = some setting) (nonempty : value ≠ [])
      (known : value.all isKnownLetter) : Spells setting value [.char '-' :: .char c :: value]

theorem ofArgument_long (setting : Setting) :
    Token.ofArgument (ofString ("--" ++ setting.name)) = .setting setting none := by
  cases setting <;> decide

theorem ofArgument_attached (setting : Setting) (value : Argument) :
    Token.ofArgument (ofString ("--" ++ setting.name ++ "=") ++ value) =
      .setting setting (some value) := by
  cases setting <;> rfl

theorem ofArgument_short {setting : Setting} {c : Char} (h : Setting.ofLetter? c = some setting) :
    Token.ofArgument [.char '-', .char c] = .setting setting none := by
  unfold Setting.ofLetter? at h
  split at h
  · next hc =>
    cases h
    rw [hc]
    decide
  · split at h
    · next hc =>
      cases h
      rw [hc]
      decide
    · cases h

theorem ofArgument_joined {setting : Setting} {value : Argument} {c : Char}
    (h : Setting.ofLetter? c = some setting) (hvalue : value ≠ []) (hknown : value.all isKnownLetter) :
    Token.ofArgument (.char '-' :: .char c :: value) = .setting setting (some value) := by
  have hhyphen : c ≠ '-' := by
    rintro rfl
    cases h
  have hshort : Token.ofArgument (.char '-' :: .char c :: value) = ofShort (.char c :: value) := by
    simp [Token.ofArgument, hhyphen]
  have hall : (Glyph.char c :: value).all isKnownLetter := by
    simp [isKnownLetter, h, hknown]
  rw [hshort, ofShort, if_pos hall, h]
  simp only [if_neg hvalue]

/-- The arguments are one option for a scan, whatever the value is worth. -/
inductive Reads (setting : Setting) (value : Argument) : List Argument → Prop where
  | attached {argument : Argument} (h : Token.ofArgument argument = .setting setting (some value)) :
      Reads setting value [argument]
  | following {argument : Argument} (h : Token.ofArgument argument = .setting setting none)
      (hvalue : Token.ofArgument value = .plain) : Reads setting value [argument, value]

namespace Reads

variable {given given' : Given} {setting : Setting} {value : Argument} {arguments : List Argument}

theorem scan_append (hreads : Reads setting value arguments)
    (h : given.record setting value = .ok given') (rest : List Argument) :
    given.scan .nothing (arguments ++ rest) = given'.scan .nothing rest := by
  cases hreads with
  | attached hargument =>
    show given.scan .nothing (_ :: rest) = _
    rw [Given.scan_attached hargument, h]
    rfl
  | following hargument hvalue =>
    show given.scan .nothing (_ :: value :: rest) = _
    rw [Given.scan_named hargument, Given.scan_awaiting hvalue, Given.scan_holding h]

theorem scan_append_repeated (hreads : Reads setting value arguments) (h : given.has setting)
    {rest : List Argument} (hrest : ∀ argument ∈ rest.head?, Given.Checks argument) :
    given.scan .nothing (arguments ++ rest) = .error (.refused (.repeated setting)) := by
  have hrecord := Given.record_of_has h value
  cases hreads with
  | attached hargument =>
    show given.scan .nothing (_ :: rest) = _
    rw [Given.scan_attached hargument, hrecord]
    rfl
  | following hargument hvalue =>
    show given.scan .nothing (_ :: value :: rest) = _
    rw [Given.scan_named hargument, Given.scan_awaiting hvalue,
      Given.scan_holding_error hrecord hrest]

theorem checks_head (h : Reads setting value arguments) :
    ∃ argument rest, arguments = argument :: rest ∧ Given.Checks argument := by
  cases h with
  | attached hargument =>
    refine ⟨_, _, rfl, ?_, ?_⟩
    · rw [hargument]
      exact nofun
    · rw [hargument]
      exact nofun
  | following hargument hvalue =>
    refine ⟨_, _, rfl, ?_, ?_⟩
    · rw [hargument]
      exact nofun
    · rw [hargument]
      exact nofun

end Reads

/-! ## 4. Rows of options -/

structure WrittenOption where
  setting : Setting
  value : Argument
  arguments : List Argument
  spells : Spells setting value arguments

namespace WrittenOption

/-- What is given when the option is all that follows the program's path. -/
def alone (program : Argument) (option : WrittenOption) : Except Stop Given :=
  Given.ofArguments (program :: option.arguments)

def IsAccepted (program : Argument) (option : WrittenOption) : Prop :=
  ∃ given, option.alone program = .ok given

variable {program : Argument} {option : WrittenOption} {given : Given}

theorem reads_of_alone (h : option.alone program = .ok given) :
    Reads option.setting option.value option.arguments ∧
      Given.nothing.record option.setting option.value = .ok given := by
  obtain ⟨setting, value, arguments, spells⟩ := option
  have hscan : Given.nothing.scan .nothing arguments = .ok given := h
  have hattached {argument : Argument}
      (hargument : Token.ofArgument argument = .setting setting (some value))
      (hscan : Given.nothing.scan .nothing [argument] = .ok given) :
      Reads setting value [argument] ∧ Given.nothing.record setting value = .ok given := by
    rw [Given.scan_attached hargument] at hscan
    refine ⟨.attached hargument, ?_⟩
    cases hrecord : Given.nothing.record setting value with
    | error stop =>
      rw [hrecord] at hscan
      cases hscan
    | ok given' =>
      rw [hrecord] at hscan
      exact hscan
  have hfollowing {argument : Argument} (hargument : Token.ofArgument argument = .setting setting none)
      (hscan : Given.nothing.scan .nothing [argument, value] = .ok given) :
      Reads setting value [argument, value] ∧ Given.nothing.record setting value = .ok given := by
    rw [Given.scan_named hargument] at hscan
    obtain ⟨hvalue, hrecord⟩ := Given.scan_awaiting_eq_ok hscan
    exact ⟨.following hargument hvalue, hrecord⟩
  cases spells with
  | long => exact hfollowing (ofArgument_long setting) hscan
  | attached => exact hattached (ofArgument_attached setting value) hscan
  | short letter => exact hfollowing (ofArgument_short letter) hscan
  | joined letter nonempty known => exact hattached (ofArgument_joined letter nonempty known) hscan

end WrittenOption

/-- What `given'` adds to `given` is what the options give alone. -/
structure Gathers (program : Argument) (given : Given) (options : List WrittenOption) (given' : Given) :
    Prop where
  extras : given'.extras = given.extras
  choices : ∀ choice, given'.Holds choice ↔
    given.Holds choice ∨
      ∃ option ∈ options, ∃ alone, option.alone program = .ok alone ∧ alone.Holds choice

section Rows

variable {program : Argument} {given : Given} {options : List WrittenOption}

-- On the options, with what is given before them left open: each adds the choice that it gives alone.
theorem scan_options (haccepted : ∀ option ∈ options, option.IsAccepted program)
    (hdistinct : (options.map WrittenOption.setting).Nodup)
    (hfresh : ∀ option ∈ options, given.has option.setting = false) :
    ∃ given', Gathers program given options given' ∧ ∀ rest,
      given.scan .nothing (options.flatMap WrittenOption.arguments ++ rest) =
        given'.scan .nothing rest := by
  induction options generalizing given with
  | nil => exact ⟨given, ⟨rfl, fun choice => by simp⟩, fun rest => rfl⟩
  | cons option options ih =>
    rw [List.forall_mem_cons] at haccepted hfresh
    rw [List.map_cons, List.nodup_cons] at hdistinct
    obtain ⟨⟨alone, halone⟩, haccepted⟩ := haccepted
    obtain ⟨hreads, halone'⟩ := WrittenOption.reads_of_alone halone
    obtain ⟨choice, hchoice, rfl⟩ := Given.read_of_record halone'
    have hsetting := Choice.setting_of_read hchoice
    have hrest : ∀ other ∈ options, (given.put choice).has other.setting = false := by
      intro other hother
      rw [Bool.eq_false_iff, Ne, Given.has_put_iff, hsetting, not_or]
      refine ⟨?_, Bool.eq_false_iff.mp (hfresh.2 other hother)⟩
      intro hsame
      exact hdistinct.1 (List.mem_map.mpr ⟨other, hother, hsame⟩)
    obtain ⟨given', hgathers, hscan⟩ := ih haccepted hdistinct.2 hrest
    refine ⟨given', ⟨?_, ?_⟩, ?_⟩
    · rw [hgathers.extras, Given.extras_put]
    · intro other
      have hfirst : (∃ first, option.alone program = .ok first ∧ first.Holds other) ↔
          other = choice := by
        rw [halone]
        simp [Given.holds_put_iff, Given.not_holds_nothing]
      rw [hgathers.choices, Given.holds_put_of_not_has (by rw [hsetting]; exact hfresh.1)]
      simp only [List.mem_cons, or_and_right, exists_or, exists_eq_left, hfirst]
      rw [or_assoc, or_left_comm]
    · intro rest
      rw [List.flatMap_cons, List.append_assoc,
        hreads.scan_append (Given.record_of_not_has hfresh.1 hchoice), hscan]

theorem checks_head_row (haccepted : ∀ option ∈ options, option.IsAccepted program)
    {rest : List Argument} (hrest : ∀ argument ∈ rest.head?, Given.Checks argument) :
    ∀ argument ∈ (options.flatMap WrittenOption.arguments ++ rest).head?, Given.Checks argument := by
  cases options with
  | nil => exact hrest
  | cons option options =>
    obtain ⟨alone, halone⟩ := haccepted option List.mem_cons_self
    obtain ⟨first, others, harguments, hchecks⟩ := (WrittenOption.reads_of_alone halone).1.checks_head
    intro argument hargument
    rw [List.flatMap_cons, harguments] at hargument
    cases hargument
    exact hchecks

-- Either the first option is given already, or the fault lies among the others.
theorem scan_options_repeated (haccepted : ∀ option ∈ options, option.IsAccepted program)
    (hrepeated : ¬((options.map WrittenOption.setting).Nodup ∧
      ∀ option ∈ options, given.has option.setting = false))
    {rest : List Argument} (hrest : ∀ argument ∈ rest.head?, Given.Checks argument) :
    ∃ setting ∈ options.map WrittenOption.setting,
      (given.has setting ∨ 2 ≤ (options.map WrittenOption.setting).count setting) ∧
        given.scan .nothing (options.flatMap WrittenOption.arguments ++ rest) =
          .error (.refused (.repeated setting)) := by
  induction options generalizing given with
  | nil => exact absurd ⟨List.nodup_nil, by simp⟩ hrepeated
  | cons option options ih =>
    rw [List.forall_mem_cons] at haccepted
    obtain ⟨⟨alone, halone⟩, haccepted⟩ := haccepted
    obtain ⟨hreads, halone'⟩ := WrittenOption.reads_of_alone halone
    obtain ⟨choice, hchoice, rfl⟩ := Given.read_of_record halone'
    have hsetting := Choice.setting_of_read hchoice
    rw [List.flatMap_cons, List.append_assoc, List.map_cons]
    cases hhas : given.has option.setting with
    | true =>
      exact ⟨option.setting, List.mem_cons_self, .inl hhas,
        hreads.scan_append_repeated hhas (checks_head_row haccepted hrest)⟩
    | false =>
      have hrepeated' : ¬((options.map WrittenOption.setting).Nodup ∧
          ∀ other ∈ options, (given.put choice).has other.setting = false) := by
        rintro ⟨hdistinct, hfresh⟩
        simp only [Bool.eq_false_iff, Ne, Given.has_put_iff, hsetting, not_or] at hfresh
        apply hrepeated
        rw [List.map_cons, List.nodup_cons, List.forall_mem_cons]
        refine ⟨⟨?_, hdistinct⟩, hhas, fun other hother => Bool.eq_false_iff.mpr (hfresh other hother).2⟩
        rintro hmem
        obtain ⟨other, hother, hsame⟩ := List.mem_map.mp hmem
        exact (hfresh other hother).1 hsame
      obtain ⟨setting, hmem, hagain, hscan⟩ := ih haccepted hrepeated'
      refine ⟨setting, List.mem_cons_of_mem _ hmem, ?_, ?_⟩
      · rw [Given.has_put_iff, hsetting] at hagain
        rw [List.count_cons]
        rcases hagain with (rfl | hgiven) | htwice
        · have honce := List.count_pos_iff.mpr hmem
          rw [if_pos (beq_self_eq_true _)]
          exact .inr (by omega)
        · exact .inl hgiven
        · exact .inr (by omega)
      · rw [hreads.scan_append (Given.record_of_not_has hhas hchoice), hscan]

end Rows

/-! ## 5. Extra arguments -/

namespace Given

/-- The argument that makes all others extra. -/
def separator : Argument :=
  ofString "--"

theorem ofArgument_separator : Token.ofArgument separator = .separator := by
  decide

theorem checks_separator : Checks separator := by
  unfold Checks
  rw [ofArgument_separator]
  exact ⟨nofun, nofun⟩

theorem withExtras_ofString (given : Given) (extras : List String) :
    given.withExtras (extras.map ofString) = .ok { given with extras } := by
  have htexts : (extras.map ofString).mapM textValue = .ok extras := by
    induction extras with
    | nil => rfl
    | cons extra extras ih =>
      rw [List.map_cons, List.mapM_cons, ih, textValue, text?_ofString]
      rfl
  unfold withExtras
  rw [htexts]
  rfl

theorem scan_separator (given : Given) (extras : List String) :
    given.scan .nothing (separator :: extras.map ofString) = .ok { given with extras } := by
  rw [scan.eq_def]
  simp only [ofArgument_separator]
  exact withExtras_ofString given extras

end Given

end BufferKeeper.CommandLine
