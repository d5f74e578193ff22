import BufferKeeper.Proofs.Precedence
import BufferKeeper.Proofs.WrittenOptions

/-!
# Where extra arguments begin

A command line that is taken whole as options stays what it is when more arguments follow, since a scan
looks ahead only for the value of its last option (`scan_append_of_ok`). The separator behind it, or an
argument that cannot be mistaken for an option, makes all the rest extra, whatever it looks like; and
extra arguments change nothing but whether log lines are wanted.
-/

namespace BufferKeeper

open Address CommandLine Text

/-! ## 1. Options and what follows them -/

namespace CommandLine

theorem eq_separator_of_ofArgument {argument : Argument}
    (h : Token.ofArgument argument = .separator) : argument = Given.separator := by
  have hlong (body : List Glyph) : ofLong body ≠ .separator := by
    unfold ofLong
    dsimp only
    split
    · exact nofun
    · split <;> exact nofun
  have hshort (body : List Glyph) : ofShort body ≠ .separator := by
    unfold ofShort
    split
    · split
      · split <;> exact nofun
      · exact nofun
    · exact nofun
  unfold Token.ofArgument at h
  split at h
  · split at h
    · next hbody =>
      rw [hbody]
      rfl
    · exact absurd h (hlong _)
  · exact absurd h (hshort _)
  · cases h

theorem ofArgument_plain {argument : Argument} (h : argument.head? ≠ some (.char '-')) :
    Token.ofArgument argument = .plain := by
  unfold Token.ofArgument
  split
  · exact absurd rfl h
  · exact absurd rfl h
  · rfl

namespace Given

theorem extras_ne_nil_of_withExtras {given given' : Given} {argument : Argument}
    {arguments : List Argument} (h : given.withExtras (argument :: arguments) = .ok given') :
    given'.extras ≠ [] := by
  unfold withExtras at h
  rw [List.mapM_cons] at h
  cases hfirst : textValue argument with
  | error stop =>
    rw [hfirst] at h
    cases h
  | ok first =>
    cases hothers : arguments.mapM textValue with
    | error stop =>
      rw [hfirst, hothers] at h
      cases h
    | ok others =>
      rw [hfirst, hothers] at h
      cases h
      exact List.cons_ne_nil first others

-- One step of an accepted scan: either it goes on in the same way whatever follows, or what follows is
-- extra.
theorem scan_cons_of_ok {given given' : Given} {pending : Pending} {argument : Argument}
    {arguments : List Argument} (h : given.scan pending (argument :: arguments) = .ok given') :
    (∃ next : Given, ∃ pending', ∀ rest,
        given.scan pending (argument :: rest) = next.scan pending' rest) ∨
      argument = separator ∨ given'.extras ≠ [] := by
  have hscan (rest : List Argument) : given.scan pending (argument :: rest) = _ := scan.eq_def ..
  dsimp only at hscan
  rw [hscan] at h
  cases htoken : Token.ofArgument argument with
  | unreadable | overfull =>
    rw [htoken] at h
    cases h
  | separator => exact .inr (.inl (eq_separator_of_ofArgument htoken))
  | request request isLong =>
    cases hsettle : given.settle pending <;> simp only [htoken, hsettle] at h <;> cases h
  | setting setting attached =>
    cases hsettle : given.settle pending with
    | error stop => cases attached <;> simp only [htoken, hsettle] at h <;> cases h
    | ok settled =>
      cases attached with
      | none =>
        simp only [htoken, hsettle] at hscan
        exact .inl ⟨settled, .awaiting setting, hscan⟩
      | some value =>
        simp only [htoken, hsettle] at h hscan
        cases hrecord : settled.record setting value with
        | error stop =>
          have hstopped : (settled.record setting value >>= fun given =>
            given.scan .nothing arguments) = .ok given' := h
          rw [hrecord] at hstopped
          cases hstopped
        | ok recorded =>
          refine .inl ⟨recorded, .nothing, fun rest => (hscan rest).trans ?_⟩
          show (settled.record setting value >>= fun given => given.scan .nothing rest) = _
          rw [hrecord]
          rfl
  | plain =>
    by_cases hawaiting : ∃ setting, pending = .awaiting setting
    · obtain ⟨setting, rfl⟩ := hawaiting
      simp only [htoken] at hscan
      exact .inl ⟨given, .holding setting argument, hscan⟩
    · have hextra : (given.settle pending >>= fun given =>
          given.withExtras (argument :: arguments)) = .ok given' := by
        rw [htoken] at h
        cases pending with
        | awaiting setting => exact absurd ⟨setting, rfl⟩ hawaiting
        | nothing => exact h
        | holding setting value => exact h
      cases hsettle : given.settle pending with
      | error stop =>
        rw [hsettle] at hextra
        cases hextra
      | ok settled =>
        rw [hsettle] at hextra
        exact .inr (.inr (extras_ne_nil_of_withExtras hextra))

-- On the options, with what is given and what is pending left open: none of them is extra.
theorem scan_append_of_ok {given given' : Given} {pending : Pending} {options : List Argument}
    (h : given.scan pending options = .ok given') (hextras : given'.extras = [])
    (hseparator : separator ∉ options) (rest : List Argument) :
    given.scan pending (options ++ rest) = given'.scan .nothing rest := by
  induction options generalizing given pending with
  | nil =>
    cases pending with
    | nothing =>
      cases h
      rfl
    | awaiting setting => cases h
    | holding setting value => exact scan_holding h rest
  | cons argument options ih =>
    rw [List.mem_cons, not_or] at hseparator
    obtain ⟨next, pending', hscan⟩ | hsame | hextra := scan_cons_of_ok h
    · rw [hscan] at h
      rw [List.cons_append, hscan]
      exact ih h hseparator.2
    · exact absurd hsame.symm hseparator.1
    · exact absurd hextras hextra

end Given

end CommandLine

/-! ## 2. What extra arguments change -/

namespace Settings

variable {files : FileSystem} {arguments : List Argument} {settings : Settings}

theorem resolve_of_resolve {given : Given} (h : resolve files given = .ok settings)
    (extras : List String) :
    resolve files { given with extras } = .ok { settings with extras } := by
  have hfile : ConfigFile.loadGiven files { given with extras } = ConfigFile.loadGiven files given :=
    rfl
  cases hload : ConfigFile.loadGiven files given with
  | error error =>
    unfold resolve at h
    rw [hload] at h
    cases h
  | ok file =>
    rw [resolve_of_loadGiven hload] at h
    rw [resolve_of_loadGiven (hfile.trans hload)]
    dsimp only at h ⊢
    split at h
    · cases h
    · cases h
      rfl

theorem given_of_load (h : load files arguments = .ok settings) :
    ∃ given, Given.ofArguments arguments = .ok given ∧ resolve files given = .ok settings := by
  unfold load at h
  split at h
  · cases h
  · next given hgiven =>
    split at h
    · cases h
    · next hresolve =>
      cases h
      exact ⟨given, hgiven, hresolve⟩

theorem load_of_given {given : Given} (hgiven : Given.ofArguments arguments = .ok given)
    (h : resolve files given = .ok settings) : load files arguments = .ok settings := by
  unfold load
  rw [hgiven]
  dsimp only
  rw [h]

end Settings

/-! ## 3. The law -/

/-- A command line that leads to settings and whose arguments are all options, with neither an extra
argument nor the separator among them. Whatever arguments then follow the separator, even such as look
like options, requests or the separator, they are the extra arguments, and all other settings stay what
they are. The separator can be left out when the first of them does not begin with a hyphen. Log lines are
wanted exactly when there is one extra argument. -/
theorem first_extra_ends_options (files : FileSystem) (program : Argument) (options : List Argument)
    (settings : Settings) (hsettings : Settings.load files (program :: options) = .ok settings)
    (hextras : settings.extras = []) (hseparator : Given.separator ∉ options)
    (extras : List String) :
    let result : Settings := { settings with extras }
    Settings.load files (program :: (options ++ Given.separator :: extras.map ofString)) =
        .ok result ∧
      (∀ first rest, extras = first :: rest → first.toList.head? ≠ some '-' →
        Settings.load files (program :: (options ++ extras.map ofString)) = .ok result) ∧
      (result.verbose = true ↔ extras.length = 1) ∧
      result.logFilter = if extras.length = 1 then settings.level else "off" := by
  intro result
  obtain ⟨given, hgiven, hresolve⟩ := Settings.given_of_load hsettings
  have hnone : given.extras = [] := by
    rw [← Settings.extras_of_resolve hresolve]
    exact hextras
  have hscan (rest : List Argument) :
      Given.ofArguments (program :: (options ++ rest)) = given.scan .nothing rest :=
    Given.scan_append_of_ok hgiven hnone hseparator rest
  have hresult : Settings.resolve files { given with extras } = .ok result :=
    Settings.resolve_of_resolve hresolve extras
  refine ⟨?_, ?_, decide_eq_true_iff, ?_⟩
  · exact Settings.load_of_given ((hscan _).trans (Given.scan_separator given extras)) hresult
  · intro first rest hfirst hhyphen
    have hplain : Token.ofArgument (ofString first) = .plain := by
      apply ofArgument_plain
      intro hhead
      apply hhyphen
      rw [ofString, List.head?_map, Option.map_eq_some_iff] at hhead
      obtain ⟨c, hc, hglyph⟩ := hhead
      cases hglyph
      exact hc
    have hextra : given.scan .nothing (extras.map ofString) = .ok { given with extras } := by
      rw [← Given.withExtras_ofString given extras, hfirst, List.map_cons, Given.scan.eq_def]
      simp only [hplain]
      rfl
    exact Settings.load_of_given ((hscan _).trans hextra) hresult
  · show (if decide (extras.length = 1) = true then settings.level else "off") = _
    by_cases hone : extras.length = 1
    · rw [if_pos hone, if_pos (decide_eq_true hone)]
    · rw [if_neg hone, if_neg (by rw [decide_eq_false hone]; exact Bool.false_ne_true)]

-- Behind the separator even an option that was given already does no harm, nor does a second separator.
theorem options_behind_separator_are_extra :
    let files : FileSystem := fun _ => .error .notFound
    let options := ["-l", "127.0.0.1:9000", "--mode=vulnerable"]
    let extras := ["--mode=safe", "-h", "--", ""]
    ∃ settings, Settings.load files (("keeper" :: options).map ofString) = .ok settings ∧
      settings.extras = [] ∧ Given.separator ∉ options.map ofString ∧ settings.policy = .vulnerable ∧
      Settings.load files (("keeper" :: options ++ "--" :: extras).map ofString) =
        .ok { settings with extras } ∧
      Settings.load files (("keeper" :: options ++ ["quiet"]).map ofString) =
        .ok { settings with extras := ["quiet"] } ∧
      ({ settings with extras } : Settings).logFilter = "off" ∧
      ({ settings with extras := ["quiet"] } : Settings).logFilter = "debug" := by
  intro files options extras
  have hload : Settings.load files (("keeper" :: options).map ofString) =
      .ok { listen := .v4 ⟨127, 0, 0, 1⟩ 9000, backlog := 10, policy := .vulnerable,
            level := "debug", extras := [] } := by
    rfl
  have hseparator : Given.separator ∉ options.map ofString := by
    decide
  have hmany := first_extra_ends_options files (ofString "keeper") (options.map ofString) _ hload rfl
    hseparator extras
  have hone := first_extra_ends_options files (ofString "keeper") (options.map ofString) _ hload rfl
    hseparator ["quiet"]
  exact ⟨_, hload, rfl, hseparator, rfl, hmany.1, hone.2.1 _ _ rfl (by decide), hmany.2.2.2,
    hone.2.2.2⟩

end BufferKeeper
