import BufferKeeper.Proofs.SectionDefaults
import BufferKeeper.Proofs.WrittenDocuments

/-!
# Configuration files as they are written

Preferences can be written as a configuration file: what is set stands in its section under its key, in
any order, among any other keys and sections that hold texts. The file sets exactly what it was written
from, and the defaults hold for the rest, whether a key or its whole section is missing.
-/

namespace BufferKeeper

open Toml

/-! ## 1. What is written -/

def ConfigFile.knownKeys (name : String) : List String :=
  if name = "server" then ["listen", "backlog"]
  else if name = "protocol" then ["mode"]
  else if name = "logging" then ["level"]
  else []

namespace Preferences

/-- What is set in a section, under its keys. -/
def pairs (p : Preferences) (name : String) : List (String × Literal) :=
  if name = "server" then
    (p.listen.map fun listen => ("listen", .text listen)).toList ++
      (p.backlog.map fun backlog => ("backlog", .integer backlog)).toList
  else if name = "protocol" then (p.policy.map fun policy => ("mode", .text policy.name)).toList
  else if name = "logging" then (p.level.map fun level => ("level", .text level)).toList
  else []

/-- The table holds what `p` sets in the section of its name, and texts under other keys, in any
order. -/
def FillsTable (p : Preferences) (table : WrittenTable) : Prop :=
  ∃ others : List (String × String),
    table.pairs.Perm (p.pairs table.name ++ others.map fun other => (other.1, .text other.2)) ∧
      (others.map Prod.fst).Nodup ∧
      ∀ other ∈ others, IsBare other.1 ∧ other.1 ∉ ConfigFile.knownKeys table.name

/-- The tables hold what `p` sets, and nothing else that has a meaning. -/
structure Fills (p : Preferences) (tables : List WrittenTable) : Prop where
  names : ∀ table ∈ tables, IsBare table.name
  distinct : (tables.map WrittenTable.name).Nodup
  contents : ∀ table ∈ tables, p.FillsTable table
  complete : ∀ name, p.pairs name ≠ [] → name ∈ tables.map WrittenTable.name

end Preferences

/-! ## 2. Tables that are filled -/

theorem ConfigFile.knownKeys_proper (name : String) :
    (knownKeys name).Nodup ∧ ∀ key ∈ knownKeys name, IsBare key := by
  unfold knownKeys
  split
  · decide
  · split
    · decide
    · split <;> decide

namespace Preferences

variable {p : Preferences} {table : WrittenTable} {tables : List WrittenTable}

theorem keys_pairs (p : Preferences) (name : String) :
    ((p.pairs name).map Prod.fst).Sublist (ConfigFile.knownKeys name) := by
  obtain ⟨listen, backlog, policy, level⟩ := p
  unfold pairs ConfigFile.knownKeys
  split
  · cases listen <;> cases backlog <;> simp
  · split
    · cases policy <;> simp
    · split
      · cases level <;> simp
      · exact .slnil

theorem keys_perm {others : List (String × String)}
    (h : table.pairs.Perm (p.pairs table.name ++ others.map fun other => (other.1, .text other.2))) :
    (table.pairs.map Prod.fst).Perm ((p.pairs table.name).map Prod.fst ++ others.map Prod.fst) := by
  have hkeys := h.map Prod.fst
  rw [List.map_append, List.map_map] at hkeys
  exact hkeys

-- Keys that are known stand apart from the others, so none is written twice.
theorem FillsTable.isProper (h : p.FillsTable table) (hname : IsBare table.name) : table.IsProper := by
  obtain ⟨others, hpairs, hdistinct, hothers⟩ := h
  have hknown := p.keys_pairs table.name
  obtain ⟨hnodup, hbare⟩ := ConfigFile.knownKeys_proper table.name
  refine ⟨hname, fun pair hpair => ?_, ?_⟩
  · rcases List.mem_append.mp ((keys_perm hpairs).mem_iff.mp (List.mem_map_of_mem hpair)) with hkey | hkey
    · exact hbare _ (hknown.subset hkey)
    · obtain ⟨other, hother, hkey⟩ := List.mem_map.mp hkey
      rw [← hkey]
      exact (hothers other hother).1
  · rw [(keys_perm hpairs).nodup_iff, List.nodup_append]
    refine ⟨hknown.nodup hnodup, hdistinct, ?_⟩
    intro key hmem key' hkey heq
    obtain ⟨other, hother, rfl⟩ := List.mem_map.mp hkey
    rw [heq] at hmem
    exact (hothers other hother).2 (hknown.subset hmem)

theorem Fills.isProper (h : p.Fills tables) : ∀ table ∈ tables, table.IsProper :=
  fun table htable => (h.contents table htable).isProper (h.names table htable)

/-! ## 3. What is found -/

theorem FillsTable.value?_entries (h : p.FillsTable table) (hname : IsBare table.name) {key : String}
    (hkey : key ∈ ConfigFile.knownKeys table.name) :
    table.entries.value? key = ((p.pairs table.name).lookup key).map Literal.value := by
  have hdistinct : (table.entries.map Prod.fst).Nodup := by
    rw [table.keys_entries]
    exact (h.isProper hname).distinct
  obtain ⟨others, hpairs, -, hothers⟩ := h
  cases hfound : (p.pairs table.name).lookup key with
  | some literal =>
    obtain ⟨before, behind, hset, -⟩ := List.lookup_eq_some_iff.mp hfound
    have hmem : (key, literal) ∈ table.pairs := by
      rw [hpairs.mem_iff, hset]
      exact List.mem_append_left _ (List.mem_append_right before List.mem_cons_self)
    exact Entries.value?_of_mem hdistinct (List.mem_map.mpr ⟨_, hmem, rfl⟩)
  | none =>
    apply Entries.value?_eq_none
    rw [table.keys_entries, (keys_perm hpairs).mem_iff]
    intro hmem
    rcases List.mem_append.mp hmem with hmem | hmem
    · obtain ⟨pair, hpair, rfl⟩ := List.mem_map.mp hmem
      exact absurd rfl (bne_iff_ne.mp (List.lookup_eq_none_iff.mp hfound pair hpair))
    · obtain ⟨other, hother, rfl⟩ := List.mem_map.mp hmem
      exact (hothers other hother).2 hkey

-- A section that is missing had nothing to be written.
theorem Fills.section?_eq (h : p.Fills tables) (name : String) :
    ConfigFile.section? (tables.map WrittenTable.entry) name (ConfigFile.knownKeys name) =
      some ((ConfigFile.knownKeys name).map fun key => ((p.pairs name).lookup key).map Literal.value) := by
  have hnames : (tables.map WrittenTable.entry).map Prod.fst = tables.map WrittenTable.name :=
    List.map_map
  unfold ConfigFile.section?
  by_cases hname : name ∈ tables.map WrittenTable.name
  · obtain ⟨table, htable, rfl⟩ := List.mem_map.mp hname
    have hvalue : Entries.value? (tables.map WrittenTable.entry) table.name =
        some (.table .header table.entries) := by
      apply Entries.value?_of_mem
      · rw [hnames]
        exact h.distinct
      · exact List.mem_map.mpr ⟨table, htable, rfl⟩
    rw [hvalue]
    apply congrArg some
    apply List.map_congr_left
    intro key hkey
    exact (h.contents table htable).value?_entries (h.names table htable) hkey
  · have hvalue : Entries.value? (tables.map WrittenTable.entry) name = .none := by
      apply Entries.value?_eq_none
      rw [hnames]
      exact hname
    have hnothing : p.pairs name = [] := Decidable.byContradiction fun hne => hname (h.complete name hne)
    rw [hvalue, hnothing]
    rfl

end Preferences

/-! ## 4. What is set -/

theorem ConfigFile.field?_written {α : Type} {kind : Value → Option α} {write : α → Value}
    (hkind : ∀ x, kind (write x) = some x) {fields : List (Option Value)} {index : Nat}
    {set : Option α} (hfield : fields[index]?.join = set.map write) :
    field? kind fields index = some set := by
  rw [field?, hfield]
  cases set with
  | none => rfl
  | some x =>
    show (kind (write x)).map some = _
    rw [hkind]
    rfl

namespace Preferences

variable {p : Preferences} {tables : List WrittenTable}

theorem Fills.server (h : p.Fills tables) :
    ConfigFile.section? (tables.map WrittenTable.entry) "server" ["listen", "backlog"] =
      some [p.listen.map .text, p.backlog.map fun backlog => .integer backlog.toInt] := by
  refine (h.section?_eq "server").trans ?_
  obtain ⟨listen, backlog, policy, level⟩ := p
  cases listen <;> cases backlog <;> rfl

theorem Fills.protocol (h : p.Fills tables) :
    ConfigFile.section? (tables.map WrittenTable.entry) "protocol" ["mode"] =
      some [p.policy.map fun policy => .text policy.name] := by
  refine (h.section?_eq "protocol").trans ?_
  obtain ⟨listen, backlog, policy, level⟩ := p
  cases policy <;> rfl

theorem Fills.logging (h : p.Fills tables) :
    ConfigFile.section? (tables.map WrittenTable.entry) "logging" ["level"] =
      some [p.level.map .text] := by
  refine (h.section?_eq "logging").trans ?_
  obtain ⟨listen, backlog, policy, level⟩ := p
  cases level <;> rfl

theorem Fills.ofEntries?_eq (h : p.Fills tables) :
    ConfigFile.ofEntries? (tables.map WrittenTable.entry) = some p := by
  have htext (s : String) : ConfigFile.asText? (.text s) = some s := rfl
  have hbacklog (n : Int32) : ConfigFile.asBacklog? (.integer n.toInt) = some n := int32?_toInt n
  have hpolicy (policy : Policy) : ConfigFile.asPolicy? (.text policy.name) = some policy :=
    Policy.ofName?_name policy
  unfold ConfigFile.ofEntries?
  rw [h.server, h.protocol, h.logging]
  show (ConfigFile.field? _ _ 0).bind _ = _
  rw [ConfigFile.field?_written htext rfl]
  show (ConfigFile.field? _ _ 1).bind _ = _
  rw [ConfigFile.field?_written hbacklog rfl]
  show (ConfigFile.field? _ _ 0).bind _ = _
  rw [ConfigFile.field?_written hpolicy rfl]
  show (ConfigFile.field? _ _ 0).bind _ = _
  rw [ConfigFile.field?_written htext rfl]
  rfl

end Preferences

/-! ## 5. The law -/

/-- A written file sets what it was written from, and nothing else. With the defaults filled in, what was
left unwritten has the values that hold when there is no file, whether its section is there or not. -/
theorem written_file_reads_back (style : EscapeStyle) (p : Preferences) (tables : List WrittenTable)
    (h : p.Fills tables) :
    ConfigFile.parse? (render style tables) = some p ∧
      (Toml.parse? (render style tables)).bind FileSettings.ofEntries? =
        some {
          server := {
            listen := p.listen.getD FileSettings.default.server.listen
            backlog := p.backlog.getD FileSettings.default.server.backlog }
          protocol := { policy := p.policy.getD FileSettings.default.protocol.policy }
          logging := { level := p.level.getD FileSettings.default.logging.level } } := by
  have hparse := Toml.parse?_render style h.isProper h.distinct
  constructor
  · rw [ConfigFile.parse?, hparse]
    exact h.ofEntries?_eq
  · rw [hparse, Option.bind_some, FileSettings.ofEntries?_eq, h.ofEntries?_eq]
    rfl

-- The sections stand in another order than usual, among other keys, and one of them is missing.
theorem sections_in_another_order_read_back :
    let p : Preferences :=
      { listen := some "a\"b\\c\n", backlog := some (-3), policy := none, level := some "é" }
    let tables : List WrittenTable :=
      [⟨"logging", [("mode", .text "on"), ("level", .text "é")]⟩,
        ⟨"other", [("listen", .text "")]⟩,
        ⟨"server", [("backlog", .integer (-3)), ("x-1", .text "["), ("listen", .text "a\"b\\c\n")]⟩]
    p.Fills tables ∧
      render EscapeStyle.plain tables =
        "[logging]\nmode = \"on\"\nlevel = \"é\"\n" ++
        "[other]\nlisten = \"\"\n" ++
        "[server]\nbacklog = -3\nx-1 = \"[\"\nlisten = \"a\\\"b\\\\c\\u000a\"\n" ∧
      (Toml.parse? (render EscapeStyle.plain tables)).bind FileSettings.ofEntries? =
        some {
          server := { listen := "a\"b\\c\n", backlog := -3 }
          protocol := { policy := .safe }
          logging := { level := "é" } } := by
  intro p tables
  have hfills : p.Fills tables := by
    refine ⟨by decide, by decide, ?_, ?_⟩
    · simp only [tables, List.forall_mem_cons]
      refine ⟨⟨[("mode", "on")], ?_⟩, ⟨[("listen", "")], ?_⟩, ⟨[("x-1", "[")], ?_⟩, nofun⟩
      all_goals decide
    · intro name hname
      unfold Preferences.pairs at hname
      split at hname
      · next hserver =>
        subst hserver
        decide
      · split at hname
        · exact absurd rfl hname
        · split at hname
          · next hlogging =>
            subst hlogging
            decide
          · exact absurd rfl hname
  exact ⟨hfills, by decide, (written_file_reads_back EscapeStyle.plain p tables hfills).2⟩

end BufferKeeper
