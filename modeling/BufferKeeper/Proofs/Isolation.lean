import BufferKeeper.Proofs.Frame
import BufferKeeper.Proofs.LastWriter
import BufferKeeper.Proofs.Thinning

/-!
# Isolation under `safe`

Under `safe` the region is all that one input leaves for the next. So a run depends on its applied
writes and resets alone: any of the other inputs can be left out, and the inbox may hold anything at
the start. The region itself depends on no more than the updates since the last reset, and replaying
these brings any other keeper to the same bytes.
-/

namespace BufferKeeper

/-! ## 1. Updates -/

/-- Whether the turn changed what is stored: a write or a reset that was applied. -/
def Turn.isUpdate (turn : Turn) : Bool :=
  (turn.applied? .write).isSome || (turn.applied? .reset).isSome

theorem Turn.isApplied_of_isUpdate {turn : Turn} (h : turn.isUpdate) :
    turn.outcome.isApplied := by
  cases happlied : turn.outcome.isApplied with
  | true => rfl
  | false =>
    unfold isUpdate at h
    rw [applied?_of_not_applied happlied, applied?_of_not_applied happlied] at h
    cases h

namespace Keeper

theorem alike_of_safe {k k' : Keeper} (hsafe : k.policy = .safe) (hsafe' : k'.policy = .safe)
    (hregion : k.region = k'.region) : k.Alike k' := by
  refine ⟨hsafe.trans hsafe'.symm, hregion, fun hvulnerable => ?_⟩
  cases hsafe.symm.trans hvulnerable

theorem region_of_not_update {k : Keeper} {input : List UInt8}
    (h : (Turn.mk input (k.processed input).outcome).isUpdate = false) :
    (k.process input).region = k.region := by
  rcases k.processed_cases input with ⟨packet, response, hpacket, hout, heffect⟩ | ⟨-, hstays⟩
  · have happlied (op : Opcode) : (Turn.mk input (.applied response)).applied? op =
        if packet.header.opcode = op then some packet else none :=
      Turn.applied?_of_ofInput hpacket
    unfold Turn.isUpdate at h
    rw [hout, happlied, happlied] at h
    -- an applied packet is a read unless it is an update
    rcases heffect.opcode_cases with op | op | op
    · exact heffect.region_of_read op
    · rw [op] at h
      cases h
    · rw [op] at h
      cases h
  · exact hstays

theorem unnoticed_of_not_update : Unnoticed .safe fun turn => turn.isUpdate = false := by
  intro k input hsafe hidle
  exact alike_of_safe hsafe hsafe (region_of_not_update hidle)

/-! ## 2. Resets forget what was before -/

theorem reset_forgets {k : Keeper} {reset : Turn}
    (hout : (k.processed reset.input).outcome = reset.outcome)
    (hreset : (reset.applied? .reset).isSome) (other : Keeper) :
    (other.processed reset.input).outcome = reset.outcome ∧
      (other.process reset.input).region = (k.process reset.input).region := by
  obtain ⟨packet, hpacket⟩ := Option.isSome_iff_exists.mp hreset
  obtain ⟨hinput, op, happlied⟩ := Turn.applied?_eq_some_iff.mp hpacket
  rw [← hout] at happlied
  obtain ⟨response, hresponse, heffect⟩ := effect_of_applied hinput happlied
  obtain ⟨henough, rfl, hafter⟩ := heffect.of_reset op
  rw [← hout, hresponse, hafter]
  exact (other.processed_eq_applied_iff hinput).mpr (.reset op henough)

end Keeper

theorem exists_last_reset {turns : List Turn}
    (h : ∃ turn ∈ turns, (turn.applied? .reset).isSome) :
    ∃ earlier reset later, turns = earlier ++ reset :: later ∧ (reset.applied? .reset).isSome ∧
      ∀ turn ∈ later, turn.applied? .reset = none := by
  induction turns with
  | nil =>
    obtain ⟨turn, hturn, -⟩ := h
    cases hturn
  | cons first rest ih =>
    by_cases hrest : ∃ turn ∈ rest, (turn.applied? .reset).isSome
    · obtain ⟨earlier, reset, later, rfl, hreset, hlater⟩ := ih hrest
      exact ⟨first :: earlier, reset, later, rfl, hreset, hlater⟩
    · obtain ⟨turn, hturn, hsome⟩ := h
      rcases List.mem_cons.mp hturn with rfl | hmem
      · refine ⟨[], turn, rest, rfl, hsome, fun later hlater => ?_⟩
        exact Option.not_isSome_iff_eq_none.mp fun hlast => hrest ⟨later, hlater, hlast⟩
      · exact absurd ⟨turn, hmem, hsome⟩ hrest

namespace Keeper

-- What comes after a reset depends on nothing before it, and then on the updates alone.
theorem replay_of_reset {k : Keeper} (hsafe : k.policy = .safe) {inputs : List (List UInt8)}
    {earlier later : List Turn} {reset : Turn}
    (hsplit : k.transcript inputs = earlier ++ reset :: later)
    (hreset : (reset.applied? .reset).isSome) {other : Keeper} (hother : other.policy = .safe) :
    other.transcript (reset.input :: (later.filter Turn.isUpdate).map Turn.input) =
        reset :: later.filter Turn.isUpdate ∧
      (other.processAll (reset.input :: (later.filter Turn.isUpdate).map Turn.input)).region =
        (k.processAll inputs).region := by
  obtain ⟨before, after, rfl, -, hafter⟩ := transcript_eq_append hsplit
  obtain ⟨rest, rfl, hout, hlater⟩ := transcript_eq_cons hafter
  have hbefore : (k.processAll before).policy = .safe := by
    rw [processAll_policy, hsafe]
  obtain ⟨hfirst, hregion⟩ := reset_forgets hout hreset other
  have hsame : ((k.processAll before).process reset.input).Alike (other.process reset.input) :=
    alike_of_safe hbefore hother hregion.symm
  have hkept : Thinned (fun turn => turn.isUpdate = false)
      (((k.processAll before).process reset.input).transcript rest)
      (later.filter Turn.isUpdate) := by
    rw [hlater]
    exact thinned_filter (fun _ => id) later
  obtain ⟨hturns, hend⟩ := hsame.of_thinned unnoticed_of_not_update hbefore hkept
  constructor
  · rw [transcript, hfirst, hturns]
  · rw [processAll_append, processAll_cons, processAll_cons, hend.region]

end Keeper

/-! ## 3. The law -/

/-- From any region and inbox, a run under `safe` goes the same way when inputs that were no applied
write or reset are left out and the inbox is another one: each remaining input has its outcome, and
the region ends the same. If a reset was applied, replaying it and the applied updates after it, on
any keeper, applies each of them again and ends in the same region. -/
theorem safe_run_isolated (region : Region) (inbox : Inbox) (inputs : List (List UInt8)) :
    let k : Keeper := ⟨.safe, region, inbox⟩
    (∀ inbox' kept, Thinned (fun turn => turn.isUpdate = false) (k.transcript inputs) kept →
      let k' : Keeper := ⟨.safe, region, inbox'⟩
      k'.transcript (kept.map Turn.input) = kept ∧
        (k'.processAll (kept.map Turn.input)).region = (k.processAll inputs).region) ∧
      ((∃ turn ∈ k.transcript inputs, (turn.applied? .reset).isSome) →
        ∃ earlier reset later, k.transcript inputs = earlier ++ reset :: later ∧
          (reset.applied? .reset).isSome ∧ (∀ turn ∈ later, turn.applied? .reset = none) ∧
          ∀ other : Keeper, other.policy = .safe →
            let updates := reset :: later.filter Turn.isUpdate
            other.transcript (updates.map Turn.input) = updates ∧
              (∀ turn ∈ updates, turn.outcome.isApplied) ∧
              (other.processAll (updates.map Turn.input)).region =
                (k.processAll inputs).region) := by
  intro k
  constructor
  · intro inbox' kept hkept k'
    have halike : k.Alike k' := Keeper.alike_of_safe rfl rfl rfl
    obtain ⟨hsame, hend⟩ := halike.of_thinned Keeper.unnoticed_of_not_update rfl hkept
    exact ⟨hsame, hend.region.symm⟩
  · intro hsome
    obtain ⟨earlier, reset, later, hsplit, hreset, hlater⟩ := exists_last_reset hsome
    refine ⟨earlier, reset, later, hsplit, hreset, hlater, ?_⟩
    intro other hsafe updates
    obtain ⟨hsame, hend⟩ := Keeper.replay_of_reset rfl hsplit hreset hsafe
    refine ⟨hsame, fun turn hturn => ?_, hend⟩
    rcases List.mem_cons.mp hturn with rfl | hmem
    · exact Turn.isApplied_of_isUpdate (by rw [Turn.isUpdate, hreset, Bool.or_true])
    · exact Turn.isApplied_of_isUpdate (List.mem_filter.mp hmem).2

/-- Two bytes are stored. A read, a reset to three bytes, a write that does not fit and one that does
end in the region that the reset and the fitting write alone give, whatever the inbox holds; and a
fresh keeper gets there by a replay. -/
theorem isolation_of_short_run :
    let read : Packet := ⟨⟨.read, 0, 1⟩, []⟩
    let reset : Packet := ⟨⟨.reset, 0, 3⟩, [1, 2, 3]⟩
    let outside : Packet := ⟨⟨.write, 2, 2⟩, [8, 8]⟩
    let write : Packet := ⟨⟨.write, 0, 1⟩, [9]⟩
    let inputs := [read.encode, reset.encode, outside.encode, write.encode]
    let k : Keeper := ⟨.safe, ⟨some [7, 7]⟩, .zeros⟩
    let k' : Keeper := ⟨.safe, ⟨some [7, 7]⟩, Inbox.zeros.overwrite 20 [5, 5]⟩
    (k'.processAll [reset.encode, write.encode]).region = (k.processAll inputs).region ∧
      ∃ updates, (Keeper.fresh .safe).transcript (updates.map Turn.input) = updates ∧
        (∀ turn ∈ updates, turn.outcome.isApplied) ∧
        ((Keeper.fresh .safe).processAll (updates.map Turn.input)).region =
          ⟨some [9, 2, 3]⟩ := by
  intro read reset outside write inputs k k'
  obtain ⟨hleft, hreplay⟩ := safe_run_isolated ⟨some [7, 7]⟩ .zeros inputs
  constructor
  · have hkept : ((k.transcript inputs).filter Turn.isUpdate).map Turn.input =
        [reset.encode, write.encode] := by
      decide +kernel
    obtain ⟨-, hend⟩ := hleft (Inbox.zeros.overwrite 20 [5, 5]) _
      (thinned_filter (fun _ => id) (k.transcript inputs))
    rw [hkept] at hend
    exact hend
  · have hend : (k.processAll inputs).region = ⟨some [9, 2, 3]⟩ := by decide +kernel
    obtain ⟨-, update, later, -, -, -, hother⟩ := hreplay (by decide +kernel)
    obtain ⟨hsame, happlied, hregion⟩ := hother (.fresh .safe) rfl
    exact ⟨_, hsame, happlied, hregion.trans hend⟩

end BufferKeeper
