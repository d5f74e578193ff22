import BufferKeeper.Proofs.Run

/-!
# Runs with inputs left out

Two keepers are alike when no input can tell them apart: they have the same policy and region, and
the same bytes behind the header place of the inbox if the policy lets writes take those. Leaving
inputs out of a run goes unnoticed when each of them leads to a keeper like the one before it. Such
are the inputs that are too short for a header, under either policy: they do reach the inbox, but
only where the next packet's header comes to stand.
-/

namespace BufferKeeper

/-! ## 1. Keepers that no input tells apart -/

theorem Inbox.SameBehind.receive {inbox inbox' : Inbox} (h : inbox.SameBehind inbox')
    (input : List UInt8) : (inbox.receive input).SameBehind (inbox'.receive input) := by
  intro i hi
  rw [getElem?_receive, getElem?_receive, h i hi]

theorem Inbox.sameBehind_receive_of_short (inbox : Inbox) {input : List UInt8}
    (h : input.length < headerSize) : (inbox.receive input).SameBehind inbox := by
  intro i hi
  rw [getElem?_receive, if_neg (by omega)]

namespace Keeper

/-- The keepers agree in all that handling a later input depends on. -/
structure Alike (k k' : Keeper) : Prop where
  policy : k.policy = k'.policy
  region : k.region = k'.region
  behind : k.policy = .vulnerable → k.inbox.SameBehind k'.inbox

theorem Alike.refl (k : Keeper) : k.Alike k :=
  ⟨rfl, rfl, fun _ _ _ => rfl⟩

theorem Alike.trans {k k' k'' : Keeper} (h : k.Alike k') (h' : k'.Alike k'') : k.Alike k'' := by
  refine ⟨h.policy.trans h'.policy, h.region.trans h'.region, fun hpolicy i hi => ?_⟩
  rw [h.behind hpolicy i hi, h'.behind (h.policy ▸ hpolicy) i hi]

theorem Alike.step {k k' : Keeper} (h : k.Alike k') (input : List UInt8) :
    (k.processed input).outcome = (k'.processed input).outcome ∧
      (k.process input).Alike (k'.process input) := by
  have hbehind (hpolicy : k.policy = .vulnerable) :
      (k.inbox.receive input).SameBehind (k'.inbox.receive input) :=
    (h.behind hpolicy).receive input
  cases hinput : Packet.ofInput input with
  | error cause =>
    obtain ⟨hout, hstays⟩ := k.processed_of_ofInput_error hinput
    obtain ⟨hout', hstays'⟩ := k'.processed_of_ofInput_error hinput
    refine ⟨hout.trans hout'.symm, h.policy, ?_, hbehind⟩
    rw [hstays, hstays', h.region]
  | ok packet =>
    obtain ⟨hout, hafter⟩ := k.processed_of_ofInput hinput
    obtain ⟨hout', hafter'⟩ := k'.processed_of_ofInput hinput
    have hsame := perform_congr k.policy k.region packet hbehind
    rw [← h.policy, ← h.region, ← hsame] at hout' hafter'
    exact ⟨hout.trans hout'.symm, h.policy, hafter.trans hafter'.symm, hbehind⟩

end Keeper

/-! ## 2. Transcripts with turns left out -/

/-- `Thinned idle turns kept`: `kept` is `turns` with some turns left out, all of them `idle`. -/
inductive Thinned (idle : Turn → Prop) : List Turn → List Turn → Prop where
  | nil : Thinned idle [] []
  | keep (turn : Turn) {turns kept : List Turn} (rest : Thinned idle turns kept) :
      Thinned idle (turn :: turns) (turn :: kept)
  | leave {turn : Turn} {turns kept : List Turn} (left : idle turn)
      (rest : Thinned idle turns kept) : Thinned idle (turn :: turns) kept

theorem thinned_filter {idle : Turn → Prop} {p : Turn → Bool}
    (h : ∀ turn, p turn = false → idle turn) (turns : List Turn) :
    Thinned idle turns (turns.filter p) := by
  induction turns with
  | nil => exact .nil
  | cons turn rest ih =>
    cases hp : p turn with
    | true =>
      rw [List.filter_cons_of_pos hp]
      exact .keep turn ih
    | false =>
      rw [List.filter_cons_of_neg (by simp [hp])]
      exact .leave (h turn hp) ih

namespace Keeper

/-- Under the policy, an idle turn leads to a keeper like the one that took it. -/
def Unnoticed (policy : Policy) (idle : Turn → Prop) : Prop :=
  ∀ (k : Keeper) (input : List UInt8), k.policy = policy →
    idle ⟨input, (k.processed input).outcome⟩ → (k.process input).Alike k

-- The two runs stay alike: a kept turn moves both keepers, and one that is left out only the first.
theorem Alike.of_thinned {k k' : Keeper} (h : k.Alike k') {policy : Policy} {idle : Turn → Prop}
    (hidle : Unnoticed policy idle) (hpolicy : k.policy = policy) {inputs : List (List UInt8)}
    {kept : List Turn} (hkept : Thinned idle (k.transcript inputs) kept) :
    k'.transcript (kept.map Turn.input) = kept ∧
      (k.processAll inputs).Alike (k'.processAll (kept.map Turn.input)) := by
  induction inputs generalizing k k' kept with
  | nil =>
    cases hkept
    exact ⟨rfl, h⟩
  | cons input rest ih =>
    rw [processAll_cons]
    cases hkept with
    | keep turn hrest =>
      obtain ⟨hout, hnext⟩ := h.step input
      obtain ⟨hsame, hend⟩ := ih hnext hpolicy hrest
      rw [List.map_cons, transcript, processAll_cons, hsame, ← hout]
      exact ⟨rfl, hend⟩
    | leave left hrest =>
      have hback : (k.process input).Alike k := hidle k input hpolicy left
      exact ih (hback.trans h) hpolicy hrest

end Keeper

/-! ## 3. Inputs without a whole header -/

def holdsHeader (input : List UInt8) : Bool :=
  headerSize ≤ input.length

theorem length_lt_of_not_holdsHeader {input : List UInt8} (h : holdsHeader input = false) :
    input.length < headerSize :=
  Nat.lt_of_not_le (of_decide_eq_false h)

theorem le_maxPacketSize_of_short {n : Nat} (h : n < headerSize) : n ≤ maxPacketSize :=
  Nat.le_of_lt (Nat.lt_trans h (by decide))

theorem Packet.ofInput_of_short {input : List UInt8} (h : input.length < headerSize) :
    ofInput input = .error (.tooShort input.length) := by
  rw [ofInput, List.take_of_length_le (le_maxPacketSize_of_short h), decode_of_short h]

namespace Keeper

theorem unnoticed_short (policy : Policy) :
    Unnoticed policy fun turn => turn.input.length < headerSize := by
  intro k input _ hshort
  obtain ⟨-, hstays⟩ := k.processed_of_ofInput_error (Packet.ofInput_of_short hshort)
  exact ⟨rfl, hstays, fun _ => k.inbox.sameBehind_receive_of_short hshort⟩

theorem map_input_filter_transcript (k : Keeper) (inputs : List (List UInt8)) :
    ((k.transcript inputs).filter fun turn => holdsHeader turn.input).map Turn.input =
      inputs.filter holdsHeader := by
  have hmap := List.filter_map (p := holdsHeader) (f := Turn.input) (l := k.transcript inputs)
  rw [transcript_map_input] at hmap
  exact hmap.symm

theorem outcome_of_short_turn {k : Keeper} {inputs : List (List UInt8)} {turn : Turn}
    (hturn : turn ∈ k.transcript inputs) (hshort : turn.input.length < headerSize) :
    turn.outcome = .malformed (.tooShort turn.input.length) := by
  obtain ⟨earlier, later, hsplit⟩ := List.append_of_mem hturn
  obtain ⟨before, -, hout⟩ := transcript_eq_append_cons hsplit
  rw [← hout]
  exact (processed_of_ofInput_error _ (Packet.ofInput_of_short hshort)).1

end Keeper

/-- Inputs too short for a header are invisible to every other input, under either policy and from
any keeper: without them each remaining input has the same outcome, and the region ends the same.
Each of them is malformed, with its length as the reason, and gets no response, although its bytes
do come to stand at the front of the inbox. -/
theorem short_inputs_are_invisible (k : Keeper) (inputs : List (List UInt8)) :
    k.transcript (inputs.filter holdsHeader) =
        ((k.transcript inputs).filter fun turn => holdsHeader turn.input) ∧
      (k.processAll (inputs.filter holdsHeader)).region = (k.processAll inputs).region ∧
      (∀ turn ∈ k.transcript inputs, holdsHeader turn.input = false →
        turn.outcome = .malformed (.tooShort turn.input.length) ∧ turn.outcome.response = none) ∧
      ∀ input, holdsHeader input = false → (k.receive input).inbox.front input.length = input := by
  have hkept : Thinned (fun turn => turn.input.length < headerSize) (k.transcript inputs)
      ((k.transcript inputs).filter fun turn => holdsHeader turn.input) :=
    thinned_filter (fun _ => length_lt_of_not_holdsHeader) _
  obtain ⟨hsame, hend⟩ :=
    (Keeper.Alike.refl k).of_thinned (Keeper.unnoticed_short k.policy) rfl hkept
  rw [Keeper.map_input_filter_transcript] at hsame hend
  refine ⟨hsame, hend.region.symm, ?_, ?_⟩
  · intro turn hturn hshort
    have hout := Keeper.outcome_of_short_turn hturn (length_lt_of_not_holdsHeader hshort)
    rw [hout]
    exact ⟨rfl, rfl⟩
  · intro input hshort
    have hlen : input.length ≤ maxPacketSize :=
      le_maxPacketSize_of_short (length_lt_of_not_holdsHeader hshort)
    have hfront := Inbox.front_receive k.inbox input
    rw [Nat.min_eq_left hlen, List.take_of_length_le hlen] at hfront
    exact hfront

/-- Five bytes are stored under `vulnerable`. A short input begins like a reset and is malformed; the
write that follows carries one byte of three and takes the other two from the reset, as it would
without the short input. -/
theorem short_input_before_stale_write :
    let stored : Packet := ⟨⟨.reset, 0, 5⟩, [1, 2, 3, 4, 5]⟩
    let short : List UInt8 := [2, 0, 0, 0, 7]
    let write : Packet := ⟨⟨.write, 0, 3⟩, [9]⟩
    let k := Keeper.fresh .vulnerable
    (k.transcript [stored.encode, write.encode]).map Turn.outcome =
        [.applied none, .applied none] ∧
      (k.transcript [stored.encode, short, write.encode]).map Turn.outcome =
        [.applied none, .malformed (.tooShort 5), .applied none] ∧
      (k.processAll [stored.encode, short, write.encode]).region = ⟨some [9, 2, 3, 4, 5]⟩ := by
  intro stored short write k
  have hlong : [stored.encode, short, write.encode].filter holdsHeader =
      [stored.encode, write.encode] := by
    decide +kernel
  obtain ⟨-, hregion, -⟩ := short_inputs_are_invisible k [stored.encode, short, write.encode]
  rw [hlong] at hregion
  refine ⟨by decide +kernel, by decide +kernel, ?_⟩
  rw [← hregion]
  decide +kernel

end BufferKeeper
