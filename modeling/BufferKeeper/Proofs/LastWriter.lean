import BufferKeeper.Proofs.Run

/-!
# The last writer decides

Under `safe` the region after any run can be read off the transcript: the last applied reset gives
its length, and each byte is the one that the latest applied write over it since then carries, or
the reset's own where there is none. Reads answer with just these bytes. Refused and malformed
inputs, payload beyond the claimed length and whatever else the inbox holds play no part.
-/

namespace BufferKeeper

open Bytes

/-! ## 1. What a transcript says about a byte -/

/-- The packet of a turn whose operation ran, if it is of the given kind. -/
def Turn.applied? (op : Opcode) (turn : Turn) : Option Packet :=
  match Packet.ofInput turn.input with
  | .ok packet =>
    if packet.header.opcode = op ∧ turn.outcome.isApplied then some packet else none
  | .error _ => none

/-- Whether position `i` lies in the packet's range. -/
def Packet.covers (p : Packet) (i : Nat) : Bool :=
  p.offset ≤ i ∧ i < p.offset + p.length

def lastReset? (turns : List Turn) : Option Packet :=
  turns.reverse.findSome? (Turn.applied? .reset)

/-- The latest write over position `i` that was applied since the last applied reset. -/
def lastWrite? (turns : List Turn) (i : Nat) : Option Packet :=
  (turns.reverse.takeWhile fun turn => turn.applied? .reset = none).findSome? fun turn =>
    (turn.applied? .write).filter fun write => write.covers i

/-- The byte at position `i` as the latest write over it, or else the last reset, carries it. -/
def writtenByte? (turns : List Turn) (i : Nat) : Option UInt8 :=
  match lastWrite? turns i with
  | some write => write.payload[i - write.offset]?
  | none => (lastReset? turns).bind fun reset => reset.payload[i]?

theorem Turn.applied?_eq_some_iff {op : Opcode} {turn : Turn} {packet : Packet} :
    turn.applied? op = some packet ↔
      Packet.ofInput turn.input = .ok packet ∧ packet.header.opcode = op ∧
        turn.outcome.isApplied := by
  unfold applied?
  cases Packet.ofInput turn.input with
  | error cause => simp
  | ok packet' =>
    by_cases h : packet'.header.opcode = op ∧ turn.outcome.isApplied
    · simp only [if_pos h, Option.some.injEq, Except.ok.injEq]
      constructor
      · rintro rfl
        exact ⟨rfl, h⟩
      · exact And.left
    · simp only [if_neg h, reduceCtorEq, Except.ok.injEq, false_iff]
      rintro ⟨rfl, h'⟩
      exact h h'

theorem Turn.applied?_of_ofInput {op : Opcode} {input : List UInt8} {packet : Packet}
    {response : Option (List UInt8)} (h : Packet.ofInput input = .ok packet) :
    (Turn.mk input (.applied response)).applied? op =
      if packet.header.opcode = op then some packet else none := by
  unfold applied?
  rw [h]
  simp [Outcome.isApplied]

theorem Turn.applied?_of_not_applied {op : Opcode} {turn : Turn}
    (h : turn.outcome.isApplied = false) : turn.applied? op = none := by
  cases hturn : turn.applied? op with
  | none => rfl
  | some packet =>
    have happlied := (applied?_eq_some_iff.mp hturn).2.2
    rw [h] at happlied
    cases happlied

/-! ## 2. One more turn -/

section Concat

variable (turns : List Turn) {turn : Turn} {packet : Packet}

theorem lastReset?_concat (turn : Turn) :
    lastReset? (turns ++ [turn]) = (turn.applied? .reset).or (lastReset? turns) := by
  unfold lastReset?
  rw [List.reverse_concat, List.findSome?_cons]
  cases turn.applied? .reset <;> rfl

theorem lastWrite?_concat_of_reset (h : turn.applied? .reset = some packet) (i : Nat) :
    lastWrite? (turns ++ [turn]) i = none := by
  unfold lastWrite?
  rw [List.reverse_concat, List.takeWhile_cons_of_neg (by simp [h])]
  rfl

theorem lastWrite?_concat (h : turn.applied? .reset = none) (i : Nat) :
    lastWrite? (turns ++ [turn]) i =
      ((turn.applied? .write).filter fun write => write.covers i).or (lastWrite? turns i) := by
  unfold lastWrite?
  rw [List.reverse_concat, List.takeWhile_cons_of_pos (by simp [h]), List.findSome?_cons]
  cases (turn.applied? .write).filter fun write => write.covers i <;> rfl

-- A turn that neither wrote nor reset changes nothing of what the transcript says.
theorem writtenByte?_concat_of_none (hreset : turn.applied? .reset = none)
    (hwrite : turn.applied? .write = none) (i : Nat) :
    writtenByte? (turns ++ [turn]) i = writtenByte? turns i := by
  unfold writtenByte?
  rw [lastWrite?_concat turns hreset, lastReset?_concat, hreset, hwrite]
  rfl

theorem writtenByte?_concat_of_write (hreset : turn.applied? .reset = none)
    (hwrite : turn.applied? .write = some packet) (i : Nat) :
    writtenByte? (turns ++ [turn]) i =
      if packet.offset ≤ i ∧ i < packet.offset + packet.length then
        packet.payload[i - packet.offset]?
      else writtenByte? turns i := by
  unfold writtenByte?
  rw [lastWrite?_concat turns hreset, lastReset?_concat, hreset, hwrite]
  by_cases hcovers : packet.offset ≤ i ∧ i < packet.offset + packet.length
  · rw [Option.filter_some_pos (by simpa [Packet.covers] using hcovers), if_pos hcovers]
    rfl
  · rw [Option.filter_some_neg (by simpa [Packet.covers] using hcovers), if_neg hcovers]
    rfl

theorem writtenByte?_concat_of_reset (h : turn.applied? .reset = some packet) (i : Nat) :
    writtenByte? (turns ++ [turn]) i = packet.payload[i]? := by
  unfold writtenByte?
  rw [lastWrite?_concat_of_reset turns h, lastReset?_concat, h]
  rfl

end Concat

/-! ## 3. The region follows the transcript -/

/-- The region holds what the transcript says: nothing before the first reset, and after it the
written byte at each position below the claimed length of the last one. -/
def Region.Mirrors (region : Region) (turns : List Turn) : Prop :=
  match lastReset? turns with
  | none => region.contents = none
  | some reset =>
    ∃ bytes, region.contents = some bytes ∧ bytes.length = reset.length ∧
      ∀ i < reset.length, bytes[i]? = writtenByte? turns i

variable {region : Region} {turns : List Turn} {turn : Turn} {packet : Packet}

theorem Region.mirrors_absent : absent.Mirrors [] := rfl

theorem Region.Mirrors.contents (h : region.Mirrors turns) {bytes : List UInt8}
    (hbytes : region.contents = some bytes) :
    ∃ reset, lastReset? turns = some reset ∧ bytes.length = reset.length ∧
      ∀ i < reset.length, bytes[i]? = writtenByte? turns i := by
  unfold Mirrors at h
  split at h
  · rw [hbytes] at h
    cases h
  · rename_i reset hreset
    obtain ⟨bytes', hbytes', hlen, hbyte⟩ := h
    cases hbytes'.symm.trans hbytes
    exact ⟨reset, hreset, hlen, hbyte⟩

theorem Region.Mirrors.concat_of_none (h : region.Mirrors turns)
    (hreset : turn.applied? .reset = none) (hwrite : turn.applied? .write = none) :
    region.Mirrors (turns ++ [turn]) := by
  unfold Mirrors at h ⊢
  rw [lastReset?_concat, hreset, Option.none_or]
  simp only [writtenByte?_concat_of_none turns hreset hwrite]
  exact h

theorem Region.Mirrors.concat_of_write {bytes : List UInt8}
    (h : (⟨some bytes⟩ : Region).Mirrors turns) (hreset : turn.applied? .reset = none)
    (hwrite : turn.applied? .write = some packet) (henough : packet.length ≤ packet.available)
    (hfit : packet.offset + packet.length ≤ bytes.length) :
    (⟨some (splice bytes packet.offset (packet.payload.take packet.length))⟩ : Region).Mirrors
      (turns ++ [turn]) := by
  obtain ⟨reset, hlast, hlen, hbyte⟩ := h.contents rfl
  have hdata := Packet.length_take_payload henough
  unfold Mirrors
  rw [lastReset?_concat, hreset, Option.none_or, hlast]
  refine ⟨_, rfl, by rw [length_splice (by omega), hlen], fun i hi => ?_⟩
  rw [getElem?_splice (by omega), hdata, writtenByte?_concat_of_write turns hreset hwrite]
  -- inside the range both sides are the payload byte, outside it both are what was there
  split
  · rw [List.getElem?_take_of_lt (by omega)]
  · exact hbyte i hi

theorem Region.mirrors_concat_of_reset (turns : List Turn)
    (hreset : turn.applied? .reset = some packet) (henough : packet.length ≤ packet.available) :
    (⟨some (packet.payload.take packet.length)⟩ : Region).Mirrors (turns ++ [turn]) := by
  unfold Mirrors
  rw [lastReset?_concat, hreset, Option.some_or]
  refine ⟨_, rfl, Packet.length_take_payload henough, fun i hi => ?_⟩
  rw [List.getElem?_take_of_lt hi, writtenByte?_concat_of_reset turns hreset]

namespace Keeper

theorem mirrors_process {k : Keeper} (hsafe : k.policy = .safe) (h : k.region.Mirrors turns)
    (input : List UInt8) :
    (k.process input).region.Mirrors (turns ++ [⟨input, (k.processed input).outcome⟩]) := by
  rcases k.processed_cases input with ⟨packet, response, hpacket, hout, heffect⟩ | ⟨hout, hstays⟩
  · rw [hsafe] at heffect
    rw [hout]
    have happlied (op : Opcode) : (Turn.mk input (.applied response)).applied? op =
        if packet.header.opcode = op then some packet else none :=
      Turn.applied?_of_ofInput hpacket
    -- `Effect` fixes the shape of both regions, so they must be variables for the case split
    generalize k.region = before, (k.process input).region = after at h heffect
    cases heffect with
    | read op fits =>
      exact h.concat_of_none (by rw [happlied, op]; rfl) (by rw [happlied, op]; rfl)
    | write op source fits =>
      obtain ⟨henough, rfl⟩ := Policy.writeData?_safe_iff.mp source
      exact h.concat_of_write (by rw [happlied, op]; rfl) (by rw [happlied, op]; rfl) henough fits
    | reset op enough =>
      exact Region.mirrors_concat_of_reset turns (by rw [happlied, op]; rfl) enough
  · rw [hstays]
    exact h.concat_of_none (Turn.applied?_of_not_applied hout) (Turn.applied?_of_not_applied hout)

theorem mirrors_processAll {k : Keeper} (hsafe : k.policy = .safe) (h : k.region.Mirrors turns)
    (inputs : List (List UInt8)) :
    (k.processAll inputs).region.Mirrors (turns ++ k.transcript inputs) := by
  -- on the inputs; `turns` is what was said before them, and grows by one turn at each step
  induction inputs generalizing k turns with
  | nil =>
    rw [transcript, List.append_nil]
    exact h
  | cons input rest ih =>
    rw [transcript, List.append_cons]
    exact ih (k := k.process input) hsafe (mirrors_process hsafe h input)

theorem mirrors_fresh (inputs : List (List UInt8)) :
    ((fresh .safe).processAll inputs).region.Mirrors ((fresh .safe).transcript inputs) :=
  mirrors_processAll (k := fresh .safe) rfl Region.mirrors_absent inputs

end Keeper

/-! ## 4. The law -/

theorem lastReset?_eq_none_iff :
    lastReset? turns = none ↔ ∀ turn ∈ turns, turn.applied? .reset = none := by
  simp only [lastReset?, List.findSome?_eq_none_iff, List.mem_reverse]

theorem Region.Mirrors.contents_eq_none_iff (h : region.Mirrors turns) :
    region.contents = none ↔ lastReset? turns = none := by
  unfold Mirrors at h
  split at h
  · rename_i hreset
    simp only [h, hreset]
  · rename_i hreset
    obtain ⟨bytes, hbytes, -⟩ := h
    simp only [hbytes, hreset, reduceCtorEq]

-- A read that was applied answers the bytes that the transcript before it says.
theorem Keeper.read_of_transcript {k : Keeper} (hmirrors : k.region.Mirrors turns)
    {input : List UInt8} (h : Packet.ofInput input = .ok packet)
    (op : packet.header.opcode = .read) (happlied : (k.processed input).outcome.isApplied) :
    ∃ data reset, (k.processed input).outcome = .applied (some data) ∧
      data.length = packet.length ∧ lastReset? turns = some reset ∧
      packet.offset + packet.length ≤ reset.length ∧
      ∀ i < packet.length, data[i]? = writtenByte? turns (packet.offset + i) := by
  obtain ⟨response, hout, heffect⟩ := effect_of_applied h happlied
  obtain ⟨bytes, hregion, hfit, rfl, -⟩ := heffect.of_read op
  obtain ⟨reset, hreset, hlen, hbyte⟩ := hmirrors.contents (congrArg Region.contents hregion)
  refine ⟨_, reset, hout, length_slice hfit, hreset, by omega, fun i hi => ?_⟩
  rw [getElem?_slice, if_pos hi]
  exact hbyte _ (by omega)

/-- After any run under `safe`, the region is absent exactly when no reset was applied, and else has
the length of the last applied reset and at each position the byte that the latest applied write
over it since then carries, or that reset; every applied read answered with these bytes. -/
theorem safe_run_last_writer (inputs : List (List UInt8)) :
    (((Keeper.fresh .safe).processAll inputs).region.contents = none ↔
        ∀ turn ∈ (Keeper.fresh .safe).transcript inputs, turn.applied? .reset = none) ∧
      (∀ reset, lastReset? ((Keeper.fresh .safe).transcript inputs) = some reset →
        ∃ bytes, ((Keeper.fresh .safe).processAll inputs).region.contents = some bytes ∧
          bytes.length = reset.length ∧
          ∀ i < reset.length,
            bytes[i]? = writtenByte? ((Keeper.fresh .safe).transcript inputs) i) ∧
      (∀ earlier turn later packet,
        (Keeper.fresh .safe).transcript inputs = earlier ++ turn :: later →
        turn.applied? .read = some packet →
          ∃ data reset, turn.outcome = .applied (some data) ∧ data.length = packet.length ∧
            lastReset? earlier = some reset ∧ packet.offset + packet.length ≤ reset.length ∧
            ∀ i < packet.length, data[i]? = writtenByte? earlier (packet.offset + i)) := by
  have hmirrors := Keeper.mirrors_fresh inputs
  refine ⟨hmirrors.contents_eq_none_iff.trans lastReset?_eq_none_iff, ?_, ?_⟩
  · intro reset hreset
    unfold Region.Mirrors at hmirrors
    rw [hreset] at hmirrors
    exact hmirrors
  · intro earlier turn later packet hturns hread
    -- the keeper that took the turn had processed the inputs of the turns before it
    obtain ⟨before, rfl, hout⟩ := Keeper.transcript_eq_append_cons hturns
    obtain ⟨hpacket, op, happlied⟩ := Turn.applied?_eq_some_iff.mp hread
    rw [← hout] at happlied ⊢
    exact Keeper.read_of_transcript (Keeper.mirrors_fresh before) hpacket op happlied

/-- Five of six bytes are stored, two of three are written over them, a write that does not fit is
refused, and a read answers the first three. -/
theorem last_writer_of_short_run :
    let reset : Packet := ⟨⟨.reset, 0, 5⟩, [1, 2, 3, 4, 5, 6]⟩
    let write : Packet := ⟨⟨.write, 1, 2⟩, [9, 8, 7]⟩
    let outside : Packet := ⟨⟨.write, 4, 2⟩, [0, 0]⟩
    let read : Packet := ⟨⟨.read, 0, 3⟩, []⟩
    let before := [reset.encode, write.encode, outside.encode]
    (∃ bytes, ((Keeper.fresh .safe).processAll before).region.contents = some bytes ∧
      bytes.length = 5 ∧ ∀ i < 5, bytes[i]? = [1, 9, 8, 4, 5][i]?) ∧
    ∃ data, (((Keeper.fresh .safe).processAll before).processed read.encode).outcome =
        .applied (some data) ∧
      data.length = 3 ∧ ∀ i < 3, data[i]? = [1, 9, 8][i]? := by
  intro reset write outside read before
  let turn : Turn :=
    ⟨read.encode, (((Keeper.fresh .safe).processAll before).processed read.encode).outcome⟩
  have hwritten : ∀ i < 5, writtenByte? ((Keeper.fresh .safe).transcript before) i =
      [1, 9, 8, 4, 5][i]? := by
    decide +kernel
  obtain ⟨-, hcontents, -⟩ := safe_run_last_writer before
  obtain ⟨-, -, hreads⟩ := safe_run_last_writer (before ++ [read.encode])
  constructor
  · obtain ⟨bytes, hbytes, hlen, hbyte⟩ := hcontents reset (by decide +kernel)
    exact ⟨bytes, hbytes, hlen, fun i hi => (hbyte i hi).trans (hwritten i hi)⟩
  · obtain ⟨data, -, hout, hlen, -, -, hdata⟩ :=
      hreads ((Keeper.fresh .safe).transcript before) turn [] read rfl (by decide +kernel)
    dsimp only [turn] at hout
    refine ⟨data, hout, hlen, fun i hi => ?_⟩
    have hread : ∀ i < 3, writtenByte? ((Keeper.fresh .safe).transcript before) (0 + i) =
        [1, 9, 8][i]? := by
      decide +kernel
    exact (hdata i hi).trans (hread i hi)

end BufferKeeper
