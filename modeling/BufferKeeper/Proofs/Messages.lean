import BufferKeeper.Journal.Event
import BufferKeeper.Proofs.Numerals

/-!
# Messages identify what they are about

Whoever reads the message of a refusal, of a failed access or of a decoding failure can tell which one
it is and with which numbers, and from the line on an event the event. Every text begins with a mark
of its own, none of which is the beginning of another, and behind the mark stand numbers between fixed
words, or another message.
-/

namespace BufferKeeper

open Text

/-! ## 1. Marks -/

def messageMarks : List String :=
  ["stored buffer is absent", "offset=", "datagram length is invalid: claims ",
    "unknown datagram type: ", "unchecked access blocked: ",
    "stored buffer has not been allocated", "range offset=", "packet not large enough: "]

theorem messageMarks_apart :
    ∀ mark ∈ messageMarks, ∀ mark' ∈ messageMarks, mark.toList <+: mark'.toList → mark = mark' := by
  decide +kernel

theorem tag_injective {tag tag' : UInt32}
    (h : phrase decimal [(tag.toNat, "")] = phrase decimal [(tag'.toNat, "")]) : tag = tag' := by
  have hparts := phrase_injective tellsNumbers_decimal h rfl rfl
  exact UInt32.toNat_inj.mp (congrArg Prod.fst (List.cons.inj hparts).1)

/-! ## 2. Decoding failures -/

namespace PacketError

def mark : PacketError → String
  | .tooShort _ => "packet not large enough: "

/-- What the message says behind its mark. -/
def details : PacketError → String
  | .tooShort received => phrase decimal [(received, " bytes, header needs 20")]

theorem mark_mem (e : PacketError) : e.mark ∈ messageMarks := by
  cases e
  simp [mark, messageMarks]

theorem message_eq (e : PacketError) : e.message = e.mark ++ e.details := by
  cases e
  unfold message mark details
  simp only [phrase, String.append_assoc, String.append_empty]
  rfl

theorem message_injective {e e' : PacketError} (h : e.message = e'.message) : e = e' := by
  rw [message_eq, message_eq] at h
  obtain ⟨-, hdetails⟩ := eq_of_marks messageMarks_apart e.mark_mem e'.mark_mem h
  cases e
  cases e'
  dsimp only [details] at hdetails
  have hwords : separates [" bytes, header needs 20"] := by decide
  cases phrase_injective tellsNumbers_decimal hdetails hwords rfl
  rfl

end PacketError

/-! ## 3. Failed accesses -/

namespace RangeError

def mark : RangeError → String
  | .absent => "stored buffer has not been allocated"
  | .outOfBounds _ _ _ => "range offset="

def details : RangeError → String
  | .absent => ""
  | .outOfBounds offset length stored =>
    phrase hex [(offset, " length="), (length, " outside stored buffer of "), (stored, " bytes")]

theorem mark_mem (e : RangeError) : e.mark ∈ messageMarks := by
  cases e <;> simp [mark, messageMarks]

theorem message_eq (e : RangeError) : e.message = e.mark ++ e.details := by
  cases e with
  | absent => rfl
  | outOfBounds offset length stored =>
    unfold message mark details
    simp only [phrase, String.append_assoc, String.append_empty]

theorem message_injective {e e' : RangeError} (h : e.message = e'.message) : e = e' := by
  rw [message_eq, message_eq] at h
  obtain ⟨hmark, hdetails⟩ := eq_of_marks messageMarks_apart e.mark_mem e'.mark_mem h
  cases e <;> cases e' <;> simp [mark] at hmark
  case absent.absent => rfl
  case outOfBounds.outOfBounds =>
    dsimp only [details] at hdetails
    have hwords : separates [" length=", " outside stored buffer of ", " bytes"] := by decide
    cases phrase_injective tellsNumbers_hex hdetails hwords rfl
    rfl

end RangeError

/-! ## 4. Refusals -/

namespace Refusal

def mark : Refusal → String
  | .regionAbsent => "stored buffer is absent"
  | .outOfBounds _ _ _ => "offset="
  | .payloadTooShort _ _ => "datagram length is invalid: claims "
  | .unknownOpcode _ => "unknown datagram type: "
  | .uncheckedAccess _ => "unchecked access blocked: "

def details : Refusal → String
  | .regionAbsent => ""
  | .outOfBounds offset length stored =>
    phrase hex [(offset, " length="), (length, " out of bounds for "), (stored, " stored bytes")]
  | .payloadTooShort claimed available => phrase hex [(claimed, ", carries "), (available, "")]
  | .unknownOpcode tag => phrase decimal [(tag.toNat, "")]
  | .uncheckedAccess cause => cause.message

theorem mark_mem (r : Refusal) : r.mark ∈ messageMarks := by
  cases r <;> simp [mark, messageMarks]

theorem message_eq (r : Refusal) : r.message = r.mark ++ r.details := by
  cases r <;> unfold message mark details
  case regionAbsent => rfl
  case outOfBounds => simp only [phrase, String.append_assoc, String.append_empty]
  case payloadTooShort => simp only [phrase, String.append_assoc, String.append_empty]
  case unknownOpcode => simp only [phrase, String.append_empty]
  case uncheckedAccess => rfl

theorem message_injective {r r' : Refusal} (h : r.message = r'.message) : r = r' := by
  rw [message_eq, message_eq] at h
  obtain ⟨hmark, hdetails⟩ := eq_of_marks messageMarks_apart r.mark_mem r'.mark_mem h
  cases r <;> cases r' <;> simp [mark] at hmark
  case regionAbsent.regionAbsent => rfl
  case outOfBounds.outOfBounds =>
    dsimp only [details] at hdetails
    have hwords : separates [" length=", " out of bounds for ", " stored bytes"] := by decide
    cases phrase_injective tellsNumbers_hex hdetails hwords rfl
    rfl
  case payloadTooShort.payloadTooShort =>
    dsimp only [details] at hdetails
    have hwords : separates [", carries ", ""] := by decide
    cases phrase_injective tellsNumbers_hex hdetails hwords rfl
    rfl
  case unknownOpcode.unknownOpcode tag tag' =>
    rw [tag_injective hdetails]
  case uncheckedAccess.uncheckedAccess => rw [RangeError.message_injective hdetails]

end Refusal

/-! ## 5. Failures of every kind -/

theorem messages_apart {mark mark' : String} (hmark : mark ∈ messageMarks)
    (hmark' : mark' ∈ messageMarks) (hne : mark ≠ mark') (details details' : String) :
    mark ++ details ≠ mark' ++ details' := by
  intro h
  exact hne (eq_of_marks messageMarks_apart hmark hmark' h).1

theorem RangeError.message_ne_packetError (e : RangeError) (e' : PacketError) :
    e.message ≠ e'.message := by
  rw [message_eq, e'.message_eq]
  apply messages_apart e.mark_mem e'.mark_mem
  cases e <;> cases e' <;> simp [mark, PacketError.mark]

theorem Refusal.message_ne_rangeError (r : Refusal) (e : RangeError) : r.message ≠ e.message := by
  rw [message_eq, e.message_eq]
  apply messages_apart r.mark_mem e.mark_mem
  cases r <;> cases e <;> simp [mark, RangeError.mark]

theorem Refusal.message_ne_packetError (r : Refusal) (e : PacketError) :
    r.message ≠ e.message := by
  rw [message_eq, e.message_eq]
  apply messages_apart r.mark_mem e.mark_mem
  cases r <;> cases e <;> simp [mark, PacketError.mark]

/-- Whoever has the text of a refusal, of a failed access or of a decoding failure knows which of the
three it is and the failure itself with all its numbers, the access that was stopped behind an
unchecked one included. -/
theorem messages_identify_failures :
    Function.Injective Refusal.message ∧ Function.Injective RangeError.message ∧
      Function.Injective PacketError.message ∧
      (∀ (r : Refusal) (e : RangeError), r.message ≠ e.message) ∧
      (∀ (r : Refusal) (e : PacketError), r.message ≠ e.message) ∧
      ∀ (e : RangeError) (e' : PacketError), e.message ≠ e'.message :=
  ⟨fun _ _ => Refusal.message_injective, fun _ _ => RangeError.message_injective,
    fun _ _ => PacketError.message_injective, Refusal.message_ne_rangeError,
    Refusal.message_ne_packetError, RangeError.message_ne_packetError⟩

/-- The digits of neighbouring numbers do not run together, and an access that was stopped reads
otherwise than the failure that stopped it and than the same range refused before. -/
theorem texts_of_one_range :
    let stopped : RangeError := .outOfBounds 0x11 0x2 0x3
    stopped.message ≠ (RangeError.outOfBounds 0x1 0x12 0x3).message ∧
      (Refusal.uncheckedAccess stopped).message ≠ stopped.message ∧
      (Refusal.uncheckedAccess stopped).message ≠ (Refusal.outOfBounds 0x11 0x2 0x3).message := by
  intro stopped
  obtain ⟨hrefusal, haccess, -, hapart, -⟩ := messages_identify_failures
  refine ⟨?_, hapart _ _, ?_⟩
  · intro h
    exact absurd (haccess h) (by decide)
  · intro h
    exact absurd (hrefusal h) (by decide)

/-! ## 6. Lines on events -/

namespace Journal

def lineMarks : List String :=
  ["DEBUG Dropping packet error=", "DEBUG got a data read packet", "DEBUG got a data write packet",
    "DEBUG got a data reset packet", "DEBUG got an unknown datagram type tag=",
    "DEBUG Resetting stored buffer length=", "TRACE Stored buffer replaced len=",
    "TRACE Stored buffer replaced previous_len=", " WARN Out-of-range access prevented reason=",
    "DEBUG Packet rejected reason="]

theorem lineMarks_apart :
    ∀ mark ∈ lineMarks, ∀ mark' ∈ lineMarks, mark.toList <+: mark'.toList → mark = mark' := by
  decide +kernel

theorem lineOf_one (level : Level) (message name value : String) :
    lineOf level message [(name, some value)] =
      level.label ++ " " ++ message ++ " " ++ name ++ "=" ++ value := by
  simp only [lineOf, List.map_cons, List.map_nil, String.join, List.foldl_cons, List.foldl_nil,
    fieldText, String.empty_append, String.append_assoc]

theorem lineOf_two (level : Level) (message name value name' value' : String) :
    lineOf level message [(name, some value), (name', some value')] =
      level.label ++ " " ++ message ++ " " ++ name ++ "="
        ++ (value ++ (" " ++ name' ++ "=" ++ value')) := by
  simp only [lineOf, List.map_cons, List.map_nil, String.join, List.foldl_cons, List.foldl_nil,
    fieldText, String.empty_append, String.append_assoc]

theorem lineOf_cons_none (level : Level) (message name : String) (fields : List Field) :
    lineOf level message ((name, none) :: fields) = lineOf level message fields := by
  simp only [lineOf, List.map_cons, fieldText, String.join, List.foldl_cons, String.append_empty]

namespace Event

def mark : Event → String
  | .dropped _ => "DEBUG Dropping packet error="
  | .arrived .read => "DEBUG got a data read packet"
  | .arrived .write => "DEBUG got a data write packet"
  | .arrived .reset => "DEBUG got a data reset packet"
  | .arrived (.unknown _) => "DEBUG got an unknown datagram type tag="
  | .replacing _ _ => "DEBUG Resetting stored buffer length="
  | .replaced none _ => "TRACE Stored buffer replaced len="
  | .replaced (some _) _ => "TRACE Stored buffer replaced previous_len="
  | .prevented _ => " WARN Out-of-range access prevented reason="
  | .refused _ => "DEBUG Packet rejected reason="

def details : Event → String
  | .dropped cause => cause.message
  | .arrived (.unknown tag) => phrase decimal [(tag.toNat, "")]
  | .arrived _ => ""
  | .replacing length available => phrase decimal [(length, " available="), (available, "")]
  | .replaced none length => phrase decimal [(length, "")]
  | .replaced (some previous) length => phrase decimal [(previous, " len="), (length, "")]
  | .prevented reason => reason.message
  | .refused reason => reason.message

theorem mark_mem (e : Event) : e.mark ∈ lineMarks := by
  cases e with
  | arrived opcode => cases opcode <;> simp [mark, lineMarks]
  | replaced previous length => cases previous <;> simp [mark, lineMarks]
  | _ => simp [mark, lineMarks]

theorem line_eq (e : Event) : e.line = e.mark ++ e.details := by
  unfold mark details
  cases e with
  | dropped cause => apply lineOf_one
  | arrived opcode =>
    cases opcode with
    | unknown tag =>
      simp only [phrase, String.append_empty]
      apply lineOf_one
    | _ => rfl
  | replacing length available =>
    simp only [phrase, String.append_empty]
    apply lineOf_two
  | replaced previous length =>
    simp only [phrase, String.append_empty]
    cases previous with
    | none => exact (lineOf_cons_none _ _ _ _).trans (lineOf_one ..)
    | some previous => apply lineOf_two
  | prevented reason => apply lineOf_one
  | refused reason => apply lineOf_one

-- There are ten marks; lines with the same one are about events of the same kind.
theorem eq_of_details {e e' : Event} (hmark : e.mark = e'.mark) (h : e.details = e'.details) :
    e = e' := by
  rcases e with _ | (_ | _ | _ | tag) | _ | ⟨_ | _, _⟩ | _ | _ <;>
    rcases e' with _ | (_ | _ | _ | tag') | _ | ⟨_ | _, _⟩ | _ | _ <;>
    simp [mark] at hmark
  all_goals dsimp only [details] at h
  case dropped.dropped => rw [PacketError.message_injective h]
  case arrived.read.arrived.read => rfl
  case arrived.write.arrived.write => rfl
  case arrived.reset.arrived.reset => rfl
  case arrived.unknown.arrived.unknown => rw [tag_injective h]
  case replacing.replacing =>
    have hwords : separates [" available=", ""] := by decide
    cases phrase_injective tellsNumbers_decimal h hwords rfl
    rfl
  case replaced.none.replaced.none =>
    cases phrase_injective tellsNumbers_decimal h rfl rfl
    rfl
  case replaced.some.replaced.some =>
    have hwords : separates [" len=", ""] := by decide
    cases phrase_injective tellsNumbers_decimal h hwords rfl
    rfl
  case prevented.prevented => rw [Refusal.message_injective h]
  case refused.refused => rw [Refusal.message_injective h]

theorem line_injective {e e' : Event} (h : e.line = e'.line) : e = e' := by
  rw [line_eq, line_eq] at h
  obtain ⟨hmark, hdetails⟩ := eq_of_marks lineMarks_apart e.mark_mem e'.mark_mem h
  exact eq_of_details hmark hdetails

end Event

end Journal

end BufferKeeper
