import BufferKeeper.Program
import BufferKeeper.Proofs.Messages
import BufferKeeper.Proofs.Refusals
import BufferKeeper.Proofs.ReplacementLog

/-!
# The log tells the outcome

What is reported while a packet is handled follows from what became of it: `Reported` lists the five
ways that handling can end, each with its events. So a reader of the log at the level `debug` knows the
outcome but for the bytes of a read (`Outcome.told`), and at `info` and `warn` the only lines are those
on accesses that were stopped at the region, of which a keeper under `safe` has none.
-/

namespace BufferKeeper

open Journal Text

/-! ## 1. The lines of a call -/

def Refusal.line : Refusal → String
  | .uncheckedAccess cause =>
    " WARN Out-of-range access prevented reason=" ++ (Refusal.uncheckedAccess cause).message
  | reason => "DEBUG Packet rejected reason=" ++ reason.message

def Refusal.event : Refusal → Event
  | .uncheckedAccess cause => .prevented (.uncheckedAccess cause)
  | reason => .refused reason

def Opcode.line : Opcode → String
  | .read => "DEBUG got a data read packet"
  | .write => "DEBUG got a data write packet"
  | .reset => "DEBUG got a data reset packet"
  | .unknown tag => "DEBUG got an unknown datagram type tag=" ++ decimal tag.toNat

/-- The line on a replacement that is about to be made. -/
def Packet.replacingLine (packet : Packet) : String :=
  "DEBUG Resetting stored buffer length=" ++ decimal packet.length
    ++ " available=" ++ decimal packet.available

/-- What of the reported is printed at a level. -/
def Journal.admitted (level : Level) (events : List Event) : List Event :=
  events.filter fun e => (Threshold.atLeast level).admits e.level

def Handled.lines (done : Handled) (level : Level) : List String :=
  Journal.lines (.atLeast level) done.events

theorem Refusal.line_event (reason : Refusal) : reason.event.line = reason.line := by
  cases reason <;> exact Event.line_eq _

theorem Outcome.report_refused (reason : Refusal) :
    (Outcome.refused reason).report = [reason.event] := by
  cases reason <;> rfl

theorem Opcode.line_arrived (opcode : Opcode) : (Event.arrived opcode).line = opcode.line := by
  cases opcode with
  | unknown tag =>
    rw [Event.line_eq]
    unfold Event.mark Event.details line
    simp only [phrase, String.append_empty]
  | _ => rfl

theorem Packet.line_replacing (packet : Packet) :
    (Event.replacing packet.length packet.available).line = packet.replacingLine := by
  rw [Event.line_eq]
  unfold Event.mark Event.details replacingLine
  simp only [phrase, String.append_empty, String.append_assoc]

theorem readableDirectives_of_name {name : String} {level : Level}
    (h : Threshold.ofName? name = some (.atLeast level)) :
    readableDirectives name = [{ Directive.everything with threshold := .atLeast level }] := by
  unfold Threshold.ofName? at h
  repeat' split at h
  all_goals cases h
  all_goals subst name
  all_goals decide +kernel

-- The program's log filter with the name of a level is the threshold at that level.
theorem eventLines_of_name {name : String} {level : Level}
    (h : Threshold.ofName? name = some (.atLeast level)) (events : List Event) :
    eventLines (readableDirectives name) events = lines (.atLeast level) events := by
  rw [readableDirectives_of_name h]
  rfl

/-! ## 2. What is reported -/

/-- What handling comes to that was brought `received`, and what is reported of it. -/
inductive Reported (received : Except PacketError Packet) : Outcome → List Event → Prop where
  | malformed {cause : PacketError} (h : received = .error cause) :
      Reported received (.malformed cause) [.dropped cause]
  | read {packet : Packet} {data : List UInt8} (h : received = .ok packet)
      (op : packet.header.opcode = .read) : Reported received (.applied (some data)) [.arrived .read]
  | write {packet : Packet} (h : received = .ok packet) (op : packet.header.opcode = .write) :
      Reported received (.applied none) [.arrived .write]
  | reset {packet : Packet} {previous : Option Nat} (h : received = .ok packet)
      (op : packet.header.opcode = .reset) :
      Reported received (.applied none)
        [.arrived .reset, .replacing packet.length packet.available,
          .replaced previous packet.length]
  | refused {packet : Packet} {reason : Refusal} (h : received = .ok packet) :
      Reported received (.refused reason) [.arrived packet.header.opcode, reason.event]

theorem Effect.reported {policy : Policy} {inbox : Inbox} {packet : Packet} {before after : Region}
    {response : Option (List UInt8)} (h : Effect policy inbox packet before response after) :
    Reported (.ok packet) (.applied response)
      (.arrived packet.header.opcode :: packet.effectEvents before) := by
  unfold Packet.effectEvents
  cases h with
  | read op _ =>
    rw [op, if_neg Opcode.noConfusion]
    exact .read rfl op
  | write op _ _ =>
    rw [op, if_neg Opcode.noConfusion]
    exact .write rfl op
  | reset op _ =>
    rw [op, if_pos rfl]
    exact .reset rfl op

namespace Keeper

variable {k : Keeper}

theorem reported_handled (k : Keeper) (n : Nat) :
    Reported (Packet.decode (k.inbox.front n)) (k.handled n).outcome (k.handled n).events := by
  cases h : Packet.decode (k.inbox.front n) with
  | error cause =>
    unfold handled
    rw [h]
    exact .malformed rfl
  | ok packet =>
    rw [events_of_decode h, (handled_of_decode h).1]
    rcases perform_eq_cases k.policy k.region k.inbox packet with ⟨_, _, heffect, hdone⟩ | hdone
    · rw [hdone]
      show Reported _ _ (_ ++ [])
      rw [List.append_nil]
      exact heffect.reported
    · rw [hdone, Handled.refuse, Outcome.report_refused]
      exact .refused rfl

theorem reported_processed (k : Keeper) (input : List UInt8) :
    Reported (Packet.ofInput input) (k.processed input).outcome (k.processed input).events := by
  have h := (k.receive input).reported_handled (taken input)
  rw [decode_received] at h
  exact h

def received? (k : Keeper) : Action → Option (Except PacketError Packet)
  | .process input => some (Packet.ofInput input)
  | .handle n => some (Packet.decode (k.inbox.front n))
  | .fill _ _ => none

/-- An action with what it brings the keeper and what that comes to. -/
def Comes (k : Keeper) (action : Action) (received : Except PacketError Packet) (done : Handled) :
    Prop :=
  k.received? action = some received ∧ k.handled? action = some done

theorem Comes.reported {action : Action} {received : Except PacketError Packet} {done : Handled}
    (h : k.Comes action received done) : Reported received done.outcome done.events := by
  obtain ⟨hreceived, hdone⟩ := h
  cases action with
  | process input =>
    cases hreceived
    cases hdone
    exact k.reported_processed input
  | handle n =>
    cases hreceived
    cases hdone
    exact k.reported_handled n
  | fill start data => cases hdone

end Keeper

/-! ## 3. What lines say of the outcome -/

/-- The outcome that the events of a call tell of, the bytes of a read left out. -/
def Outcome.told : List Event → Option Outcome
  | [.dropped cause] => some (.malformed cause)
  | [.arrived .read] => some (.applied (some []))
  | [.arrived .write] => some (.applied none)
  | [.arrived .reset, .replacing _ _] => some (.applied none)
  | [.arrived _, .prevented reason] => some (.refused reason)
  | [.arrived _, .refused reason] => some (.refused reason)
  | _ => none

def Outcome.withoutBytes : Outcome → Outcome
  | .applied response => .applied (response.map fun _ => [])
  | .refused reason => .refused reason
  | .malformed cause => .malformed cause

section Lines

variable {received received' : Except PacketError Packet} {outcome outcome' : Outcome}
  {events events' : List Event}

theorem Reported.told (h : Reported received outcome events) :
    Outcome.told (admitted .debug events) = some outcome.withoutBytes := by
  cases h with
  | malformed _ => rfl
  | read _ _ => rfl
  | write _ _ => rfl
  | reset _ _ => rfl
  | @refused packet reason _ =>
    cases packet.header.opcode <;> cases reason <;> rfl

theorem Reported.lines_of_malformed {cause : PacketError}
    (h : Reported received (.malformed cause) events) :
    lines (.atLeast .debug) events = ["DEBUG Dropping packet error=" ++ cause.message] := by
  cases h with
  | malformed _ =>
    show [(Event.dropped cause).line] = _
    rw [Event.line_eq]
    rfl

theorem Reported.lines_of_applied {response : Option (List UInt8)}
    (h : Reported received (.applied response) events) :
    ∃ packet, received = .ok packet ∧
      (((packet.header.opcode = .read ∨ packet.header.opcode = .write) ∧
          lines (.atLeast .debug) events = [packet.header.opcode.line]) ∨
        (packet.header.opcode = .reset ∧
          lines (.atLeast .debug) events = [packet.header.opcode.line, packet.replacingLine])) := by
  cases h with
  | read h op =>
    refine ⟨_, h, .inl ⟨.inl op, ?_⟩⟩
    rw [op, ← Opcode.line_arrived]
    rfl
  | write h op =>
    refine ⟨_, h, .inl ⟨.inr op, ?_⟩⟩
    rw [op, ← Opcode.line_arrived]
    rfl
  | reset h op =>
    refine ⟨_, h, .inr ⟨op, ?_⟩⟩
    rw [op, ← Opcode.line_arrived, ← Packet.line_replacing]
    rfl

theorem Reported.lines_of_refused {reason : Refusal}
    (h : Reported received (.refused reason) events) :
    ∃ packet, received = .ok packet ∧
      lines (.atLeast .debug) events = [packet.header.opcode.line, reason.line] := by
  cases h with
  | @refused packet _ h =>
    refine ⟨packet, h, ?_⟩
    rw [← Opcode.line_arrived, ← Refusal.line_event]
    cases reason <;> rfl

-- Only the line on an access that was stopped at the region is more severe than `debug`.
theorem Reported.lines_of_stopped {cause : RangeError}
    (h : Reported received (.refused (.uncheckedAccess cause)) events) {level : Level}
    (hlevel : level = .info ∨ level = .warn) :
    lines (.atLeast level) events = [(Refusal.uncheckedAccess cause).line] := by
  cases h with
  | refused _ =>
    rw [← Refusal.line_event]
    rcases hlevel with rfl | rfl <;> rfl

theorem Reported.lines_of_not_stopped (h : Reported received outcome events)
    (hnot : ∀ cause, outcome ≠ .refused (.uncheckedAccess cause)) {level : Level}
    (hlevel : level = .info ∨ level = .warn ∨ level = .error) :
    lines (.atLeast level) events = [] := by
  cases h with
  | @refused _ reason _ =>
    cases reason with
    | uncheckedAccess cause => exact absurd rfl (hnot cause)
    | _ => rcases hlevel with rfl | rfl | rfl <;> rfl
  | _ => rcases hlevel with rfl | rfl | rfl <;> rfl

theorem Outcome.eq_of_withoutBytes (h : outcome.withoutBytes = outcome'.withoutBytes) :
    outcome = outcome' ∨
      ∃ data data', outcome = .applied (some data) ∧ outcome' = .applied (some data') := by
  cases outcome <;> cases outcome' <;> injection h
  case refused.refused hreason => exact .inl (congrArg Outcome.refused hreason)
  case malformed.malformed hcause => exact .inl (congrArg Outcome.malformed hcause)
  case applied.applied response response' hresponse =>
    cases response <;> cases response' <;> cases hresponse
    case none.none => exact .inl rfl
    case some.some data data' => exact .inr ⟨data, data', rfl, rfl⟩

/-- A read was brought, and its answer are these bytes. -/
def AnswersRead (received : Except PacketError Packet) (outcome : Outcome) (data : List UInt8) :
    Prop :=
  outcome = .applied (some data) ∧ ∃ packet, received = .ok packet ∧ packet.header.opcode = .read

theorem Reported.answersRead {data : List UInt8}
    (h : Reported received (.applied (some data)) events) :
    AnswersRead received (.applied (some data)) data := by
  cases h with
  | @read packet _ h op => exact ⟨rfl, packet, h, op⟩

theorem Reported.outcome_of_lines (h : Reported received outcome events)
    (h' : Reported received' outcome' events')
    (hlines : lines (.atLeast .debug) events = lines (.atLeast .debug) events') :
    outcome = outcome' ∨
      ∃ data data', AnswersRead received outcome data ∧ AnswersRead received' outcome' data' := by
  have hadmitted : admitted .debug events = admitted .debug events' :=
    (List.map_inj_right fun _ _ => Event.line_injective).mp hlines
  have htold : some outcome.withoutBytes = some outcome'.withoutBytes := by
    rw [← h.told, ← h'.told, hadmitted]
  rcases Outcome.eq_of_withoutBytes (Option.some.inj htold) with heq | ⟨data, data', rfl, rfl⟩
  · exact .inl heq
  · exact .inr ⟨data, data', h.answersRead, h'.answersRead⟩

end Lines

/-! ## 4. Runs -/

namespace Keeper

variable {k : Keeper}

theorem Comes.handles {action : Action} {packet : Packet} {done : Handled}
    (h : k.Comes action (.ok packet) done) : k.Handles packet done := by
  obtain ⟨hreceived, hdone⟩ := h
  cases action with
  | process input => exact .inr ⟨input, Option.some.inj hreceived, Option.some.inj hdone⟩
  | handle n => exact .inl ⟨n, Option.some.inj hreceived, Option.some.inj hdone⟩
  | fill start data => cases hdone

theorem exists_comes {action : Action} {done : Handled} (h : k.handled? action = some done) :
    ∃ received, k.Comes action received done := by
  cases action with
  | process input => exact ⟨_, rfl, h⟩
  | handle n => exact ⟨_, rfl, h⟩
  | fill start data => cases h

theorem Comes.not_stopped_of_safe (hsafe : k.policy = .safe) (hbound : k.region.Bounded)
    {action : Action} {received : Except PacketError Packet} {done : Handled}
    (h : k.Comes action received done) (cause : RangeError) :
    done.outcome ≠ .refused (.uncheckedAccess cause) := by
  intro hstopped
  have hreported := h.reported
  rw [hstopped] at hreported
  obtain ⟨packet, rfl, -⟩ := hreported.lines_of_refused
  obtain ⟨inbox, n, -, hout, -⟩ := h.handles.perform
  obtain ⟨hnot, hreason⟩ := (perform_eq_refused_iff hbound inbox).mp (hout.symm.trans hstopped)
  obtain ⟨hvulnerable, -⟩ := (Policy.refusal_eq_unchecked_iff hbound hnot).mp ⟨cause, hreason.symm⟩
  cases hsafe.symm.trans hvulnerable

theorem act_policy (k : Keeper) (action : Action) : (k.act action).policy = k.policy := by
  cases action <;> rfl

theorem mem_history {actions : List Action} {done : Handled} (h : done ∈ k.history actions) :
    ∃ before action received, before ++ [action] <+: actions ∧
      (k.run before).Comes action received done := by
  induction actions generalizing k with
  | nil => cases h
  | cons action rest ih =>
    rcases List.mem_append.mp h with hfirst | hrest
    · obtain ⟨received, hcomes⟩ := exists_comes (Option.mem_toList.mp hfirst)
      exact ⟨[], action, received, ⟨rest, rfl⟩, hcomes⟩
    · obtain ⟨before, later, received, ⟨tail, hprefix⟩, hcomes⟩ := ih hrest
      exact ⟨action :: before, later, received, ⟨tail, congrArg (action :: ·) hprefix⟩, hcomes⟩

theorem lines_journal (k : Keeper) (actions : List Action) (level : Level) :
    lines (.atLeast level) (k.journal actions) =
      (k.history actions).flatMap fun done => done.lines level := by
  unfold journal lines
  rw [List.filter_flatMap, List.map_flatMap]
  rfl

theorem lines_of_safe_run {actions : List Action} {level : Level}
    (hlevel : level = .info ∨ level = .warn ∨ level = .error) :
    lines (.atLeast level) ((fresh .safe).journal actions) = [] := by
  rw [lines_journal]
  apply List.flatMap_eq_nil_iff.mpr
  intro done hdone
  obtain ⟨before, action, received, -, hcomes⟩ := mem_history hdone
  have hbound : ((fresh .safe).run before).region.Bounded :=
    Reachable.bounded ⟨.safe, before, rfl⟩
  have hsafe : ((fresh .safe).run before).policy = .safe :=
    run_induction (P := fun k => k.policy = .safe) (fun k action h => (k.act_policy action).trans h) rfl _
  exact hcomes.reported.lines_of_not_stopped (hcomes.not_stopped_of_safe hsafe hbound) hlevel

end Keeper

/-! ## 5. The law -/

/-- What the lines of a call that was brought `received` say of its outcome: at `info` and `warn` only
that an access was stopped at the region, and at `debug` the kind of the packet and the reason of a
refusal. -/
structure LogTells (received : Except PacketError Packet) (done : Handled) : Prop where
  stopped : ∀ cause, done.outcome = .refused (.uncheckedAccess cause) →
    ∀ level, level = .info ∨ level = .warn →
      done.lines level = [(Refusal.uncheckedAccess cause).line]
  quiet : (∀ cause, done.outcome ≠ .refused (.uncheckedAccess cause)) →
    ∀ level, level = .info ∨ level = .warn → done.lines level = []
  malformed : ∀ cause, done.outcome = .malformed cause →
    done.lines .debug = ["DEBUG Dropping packet error=" ++ cause.message]
  applied : ∀ response, done.outcome = .applied response →
    ∃ packet, received = .ok packet ∧
      (((packet.header.opcode = .read ∨ packet.header.opcode = .write) ∧
          done.lines .debug = [packet.header.opcode.line]) ∨
        (packet.header.opcode = .reset ∧
          done.lines .debug = [packet.header.opcode.line, packet.replacingLine]))
  refused : ∀ reason, done.outcome = .refused reason →
    ∃ packet, received = .ok packet ∧
      done.lines .debug = [packet.header.opcode.line, reason.line]

theorem Reported.logTells {received : Except PacketError Packet} {done : Handled}
    (h : Reported received done.outcome done.events) : LogTells received done := by
  constructor
  case stopped =>
    intro cause hout level hlevel
    rw [hout] at h
    exact h.lines_of_stopped hlevel
  case quiet =>
    intro hnot level hlevel
    apply h.lines_of_not_stopped hnot
    rcases hlevel with rfl | rfl
    · exact .inl rfl
    · exact .inr (.inl rfl)
  case malformed =>
    intro cause hout
    rw [hout] at h
    exact h.lines_of_malformed
  case applied =>
    intro response hout
    rw [hout] at h
    exact h.lines_of_applied
  case refused =>
    intro reason hout
    rw [hout] at h
    exact h.lines_of_refused

/-- The log is faithful to the outcomes. The program filtered by the name of a level prints the lines of
that level. The lines of every call, of any keeper, say of its outcome what `LogTells` has; the log of a
run are the lines of its calls in order, each made by the keeper that the actions before it lead to;
under `safe` a run prints nothing at `info` and above. And whenever the lines of two calls at `debug` are
the same, so are their outcomes, but for the bytes where both answer a read. -/
theorem log_tells_the_outcome :
    (∀ name level, Threshold.ofName? name = some (.atLeast level) →
      ∀ events, eventLines (readableDirectives name) events = lines (.atLeast level) events) ∧
      (∀ (k : Keeper) action received done, k.Comes action received done → LogTells received done) ∧
      (∀ (k : Keeper) actions level, lines (.atLeast level) (k.journal actions) =
        (k.history actions).flatMap fun done => done.lines level) ∧
      (∀ (k : Keeper) actions, ∀ done ∈ k.history actions, ∃ before action received,
        before ++ [action] <+: actions ∧ (k.run before).Comes action received done) ∧
      (∀ actions level, level = .info ∨ level = .warn ∨ level = .error →
        lines (.atLeast level) ((Keeper.fresh .safe).journal actions) = []) ∧
      ∀ (k k' : Keeper) action action' received received' done done',
        k.Comes action received done → k'.Comes action' received' done' →
        done.lines .debug = done'.lines .debug →
        done.outcome = done'.outcome ∨ ∃ data data',
          AnswersRead received done.outcome data ∧ AnswersRead received' done'.outcome data' := by
  refine ⟨?_, ?_, Keeper.lines_journal, ?_, ?_, ?_⟩
  · intro name level hname events
    exact eventLines_of_name hname events
  · intro k action received done hcomes
    exact hcomes.reported.logTells
  · intro k actions done hdone
    exact Keeper.mem_history hdone
  · intro actions level hlevel
    exact Keeper.lines_of_safe_run hlevel
  · intro k k' action action' received received' done done' hcomes hcomes' hlines
    exact hcomes.reported.outcome_of_lines hcomes'.reported hlines

-- A read whose end wraps around is stopped at the region, with one line on it at `warn`. Two reads that
-- different keepers answer with different bytes cannot be told apart by their lines.
theorem lines_of_stopped_and_answered_reads :
    let stored (data : List UInt8) : Packet := ⟨⟨.reset, 0, UInt64.ofNat data.length⟩, data⟩
    let wrapped : Packet := ⟨⟨.read, 18446744073709551615, 2⟩, []⟩
    let read : Packet := ⟨⟨.read, 0, 2⟩, []⟩
    let k := (Keeper.fresh .vulnerable).processAll [(stored [1, 2, 3]).encode]
    let k' := (Keeper.fresh .safe).processAll [(stored [4, 5]).encode]
    eventLines (readableDirectives "warn") (k.processed wrapped.encode).events =
        [" WARN Out-of-range access prevented reason=unchecked access blocked: range "
          ++ "offset=0xffffffffffffffff length=0x2 outside stored buffer of 0x3 bytes"] ∧
      (k.processed read.encode).lines .debug = (k'.processed read.encode).lines .debug ∧
      (k.processed read.encode).outcome = .applied (some [1, 2]) ∧
      (k'.processed read.encode).outcome = .applied (some [4, 5]) ∧
      ∃ data data', AnswersRead (Packet.ofInput read.encode) (k.processed read.encode).outcome data ∧
        AnswersRead (Packet.ofInput read.encode) (k'.processed read.encode).outcome data' := by
  intro stored wrapped read k k'
  obtain ⟨hprinted, hcalls, -, -, -, hpairs⟩ := log_tells_the_outcome
  have hstopped : (k.processed wrapped.encode).outcome =
      .refused (.uncheckedAccess (.outOfBounds 18446744073709551615 2 3)) := by
    decide +kernel
  have hfirst : (k.processed read.encode).outcome = .applied (some [1, 2]) := by
    decide +kernel
  have hsecond : (k'.processed read.encode).outcome = .applied (some [4, 5]) := by
    decide +kernel
  have hlines : (k.processed read.encode).lines .debug = (k'.processed read.encode).lines .debug := by
    decide +kernel
  refine ⟨?_, hlines, hfirst, hsecond, ?_⟩
  · have htold := (hcalls k (.process wrapped.encode) _ _ ⟨rfl, rfl⟩).stopped _ hstopped
    rw [hprinted "warn" .warn rfl]
    refine (htold .warn (.inr rfl)).trans ?_
    decide +kernel
  · rcases hpairs k k' (.process read.encode) (.process read.encode) _ _ _ _ ⟨rfl, rfl⟩ ⟨rfl, rfl⟩
      hlines with hsame | hreads
    · rw [hfirst, hsecond] at hsame
      cases hsame
    · exact hreads

end BufferKeeper
