import BufferKeeper.Proofs.Calls
import BufferKeeper.Proofs.Frame

/-!
# Serving is processing

A server does nothing with its connections but process what it receives. So clients whose packets
arrive see one keeper that processes these packets in order: each gets the response to its own
packet, or nothing where there is none. Only reads have a response, hence a client that gets bytes
back knows that they are the stored ones it asked for, and one that gets nothing knows that its read
was refused or asked for none.
-/

namespace BufferKeeper

open Bytes

/-! ## 1. Connections in turn -/

namespace Keeper

def afterServing (k : Keeper) (connections : List Connection) : Keeper :=
  connections.foldl (fun k connection => (k.serve connection).keeper) k

theorem keeper_serve (k : Keeper) (connection : Connection) :
    (k.serve connection).keeper = k.processAll connection.received.toList := by
  rcases k.serve_cases connection with
    ⟨hreceived, hserve⟩ | ⟨input, hreceived, hserve | ⟨-, hserve⟩⟩
  -- the reply differs between the cases, the keeper does not
  all_goals
    rw [hserve, hreceived]
    rfl

-- Failed receives aside, every connection has its input processed, whatever becomes of the reply.
theorem afterServing_eq_processAll (k : Keeper) (connections : List Connection) :
    k.afterServing connections = k.processAll (connections.filterMap Connection.received) := by
  induction connections generalizing k with
  | nil => rfl
  | cons connection rest ih =>
    show (k.serve connection).keeper.afterServing rest = _
    rw [ih, keeper_serve, ← processAll_append]
    cases hreceived : connection.received with
    | none => rw [List.filterMap_cons_none hreceived]; rfl
    | some input => rw [List.filterMap_cons_some hreceived]; rfl

theorem getElem?_serveAll (k : Keeper) (connections : List Connection) (i : Nat) :
    (k.serveAll connections)[i]? =
      connections[i]?.map (k.afterServing (connections.take i)).serve := by
  induction connections generalizing k i with
  | nil => rfl
  | cons connection rest ih =>
    cases i with
    | zero => rfl
    | succ i => exact ih (k.serve connection).keeper i

theorem length_serveAll (k : Keeper) (connections : List Connection) :
    (k.serveAll connections).length = connections.length := by
  induction connections generalizing k with
  | nil => rfl
  | cons connection rest ih =>
    show ((k.serve connection).keeper.serveAll rest).length + 1 = rest.length + 1
    rw [ih]

end Keeper

/-! ## 2. Replies to calls -/

/-- What a reply can be to a call, when the server stored `region` and came to `outcome`. Bytes that
come back are those of the range that was asked for, and none come back for a read that was refused
or asked for none. Writes and resets are never replied to. -/
def Call.Answered (region : Region) (outcome : Outcome) (reply : List UInt8) : Call → Prop
  | .read offset length =>
    (reply = [] ∨ ∃ bytes, region.contents = some bytes ∧
        offset.toNat + length.toNat ≤ bytes.length ∧
        reply = slice bytes offset.toNat length.toNat ∧ reply.length = length.toNat) ∧
      (reply = [] ↔ (∃ reason, outcome = .refused reason) ∨ length = 0)
  | .write _ _ => reply = []
  | .reset _ => reply = []
  | .raw _ => True

namespace Keeper

variable {packet : Packet} {input : List UInt8}

theorem reply_of_ne_read (k : Keeper) (h : Packet.ofInput input = .ok packet)
    (op : packet.header.opcode ≠ .read) : (k.processed input).outcome.reply = [] := by
  rcases k.processed_cases_of_ofInput h with ⟨response, hout, heffect⟩ | ⟨reason, hout, -⟩
  · have hnone : response = none := by
      rw [← Option.not_isSome_iff_eq_none, heffect.response_isSome_iff]
      exact op
    rw [hout, hnone]
    rfl
  · rw [hout]
    rfl

theorem answered_of_read (k : Keeper) (offset length : UInt64) :
    let outcome := (k.processed (Call.read offset length).packet).outcome
    (Call.read offset length).Answered k.region outcome outcome.reply := by
  intro outcome
  have hpacket := Call.ofInput_read offset length
  rcases k.processed_cases_of_ofInput hpacket with
    ⟨response, hout, heffect⟩ | ⟨reason, hrefused, -⟩
  · obtain ⟨bytes, hregion, hfit, hresponse, -⟩ := heffect.of_read rfl
    have hout' : outcome = .applied (some (slice bytes offset.toNat length.toNat)) :=
      hout.trans (congrArg Outcome.applied hresponse)
    have hlen : (slice bytes offset.toNat length.toNat).length = length.toNat := length_slice hfit
    rw [hout', hregion]
    refine ⟨.inr ⟨bytes, rfl, hfit, rfl, hlen⟩, ?_⟩
    show slice bytes offset.toNat length.toNat = [] ↔ _
    rw [← List.length_eq_zero_iff, hlen]
    constructor
    · intro hzero
      exact .inr (UInt64.toNat_inj.mp hzero)
    · rintro (⟨reason, hrefused⟩ | rfl)
      · cases hrefused
      · rfl
  · have hout' : outcome = .refused reason := hrefused
    rw [hout']
    exact ⟨.inl rfl, ⟨fun _ => .inl ⟨reason, rfl⟩, fun _ => rfl⟩⟩

theorem answered (k : Keeper) (call : Call) :
    let outcome := (k.processed call.packet).outcome
    call.Answered k.region outcome outcome.reply := by
  cases call with
  | read offset length => exact k.answered_of_read offset length
  | write offset data =>
    -- however much data there is, the header arrives whole and says that it is a write
    have hpacket := Packet.ofInput_encode_cut (.carrying .write offset data)
    have op : Opcode.write.normalize ≠ .read := by decide
    exact k.reply_of_ne_read hpacket op
  | reset data =>
    have hpacket := Packet.ofInput_encode_cut (.carrying .reset 0 data)
    have op : Opcode.reset.normalize ≠ .read := by decide
    exact k.reply_of_ne_read hpacket op
  | raw packet => trivial

end Keeper

theorem Link.replies_up (k : Keeper) (calls : List Call) :
    Link.up.replies k calls =
      (k.serveAll (calls.map Call.connection)).map fun served => .ok served.reply := by
  induction calls generalizing k with
  | nil => rfl
  | cons call rest ih =>
    show _ :: Link.up.replies (k.serve call.connection).keeper rest = _
    rw [ih]
    rfl

/-! ## 3. The law -/

theorem filterMap_received_connections (calls : List Call) :
    (calls.map Call.connection).filterMap Connection.received = calls.map Call.packet := by
  rw [List.filterMap_map]
  exact congrFun List.filterMap_eq_map calls

/-- Calls to a server that starts fresh come, one by one, to what processing their packets in order
comes to: the outcome that is reported, the keeper afterwards, and the client's reply, which is the
response or nothing. A read is replied to with the stored bytes of its range, or with nothing if it
was refused or asked for none; writes and resets are replied to with nothing. Packets may be of any
size, since serving and processing drop the same bytes behind the 4096th. -/
theorem serving_calls_processes_their_packets (policy : Policy) (calls : List Call) :
    let k := Keeper.fresh policy
    let packets := calls.map Call.packet
    let served := k.serveAll (calls.map Call.connection)
    let replies := Link.up.replies k calls
    served.length = calls.length ∧ replies.length = calls.length ∧
      ∀ i call, calls[i]? = some call →
        let before := k.processAll (packets.take i)
        let outcome := (before.processed call.packet).outcome
        let reply := outcome.response.getD []
        served[i]? = some
            { outcome := some outcome, reply, keeper := k.processAll (packets.take (i + 1)) } ∧
          replies[i]? = some (.ok reply) ∧ call.Answered before.region outcome reply := by
  intro k packets served replies
  have hlen : served.length = calls.length := by
    rw [Keeper.length_serveAll, List.length_map]
  have hreplies : replies = served.map fun served => .ok served.reply := Link.replies_up k calls
  refine ⟨hlen, by rw [hreplies, List.length_map, hlen], ?_⟩
  intro i call hcall before outcome reply
  have hbefore : k.afterServing ((calls.map Call.connection).take i) = before := by
    rw [Keeper.afterServing_eq_processAll, ← List.map_take, filterMap_received_connections,
      List.map_take]
  have hpacket : packets[i]? = some call.packet := by
    rw [List.getElem?_map, hcall]
    rfl
  have hserved : served[i]? = some
      { outcome := some outcome, reply, keeper := k.processAll (packets.take (i + 1)) } := by
    rw [Keeper.getElem?_serveAll, hbefore, List.getElem?_map, hcall,
      Keeper.processAll_take_succ k hpacket]
    exact congrArg some (before.serve_call call)
  refine ⟨hserved, ?_, before.answered call⟩
  rw [hreplies, List.getElem?_map, hserved]
  rfl

/-- Three bytes are stored and the second is written over. A read of the first two returns them, one
that runs past the end is refused, and one of none at the very end is applied: the last two look the
same to the client. -/
theorem replies_of_three_reads :
    let calls : List Call := [.reset [1, 2, 3], .write 1 [9], .read 0 2, .read 2 5, .read 3 0]
    let k := Keeper.fresh .vulnerable
    let served := k.serveAll (calls.map Call.connection)
    let replies := Link.up.replies k calls
    served.map Served.outcome =
        [some (.applied none), some (.applied none), some (.applied (some [1, 9])),
          some (.refused (.outOfBounds 2 5 3)), some (.applied (some []))] ∧
      replies[2]? = some (.ok [1, 9]) ∧ replies[3]? = some (.ok []) ∧
        replies[4]? = some (.ok []) := by
  intro calls k served replies
  obtain ⟨-, -, heach⟩ := serving_calls_processes_their_packets .vulnerable calls
  have hfits := (heach 2 (.read 0 2) rfl).2.1
  have houtside := (heach 3 (.read 2 5) rfl).2.1
  have hnone := (heach 4 (.read 3 0) rfl).2.1
  refine ⟨by decide +kernel, hfits.trans ?_, houtside.trans ?_, hnone.trans ?_⟩
  all_goals exact congrArg (fun reply => some (Except.ok reply)) (by decide +kernel)

end BufferKeeper
