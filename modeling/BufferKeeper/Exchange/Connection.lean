import BufferKeeper.Keeper

/-!
# Connections

Connections are served one after another, and each carries one packet: the server receives once,
handles what it got, sends the response if it has any bytes, and closes. A failed receive leaves the
keeper untouched. A failed send comes after the packet was handled; either failure is all that is
known of the connection afterwards, so its outcome is not reported.
-/

namespace BufferKeeper

/-! ## 1. One connection -/

/-- A connection as it turns out: what the single receive brings, if it succeeds, and whether a
response can be sent. -/
structure Connection where
  received : Option (List UInt8)
  canSend : Bool

/-- The outcome is `none` after a failed receive or send. -/
structure Served where
  outcome : Option Outcome
  reply : List UInt8
  keeper : Keeper

namespace Keeper

def serve (k : Keeper) (connection : Connection) : Served :=
  match connection.received with
  | none => { outcome := none, reply := [], keeper := k }
  | some input =>
    let received := k.receive input
    let outcome := (received.handled (taken input)).outcome
    let after := received.handle (taken input)
    if outcome.reply = [] ∨ connection.canSend then
      { outcome := some outcome, reply := outcome.reply, keeper := after }
    else
      -- the region may have changed all the same
      { outcome := none, reply := [], keeper := after }

/-! ## 2. How a connection can turn out -/

theorem serve_of_lost {k : Keeper} {connection : Connection} (h : connection.received = none) :
    k.serve connection = { outcome := none, reply := [], keeper := k } := by
  unfold serve
  rw [h]

-- To serve what was received is to process it, up to the bytes that are sent back.
theorem serve_of_received {k : Keeper} {connection : Connection} {input : List UInt8}
    (h : connection.received = some input) :
    k.serve connection =
      if (k.processed input).outcome.reply = [] ∨ connection.canSend then
        { outcome := some (k.processed input).outcome
          reply := (k.processed input).outcome.reply
          keeper := k.process input }
      else
        { outcome := none, reply := [], keeper := k.process input } := by
  unfold serve processed process
  rw [h]

theorem serve_of_sent {k : Keeper} {connection : Connection} {input : List UInt8}
    (h : connection.received = some input)
    (hsent : (k.processed input).outcome.reply = [] ∨ connection.canSend) :
    k.serve connection =
      { outcome := some (k.processed input).outcome
        reply := (k.processed input).outcome.reply
        keeper := k.process input } := by
  rw [serve_of_received h, if_pos hsent]

-- Either nothing was received, or the input was handled and its outcome is reported, or it was
-- handled and the bytes to send for it are lost.
theorem serve_cases (k : Keeper) (connection : Connection) :
    (connection.received = none ∧
        k.serve connection = { outcome := none, reply := [], keeper := k }) ∨
      ∃ input, connection.received = some input ∧
        (k.serve connection =
            { outcome := some (k.processed input).outcome
              reply := (k.processed input).outcome.reply
              keeper := k.process input } ∨
          ((k.processed input).outcome.reply ≠ [] ∧
            k.serve connection = { outcome := none, reply := [], keeper := k.process input })) := by
  cases hreceived : connection.received with
  | none => exact .inl ⟨rfl, serve_of_lost hreceived⟩
  | some input =>
    refine .inr ⟨input, rfl, ?_⟩
    by_cases hsent : (k.processed input).outcome.reply = [] ∨ connection.canSend
    · exact .inl (serve_of_sent hreceived hsent)
    · refine .inr ⟨fun hnone => hsent (.inl hnone), ?_⟩
      rw [serve_of_received hreceived, if_neg hsent]

/-! ## 3. One after another -/

def serveAll (k : Keeper) : List Connection → List Served
  | [] => []
  | connection :: rest => k.serve connection :: (k.serve connection).keeper.serveAll rest

end Keeper

end BufferKeeper
