import BufferKeeper.Proofs.Isolation
import BufferKeeper.Proofs.Serving

/-!
# Connections that fail

A connection can fail before its packet is handled, or after that, when the response cannot be sent.
The second kind looks dangerous, since the operation has run and its outcome is not reported. But
only an applied read has bytes to send, and a read changes nothing: an update is never hidden behind
a failed connection. Under `safe` the connections whose outcome was not reported can even be left
out, and the others come to what they came to. (Under `vulnerable` they cannot, because the packet of
a read that failed stays in the inbox.)
-/

namespace BufferKeeper

open Bytes

variable {k : Keeper} {connection : Connection} {input : List UInt8}

/-! ## 1. One connection -/

theorem Outcome.isSome_response_of_reply {outcome : Outcome} (h : outcome.reply ≠ []) :
    outcome.response.isSome := by
  unfold reply at h
  cases hresponse : outcome.response with
  | none =>
    rw [hresponse] at h
    exact absurd rfl h
  | some response => rfl

namespace Keeper

-- Bytes are sent for applied reads alone, and these leave the region.
theorem region_of_reply (h : (k.processed input).outcome.reply ≠ []) :
    (k.process input).region = k.region := by
  have hframe := k.framed_processed input
  obtain ⟨packet, hread⟩ := hframe.answered.mp (Outcome.isSome_response_of_reply h)
  exact hframe.read packet hread

theorem applied_of_region_ne (h : (k.process input).region ≠ k.region) :
    ∃ response, (k.processed input).outcome = .applied response := by
  rcases k.processed_cases input with ⟨packet, response, -, hout, -⟩ | ⟨-, hstays⟩
  · exact ⟨response, hout⟩
  · exact absurd hstays h

theorem region_of_unreported (h : (k.serve connection).outcome = none) :
    (k.serve connection).keeper.region = k.region := by
  rcases k.serve_cases connection with
    ⟨-, hserve⟩ | ⟨input, -, hserve | ⟨hreply, hserve⟩⟩
  · rw [hserve]
  · rw [hserve] at h
    cases h
  · -- there were bytes to send, so it was a read
    rw [hserve]
    exact region_of_reply hreply

theorem reported_applied_of_region_ne (h : (k.serve connection).keeper.region ≠ k.region) :
    ∃ response, (k.serve connection).outcome = some (.applied response) := by
  rcases k.serve_cases connection with
    ⟨-, hserve⟩ | ⟨input, -, hserve | ⟨hreply, hserve⟩⟩
  · rw [hserve] at h
    exact absurd rfl h
  · rw [hserve] at h ⊢
    obtain ⟨response, hout⟩ := applied_of_region_ne h
    exact ⟨response, congrArg some hout⟩
  · rw [hserve] at h
    exact absurd (region_of_reply hreply) h

theorem afterServing_take_succ (k : Keeper) {connections : List Connection} {i : Nat}
    (h : connections[i]? = some connection) :
    k.afterServing (connections.take (i + 1)) =
      ((k.afterServing (connections.take i)).serve connection).keeper := by
  rw [List.take_add_one, h, afterServing, List.foldl_append]
  rfl

end Keeper

/-! ## 2. What is reported -/

/-- The input of a connection with the outcome that is reported for it, if there is one. -/
def Served.turn? (served : Served) (connection : Connection) : Option Turn :=
  match connection.received, served.outcome with
  | some input, some outcome => some ⟨input, outcome⟩
  | _, _ => none

namespace Keeper

def reported (k : Keeper) (connections : List Connection) : List Turn :=
  (connections.zip (k.serveAll connections)).filterMap fun pair => pair.2.turn? pair.1

theorem reported_cons (k : Keeper) (connection : Connection) (rest : List Connection) :
    k.reported (connection :: rest) =
      ((k.serve connection).turn? connection).toList ++
        (k.serve connection).keeper.reported rest := by
  unfold reported
  rw [serveAll, List.zip_cons_cons, List.filterMap_cons]
  cases (k.serve connection).turn? connection with
  | none => rfl
  | some turn => rfl

-- What is not reported of the inputs that arrived are reads whose bytes could not be sent.
theorem thinned_reported (k : Keeper) (connections : List Connection) :
    Thinned (fun turn => turn.outcome.reply ≠ [])
      (k.transcript (connections.filterMap Connection.received)) (k.reported connections) := by
  induction connections generalizing k with
  | nil => exact .nil
  | cons connection rest ih =>
    rw [reported_cons]
    unfold Served.turn?
    rcases k.serve_cases connection with
      ⟨hreceived, hserve⟩ | ⟨input, hreceived, hserve | ⟨hreply, hserve⟩⟩
    · rw [List.filterMap_cons_none hreceived, hserve, hreceived]
      exact ih k
    · rw [List.filterMap_cons_some hreceived, transcript, hserve, hreceived]
      exact .keep _ (ih (k.process input))
    · rw [List.filterMap_cons_some hreceived, transcript, hserve, hreceived]
      exact .leave hreply (ih (k.process input))

theorem unnoticed_of_reply : Unnoticed .safe fun turn => turn.outcome.reply ≠ [] := by
  intro k input hsafe hreply
  exact alike_of_safe hsafe hsafe (region_of_reply hreply)

end Keeper

/-! ## 3. The law -/

/-- A connection whose outcome is not reported leaves the region as it was, in any keeper. So over
connections in turn, each of which may fail to be received or to be replied to, the region changes
only where an applied operation is reported, and under `safe` the inputs whose outcomes were
reported, processed alone, have the same outcomes and end in the same region. -/
theorem failed_connections_hide_no_update (k : Keeper) (connections : List Connection) :
    (∀ connection, (k.serve connection).outcome = none →
        (k.serve connection).keeper.region = k.region) ∧
      (∀ i, (k.afterServing (connections.take (i + 1))).region ≠
          (k.afterServing (connections.take i)).region →
        ∃ served response, (k.serveAll connections)[i]? = some served ∧
          served.outcome = some (.applied response)) ∧
      (k.policy = .safe →
        let turns := k.reported connections
        k.transcript (turns.map Turn.input) = turns ∧
          (k.processAll (turns.map Turn.input)).region = (k.afterServing connections).region) := by
  refine ⟨fun _ => Keeper.region_of_unreported, ?_, ?_⟩
  · intro i hchanged
    cases hconnection : connections[i]? with
    | none =>
      -- behind the last connection there is nothing more to take
      have hlen : connections.length ≤ i := List.getElem?_eq_none_iff.mp hconnection
      rw [List.take_of_length_le hlen, List.take_of_length_le (Nat.le_succ_of_le hlen)] at hchanged
      exact absurd rfl hchanged
    | some connection =>
      rw [k.afterServing_take_succ hconnection] at hchanged
      obtain ⟨response, hout⟩ := Keeper.reported_applied_of_region_ne hchanged
      refine ⟨_, response, ?_, hout⟩
      rw [Keeper.getElem?_serveAll, hconnection]
      rfl
  · intro hsafe turns
    have hkept := k.thinned_reported connections
    obtain ⟨hsame, hend⟩ := (Keeper.Alike.refl k).of_thinned Keeper.unnoticed_of_reply hsafe hkept
    refine ⟨hsame, ?_⟩
    rw [k.afterServing_eq_processAll]
    exact hend.region.symm

/-- Three bytes are stored under `safe`. A receive fails, a read and a write are handled while the
client is gone, and a refused read comes last. Of the two in the middle only the write is reported,
and only the write changes the region. -/
theorem faults_around_a_write :
    let k : Keeper := ⟨.safe, ⟨some [1, 2, 3]⟩, .zeros⟩
    let read : Packet := ⟨⟨.read, 0, 3⟩, []⟩
    let write : Packet := ⟨⟨.write, 1, 1⟩, [9]⟩
    let outside : Packet := ⟨⟨.read, 2, 2⟩, []⟩
    let connections : List Connection := [⟨none, true⟩, ⟨some read.encode, false⟩,
      ⟨some write.encode, false⟩, ⟨some outside.encode, true⟩]
    (k.serve ⟨some read.encode, false⟩).keeper.region = k.region ∧
      (∃ served response, (k.serveAll connections)[2]? = some served ∧
        served.outcome = some (.applied response)) ∧
      (k.processAll [write.encode, outside.encode]).region =
        (k.afterServing connections).region ∧
      (k.afterServing connections).region = ⟨some [1, 9, 3]⟩ := by
  intro k read write outside connections
  obtain ⟨hunreported, hchanged, hsafe⟩ := failed_connections_hide_no_update k connections
  have hreported : (k.reported connections).map Turn.input = [write.encode, outside.encode] := by
    decide +kernel
  have hend := (hsafe rfl).2
  rw [hreported] at hend
  exact ⟨hunreported _ (by decide +kernel), hchanged 2 (by decide +kernel), hend, by decide +kernel⟩

end BufferKeeper
