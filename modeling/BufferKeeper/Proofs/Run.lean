import BufferKeeper.Proofs.Handling

/-!
# Runs of a keeper

A keeper processes inputs one after another. Its transcript lists every input with what became of
it, in order, and laws about a run are stated on the transcript. A keeper is reachable when actions
of any kind lead to it from a fresh one; what every action preserves holds of all of them
(`Reachable.induction`).
-/

namespace BufferKeeper

structure Turn where
  input : List UInt8
  outcome : Outcome
  deriving DecidableEq

namespace Keeper

/-! ## 1. Processing inputs in turn -/

def processAll (k : Keeper) (inputs : List (List UInt8)) : Keeper :=
  inputs.foldl process k

def transcript (k : Keeper) : List (List UInt8) → List Turn
  | [] => []
  | input :: rest => ⟨input, (k.processed input).outcome⟩ :: (k.process input).transcript rest

@[simp] theorem processAll_cons (k : Keeper) (input : List UInt8) (rest : List (List UInt8)) :
    k.processAll (input :: rest) = (k.process input).processAll rest := rfl

@[simp] theorem processAll_policy (k : Keeper) (inputs : List (List UInt8)) :
    (k.processAll inputs).policy = k.policy := by
  induction inputs generalizing k with
  | nil => rfl
  | cons input rest ih => rw [processAll_cons, ih, process_policy]

theorem processAll_append (k : Keeper) (before after : List (List UInt8)) :
    k.processAll (before ++ after) = (k.processAll before).processAll after :=
  List.foldl_append

theorem processAll_take_succ (k : Keeper) {inputs : List (List UInt8)} {i : Nat}
    {input : List UInt8} (h : inputs[i]? = some input) :
    k.processAll (inputs.take (i + 1)) = (k.processAll (inputs.take i)).process input := by
  rw [List.take_add_one, h, processAll_append]
  rfl

theorem transcript_map_input (k : Keeper) (inputs : List (List UInt8)) :
    (k.transcript inputs).map Turn.input = inputs := by
  induction inputs generalizing k with
  | nil => rfl
  | cons input rest ih => rw [transcript, List.map_cons, ih]

-- Where a transcript is cut, the later part is that of the keeper which the earlier inputs lead to.
theorem transcript_eq_append {k : Keeper} {inputs : List (List UInt8)} {earlier later : List Turn}
    (h : k.transcript inputs = earlier ++ later) :
    ∃ before after, inputs = before ++ after ∧ k.transcript before = earlier ∧
      (k.processAll before).transcript after = later := by
  induction earlier generalizing k inputs with
  | nil => exact ⟨[], inputs, rfl, rfl, h⟩
  | cons first earlier ih =>
    cases inputs with
    | nil => cases h
    | cons input rest =>
      injection h with hfirst hrest
      obtain ⟨before, after, hsplit, hbefore, hafter⟩ := ih hrest
      exact ⟨input :: before, after, by rw [hsplit, List.cons_append],
        by rw [transcript, hfirst, hbefore], hafter⟩

theorem transcript_eq_cons {k : Keeper} {inputs : List (List UInt8)} {turn : Turn}
    {later : List Turn} (h : k.transcript inputs = turn :: later) :
    ∃ rest, inputs = turn.input :: rest ∧ (k.processed turn.input).outcome = turn.outcome ∧
      (k.process turn.input).transcript rest = later := by
  cases inputs with
  | nil => cases h
  | cons input rest =>
    injection h with hturn hlater
    subst hturn
    exact ⟨rest, rfl, rfl, hlater⟩

-- A turn of the transcript was taken by the keeper that the inputs before it lead to.
theorem transcript_eq_append_cons {k : Keeper} {inputs : List (List UInt8)} {turn : Turn}
    {earlier later : List Turn} (h : k.transcript inputs = earlier ++ turn :: later) :
    ∃ before, k.transcript before = earlier ∧
      ((k.processAll before).processed turn.input).outcome = turn.outcome := by
  obtain ⟨before, after, -, hbefore, hafter⟩ := transcript_eq_append h
  obtain ⟨rest, -, hout, -⟩ := transcript_eq_cons hafter
  exact ⟨before, hbefore, hout⟩

/-! ## 2. Reachable keepers -/

/-- Some actions lead to the keeper from a fresh one. -/
def Reachable (k : Keeper) : Prop :=
  ∃ policy actions, (fresh policy).run actions = k

theorem run_induction {P : Keeper → Prop} (hact : ∀ k action, P k → P (k.act action))
    {k : Keeper} (h : P k) (actions : List Action) : P (k.run actions) := by
  induction actions generalizing k with
  | nil => exact h
  | cons action rest ih => exact ih (hact k action h)

theorem Reachable.induction {P : Keeper → Prop} (hfresh : ∀ policy, P (fresh policy))
    (hact : ∀ k action, P k → P (k.act action)) {k : Keeper} (h : k.Reachable) : P k := by
  obtain ⟨policy, actions, rfl⟩ := h
  exact run_induction hact (hfresh policy) actions

theorem reachable_processAll (policy : Policy) (inputs : List (List UInt8)) :
    ((fresh policy).processAll inputs).Reachable :=
  ⟨policy, inputs.map .process, List.foldl_map ..⟩

end Keeper

end BufferKeeper
