import DatasetPicker.Proofs.Selector.Coherence
import Mathlib.Data.List.Induction

/-!
# Moving through the results

The results lie below the text that is typed. A move goes down to the next of them, as far as
the last, or up to the one before, as far as the text. So the highlight walks over the positions
from zero to the number of results, and at each of them the text in the input is the result that
stands there. At position zero it is the text that moving began with, or the one from before the
edit if any move went up.
-/

namespace DatasetPicker.Selector

/-- A move of the highlight. -/
inductive Move where
  | down
  | up
  deriving DecidableEq

namespace Move

/-- The event of a move. -/
def event : Move → Event
  | .down => .nextResult
  | .up => .previousResult

/-- The position that a move leads to among so many results. -/
def step (count position : Nat) : Move → Nat
  | .down => min (position + 1) count
  | .up => position - 1

/-- The position that moves lead to one after the other. -/
def walk (count start : Nat) (moves : List Move) : Nat := moves.foldl (step count) start

end Move

namespace Context

/-- The position of the highlight: zero without one, and one for the first result. -/
def position (context : Context) : Nat :=
  match context.current with
  | none => 0
  | some index => index + 1

/-- The context after a move. -/
def move (context : Context) : Move → Context
  | .down => context.moveDown
  | .up => context.moveUp

variable {context : Context}

/-- The highlight does not go beyond the last result. -/
theorem Offering.position_le (offering : context.Offering) :
    context.position ≤ context.results.length := by
  unfold position
  cases highlighted : context.current with
  | none => exact Nat.zero_le _
  | some index =>
    obtain ⟨inside, -⟩ :=
      List.getElem?_eq_some_iff.mp (offering.highlighted index highlighted)
    exact inside

/-- At a position beyond zero the text is the result that stands there. -/
theorem Offering.text (offering : context.Offering) (beyond : 0 < context.position) :
    context.results[context.position - 1]? = some context.value := by
  unfold position at beyond ⊢
  cases highlighted : context.current with
  | none =>
    rw [highlighted] at beyond
    contradiction
  | some index => exact offering.highlighted index highlighted

/-- Moving down leads to the next position, if there is one. -/
theorem moveDown_position (context : Context) :
    context.moveDown.position = min (context.position + 1) context.results.length := by
  by_cases empty : context.results = []
  · simp [position, moveDown, empty]
  · have positive := List.length_pos_iff.mpr empty
    cases highlighted : context.current with
    | none =>
      have first : context.moveDown.current = some 0 := by simp [moveDown, empty, highlighted]
      simp only [position, first, highlighted]
      omega
    | some index =>
      have next : context.moveDown.current =
          some (min (index + 1) (context.results.length - 1)) := by
        simp [moveDown, empty, highlighted]
      simp only [position, next, highlighted]
      omega

/-- Moving up leads to the position before, if there is one. -/
theorem Offering.moveUp_position (offering : context.Offering) :
    context.moveUp.position = context.position - 1 := by
  match highlighted : context.current with
  | none => simp only [position, moveUp, highlighted]
  | some 0 => simp only [position, moveUp, highlighted]
  | some (index + 1) =>
    obtain ⟨inside, -⟩ :=
      List.getElem?_eq_some_iff.mp (offering.highlighted (index + 1) highlighted)
    have listed := List.getElem?_eq_getElem (Nat.lt_of_succ_lt inside)
    simp only [position, moveUp, highlighted, listed]
    rfl

/-- A move leads to the position that it steps to. -/
theorem Offering.move_position (offering : context.Offering) (move : Move) :
    (context.move move).position = move.step context.results.length context.position := by
  cases move with
  | down => exact moveDown_position context
  | up => exact offering.moveUp_position

/-- A move changes the text and the highlight only, and drops the completion. -/
theorem move_changes (context : Context) (move : Move) : ∃ value current,
    context.move move = { context with value, current, completion := none } := by
  cases move with
  | down => exact ⟨_, _, rfl⟩
  | up => exact moveUp_changes context

/-- A move that leaves no result highlighted keeps the text if it goes down, and restores the one
from before the edit if it goes up. -/
theorem move_text (context : Context) (move : Move) (top : (context.move move).position = 0) :
    (context.move move).value = if move = .up then context.previous else context.value := by
  cases move with
  | down =>
    have off : context.moveDown.current = none := by
      cases highlighted : context.moveDown.current with
      | none => rfl
      | some index => simp [Context.move, position, highlighted] at top
    have text : context.moveDown.value =
        (context.moveDown.current.bind (context.results[·]?)).getD context.value := rfl
    rw [if_neg nofun, Context.move, text, off]
    rfl
  | up =>
    rw [if_pos rfl]
    match highlighted : context.current with
    | none | some 0 => simp only [Context.move, moveUp, highlighted]
    | some (index + 1) =>
      cases listed : context.results[index]? with
      | none => simp only [Context.move, moveUp, highlighted, listed]
      | some name => simp [Context.move, moveUp, highlighted, listed, position] at top

end Context

/-! ## Moving on -/

/-- The context after some moves from another. -/
structure Context.Walked (before : Context) (moves : List Move) (after : Context) : Prop where
  position : after.position = Move.walk before.results.length before.position moves
  /-- Without a highlight the text is the one that moving began with, or the one from before the
  edit. -/
  text : after.position = 0 →
    after.value = if .up ∈ moves then before.previous else before.value
  kept : after =
    { before with value := after.value, current := after.current, completion := after.completion }
  completion : moves ≠ [] → after.completion = none

namespace Context

/-- Without moves nothing has changed. -/
theorem walked_nil (context : Context) : context.Walked [] context :=
  ⟨rfl, fun _ => rfl, rfl, fun moved => absurd rfl moved⟩

/-- One more move goes on with a walk. -/
theorem Walked.move {before after : Context} {moves : List Move}
    (walked : before.Walked moves after) (offering : after.Offering) (move : Move) :
    before.Walked (moves ++ [move]) (after.move move) := by
  obtain ⟨value, current, changed⟩ := after.move_changes move
  have results : after.results = before.results := by rw [walked.kept]
  have previous : after.previous = before.previous := by rw [walked.kept]
  have position : (after.move move).position =
      Move.walk before.results.length before.position (moves ++ [move]) := by
    rw [offering.move_position, results, walked.position, Move.walk, Move.walk,
      List.foldl_append, List.foldl_cons, List.foldl_nil]
  refine ⟨position, ?_, ?_, ?_⟩
  · intro top
    rw [after.move_text move top]
    cases move with
    | up => rw [if_pos rfl, if_pos (by simp), previous]
    | down =>
      have began : after.position = 0 := by
        have bound := offering.position_le
        have led := (offering.move_position .down).symm.trans top
        simp only [Move.step] at led
        omega
      rw [if_neg nofun, walked.text began]
      simp
  · rw [changed, walked.kept]
  · intro _
    rw [changed]

end Context

namespace Session

variable {session : Session}

/-- A move in an edit moves the highlight. -/
theorem send_move (session : Session) (move : Move) (fresh : ErrorId)
    (editing : session.mode.isEditing = true) :
    (session.send move.event fresh).session = ⟨session.mode, session.context.move move⟩ := by
  obtain ⟨mode, context⟩ := session
  cases mode with
  | reading => contradiction
  | editing input results => cases move <;> rfl

/-- Moves in an edit walk, and the edit goes on in its regions. -/
theorem Coherent.sendAll_moves (coherent : session.Coherent) (fresh : ErrorId)
    (editing : session.mode.isEditing = true) (moves : List Move) :
    let after := (session.sendAll fresh (moves.map Move.event)).session
    after.mode = session.mode ∧ session.context.Walked moves after.context := by
  -- The last move decides about the text, so the walk before it comes first.
  induction moves using List.reverseRecOn with
  | nil => exact ⟨rfl, session.context.walked_nil⟩
  | append_singleton moves move ih =>
    obtain ⟨mode, walked⟩ := ih
    have offering := (coherent.sendAll fresh (moves.map Move.event)).offering
    rw [List.map_append, List.map_singleton, sendAll_append, sendAll_one]
    simp only [Reaction.followedBy]
    rw [send_move _ move _ (by rw [mode]; exact editing)]
    exact ⟨mode, walked.move offering move⟩

/-- In an edit that is reached, moves walk with the highlight between zero and the number of
results: each move down adds one and each move up takes one away, as far as that is possible. At
a position beyond zero the text is the result that stands there. At zero it is the text before
the edit if there was a move up, and else the text that moving began with. All else is kept but
the completion, which the first move drops. -/
theorem moves_walk {candidates : List String} {session : Session}
    (reached : Reached candidates session) (editing : session.mode.isEditing = true)
    (fresh : ErrorId) (moves : List Move) :
    let before := session.context
    let run := session.sendAll fresh (moves.map Move.event)
    let after := run.session.context
    after.position = Move.walk before.results.length before.position moves ∧
      (0 < after.position → before.results[after.position - 1]? = some after.value) ∧
      (after.position = 0 →
        after.value = if .up ∈ moves then before.previous else before.value) ∧
      (after.results = before.results ∧ after.values = before.values ∧
        after.committed = before.committed ∧ after.previous = before.previous ∧
        after.error = before.error ∧ after.listener = before.listener ∧
        run.session.mode = session.mode) ∧
      (moves ≠ [] → after.completion = none) := by
  intro before run after
  obtain ⟨mode, walked⟩ := reached.coherent.sendAll_moves fresh editing moves
  have offering : after.Offering :=
    (reached.coherent.sendAll fresh (moves.map Move.event)).offering
  have kept : after = { before with
      value := after.value, current := after.current, completion := after.completion } :=
    walked.kept
  have results : after.results = before.results := by rw [kept]
  refine ⟨walked.position, ?_, walked.text, ⟨results, ?_, ?_, ?_, ?_, ?_, mode⟩,
    walked.completion⟩
  · rw [← results]
    exact offering.text
  all_goals rw [kept]

/-- The text that is typed is the second result. From there the moves go down beyond the last result
and up above the first. -/
theorem moves_walk_there_and_back :
    let edited := (start "ab" ["ab", "b", "cb"] none .first).session.perform (.send .edit) .first
    let session := (edited.session.perform (.typeText "b") .first).session
    let moves : List Move := [.down, .down, .up, .up, .up, .up]
    let after := (session.sendAll .first (moves.map Move.event)).session.context
    session.mode.isEditing = true ∧ session.context.position = 2 ∧
      after.position = 0 ∧ after.value = "ab" ∧ after.results = session.context.results ∧
      after.completion = none := by
  intro edited session moves after
  have reached : Reached ["ab", "b", "cb"] session :=
    .perform (.perform (.start "ab" ["ab", "b", "cb"] none .first) (.send .edit) .first)
      (.typeText "b") .first
  have editing : session.mode.isEditing = true := by decide +kernel
  obtain ⟨position, -, text, ⟨results, -⟩, completion⟩ :=
    moves_walk reached editing .first moves
  have top : after.position = 0 := position.trans (by decide +kernel)
  have began : session.context.previous = "ab" := by decide +kernel
  exact ⟨editing, by decide +kernel, top, (text top).trans began, results, completion nofun⟩

end Session

end DatasetPicker.Selector
