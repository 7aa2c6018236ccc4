import Polymarket.Concurrent.Safety

/-! Loops of a program: a body that goes on with a new loop state or returns. A loop is cut
wherever one of its rounds is, so that what holds of cut runs holds of loops that never end. -/

set_option autoImplicit false

namespace Polymarket.Concurrent

variable {S : Signature} {σ β ε : Type}

/-- Runs of a loop from a loop state: to the value that its body returns, or cut. -/
inductive LoopRuns (acts : (op : S.Op) → σ → S.Res op → σ → Prop) (body : β → Code S ε β) :
    β → σ → Option ε → σ → Prop where
  | cut {start : β} {before after : σ} :
      Runs acts NoCut (body start).run before none after → LoopRuns acts body start before none after
  | stop {start : β} {before after : σ} {result : ε} :
      Runs acts NoCut (body start).run before (some (.error result)) after →
      LoopRuns acts body start before (some result) after
  | again {start next : β} {before middle after : σ} {outcome : Option ε} :
      Runs acts NoCut (body start).run before (some (.ok next)) middle →
      LoopRuns acts body next middle outcome after → LoopRuns acts body start before outcome after

/-- What the code before a loop hands to it. -/
inductive EnteredRuns (acts : (op : S.Op) → σ → S.Res op → σ → Prop) (enter : Code S ε β) (body : β → Code S ε β) :
    σ → Option ε → σ → Prop where
  | cut {before after : σ} : Runs acts NoCut enter.run before none after → EnteredRuns acts enter body before none after
  | stop {before after : σ} {result : ε} :
      Runs acts NoCut enter.run before (some (.error result)) after → EnteredRuns acts enter body before (some result) after
  | loop {start : β} {before middle after : σ} {outcome : Option ε} :
      Runs acts NoCut enter.run before (some (.ok start)) middle →
      LoopRuns acts body start middle outcome after → EnteredRuns acts enter body before outcome after

variable {α : Type} {D : Discipline S σ}

/-- A program that is safe under interference keeps the invariant wherever it is cut. -/
theorem Runs.inv_of_interfered {program : Prog S α} {before after : σ} {outcome : Option α} {post : α → σ → Prop}
    (kept : ∀ {first second : σ}, D.rely first second → D.inv first → D.inv second)
    (ran : Runs (Interfered D.rely D.acts) NoCut program before outcome after) (start : D.inv before)
    (safe : program.Safe D post before) : D.inv after := by
  induction ran with
  | done => exact start
  | cut => exact start
  | call acted _ ih =>
      obtain ⟨middle, moved, act⟩ := acted
      obtain ⟨inv, _, rest⟩ := (safe middle moved (kept moved start)).2 _ _ act
      exact ih inv rest
  | callCut inside => exact inside.elim

/-- The assertion of a loop: what a round finds, and what it leaves for the next one or for
the caller. -/
def LoopPost (invariant : β → σ → Prop) (post : ε → σ → Prop) (outcome : Except ε β) (state : σ) : Prop :=
  match outcome with
  | .ok next => invariant next state
  | .error result => post result state

variable {invariant : β → σ → Prop} {post : ε → σ → Prop} {body : β → Code S ε β}

/-- The loop rule: a body that takes its invariant to itself or to the postcondition. -/
theorem LoopRuns.of_interfered (kept : ∀ {first second : σ}, D.rely first second → D.inv first → D.inv second)
    (safe : ∀ start state, D.inv state → invariant start state →
      (body start).run.Safe D (LoopPost invariant post) state)
    {start : β} {before after : σ} {outcome : Option ε}
    (ran : LoopRuns (Interfered D.rely D.acts) body start before outcome after) (holds : D.inv before)
    (starts : invariant start before) : D.inv after ∧ ∀ result, outcome = some result → post result after := by
  induction ran with
  | cut round => exact ⟨round.inv_of_interfered kept holds (safe _ _ holds starts), fun _ impossible => by cases impossible⟩
  | stop round =>
      have ended := round.of_interfered kept holds (safe _ _ holds starts)
      refine ⟨round.inv_of_interfered kept holds (safe _ _ holds starts), fun result same => ?_⟩
      cases same
      exact ended
  | again round _ ih =>
      have next := round.of_interfered kept holds (safe _ _ holds starts)
      exact ih (round.inv_of_interfered kept holds (safe _ _ holds starts)) next

theorem EnteredRuns.of_interfered (kept : ∀ {first second : σ}, D.rely first second → D.inv first → D.inv second)
    {enter : Code S ε β} {before after : σ} {outcome : Option ε}
    (enters : enter.run.Safe D (LoopPost invariant post) before)
    (safe : ∀ start state, D.inv state → invariant start state →
      (body start).run.Safe D (LoopPost invariant post) state)
    (ran : EnteredRuns (Interfered D.rely D.acts) enter body before outcome after) (holds : D.inv before) :
    D.inv after ∧ ∀ result, outcome = some result → post result after := by
  cases ran with
  | cut entered => exact ⟨entered.inv_of_interfered kept holds enters, fun _ impossible => by cases impossible⟩
  | stop entered =>
      have ended := entered.of_interfered kept holds enters
      refine ⟨entered.inv_of_interfered kept holds enters, fun result same => ?_⟩
      cases same
      exact ended
  | loop entered rest =>
      have starts := entered.of_interfered kept holds enters
      exact rest.of_interfered kept safe (entered.inv_of_interfered kept holds enters) starts

end Polymarket.Concurrent
