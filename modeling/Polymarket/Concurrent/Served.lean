import Polymarket.Concurrent.Program

/-! Executed served runs: a caller and its worker follow a list of choices, the
worker whenever the caller waits. What is executed is a served run. -/

set_option autoImplicit false

namespace Polymarket.Concurrent

variable {S : Signature} {σ Tid Choice α : Type}

/-- Run a program of one thread to its end; the choices left over are returned. -/
def Prog.run? (act : Act S σ Tid Choice) (env : Environment S σ Tid Choice)
    [∀ thread op choice state, Decidable (env thread op choice state)] (thread : Tid) :
    List Choice → Prog S α → σ → Option (α × σ × List Choice)
  | choices, .done value, state => some (value, state, choices)
  | [], .call _ _, _ => none
  | choice :: rest, .call op next, state =>
      if env thread op choice state then
        match act thread op choice state with
        | some (response, after) => (next response).run? act env thread rest after
        | none => none
      else none

/-- Run a caller to its end, with a round of the worker whenever it waits. -/
def Prog.serve? (act : Act S σ Tid Choice) (env : Environment S σ Tid Choice)
    [∀ thread op choice state, Decidable (env thread op choice state)]
    (waits : S.Op → σ → Bool) (caller worker : Tid) (iteration : Prog S Unit) :
    Nat → List Choice → Prog S α → σ → Option (α × σ)
  | 0, _, _, _ => none
  | _ + 1, _, .done value, state => some (value, state)
  | fuel + 1, choices, .call op next, state =>
      if waits op state then
        match iteration.run? act env worker choices state with
        | some (_, after, rest) =>
            Prog.serve? act env waits caller worker iteration fuel rest (.call op next) after
        | none => none
      else
        match choices with
        | [] => none
        | choice :: rest =>
            if env caller op choice state then
              match act caller op choice state with
              | some (response, after) =>
                  Prog.serve? act env waits caller worker iteration fuel rest (next response) after
              | none => none
            else none

/-- Run a caller, with a round of the worker whenever it waits, until it is cut off because
the choices run out. -/
def Prog.cut? (act : Act S σ Tid Choice) (env : Environment S σ Tid Choice)
    [∀ thread op choice state, Decidable (env thread op choice state)]
    (waits : S.Op → σ → Bool) (caller worker : Tid) (iteration : Prog S Unit) :
    Nat → List Choice → Prog S α → σ → Option σ
  | 0, _, _, _ => none
  | _ + 1, [], _, state => some state
  | _ + 1, _ :: _, .done _, _ => none
  | fuel + 1, choice :: rest, .call op next, state =>
      if waits op state then
        match iteration.run? act env worker (choice :: rest) state with
        | some (_, after, others) =>
            Prog.cut? act env waits caller worker iteration fuel others (.call op next) after
        | none => none
      else if env caller op choice state then
        match act caller op choice state with
        | some (response, after) =>
            Prog.cut? act env waits caller worker iteration fuel rest (next response) after
        | none => none
      else none

variable {act : Act S σ Tid Choice} {env : Environment S σ Tid Choice}
  [∀ thread op choice state, Decidable (env thread op choice state)]

theorem Prog.run?_runs {thread : Tid} {choices rest : List Choice} {program : Prog S α}
    {before after : σ} {value : α}
    (executed : program.run? act env thread choices before = some (value, after, rest)) :
    Runs (Acts act env thread) NoCut program before (some value) after := by
  induction choices generalizing program before with
  | nil =>
      cases program with
      | done result =>
          cases executed
          exact .done
      | call op next => cases executed
  | cons choice others ih =>
      cases program with
      | done result =>
          cases executed
          exact .done
      | call op next =>
          simp only [Prog.run?] at executed
          split at executed
          · next admitted =>
            split at executed
            · next response middle acted => exact .call ⟨choice, admitted, acted⟩ (ih executed)
            · cases executed
          · cases executed

/-- An executed served run is a served run. -/
theorem Prog.serve?_runs {waits : S.Op → σ → Bool} {caller worker : Tid} {iteration : Prog S Unit}
    (blocks : ∀ op state, waits op state = true → Blocked act caller op state)
    {fuel : Nat} {choices : List Choice} {program : Prog S α} {before after : σ} {value : α}
    (executed : Prog.serve? act env waits caller worker iteration fuel choices program before =
      some (value, after)) :
    ServedRuns act env caller worker iteration program before (some value) after := by
  induction fuel generalizing choices program before with
  | zero => cases executed
  | succ fuel ih =>
      cases program with
      | done result =>
          cases executed
          exact .done
      | call op next =>
          simp only [Prog.serve?] at executed
          split at executed
          · next waiting =>
            split at executed
            · next middle rest ran =>
              cases ih executed with
              | call acted following =>
                  exact .call (.serve (blocks op before waiting) (run?_runs ran) acted) following
            · cases executed
          · split at executed
            · cases executed
            · next choice rest =>
              split at executed
              · next admitted =>
                split at executed
                · next response middle acted =>
                  exact .call (.own ⟨choice, admitted, acted⟩) (ih executed)
                · cases executed
              · cases executed

/-- A run may be cut off at its very end. -/
theorem Runs.cutAtEnd {acts : (op : S.Op) → σ → S.Res op → σ → Prop} {cuts : S.Op → σ → σ → Prop}
    {program : Prog S α} {before after : σ} {outcome : Option α}
    (ran : Runs acts cuts program before outcome after) : Runs acts cuts program before none after := by
  induction ran with
  | done => exact .cut
  | cut => exact .cut
  | call acted _ ih => exact .call acted ih
  | callCut inside => exact .callCut inside

/-- An executed run that is cut off is a served run that is. -/
theorem Prog.cut?_runs {waits : S.Op → σ → Bool} {caller worker : Tid} {iteration : Prog S Unit}
    (blocks : ∀ op state, waits op state = true → Blocked act caller op state)
    {fuel : Nat} {choices : List Choice} {program : Prog S α} {before after : σ}
    (executed : Prog.cut? act env waits caller worker iteration fuel choices program before = some after) :
    ServedRuns act env caller worker iteration program before none after := by
  induction fuel generalizing choices program before with
  | zero => cases executed
  | succ fuel ih =>
      cases choices with
      | nil =>
          cases executed
          exact .cut
      | cons choice rest =>
          cases program with
          | done result => cases executed
          | call op next =>
              simp only [Prog.cut?] at executed
              split at executed
              · next waiting =>
                split at executed
                · next middle others ran =>
                  have served := run?_runs ran
                  cases ih executed with
                  | cut => exact .callCut (.now (blocks op before waiting) served.cutAtEnd)
                  | call acted following =>
                      exact .call (.serve (blocks op before waiting) served acted) following
                  | callCut inside => exact .callCut (.later (blocks op before waiting) served inside)
                · cases executed
              · split at executed
                · next admitted =>
                  split at executed
                  · next response middle acted => exact .call (.own ⟨choice, admitted, acted⟩) (ih executed)
                  · cases executed
                · cases executed

end Polymarket.Concurrent
