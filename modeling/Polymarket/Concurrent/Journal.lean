import Polymarket.Concurrent.Safety

/-! Runs with a journal of the operations they perform. What the operations do to
the shared state, and what others do to it, is left to the semantics; the journal
is for statements about the program itself. -/

set_option autoImplicit false

namespace Polymarket.Concurrent

variable {S : Signature} {σ α ε : Type}

/-- An operation with its answer. -/
structure Journal.Entry (S : Signature) where
  op : S.Op
  response : S.Res op

abbrev Journal (S : Signature) := List (Journal.Entry S)

/-- An operation that is put down behind those before it. -/
def Noted (acts : (op : S.Op) → σ → S.Res op → σ → Prop) (op : S.Op) (before : σ × Journal S)
    (response : S.Res op) (after : σ × Journal S) : Prop :=
  acts op before.1 response after.1 ∧ after.2 = before.2 ++ [⟨op, response⟩]

/-- Sequential runs with a journal of admitted operations only. -/
def noting (acts : (op : S.Op) → σ → S.Res op → σ → Prop) (admitted : S.Op → Prop) :
    Discipline S (σ × Journal S) :=
  sequential (Noted acts) NoCut fun state => ∀ entry ∈ state.2, admitted entry.op

section Rules

variable {acts : (op : S.Op) → σ → S.Res op → σ → Prop} {admitted : S.Op → Prop}

/-- An admitted operation may be answered in any way. -/
theorem Code.safe_noted {op : S.Op} {post : Except ε (S.Res op) → σ × Journal S → Prop}
    {state : σ × Journal S} (allowed : admitted op)
    (rest : ∀ response after, after.2 = state.2 ++ [⟨op, response⟩] → post (.ok response) after) :
    (perform op : Code S ε (S.Res op)).run.Safe (noting acts admitted) post state := by
  refine Prog.safe_call (fun _ _ inside => inside.elim) fun held response after acted => ?_
  refine ⟨fun entry member => ?_, rest response after acted.2⟩
  rw [acted.2, List.mem_append, List.mem_singleton] at member
  rcases member with earlier | rfl
  · exact held entry earlier
  · exact allowed

/-- What holds of a safe program's runs from an empty journal. -/
theorem Runs.of_noted {program : Prog S α} {before : σ} {after : σ × Journal S}
    {outcome : Option α} {post : α → σ × Journal S → Prop}
    (ran : Runs (Noted acts) NoCut program (before, []) outcome after)
    (safe : program.Safe (noting acts admitted) post (before, [])) :
    (∀ entry ∈ after.2, admitted entry.op) ∧ ∀ value, outcome = some value → post value after :=
  ran.of_safe (fun _ member => nomatch member) safe

end Rules

end Polymarket.Concurrent
