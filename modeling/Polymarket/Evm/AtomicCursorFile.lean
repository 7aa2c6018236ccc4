import Mathlib.Data.List.Induction
import Polymarket.Evm.CursorStoreProperties

/-! What a cursor file is to the calls of its stores: one value that changes at once, one
call at a time, and that a power failure takes back at most to where it was when its
directory was last synced. -/

set_option autoImplicit false

namespace Polymarket.Evm.CursorIo

/-- What a call returns. -/
inductive StoreReply where
  | done
  | block (number : Option UInt64)
  | cursor (found : Option EvmIndexCursor)
deriving DecidableEq

/-- What a call does with the data it has read: it returns, or writes data of its own and
returns nothing. -/
inductive StoreEffect where
  | answer (reply : StoreReply)
  | write (data : Json)

/-- The members of an object. Another value contains no name. -/
def membersOf : Json → CursorFile
  | .object members => members
  | _ => []

/-- `data[name] = value`. -/
def assign (name : String) (value : Json) : Json → Except CppError Json
  | .object members => .ok (.object (setMember name value members))
  | .null => .ok (.object [(name, value)])
  | _ => .error (.jsonTypeError 305)

/-- Between reading the file and writing it. -/
def storeEffect (data : Json) : StoreCall → Except CppError StoreEffect
  | .load name => do return .answer (.block (← FileBlockCursorStore.load name (membersOf data)))
  | .save name blockNumber =>
      match (membersOf data).lookup name with
      | none => do return .write (← assign name (cursorToJson ⟨blockNumber, true, none⟩) data)
      | some entry => do
          if blockNumber < (← cursorFromJson entry).blockNumber then return .answer .done
          else return .write (← assign name (cursorToJson ⟨blockNumber, true, none⟩) data)
  | .loadCursor name => do
      return .answer (.cursor (← FileBlockCursorStore.loadCursor name (membersOf data)))
  | .saveCursor name cursor =>
      match (membersOf data).lookup name with
      | none => do return .write (← assign name (cursorToJson cursor) data)
      | some entry => do
          if !cursorAdvances (← cursorFromJson entry) cursor then return .answer .done
          else return .write (← assign name (cursorToJson cursor) data)
  | .rewind name fromBlock =>
      match (membersOf data).lookup name with
      | none => .ok (.answer .done)
      | some entry => do
          if fromBlock > (← cursorFromJson entry).blockNumber then return .answer .done
          else return .write (← assign name (cursorToJson ⟨fromBlock, false, none⟩) data)

/-- What the file holds after the call. -/
def StoreEffect.leaves (data : Json) : StoreEffect → Json
  | .answer _ => data
  | .write next => next

/-- On an object the effect is the store's own call. -/
theorem storeEffect_object {members : CursorFile} {call : StoreCall} {effect : StoreEffect}
    (ran : storeEffect (.object members) call = .ok effect) :
    ∃ next, call.perform members = .ok next ∧ effect.leaves (.object members) = .object next := by
  cases call with
  | load name =>
      obtain ⟨block, loaded, same⟩ := bind_ok ran
      cases same
      exact ⟨members, by simp only [StoreCall.perform, membersOf] at loaded ⊢; rw [loaded]; rfl, rfl⟩
  | loadCursor name =>
      obtain ⟨cursor, loaded, same⟩ := bind_ok ran
      cases same
      exact ⟨members, by simp only [StoreCall.perform, membersOf] at loaded ⊢; rw [loaded]; rfl, rfl⟩
  | save name blockNumber =>
      simp only [storeEffect, membersOf, assign, StoreCall.perform, FileBlockCursorStore.save] at ran ⊢
      cases found : members.lookup name with
      | none =>
          simp only [found] at ran ⊢
          cases ran
          exact ⟨_, rfl, rfl⟩
      | some entry =>
          simp only [found] at ran ⊢
          obtain ⟨current, parsed, rest⟩ := bind_ok ran
          by_cases behind : blockNumber < current.blockNumber
          · simp only [behind, if_true] at rest
            cases rest
            exact ⟨members, by simp [parsed, behind, bind, Except.bind, pure, Except.pure], rfl⟩
          · simp only [behind, if_false] at rest
            cases rest
            exact ⟨_, by simp [parsed, behind, bind, Except.bind, pure, Except.pure], rfl⟩
  | saveCursor name cursor =>
      simp only [storeEffect, membersOf, assign, StoreCall.perform, FileBlockCursorStore.saveCursor] at ran ⊢
      cases found : members.lookup name with
      | none =>
          simp only [found] at ran ⊢
          cases ran
          exact ⟨_, rfl, rfl⟩
      | some entry =>
          simp only [found] at ran ⊢
          obtain ⟨current, parsed, rest⟩ := bind_ok ran
          by_cases advances : cursorAdvances current cursor = true
          · simp only [advances, Bool.not_true, Bool.false_eq_true, if_false] at rest
            cases rest
            exact ⟨_, by simp [parsed, advances, bind, Except.bind, pure, Except.pure], rfl⟩
          · simp only [advances, Bool.not_false, if_true] at rest
            cases rest
            exact ⟨members, by simp [parsed, advances, bind, Except.bind, pure, Except.pure], rfl⟩
  | rewind name fromBlock =>
      simp only [storeEffect, membersOf, assign, StoreCall.perform, FileBlockCursorStore.rewind] at ran ⊢
      cases found : members.lookup name with
      | none =>
          simp only [found] at ran ⊢
          cases ran
          exact ⟨_, rfl, rfl⟩
      | some entry =>
          simp only [found] at ran ⊢
          obtain ⟨current, parsed, rest⟩ := bind_ok ran
          by_cases behind : fromBlock > current.blockNumber
          · simp only [behind, if_true] at rest
            cases rest
            exact ⟨members, by simp [parsed, behind, bind, Except.bind, pure, Except.pure], rfl⟩
          · simp only [behind, if_false] at rest
            cases rest
            exact ⟨_, by simp [parsed, behind, bind, Except.bind, pure, Except.pure], rfl⟩

/-! ## The abstract file -/

abbrev Thread := Nat

/-- What reading a file gives. -/
abbrev Content := Except CppError Json

/-- How far a call is: it has replaced the file, or not yet. Its first read of the file may
have failed; then the stream looks like one at its end. -/
inductive Stage where
  | before (unread : Bool)
  | wrote
deriving DecidableEq

/-- What a call takes the content for. -/
def Content.seen (content : Content) (unread : Bool) : Content := if unread then .ok (.object []) else content

/-- A call that holds the file. -/
structure Busy where
  thread : Thread
  call : StoreCall
  stage : Stage

/-- What happens to a file. -/
inductive FileEvent where
  | began (thread : Thread) (call : StoreCall)
  | unread (thread : Thread) (call : StoreCall)
  | replaced (thread : Thread) (content : Content)
  | finished (thread : Thread) (outcome : Except CppError StoreReply)
  | settled
  | stopped (content : Content)

/-- The contents a file may have after a power failure, the present one first, and the
call that is under way. -/
structure AtomicFile where
  now : Content
  earlier : List Content
  busy : Option Busy

/-- One event of an atomic file. -/
inductive AtomicFile.Step : AtomicFile → FileEvent → AtomicFile → Prop where
  | began {now : Content} {earlier : List Content} {thread : Thread} {call : StoreCall} :
      Step ⟨now, earlier, none⟩ (.began thread call) ⟨now, earlier, some ⟨thread, call, .before false⟩⟩
  | unread {now : Content} {earlier : List Content} {thread : Thread} {call : StoreCall} :
      Step ⟨now, earlier, some ⟨thread, call, .before false⟩⟩ (.unread thread call)
        ⟨now, earlier, some ⟨thread, call, .before true⟩⟩
  | replaced {now : Content} {earlier : List Content} {thread : Thread} {call : StoreCall} {unread : Bool}
      {next : Json} :
      (now.seen unread >>= fun data => storeEffect data call) = .ok (.write next) →
      Step ⟨now, earlier, some ⟨thread, call, .before unread⟩⟩ (.replaced thread (.ok next))
        ⟨.ok next, now :: earlier, some ⟨thread, call, .wrote⟩⟩
  | answered {now : Content} {earlier : List Content} {thread : Thread} {call : StoreCall} {unread : Bool}
      {reply : StoreReply} :
      (now.seen unread >>= fun data => storeEffect data call) = .ok (.answer reply) →
      Step ⟨now, earlier, some ⟨thread, call, .before unread⟩⟩ (.finished thread (.ok reply)) ⟨now, earlier, none⟩
  | wrote {now : Content} {earlier : List Content} {thread : Thread} {call : StoreCall} :
      Step ⟨now, earlier, some ⟨thread, call, .wrote⟩⟩ (.finished thread (.ok .done)) ⟨now, earlier, none⟩
  | failed {now : Content} {earlier : List Content} {thread : Thread} {call : StoreCall} {unread : Bool}
      {error : CppError} :
      Step ⟨now, earlier, some ⟨thread, call, .before unread⟩⟩ (.finished thread (.error error)) ⟨now, earlier, none⟩
  | settled {now : Content} {earlier : List Content} {busy : Option Busy} :
      Step ⟨now, earlier, busy⟩ .settled ⟨now, [], busy⟩
  | stopped {now content : Content} {earlier : List Content} {busy : Option Busy} :
      content ∈ now :: earlier → Step ⟨now, earlier, busy⟩ (.stopped content) ⟨content, [], none⟩

/-- A history of an atomic file. -/
inductive AtomicFile.Runs (start : AtomicFile) : List FileEvent → AtomicFile → Prop where
  | start : Runs start [] start
  | step {history : List FileEvent} {event : FileEvent} {before after : AtomicFile} :
      Runs start history before → before.Step event after → Runs start (history ++ [event]) after

namespace AtomicFile

theorem Step.unique {before first second : AtomicFile} {event : FileEvent} (left : before.Step event first)
    (right : before.Step event second) : first = second := by
  cases left <;> cases right <;> rfl

variable {start middle file : AtomicFile}

theorem Runs.unique {history : List FileEvent} {other : AtomicFile} (left : start.Runs history file)
    (right : start.Runs history other) : file = other := by
  induction left generalizing other with
  | start =>
      generalize empty : ([] : List FileEvent) = events at right
      cases right with
      | start => rfl
      | step => simp at empty
  | @step history event before after _ stepped ih =>
      generalize whole : history ++ [event] = events at right
      cases right with
      | start => simp at whole
      | @step history' event' before' after' ran stepped' =>
          obtain ⟨rfl, same⟩ := List.append_inj' whole rfl
          cases same
          cases ih ran
          exact stepped.unique stepped'

/-- A later part of a history is one of the file in between. -/
theorem Runs.split {early late : List FileEvent} (ran : start.Runs (early ++ late) file) :
    ∃ middle, start.Runs early middle ∧ middle.Runs late file := by
  induction late using List.reverseRecOn generalizing file with
  | nil =>
      rw [List.append_nil] at ran
      exact ⟨file, ran, .start⟩
  | append_singleton late event ih =>
      rw [← List.append_assoc] at ran
      generalize whole : early ++ late ++ [event] = events at ran
      cases ran with
      | start => simp at whole
      | @step history last before after ran stepped =>
          obtain ⟨rfl, same⟩ := List.append_inj' whole rfl
          cases same
          obtain ⟨middle, first, second⟩ := ih ran
          exact ⟨middle, first, .step second stepped⟩

end AtomicFile

/-! ## Cursors that stay -/

/-- The content is a valid cursor file with a cursor of this name at least this far. -/
def Reaches (name : String) (base : EvmIndexCursor) (content : Content) : Prop :=
  ∃ members cells cursor, content = .ok (.object members) ∧ CursorFile.Holds members cells ∧
    cells name = some cursor ∧ base.Le cursor

def FileEvent.Rewinds (name : String) : FileEvent → Prop
  | .began _ call => call.Rewinds name
  | _ => False

/-- A save that could not read the file. -/
def FileEvent.Overwrites : FileEvent → Prop
  | .unread _ call => call.Saves
  | _ => False

/-- Of the calls that could not read the file only saves write. -/
theorem storeEffect_unread {call : StoreCall} {next : Json}
    (effect : storeEffect (.object []) call = .ok (.write next)) : call.Saves := by
  cases call with
  | save => trivial
  | saveCursor => trivial
  | load | loadCursor | rewind => cases effect

/-- A call that leaves a cursor where it is: no rewind, and no save that could not read. -/
structure Busy.Harmless (name : String) (busy : Busy) : Prop where
  forward : ¬busy.call.Rewinds name
  reads : busy.stage = .before true → ¬busy.call.Saves

/-- Whatever a power failure leaves, the cursor is there, and no harm to it is under way. -/
structure AtomicFile.Keeps (name : String) (base : EvmIndexCursor) (file : AtomicFile) : Prop where
  reaches : ∀ content ∈ file.now :: file.earlier, Reaches name base content
  harmless : ∀ busy ∈ file.busy, busy.Harmless name

theorem reaches_replaced {name : String} {base : EvmIndexCursor} {now : Content} {thread : Thread} {call : StoreCall} {unread : Bool}
    {next : Json} (reaches : Reaches name base now) (harmless : Busy.Harmless name ⟨thread, call, .before unread⟩)
    (effect : (now.seen unread >>= fun data => storeEffect data call) = .ok (.write next)) :
    Reaches name base (.ok next) := by
  cases unread with
  | true => exact absurd (storeEffect_unread effect) (harmless.reads rfl)
  | false =>
      obtain ⟨members, cells, cursor, rfl, holds, found, above⟩ := reaches
      obtain ⟨written, performed, same⟩ := storeEffect_object effect
      obtain ⟨expected, performed', held⟩ := call.perform_refines holds
      rw [performed] at performed'
      cases performed'
      obtain ⟨further, found', later⟩ := StoreCall.onCells_le harmless.forward found
      exact ⟨written, _, further, congrArg _ same, held, found', above.trans later⟩

theorem AtomicFile.Keeps.step {name : String} {base : EvmIndexCursor} {before after : AtomicFile} {event : FileEvent}
    (keeps : before.Keeps name base) (forward : ¬ event.Rewinds name) (read : ¬ event.Overwrites)
    (stepped : before.Step event after) : after.Keeps name base := by
  cases stepped with
  | began =>
      refine ⟨keeps.reaches, fun busy started => ?_⟩
      cases started
      exact ⟨forward, nofun⟩
  | unread =>
      refine ⟨keeps.reaches, fun busy runs => ?_⟩
      cases runs
      exact ⟨(keeps.harmless _ rfl).forward, fun _ => read⟩
  | replaced effect =>
      have harmless := keeps.harmless _ rfl
      refine ⟨fun content member => ?_, fun busy runs => ?_⟩
      · rcases List.mem_cons.mp member with rfl | before
        · exact reaches_replaced (keeps.reaches _ List.mem_cons_self) harmless effect
        · exact keeps.reaches content before
      · cases runs
        exact ⟨harmless.forward, nofun⟩
  | answered | wrote | failed => exact ⟨keeps.reaches, nofun⟩
  | settled =>
      exact ⟨fun content member => keeps.reaches content (List.mem_singleton.mp member ▸ List.mem_cons_self),
        keeps.harmless⟩
  | stopped possible =>
      exact ⟨fun content member => keeps.reaches content (List.mem_singleton.mp member ▸ possible), nofun⟩

theorem AtomicFile.Runs.keeps {name : String} {base : EvmIndexCursor} {start file : AtomicFile}
    {history : List FileEvent} (ran : start.Runs history file) (keeps : start.Keeps name base)
    (calm : ∀ event ∈ history, ¬ event.Rewinds name ∧ ¬ event.Overwrites) : file.Keeps name base := by
  induction ran with
  | start => exact keeps
  | step _ stepped ih =>
      obtain ⟨forward, read⟩ := calm _ (List.mem_append_right _ (List.mem_singleton_self _))
      exact (ih fun event member => calm event (List.mem_append_left _ member)).step forward read stepped

end Polymarket.Evm.CursorIo
