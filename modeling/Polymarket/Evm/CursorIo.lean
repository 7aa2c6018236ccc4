import Polymarket.Concurrent.Program
import Polymarket.Evm.AtomicCursorFile
import Polymarket.FileSystem

/-! Reading and replacing cursor files by system calls. Every call may fail, a write may
take part of what it is given, and threads whose stores name one file wait for one mutex. -/

set_option autoImplicit false

namespace Polymarket.Evm.CursorIo

open Polymarket.Concurrent

/-- A canonical path: its `parent_path()` and its last part. -/
structure CursorPath where
  parent : String
  file : String
deriving DecidableEq

def CursorPath.text (path : CursorPath) : String :=
  if path.parent = "" then path.file else path.parent ++ "/" ++ path.file

/-- `path + ".tmp.XXXXXX"` with the letters that `mkstemp` has put in. -/
def CursorPath.temporary (path : CursorPath) (letters : String) : CursorPath :=
  { path with file := path.file ++ ".tmp." ++ letters }

abbrev Text := List UInt8

def newline : UInt8 := 10

/-- The JSON library. A text dumped from what it can give reads back as the same value. -/
structure JsonText where
  parse : Text → Except CppError Json
  /-- `dump(2)`. -/
  dump : Json → Except CppError Text
  Readable : Json → Prop
  readable_empty : Readable (.object [])
  readable_parse : ∀ {text value}, parse text = .ok value → Readable value
  readable_member : ∀ {members name cursor}, Readable (.object members) →
    Readable (.object (setMember name (cursorToJson cursor) members))
  parse_dump : ∀ {value text}, Readable value → dump value = .ok text →
    parse (text ++ [newline]) = .ok value

/-- What `read_cursor_file` makes of the file. -/
def JsonText.content (json : JsonText) : Option Text → Content
  | none => .ok (.object [])
  | some text => if text.isEmpty then .ok (.object []) else json.parse text

/-! ## System calls -/

inductive CursorOp where
  /-- Construction of a store: the mutex that its path has in the registry. -/
  | cursorPathMutex (path : CursorPath)
  /-- Destruction of the store. -/
  | release
  | lock (path : CursorPath) (mutex : Nat) (call : StoreCall)
  | unlock (path : CursorPath) (mutex : Nat) (outcome : Except CppError StoreReply)
  | exists (path : CursorPath)
  | openInput (path : CursorPath)
  /-- `peek`: whether the stream takes the file for ended. -/
  | peek (path : CursorPath) (input : Nat)
  | readAll (input : Nat)
  | createDirectories (parent : String)
  | mkstemp (path : CursorPath)
  /-- The first `write` that is not interrupted and takes something. -/
  | write (fd : Nat) (bytes : Text)
  | fsync (fd : Nat)
  | close (fd : Nat)
  | rename (source target : CursorPath)
  | unlink (path : CursorPath)
  | syncDirectory (parent : String)

/-- A system call gives the text of its `errno` when it fails, and `write` one less than
the bytes it took. A stream whose first read fails is at its end; a read that fails later
throws out of the stream's buffer. -/
def CursorOp.Res : CursorOp → Type
  | .cursorPathMutex _ => Nat
  | .release | .lock .. | .unlock .. | .unlink _ | .syncDirectory _ => Unit
  | .exists _ => Except CppError Bool
  | .openInput _ => Option Nat
  | .peek .. => Bool
  | .readAll _ => Except CppError Text
  | .createDirectories _ => Except CppError Unit
  | .mkstemp _ => Except String (CursorPath × Nat)
  | .write _ bytes => Except String (Fin bytes.length)
  | .fsync _ | .close _ | .rename .. => Except String Unit

def cursorFiles : Signature := ⟨CursorOp, CursorOp.Res⟩

abbrev Io := Code cursorFiles CppError

/-- `std::system_error`. -/
def systemError (reason what : String) : CppError := .runtimeError (what ++ ": " ++ reason)

/-- `throw` where a system call failed. -/
def orThrow {α : Type} (what : String) : Except String α → Io α
  | .ok value => pure value
  | .error reason => throw (systemError reason what)

/-! ## `evm_cursor_io.cpp` -/

section Code

variable (json : JsonText)

def readCursorFile (path : CursorPath) : Io Json := do
  let found ← Code.perform (S := cursorFiles) (.exists path)
  if !(← Code.ofExcept found) then return .object []
  match ← Code.perform (S := cursorFiles) (.openInput path) with
  | none => throw (.runtimeError ("failed to open cursor file: " ++ path.text))
  | some input =>
      let ended : Bool ← Code.perform (S := cursorFiles) (.peek path input)
      if ended then return .object []
      let text ← Code.ofExcept (← Code.perform (S := cursorFiles) (.readAll input))
      Code.ofExcept (json.parse text)

/-- Rounds of the loop around `write`, each of which takes at least one byte. -/
def writeRounds (fd : Nat) : Nat → Text → Io Unit
  | 0, _ => pure ()
  | rounds + 1, payload => do
      if payload.isEmpty then return ()
      let count ← orThrow "failed to write cursor temporary file"
        (← Code.perform (S := cursorFiles) (.write fd payload))
      writeRounds fd rounds (payload.drop (count.val + 1))

/-- Up to `fsync`, where the descriptor is open. -/
def writeTemporary (fd : Nat) (data : Json) : Io Unit := do
  let payload := (← Code.ofExcept (json.dump data)) ++ [newline]
  writeRounds fd payload.length payload
  orThrow "failed to sync cursor temporary file" (← Code.perform (S := cursorFiles) (.fsync fd))

/-- From `close` on. -/
def replaceFile (path temporary : CursorPath) (fd : Nat) : Io Unit := do
  orThrow "failed to close cursor temporary file" (← Code.perform (S := cursorFiles) (.close fd))
  orThrow "failed to replace cursor file"
    (← Code.perform (S := cursorFiles) (.rename temporary path))
  Code.perform (S := cursorFiles) (.syncDirectory path.parent)

/-- A failure discards the temporary file, and closes it where it is still open. -/
def writeCursorFile (path : CursorPath) (data : Json) : Io Unit := do
  if path.parent ≠ "" then
    Code.ofExcept (← Code.perform (S := cursorFiles) (.createDirectories path.parent))
  let (temporary, fd) ← orThrow "failed to create cursor temporary file"
    (← Code.perform (S := cursorFiles) (.mkstemp path))
  match ← Code.attempt (writeTemporary json fd data) with
  | .error error =>
      let _ ← Code.perform (S := cursorFiles) (.close fd)
      Code.perform (S := cursorFiles) (.unlink temporary)
      throw error
  | .ok () =>
      match ← Code.attempt (replaceFile path temporary fd) with
      | .error error =>
          Code.perform (S := cursorFiles) (.unlink temporary)
          throw error
      | .ok () => pure ()

/-! ## `FileBlockCursorStore` -/

/-- The body of a call: the file is read, and written when the call has data of its own. -/
def storeBody (path : CursorPath) (call : StoreCall) : Io StoreReply := do
  let data ← readCursorFile json path
  match ← Code.ofExcept (storeEffect data call) with
  | .answer reply => return reply
  | .write next =>
      writeCursorFile json path next
      return .done

/-- `load`, `save`, `load_cursor`, `save_cursor` and `rewind`, under the mutex of the path. -/
def storeCall (path : CursorPath) (mutex : Nat) (call : StoreCall) : Io StoreReply := do
  Code.perform (S := cursorFiles) (.lock path mutex call)
  let outcome ← Code.attempt (storeBody json path call)
  Code.perform (S := cursorFiles) (.unlock path mutex outcome)
  Code.ofExcept outcome

/-- A caller that goes on after an exception. -/
def storeCalls (path : CursorPath) (mutex : Nat) : List StoreCall → Prog cursorFiles Unit
  | [] => pure ()
  | call :: rest => do
      let _ ← (storeCall json path mutex call).run
      storeCalls path mutex rest

/-- The life of a store: its construction, calls, its destruction. -/
def useStore (path : CursorPath) (calls : List StoreCall) : Prog cursorFiles Unit := do
  let mutex ← Prog.perform (S := cursorFiles) (.cursorPathMutex path)
  storeCalls json path mutex calls
  Prog.perform (S := cursorFiles) .release

end Code

/-! ## The machine -/

/-- A store of a thread holds the mutex of its path. -/
structure Owner where
  thread : Thread
  path : CursorPath
  mutex : Nat
deriving DecidableEq

/-- `busy`, `temporary` and `history` are what the proofs follow: the call that holds a
file, the temporary file of a thread, and what has happened to a file. -/
structure State where
  fs : FileSystem CursorPath UInt8
  registry : CursorPath → Option Nat
  owners : List Owner
  holders : Nat → Option Thread
  nextMutex : Nat
  busy : CursorPath → Option Busy
  temporary : Thread → Option (CursorPath × Nat)
  history : CursorPath → List FileEvent

/-- What the machine decides. -/
inductive Choice where
  | proceed
  | fail (reason : String)
  | letters (text : String)
  | count (taken : Nat)

namespace State

def record (state : State) (path : CursorPath) (event : FileEvent) : State :=
  { state with history := Function.update state.history path (state.history path ++ [event]) }

/-- `weak_ptr::lock`: a mutex lives as long as a store owns it. -/
def lockedMutex (state : State) (path : CursorPath) : Option Nat :=
  (state.registry path).filter fun mutex => state.owners.any fun owner => owner.mutex = mutex

def registered (state : State) (thread : Thread) (path : CursorPath) (mutex : Nat) : State :=
  { state with
    registry := Function.update state.registry path (some mutex)
    owners := ⟨thread, path, mutex⟩ :: state.owners
    nextMutex := max state.nextMutex (mutex + 1) }

def released (state : State) (thread : Thread) : State :=
  { state with owners := state.owners.filter fun owner => owner.thread ≠ thread }

def began (state : State) (thread : Thread) (path : CursorPath) (mutex : Nat) (call : StoreCall) : State :=
  ({ state with
    holders := Function.update state.holders mutex (some thread)
    busy := Function.update state.busy path (some ⟨thread, call, .before false⟩) } : State).record path
      (.began thread call)

/-- The call that holds the file has not read it. -/
def unread (state : State) (path : CursorPath) : State :=
  match state.busy path with
  | none => state
  | some busy =>
      ({ state with
        busy := Function.update state.busy path (some { busy with stage := .before true }) } : State).record path
          (.unread busy.thread busy.call)

def finished (state : State) (thread : Thread) (path : CursorPath) (mutex : Nat)
    (outcome : Except CppError StoreReply) : State :=
  ({ state with
    holders := Function.update state.holders mutex none
    busy := Function.update state.busy path none } : State).record path (.finished thread outcome)

def created (state : State) (thread : Thread) (temporary : CursorPath) : State :=
  { state with
    fs := state.fs.create temporary
    temporary := Function.update state.temporary thread (some (temporary, state.fs.next)) }

def replaced (state : State) (thread : Thread) (source target : CursorPath) (content : Content) : State :=
  ({ state with
    fs := state.fs.rename source target
    temporary := Function.update state.temporary thread none
    busy := Function.update state.busy target ((state.busy target).map fun busy => { busy with stage := .wrote })
    } : State).record target (.replaced thread content)

def unlinked (state : State) (thread : Thread) (path : CursorPath) (removes : Bool) : State :=
  { state with
    fs := if removes then state.fs.unlink path else state.fs
    temporary := Function.update state.temporary thread none }

def settled (state : State) (parent : String) : State :=
  { state with
    fs := state.fs.syncDirectory fun path => path.parent = parent
    history := fun path =>
      if path.parent = parent then state.history path ++ [.settled] else state.history path }

/-- After a power failure nothing of the process is left. -/
def restarted (json : JsonText) (state : State) (choose : CursorPath → Option Nat) (junk : Nat → Text) : State :=
  { state with
    fs := state.fs.crash choose junk
    registry := fun _ => none
    owners := []
    holders := fun _ => none
    busy := fun _ => none
    temporary := fun _ => none
    history := fun path =>
      state.history path ++ [.stopped (json.content ((state.fs.crash choose junk).text? path))] }

def initial (fs : FileSystem CursorPath UInt8) : State where
  fs := fs
  registry _ := none
  owners := []
  holders _ := none
  nextMutex := 0
  busy _ := none
  temporary _ := none
  history _ := []

end State

/-- What a system call does. -/
def act (json : JsonText) : Act cursorFiles State Thread Choice
  | thread, .cursorPathMutex path, _, state =>
      let mutex := (state.lockedMutex path).getD state.nextMutex
      some (mutex, state.registered thread path mutex)
  | thread, .release, _, state => some ((), state.released thread)
  | thread, .lock path mutex call, _, state =>
      if state.holders mutex = none then some ((), state.began thread path mutex call) else none
  | thread, .unlock path mutex outcome, _, state => some ((), state.finished thread path mutex outcome)
  | _, .exists path, .proceed, state => some (.ok (state.fs.entry path).isSome, state)
  | _, .exists _, .fail reason, state => some (.error (.runtimeError reason), state)
  | _, .openInput path, .proceed, state => some (state.fs.entry path, state)
  | _, .openInput _, .fail _, state => some (none, state)
  | _, .peek _ input, .proceed, state => some ((state.fs.bytes input).isEmpty, state)
  | _, .peek path _, .fail _, state => some (true, state.unread path)
  | _, .readAll input, .proceed, state => some (.ok (state.fs.bytes input), state)
  | _, .readAll _, .fail reason, state => some (.error (.runtimeError reason), state)
  | _, .createDirectories _, .proceed, state => some (.ok (), state)
  | _, .createDirectories _, .fail reason, state => some (.error (.runtimeError reason), state)
  | thread, .mkstemp path, .letters letters, state =>
      if letters.length = 6 ∧ state.fs.entry (path.temporary letters) = none then
        some (.ok (path.temporary letters, state.fs.next), state.created thread (path.temporary letters))
      else none
  | _, .mkstemp _, .fail reason, state => some (.error reason, state)
  | _, .write fd bytes, .count taken, state =>
      if inside : taken < bytes.length then
        some (.ok ⟨taken, inside⟩, { state with fs := state.fs.write fd (bytes.take (taken + 1)) })
      else none
  | _, .write _ _, .fail reason, state => some (.error reason, state)
  | _, .fsync fd, .proceed, state => some (.ok (), { state with fs := state.fs.sync fd })
  | _, .fsync _, .fail reason, state => some (.error reason, state)
  | _, .close _, .proceed, state => some (.ok (), state)
  | _, .close _, .fail reason, state => some (.error reason, state)
  | thread, .rename source target, .proceed, state =>
      some (.ok (), state.replaced thread source target (json.content (state.fs.text? source)))
  | _, .rename _ _, .fail reason, state => some (.error reason, state)
  | thread, .unlink path, .proceed, state => some ((), state.unlinked thread path true)
  | thread, .unlink path, .fail _, state => some ((), state.unlinked thread path false)
  | _, .syncDirectory parent, .proceed, state => some ((), state.settled parent)
  | _, .syncDirectory _, .fail _, state => some ((), state)
  | _, _, _, _ => none

/-- Threads that construct stores on these files, call them and destroy them. -/
def entry (json : JsonText) (paths : List CursorPath) (_ : Thread) (program : Prog cursorFiles Unit) : Prop :=
  ∃ path ∈ paths, ∃ calls, program = useStore json path calls

/-- Nothing is required of the machine. -/
def anyMachine : Environment cursorFiles State Thread Choice := fun _ _ _ _ => True

/-- What the machine may live through: steps of its threads and power failures. -/
inductive Lives (json : JsonText) (paths : List CursorPath) (start : Pool cursorFiles State Thread) :
    Pool cursorFiles State Thread → Prop where
  | here : Lives json paths start start
  | step {pool next : Pool cursorFiles State Thread} :
      Lives json paths start pool →
      PoolStep (fun thread => Acts (act json) anyMachine thread) (entry json paths) pool next →
      Lives json paths start next
  | powerFailure {pool : Pool cursorFiles State Thread} {choose : CursorPath → Option Nat} {junk : Nat → Text} :
      Lives json paths start pool →
      Lives json paths start ⟨fun _ => none, pool.state.restarted json choose junk⟩

/-- A machine that has just started. -/
def booted (fs : FileSystem CursorPath UInt8) : Pool cursorFiles State Thread := ⟨fun _ => none, State.initial fs⟩

end Polymarket.Evm.CursorIo
