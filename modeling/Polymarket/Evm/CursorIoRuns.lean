import Polymarket.Evm.CursorIoProperties

/-! The code of the cursor stores under its discipline, and whole lives of the machine. -/

set_option autoImplicit false

namespace Polymarket.Evm.CursorIo

open Polymarket.Concurrent

/-- What the data of a write are. -/
theorem storeEffect_write {data next : Json} {call : StoreCall} (ran : storeEffect data call = .ok (.write next)) :
    ∃ name cursor, assign name (cursorToJson cursor) data = .ok next := by
  have assigned {name : String} {cursor : EvmIndexCursor}
      (written : (do return StoreEffect.write (← assign name (cursorToJson cursor) data) : Except CppError _) =
        .ok (.write next)) : ∃ name cursor, assign name (cursorToJson cursor) data = .ok next := by
    obtain ⟨value, given, same⟩ := bind_ok written
    cases same
    exact ⟨name, cursor, given⟩
  cases call with
  | load name =>
      obtain ⟨block, _, same⟩ := bind_ok ran
      cases same
  | loadCursor name =>
      obtain ⟨cursor, _, same⟩ := bind_ok ran
      cases same
  | save name blockNumber =>
      simp only [storeEffect] at ran
      split at ran
      · exact assigned ran
      · obtain ⟨current, _, rest⟩ := bind_ok ran
        split at rest
        · cases rest
        · exact assigned rest
  | saveCursor name cursor =>
      simp only [storeEffect] at ran
      split at ran
      · exact assigned ran
      · obtain ⟨current, _, rest⟩ := bind_ok ran
        split at rest
        · cases rest
        · exact assigned rest
  | rewind name fromBlock =>
      simp only [storeEffect] at ran
      split at ran
      · cases ran
      · obtain ⟨current, _, rest⟩ := bind_ok ran
        split at rest
        · cases rest
        · exact assigned rest

theorem JsonText.readable_content (json : JsonText) {text : Option Text} {data : Json}
    (read : json.content text = .ok data) : json.Readable data := by
  cases text with
  | none =>
      cases read
      exact json.readable_empty
  | some text =>
      simp only [content] at read
      split at read
      · cases read
        exact json.readable_empty
      · exact json.readable_parse read

/-- What the code writes reads back. -/
theorem JsonText.readable_effect (json : JsonText) {text : Option Text} {unread : Bool} {call : StoreCall}
    {next : Json} (effect : ((json.content text).seen unread >>= fun data => storeEffect data call) =
      .ok (.write next)) : json.Readable next := by
  obtain ⟨data, read, ran⟩ := bind_ok effect
  have readable : json.Readable data := by
    cases unread with
    | true =>
        cases read
        exact json.readable_empty
    | false => exact json.readable_content read
  obtain ⟨name, cursor, assigned⟩ := storeEffect_write ran
  cases data with
  | object members =>
      cases assigned
      exact json.readable_member readable
  | null =>
      cases assigned
      exact json.readable_member json.readable_empty
  | _ => cases assigned

theorem JsonText.content_dump (json : JsonText) {value : Json} {text : Text} (readable : json.Readable value)
    (dumped : json.dump value = .ok text) : json.content (some (text ++ [newline])) = .ok value := by
  have full : (text ++ [newline]).isEmpty = false := by simp
  simp only [content, full, Bool.false_eq_true, if_false]
  exact json.parse_dump readable dumped

section Safety

variable {json : JsonText} {paths : List CursorPath} {fs : FileSystem CursorPath UInt8} {thread : Thread}

def discipline (json : JsonText) (paths : List CursorPath) (fs : FileSystem CursorPath UInt8) (thread : Thread) :
    Discipline cursorFiles State where
  acts := Acts (act json) anyMachine thread
  cuts := NoCut
  rely := Undisturbed thread
  guar := Spares thread
  inv := Inv json paths fs

/-- One system call, under the interference before it. -/
theorem safe_op {op : CursorOp} {post : Except CppError op.Res → State → Prop} {state : State}
    (acted : ∀ before choice response after, Undisturbed thread state before → Inv json paths fs before →
      act json thread op choice before = some (response, after) →
      Inv json paths fs after ∧ Spares thread before after ∧ post (.ok response) after) :
    (Code.perform (S := cursorFiles) (ε := CppError) op).run.Safe (discipline json paths fs thread) post state := by
  refine Code.safe_perform fun before moved holds => ⟨fun _ inside => inside.elim, ?_⟩
  rintro response after ⟨choice, -, performed⟩
  exact acted before choice response after moved holds performed

/-- A system call that changes nothing. -/
theorem safe_look {op : CursorOp} {post : Except CppError op.Res → State → Prop} {state : State}
    (same : ∀ before choice response after, act json thread op choice before = some (response, after) → after = before)
    (looked : ∀ before choice response, Undisturbed thread state before → Inv json paths fs before →
      act json thread op choice before = some (response, before) → post (.ok response) before) :
    (Code.perform (S := cursorFiles) (ε := CppError) op).run.Safe (discipline json paths fs thread) post state := by
  refine safe_op fun before choice response after moved holds performed => ?_
  obtain rfl := same before choice response after performed
  exact ⟨holds, fun other _ => .refl other _, looked _ choice response moved holds performed⟩

theorem safe_orThrow {α : Type} {what : String} {result : Except String α} {post : Except CppError α → State → Prop}
    {state : State} (done : ∀ value, result = .ok value → post (.ok value) state)
    (failed : ∀ reason, result = .error reason → post (.error (systemError reason what)) state) :
    (orThrow what result).run.Safe (discipline json paths fs thread) post state := by
  cases result with
  | ok value => exact done value rfl
  | error reason => exact failed reason rfl

/-! ## Assertions -/

variable {path : CursorPath} {mutex : Nat} {call : StoreCall} {stage : Stage} {unread : Bool}

/-- In the critical section, without a temporary file. -/
structure Inside (thread : Thread) (path : CursorPath) (mutex : Nat) (call : StoreCall) (stage : Stage)
    (state : State) : Prop where
  holding : Holding thread path mutex call stage state
  idle : state.temporary thread = none

theorem Inside.undisturbed {before after : State} (inside : Inside thread path mutex call stage before)
    (moved : Undisturbed thread before after) : Inside thread path mutex call stage after :=
  ⟨inside.holding.undisturbed moved, moved.temporary.trans inside.idle⟩

/-- The call is going to write these data. -/
def Writes (json : JsonText) (path : CursorPath) (call : StoreCall) (unread : Bool) (next : Json)
    (state : State) : Prop :=
  ((json.content (state.fs.text? path)).seen unread >>= fun data => storeEffect data call) = .ok (.write next)

/-- In the critical section, with a temporary file that holds this text. -/
structure Staged (json : JsonText) (thread : Thread) (path : CursorPath) (mutex : Nat) (call : StoreCall)
    (unread : Bool) (next : Json) (name : CursorPath) (fd : Nat) (text : Text) (state : State) : Prop where
  holding : Holding thread path mutex call (.before unread) state
  writes : Writes json path call unread next state
  has : state.temporary thread = some (name, fd)
  bytes : state.fs.bytes fd = text

variable {next : Json} {name : CursorPath} {fd : Nat} {text : Text}

theorem Holding.reads {before after : State} (holding : Holding thread path mutex call stage before)
    (moved : Undisturbed thread before after) :
    after.fs.entry path = before.fs.entry path ∧ after.fs.text? path = before.fs.text? path :=
  (moved.kept path mutex holding.owner holding.holder).2.2

theorem Staged.undisturbed {before after : State} (staged : Staged json thread path mutex call unread next name fd text before)
    (moved : Undisturbed thread before after) : Staged json thread path mutex call unread next name fd text after where
  holding := staged.holding.undisturbed moved
  writes := by
    rw [Writes, (staged.holding.reads moved).2]
    exact staged.writes
  has := moved.temporary.trans staged.has
  bytes := (moved.file name fd staged.has).1.trans staged.bytes

/-! ## Reading -/

/-- Behind a first read that found something. -/
theorem safe_readText {input : Nat} {state : State} (inside : Inside thread path mutex call (.before false) state)
    (opened : state.fs.entry path = some input) (filled : (state.fs.bytes input).isEmpty ≠ true) :
    (do
      let text ← Code.ofExcept (← Code.perform (S := cursorFiles) (.readAll input))
      Code.ofExcept (json.parse text) : Io Json).run.Safe (discipline json paths fs thread)
      (fun outcome after => ∃ unread, Inside thread path mutex call (.before unread) after ∧
        ∀ data, outcome = .ok data → (json.content (after.fs.text? path)).seen unread = .ok data) state := by
  refine Code.safe_bind (safe_look ?_ fun last choice read moved _ performed => ?_)
  · intro before choice response after performed
    cases choice <;> cases performed <;> rfl
  have there := inside.undisturbed moved
  obtain ⟨entryLast, text⟩ := inside.holding.reads moved
  cases choice with
  | proceed =>
      cases performed
      refine Code.safe_bind (Code.safe_ofExcept (Code.safe_ofExcept ⟨false, there, fun data same => ?_⟩))
      have whole : last.fs.text? path = some (last.fs.bytes input) := by
        simp [FileSystem.text?, entryLast, opened]
      have unchanged : last.fs.bytes input = state.fs.bytes input := by
        simpa [FileSystem.text?, entryLast, opened] using text
      rw [← same, whole, unchanged]
      exact if_neg filled
  | fail reason =>
      cases performed
      exact ⟨false, there, fun _ impossible => by cases impossible⟩
  | _ => cases performed

/-- From `peek` on. A first read that fails leaves the call with an empty object. -/
theorem safe_readOpened {input : Nat} {state : State} (inside : Inside thread path mutex call (.before false) state)
    (opened : state.fs.entry path = some input) :
    (do
      let ended : Bool ← Code.perform (S := cursorFiles) (.peek path input)
      if ended then return .object []
      let text ← Code.ofExcept (← Code.perform (S := cursorFiles) (.readAll input))
      Code.ofExcept (json.parse text) : Io Json).run.Safe (discipline json paths fs thread)
      (fun outcome after => ∃ unread, Inside thread path mutex call (.before unread) after ∧
        ∀ data, outcome = .ok data → (json.content (after.fs.text? path)).seen unread = .ok data) state := by
  refine Code.safe_bind (safe_op fun before choice ended after moved inv performed => ?_)
  have here := inside.undisturbed moved
  have entry := (inside.holding.reads moved).1.trans opened
  cases choice with
  | proceed =>
      cases performed
      refine ⟨inv, fun other _ => .refl other _, ?_⟩
      by_cases empty : (before.fs.bytes input).isEmpty = true
      · simp only [empty, if_true]
        refine ⟨false, here, fun data same => ?_⟩
        cases same
        simp [Content.seen, JsonText.content, FileSystem.text?, entry, empty]
      · simp only [empty]
        exact safe_readText here entry empty
  | fail reason =>
      cases performed
      refine ⟨inv.unread_step here.holding, inv.spares_unread here.holding, true, ?_, ?_⟩
      · rw [here.holding.unread]
        exact ⟨⟨here.holding.owner, here.holding.holder, here.holding.sole, Function.update_self ..⟩, here.idle⟩
      · intro data same
        cases same
        rfl
  | _ => cases performed

theorem safe_readCursorFile {state : State} (inside : Inside thread path mutex call (.before false) state) :
    (readCursorFile json path).run.Safe (discipline json paths fs thread)
      (fun outcome after => ∃ unread, Inside thread path mutex call (.before unread) after ∧
        ∀ data, outcome = .ok data → (json.content (after.fs.text? path)).seen unread = .ok data) state := by
  refine Code.safe_bind (safe_look ?_ fun before choice found moved _ performed => ?_)
  · intro before choice response after performed
    cases choice <;> cases performed <;> rfl
  have here := inside.undisturbed moved
  refine Code.safe_bind (Code.safe_ofExcept ?_)
  cases choice <;> cases performed
  · cases entered : before.fs.entry path with
    | none =>
        refine ⟨false, here, fun data same => ?_⟩
        cases same
        simp [FileSystem.text?, entered, JsonText.content, Content.seen]
    | some input =>
        refine Code.safe_bind (safe_look ?_ fun middle choice opened moved _ performed => ?_)
        · intro before choice response after performed
          cases choice <;> cases performed <;> rfl
        have there := here.undisturbed moved
        cases opened with
        | none => exact ⟨false, there, fun _ impossible => by cases impossible⟩
        | some other =>
            have opened : middle.fs.entry path = some other := by
              cases choice with
              | proceed => exact (Prod.mk.inj (Option.some.inj performed)).1
              | _ => cases performed
            exact safe_readOpened there opened
  · exact ⟨false, here, fun _ impossible => by cases impossible⟩

/-! ## Writing -/

theorem Staged.write {state : State} (staged : Staged json thread path mutex call unread next name fd text state)
    (inv : Inv json paths fs state) (separate : Separate paths) (more : Text) :
    Staged json thread path mutex call unread next name fd (text ++ more) { state with fs := state.fs.write fd more } where
  holding := ⟨staged.holding.owner, staged.holding.holder, staged.holding.sole, staged.holding.busy⟩
  writes := by
    have same := FileSystem.text?_congr (FileSystem.versions_write
      (inv.outside separate staged.has (inv.known _ staged.holding.owner)) more)
    rw [Writes, same]
    exact staged.writes
  has := staged.has
  bytes := by simp [FileSystem.write, staged.bytes]

/-- The temporary file holds some text. -/
def Drafted (json : JsonText) (thread : Thread) (path : CursorPath) (mutex : Nat) (call : StoreCall) (unread : Bool)
    (next : Json) (name : CursorPath) (fd : Nat) (state : State) : Prop :=
  ∃ text, Staged json thread path mutex call unread next name fd text state

theorem safe_writeRounds (separate : Separate paths) {rounds : Nat} {payload : Text} {state : State}
    (enough : payload.length ≤ rounds) (staged : Staged json thread path mutex call unread next name fd text state) :
    (writeRounds fd rounds payload).run.Safe (discipline json paths fs thread)
      (fun outcome after => Drafted json thread path mutex call unread next name fd after ∧
        (outcome = .ok () → Staged json thread path mutex call unread next name fd (text ++ payload) after)) state := by
  induction rounds generalizing payload state text with
  | zero =>
      have empty : payload = [] := List.eq_nil_of_length_eq_zero (Nat.le_zero.mp enough)
      subst empty
      exact ⟨⟨text, staged⟩, fun _ => by rwa [List.append_nil]⟩
  | succ rounds ih =>
      cases payload with
      | nil => exact ⟨⟨text, staged⟩, fun _ => by rwa [List.append_nil]⟩
      | cons first rest =>
          refine Code.safe_bind (safe_op fun before choice response after moved inv performed => ?_)
          have here := staged.undisturbed moved
          cases choice with
          | count taken =>
              simp only [act] at performed
              split at performed
              · next inside =>
                cases performed
                refine ⟨inv.write_step separate here.has _, inv.spares_write separate here.has _,
                  Code.safe_bind (safe_orThrow (fun count same => ?_) fun _ impossible => by cases impossible)⟩
                cases same
                have wrote := here.write inv separate ((first :: rest).take (taken + 1))
                refine (ih (by simp only [List.length_drop]; omega) wrote).mono fun outcome after ⟨drafted, whole⟩ =>
                  ⟨drafted, fun done => ?_⟩
                have finished := whole done
                rwa [List.append_assoc, List.take_append_drop] at finished
              · cases performed
          | fail reason =>
              cases performed
              exact ⟨inv, fun other _ => .refl other _, Code.safe_bind (safe_orThrow
                (fun _ impossible => by cases impossible)
                fun _ _ => ⟨⟨_, here⟩, fun impossible => by cases impossible⟩)⟩
          | _ => cases performed

/-- Up to `fsync`: the whole text is on the disk, or the descriptor is still open. -/
theorem safe_writeTemporary (separate : Separate paths) {state : State}
    (staged : Staged json thread path mutex call unread next name fd [] state) :
    (writeTemporary json fd next).run.Safe (discipline json paths fs thread)
      (fun outcome after => Drafted json thread path mutex call unread next name fd after ∧
        (outcome = .ok () → after.fs.synced fd = true ∧ ∃ dumped, json.dump next = .ok dumped ∧
          Staged json thread path mutex call unread next name fd (dumped ++ [newline]) after)) state := by
  refine Code.safe_bind (Code.safe_ofExcept ?_)
  cases found : json.dump next with
  | error error => exact ⟨⟨_, staged⟩, fun impossible => by cases impossible⟩
  | ok dumped =>
      refine Code.safe_bind ((safe_writeRounds separate le_rfl staged).mono fun outcome written ⟨drafted, whole⟩ => ?_)
      cases outcome with
      | error error => exact ⟨drafted, fun impossible => by cases impossible⟩
      | ok _ =>
          have complete := whole rfl
          rw [List.nil_append] at complete
          refine Code.safe_bind (safe_op fun before choice response after moved inv performed => ?_)
          have here := complete.undisturbed moved
          cases choice with
          | proceed =>
              cases performed
              have synced : Staged json thread path mutex call unread next name fd (dumped ++ [newline])
                  { before with fs := before.fs.sync fd } :=
                ⟨⟨here.holding.owner, here.holding.holder, here.holding.sole, here.holding.busy⟩, here.writes,
                  here.has, here.bytes⟩
              refine ⟨inv.sync_step, inv.spares_sync here.has, safe_orThrow (fun _ _ => ⟨⟨_, synced⟩, fun _ =>
                ⟨Function.update_self .., dumped, rfl, synced⟩⟩) fun _ impossible => by cases impossible⟩
          | fail reason =>
              cases performed
              exact ⟨inv, fun other _ => .refl other _, safe_orThrow (fun _ impossible => by cases impossible)
                fun _ _ => ⟨⟨_, here⟩, fun impossible => by cases impossible⟩⟩
          | _ => cases performed

theorem Staged.replaced {state : State} (staged : Staged json thread path mutex call unread next name fd text state)
    (content : Content) : Inside thread path mutex call .wrote (state.replaced thread name path content) where
  holding := ⟨staged.holding.owner, staged.holding.holder, staged.holding.sole, by
    simp [State.replaced, State.record, staged.holding.busy]⟩
  idle := Function.update_self ..

/-- From `close` on: the file is replaced, or the temporary file is still there. -/
theorem safe_replaceFile (separate : Separate paths) {dumped : Text} {state : State}
    (staged : Staged json thread path mutex call unread next name fd (dumped ++ [newline]) state)
    (synced : state.fs.synced fd = true) (found : json.dump next = .ok dumped) :
    (replaceFile path name fd).run.Safe (discipline json paths fs thread)
      (fun outcome after => match outcome with
        | .ok _ => Inside thread path mutex call .wrote after
        | .error _ => Drafted json thread path mutex call unread next name fd after) state := by
  refine Code.safe_bind (safe_look ?_ fun before choice closed moved _ performed => ?_)
  · intro before choice response after performed
    cases choice <;> cases performed <;> rfl
  have here := staged.undisturbed moved
  have durable : before.fs.synced fd = true := (moved.file name fd staged.has).2.trans synced
  refine Code.safe_bind (safe_orThrow (fun _ _ => ?_) fun _ _ => ⟨_, here⟩)
  refine Code.safe_bind (safe_op fun middle choice response after moved inv performed => ?_)
  have there := here.undisturbed moved
  have onDisk : middle.fs.synced fd = true := (moved.file name fd here.has).2.trans durable
  cases choice with
  | proceed =>
      have content : json.content (middle.fs.text? name) = .ok next := by
        rw [FileSystem.text?, inv.entered thread name fd there.has, Option.map_some, there.bytes]
        exact json.content_dump (json.readable_effect there.writes) found
      cases performed
      refine ⟨inv.replaced_step separate there.holding there.has onDisk content there.writes,
        inv.spares_replaced separate there.holding there.has _,
        Code.safe_bind (safe_orThrow (fun _ _ => ?_) fun _ impossible => by cases impossible)⟩
      refine safe_op fun last choice response after moved inv performed => ?_
      have replaced := (there.replaced (json.content (middle.fs.text? name))).undisturbed moved
      cases choice with
      | proceed =>
          cases performed
          exact ⟨inv.settled_step path.parent, spares_settled path.parent,
            ⟨⟨replaced.holding.owner, replaced.holding.holder, replaced.holding.sole, replaced.holding.busy⟩,
              replaced.idle⟩⟩
      | fail reason =>
          cases performed
          exact ⟨inv, fun other _ => .refl other _, replaced⟩
      | _ => cases performed
  | fail reason =>
      cases performed
      exact ⟨inv, fun other _ => .refl other _, Code.safe_bind (safe_orThrow (fun _ impossible => by cases impossible)
        fun _ _ => ⟨_, there⟩)⟩
  | _ => cases performed

/-- A temporary file that is given up leaves the file alone. -/
theorem safe_unlink (separate : Separate paths) {error : CppError} {post : Except CppError Unit → State → Prop}
    {state : State} (drafted : Drafted json thread path mutex call unread next name fd state)
    (given : ∀ after, Inside thread path mutex call (.before unread) after → post (.error error) after) :
    (Code.perform (S := cursorFiles) (ε := CppError) (.unlink name) >>= fun _ =>
      (throw error : Io Unit)).run.Safe (discipline json paths fs thread) post state := by
  obtain ⟨text, staged⟩ := drafted
  refine Code.safe_bind (safe_op fun before choice response after moved inv performed => ?_)
  have here := staged.undisturbed moved
  have step (removes : Bool) : Inside thread path mutex call (.before unread) (before.unlinked thread name removes) :=
    ⟨⟨here.holding.owner, here.holding.holder, here.holding.sole, here.holding.busy⟩, Function.update_self ..⟩
  cases choice with
  | proceed =>
      cases performed
      exact ⟨inv.unlinked_step separate here.has true, inv.spares_unlinked separate here.has true, given _ (step true)⟩
  | fail reason =>
      cases performed
      exact ⟨inv.unlinked_step separate here.has false, inv.spares_unlinked separate here.has false, given _ (step false)⟩
  | _ => cases performed

/-- Replaced, or as before and without a temporary file of this thread. -/
def Replaces (thread : Thread) (path : CursorPath) (mutex : Nat) (call : StoreCall) (unread : Bool)
    {α : Type} (outcome : Except CppError α) (state : State) : Prop :=
  match outcome with
  | .ok _ => Inside thread path mutex call .wrote state
  | .error _ => Inside thread path mutex call (.before unread) state

theorem safe_stageFile (separate : Separate paths) {state : State} (inside : Inside thread path mutex call (.before unread) state)
    (writes : Writes json path call unread next state) :
    (do
      let (temporary, fd) ← orThrow "failed to create cursor temporary file"
        (← Code.perform (S := cursorFiles) (.mkstemp path))
      match ← Code.attempt (writeTemporary json fd next) with
      | .error error =>
          let _ ← Code.perform (S := cursorFiles) (.close fd)
          Code.perform (S := cursorFiles) (.unlink temporary)
          throw error
      | .ok () =>
          match ← Code.attempt (replaceFile path temporary fd) with
          | .error error =>
              Code.perform (S := cursorFiles) (.unlink temporary)
              throw error
          | .ok () => pure () : Io Unit).run.Safe (discipline json paths fs thread)
      (Replaces thread path mutex call unread) state := by
  refine Code.safe_bind (safe_op fun before choice response after moved inv performed => ?_)
  have here := inside.undisturbed moved
  have intended : Writes json path call unread next before := by
    rw [Writes, (inside.holding.reads moved).2]
    exact writes
  have member := inv.known _ here.holding.owner
  cases choice with
  | letters letters =>
      simp only [act] at performed
      split at performed
      · next fresh =>
        cases performed
        refine ⟨inv.created_step separate member here.idle fresh.1 fresh.2, inv.spares_created separate member fresh.1,
          Code.safe_bind (safe_orThrow (fun created same => ?_) fun _ impossible => by cases impossible)⟩
        cases same
        have other := separate path member path member letters fresh.1
        have staged : Staged json thread path mutex call unread next (path.temporary letters) before.fs.next []
            (before.created thread (path.temporary letters)) :=
          ⟨⟨here.holding.owner, here.holding.holder, here.holding.sole, here.holding.busy⟩, by
            rw [Writes, State.created, FileSystem.text?_congr (FileSystem.versions_create other)]
            exact intended, Function.update_self .., by simp [State.created, FileSystem.create_bytes]⟩
        refine Code.safe_bind (Code.safe_attempt ((safe_writeTemporary separate staged).mono
          fun outcome written holds => ?_))
        obtain ⟨drafted, whole⟩ := holds
        cases outcome with
        | error error =>
            refine Code.safe_bind (safe_look ?_ fun before choice closed moved _ performed => ?_)
            · intro before choice response after performed
              cases choice <;> cases performed <;> rfl
            obtain ⟨text, draft⟩ := drafted
            exact safe_unlink separate ⟨text, draft.undisturbed moved⟩ fun after discarded => discarded
        | ok _ =>
            obtain ⟨synced, dumped, found, complete⟩ := whole rfl
            refine Code.safe_bind (Code.safe_attempt ((safe_replaceFile separate complete synced found).mono
              fun outcome finished holds => ?_))
            cases outcome with
            | error error => exact safe_unlink separate holds fun after discarded => discarded
            | ok _ => exact holds
      · cases performed
  | fail reason =>
      cases performed
      exact ⟨inv, fun other _ => .refl other _, Code.safe_bind (safe_orThrow (fun _ impossible => by cases impossible)
        fun _ _ => here)⟩
  | _ => cases performed

theorem safe_writeCursorFile (separate : Separate paths) {state : State}
    (inside : Inside thread path mutex call (.before unread) state) (writes : Writes json path call unread next state) :
    (writeCursorFile json path next).run.Safe (discipline json paths fs thread)
      (Replaces thread path mutex call unread) state := by
  unfold writeCursorFile
  by_cases bare : path.parent = ""
  · simp only [bare, ne_eq, not_true_eq_false, if_false]
    exact safe_stageFile separate inside writes
  · simp only [ne_eq, bare, not_false_eq_true, if_true]
    refine Code.safe_bind (Code.safe_bind (safe_look ?_ fun before choice made moved _ performed => ?_))
    · intro before choice response after performed
      cases choice <;> cases performed <;> rfl
    have here := inside.undisturbed moved
    refine Code.safe_ofExcept ?_
    cases made with
    | error error => exact here
    | ok _ =>
        refine safe_stageFile separate here ?_
        rw [Writes, (inside.holding.reads moved).2]
        exact writes

/-- What a call has done to its file when it gives the mutex back. -/
def Answers (json : JsonText) (thread : Thread) (path : CursorPath) (mutex : Nat) (call : StoreCall)
    (outcome : Except CppError StoreReply) (state : State) : Prop :=
  match outcome with
  | .ok reply =>
      (∃ unread, Inside thread path mutex call (.before unread) state ∧
        ((json.content (state.fs.text? path)).seen unread >>= fun data => storeEffect data call) =
          .ok (.answer reply)) ∨
      (Inside thread path mutex call .wrote state ∧ reply = .done)
  | .error _ => ∃ unread, Inside thread path mutex call (.before unread) state

theorem safe_storeBody (separate : Separate paths) {state : State}
    (inside : Inside thread path mutex call (.before false) state) :
    (storeBody json path call).run.Safe (discipline json paths fs thread) (Answers json thread path mutex call)
      state := by
  refine Code.safe_bind ((safe_readCursorFile inside).mono fun outcome after ⟨unread, here, read⟩ => ?_)
  cases outcome with
  | error error => exact ⟨unread, here⟩
  | ok data =>
      have content := read data rfl
      refine Code.safe_bind (Code.safe_ofExcept ?_)
      cases ran : storeEffect data call with
      | error error => exact ⟨unread, here⟩
      | ok effect =>
          have effect_ : ((json.content (after.fs.text? path)).seen unread >>= fun data => storeEffect data call) =
              .ok effect := by
            rw [content]
            exact ran
          cases effect with
          | answer reply => exact .inl ⟨unread, here, effect_⟩
          | write next =>
              refine Code.safe_bind ((safe_writeCursorFile separate here effect_).mono fun outcome after holds => ?_)
              cases outcome with
              | error error => exact ⟨unread, holds⟩
              | ok _ => exact .inr ⟨holds, rfl⟩

/-! ## Lives of a store -/

/-- A store of this thread stands on the path, and no call of it is under way. -/
structure Owning (thread : Thread) (path : CursorPath) (mutex : Nat) (state : State) : Prop where
  owner : ⟨thread, path, mutex⟩ ∈ state.owners
  free : ∀ other, state.holders other ≠ some thread
  idle : state.temporary thread = none

theorem Owning.undisturbed {before after : State} (owning : Owning thread path mutex before)
    (moved : Undisturbed thread before after) : Owning thread path mutex after :=
  ⟨(moved.owned path mutex).mpr owning.owner, fun other held => owning.free other (moved.unheld other held),
    moved.temporary.trans owning.idle⟩

/-- The event that a call ends with. -/
theorem Answers.inside {outcome : Except CppError StoreReply} {state : State}
    (answers : Answers json thread path mutex call outcome state) :
    ∃ stage, Inside thread path mutex call stage state ∧ ∀ now earlier, now = json.content (state.fs.text? path) →
      AtomicFile.Step ⟨now, earlier, some ⟨thread, call, stage⟩⟩ (.finished thread outcome) ⟨now, earlier, none⟩ := by
  cases outcome with
  | error error =>
      obtain ⟨unread, inside⟩ := answers
      exact ⟨.before unread, inside, fun now earlier _ => .failed⟩
  | ok reply =>
      rcases answers with ⟨unread, inside, answered⟩ | ⟨inside, rfl⟩
      · refine ⟨.before unread, inside, fun now earlier same => .answered ?_⟩
        rw [same]
        exact answered
      · exact ⟨.wrote, inside, fun now earlier _ => .wrote⟩

theorem Answers.undisturbed {outcome : Except CppError StoreReply} {before after : State}
    (answers : Answers json thread path mutex call outcome before) (moved : Undisturbed thread before after) :
    Answers json thread path mutex call outcome after := by
  cases outcome with
  | error error =>
      obtain ⟨unread, inside⟩ := answers
      exact ⟨unread, inside.undisturbed moved⟩
  | ok reply =>
      rcases answers with ⟨unread, inside, answered⟩ | ⟨inside, done⟩
      · refine .inl ⟨unread, inside.undisturbed moved, ?_⟩
        rw [(inside.holding.reads moved).2]
        exact answered
      · exact .inr ⟨inside.undisturbed moved, done⟩

theorem safe_storeCall (separate : Separate paths) {state : State} (owning : Owning thread path mutex state) :
    (storeCall json path mutex call).run.Safe (discipline json paths fs thread)
      (fun _ after => Owning thread path mutex after) state := by
  refine Code.safe_bind (safe_op fun before choice response after moved inv performed => ?_)
  have here := owning.undisturbed moved
  simp only [act] at performed
  split at performed
  · next free =>
    cases performed
    have inside : Inside thread path mutex call (.before false) (before.began thread path mutex call) := by
      refine ⟨⟨here.owner, Function.update_self .., fun other held => ?_, Function.update_self ..⟩, here.idle⟩
      by_contra different
      simp only [State.began, State.record, Function.update_of_ne different] at held
      exact here.free other held
    refine ⟨inv.began_step here.owner free call, inv.spares_began here.owner free call, ?_⟩
    refine Code.safe_bind (Code.safe_attempt ((safe_storeBody separate inside).mono fun outcome ended answers => ?_))
    refine Code.safe_bind (safe_op fun before choice response after moved inv performed => ?_)
    obtain ⟨_, last, ends⟩ := (answers.undisturbed moved).inside
    cases performed
    refine ⟨inv.finished_step last.holding ends, inv.spares_finished last.holding outcome, Code.safe_ofExcept ?_⟩
    refine ⟨last.holding.owner, fun other held => ?_, last.idle⟩
    by_cases same : other = mutex
    · subst same
      simp [State.finished, State.record] at held
    · simp only [State.finished, State.record, Function.update_of_ne same] at held
      exact same (last.holding.sole other held)
  · cases performed

theorem safe_storeCalls (separate : Separate paths) {calls : List StoreCall} {state : State}
    (owning : Owning thread path mutex state) :
    (storeCalls json path mutex calls).Safe (discipline json paths fs thread)
      (fun _ after => Owning thread path mutex after) state := by
  induction calls generalizing state with
  | nil => exact owning
  | cons call rest ih => exact Prog.Safe.bind ((safe_storeCall separate owning).mono fun _ _ holds => ih holds)

/-- A thread between two stores. -/
structure Idle (thread : Thread) (state : State) : Prop where
  unowned : ∀ path mutex, ⟨thread, path, mutex⟩ ∉ state.owners
  idle : state.temporary thread = none

theorem safe_useStore (separate : Separate paths) (member : path ∈ paths) {calls : List StoreCall} {state : State}
    (rested : Idle thread state) :
    (useStore json path calls).Safe (discipline json paths fs thread) (fun _ after => Idle thread after) state := by
  intro before moved inv
  refine ⟨fun _ inside => inside.elim, ?_⟩
  rintro mutex after ⟨choice, -, performed⟩
  cases performed
  refine ⟨inv.registered_step member, spares_registered, ?_⟩
  have owning : Owning thread path ((before.lockedMutex path).getD before.nextMutex)
      (before.registered thread path ((before.lockedMutex path).getD before.nextMutex)) := by
    refine ⟨List.mem_cons_self, fun other held => ?_, moved.temporary.trans rested.idle⟩
    obtain ⟨place, owner⟩ := inv.held other thread held
    exact rested.unowned place other ((moved.owned place other).mp owner)
  change Prog.Safe _ (storeCalls json path _ calls >>= fun _ =>
    (Prog.perform (S := cursorFiles) .release : Prog cursorFiles Unit)) _ _
  refine Prog.Safe.bind ((safe_storeCalls separate owning).mono fun _ ended owns => ?_)
  intro last moved inv
  refine ⟨fun _ inside => inside.elim, ?_⟩
  rintro response after ⟨choice, -, performed⟩
  cases performed
  have here := owns.undisturbed moved
  exact ⟨inv.released_step here.free, spares_released, fun place other => by simp [State.released], here.idle⟩

/-! ## Every interleaving and every life -/

theorem cooperate (json : JsonText) (fs : FileSystem CursorPath UInt8) (separate : Separate paths) :
    Cooperate (fun thread => Acts (act json) anyMachine thread) (entry json paths) (discipline json paths fs)
      (Inv json paths fs) Idle where
  acts_eq _ := rfl
  inv_eq _ := rfl
  rely_refl := Undisturbed.refl
  rely_trans _ _ _ _ := Undisturbed.trans
  guar_rely different guaranteed := guaranteed _ different
  idle_stable moved rested :=
    ⟨fun path mutex owner => rested.unowned path mutex ((moved.owned path mutex).mp owner),
      moved.temporary.trans rested.idle⟩
  entry_safe isEntry _ rested := by
    obtain ⟨path, member, calls, rfl⟩ := isEntry
    exact safe_useStore separate member rested

theorem Lives.inv {pool : Pool cursorFiles State Thread} (separate : Separate paths)
    (durable : ∀ path ∈ paths, fs.Durable path) (settled : ∀ path ∈ paths, fs.earlier path = [])
    (lives : Lives json paths (booted fs) pool) :
    Inv json paths fs pool.state ∧
      ∀ thread, Promise (discipline json paths fs) Idle thread pool.state (pool.threads thread) := by
  induction lives with
  | here => exact ⟨.initial durable settled, fun thread => ⟨fun _ _ => List.not_mem_nil, rfl⟩⟩
  | step _ stepped ih => exact (cooperate json fs separate).step stepped ih
  | powerFailure _ ih => exact ⟨ih.1.restarted_step _ _, fun thread => ⟨fun _ _ => List.not_mem_nil, rfl⟩⟩

end Safety

/-! ## A first save and a power failure -/

def savedText : Text :=
  "\x7b\n  \"chain\": \x7b\n    \"blockComplete\": true,\n    \"blockNumber\": 5\n  \x7d\n\x7d".toList.map fun letter =>
    letter.toNat.toUInt8

def savedCursor : EvmIndexCursor := ⟨5, true, none⟩

/-- The library on the one file that the run writes. -/
def savedJson : JsonText where
  parse text :=
    if text = savedText ++ [newline] then .ok (.object [("chain", cursorToJson savedCursor)])
    else .error .jsonParseError
  dump
    | .object [("chain", .object [("blockNumber", .unsigned 5), ("blockComplete", .bool true)])] => .ok savedText
    | _ => .error (.jsonTypeError 316)
  Readable _ := True
  readable_empty := trivial
  readable_parse _ := trivial
  readable_member _ := trivial
  parse_dump _ dumped := by
    split at dumped
    · cases dumped
      exact if_pos rfl
    · cases dumped

def cursorPath : CursorPath := ⟨"", "cursors.json"⟩

def emptyDisk : FileSystem CursorPath UInt8 where
  entry _ := none
  earlier _ := []
  bytes _ := []
  synced _ := true
  next := 0
  allocated _ _ candidate := by simp at candidate

instance anyMachineDecidable (thread : Thread) (op : cursorFiles.Op) (choice : Choice) (state : State) :
    Decidable (anyMachine thread op choice state) := .isTrue trivial

/-- One save, its text written in two parts. -/
def saveMoves : List (Move cursorFiles Thread Choice) :=
  .start 0 (useStore savedJson cursorPath [.save "chain" 5]) ::
    ([.proceed, .proceed, .proceed, .letters "a1b2c3", .count 6, .count (savedText.length - 7), .proceed, .proceed,
      .proceed, .proceed, .proceed].map (.step 0))

theorem cursorPath_separate : Separate [cursorPath] := by
  intro path member other known letters six
  rw [List.mem_singleton] at member known
  subst member known
  intro same
  have lengths := congrArg String.length (congrArg CursorPath.file same)
  simp only [CursorPath.temporary, String.length_append, six] at lengths
  omega

/-- Every interleaving without a power failure is part of a life. -/
theorem Lives.of_reaches {json : JsonText} {paths : List CursorPath} {start : State}
    {pool : Pool cursorFiles State Thread}
    (reached : PoolReaches (fun thread => Acts (act json) anyMachine thread) (entry json paths) start pool) :
    Lives json paths ⟨fun _ => none, start⟩ pool := by
  induction reached with
  | refl => exact .here
  | tail _ stepped ih => exact .step ih stepped

/-- The file is there. -/
def Saved (state : State) : Prop := state.fs.text? cursorPath = some (savedText ++ [newline])

instance savedDecidable : DecidablePred Saved := fun _ => inferInstanceAs (Decidable (_ = _))

theorem saveMoves_saved : ∃ pool, Lives savedJson [cursorPath] (booted emptyDisk) pool ∧ Saved pool.state := by
  have starts : ∀ move ∈ saveMoves, move.Starts (entry savedJson [cursorPath]) := by
    intro move member
    rcases List.mem_cons.mp member with rfl | later
    · exact ⟨cursorPath, List.mem_singleton_self _, _, rfl⟩
    · obtain ⟨choice, _, rfl⟩ := List.mem_map.mp later
      trivial
  have executed : ((Pool.mk (fun _ => none) (State.initial emptyDisk)).schedule? (act savedJson) anyMachine
      saveMoves).any (fun pool => decide (Saved pool.state)) = true := by decide +kernel
  obtain ⟨pool, reached, saved⟩ := exists_reaches saveMoves Saved starts executed
  exact ⟨pool, .of_reaches reached, saved⟩

/-! ## The files of all lives -/

section Files

variable {json : JsonText} {paths : List CursorPath} {fs : FileSystem CursorPath UInt8} {path : CursorPath}

/-- At every moment of every life of the machine, the history of a file is one of an atomic
file, which shows what reading the file gives now and what it would give after a power
failure. -/
theorem cursorFile_atomic (separate : Separate paths) (durable : ∀ path ∈ paths, fs.Durable path)
    (settled : ∀ path ∈ paths, fs.earlier path = []) {pool : Pool cursorFiles State Thread}
    (lives : Lives json paths (booted fs) pool) (member : path ∈ paths) :
    ∃ file, (AtomicFile.start json fs path).Runs (pool.state.history path) file ∧ file.Shows json pool.state path :=
  (lives.inv separate durable settled).1.follows path member

theorem cursorFile_atomic_saved :
    ∃ pool, Lives savedJson [cursorPath] (booted emptyDisk) pool ∧
      pool.state.fs.text? cursorPath = some (savedText ++ [newline]) ∧
      ∃ file, (AtomicFile.start savedJson emptyDisk cursorPath).Runs (pool.state.history cursorPath) file ∧
        file.Shows savedJson pool.state cursorPath := by
  obtain ⟨pool, lives, saved⟩ := saveMoves_saved
  exact ⟨pool, lives, saved, cursorFile_atomic cursorPath_separate (fun _ _ _ _ => rfl) (fun _ _ => rfl) lives
    (List.mem_singleton_self _)⟩

theorem Lives.trans {first second third : Pool cursorFiles State Thread} (early : Lives json paths first second)
    (late : Lives json paths second third) : Lives json paths first third := by
  induction late with
  | here => exact early
  | step _ stepped ih => exact .step ih stepped
  | powerFailure _ ih => exact .powerFailure ih

/-- A cursor that is on the disk stays there until it is rewound or a save cannot read the
file, whatever the stores of all threads do, whichever other system calls fail and however
often the power goes. -/
theorem cursorFile_survives (separate : Separate paths) (durable : ∀ path ∈ paths, fs.Durable path)
    (settled : ∀ path ∈ paths, fs.earlier path = []) {now later : Pool cursorFiles State Thread}
    (lives : Lives json paths (booted fs) now) (further : Lives json paths now later) (member : path ∈ paths)
    {cursorName : String} {base : EvmIndexCursor} (onDisk : now.state.fs.earlier path = [])
    (holds : Reaches cursorName base (json.content (now.state.fs.text? path)))
    (harmless : ∀ busy ∈ now.state.busy path, busy.Harmless cursorName) {since : List FileEvent}
    (history : later.state.history path = now.state.history path ++ since)
    (calm : ∀ event ∈ since, ¬ event.Rewinds cursorName ∧ ¬ event.Overwrites) :
    Reaches cursorName base (json.content (later.state.fs.text? path)) := by
  obtain ⟨file, ran, shows_⟩ := (lives.inv separate durable settled).1.follows path member
  obtain ⟨last, ran', shows'⟩ := ((lives.trans further).inv separate durable settled).1.follows path member
  rw [history] at ran'
  obtain ⟨middle, first, second⟩ := ran'.split
  obtain rfl := first.unique ran
  have only : middle.now :: middle.earlier = [json.content (now.state.fs.text? path)] := by
    rw [shows_.contents, FileSystem.versions, FileSystem.candidates, onDisk]
    rfl
  have keeps : middle.Keeps cursorName base := by
    refine ⟨fun content candidate => ?_, fun busy runs => harmless busy (shows_.busy ▸ runs)⟩
    rw [only, List.mem_singleton] at candidate
    exact candidate ▸ holds
  rw [← shows'.now]
  exact (second.keeps keeps calm).reaches _ List.mem_cons_self

theorem savedText_reaches : Reaches "chain" savedCursor (savedJson.content (some (savedText ++ [newline]))) := by
  have content : savedJson.content (some (savedText ++ [newline])) =
      .ok (.object [("chain", cursorToJson savedCursor)]) := savedJson.content_dump trivial rfl
  refine ⟨_, Function.update (fun _ => none) "chain" (some savedCursor), savedCursor, content, fun name => ?_,
    Function.update_self .., .refl _⟩
  by_cases same : name = "chain"
  · subst same
    rfl
  · have skipped : (name == "chain") = false := by simpa using same
    simp [FileBlockCursorStore.loadCursor, List.lookup_cons, skipped, Function.update_of_ne same]

def savedDisk : FileSystem CursorPath UInt8 where
  entry path := if path = cursorPath then some 0 else none
  earlier _ := []
  bytes _ := savedText ++ [newline]
  synced _ := true
  next := 1
  allocated path inode candidate := by
    rw [List.mem_singleton] at candidate
    split at candidate
    · cases candidate
      decide
    · cases candidate

/-- Two loads; the first read of the second one fails. -/
def loadMoves : List (Move cursorFiles Thread Choice) :=
  .start 0 (useStore savedJson cursorPath [.load "chain", .load "chain"]) ::
    ((List.replicate 10 Choice.proceed ++ [Choice.fail "Input/output error", .proceed]).map (.step 0))

def FileEvent.isUnread : FileEvent → Bool
  | .unread .. => true
  | _ => false

instance (name : String) : DecidablePred (FileEvent.Rewinds name)
  | .began _ (.rewind other _) => inferInstanceAs (Decidable (other = name))
  | .began _ (.load _) | .began _ (.save ..) | .began _ (.loadCursor _) | .began _ (.saveCursor ..) => .isFalse nofun
  | .unread .. | .replaced .. | .finished .. | .settled | .stopped _ => .isFalse nofun

instance : DecidablePred FileEvent.Overwrites
  | .unread _ (.save ..) | .unread _ (.saveCursor ..) => .isTrue trivial
  | .unread _ (.load _) | .unread _ (.loadCursor _) | .unread _ (.rewind ..) => .isFalse nofun
  | .began .. | .replaced .. | .finished .. | .settled | .stopped _ => .isFalse nofun

/-- A load went without reading; nothing was rewound or overwritten. -/
def LoadedUnread (state : State) : Prop :=
  (state.history cursorPath).any FileEvent.isUnread = true ∧
    ∀ event ∈ state.history cursorPath, ¬event.Rewinds "chain" ∧ ¬event.Overwrites

instance loadedUnreadDecidable : DecidablePred LoadedUnread := fun _ => inferInstanceAs (Decidable (_ ∧ _))

/-- A load cannot read the file, then the power fails: the cursor is there when the machine
comes up again. -/
theorem cursorFile_survives_powerFailure :
    ∃ pool, Lives savedJson [cursorPath] (booted savedDisk) pool ∧
      (pool.state.history cursorPath).any FileEvent.isUnread = true ∧
      Reaches "chain" savedCursor (savedJson.content
        ((pool.state.restarted savedJson (fun _ => none) fun _ => []).fs.text? cursorPath)) := by
  have starts : ∀ move ∈ loadMoves, move.Starts (entry savedJson [cursorPath]) := by
    intro move member
    rcases List.mem_cons.mp member with rfl | later
    · exact ⟨cursorPath, List.mem_singleton_self _, _, rfl⟩
    · obtain ⟨choice, _, rfl⟩ := List.mem_map.mp later
      trivial
  have executed : ((Pool.mk (fun _ => none) (State.initial savedDisk)).schedule? (act savedJson) anyMachine
      loadMoves).any (fun pool => decide (LoadedUnread pool.state)) = true := by decide +kernel
  obtain ⟨pool, reached, unread, calm⟩ := exists_reaches loadMoves LoadedUnread starts executed
  have lives := Lives.of_reaches reached
  have later : Lives savedJson [cursorPath] (booted savedDisk)
      ⟨fun _ => none, pool.state.restarted savedJson (fun _ => none) fun _ => []⟩ := .powerFailure lives
  refine ⟨pool, lives, unread, cursorFile_survives cursorPath_separate (fun _ _ _ _ => rfl) (fun _ _ => rfl) .here
    later (List.mem_singleton_self _) rfl savedText_reaches (fun _ runs => by cases runs) rfl fun event member => ?_⟩
  obtain before | stopped := List.mem_append.mp member
  · exact calm event before
  · simp [List.mem_singleton.mp stopped, FileEvent.Rewinds, FileEvent.Overwrites]

end Files

end Polymarket.Evm.CursorIo
