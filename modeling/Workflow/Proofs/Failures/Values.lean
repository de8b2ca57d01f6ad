import Workflow.Task

/-!
# Kinds of failure

An operation fails with an error of some kind if it fails at all, `FailsAs`.  Reading and writing
trees, filling templates and running instructions fail only because of a path: its text is none, it
leads nowhere, or nothing can be written there.  What a loop fails with besides are items that are
no list.
-/

namespace Workflow

namespace Error

/-- A path that is none, that leads nowhere, or at which nothing can be written. -/
def ofPath : Error → Bool
  | .badPath .. | .nothingAt _ | .cannotWrite .. => true
  | _ => false

/-- What applying the validators of a document to a state may fail with. -/
def ofRule : Error → Bool
  | .inapplicableRule .. => true
  | error => error.ofPath

/-- What a step of a flow may fail with, unless it is to begin a pass. -/
def stopsStep : Error → Bool
  | .notAList .. => true
  | error => error.ofRule

/-- What a pull may fail with. -/
def stopsPull : Error → Bool
  | .notAList .. | .tooManyPasses .. => true
  | error => error.ofRule

/-- What an operation on a task may fail with. -/
def stopsInput : Error → Bool
  | .disabledComponent _ | .notShown .. | .holdsNoValue _ | .cannotBeClicked _ |
    .taskIsComplete _ | .otherSort .. => true
  | error => error.ofRule

/-- A stack without a head, a task that is not there, a name that is not declared, or a document
that cannot be run. -/
def isInternal : Error → Bool
  | .emptyStack | .foreignTask _ | .noValidator _ | .noFlow _ | .undeclared .. | .badDocument _ |
    .contextNotObject _ => true
  | _ => false

theorem ofRule_of_ofPath {error : Error} (h : error.ofPath = true) : error.ofRule = true := by
  cases error <;> first | rfl | cases h

theorem stopsStep_of_ofRule {error : Error} (h : error.ofRule = true) : error.stopsStep = true := by
  cases error <;> first | rfl | cases h

theorem stopsPull_of_stopsStep {error : Error} (h : error.stopsStep = true) :
    error.stopsPull = true := by
  cases error <;> first | rfl | cases h

theorem stopsInput_of_ofRule {error : Error} (h : error.ofRule = true) :
    error.stopsInput = true := by
  cases error <;> first | rfl | cases h

theorem stopsStep_of_ofPath {error : Error} (h : error.ofPath = true) : error.stopsStep = true :=
  stopsStep_of_ofRule (ofRule_of_ofPath h)

theorem stopsInput_of_ofPath {error : Error} (h : error.ofPath = true) :
    error.stopsInput = true :=
  stopsInput_of_ofRule (ofRule_of_ofPath h)

theorem not_isInternal {error : Error} (h : error.stopsPull = true ∨ error.stopsInput = true) :
    error.isInternal = false := by
  cases error <;> first | rfl | (rcases h with h | h <;> cases h)

end Error

/-- A chain of two steps that succeeds consists of steps that do. -/
theorem exists_of_bind_eq_ok {ε α β : Type} {x : Except ε α} {next : α → Except ε β} {b : β}
    (hbind : x >>= next = .ok b) : ∃ a, x = .ok a ∧ next a = .ok b := by
  cases x with
  | error error => cases hbind
  | ok a => exact ⟨a, rfl, hbind⟩

/-- The result is one, or a failure of the given kind. -/
def FailsAs (kind : Error → Bool) {α : Type} (result : Except Error α) : Prop :=
  ∀ error, result = .error error → kind error = true

namespace FailsAs

variable {kind : Error → Bool} {α β : Type} {result : Except Error α}

theorem ok (value : α) : FailsAs kind (.ok value : Except Error α) :=
  fun _ h => nomatch h

theorem error {failure : Error} (hkind : kind failure = true) :
    FailsAs kind (.error failure : Except Error α) := by
  intro error h
  cases h
  exact hkind

theorem mono {other : Error → Bool} (hfails : FailsAs kind result)
    (hkinds : ∀ {error}, kind error = true → other error = true) : FailsAs other result :=
  fun error h => hkinds (hfails error h)

theorem map (hfails : FailsAs kind result) (f : α → β) : FailsAs kind (result.map f) := by
  cases result with
  | ok value => exact ok _
  | error failure => exact error (hfails failure rfl)

theorem bind {next : α → Except Error β} (hfails : FailsAs kind result)
    (hnext : ∀ value, result = .ok value → FailsAs kind (next value)) :
    FailsAs kind (result >>= next) := by
  cases result with
  | ok value => exact hnext value rfl
  | error failure => exact error (hfails failure rfl)

theorem mapM {values : List α} {step : α → Except Error β}
    (hstep : ∀ value ∈ values, FailsAs kind (step value)) : FailsAs kind (values.mapM step) := by
  induction values with
  | nil => exact ok []
  | cons value rest ih =>
      obtain ⟨hvalue, hrest⟩ := List.forall_mem_cons.mp hstep
      rw [List.mapM_cons]
      refine hvalue.bind fun _ _ => ?_
      exact (ih hrest).bind fun _ _ => ok _

theorem mapError {fault : Type} {cause : fault → Error} (hkind : ∀ f, kind (cause f) = true)
    (result : Except fault α) : FailsAs kind (result.mapError cause) := by
  cases result with
  | ok value => exact ok value
  | error f => exact error (hkind f)

end FailsAs

/-! ## Paths, templates and instructions -/

open Error

theorem failsAs_read (text : String) : FailsAs ofPath (Path.read text) :=
  .mapError (fun _ => rfl) _

namespace Value

theorem failsAs_valueAt? (tree : Value) (path : String) : FailsAs ofPath (tree.valueAt? path) :=
  ((failsAs_read path).map _).map _

theorem failsAs_valueAt (tree : Value) (path : String) : FailsAs ofPath (tree.valueAt path) := by
  unfold valueAt
  split
  · exact .ok _
  · exact .error rfl
  · next failure h => exact .error (tree.failsAs_valueAt? path failure h)

theorem failsAs_setAt (tree : Value) (path : String) (new : Value) :
    FailsAs ofPath (tree.setAt path new) := by
  unfold setAt
  split
  · exact .mapError (fun _ => rfl) _
  · next failure h => exact .error (failsAs_read path failure h)

theorem failsAs_patchAt (path : String) (value : Value) : FailsAs ofPath (value.patchAt path) :=
  Value.empty.failsAs_setAt path value

theorem failsAs_placed (destination : Option String) (value : Value) :
    FailsAs ofPath (Value.placed destination value) := by
  cases destination with
  | some path => exact failsAs_patchAt path value
  | none => exact .ok value

end Value

theorem Template.failsAs_fill (state : Value) (parts : List Template.Part) :
    FailsAs ofPath (Template.fill state parts) := by
  induction parts with
  | nil => exact .ok _
  | cons part rest ih =>
      cases part with
      | literal c => exact ih.map _
      | placeholder path =>
          rw [Template.fill]
          split
          · next failure h => exact .error (state.failsAs_valueAt path failure h)
          · exact ih.map _

theorem Template.failsAs_render (template : String) (state : Value) :
    FailsAs ofPath (Template.render template state) :=
  (Template.failsAs_fill state _).map _

namespace Instruction

theorem failsAs_evaluate (instruction : Instruction) (state : Value) :
    FailsAs ofPath (instruction.evaluate state) := by
  unfold evaluate
  split
  · exact .ok _
  · exact state.failsAs_valueAt _
  · exact (Template.failsAs_render _ state).map _

theorem failsAs_write (instruction : Instruction) (state : Value) :
    FailsAs ofPath (instruction.write state) := by
  unfold write
  split
  · exact Value.failsAs_patchAt _ _
  · next failure h => exact .error (instruction.failsAs_evaluate state failure h)

theorem failsAs_extend (chained : Bool) (instructions : List Instruction) (state patch : Value) :
    FailsAs ofPath (extend chained state patch instructions) := by
  induction instructions generalizing state patch with
  | nil => exact .ok patch
  | cons instruction rest ih =>
      rw [extend]
      split
      · exact ih _ _
      · next failure h => exact .error (instruction.failsAs_write state failure h)

theorem failsAs_patch (instructions : List Instruction) (state : Value) :
    FailsAs ofPath (patch instructions state) :=
  failsAs_extend false instructions state .empty

end Instruction

namespace RemoteCall

theorem failsAs_ofDecl (decl : RemoteCallDecl) (state : Value) :
    FailsAs ofPath (ofDecl decl state) :=
  (Instruction.failsAs_patch decl.payloadPaths state).map _

theorem failsAs_answerPatch (call : RemoteCall) (value : Value) :
    FailsAs ofPath (call.answerPatch value) := by
  unfold answerPatch
  split
  · exact Value.failsAs_patchAt _ value
  · exact .ok _

end RemoteCall

/-! ## Flows -/

namespace Flow

theorem failsAs_itemsAt (definition path : String) (state : Value) :
    FailsAs stopsStep (itemsAt definition path state) := by
  unfold itemsAt
  split
  · exact .ok _
  · exact .ok _
  · exact .ok _
  · exact .error rfl
  · next failure h =>
      exact .error (stopsStep_of_ofPath (state.failsAs_valueAt? path failure h))

theorem failsAs_start (definition : String) (repetition : Repetition) (settings : FlowSettings)
    (state : Value) : FailsAs stopsStep (start definition repetition settings state) := by
  unfold start
  split
  · exact (failsAs_itemsAt definition _ state).map _
  · exact .ok _

theorem failsAs_snapshotOf (flow : Flow) (state result : Value) :
    FailsAs ofPath (flow.snapshotOf state result) := by
  unfold snapshotOf
  split
  · exact .ok result
  · exact Instruction.failsAs_patch _ state

theorem failsAs_publication (flow : Flow) (state : Value) :
    FailsAs ofPath (flow.publication state) := by
  unfold publication
  split
  · split
    · exact Value.failsAs_patchAt _ _
    · exact .ok _
  · split
    · exact Value.failsAs_placed _ _
    · next failure h => exact .error (Instruction.failsAs_patch _ state failure h)

end Flow

end Workflow
