import Workflow.Proofs.Failures.Screens
import Workflow.Proofs.Session.Lookup
import Workflow.Proofs.Value.Merging

/-!
# Where a document writes

The path without segments denotes the root of a tree, and writing there puts any value in place of
the tree.  If no target of an instruction and no destination denotes the root,
`Repository.Inward`, then whatever is written into an empty tree is an object, and so is all that is
made of it: the patch of an update, the result of a screen, what a button writes, what an answer
becomes, and what a flow publishes.  The parts of a payload may be written anywhere, because a
payload is the tree of no scope.
-/

namespace Workflow

/-- A path text that does not denote the root. It leads further in, or is not the text of a path. -/
def Path.Inward (text : String) : Prop :=
  Path.read text ≠ .ok []

def Path.AllInward (destination : Option String) : Prop :=
  ∀ path, destination = some path → Path.Inward path

def Instruction.AllInward (instructions : List Instruction) : Prop :=
  ∀ instruction ∈ instructions, Path.Inward instruction.target

structure FlowSettings.Inward (settings : FlowSettings) : Prop where
  resultPaths : Instruction.AllInward settings.resultPaths
  destination : Path.AllInward settings.destination

def TaskAction.Inward : TaskAction → Prop
  | .screen rows => ∀ placement ∈ rows.flatten, Path.AllInward placement.destination
  | .remoteCall call => Path.AllInward call.destination
  | .flow _ inline => ∀ settings, inline = some settings → settings.Inward
  | .update instructions => Instruction.AllInward instructions
  | .redirect _ | .event _ => True

/-- Nothing in the repository writes to the root. -/
structure Repository.Inward (repository : Repository) : Prop where
  components : ∀ pair ∈ repository.components, Path.AllInward pair.2.destination
  settings : ∀ pair ∈ repository.flows, pair.2.settings.Inward
  tasks : ∀ pair ∈ repository.flows, ∀ decl ∈ pair.2.tasks, decl.action.Inward

def Activity.Inward : Activity → Prop
  | .screen built => ∀ component ∈ built.components, Path.AllInward component.destination
  | .remoteCall call => Path.AllInward call.destination
  | .flow running => running.settings.Inward
  | .update instructions => Instruction.AllInward instructions
  | .redirect _ | .event _ => True

instance (text : String) : Decidable (Path.Inward text) :=
  decidable_of_iff ((Path.read text).toOption ≠ some []) <| by
    unfold Path.Inward
    cases Path.read text <;> simp [Except.toOption]

instance (destination : Option String) : Decidable (Path.AllInward destination) :=
  inferInstanceAs (Decidable (∀ path ∈ destination, Path.Inward path))

instance (instructions : List Instruction) : Decidable (Instruction.AllInward instructions) :=
  inferInstanceAs (Decidable (∀ instruction ∈ instructions, Path.Inward instruction.target))

instance (settings : FlowSettings) : Decidable settings.Inward :=
  decidable_of_iff
    (Instruction.AllInward settings.resultPaths ∧ Path.AllInward settings.destination)
    ⟨fun h => ⟨h.1, h.2⟩, fun h => ⟨h.resultPaths, h.destination⟩⟩

instance (action : TaskAction) : Decidable action.Inward :=
  match action with
  | .screen rows => inferInstanceAs
      (Decidable (∀ placement ∈ rows.flatten, Path.AllInward placement.destination))
  | .remoteCall call => inferInstanceAs (Decidable (Path.AllInward call.destination))
  | .flow _ inline => inferInstanceAs (Decidable (∀ settings ∈ inline, settings.Inward))
  | .update instructions => inferInstanceAs (Decidable (Instruction.AllInward instructions))
  | .redirect _ | .event _ => .isTrue trivial

instance (repository : Repository) : Decidable repository.Inward :=
  decidable_of_iff
    ((∀ pair ∈ repository.components, Path.AllInward pair.2.destination) ∧
      ∀ pair ∈ repository.flows, pair.2.settings.Inward ∧
        ∀ decl ∈ pair.2.tasks, decl.action.Inward)
    ⟨fun h => ⟨h.1, fun pair hpair => (h.2 pair hpair).1, fun pair hpair => (h.2 pair hpair).2⟩,
      fun h => ⟨h.components, fun pair hpair => ⟨h.settings pair hpair, h.tasks pair hpair⟩⟩⟩

/-! ## Patches -/

theorem Value.isObject_patchAt {path : String} {value patch : Value} (hinward : Path.Inward path)
    (hpatch : value.patchAt path = .ok patch) : patch.isObject = true := by
  unfold patchAt setAt at hpatch
  split at hpatch
  · next segments hread =>
      cases segments with
      | nil => exact absurd hread hinward
      | cons segment rest =>
          cases segment with
          | field name =>
              rw [empty, Path.write] at hpatch
              cases hchild : Path.write value rest ((Keyed.get? name []).getD .null) with
              | error fault =>
                  simp only [hchild] at hpatch
                  cases hpatch
              | ok child =>
                  simp only [hchild] at hpatch
                  cases hpatch
                  rfl
          | index position => cases hpatch
          | wildcard => cases hpatch
  · cases hpatch

theorem Value.isObject_placed {destination : Option String} {value placed : Value}
    (hinward : Path.AllInward destination) (hvalue : value.isObject = true)
    (hplaced : value.placed destination = .ok placed) : placed.isObject = true := by
  unfold Value.placed at hplaced
  split at hplaced
  · next path => exact isObject_patchAt (hinward path rfl) hplaced
  · cases hplaced
    exact hvalue

namespace Instruction

theorem isObject_write {instruction : Instruction} (hinward : Path.Inward instruction.target)
    {state written : Value} (hwrite : instruction.write state = .ok written) :
    written.isObject = true := by
  unfold write at hwrite
  split at hwrite
  · exact Value.isObject_patchAt hinward hwrite
  · cases hwrite

theorem isObject_extend {chained : Bool} {instructions : List Instruction}
    (hinward : AllInward instructions) {state patch extended : Value}
    (hpatch : patch.isObject = true)
    (hextend : extend chained state patch instructions = .ok extended) :
    extended.isObject = true := by
  induction instructions generalizing state patch with
  | nil =>
      cases hextend
      exact hpatch
  | cons instruction rest ih =>
      obtain ⟨hfirst, hrest⟩ := List.forall_mem_cons.mp hinward
      rw [extend] at hextend
      split at hextend
      · next written hwrite =>
          exact ih hrest (Value.isObject_merge patch (isObject_write hfirst hwrite)) hextend
      · cases hextend

theorem isObject_patch {instructions : List Instruction} (hinward : AllInward instructions)
    {state computed : Value} (hpatch : patch instructions state = .ok computed) :
    computed.isObject = true :=
  isObject_extend hinward rfl hpatch

theorem isObject_chainedPatch {instructions : List Instruction} (hinward : AllInward instructions)
    {state computed : Value} (hpatch : chainedPatch instructions state = .ok computed) :
    computed.isObject = true :=
  isObject_extend hinward rfl hpatch

end Instruction

/-- A flow publishes an object, also where its literal is none. -/
theorem Flow.isObject_publication {flow : Flow} (hinward : flow.settings.Inward)
    {state value : Value} (hpublication : flow.publication state = .ok value) :
    value.isObject = true := by
  unfold publication at hpublication
  split_ifs at hpublication
  · split at hpublication
    · next path hpath =>
        exact Value.isObject_patchAt (hinward.destination path hpath) hpublication
    · cases hpublication
      rfl
  · split at hpublication
    · next computed hcomputed =>
        have hobject := Instruction.isObject_patch hinward.resultPaths hcomputed
        exact Value.isObject_placed hinward.destination
          (Value.isObject_merge _ hobject) hpublication
    · cases hpublication

theorem RemoteCall.isObject_answerPatch {call : RemoteCall}
    (hinward : Path.AllInward call.destination) {value patch : Value}
    (hpatch : call.answerPatch value = .ok patch) : patch.isObject = true := by
  unfold answerPatch at hpatch
  split at hpatch
  · next path hpath => exact Value.isObject_patchAt (hinward path hpath) hpatch
  · cases hpatch
    rfl

/-- What a press writes is an object. -/
theorem Component.isObject_of_press {component pressed : Component} {effects : List ClickEffect}
    (hinward : Path.AllInward component.destination)
    (hpress : component.press = (.ok effects, pressed)) {patch : Value}
    (hpatch : .update patch ∈ effects) : patch.isObject = true := by
  unfold press at hpress
  split at hpress
  · cases hpress
    cases hpatch
  · have heffects := congrArg Prod.fst hpress
    dsimp only at heffects
    unfold buttonEffects at heffects
    split at heffects
    · next path hpath =>
        split_ifs at heffects
        · cases heffects
          simp at hpatch
        · obtain ⟨written, hwritten, rfl⟩ := exists_of_map_eq_ok heffects
          have hsame : patch = written := by simpa using hpatch
          exact hsame ▸ Value.isObject_patchAt (hinward path hpath) hwritten
    · cases heffects
      simp at hpatch
  · cases hpress

theorem Component.isObject_of_click {component clicked : Component} {judge : Judge}
    {effects : List ClickEffect} (hinward : Path.AllInward component.destination)
    (hclick : component.click judge = (.ok effects, clicked)) {patch : Value}
    (hpatch : .update patch ∈ effects) : patch.isObject = true := by
  unfold Component.click at hclick
  split_ifs at hclick
  · split at hclick
    · cases hclick
    · exact isObject_of_press hinward hclick hpatch
    · cases hclick
  · cases hclick

namespace Screen

theorem isObject_gather {contributions : List (String × Value)}
    (hinward : ∀ pair ∈ contributions, Path.Inward pair.1) {result gathered : Value}
    (hresult : result.isObject = true) (hgather : gather result contributions = .ok gathered) :
    gathered.isObject = true := by
  induction contributions generalizing result with
  | nil =>
      cases hgather
      exact hresult
  | cons first rest ih =>
      obtain ⟨hfirst, hrest⟩ := List.forall_mem_cons.mp hinward
      rw [gather] at hgather
      split at hgather
      · next patch hpatch =>
          have hmerged := Value.isObject_merge result (Value.isObject_patchAt hfirst hpatch)
          exact ih hrest hmerged hgather
      · cases hgather

/-- The result of a screen is an object. -/
theorem isObject_result {screen : Screen} {judge : Judge}
    (hinward : ∀ component ∈ screen.components, Path.AllInward component.destination)
    {result : Value} (hresult : screen.result judge = .ok result) : result.isObject = true := by
  obtain ⟨shown, hshown, hgather⟩ := exists_of_bind_eq_ok hresult
  refine isObject_gather ?_ rfl hgather
  intro pair hpair
  obtain ⟨component, hmem, hcontributes⟩ := List.mem_filterMap.mp hpair
  unfold contribution? at hcontributes
  split_ifs at hcontributes
  split at hcontributes
  · next path value hpath _ =>
      cases hcontributes
      exact hinward component (mem_of_shownAmong hshown component hmem) path hpath
  · cases hcontributes

theorem inward_build {repository : Repository} (hinward : repository.Inward) {screen : String}
    {placements : List Placement}
    (hplacements : ∀ placement ∈ placements, Path.AllInward placement.destination)
    {components : List Component} (hbuild : build repository screen placements = .ok components) :
    ∀ component ∈ components, Path.AllInward component.destination := by
  induction placements generalizing components with
  | nil =>
      cases hbuild
      simp
  | cons placement rest ih =>
      obtain ⟨hfirst, hrest⟩ := List.forall_mem_cons.mp hplacements
      rw [build] at hbuild
      split at hbuild
      · next decl hdecl =>
          obtain ⟨others, hothers, rfl⟩ := exists_of_map_eq_ok hbuild
          refine List.forall_mem_cons.mpr ⟨?_, ih hrest hothers⟩
          intro path hpath
          rcases Option.or_eq_some_iff.mp hpath with hplaced | ⟨-, hdeclared⟩
          · exact hfirst path hplaced
          · exact hinward.components _ (Keyed.mem_of_get? hdecl) path hdeclared
      · cases hbuild

end Screen

/-! ## Opened tasks -/

theorem FlowSettings.Inward.overriddenBy {settings inline : FlowSettings}
    (hsettings : settings.Inward) (hinline : inline.Inward) :
    (settings.overriddenBy inline).Inward := by
  constructor
  · change Instruction.AllInward
      (if inline.resultPaths.isEmpty then settings.resultPaths else inline.resultPaths)
    split_ifs
    · exact hsettings.resultPaths
    · exact hinline.resultPaths
  · intro path hpath
    rcases Option.or_eq_some_iff.mp hpath with hfirst | ⟨-, hsecond⟩
    · exact hinline.destination path hfirst
    · exact hsettings.destination path hsecond

end Workflow
