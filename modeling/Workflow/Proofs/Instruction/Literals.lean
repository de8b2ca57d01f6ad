import Mathlib.Control.Monad.Basic
import Workflow.RemoteCall
import Workflow.Flow
import Workflow.Proofs.Value.Branches

/-!
# Literals with nothing to fill in

The payload of a call and the publication of a flow are literals over which what the instructions
computed is merged.  Where there are no instructions that is the empty object, and a merge with it
leaves an object as it is.  Any other literal is lost to it, `Value.asObject`.
-/

namespace Workflow

namespace Value

/-- What a patch finds of the tree that it is laid over: no fields, if that is no object. -/
def asObject (tree : Value) : Value :=
  if tree.isObject then tree else .empty

theorem merge_empty_eq_asObject (tree : Value) : tree.merge .empty = tree.asObject := by
  unfold asObject
  split_ifs with hobject
  · exact merge_empty hobject
  · exact merge_of_not_isObject_base (Bool.eq_false_iff.mpr hobject) .nil

theorem asObject_eq_self_iff {tree : Value} : tree.asObject = tree ↔ tree.isObject = true := by
  unfold asObject
  split_ifs with hobject
  · exact iff_of_true rfl hobject
  · refine iff_of_false (fun hsame => hobject ?_) hobject
    rw [← hsame]
    rfl

/-- Two values that are placed where the same destination says are told by what is placed. -/
theorem placed_inj {destination : Option String} {value other placed : Value}
    (hvalue : value.placed destination = .ok placed)
    (hother : other.placed destination = .ok placed) : value = other := by
  cases destination with
  | none =>
      cases hvalue
      cases hother
      rfl
  | some path =>
      obtain ⟨names, hread, rfl⟩ := patchAt_eq_ok_iff.mp hvalue
      obtain ⟨names', hread', hsame⟩ := patchAt_eq_ok_iff.mp hother
      have hnames : names = names' :=
        Path.ofFields_injective (Except.ok.inj (hread.symm.trans hread'))
      have hfound := congrArg (lookup names) hsame
      rw [← hnames, lookup_under, lookup_under] at hfound
      exact Option.some.inj hfound

end Value

theorem RemoteCall.ofDecl_of_no_paths {decl : RemoteCallDecl} (hpaths : decl.payloadPaths = [])
    (state : Value) :
    RemoteCall.ofDecl decl state =
      .ok ⟨decl.url, decl.method, decl.payload.asObject, decl.destination⟩ := by
  rw [ofDecl, hpaths, ← Value.merge_empty_eq_asObject]
  rfl

theorem Flow.publication_of_no_paths {flow : Flow} {literal : Value} (hplain : flow.isLoop = false)
    (hliteral : flow.settings.literal = some literal) (hpaths : flow.settings.resultPaths = [])
    (state : Value) :
    flow.publication state = literal.asObject.placed flow.settings.destination := by
  rw [publication, hplain, hpaths, hliteral, ← Value.merge_empty_eq_asObject]
  rfl

/-- With nothing to fill in, a call is made and a flow publishes whatever the literal is, and the
literal is what they have of it exactly if it is an object. Of any other literal they have the empty
object. -/
theorem literal_kept_iff_isObject (literal state : Value) :
    (∀ decl : RemoteCallDecl, decl.payload = literal → decl.payloadPaths = [] →
      ∃ call, RemoteCall.ofDecl decl state = .ok call ∧ call.payload = literal.asObject ∧
        (call.payload = literal ↔ literal.isObject = true)) ∧
    ∀ flow : Flow, flow.isLoop = false → flow.settings.literal = some literal →
      flow.settings.resultPaths = [] →
        flow.publication state = literal.asObject.placed flow.settings.destination ∧
          ∀ placed, literal.placed flow.settings.destination = .ok placed →
            (flow.publication state = .ok placed ↔ literal.isObject = true) := by
  constructor
  · rintro decl rfl hpaths
    exact ⟨_, RemoteCall.ofDecl_of_no_paths hpaths state, rfl, Value.asObject_eq_self_iff⟩
  · intro flow hplain hliteral hpaths
    have hpublication := Flow.publication_of_no_paths hplain hliteral hpaths state
    refine ⟨hpublication, fun placed hplaced => ?_⟩
    rw [hpublication, ← Value.asObject_eq_self_iff]
    constructor
    · intro hsame
      exact Value.placed_inj hsame hplaced
    · intro hsame
      rw [hsame, hplaced]

def addends : Value := .list [.number (.int 1), .number (.int 2)]

def sumDecl : RemoteCallDecl := ⟨"/sum", none, addends, [], some "$.sum"⟩

def totalFlow : Flow :=
  { definition := "total"
    repetition := .once
    settings :=
      { literal := some (.object [("total", .number (.int 3))])
        destination := some "$.answer" } }

/-- The call goes out without its list, and the total is published. -/
theorem addends_lost_total_kept :
    (∃ call, RemoteCall.ofDecl sumDecl .empty = .ok call ∧ call.payload = .empty) ∧
      totalFlow.publication .empty =
        .ok (.object [("answer", .object [("total", .number (.int 3))])]) := by
  constructor
  · obtain ⟨call, hcall, hpayload, -⟩ :=
      (literal_kept_iff_isObject addends .empty).1 sumDecl rfl rfl
    exact ⟨call, hcall, hpayload⟩
  · obtain ⟨-, hkept⟩ :=
      (literal_kept_iff_isObject (.object [("total", .number (.int 3))]) .empty).2 totalFlow rfl
        rfl rfl
    exact (hkept _ (by decide +kernel)).mpr rfl

/-- Not every literal is kept where there is nothing to fill in: neither the list of a call nor the
number of a flow is. -/
theorem literals_lost :
    (¬ ∀ decl state call, decl.payloadPaths = [] → RemoteCall.ofDecl decl state = .ok call →
      call.payload = decl.payload) ∧
    ¬ ∀ (flow : Flow) (literal state : Value), flow.isLoop = false →
      flow.settings.literal = some literal → flow.settings.resultPaths = [] →
      flow.publication state = literal.placed flow.settings.destination := by
  constructor
  · intro hkept
    have hpayload := hkept sumDecl .empty ⟨"/sum", none, .empty, some "$.sum"⟩ rfl rfl
    cases hpayload
  · intro hkept
    have hpublished := hkept
      { definition := "five"
        repetition := .once
        settings := { literal := some (.number (.int 5)) } }
      (.number (.int 5)) .empty rfl rfl rfl
    cases hpublished

end Workflow
