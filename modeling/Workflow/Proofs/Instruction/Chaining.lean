import Mathlib.Control.Monad.Basic
import Workflow.Proofs.Document.Destinations
import Workflow.Proofs.Value.Association

/-!
# What chained instructions see

A chained run keeps the state as its instructions see it, `Instruction.seenAfter`, and beside it the
patch that they have written.  Only the patch is handed on, and is merged over the state once more.
The two stay in step, and each instruction sees the patch so far merged over the state, exactly as
long as no instruction restores what those before it had replaced, `Instruction.Restores`.
-/

namespace Workflow

namespace Instruction

/-- The state as an instruction sees it that runs after chained ones. -/
def seenAfter (state : Value) : List Instruction → Except Error Value
  | [] => .ok state
  | instruction :: rest =>
    match instruction.write state with
    | .ok written => seenAfter (state.merge written) rest
    | .error error => .error error

/-- The patch that grows from `patch` when each instruction sees what has grown before it, merged
over `state`. -/
def growOver (state patch : Value) : List Instruction → Except Error Value
  | [] => .ok patch
  | instruction :: rest =>
    match instruction.write (state.merge patch) with
    | .ok written => growOver state (patch.merge written) rest
    | .error error => .error error

/-- Some instruction brings back a part of `state` that those before it had replaced. -/
def Restores (state patch : Value) : List Instruction → Prop
  | [] => False
  | instruction :: rest =>
    ∃ written, instruction.write (state.merge patch) = .ok written ∧
      (state.Revives patch written ∨ Restores state (patch.merge written) rest)

/-- Whatever runs after chained instructions starts from the state that they leave to it and from
the patch that they have grown. -/
theorem extend_append (state patch : Value) (before after : List Instruction) :
    extend true state patch (before ++ after) =
      (seenAfter state before).bind fun seen =>
        (extend true state patch before).bind fun grown => extend true seen grown after := by
  induction before generalizing state patch with
  | nil => rfl
  | cons instruction rest ih =>
      rw [List.cons_append, extend, extend, seenAfter]
      cases instruction.write state with
      | error error => rfl
      | ok written => exact ih (state.merge written) (patch.merge written)

section InStep

variable {state patch : Value} {instructions : List Instruction}

/-- Instructions that restore nothing grow the patch, and leave the state, that they would if each
of them saw the patch so far merged over the state. The induction is on the instructions; what
carries it is that the state as they see it is the patch so far, merged over the state. -/
theorem in_step_of_not_restores (hstate : state.Canonical) (hpatch : patch.Canonical)
    (hliterals : ∀ instruction ∈ instructions, instruction.Canonical)
    (hnone : ¬ Restores state patch instructions) :
    extend true (state.merge patch) patch instructions = growOver state patch instructions ∧
      seenAfter (state.merge patch) instructions =
        (growOver state patch instructions).map state.merge := by
  induction instructions generalizing patch with
  | nil => exact ⟨rfl, rfl⟩
  | cons instruction rest ih =>
      obtain ⟨hliteral, hrest⟩ := List.forall_mem_cons.mp hliterals
      rw [extend, seenAfter, growOver]
      cases hwrite : instruction.write (state.merge patch) with
      | error error => exact ⟨rfl, rfl⟩
      | ok written =>
          have hwritten := hliteral.write (hstate.merge hpatch) hwrite
          have hkept : ¬ state.Revives patch written :=
            fun hrevives => hnone ⟨written, hwrite, .inl hrevives⟩
          have hlater : ¬ Restores state (patch.merge written) rest :=
            fun hrestores => hnone ⟨written, hwrite, .inr hrestores⟩
          dsimp only
          rw [if_pos rfl, Value.merge_assoc hstate hpatch hwritten hkept]
          exact ih (hpatch.merge hwritten) hrest hlater

/-- What restores something has instructions at its front after which the state as they see it is
not their patch merged over the state. -/
theorem out_of_step_of_restores (hstate : state.Canonical) (hpatch : patch.Canonical)
    (hliterals : ∀ instruction ∈ instructions, instruction.Canonical)
    (hrestores : Restores state patch instructions) :
    ∃ before, before <+: instructions ∧
      seenAfter (state.merge patch) before ≠ (growOver state patch before).map state.merge := by
  induction instructions generalizing patch with
  | nil => exact hrestores.elim
  | cons instruction rest ih =>
      obtain ⟨hliteral, hrest⟩ := List.forall_mem_cons.mp hliterals
      obtain ⟨written, hwrite, hcause⟩ := hrestores
      have hwritten := hliteral.write (hstate.merge hpatch) hwrite
      by_cases hrevives : state.Revives patch written
      · refine ⟨[instruction], List.prefix_append [instruction] rest, fun hsame => ?_⟩
        rw [seenAfter, growOver, hwrite] at hsame
        exact hrevives.merge_ne hpatch hwritten (Except.ok.inj hsame)
      · obtain ⟨before, hbefore, hdiffer⟩ :=
          ih (hpatch.merge hwritten) hrest (hcause.resolve_left hrevives)
        refine ⟨instruction :: before, (List.prefix_cons_inj instruction).mpr hbefore, ?_⟩
        rw [seenAfter, growOver, hwrite]
        dsimp only
        rw [Value.merge_assoc hstate hpatch hwritten hrevives]
        exact hdiffer

/-- Where instructions restore nothing, those at their front restore nothing. -/
theorem not_restores_of_front {before : List Instruction} (hbefore : before <+: instructions)
    (hnone : ¬ Restores state patch instructions) : ¬ Restores state patch before := by
  induction before generalizing patch instructions with
  | nil => exact id
  | cons instruction rest ih =>
      obtain ⟨after, rfl⟩ := hbefore
      rintro ⟨written, hwrite, hrevives | hlater⟩
      · exact hnone ⟨written, hwrite, .inl hrevives⟩
      · exact ih (List.prefix_append rest after)
          (fun hrestores => hnone ⟨written, hwrite, .inr hrestores⟩) hlater

/-- Nothing is restored in a state without objects below its root. -/
theorem not_restores_of_flat (hflat : ∀ pair ∈ state.fields, pair.2.isObject = false)
    (hpatch : patch.isObject = true) (hinward : AllInward instructions) :
    ¬ Restores state patch instructions := by
  induction instructions generalizing patch with
  | nil => exact id
  | cons instruction rest ih =>
      obtain ⟨hfirst, hrest⟩ := List.forall_mem_cons.mp hinward
      rintro ⟨written, hwrite, hrevives | hlater⟩
      · exact Value.not_revives_of_flat hflat hpatch hrevives
      · exact ih (Value.isObject_merge patch (isObject_write hfirst hwrite)) hrest hlater

end InStep

/-- What runs after chained instructions sees the state that they leave to it. That is the patch so
far merged over the state, for the first of the instructions as for all of them, exactly if none of
them restores what those before it had replaced. Then their patch is the one that grows so, and what
runs after them starts from it merged over the state. -/
theorem chained_in_step_iff {state : Value} (hobject : state.isObject = true)
    (hstate : state.Canonical) {instructions : List Instruction}
    (hliterals : ∀ instruction ∈ instructions, instruction.Canonical) :
    (∀ before after, chainedPatch (before ++ after) state =
      (seenAfter state before).bind fun seen =>
        (chainedPatch before state).bind fun grown => extend true seen grown after) ∧
    ((∀ before, before <+: instructions →
        seenAfter state before = (growOver state .empty before).map state.merge) ↔
      ¬ Restores state .empty instructions) ∧
    (¬ Restores state .empty instructions →
      chainedPatch instructions state = growOver state .empty instructions ∧
        ∀ patch, chainedPatch instructions state = .ok patch → ∀ after,
          chainedPatch (instructions ++ after) state =
            extend true (state.merge patch) patch after) := by
  have hempty := Value.merge_empty hobject
  refine ⟨extend_append state .empty, ⟨fun hstep hrestores => ?_, fun hnone before hbefore => ?_⟩,
    fun hnone => ?_⟩
  · obtain ⟨before, hbefore, hdiffer⟩ :=
      out_of_step_of_restores hstate Value.canonical_empty hliterals hrestores
    rw [hempty] at hdiffer
    exact hdiffer (hstep before hbefore)
  · have hstep := in_step_of_not_restores hstate Value.canonical_empty
      (fun instruction hmem => hliterals instruction (hbefore.subset hmem))
      (not_restores_of_front hbefore hnone)
    rw [hempty] at hstep
    exact hstep.2
  · have hstep := in_step_of_not_restores hstate Value.canonical_empty hliterals hnone
    rw [hempty] at hstep
    refine ⟨hstep.1, fun patch hpatch after => ?_⟩
    have hgrown : growOver state .empty instructions = .ok patch := hstep.1.symm.trans hpatch
    have hextend : extend true state .empty instructions = .ok patch := hpatch
    rw [chainedPatch, extend_append, hstep.2, hgrown, hextend]
    rfl

def rated : Value := .object [("rate", .number (.int 3))]

/-- Instructions each of which needs what the one before it wrote. -/
def totalling : List Instruction :=
  [⟨.literal (.number (.int 2)), "$.count"⟩, ⟨.path "$.count", "$.totals.count"⟩,
    ⟨.template "\x7b\x7b$.totals.count\x7d\x7d at \x7b\x7b$.rate\x7d\x7d", "$.totals.label"⟩]

/-- The totals stay in step, and a copy of them is a copy of what is merged over the rate. -/
theorem totalling_in_step :
    chainedPatch totalling rated = growOver rated .empty totalling ∧
      ∀ patch, chainedPatch totalling rated = .ok patch →
        chainedPatch (totalling ++ [⟨.path "$.totals", "$.copy"⟩]) rated =
          extend true (rated.merge patch) patch [⟨.path "$.totals", "$.copy"⟩] := by
  have hstate : rated.Canonical := by
    rw [rated, Value.canonical_object_iff]
    exact ⟨List.pairwise_singleton _ _, by simp [Value.Canonical]⟩
  have hliterals : ∀ instruction ∈ totalling, instruction.Canonical := by
    simp [totalling, Instruction.Canonical, Value.Canonical]
  have hinward : AllInward totalling := by
    intro instruction hmem
    simp only [totalling, List.mem_cons, List.not_mem_nil, or_false] at hmem
    rcases hmem with rfl | rfl | rfl <;> decide +kernel
  obtain ⟨hgrown, hafter⟩ := (chained_in_step_iff rfl hstate hliterals).2.2
    (not_restores_of_flat (by simp [rated, Value.isObject]) rfl hinward)
  exact ⟨hgrown, fun patch hpatch => hafter patch hpatch _⟩

/-- A state with an order that is paid. -/
def paidOrder : Value := .object [("order", .object [("paid", .bool true)])]

/-- Instructions that put a number in the place of the order, and then a new order. -/
def reordering : List Instruction :=
  [⟨.literal (.number (.int 5)), "$.order"⟩, ⟨.literal (.object [("lines", .list [])]), "$.order"⟩]

/-- Chained instructions can fall out of step: of the order that was replaced one that follows finds
nothing, and the patch merged over the state has it again. -/
theorem reordering_out_of_step :
    chainedPatch (reordering ++ [⟨.path "$.order.paid", "$.paid"⟩]) paidOrder =
        .error (.nothingAt "$.order.paid") ∧
      ∃ patch, chainedPatch reordering paidOrder = .ok patch ∧
        (paidOrder.merge patch).valueAt "$.order.paid" = .ok (.bool true) ∧
        growOver paidOrder .empty (reordering ++ [⟨.path "$.order.paid", "$.paid"⟩]) =
          .ok (patch.merge (.object [("paid", .bool true)])) := by
  refine ⟨by decide +kernel, .object [("order", .object [("lines", .list [])])], ?_⟩
  decide +kernel

end Instruction

end Workflow
