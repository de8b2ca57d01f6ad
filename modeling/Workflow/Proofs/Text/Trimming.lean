import Mathlib.Data.List.DropRight
import Workflow.Text.Blank

/-!
# Trimming

Trimming takes away blanks and nothing else: what begins with another character keeps its beginning,
and what ends with another one keeps its end.
-/

namespace Workflow.Text

variable {c : Char} {blanks text : List Char}

theorem trimStart_cons (hc : isBlank c = false) (text : List Char) :
    trimStart (c :: text) = c :: text := by
  simp [trimStart, hc]

theorem trimEnd_prefix (text : List Char) : trimEnd text <+: text :=
  List.rdropWhile_prefix isBlank text

theorem trimEnd_eq_self_iff :
    trimEnd text = text ↔ ∀ c, text.getLast? = some c → isBlank c = false := by
  refine List.rdropWhile_eq_self_iff.trans ?_
  cases text using List.reverseRecOn with
  | nil => simp
  | append_singleton front last => simp

/-- A character that is no blank is kept, with what stands before it. -/
theorem trimEnd_cons (hc : isBlank c = false) (text : List Char) :
    trimEnd (c :: text) = c :: trimEnd text := by
  unfold trimEnd
  rw [List.reverse_cons, List.dropWhile_append]
  split_ifs with hempty
  · rw [List.isEmpty_iff.mp hempty]
    simp [hc]
  · simp

theorem trim_cons (hc : isBlank c = false) (text : List Char) :
    trim (c :: text) = c :: trimEnd text := by
  rw [trim, trimStart_cons hc, trimEnd_cons hc]

end Workflow.Text
