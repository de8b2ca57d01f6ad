import Workflow.Proofs.Path.Lens
import Workflow.Proofs.Path.Spelling

/-!
# Keys in quotes

A key in quotes reaches a field whose name could not stand behind a point.  The reader looks for the
end of the bracket before it looks for quotes, so a key is read as the name of a field exactly if it
closes no bracket itself.
-/

namespace Workflow.Path

/-- The path text that leads to the field under a key, the key between two marks. -/
def inQuotes (mark : Char) (key : String) : String :=
  String.ofList ('$' :: '[' :: mark :: (key.toList ++ [mark, ']']))

/-- A mark that can stand around a key. -/
def IsQuote (mark : Char) : Prop :=
  mark = '\'' ∨ mark = '"'

variable {mark : Char} {inner : List Char}

theorem IsQuote.isBlank (hmark : IsQuote mark) : Text.isBlank mark = false := by
  rcases hmark with rfl | rfl <;> decide

theorem IsQuote.isDigit (hmark : IsQuote mark) : mark.isDigit = false := by
  rcases hmark with rfl | rfl <;> decide

theorem IsQuote.ne_star (hmark : IsQuote mark) : mark ≠ '*' := by
  rcases hmark with rfl | rfl <;> decide

theorem IsQuote.ne_plus (hmark : IsQuote mark) : mark ≠ '+' := by
  rcases hmark with rfl | rfl <;> decide

/-! ## One bracket -/

/-- What stands between quotes is a key, blanks at its ends included. -/
theorem readBracket_quoted (hmark : IsQuote mark) (inner : List Char) :
    readBracket (Text.trim (mark :: (inner ++ [mark]))) = .ok (.field (String.ofList inner)) := by
  have hlast : (mark :: (inner ++ [mark])).getLast? = some mark := by
    rw [← List.cons_append, List.getLast?_concat]
  have htrim : Text.trim (mark :: (inner ++ [mark])) = mark :: (inner ++ [mark]) := by
    rw [Text.trim_cons hmark.isBlank, ← Text.trimEnd_cons hmark.isBlank, Text.trimEnd_eq_self_iff]
    intro c hc
    cases hlast.symm.trans hc
    exact hmark.isBlank
  have hstar : mark :: (inner ++ [mark]) ≠ ['*'] :=
    fun hstar => hmark.ne_star (List.cons.inj hstar).1
  have hbetween :
      (isBetween '\'' (mark :: (inner ++ [mark])) || isBetween '"' (mark :: (inner ++ [mark]))) =
        true := by
    rw [isBetween, isBetween, hlast]
    rcases hmark with rfl | rfl <;> simp
  rw [htrim, readBracket, if_neg hstar, if_pos hbetween, List.tail_cons, List.dropLast_concat]

theorem isBetween_open (hinside : mark ∉ inner) (mark' : Char) :
    isBetween mark' (mark :: inner) = false := by
  cases inner using List.reverseRecOn with
  | nil => simp [isBetween]
  | append_singleton front last =>
      have hlast : mark ≠ last := by
        rintro rfl
        exact hinside (by simp)
      by_cases hmark : mark = mark'
      · subst hmark
        rw [isBetween, ← List.cons_append, List.getLast?_concat]
        simp [Ne.symm hlast]
      · simp [isBetween, hmark]

/-- What begins with a quote that does not come again is neither a key nor anything else. -/
theorem readBracket_open (hmark : IsQuote mark) (hinside : mark ∉ inner) :
    readBracket (Text.trim (mark :: inner)) =
      .error (.badBracket (String.ofList (Text.trim (mark :: inner)))) := by
  rw [Text.trim_cons hmark.isBlank]
  have hinside' : mark ∉ Text.trimEnd inner :=
    fun hmem => hinside ((Text.trimEnd_prefix inner).subset hmem)
  have hstar : mark :: Text.trimEnd inner ≠ ['*'] :=
    fun hstar => hmark.ne_star (List.cons.inj hstar).1
  have hindex : readIndex? (mark :: Text.trimEnd inner) = none := by
    unfold readIndex?
    split
    · next hplus => exact absurd (List.cons.inj hplus).1 hmark.ne_plus
    · simp [hmark.isDigit]
  rw [readBracket, if_neg hstar, isBetween_open hinside', isBetween_open hinside', hindex]
  rfl

/-! ## The whole path -/

variable {key : String}

/-- Nothing is trimmed from a path that begins with a dollar sign and ends with a bracket. -/
theorem read_inQuotes_eq (mark : Char) (key : String) :
    read (inQuotes mark key) =
      (readSegments 0 (('[' :: mark :: (key.toList ++ [mark, ']'])).length)
        ('[' :: mark :: (key.toList ++ [mark, ']']))).mapError (.badPath (inQuotes mark key)) := by
  have htrim : Text.trimEnd (mark :: (key.toList ++ [mark, ']'])) =
      mark :: (key.toList ++ [mark, ']']) := by
    rw [Text.trimEnd_eq_self_iff, ← List.cons_append, List.append_cons, List.getLast?_concat]
    intro c hc
    cases hc
    decide
  rw [inQuotes, read_dollar (by decide), htrim, readBody_cons (by decide)]

/-- A key that closes no bracket is read as the name of a field. -/
theorem read_inQuotes_of_not_mem (hmark : IsQuote mark) (hbracket : ']' ∉ key.toList) :
    read (inQuotes mark key) = .ok [.field key] := by
  have hinside : ']' ∉ mark :: (key.toList ++ [mark]) := by
    rcases hmark with rfl | rfl <;> simp [hbracket]
  have hspells := Spells.bracket hinside (readBracket_quoted hmark key.toList) .nil
  rw [List.cons_append, List.append_assoc, List.singleton_append, String.ofList_toList] at hspells
  rw [read_inQuotes_eq, mapError_eq_ok_iff]
  exact hspells.readSegments le_rfl

/-- A key that closes a bracket ends the first bracket too early. -/
theorem read_inQuotes_of_split (hmark : IsQuote mark) (hkey : mark ∉ key.toList)
    {before after : List Char} (hsplit : key.toList = before ++ ']' :: after)
    (hbefore : ']' ∉ before) :
    read (inQuotes mark key) = .error (.badPath (inQuotes mark key)
      (.badBracket (String.ofList (Text.trim (mark :: before))))) := by
  have hinside : ']' ∉ mark :: before := by
    rcases hmark with rfl | rfl <;> simp [hbefore]
  have hmark' : mark ∉ before := fun hmem => hkey (by rw [hsplit]; simp [hmem])
  have htext : mark :: (key.toList ++ [mark, ']']) =
      (mark :: before) ++ ']' :: (after ++ [mark, ']']) := by
    rw [hsplit]
    simp
  rw [read_inQuotes_eq, htext, List.length_cons, readSegments_bracket hinside,
    readBracket_open hmark hmark']
  rfl

/-- A key in quotes that closes no bracket is read as the name of a field and leads to what is under
the key. One that does ends its bracket too early, and what then stands in the bracket is neither a
key nor anything else. -/
theorem read_inQuotes {mark : Char} (hmark : IsQuote mark) (key : String) :
    (']' ∉ key.toList → read (inQuotes mark key) = .ok [.field key] ∧
      ∀ tree value : Value, tree.field? key = some value →
        tree.valuesAt (inQuotes mark key) = .ok [value]) ∧
    (mark ∉ key.toList → ']' ∈ key.toList → read (inQuotes mark key) =
      .error (.badPath (inQuotes mark key)
        (.badBracket (String.ofList (Text.trim (mark :: key.toList.takeWhile (· != ']'))))))) := by
  constructor
  · intro hbracket
    have hread := read_inQuotes_of_not_mem hmark hbracket
    refine ⟨hread, fun tree value hvalue => ?_⟩
    rw [Value.valuesAt_of_read hread, values, hvalue]
    rfl
  · intro hkey hbracket
    obtain ⟨before, after, hsplit, hbefore⟩ := List.eq_append_cons_of_mem hbracket
    have hothers : ∀ c ∈ before, (c != ']') = true := by
      intro c hc
      rw [bne_iff_ne]
      rintro rfl
      exact hbefore hc
    have htake : key.toList.takeWhile (· != ']') = before := by
      rw [hsplit, List.takeWhile_append_of_pos hothers]
      simp
    rw [htake]
    exact read_inQuotes_of_split hmark hkey hsplit hbefore

/-- A tree with two keys that only quotes can reach. -/
def quotedKeys : Value :=
  .object [(" a.b[0 ", .bool true), ("it's *", .bool false)]

/-- Points, blanks, stars, an opening bracket and the other mark can all stand in a key; a closing
bracket cannot, whatever follows it. -/
theorem quotedKeys_read :
    IsQuote '\'' ∧ IsQuote '"' ∧
      quotedKeys.valuesAt "$[' a.b[0 ']" = .ok [.bool true] ∧
      quotedKeys.valuesAt "$[\"it's *\"]" = .ok [.bool false] ∧
      read "$['a ].b']" = .error (.badPath "$['a ].b']" (.badBracket "'a")) := by
  have hsingle : IsQuote '\'' := .inl rfl
  have hdouble : IsQuote '"' := .inr rfl
  refine ⟨hsingle, hdouble, ?_, ?_, ?_⟩
  · exact ((read_inQuotes hsingle " a.b[0 ").1 (by decide +kernel)).2 quotedKeys _
      (by decide +kernel)
  · exact ((read_inQuotes hdouble "it's *").1 (by decide +kernel)).2 quotedKeys _
      (by decide +kernel)
  · exact (read_inQuotes hsingle "a ].b").2 (by decide +kernel) (by decide +kernel)

/-- Not every key can be reached in quotes. -/
theorem closing_bracket_unread :
    ¬ ∀ mark key, IsQuote mark → mark ∉ key.toList →
      read (inQuotes mark key) = .ok [.field key] := by
  intro hall
  have hread := hall '\'' "a]b" (.inl rfl) (by decide +kernel)
  have herror : read (inQuotes '\'' "a]b") =
      .error (.badPath "$['a]b']" (.badBracket "'a")) := by
    decide +kernel
  cases herror.symm.trans hread

end Workflow.Path
