import Blueprint.Text.Alphanumeric
import Blueprint.Text.Cut

/-
  The words of a text: the maximal runs of letters, numbers
  and underscores.

  Main definition:
    * `words`

  Main statement:
    * `all_isWordChar_of_mem_words`
-/

------------------------------------------------------------
-- Words
------------------------------------------------------------

namespace Blueprint

namespace Text

/- The words of a text, in order. -/
def words (text : List Char) : List (List Char) :=
  (splitWhere (fun c => !isWordChar c) text).filter
    fun word => !word.isEmpty

/- No piece holds a character that was split at. -/
theorem forall_false_of_mem_splitWhere
    {p : Char → Bool}
    {text piece : List Char}
    (h : piece ∈ splitWhere p text) :
    ∀ c ∈ piece, p c = false := by
  induction text generalizing piece with
  | nil => simp_all [splitWhere]
  | cons d rest ih =>
      unfold splitWhere at h
      split at h
      · rcases List.mem_cons.mp h with rfl | h
        · simp
        · exact ih h
      · rename_i hd
        cases hSplit : splitWhere p rest with
        | nil => exact absurd hSplit (splitWhere_ne_nil p rest)
        | cons first more =>
            rw [hSplit] at h ih
            simp only [consFirst, List.mem_cons] at h
            rcases h with rfl | h
            · intro c hc
              rcases List.mem_cons.mp hc with rfl | hc
              · simpa using hd
              · exact ih (List.mem_cons_self ..) c hc
            · exact ih (List.mem_cons_of_mem _ h)

/- A word is made of word characters. -/
theorem all_isWordChar_of_mem_words
    {text word : List Char}
    (h : word ∈ words text) :
    word.all isWordChar = true := by
  have hMem := (List.mem_filter.mp h).1
  have hAll := forall_false_of_mem_splitWhere hMem
  simpa using hAll

end Text

end Blueprint
