import Blueprint.Text.Blank
import Blueprint.Text.Cut

/-
  Text in double quotes. Between the quotes a backslash
  keeps the next character from closing the text; nothing is
  unescaped, so a quoted text is stored as it is written.

  Main definitions:
    * `quotedBody?`
    * `quoted?`
    * `firstQuoted?`
    * `unquote?`, `unquoted`

  Main statement:
    * `eq_append_of_quotedBody?`
-/

------------------------------------------------------------
-- Reading Quoted Text
------------------------------------------------------------

namespace Blueprint

namespace Text

/-
  The text up to the closing quote and what follows it, for
  input that starts after the opening quote.
-/
def quotedBody? :
    List Char → Option (List Char × List Char)
| [] => none
| '"' :: rest => some ([], rest)
| '\\' :: c :: rest =>
    (quotedBody? rest).map fun (body, after) =>
      ('\\' :: c :: body, after)
| '\\' :: [] => none
| c :: rest =>
    (quotedBody? rest).map fun (body, after) =>
      (c :: body, after)

/- A quoted text at the start of the input. -/
def quoted? :
    List Char → Option (List Char × List Char)
| '"' :: rest => quotedBody? rest
| _ => none

/- The first quoted text anywhere in the input. -/
def firstQuoted? : List Char → Option (List Char)
| [] => none
| c :: rest =>
    match quoted? (c :: rest) with
    | some (body, _) => some body
    | none => firstQuoted? rest

/- A read body is followed by its closing quote. -/
theorem eq_append_of_quotedBody?
    {text body after : List Char}
    (h : quotedBody? text = some (body, after)) :
    text = body ++ '"' :: after := by
  fun_induction quotedBody? text generalizing body after with
  | case1 => simp at h
  | case2 rest => simp_all
  | case3 c rest ih =>
      obtain ⟨⟨b, a⟩, hBody, hEq⟩ :=
        Option.map_eq_some_iff.mp h
      simp only [Prod.mk.injEq] at hEq
      obtain ⟨rfl, rfl⟩ := hEq
      simp [ih hBody]
  | case4 => simp at h
  | case5 c rest _ _ _ ih =>
      obtain ⟨⟨b, a⟩, hBody, hEq⟩ :=
        Option.map_eq_some_iff.mp h
      simp only [Prod.mk.injEq] at hEq
      obtain ⟨rfl, rfl⟩ := hEq
      simp [ih hBody]

end Text

end Blueprint

------------------------------------------------------------
-- Removing Quotes
------------------------------------------------------------

namespace Blueprint

namespace Text

/-
  The text between the first and the last character of a
  trimmed text, if both are quotes.
-/
def unquote? (text : List Char) : Option (List Char) :=
  match trim text with
  | '"' :: rest => stripEnd ['"'] rest
  | _ => none

/- A text without its surrounding quotes, if it has them. -/
def unquoted (text : List Char) : List Char :=
  (unquote? text).getD text

end Text

end Blueprint
