import Blueprint.Source.Phrase

/-
  Readings that blame only the lines they were given: the
  steps that readers are made of keep to their lines.

  Main definition:
    * `BlamesAmong`

  Main statements:
    * `blamesAmong_blame`
    * `BlamesAmong.bind`, `BlamesAmong.map`
    * `blamesAmong_mapM`
    * `blamesAmong_checkEven`
-/

------------------------------------------------------------
-- Blame among Lines
------------------------------------------------------------

namespace Blueprint

variable {α β : Type}
variable {file : String}
variable {lines : List Line}

/- The fault of a reading, if any, lies at one of the lines. -/
def BlamesAmong
    (file : String)
    (lines : List Line)
    (result : Except Fault α) : Prop :=
  ∀ fault, result = .error fault →
    ∃ line ∈ lines, fault.location = line.location file

/- A reading that succeeds blames no line. -/
theorem blamesAmong_ok (a : α) :
    BlamesAmong file lines (.ok a) := by
  intro fault hFault
  cases hFault

/- A line of the lines may be blamed. -/
theorem blamesAmong_blame
    {line : Line}
    (hLine : line ∈ lines)
    (result : Except Cause α) :
    BlamesAmong file lines (line.blame file result) := by
  intro fault hFault
  cases result with
  | ok a => cases hFault
  | error cause =>
      cases hFault
      exact ⟨line, hLine, rfl⟩

/- More lines may be blamed as well. -/
theorem BlamesAmong.mono
    {more : List Line}
    {result : Except Fault α}
    (hResult : BlamesAmong file lines result)
    (hLines : lines ⊆ more) :
    BlamesAmong file more result := by
  intro fault hFault
  rcases hResult fault hFault with ⟨line, hMem, hPlace⟩
  exact ⟨line, hLines hMem, hPlace⟩

/- Readings one after the other keep to their lines. -/
theorem BlamesAmong.bind
    {result : Except Fault α}
    {next : α → Except Fault β}
    (hResult : BlamesAmong file lines result)
    (hNext : ∀ a, BlamesAmong file lines (next a)) :
    BlamesAmong file lines (result >>= next) := by
  intro fault hFault
  cases result with
  | error _ =>
      cases hFault
      exact hResult fault rfl
  | ok a => exact hNext a fault hFault

/- What a reading gives does not matter to its blame. -/
theorem BlamesAmong.map
    {result : Except Fault α}
    (hResult : BlamesAmong file lines result)
    (f : α → β) :
    BlamesAmong file lines (result.map f) := by
  intro fault hFault
  cases result with
  | error _ =>
      cases hFault
      exact hResult fault rfl
  | ok a => cases hFault

/- Reading the items of a list keeps to the lines of all. -/
theorem blamesAmong_mapM
    {read : α → Except Fault β}
    {items : List α}
    (hItems :
      ∀ item ∈ items, BlamesAmong file lines (read item)) :
    BlamesAmong file lines (items.mapM read) := by
  induction items with
  | nil => exact blamesAmong_ok []
  | cons item items ih =>
      rw [List.mapM_cons]
      apply BlamesAmong.bind (hItems item List.mem_cons_self)
      intro first
      have hRest := ih fun other hMem =>
        hItems other (List.mem_cons_of_mem _ hMem)
      apply BlamesAmong.bind hRest
      intro rest
      exact blamesAmong_ok (first :: rest)

/- An uneven body is blamed on one of its lines. -/
theorem blamesAmong_checkEven
    (keyword : Keyword)
    {body : List Line}
    (hBody : body ⊆ lines) :
    BlamesAmong file lines (checkEven file keyword body) := by
  cases body with
  | nil => exact blamesAmong_ok ()
  | cons first rest =>
      unfold checkEven
      dsimp only
      split
      · exact blamesAmong_ok ()
      · rename_i line hFind
        have hMem := List.mem_of_find?_eq_some hFind
        exact blamesAmong_blame
          (hBody (List.mem_cons_of_mem _ hMem)) _

end Blueprint

------------------------------------------------------------
-- What Readings Give
------------------------------------------------------------

namespace Blueprint

variable {α β : Type}

/- A reading that succeeds gives something with a property. -/
def Gives
    (p : α → Prop)
    (result : Except Fault α) : Prop :=
  ∀ a, result = .ok a → p a

/- A reading that succeeds gives what it says. -/
theorem gives_ok
    {p : α → Prop}
    {a : α}
    (hA : p a) :
    Gives p (.ok a) := by
  intro b hOk
  cases hOk
  exact hA

/- A reading that blames a line gives nothing. -/
theorem gives_blame_error
    (p : α → Prop)
    (file : String)
    (line : Line)
    (cause : Cause) :
    Gives p (line.blame file (.error cause)) := by
  intro a hOk
  cases hOk

/- The last of several readings decides what they give. -/
theorem gives_bind
    {p : β → Prop}
    {result : Except Fault α}
    {next : α → Except Fault β}
    (hNext : ∀ a, Gives p (next a)) :
    Gives p (result >>= next) := by
  intro b hOk
  cases result with
  | error _ => cases hOk
  | ok a => exact hNext a b hOk

/- What a reading gives may be packed up. -/
theorem Gives.map
    {p : α → Prop}
    {q : β → Prop}
    {result : Except Fault α}
    {f : α → β}
    (hResult : Gives p result)
    (hF : ∀ a, p a → q (f a)) :
    Gives q (result.map f) := by
  intro b hOk
  cases result with
  | error _ => cases hOk
  | ok a =>
      cases hOk
      exact hF a (hResult a rfl)

end Blueprint
