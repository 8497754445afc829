import Blueprint.Proofs.Issue.Selection
import Blueprint.Proofs.Places.Checks
import Blueprint.Proofs.Places.Lines

/-
  The declarations of a document stand apart: no two of them
  have a place in common. What is reported at the places of
  a declaration is therefore what its own check finds in it.

  Main definitions:
    * `Declaration.Before`
    * `issuesWithin`

  Main statements:
    * `documentBlocks_pairwise`
    * `places_pairwise_of_forall₂`
    * `Spec.ofKind_before_pairwise`
    * `issuesWithin_of_mem_checks`
    * `Spec.issuesWithin_entity`, `Spec.issuesWithin_flow`
-/

------------------------------------------------------------
-- Declarations One after the Other
------------------------------------------------------------

namespace Blueprint

variable {file source : String}
variable {spec : Spec}

/- The lines of a document are in the order of its blocks. -/
theorem pairwise_flatMap_documentBlocks (source : String) :
    ((documentBlocks source).flatMap Block.lines).Pairwise
      (fun a b => a.number < b.number) := by
  have hOrder := significantLines_number_pairwise source
  rw [documentBlocks, flatMap_lines_blocks]
  exact hOrder.sublist (List.tail_sublist _)

/- All lines of a block stand before those of later blocks. -/
theorem documentBlocks_pairwise (source : String) :
    (documentBlocks source).Pairwise
      (fun b c => ∀ x ∈ b.lines, ∀ y ∈ c.lines,
        x.number < y.number) :=
  (List.pairwise_flatMap.mp
    (pairwise_flatMap_documentBlocks source)).2

/- The lines of a block are in order. -/
theorem lines_pairwise_of_mem_documentBlocks
    {b : Block}
    (hBlock : b ∈ documentBlocks source) :
    b.lines.Pairwise (fun x y => x.number < y.number) :=
  (List.pairwise_flatMap.mp
    (pairwise_flatMap_documentBlocks source)).1 b hBlock

/- Items that are read line by line stand at their lines. -/
theorem map_place_eq_of_forall₂
    {α : Type}
    {read : Line → Except Fault α}
    {place : α → Location}
    {lines : List Line}
    {items : List α}
    (hAll : List.Forall₂ (fun line a => read line = .ok a)
      lines items)
    (hPlace : ∀ line a, read line = .ok a →
      place a = line.location file) :
    items.map place = lines.map (·.location file) := by
  induction hAll with
  | nil => rfl
  | cons hFirst _ ih =>
      rw [List.map_cons, List.map_cons, hPlace _ _ hFirst, ih]

/- The head of a block and its items stand in order. -/
theorem places_pairwise_of_forall₂
    {α : Type}
    {b : Block}
    {read : Line → Except Fault α}
    {place : α → Location}
    {items : List α}
    (hBlock : b ∈ documentBlocks source)
    (hAll : List.Forall₂ (fun line a => read line = .ok a)
      b.body items)
    (hPlace : ∀ line a, read line = .ok a →
      place a = line.location file) :
    (b.head.location file :: items.map place).Pairwise
      (fun l m => l.line < m.line) := by
  have hLines := lines_pairwise_of_mem_documentBlocks hBlock
  rw [map_place_eq_of_forall₂ hAll hPlace]
  change (b.lines.map (·.location file)).Pairwise _
  rw [List.pairwise_map]
  exact hLines

/- The places of a declaration are before those of another. -/
def Declaration.Before (d other : Declaration) : Prop :=
  ∀ l ∈ d.places, ∀ m ∈ other.places, l.line < m.line

/- Declarations of a kind stand one after the other. -/
theorem Spec.ofKind_before_pairwise
    (h : parse file source = .ok spec)
    (k : Keyword) :
    (spec.ofKind k).Pairwise Declaration.Before := by
  have hBlocks := (documentBlocks_pairwise source).filter
    (·.head.opens k)
  apply pairwise_of_forall₂ (forall₂_ofKind h k) _ hBlocks
  intro b d c e hFirst hSecond hBefore l hl m hm
  obtain ⟨x, hx, rfl⟩ :=
    Declaration.isAtLines_of_ofBlock hFirst l hl
  obtain ⟨y, hy, rfl⟩ :=
    Declaration.isAtLines_of_ofBlock hSecond m hm
  exact hBefore x hx.mem_lines y hy.mem_lines

end Blueprint

------------------------------------------------------------
-- Issues at the Places of a Declaration
------------------------------------------------------------

namespace Blueprint

/- The issues of a code at some places. -/
def issuesWithin
    (code : Code)
    (places : List Location)
    (issues : List Issue) : List Issue :=
  (withCodes [code] issues).filter fun i =>
    places.any fun l => i.location == some l

variable {α β : Type}
variable {code : Code}
variable {places : List Location}
variable {issues : List Issue}

/- Issues at some of the places are all selected. -/
theorem Placed.issuesWithin_eq
    (h : Placed places issues) :
    issuesWithin code places issues =
      withCodes [code] issues := by
  unfold issuesWithin
  rw [List.filter_eq_self]
  intro i hMem
  obtain ⟨l, hPlace, hIssue⟩ :=
    h i (List.mem_filter.mp hMem).1
  exact List.any_eq_true.mpr
    ⟨l, hPlace, beq_iff_eq.mpr hIssue⟩

/- Issues at other places are not. -/
theorem Placed.issuesWithin_eq_nil
    {others : List Location}
    (h : Placed others issues)
    (hApart : ∀ l ∈ others, l ∉ places) :
    issuesWithin code places issues = [] := by
  unfold issuesWithin
  rw [List.filter_eq_nil_iff]
  intro i hMem hSelected
  obtain ⟨l, hOther, hIssue⟩ :=
    h i (List.mem_filter.mp hMem).1
  obtain ⟨m, hPlace, hSame⟩ := List.any_eq_true.mp hSelected
  rw [beq_iff_eq, hIssue, Option.some.injEq] at hSame
  rw [← hSame] at hPlace
  exact hApart l hOther hPlace

/-
  What one item of a list gives is all that the list gives,
  if the items before and behind it give nothing.
-/
theorem flatMap_eq_of_pairwise
    {R : α → α → Prop}
    {items : List α}
    {item : α}
    {f : α → List β}
    (hPair : items.Pairwise R)
    (hItem : item ∈ items)
    (hBefore : ∀ other, R other item → f other = [])
    (hAfter : ∀ other, R item other → f other = []) :
    items.flatMap f = f item := by
  obtain ⟨before, after, rfl⟩ := List.append_of_mem hItem
  rw [List.pairwise_append, List.pairwise_cons] at hPair
  obtain ⟨_, ⟨hLater, _⟩, hAcross⟩ := hPair
  have hFirst : before.flatMap f = [] := by
    rw [List.flatMap_eq_nil_iff]
    intro other hMem
    exact hBefore other
      (hAcross other hMem item List.mem_cons_self)
  have hLast : after.flatMap f = [] := by
    rw [List.flatMap_eq_nil_iff]
    intro other hMem
    exact hAfter other (hLater other hMem)
  rw [List.flatMap_append, List.flatMap_cons, hFirst, hLast,
    List.nil_append, List.append_nil]

/-
  At the places of an item whose places are its own, a check
  of all items reports what it finds in the item.
-/
theorem issuesWithin_of_mem_checks
    {spec : Spec}
    {own : List Code}
    {items : List α}
    {item : α}
    {find : α → List Issue}
    {placesOf : α → List Location}
    (hCheck : (own, items.flatMap find) ∈ spec.checks)
    (hCode : code ∈ own)
    (hPlaced : ∀ x, Placed (placesOf x) (find x))
    (hPair : items.Pairwise fun x y =>
      ∀ l ∈ placesOf x, ∀ m ∈ placesOf y, l.line < m.line)
    (hItem : item ∈ items) :
    issuesWithin code (placesOf item) spec.issues =
      withCodes [code] (find item) := by
  have hApart : ∀ other,
      (∀ l ∈ placesOf other, l ∉ placesOf item) →
        (issuesWithin code (placesOf item)
          (find other)) = [] :=
    fun other => (hPlaced other).issuesWithin_eq_nil
  have hCodes : [code] ⊆ own := by
    simpa using hCode
  have hParts : issuesWithin code (placesOf item)
      spec.issues = items.flatMap fun x =>
        issuesWithin code (placesOf item) (find x) := by
    unfold issuesWithin
    rw [withCodes_issues hCheck hCodes, withCodes_flatMap,
      List.filter_flatMap]
  rw [hParts, ← (hPlaced item).issuesWithin_eq]
  apply flatMap_eq_of_pairwise hPair hItem
  · intro other hBefore
    apply hApart other
    intro l hl hSame
    exact Nat.lt_irrefl _ (hBefore l hl l hSame)
  · intro other hAfter
    apply hApart other
    intro l hl hSame
    exact Nat.lt_irrefl _ (hAfter l hSame l hl)

namespace Spec

variable {file source : String}
variable {spec : Spec}

/- What is reported at the places of an entity. -/
theorem issuesWithin_entity
    {e : Entity}
    (h : parse file source = .ok spec)
    (hEntity : e ∈ spec.entities)
    (hCode : code ∈ Code.entities) :
    issuesWithin code e.places spec.verify.issues =
      withCodes [code]
        (entityIssues (SymbolTable.ofSpec spec) e) := by
  have hPair := ofKind_before_pairwise h .entity
  rw [ofKind, List.pairwise_map] at hPair
  exact issuesWithin_of_mem_checks (by simp [checks]) hCode
    (placed_entityIssues _) hPair hEntity

/- What is reported at the places of a flow. -/
theorem issuesWithin_flow
    {f : Flow}
    (h : parse file source = .ok spec)
    (hFlow : f ∈ spec.flows)
    (hCode : code ∈ Code.flows false) :
    issuesWithin code f.places spec.verify.issues =
      withCodes [code] (flowIssues spec.hasAi f) := by
  have hPair := ofKind_before_pairwise h .flow
  rw [ofKind, List.pairwise_map] at hPair
  exact issuesWithin_of_mem_checks (by simp [checks]) hCode
    (placed_flowIssues _) hPair hFlow

end Spec

end Blueprint
