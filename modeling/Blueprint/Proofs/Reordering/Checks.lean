import Blueprint.Proofs.Conflict.Clashes
import Blueprint.Proofs.Conflict.Symmetry
import Blueprint.Proofs.Issue.Checks
import Blueprint.Proofs.Reordering.Lookups

/-
  Each check of a reordered specification reports as many
  issues of every kind, when the entities have different
  names.

  Main statements:
    * `Spec.Reordered.duplicateIssues_sameKinds`
    * `Spec.Reordered.structureIssues_sameKinds`
    * `Spec.Reordered.typingIssues_sameKinds`
    * `Spec.Reordered.conflictIssues_sameKinds`
    * `Spec.Reordered.boundaryIssues_sameKinds`
    * `Spec.Reordered.wiringIssues_sameKinds`
    * `Spec.Reordered.styleIssues_sameKinds`
-/

------------------------------------------------------------
-- Names and Structure
------------------------------------------------------------

namespace Blueprint

variable {α : Type}

/- Repeated names are reported as often in any order. -/
theorem sameKinds_repeatIssues
    (name : α → String)
    (location : α → Location)
    {matter : String → Nat → Matter}
    (code : Code)
    (hCode : ∀ n line, (matter n line).code = code)
    {items others : List α}
    (h : items.Perm others) :
    SameKinds (repeatIssues name location matter items)
      (repeatIssues name location matter others) := by
  unfold repeatIssues
  apply sameKinds_flatMap_withFirst (fun _ => [])
    (.error, code.id) _ _ h
  · intro d
    rfl
  · intro d first
    simp [Issue.kind, Issue.of, hCode]

/- Integrations have the same kinds of issues in any order. -/
theorem sameKinds_integrationIssues
    {items others : List Integration}
    (h : items.Perm others) :
    SameKinds (integrationIssues items)
      (integrationIssues others) := by
  unfold integrationIssues
  apply sameKinds_flatMap_withFirst
    (fun i =>
      (endpointFinding? i).toList.map (.of · i.location))
    (Code.integrationDuplicate.severity,
      Code.integrationDuplicate.id) _ _ h
  · intro i
    rfl
  · intro i first
    exact List.Perm.refl _

/- Events have the same kinds of issues in any order. -/
theorem sameKinds_eventIssues
    {items others : List Event}
    (h : items.Perm others) :
    SameKinds (eventIssues items) (eventIssues others) := by
  unfold eventIssues
  apply sameKinds_flatMap_withFirst
    (fun e =>
      (if e.fields.isEmpty then
        [Finding.warning (.eventNoFields e.name)]
      else
        []).map (.of · e.location))
    (Code.eventDuplicate.severity,
      Code.eventDuplicate.id) _ _ h
  · intro e
    rfl
  · intro e first
    exact List.Perm.refl _

/- Entities have the same kinds of issues in any order. -/
theorem sameKinds_duplicateEntityIssues
    {items others : List Entity}
    (h : items.Perm others) :
    SameKinds (duplicateEntityIssues items)
      (duplicateEntityIssues others) := by
  unfold duplicateEntityIssues
  apply sameKinds_flatMap_withFirst duplicateFieldIssues
    (Code.duplicateEntity.severity,
      Code.duplicateEntity.id) _ _ h
  · intro e
    exact List.append_nil _
  · intro e first
    rw [List.map_append]
    exact List.perm_append_singleton ..

namespace Spec.Reordered

variable {spec other : Spec}
variable (h : spec.Reordered other)
include h

theorem duplicateIssues_sameKinds :
    SameKinds (duplicateIssues other)
      (duplicateIssues spec) := by
  unfold duplicateIssues
  apply SameKinds.append
  · apply SameKinds.append
    · exact sameKinds_duplicateEntityIssues h.entities
    · exact sameKinds_repeatIssues _ _ .duplicateScreen
        (fun _ _ => rfl) h.screens
  · exact sameKinds_repeatIssues _ _ .duplicateFlow
      (fun _ _ => rfl) h.flows

/- An integration answers wherever it stands. -/
theorem hasAi_eq : other.hasAi = spec.hasAi :=
  h.integrations.any_eq

variable (hNames : (spec.entities.map Entity.name).Nodup)
include hNames

theorem structureIssues_sameKinds :
    SameKinds
      (structureIssues other (SymbolTable.ofSpec other))
      (structureIssues spec (SymbolTable.ofSpec spec)) := by
  have hAgree := h.agree_symbolTable hNames
  unfold structureIssues
  rw [funext (entityIssues_congr hAgree),
    funext (screenIssues_congr hAgree), h.hasAi_eq]
  refine .append (.append (.append (.append (.append
    ?entities ?screens) ?flows) ?rules) ?integrations)
      ?events
  case entities => exact sameKinds_flatMap h.entities _
  case screens => exact sameKinds_flatMap h.screens _
  case flows => exact sameKinds_flatMap h.flows _
  case rules => exact sameKinds_flatMap h.rules _
  case integrations =>
      exact sameKinds_integrationIssues h.integrations
  case events => exact sameKinds_eventIssues h.events

end Spec.Reordered

end Blueprint

------------------------------------------------------------
-- Typing, Conflicts and Boundaries
------------------------------------------------------------

namespace Blueprint

/- What an issue says tells of which kind it is. -/
theorem sameKinds_of_content_perm
    {first second : List Issue}
    (h : (first.map Issue.content).Perm
      (second.map Issue.content)) :
    SameKinds first second := by
  have hKinds := h.map fun content =>
    (content.1, content.2.1)
  rw [List.map_map, List.map_map] at hKinds
  exact hKinds

namespace Spec.Reordered

variable {spec other : Spec}
variable (h : spec.Reordered other)
include h

theorem boundaryIssues_sameKinds :
    SameKinds (boundaryIssues other)
      (boundaryIssues spec) :=
  sameKinds_flatMap h.entities _

variable (hNames : (spec.entities.map Entity.name).Nodup)
include hNames

theorem typingIssues_sameKinds :
    SameKinds (typingIssues other (TypeEnv.ofSpec other))
      (typingIssues spec (TypeEnv.ofSpec spec)) := by
  rw [typingIssues_congr (h.agree_typeEnv hNames)]
  apply SameKinds.append
  · exact sameKinds_flatMap h.screens _
  · exact sameKinds_of_perm (h.rules.filterMap _)

/-
  The constraints of rules read nothing of a specification
  but its rules, and the names of its entities.
-/
theorem conflictIssues_sameKinds :
    SameKinds (conflictIssues other (TypeEnv.ofSpec other))
      (conflictIssues spec (TypeEnv.ofSpec spec)) := by
  have hEnv := (h.agree_typeEnv hNames).names
  unfold conflictIssues
  rw [hEnv]
  apply SameKinds.append
  · exact sameKinds_of_content_perm
      (content_pairIssues_perm spec _ h.rules)
  · have hContent := content_overloadIssues spec
      (TypeEnv.ofSpec spec).entityNames h.rules
    apply sameKinds_of_content_perm
    exact List.Perm.of_eq hContent

end Spec.Reordered

end Blueprint

------------------------------------------------------------
-- Wiring
------------------------------------------------------------

namespace Blueprint

/- The first fields of pairs are those that are not seen. -/
theorem mem_map_pair_firstOfPairs_iff
    (seen : List (String × String))
    (rs : List Reach)
    (p : String × String) :
    p ∈ (Reach.firstOfPairs seen rs).map Reach.pair ↔
      p ∈ rs.map Reach.pair ∧ p ∉ seen := by
  induction rs generalizing seen with
  | nil => simp [Reach.firstOfPairs]
  | cons r rs ih =>
      unfold Reach.firstOfPairs
      by_cases hSeen : r.pair ∈ seen
      · rw [if_pos (by simpa using hSeen), ih, List.map_cons,
          List.mem_cons]
        constructor
        · rintro ⟨hMem, hNew⟩
          exact ⟨.inr hMem, hNew⟩
        · rintro ⟨rfl | hMem, hNew⟩
          · exact absurd hSeen hNew
          · exact ⟨hMem, hNew⟩
      · rw [if_neg (by simpa using hSeen), List.map_cons,
          List.mem_cons, ih, List.map_cons, List.mem_cons,
          List.mem_cons]
        constructor
        · rintro (rfl | ⟨hMem, hNew⟩)
          · exact ⟨.inl rfl, hSeen⟩
          · exact ⟨.inr hMem, fun hOld => hNew (.inr hOld)⟩
        · rintro ⟨hMem, hNew⟩
          by_cases hSame : p = r.pair
          · exact .inl hSame
          · refine .inr ⟨hMem.resolve_left hSame, ?_⟩
            exact fun hOld =>
              hOld.elim hSame hNew

/- Every pair has one first field. -/
theorem nodup_map_pair_firstOfPairs
    (seen : List (String × String))
    (rs : List Reach) :
    ((Reach.firstOfPairs seen rs).map
      Reach.pair).Nodup := by
  induction rs generalizing seen with
  | nil => exact List.nodup_nil
  | cons r rs ih =>
      unfold Reach.firstOfPairs
      split
      · exact ih seen
      · rw [List.map_cons, List.nodup_cons,
          mem_map_pair_firstOfPairs_iff]
        refine ⟨?_, ih _⟩
        rintro ⟨_, hNew⟩
        exact hNew List.mem_cons_self

/- As many pairs are connected in any order of the fields. -/
theorem length_firstOfPairs_eq_of_perm
    {rs others : List Reach}
    (h : rs.Perm others) :
    (Reach.firstOfPairs [] rs).length =
      (Reach.firstOfPairs [] others).length := by
  have hPairs : ((Reach.firstOfPairs [] rs).map
      Reach.pair).Perm
        ((Reach.firstOfPairs [] others).map Reach.pair) := by
    rw [List.perm_ext_iff_of_nodup
      (nodup_map_pair_firstOfPairs _ _)
      (nodup_map_pair_firstOfPairs _ _)]
    intro p
    rw [mem_map_pair_firstOfPairs_iff,
      mem_map_pair_firstOfPairs_iff,
      (h.map Reach.pair).mem_iff]
  have hLength := hPairs.length_eq
  rwa [List.length_map, List.length_map] at hLength

/- A text refers to the same entities among the same names. -/
theorem textNames_congr
    {names others : List String}
    (hSame : ∀ n, n ∈ names ↔ n ∈ others) :
    textNames names = textNames others := by
  funext text
  unfold textNames
  rw [Reference.ofText_congr hSame,
    mentionedEntity?_congr hSame]

namespace Spec.Reordered

variable {spec other : Spec}
variable (h : spec.Reordered other)
include h

/- The same names are referred to. -/
theorem referencedNames_perm :
    (referencedNames other).Perm (referencedNames spec) := by
  have hSame := h.mem_names_iff
  unfold referencedNames
  simp only [textNames_congr hSame,
    funext (mentionedEntity?_congr hSame)]
  apply List.Perm.append
  · apply List.Perm.append
    · apply List.Perm.append
      · exact h.screens.filterMap _
      · exact h.entities.flatMap_right _
    · exact h.rules.flatMap_right _
  · exact h.events.flatMap_right _

variable (hNames : (spec.entities.map Entity.name).Nodup)
include hNames

theorem unreferencedIssues_sameKinds :
    SameKinds (unreferencedIssues other)
      (unreferencedIssues spec) := by
  unfold unreferencedIssues
  simp only [h.referencedNames_perm.contains_eq]
  exact sameKinds_of_perm
    ((h.uniqueEntities_perm hNames).filterMap _)

/- A form should list the same fields. -/
theorem expectedFields_eq :
    expectedFields other = expectedFields spec := by
  funext s
  unfold expectedFields formEntity?
  rw [h.entity?_eq hNames]

theorem requiredIssues_sameKinds :
    SameKinds (other.screens.flatMap (requiredIssues other))
      (spec.screens.flatMap (requiredIssues spec)) := by
  have hSame : requiredIssues other = requiredIssues spec := by
    funext s
    unfold requiredIssues
    rw [h.expectedFields_eq hNames]
  rw [hSame]
  exact sameKinds_flatMap h.screens _

theorem circularIssues_sameKinds :
    SameKinds (circularIssues other)
      (circularIssues spec) := by
  have hEntities := h.uniqueEntities_perm hNames
  have hRefers : refersTo other.uniqueEntities =
      refersTo spec.uniqueEntities := by
    funext source target
    exact hEntities.any_eq
  apply sameKinds_of_reports (reports_circularIssues other)
    (reports_circularIssues spec)
  unfold circularIssues
  rw [List.length_map, List.length_map, hRefers]
  apply length_firstOfPairs_eq_of_perm
  exact (hEntities.flatMap_right _).filter _

theorem wiringIssues_sameKinds :
    SameKinds (wiringIssues other) (wiringIssues spec) := by
  unfold wiringIssues
  apply SameKinds.append
  · apply SameKinds.append
    · exact h.unreferencedIssues_sameKinds hNames
    · exact h.requiredIssues_sameKinds hNames
  · exact h.circularIssues_sameKinds hNames

/- As much of the wiring is looked at. -/
theorem wiringCounts_eq :
    wiringCounts other = wiringCounts spec := by
  have hEntities := h.uniqueEntities_perm hNames
  have hTargets :=
    (hEntities.flatMap_right targets).length_eq
  have hExpected := (h.screens.flatMap_right
    (expectedFields spec)).length_eq
  unfold wiringCounts requiredCount
  rw [h.expectedFields_eq hNames, hTargets, hExpected,
    hEntities.length_eq]

end Spec.Reordered

end Blueprint

------------------------------------------------------------
-- Style
------------------------------------------------------------

namespace Blueprint

namespace Spec.Reordered

variable {spec other : Spec}
variable (h : spec.Reordered other)
include h

theorem styleIssues_sameKinds :
    SameKinds (styleIssues other) (styleIssues spec) := by
  have hShown := h.screens.filterMap Screen.entity
  have hEntity : entityStyleIssues
      (other.screens.filterMap Screen.entity) =
        entityStyleIssues
          (spec.screens.filterMap Screen.entity) := by
    funext e
    unfold entityStyleIssues entityStyle
    rw [hShown.contains_eq]
  unfold styleIssues
  simp only [hEntity]
  apply SameKinds.append
  · apply SameKinds.append
    · apply SameKinds.append
      · exact sameKinds_flatMap h.entities _
      · exact sameKinds_flatMap h.screens _
    · exact sameKinds_flatMap h.flows _
  · exact sameKinds_flatMap h.rules _

end Spec.Reordered

end Blueprint
