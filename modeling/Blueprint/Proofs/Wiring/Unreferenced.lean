import Blueprint.Proofs.FirstDeclaration
import Blueprint.Proofs.Issue.Checks
import Blueprint.Proofs.Prose.Mention

/-
  The note that nothing refers to an entity is given once,
  at the first declaration of the entity. Texts count as
  references by their first mention of an entity only, so an
  entity that all texts mention behind another one, or that
  is not written with a capital letter, is noted although it
  is mentioned.

  Main definitions:
    * `RefersBy`
    * `unreferencedNotes`

  Main statements:
    * `mem_referencedNames_iff`
    * `unreferencedNotes_eq`
    * `unreferencedNotes_exact`
    * `unreferencedNotes_billingSpec`
-/

------------------------------------------------------------
-- What Refers to an Entity
------------------------------------------------------------

namespace Blueprint

/-
  Something refers to the entity `n`: a screen that is bound
  to it, a field of an entity with another name, or a text
  of a rule or an event that mentions it.
-/
inductive RefersBy
    (mentions : String → Prop)
    (spec : Spec)
    (n : String) : Prop
| screen
    {s : Screen}
    (declared : s ∈ spec.screens)
    (bound : s.entity = some n) :
    RefersBy mentions spec n
| field
    {e : Entity}
    {f : Field}
    (declared : e ∈ spec.entities)
    (field : f ∈ e.fields)
    (target : f.type.target? = some n)
    (other : e.name ≠ n) :
    RefersBy mentions spec n
| condition
    {r : Rule}
    {text : String}
    (declared : r ∈ spec.rules)
    (plain : r.condition = some (.plain text))
    (mention : mentions text) :
    RefersBy mentions spec n
| input
    {r : Rule}
    {call : AiCall}
    (declared : r ∈ spec.rules)
    (asked : r.condition = some (.ai call))
    (mention : mentions call.input) :
    RefersBy mentions spec n
| action
    {r : Rule}
    {text : String}
    (declared : r ∈ spec.rules)
    (acts : r.action = some text)
    (mention : mentions text) :
    RefersBy mentions spec n
| event
    {e : Event}
    {text : String}
    (declared : e ∈ spec.events)
    (field : text ∈ e.fields)
    (mention : mentions text) :
    RefersBy mentions spec n

variable {spec : Spec}
variable {n : String}

/- More mentions make more references. -/
theorem RefersBy.mono
    {mentions more : String → Prop}
    (hMore : ∀ text, mentions text → more text)
    (h : RefersBy mentions spec n) :
    RefersBy more spec n := by
  cases h with
  | screen hDeclared hBound =>
      exact .screen hDeclared hBound
  | field hDeclared hField hTarget hOther =>
      exact .field hDeclared hField hTarget hOther
  | condition hDeclared hPlain hMention =>
      exact .condition hDeclared hPlain (hMore _ hMention)
  | input hDeclared hAsked hMention =>
      exact .input hDeclared hAsked (hMore _ hMention)
  | action hDeclared hActs hMention =>
      exact .action hDeclared hActs (hMore _ hMention)
  | event hDeclared hField hMention =>
      exact .event hDeclared hField (hMore _ hMention)

/- The fields of an entity that refer to another one. -/
theorem mem_foreignTargets_iff
    {e : Entity} :
    n ∈ foreignTargets e ↔
      e.name ≠ n ∧ ∃ f ∈ e.fields, f.type.target? = some n := by
  unfold foreignTargets
  rw [List.mem_filterMap]
  constructor
  · rintro ⟨f, hField, hSome⟩
    split at hSome
    · cases hSome
    · rename_i target hTarget
      split at hSome
      · cases hSome
      · rename_i hOther
        cases hSome
        exact ⟨Ne.symm hOther, f, hField, hTarget⟩
  · rintro ⟨hOther, f, hField, hTarget⟩
    refine ⟨f, hField, ?_⟩
    simp only [hTarget]
    rw [if_neg (Ne.symm hOther)]

/- The texts of a rule are its condition and its action. -/
theorem mem_ruleTexts_iff
    {r : Rule}
    {text : String} :
    text ∈ ruleTexts r ↔
      r.condition = some (.plain text) ∨
        (∃ call, r.condition = some (.ai call) ∧
          call.input = text) ∨
        r.action = some text := by
  unfold ruleTexts
  rw [List.mem_append, Option.mem_toList]
  cases r.condition with
  | none => simp
  | some condition =>
      cases condition with
      | plain other => simp [eq_comm]
      | ai call => simp [eq_comm]

/- A text is followed up by its first mention. -/
theorem mem_textNames_iff
    {names : List String}
    {text : String}
    (hIdentifier : Text.isIdentifier n.toList = true)
    (hName : n ∈ names) :
    n ∈ textNames names text ↔
      MentionsFirst names n text := by
  unfold textNames
  rw [List.mem_append, Option.mem_toList, Option.mem_toList,
    mentionedEntity?_eq_some_iff hName]
  constructor
  · rintro (hReference | hMention)
    · exact mentionsFirst_of_reference hIdentifier hReference
    · exact hMention
  · exact .inr

/- The referenced names are those that something refers to. -/
theorem mem_referencedNames_iff
    (hIdentifier : Text.isIdentifier n.toList = true)
    (hName : n ∈ spec.entities.map Entity.name) :
    n ∈ referencedNames spec ↔
      RefersBy
        (MentionsFirst (spec.entities.map Entity.name) n)
        spec n := by
  unfold referencedNames
  simp only [List.mem_append, List.mem_flatMap,
    List.mem_filterMap, mem_foreignTargets_iff,
    mem_textNames_iff hIdentifier hName, mem_ruleTexts_iff,
    mentionedEntity?_eq_some_iff hName]
  constructor
  · rintro (((⟨s, hScreen, hBound⟩ |
      ⟨e, hEntity, hOther, f, hField, hTarget⟩) |
      ⟨r, hRule, text, hText, hMention⟩) |
      ⟨e, hEvent, text, hField, hMention⟩)
    · exact .screen hScreen hBound
    · exact .field hEntity hField hTarget hOther
    · rcases hText with hPlain | ⟨call, hAsked, rfl⟩ | hActs
      · exact .condition hRule hPlain hMention
      · exact .input hRule hAsked hMention
      · exact .action hRule hActs hMention
    · exact .event hEvent hField hMention
  · intro h
    cases h with
    | screen hDeclared hBound =>
        exact .inl (.inl (.inl ⟨_, hDeclared, hBound⟩))
    | field hDeclared hField hTarget hOther =>
        exact .inl (.inl (.inr
          ⟨_, hDeclared, hOther, _, hField, hTarget⟩))
    | condition hDeclared hPlain hMention =>
        exact .inl (.inr
          ⟨_, hDeclared, _, .inl hPlain, hMention⟩)
    | input hDeclared hAsked hMention =>
        exact .inl (.inr ⟨_, hDeclared, _,
          .inr (.inl ⟨_, hAsked, rfl⟩), hMention⟩)
    | action hDeclared hActs hMention =>
        exact .inl (.inr ⟨_, hDeclared, _,
          .inr (.inr hActs), hMention⟩)
    | event hDeclared hField hMention =>
        exact .inr ⟨_, hDeclared, _, hField, hMention⟩

end Blueprint

------------------------------------------------------------
-- Notes on an Entity
------------------------------------------------------------

namespace Blueprint

/- The note that nothing refers to an entity. -/
def unreferencedNote (e : Entity) : Issue :=
  .of (.info (.wiringUnreferencedEntity e.name)) e.location

/- The issue notes that nothing refers to the entity `n`. -/
def Issue.isNoteOn
    (n : String)
    (i : Issue) : Bool :=
  i.code == Code.wiringUnreferencedEntity.id &&
    i.message ==
      (Finding.info (.wiringUnreferencedEntity n)).message

/- The wiring issues that note so. -/
def unreferencedNotes
    (spec : Spec)
    (n : String) : List Issue :=
  (wiringIssues spec).filter (Issue.isNoteOn n)

/- The wording tells the entities apart. -/
theorem message_unreferencedEntity_inj
    {m n : String} :
    (Finding.info (.wiringUnreferencedEntity m)).message =
        (Finding.info (.wiringUnreferencedEntity n)).message ↔
      m = n := by
  constructor
  · intro h
    have hText :
        "entity '" ++ m ++
              "' is not referenced by any screen, " ++
            "relationship, rule or event" =
          "entity '" ++ n ++
              "' is not referenced by any screen, " ++
            "relationship, rule or event" := h
    rw [String.append_left_inj, String.append_left_inj,
      String.append_right_inj] at hText
    exact hText
  · rintro rfl
    rfl

/- A note is on the entity that it is given for. -/
theorem isNoteOn_unreferencedNote
    (n : String)
    (e : Entity) :
    (unreferencedNote e).isNoteOn n = (e.name == n) := by
  rw [Bool.eq_iff_iff]
  simp [Issue.isNoteOn, unreferencedNote, Issue.of,
    Matter.code, message_unreferencedEntity_inj]

/- A note has the code of notes. -/
theorem code_of_isNoteOn
    {n : String}
    {i : Issue}
    (h : i.isNoteOn n = true) :
    i.code = Code.wiringUnreferencedEntity.id := by
  simp only [Issue.isNoteOn, Bool.and_eq_true,
    beq_iff_eq] at h
  exact h.1

/- Missing required fields are no notes. -/
theorem filter_requiredIssues
    (spec : Spec)
    (n : String)
    (s : Screen) :
    (requiredIssues spec s).filter (Issue.isNoteOn n) =
      [] := by
  apply (reports_requiredIssues spec s).filter_eq_nil
  · intro i
    exact code_of_isNoteOn
  · decide

/- Circular relationships are no notes. -/
theorem filter_circularIssues
    (spec : Spec)
    (n : String) :
    (circularIssues spec).filter (Issue.isNoteOn n) = [] := by
  apply (reports_circularIssues spec).filter_eq_nil
  · intro i
    exact code_of_isNoteOn
  · decide

/- The notes on entities are those of unreferenced names. -/
theorem filter_unreferencedIssues
    (spec : Spec)
    (n : String) :
    (unreferencedIssues spec).filter (Issue.isNoteOn n) =
      if n ∈ referencedNames spec then
        []
      else
        (spec.uniqueEntities.filter
          (fun e => e.name == n)).map unreferencedNote := by
  unfold unreferencedIssues
  induction spec.uniqueEntities with
  | nil => simp
  | cons e entities ih =>
      by_cases hName : e.name = n
      · by_cases hReferenced : n ∈ referencedNames spec
        · rw [if_pos hReferenced] at ih ⊢
          rw [List.filterMap_cons_none
            (by simp [hName, hReferenced]), ih]
        · rw [if_neg hReferenced] at ih ⊢
          have hNote : (unreferencedNote e).isNoteOn n =
              true := by
            rw [isNoteOn_unreferencedNote]
            simpa using hName
          rw [List.filterMap_cons_some
              (b := unreferencedNote e)
              (by simp [hName, hReferenced,
                unreferencedNote]),
            List.filter_cons_of_pos hNote, ih,
            List.filter_cons_of_pos (by simpa using hName)]
          rfl
      · rw [List.filter_cons_of_neg (by simpa using hName),
          ← ih]
        have hNote : (unreferencedNote e).isNoteOn n =
            false := by
          rw [isNoteOn_unreferencedNote]
          simpa using hName
        rw [List.filterMap_cons]
        split
        · rfl
        · rename_i note hSome
          split at hSome
          · cases hSome
          · rw [Option.some.injEq] at hSome
            subst hSome
            apply List.filter_cons_of_neg
            rw [← unreferencedNote, hNote]
            exact Bool.false_ne_true

/- There is one note at most, at the first declaration. -/
theorem unreferencedNotes_eq
    {spec : Spec}
    {n : String}
    {e : Entity}
    (hFirst : FirstNamed Entity.name spec.entities n e) :
    unreferencedNotes spec n =
      if n ∈ referencedNames spec then
        []
      else
        [unreferencedNote e] := by
  have hRequired : (spec.screens.flatMap
      (requiredIssues spec)).filter (Issue.isNoteOn n) =
        [] := by
    rw [List.filter_flatMap, List.flatMap_eq_nil_iff]
    intro s _
    exact filter_requiredIssues spec n s
  have hUnique : spec.uniqueEntities.filter
      (fun other => other.name == n) = [e] :=
    filter_firsts_name hFirst
  unfold unreferencedNotes wiringIssues
  rw [List.filter_append, List.filter_append,
    filter_unreferencedIssues, hRequired,
    filter_circularIssues, List.append_nil, List.append_nil,
    hUnique, List.map_singleton]

end Blueprint

------------------------------------------------------------
-- Notes and References
------------------------------------------------------------

namespace Blueprint

/-
  An entity is noted once, at its first declaration, or not
  at all. It is noted when nothing refers to it by a first
  mention. So the notes are exact for an entity unless it is
  referred to, but by later mentions and lowercase ones only.
-/
theorem unreferencedNotes_exact
    {spec : Spec}
    {n : String}
    {e : Entity}
    (hIdentifier : Text.isIdentifier n.toList = true)
    (hFirst : FirstNamed Entity.name spec.entities n e) :
    let names := spec.entities.map Entity.name
    let followed := RefersBy (MentionsFirst names n) spec n
    let referred := RefersBy (Mentions n) spec n
    (followed → unreferencedNotes spec n = []) ∧
      (¬ followed →
        unreferencedNotes spec n = [unreferencedNote e]) ∧
      ((unreferencedNotes spec n = [unreferencedNote e] ↔
          ¬ referred) ↔
        (referred → followed)) := by
  intro names followed referred
  have hName : n ∈ names := by
    rcases hFirst with ⟨rfl, before, after, hEntities, _⟩
    apply List.mem_map_of_mem
    rw [hEntities]
    exact List.mem_append_right _ List.mem_cons_self
  have hListed : n ∈ referencedNames spec ↔ followed :=
    mem_referencedNames_iff hIdentifier hName
  have hNotes := unreferencedNotes_eq hFirst
  have hFollowed : followed → unreferencedNotes spec n = [] := by
    intro h
    rw [hNotes, if_pos (hListed.mpr h)]
  have hUnfollowed : ¬ followed →
      unreferencedNotes spec n = [unreferencedNote e] := by
    intro h
    rw [hNotes, if_neg (h ∘ hListed.mp)]
  have hNoted :
      unreferencedNotes spec n = [unreferencedNote e] ↔
        ¬ followed := by
    constructor
    · intro hNote h
      rw [hFollowed h] at hNote
      cases hNote
    · exact hUnfollowed
  have hReferred : followed → referred :=
    RefersBy.mono fun text => MentionsFirst.mentions
  refine ⟨hFollowed, hUnfollowed, ?_⟩
  rw [hNoted]
  tauto

/- The first entity of the sample: its name leads a text. -/
def invoiceEntity : Entity :=
  ⟨"Invoice", [], ⟨"billing", 2⟩⟩

/- An entity that a text mentions behind another one. -/
def customerEntity : Entity :=
  ⟨"Customer", [], ⟨"billing", 4⟩⟩

/- An entity that is not written with a capital letter. -/
def ticketEntity : Entity :=
  ⟨"ticket", [], ⟨"billing", 6⟩⟩

/- A rule on invoices and customers, and an event on tickets. -/
def billingSpec : Spec where
  appName := "Billing"
  entities := [invoiceEntity, customerEntity, ticketEntity]
  screens := []
  flows := []
  rules :=
    [⟨"Lock", some (.plain "invoice.paid and customer.active"),
      some "lock", ⟨"billing", 8⟩⟩]
  integrations := []
  events := [⟨"closed", ["ticket"], ⟨"billing", 10⟩⟩]

/- The entity that leads the condition is not noted. -/
theorem unreferencedNotes_exact_invoice :
    unreferencedNotes billingSpec "Invoice" = [] := by
  have hFirst : FirstNamed Entity.name billingSpec.entities
      "Invoice" invoiceEntity :=
    ⟨rfl, [], _, rfl, by simp⟩
  have hFirstWord : MentionsFirst
      (billingSpec.entities.map Entity.name) "Invoice"
      "invoice.paid and customer.active" :=
    ⟨[], "invoice".toList,
      ["paid".toList, "and".toList, "customer".toList,
        "active".toList],
      by decide, by decide, by simp⟩
  exact (unreferencedNotes_exact (by decide) hFirst).1
    (.condition List.mem_cons_self rfl hFirstWord)

/-
  Two entities are mentioned and noted all the same: the one
  behind another entity, and the one in lowercase.
-/
theorem unreferencedNotes_billingSpec :
    (Text.isIdentifier "Customer".toList = true ∧
      FirstNamed Entity.name billingSpec.entities
        "Customer" customerEntity ∧
      RefersBy (Mentions "Customer") billingSpec "Customer" ∧
      unreferencedNotes billingSpec "Customer" =
        [unreferencedNote customerEntity]) ∧
      Text.isIdentifier "ticket".toList = true ∧
        FirstNamed Entity.name billingSpec.entities
          "ticket" ticketEntity ∧
        RefersBy (Mentions "ticket") billingSpec "ticket" ∧
        unreferencedNotes billingSpec "ticket" =
          [unreferencedNote ticketEntity] := by
  refine ⟨⟨by decide, ⟨rfl, [invoiceEntity], _, rfl, ?_⟩,
      ?_, ?_⟩,
    by decide,
    ⟨rfl, [invoiceEntity, customerEntity], _, rfl, ?_⟩,
      ?_, ?_⟩
  · decide
  · have hWord : "customer".toList ∈
        Text.words "invoice.paid and customer.active".toList := by
      decide
    exact .condition List.mem_cons_self rfl
      ⟨_, Text.mem_words_iff.mp hWord, .inr (by decide)⟩
  · decide +kernel
  · decide
  · have hWord : "ticket".toList ∈
        Text.words "ticket".toList := by
      decide
    exact .event List.mem_cons_self List.mem_cons_self
      ⟨_, Text.mem_words_iff.mp hWord, .inl (by decide)⟩
  · decide +kernel

end Blueprint
