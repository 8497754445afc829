import Mathlib.Data.List.Forall2
import Blueprint.Json.Decode

/-
  JSON values told in other words: objects may hold entries
  that no field asks for, and may leave out entries that are
  `null`.

  Main definitions:
    * `Json.RestatesEntries`
    * `Json.Restates`
    * `Json.Supplies`
    * `Json.Reads`

  Main statements:
    * `Json.reads_object`
    * `Json.reads_ofList`
    * `Json.Supplies.field?`
    * `Json.Supplies.optionalField?`
-/

------------------------------------------------------------
-- Restated Values
------------------------------------------------------------

namespace Blueprint

namespace Json

/-
  Entries told again in their order, each with a restated
  value, or left out when the value is `null`.
-/
inductive RestatesEntries (R : Json → Json → Prop) :
    List (String × Json) → List (String × Json) → Prop
| nil : RestatesEntries R [] []
| keep
    {value other : Json}
    {entries others : List (String × Json)}
    (key : String)
    (hValue : R value other)
    (hRest : RestatesEntries R entries others) :
    RestatesEntries R
      ((key, value) :: entries) ((key, other) :: others)
| leaveOut
    {entries others : List (String × Json)}
    (key : String)
    (hRest : RestatesEntries R entries others) :
    RestatesEntries R ((key, .null) :: entries) others

/- The other entries whose keys are among the first ones. -/
def knownAmong
    (entries others : List (String × Json)) :
    List (String × Json) :=
  others.filter fun entry =>
    (entries.map Prod.fst).contains entry.1

/-
  A value told again, at every depth. An object may hold
  entries with other keys, at any place among its own.
-/
inductive Restates : Json → Json → Prop
| same (value : Json) : Restates value value
| array
    {items others : List Json}
    (hItems : List.Forall₂ Restates items others) :
    Restates (.array items) (.array others)
| object
    {entries others : List (String × Json)}
    (hEntries :
      RestatesEntries Restates
        entries (knownAmong entries others)) :
    Restates (.object entries) (.object others)

/- Only `null` is told again as `null`. -/
theorem Restates.ne_null
    {value other : Json}
    (h : Restates value other)
    (hValue : value ≠ .null) :
    other ≠ .null := by
  cases h with
  | same => exact hValue
  | array | object => exact Json.noConfusion

end Json

end Blueprint

------------------------------------------------------------
-- Entries Looked Up
------------------------------------------------------------

namespace Blueprint

namespace Json

variable {entries others : List (String × Json)}

/-
  What the entries of an object hold is found among others:
  told again, or left out when it is `null`.
-/
def Supplies (entries others : List (String × Json)) : Prop :=
  ∀ name value, entries.lookup name = some value →
    (∃ other, others.lookup name = some other ∧
      Restates value other) ∨
    (value = .null ∧ others.lookup name = none)

/- A key that was not told is not told again. -/
theorem RestatesEntries.lookup_eq_none
    (h : RestatesEntries Restates entries others)
    {name : String}
    (hAbsent : name ∉ entries.map Prod.fst) :
    others.lookup name = none := by
  induction h with
  | nil => rfl
  | keep key _ _ ih =>
      rw [List.map_cons, List.mem_cons, not_or] at hAbsent
      rw [List.lookup_cons, beq_false_of_ne hAbsent.1]
      exact ih hAbsent.2
  | leaveOut key _ ih =>
      rw [List.map_cons, List.mem_cons, not_or] at hAbsent
      exact ih hAbsent.2

/- Entries told again supply all that was told. -/
theorem RestatesEntries.supplies
    (h : RestatesEntries Restates entries others)
    (hDistinct : (entries.map Prod.fst).Nodup) :
    Supplies entries others := by
  intro name sought hSought
  induction h with
  | nil => cases hSought
  | keep key hValue _ ih =>
      rw [List.lookup_cons] at hSought ⊢
      cases hName : name == key with
      | true =>
          rw [hName] at hSought
          cases hSought
          exact .inl ⟨_, rfl, hValue⟩
      | false =>
          rw [hName] at hSought
          exact ih hDistinct.of_cons hSought
  | leaveOut key hRest ih =>
      rw [List.lookup_cons] at hSought
      cases hName : name == key with
      | true =>
          -- The entry is left out, and no other entry has its
          -- key, since the keys are distinct.
          rw [hName] at hSought
          cases hSought
          cases eq_of_beq hName
          exact .inr ⟨rfl,
            hRest.lookup_eq_none (List.nodup_cons.mp hDistinct).1⟩
      | false =>
          rw [hName] at hSought
          exact ih hDistinct.of_cons hSought

/- A lookup of a known key passes over entries with others. -/
theorem lookup_knownAmong
    {name : String}
    (hKnown : name ∈ entries.map Prod.fst) :
    (knownAmong entries others).lookup name =
      others.lookup name := by
  unfold knownAmong
  induction others with
  | nil => rfl
  | cons head rest ih =>
      rcases head with ⟨key, value⟩
      rw [List.filter_cons, List.lookup_cons]
      by_cases hKey : (entries.map Prod.fst).contains key
      · simp only [hKey, if_true]
        rw [List.lookup_cons, ih]
      · have hOther : name ≠ key := by
          rintro rfl
          exact hKey (List.contains_iff_mem.mpr hKnown)
        simp only [hKey, beq_false_of_ne hOther]
        exact ih

/- What is supplied by the known entries is supplied by all. -/
theorem supplies_of_knownAmong
    (h : Supplies entries (knownAmong entries others)) :
    Supplies entries others := by
  intro name value hValue
  have hKnown : name ∈ entries.map Prod.fst := by
    obtain ⟨before, after, hSplit, _⟩ :=
      List.lookup_eq_some_iff.mp hValue
    simp [hSplit]
  rw [← lookup_knownAmong hKnown]
  exact h name value hValue

end Json

end Blueprint

------------------------------------------------------------
-- Decoders that Read Restated Values
------------------------------------------------------------

namespace Blueprint

namespace Json

/-
  A decoder gives a result for a value, however the value is
  told again. The value is not `null`, so an optional entry
  that holds it is not taken for an absent one.
-/
structure Reads
    {α : Type}
    (decode : Json → Option α)
    (value : Json)
    (a : α) : Prop where
  ne_null : value ≠ .null
  eq_some : ∀ other, Restates value other →
    decode other = some a

variable {α : Type}
variable {decode : Json → Option α}
variable {a : α}

theorem reads_string (s : String) :
    Reads string? (.string s) s where
  ne_null := Json.noConfusion
  eq_some := by
    intro other hOther
    cases hOther
    rfl

theorem reads_bool (b : Bool) :
    Reads bool? (.bool b) b where
  ne_null := Json.noConfusion
  eq_some := by
    intro other hOther
    cases hOther
    rfl

theorem reads_int64 (n : Int64) :
    Reads int64? (.integer n.toInt) n where
  ne_null := Json.noConfusion
  eq_some := by
    intro other hOther
    cases hOther
    have hLow := n.minValue_le_toInt
    have hHigh := n.toInt_le
    simp only [int64?, hLow, hHigh, and_self, if_true,
      Int64.ofInt_toInt]

theorem reads_nat32
    {n : Nat}
    (h : n < UInt32.size) :
    Reads nat32? (.ofNat n) n where
  ne_null := Json.noConfusion
  eq_some := by
    intro other hOther
    cases hOther
    have hBound : 0 ≤ (n : Int) ∧ (n : Int) < UInt32.size := by
      omega
    simp only [ofNat, nat32?, hBound, and_self, if_true,
      Int.toNat_natCast]

theorem reads_uint32 (n : UInt32) :
    Reads uint32? (.ofNat n.toNat) n where
  ne_null := Json.noConfusion
  eq_some := by
    intro other hOther
    have hNat := reads_nat32 n.toNat_lt_size
    simp [uint32?, hNat.eq_some other hOther]

/- Items told again are read one by one. -/
theorem mapM_eq_some_of_forall₂
    {encode : α → Json}
    {items : List α}
    {others : List Json}
    (h : ∀ item ∈ items, Reads decode (encode item) item)
    (hTold : List.Forall₂ Restates (items.map encode) others) :
    others.mapM decode = some items := by
  induction items generalizing others with
  | nil =>
      cases hTold
      rfl
  | cons item items ih =>
      rw [List.map_cons] at hTold
      cases hTold with
      | cons hItem hItems =>
          have hHead :=
            (h item List.mem_cons_self).eq_some _ hItem
          have hRest := ih
            (fun i hMem => h i (List.mem_cons_of_mem _ hMem))
            hItems
          simp [List.mapM_cons, hHead, hRest]

/- A list is read item by item. -/
theorem reads_ofList
    {encode : α → Json}
    {items : List α}
    (h : ∀ item ∈ items, Reads decode (encode item) item) :
    Reads (list? decode) (ofList encode items) items where
  ne_null := Json.noConfusion
  eq_some := by
    intro other hOther
    cases hOther with
    | same =>
        apply mapM_eq_some_of_forall₂ h
        exact List.forall₂_same.mpr fun value _ => .same value
    | array hItems => exact mapM_eq_some_of_forall₂ h hItems

/- A list of strings is read. -/
theorem reads_ofStrings (items : List String) :
    Reads (list? string?) (ofStrings items) items :=
  reads_ofList fun item _ => reads_string item

/- An object with distinct keys is read by its entries. -/
theorem reads_object
    {entries : List (String × Json)}
    (hDistinct : (entries.map Prod.fst).Nodup)
    (h : ∀ others, Supplies entries others →
      decode (.object others) = some a) :
    Reads decode (.object entries) a where
  ne_null := Json.noConfusion
  eq_some := by
    intro other hOther
    cases hOther with
    | same =>
        apply h
        intro name value hValue
        exact .inl ⟨value, hValue, .same value⟩
    | object hEntries =>
        apply h
        exact supplies_of_knownAmong (hEntries.supplies hDistinct)

namespace Supplies

variable {entries others : List (String × Json)}
variable {value : Json}

/- A required field is read. -/
theorem field?
    (h : Supplies entries others)
    (name : String)
    (hValue : entries.lookup name = some value)
    (hReads : Reads decode value a) :
    Json.field? others name decode = some a := by
  rcases h name value hValue with
    ⟨other, hOther, hTold⟩ | ⟨hNull, _⟩
  · simp [Json.field?, hOther, hReads.eq_some other hTold]
  · exact absurd hNull hReads.ne_null

/- An optional field is read, present or not. -/
theorem optionalField?
    {encode : α → Json}
    {o : Option α}
    (h : Supplies entries others)
    (name : String)
    (hValue : entries.lookup name = some (ofOption encode o))
    (hReads : ∀ a ∈ o, Reads decode (encode a) a) :
    Json.optionalField? others name decode = some o := by
  unfold Json.optionalField?
  rcases h name _ hValue with
    ⟨other, hOther, hTold⟩ | ⟨hNull, hAbsent⟩
  · rw [hOther]
    cases o with
    | none =>
        cases hTold
        rfl
    | some a =>
        have hRead := hReads a rfl
        have hPresent := hTold.ne_null hRead.ne_null
        simp [hRead.eq_some other hTold]
  · rw [hAbsent]
    cases o with
    | none => rfl
    | some a => exact absurd hNull (hReads a rfl).ne_null

end Supplies

end Json

end Blueprint
