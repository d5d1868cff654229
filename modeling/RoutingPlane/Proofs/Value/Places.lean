import RoutingPlane.Device.Reader
import RoutingPlane.Proofs.Value.Faults

/-!
Places in nested values: the fields, the entries and the elements of a value, and all that they
lead to. In a decoded value a tuple stands only among the elements of a list or of a set, or in
a key, since documents have tuples only as the pairs in a list.
-/

namespace RoutingPlane

namespace Value

def HasField (name : String) (value field : Value) : Prop :=
  ∃ entries, value.opened = .map entries ∧ fieldIn? name entries = some field

def HasEntry (value key item : Value) : Prop :=
  ∃ entries, value.opened = .map entries ∧ (key, item) ∈ entries

def HasElement (value element : Value) : Prop :=
  ∃ elements, value.elements = .ok elements ∧ element ∈ elements

def HasEntryIn (name : String) (value key item : Value) : Prop :=
  ∃ field, value.HasField name field ∧ field.HasEntry key item

def HasElementIn (name : String) (value element : Value) : Prop :=
  ∃ field, value.HasField name field ∧ field.HasElement element

/-- A value leads to another one through the entries and elements of values in it. -/
inductive Contains (whole : Value) : Value → Prop
  | self : Contains whole whole
  | entry {mapping key item : Value} :
      Contains whole mapping → mapping.HasEntry key item → Contains whole item
  | element {collection item : Value} :
      Contains whole collection → collection.HasElement item → Contains whole item

/-- No entry of a mapping in a value is a tuple. -/
def IsDecoded (whole : Value) : Prop :=
  ∀ ⦃mapping key item : Value⦄, whole.Contains mapping → mapping.HasEntry key item →
    ∀ items, item.opened ≠ .tuple items

variable {whole value part : Value} {name : String}

theorem exists_mem_of_fieldIn? {entries : List (Value × Value)}
    (isField : fieldIn? name entries = some part) : ∃ key, (key, part) ∈ entries := by
  induction entries with
  | nil => cases isField
  | cons entry rest inductionHypothesis =>
      obtain ⟨key, item⟩ := entry
      rw [fieldIn?] at isField
      split at isField
      · cases isField
        exact ⟨key, List.mem_cons_self⟩
      · obtain ⟨found, isEntry⟩ := inductionHypothesis isField
        exact ⟨found, List.mem_cons_of_mem _ isEntry⟩

theorem HasField.exists_entry (hasField : value.HasField name part) :
    ∃ key, value.HasEntry key part := by
  obtain ⟨entries, isMapping, isField⟩ := hasField
  obtain ⟨key, isEntry⟩ := exists_mem_of_fieldIn? isField
  exact ⟨key, entries, isMapping, isEntry⟩

namespace Contains

theorem field (contained : whole.Contains value) (hasField : value.HasField name part) :
    whole.Contains part := by
  obtain ⟨key, hasEntry⟩ := hasField.exists_entry
  exact contained.entry hasEntry

theorem entryIn {key : Value} (contained : whole.Contains value)
    (hasEntry : value.HasEntryIn name key part) : whole.Contains part := by
  obtain ⟨field, hasField, hasEntry⟩ := hasEntry
  exact (contained.field hasField).entry hasEntry

theorem elementIn (contained : whole.Contains value) (hasElement : value.HasElementIn name part) :
    whole.Contains part := by
  obtain ⟨field, hasField, hasElement⟩ := hasElement
  exact (contained.field hasField).element hasElement

theorem trans (contained : whole.Contains value) (inside : value.Contains part) :
    whole.Contains part := by
  induction inside with
  | self => exact contained
  | entry _ hasEntry inductionHypothesis => exact inductionHypothesis.entry hasEntry
  | element _ hasElement inductionHypothesis => exact inductionHypothesis.element hasElement

/-- What a value contains is the value itself, or one of its parts contains it. -/
theorem eq_or_step (contained : whole.Contains part) :
    part = whole ∨ (∃ key item, whole.HasEntry key item ∧ item.Contains part) ∨
      ∃ item, whole.HasElement item ∧ item.Contains part := by
  induction contained with
  | self => exact .inl rfl
  | entry _ hasEntry inductionHypothesis =>
      rcases inductionHypothesis with rfl | ⟨key, item, inside, within⟩ | ⟨item, inside, within⟩
      · exact .inr (.inl ⟨_, _, hasEntry, .self⟩)
      · exact .inr (.inl ⟨key, item, inside, within.entry hasEntry⟩)
      · exact .inr (.inr ⟨item, inside, within.entry hasEntry⟩)
  | element _ hasElement inductionHypothesis =>
      rcases inductionHypothesis with rfl | ⟨key, item, inside, within⟩ | ⟨item, inside, within⟩
      · exact .inr (.inr ⟨_, hasElement, .self⟩)
      · exact .inr (.inl ⟨key, item, inside, within.element hasElement⟩)
      · exact .inr (.inr ⟨item, inside, within.element hasElement⟩)

end Contains

/-! ## Decoded values -/

def IsDecodedEntry (value : Value) : Prop :=
  value.IsDecoded ∧ ∀ items, value.opened ≠ .tuple items

theorem IsDecoded.inside (isDecoded : whole.IsDecoded) (contained : whole.Contains part) :
    part.IsDecoded :=
  fun _ _ _ inside hasEntry => isDecoded (contained.trans inside) hasEntry

/-- A value is decoded if it has a property that passes on to all elements, and to all entries, of
which none is a tuple. -/
theorem isDecoded_of_closed {P : Value → Prop} (holds : P whole)
    (entries : ∀ {mapping key item : Value}, P mapping → mapping.HasEntry key item →
      P item ∧ ∀ items, item.opened ≠ .tuple items)
    (elements : ∀ {collection item : Value}, P collection → collection.HasElement item → P item) :
    whole.IsDecoded := by
  have closed : ∀ part, whole.Contains part → P part := by
    intro part contained
    induction contained with
    | self => exact holds
    | entry _ hasEntry inductionHypothesis => exact (entries inductionHypothesis hasEntry).1
    | element _ hasElement inductionHypothesis => exact elements inductionHypothesis hasElement
  exact fun mapping _ _ contained hasEntry => (entries (closed mapping contained) hasEntry).2

/-- A value is decoded if its entries and its elements are. -/
theorem isDecoded_of_parts (entries : ∀ key item, whole.HasEntry key item → item.IsDecodedEntry)
    (elements : ∀ item, whole.HasElement item → item.IsDecoded) : whole.IsDecoded := by
  intro mapping key item contained hasEntry
  rcases contained.eq_or_step with rfl | ⟨_, _, inside, within⟩ | ⟨_, inside, within⟩
  · exact (entries key item hasEntry).2
  · exact (entries _ _ inside).1 within hasEntry
  · exact elements _ inside within hasEntry

theorem isDecoded_of_elements (noMapping : ∀ entries, whole.opened ≠ .map entries)
    (elements : ∀ item, whole.HasElement item → item.IsDecoded) : whole.IsDecoded := by
  refine isDecoded_of_parts ?_ elements
  rintro key item ⟨entries, opened, _⟩
  exact absurd opened (noMapping entries)

/-- No other values are held by a value, apart from the characters of a text and the numbers of
bytes. -/
def isAtom : Value → Bool
  | list _ | tuple _ | set _ | map _ | knot _ _ | again _ => false
  | _ => true

theorem isAtom_of_hasElement (isAtom : value.isAtom = true) (hasElement : value.HasElement part) :
    part.isAtom = true := by
  obtain ⟨elements, areElements, isElement⟩ := hasElement
  cases value with
  | list _ | tuple _ | set _ | map _ | knot _ _ | again _ => cases isAtom
  | text s =>
      cases areElements
      obtain ⟨c, _, rfl⟩ := List.mem_map.1 isElement
      rfl
  | bytes content =>
      cases areElements
      obtain ⟨byte, _, rfl⟩ := List.mem_map.1 isElement
      rfl
  | _ => cases areElements

theorem opened_eq_of_isAtom (isAtom : value.isAtom = true) : value.opened = value := by
  cases value with
  | knot _ _ => cases isAtom
  | _ => rfl

/-- A value that holds no others is decoded. -/
theorem isDecodedEntry_of_isAtom (isAtom : value.isAtom = true) : value.IsDecodedEntry := by
  have notOpened : ∀ {part opened : Value}, part.isAtom = true → part.opened = opened →
      opened.isAtom = true := by
    rintro part _ partIsAtom rfl
    rwa [opened_eq_of_isAtom partIsAtom]
  refine ⟨isDecoded_of_closed isAtom ?_ isAtom_of_hasElement, fun items opened => ?_⟩
  · rintro mapping key item isAtom ⟨entries, opened, _⟩
    cases notOpened isAtom opened
  · cases notOpened isAtom opened

@[simp]
theorem isDecodedEntry_list_iff {items : List Value} :
    (list items).IsDecodedEntry ↔ ∀ item ∈ items, item.IsDecoded := by
  constructor
  · rintro ⟨isDecoded, _⟩ item isItem
    exact isDecoded.inside (.element .self ⟨items, rfl, isItem⟩)
  · intro decoded
    refine ⟨isDecoded_of_elements nofun ?_, nofun⟩
    rintro item ⟨elements, areElements, isElement⟩
    cases areElements
    exact decoded item isElement

@[simp]
theorem isDecodedEntry_map_iff {entries : List (Value × Value)} :
    (map entries).IsDecodedEntry ↔
      ∀ entry ∈ entries, entry.1.IsDecoded ∧ entry.2.IsDecodedEntry := by
  constructor
  · rintro ⟨isDecoded, _⟩ ⟨key, item⟩ isEntry
    have hasEntry : (map entries).HasEntry key item := ⟨entries, rfl, isEntry⟩
    have hasKey : (map entries).HasElement key := ⟨_, rfl, List.mem_map.2 ⟨_, isEntry, rfl⟩⟩
    exact ⟨isDecoded.inside (.element .self hasKey), isDecoded.inside (.entry .self hasEntry),
      isDecoded .self hasEntry⟩
  · intro decoded
    refine ⟨isDecoded_of_parts ?_ ?_, nofun⟩
    · rintro key item ⟨_, opened, isEntry⟩
      cases opened
      exact (decoded _ isEntry).2
    · rintro item ⟨elements, areElements, isElement⟩
      cases areElements
      obtain ⟨entry, isEntry, rfl⟩ := List.mem_map.1 isElement
      exact (decoded entry isEntry).1

end Value

/-! ## Places that are read -/

section Readers

variable {value : Value} {entries : List (Value × Value)}

/-- The fields among some entries are those of a value. -/
def FieldsOf (value : Value) (entries : List (Value × Value)) : Prop :=
  ∀ name field, Value.fieldIn? name entries = some field → value.HasField name field

theorem fieldsOf_fields (isMapping : value.fields = .ok entries) : FieldsOf value entries :=
  fun _ _ found => ⟨entries, Value.fields_eq_ok_iff.1 isMapping, found⟩

theorem fieldsOf_fieldsOrNone (isMapping : value.fieldsOrNone = .ok entries) :
    FieldsOf value entries := by
  rw [Value.fieldsOrNone] at isMapping
  split at isMapping
  · exact fieldsOf_fields isMapping
  · cases isMapping
    intro name field found
    cases found

theorem hasEntry_of_fieldsOrNone (isMapping : value.fieldsOrNone = .ok entries) {key item : Value}
    (isEntry : (key, item) ∈ entries) : value.HasEntry key item := by
  rw [Value.fieldsOrNone] at isMapping
  split at isMapping
  · exact ⟨entries, Value.fields_eq_ok_iff.1 isMapping, isEntry⟩
  · cases isMapping
    cases isEntry

theorem hasElement_of_elementsOrNone {elements : List Value}
    (isCollection : value.elementsOrNone = .ok elements) {element : Value}
    (isElement : element ∈ elements) : value.HasElement element := by
  rw [Value.elementsOrNone] at isCollection
  split at isCollection
  · exact ⟨elements, isCollection, isElement⟩
  · cases isCollection
    cases isElement

theorem Value.hasField_of_field {name : String} {field : Value}
    (isField : value.field name = .ok field) : value.HasField name field := by
  unfold Value.field at isField
  split at isField
  · rename_i entries opened
    cases found : fieldIn? name entries with
    | none =>
        rw [found] at isField
        cases isField
    | some given =>
        rw [found, Except.ok.injEq] at isField
        exact ⟨entries, opened, isField ▸ found⟩
  · cases isField

theorem FieldsOf.hasField_of_truthy (fields : FieldsOf value entries) {name : String}
    (given : (fieldOrNull name entries).truthy = true) :
    value.HasField name (fieldOrNull name entries) := by
  rw [fieldOrNull] at given ⊢
  cases found : Value.fieldIn? name entries with
  | none =>
      rw [found] at given
      cases given
  | some field => exact fields name field found

theorem FieldsOf.hasEntryIn (fields : FieldsOf value entries) {name : String}
    {inner : List (Value × Value)} (isMapping : (fieldOrNull name entries).fieldsOrNone = .ok inner)
    {key item : Value} (isEntry : (key, item) ∈ inner) : value.HasEntryIn name key item := by
  have hasEntry := hasEntry_of_fieldsOrNone isMapping isEntry
  refine ⟨fieldOrNull name entries, fields.hasField_of_truthy ?_, hasEntry⟩
  by_contra empty
  rw [Value.fieldsOrNone, if_neg empty] at isMapping
  cases isMapping
  cases isEntry

theorem FieldsOf.hasElementIn (fields : FieldsOf value entries) {name : String}
    {elements : List Value}
    (isCollection : (fieldOrNull name entries).elementsOrNone = .ok elements) {element : Value}
    (isElement : element ∈ elements) : value.HasElementIn name element := by
  have hasElement := hasElement_of_elementsOrNone isCollection isElement
  refine ⟨fieldOrNull name entries, fields.hasField_of_truthy ?_, hasElement⟩
  by_contra empty
  rw [Value.elementsOrNone, if_neg empty] at isCollection
  cases isCollection
  cases isElement

theorem hasField_of_fieldIfFound {name : String} {field : Value}
    (isFound : value.fieldIfFound name = .ok (some field)) : value.HasField name field := by
  obtain ⟨found, _, isFound⟩ := bind_eq_ok_iff.1 isFound
  cases found with
  | false => cases isFound
  | true =>
      obtain ⟨given, isField, isFound⟩ := bind_eq_ok_iff.1 isFound
      cases isFound
      exact Value.hasField_of_field isField

end Readers

end RoutingPlane
