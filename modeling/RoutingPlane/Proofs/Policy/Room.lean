import RoutingPlane.Proofs.Value.Places

/-!
The room in which policies are read. A run with more room goes on where one with less runs out of
it, and otherwise nothing changes. Two runs agree as soon as both have room for all that the value
leads to, so the room bounds nothing: only a value that leads back to itself can use it up.
-/

namespace RoutingPlane

/-! ## More room -/

section MoreRoom

variable {α β : Type}

/-- A run ends as another one does, unless that one runs out of room. -/
def Extends (run more : Except DeviceFault α) : Prop :=
  run ≠ .error (.value .endless) → more = run

namespace Extends

theorem refl (run : Except DeviceFault α) : Extends run run :=
  fun _ => rfl

theorem ofEndless {more : Except DeviceFault α} : Extends (.error (.value .endless)) more :=
  fun settled => absurd rfl settled

theorem bind {run more : Except DeviceFault α} {next moreNext : α → Except DeviceFault β}
    (runExtends : Extends run more)
    (nextExtends : ∀ result, Extends (next result) (moreNext result)) :
    Extends (run >>= next) (more >>= moreNext) := by
  intro settled
  cases run with
  | error fault =>
      rw [runExtends fun endless => settled (congrArg (· >>= next) endless)]
      rfl
  | ok result =>
      rw [runExtends nofun]
      exact nextExtends result settled

theorem mapM {read more : Value → Except DeviceFault α}
    (readExtends : ∀ value, Extends (read value) (more value)) (values : List Value) :
    Extends (values.mapM read) (values.mapM more) := by
  induction values with
  | nil => exact refl _
  | cons value rest inductionHypothesis =>
      rw [List.mapM_cons, List.mapM_cons]
      exact (readExtends value).bind fun _ => inductionHypothesis.bind fun _ => refl _

end Extends

variable {readWithin : Nat → Value → Except DeviceFault α} {value : Value}

/-- What is read in the room for all that a value leads to is read of it. -/
theorem readFully_eq_ok {result : α}
    (isExtended : ∀ {room more}, room ≤ more →
      Extends (readWithin room value) (readWithin more value))
    (isRead : readWithin (value.reach + 1) value = .ok result) :
    readFully readWithin value = .ok result := by
  unfold readFully
  split
  · exact isRead
  · rename_i settled
    have first := isExtended (Nat.le_max_left firstRoom (value.reach + 1)) settled
    have full := isExtended (Nat.le_max_right firstRoom (value.reach + 1)) (by rw [isRead]; nofun)
    exact first.symm.trans (full.trans isRead)

/-- A value is read as in any room for all that it leads to if all such rooms are the same to
it. -/
theorem readFully_eq_readWithin {room : Nat}
    (isExtended : ∀ {room more}, room ≤ more →
      Extends (readWithin room value) (readWithin more value))
    (agree : ∀ {room more}, value.reach ≤ room → value.reach ≤ more →
      readWithin (room + 1) value = readWithin (more + 1) value)
    (fits : value.reach ≤ room) : readFully readWithin value = readWithin (room + 1) value := by
  unfold readFully
  split
  · exact agree (Nat.le_refl _) fits
  · rename_i settled
    have first := isExtended (Nat.le_trans (Nat.le_max_left firstRoom room) (Nat.le_succ _)) settled
    exact first.symm.trans (agree (Nat.le_trans fits (Nat.le_max_right _ _)) fits)

end MoreRoom

namespace Condition

theorem readWithin_extends : ∀ {room more : Nat}, room ≤ more → ∀ value,
    Extends (readWithin room value) (readWithin more value)
  | 0, _, _, _ => .ofEndless
  | room + 1, more + 1, isMore, value => by
      have isMore := Nat.le_of_succ_le_succ isMore
      have listsExtend : ∀ elements : List Value,
          Extends (elements.mapM (readWithin room)) (elements.mapM (readWithin more)) :=
        .mapM (readWithin_extends isMore)
      rw [readWithin, readWithin]
      refine .bind (.refl _) fun
        | some parts => .bind (.refl _) fun elements => (listsExtend elements).bind fun _ => .refl _
        | none => ?_
      refine .bind (.refl _) fun
        | some parts => .bind (.refl _) fun elements => (listsExtend elements).bind fun _ => .refl _
        | none => ?_
      refine .bind (.refl _) fun
        | some part => (readWithin_extends isMore part).bind fun _ => .refl _
        | none => .refl _

end Condition

namespace Statement

theorem readWithin_extends : ∀ {room more : Nat}, room ≤ more → ∀ value,
    Extends (readWithin room value) (readWithin more value)
  | 0, _, _, _ => .ofEndless
  | room + 1, more + 1, isMore, value => by
      have isMore := Nat.le_of_succ_le_succ isMore
      have blockExtends : ∀ elements : List Value,
          Extends (elements.mapM (readWithin room)) (elements.mapM (readWithin more)) :=
        .mapM (readWithin_extends isMore)
      unfold readWithin
      split
      · exact .refl _
      · refine .bind (.refl _) fun
          | some guard => .bind (.refl _) fun _ => ?_
          | none => .refl _
        refine (Condition.readWithin_extends isMore guard).bind fun _ => ?_
        refine .bind (.refl _) fun whenTrue => (blockExtends whenTrue).bind fun _ => ?_
        exact .bind (.refl _) fun whenFalse => (blockExtends whenFalse).bind fun _ => .refl _

end Statement

/-! ## Enough room -/

namespace Value

variable {whole value part : Value} {name : String}

/-- No collection in a value leads back to itself. -/
def IsUnknotted (whole : Value) : Prop :=
  ∀ part, whole.Contains part → ∀ parts place, part ≠ .knot parts place

theorem IsUnknotted.inside (unknotted : whole.IsUnknotted) (contained : whole.Contains part) :
    part.IsUnknotted :=
  fun _ inside => unknotted _ (contained.trans inside)

theorem IsUnknotted.opened_eq (unknotted : value.IsUnknotted) : value.opened = value := by
  cases value with
  | knot parts place => exact absurd rfl (unknotted _ .self parts place)
  | _ => rfl

theorem reach_le_itemsReach {items : List Value} (isItem : part ∈ items) :
    part.reach ≤ itemsReach items := by
  induction items with
  | nil => cases isItem
  | cons item rest inductionHypothesis =>
      rw [itemsReach]
      rcases List.mem_cons.1 isItem with rfl | later
      · exact Nat.le_max_left _ _
      · exact Nat.le_trans (inductionHypothesis later) (Nat.le_max_right _ _)

theorem reach_le_entriesReach {entries : List (Value × Value)} {entry : Value × Value}
    (isEntry : entry ∈ entries) : max entry.1.reach entry.2.reach ≤ entriesReach entries := by
  induction entries with
  | nil => cases isEntry
  | cons first rest inductionHypothesis =>
      rw [entriesReach]
      rcases List.mem_cons.1 isEntry with rfl | later
      · exact Nat.le_max_left _ _
      · exact Nat.le_trans (inductionHypothesis later) (Nat.le_max_right _ _)

theorem IsUnknotted.reach_lt_of_hasField (unknotted : value.IsUnknotted)
    (hasField : value.HasField name part) : part.reach < value.reach := by
  obtain ⟨entries, isMapping, isField⟩ := hasField
  obtain ⟨key, isEntry⟩ := exists_mem_of_fieldIn? isField
  rw [unknotted.opened_eq] at isMapping
  rw [isMapping, reach]
  exact Nat.lt_succ_of_le (Nat.le_trans (Nat.le_max_right _ _) (reach_le_entriesReach isEntry))

/-- An element that is a mapping lies deeper than the collection. -/
theorem IsUnknotted.reach_lt_of_hasElement (unknotted : value.IsUnknotted)
    (hasElement : value.HasElement part) {entries : List (Value × Value)}
    (isMapping : part = .map entries) : part.reach < value.reach := by
  obtain ⟨elements, areElements, isElement⟩ := hasElement
  rw [Value.elements, unknotted.opened_eq] at areElements
  cases value with
  | list items | tuple items | set items =>
      cases areElements
      exact Nat.lt_succ_of_le (reach_le_itemsReach isElement)
  | text s =>
      cases areElements
      obtain ⟨c, _, rfl⟩ := List.mem_map.1 isElement
      cases isMapping
  | bytes content =>
      cases areElements
      obtain ⟨byte, _, rfl⟩ := List.mem_map.1 isElement
      cases isMapping
  | map given =>
      cases areElements
      obtain ⟨entry, isEntry, rfl⟩ := List.mem_map.1 isElement
      exact Nat.lt_succ_of_le
        (Nat.le_trans (Nat.le_max_left _ _) (reach_le_entriesReach isEntry))
  | _ => cases areElements

end Value

theorem mapM_congr {ε α β : Type} {left right : α → Except ε β} {items : List α}
    (same : ∀ item ∈ items, left item = right item) : items.mapM left = items.mapM right := by
  induction items with
  | nil => rfl
  | cons item rest inductionHypothesis =>
      rw [List.forall_mem_cons] at same
      rw [List.mapM_cons, List.mapM_cons, same.1, inductionHypothesis same.2]

theorem bind_congr_of_ok {ε α β : Type} {outcome : Except ε α} {left right : α → Except ε β}
    (same : ∀ result, outcome = .ok result → left result = right result) :
    (outcome >>= left) = (outcome >>= right) := by
  cases outcome with
  | error fault => rfl
  | ok result => exact same result rfl

/-- Two computations agree that go on in the same way from what is found in a field. -/
theorem bind_fieldIfFound_congr {ε β : Type} {value : Value} {name : String}
    {report : ValueFault → ε} {left right : Option Value → Except ε β}
    (found : ∀ part, value.HasField name part → left (some part) = right (some part))
    (missing : left none = right none) :
    ((value.fieldIfFound name).mapError report >>= left) =
      ((value.fieldIfFound name).mapError report >>= right) := by
  refine bind_congr_of_ok fun field isFound => ?_
  cases field with
  | none => exact missing
  | some part => exact found part (hasField_of_fieldIfFound (mapError_eq_ok_iff.1 isFound))

/-- Two runs of a reader agree on the elements in a field of a value if they agree on all mappings
that lie deeper than the value, and on all that are no mappings. -/
theorem mapM_elements_congr {ε β : Type} {name : String} {value : Value} {elements : List Value}
    {readWithin : Nat → Value → Except ε β} {room more : Nat}
    (unknotted : value.IsUnknotted) (fits : value.reach ≤ room) (moreFits : value.reach ≤ more)
    (areElements : ∀ element ∈ elements, value.HasElementIn name element)
    (deeper : ∀ {element : Value} {left right : Nat}, element.reach < value.reach →
      element.IsUnknotted → element.reach ≤ left → element.reach ≤ right →
        readWithin (left + 1) element = readWithin (right + 1) element)
    (noMapping : ∀ {element : Value} {left right : Nat},
      (∀ entries, element.opened ≠ .map entries) →
        readWithin (left + 1) element = readWithin (right + 1) element) :
    elements.mapM (readWithin room) = elements.mapM (readWithin more) := by
  refine mapM_congr fun element isElement => ?_
  obtain ⟨parts, hasParts, hasElement⟩ := areElements element isElement
  have partsUnknotted := unknotted.inside (Value.Contains.self.field hasParts)
  have partsDeeper := unknotted.reach_lt_of_hasField hasParts
  obtain ⟨left, rfl⟩ : ∃ left, room = left + 1 := Nat.exists_eq_add_of_le' (by omega)
  obtain ⟨right, rfl⟩ : ∃ right, more = right + 1 := Nat.exists_eq_add_of_le' (by omega)
  by_cases isMapping : ∃ entries, element.opened = .map entries
  · obtain ⟨entries, isMapping⟩ := isMapping
    have elementUnknotted := partsUnknotted.inside (Value.Contains.self.element hasElement)
    rw [elementUnknotted.opened_eq] at isMapping
    have elementDeeper := partsUnknotted.reach_lt_of_hasElement hasElement isMapping
    exact deeper (by omega) elementUnknotted (by omega) (by omega)
  · exact noMapping fun entries opened => isMapping ⟨entries, opened⟩

namespace Condition

/-- For what is no mapping no other condition is read. -/
theorem readWithin_eq_of_noMapping {value : Value} {room more : Nat}
    (noMapping : ∀ entries, value.opened ≠ .map entries) :
    readWithin (room + 1) value = readWithin (more + 1) value := by
  have noField : ∀ name part, ¬value.HasField name part := by
    rintro name part ⟨entries, isMapping, _⟩
    exact noMapping entries isMapping
  rw [readWithin, readWithin]
  refine bind_fieldIfFound_congr (fun part has => absurd has (noField _ part)) ?_
  refine bind_fieldIfFound_congr (fun part has => absurd has (noField _ part)) ?_
  exact bind_fieldIfFound_congr (fun part has => absurd has (noField _ part)) rfl

/-- Two readings of a condition agree if both have room for all that its value leads to. -/
theorem readWithin_congr {value : Value} {room more : Nat} (unknotted : value.IsUnknotted)
    (fits : value.reach ≤ room) (moreFits : value.reach ≤ more) :
    readWithin (room + 1) value = readWithin (more + 1) value := by
  have listsAgree : ∀ {name parts} (make : List Condition → Condition),
      value.HasField name parts →
        (do return make (← (← parts.elements).mapM (readWithin room)) :
          Except DeviceFault Condition) =
        (do return make (← (← parts.elements).mapM (readWithin more))) := by
    intro name parts make hasParts
    refine bind_congr_of_ok fun elements areElements => ?_
    have areElements := mapError_eq_ok_iff.1 areElements
    rw [mapM_elements_congr unknotted fits moreFits
      (fun element isElement => ⟨parts, hasParts, elements, areElements, isElement⟩)
      (fun _ elementUnknotted left right => readWithin_congr elementUnknotted left right)
      readWithin_eq_of_noMapping]
  rw [readWithin, readWithin]
  refine bind_fieldIfFound_congr (fun parts hasParts => listsAgree all hasParts) ?_
  refine bind_fieldIfFound_congr (fun parts hasParts => listsAgree any hasParts) ?_
  refine bind_fieldIfFound_congr (fun part hasPart => ?_) rfl
  have partDeeper := unknotted.reach_lt_of_hasField hasPart
  have partUnknotted := unknotted.inside (Value.Contains.self.field hasPart)
  obtain ⟨left, rfl⟩ : ∃ left, room = left + 1 := Nat.exists_eq_add_of_le' (by omega)
  obtain ⟨right, rfl⟩ : ∃ right, more = right + 1 := Nat.exists_eq_add_of_le' (by omega)
  have agree : readWithin (left + 1) part = readWithin (right + 1) part :=
    readWithin_congr partUnknotted (by omega) (by omega)
  exact congrArg (fun read => read >>= fun condition => pure (not condition)) agree
termination_by value.reach

/-- A value without knots is read as with any more room, so it is never refused for its depth. -/
theorem read_eq_readWithin {value : Value} {room : Nat} (unknotted : value.IsUnknotted)
    (fits : value.reach ≤ room) : read value = readWithin (room + 1) value :=
  readFully_eq_readWithin (fun isMore => readWithin_extends isMore value)
    (readWithin_congr unknotted) fits

end Condition

namespace Statement

theorem readWithin_eq_of_noMapping {value : Value} {room more : Nat}
    (noMapping : ∀ entries, value.opened ≠ .map entries) :
    readWithin (room + 1) value = readWithin (more + 1) value := by
  unfold readWithin
  split
  · rfl
  · refine bind_fieldIfFound_congr (fun part hasPart => ?_) rfl
    obtain ⟨entries, isMapping, _⟩ := hasPart
    exact absurd isMapping (noMapping entries)

/-- Two readings of a statement agree if both have room for all that its value leads to. -/
theorem readWithin_congr {value : Value} {room more : Nat} (unknotted : value.IsUnknotted)
    (fits : value.reach ≤ room) (moreFits : value.reach ≤ more) :
    readWithin (room + 1) value = readWithin (more + 1) value := by
  have blocksAgree : ∀ name entries, FieldsOf value entries →
      (do (← block name entries).mapM (readWithin room) : Except DeviceFault (List Statement)) =
        (do (← block name entries).mapM (readWithin more)) := by
    intro name entries fields
    refine bind_congr_of_ok fun elements areElements => ?_
    have areElements := mapError_eq_ok_iff.1 areElements
    exact mapM_elements_congr unknotted fits moreFits
      (fun element isElement => fields.hasElementIn areElements isElement)
      (fun _ elementUnknotted left right => readWithin_congr elementUnknotted left right)
      readWithin_eq_of_noMapping
  unfold readWithin
  split
  · rfl
  · refine bind_fieldIfFound_congr (fun guard hasGuard => ?_) rfl
    have guardDeeper := unknotted.reach_lt_of_hasField hasGuard
    have guardUnknotted := unknotted.inside (Value.Contains.self.field hasGuard)
    obtain ⟨left, rfl⟩ : ∃ left, room = left + 1 := Nat.exists_eq_add_of_le' (by omega)
    obtain ⟨right, rfl⟩ : ∃ right, more = right + 1 := Nat.exists_eq_add_of_le' (by omega)
    have guardsAgree :
        Condition.readWithin (left + 1) guard = Condition.readWithin (right + 1) guard :=
      Condition.readWithin_congr guardUnknotted (by omega) (by omega)
    refine bind_congr_of_ok fun entries isMapping => ?_
    have fields := fieldsOf_fields (mapError_eq_ok_iff.1 isMapping)
    rw [guardsAgree]
    refine bind_congr fun condition => ?_
    simp only [← bind_assoc, blocksAgree _ _ fields]
termination_by value.reach

/-- A value without knots is read as with any more room, so it is never refused for its depth. -/
theorem read_eq_readWithin {value : Value} {room : Nat} (unknotted : value.IsUnknotted)
    (fits : value.reach ≤ room) : read value = readWithin (room + 1) value :=
  readFully_eq_readWithin (fun isMore => readWithin_extends isMore value)
    (readWithin_congr unknotted) fits

end Statement

end RoutingPlane
