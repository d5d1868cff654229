import RoutingPlane.Address.Reader
import RoutingPlane.Proofs.Failure
import RoutingPlane.Value.Conversion

/-!
Which faults reading a value can have. A number is out of range only where it is converted: a
number in double precision to a whole one, or a whole one to double precision. An item is out of
range only in an empty tuple that is read as a network. All other readers refuse a value for
what it is, or cannot write it.
-/

namespace RoutingPlane

open RoutingPlane.Decimal

/-- Whether a number is out of the range of what it is converted to, or an item out of that of a
tuple. -/
def ValueFault.overflows : ValueFault → Bool
  | infiniteInteger => true
  | hugeInteger => true
  | noItem => true
  | _ => false

/-- Whether a value cannot be written: a number in it has too many digits, or its collections
lie inside each other too deeply. -/
def ValueFault.isUnwritable : ValueFault → Bool
  | longText => true
  | endless => true
  | _ => false

/-- Nothing is out of range while something is read. -/
abbrev StaysInRange {α : Type} (outcome : Except ValueFault α) : Prop :=
  FailsWithin (fun fault => fault.overflows = false) outcome

theorem ValueFault.overflows_of_isUnwritable {fault : ValueFault}
    (unwritable : fault.isUnwritable = true) : fault.overflows = false := by
  cases fault <;> first | rfl | cases unwritable

theorem ValueFault.escapes_iff {fault : ValueFault} :
    fault.escapes = true ↔ fault.overflows = true ∨ fault = .endless := by
  cases fault <;> simp [escapes, overflows]

namespace Value

variable {value field : Value} {fault : ValueFault}

/-! ## Texts -/

theorem isUnwritable_of_written {write? : Value → Option String}
    (fails : value.written write? = .error fault) : fault.isUnwritable = true := by
  rw [written] at fails
  split at fails
  · cases fails
    rfl
  · split at fails
    · cases fails
    · cases fails
      rfl

theorem toText_within (value : Value) :
    FailsWithin (fun fault => fault.isUnwritable = true) value.toText :=
  fun _ fails => isUnwritable_of_written fails

theorem staysInRange_toText (value : Value) : StaysInRange value.toText :=
  (toText_within value).imp fun _ => ValueFault.overflows_of_isUnwritable

theorem overflows_refused (value : Value) {report : String → ValueFault}
    (inRange : ∀ shown, (report shown).overflows = false) :
    (value.refused report).overflows = false := by
  rw [refused]
  cases isWritten : value.written quoted? with
  | ok shown => exact inRange shown
  | error unwritten =>
      exact ValueFault.overflows_of_isUnwritable (isUnwritable_of_written isWritten)

/-! ## Numbers -/

/-- Only an infinite number is out of the range of whole numbers. -/
theorem of_toInteger_overflows (fails : value.toInteger = .error fault)
    (overflows : fault.overflows = true) :
    fault = .infiniteInteger ∧ ∃ x negative, value = .float x ∧
      Binary64.ofFloat x = .infinite negative := by
  have notNumeral : ∀ given outcome, ofNumeral given outcome ≠ .error fault := by
    intro given outcome fails
    have refusedInRange : (given.refused .notInteger).overflows = false :=
      overflows_refused given fun _ => rfl
    unfold ofNumeral at fails
    split at fails
    · cases fails
    · cases fails
      rw [refusedInRange] at overflows
      cases overflows
    · cases fails
      cases overflows
  cases value with
  | float x =>
      rw [toInteger] at fails
      split at fails
      · cases fails
      · rename_i negative isInfinite
        cases fails
        exact ⟨rfl, x, negative, rfl, isInfinite⟩
      · cases fails
        cases overflows
  | text s => exact absurd fails (notNumeral _ _)
  | bytes content => exact absurd fails (notNumeral _ _)
  | int n => cases fails
  | bool b => cases fails
  | _ =>
      cases fails
      cases overflows

/-- Only a whole number is out of the range of numbers in double precision. -/
theorem of_toFloat_overflows (fails : value.toFloat = .error fault)
    (overflows : fault.overflows = true) :
    fault = .hugeInteger ∧ ∃ n, value = .int n ∧ overflowBound ≤ n.natAbs := by
  cases value with
  | int n =>
      rw [toFloat, ofInt?] at fails
      by_cases fits : n.natAbs < overflowBound
      · rw [if_pos fits] at fails
        cases fails
      · rw [if_neg fits] at fails
        cases fails
        exact ⟨rfl, n, rfl, Nat.le_of_not_lt fits⟩
  | text s =>
      rw [toFloat] at fails
      split at fails
      · cases fails
      · cases fails
        cases overflows
  | bytes content =>
      rw [toFloat] at fails
      split at fails
      · cases fails
      · cases fails
        cases overflows
  | float x => cases fails
  | undefined occurrence => cases fails
  | bool b => cases fails
  | _ =>
      cases fails
      cases overflows

/-! ## Collections -/

theorem fields_eq_ok_iff {entries : List (Value × Value)} :
    value.fields = .ok entries ↔ value.opened = .map entries := by
  rw [fields]
  cases value.opened <;> simp

theorem fields_eq_error_iff :
    value.fields = .error fault ↔
      fault = .wrongKind .fields ∧ ∀ entries, value.opened ≠ .map entries := by
  rw [fields]
  cases value.opened <;> simp [eq_comm]

theorem elements_within (value : Value) :
    FailsWithin (fun fault => fault = .wrongKind .elements) value.elements := by
  intro fault fails
  rw [elements] at fails
  unfold ownElements at fails
  split at fails <;> cases fails
  rfl

theorem field_within (name : String) (value : Value) :
    FailsWithin (fun fault => fault = .missingField name ∨ fault = .wrongKind .lookup)
      (value.field name) := by
  intro fault fails
  rw [Value.field] at fails
  split at fails
  · split at fails
    · cases fails
    · cases fails
      exact .inl rfl
  · cases fails
    exact .inr rfl

theorem holds_within (name : String) (value : Value) :
    FailsWithin (fun fault => fault = .wrongKind .membership) (value.holds name) := by
  intro fault fails
  rw [holds] at fails
  split at fails <;> cases fails
  rfl

theorem staysInRange_fields (value : Value) : StaysInRange value.fields := by
  intro fault fails
  rw [(fields_eq_error_iff.1 fails).1]
  rfl

theorem staysInRange_fieldsOrNone (value : Value) : StaysInRange value.fieldsOrNone := by
  rw [fieldsOrNone]
  split
  · exact staysInRange_fields value
  · exact .ok []

theorem staysInRange_elements (value : Value) : StaysInRange value.elements :=
  (elements_within value).imp fun _ isWrongKind => isWrongKind ▸ rfl

theorem staysInRange_elementsOrNone (value : Value) : StaysInRange value.elementsOrNone := by
  rw [elementsOrNone]
  split
  · exact staysInRange_elements value
  · exact .ok []

theorem staysInRange_field (name : String) (value : Value) : StaysInRange (value.field name) := by
  refine (field_within name value).imp ?_
  rintro fault (rfl | rfl) <;> rfl

theorem staysInRange_holds (name : String) (value : Value) : StaysInRange (value.holds name) :=
  (holds_within name value).imp fun _ isWrongKind => isWrongKind ▸ rfl

end Value

/-! ## Addresses -/

theorem Address.staysInRange_lengthOf? (version : IpVersion) (item : Value) :
    StaysInRange (Address.lengthOf? version item) := by
  unfold Address.lengthOf?
  split
  · exact .ok _
  · simp only
    split
    · exact .error rfl
    · exact .ok _
  · split
    · exact .ok _
    · exact .error rfl

namespace InterfaceAddress

variable {value : Value} {fault : ValueFault}

theorem staysInRange_withLength? (length : Value) (addresses : List Address) :
    StaysInRange (withLength? length addresses) := by
  induction addresses with
  | nil => exact .ok none
  | cons address rest inductionHypothesis =>
      refine .bind (Address.staysInRange_lengthOf? address.version length) fun found _ => ?_
      cases found with
      | some found => exact .ok _
      | none => exact inductionHypothesis

/-- Only the empty tuple has no item in the place of the address. -/
theorem of_ofValue?_overflows (fails : ofValue? value = .error fault)
    (overflows : fault.overflows = true) : fault = .noItem ∧ value.opened = .tuple [] := by
  unfold ofValue? at fails
  split at fails
  · rename_i items isTuple
    unfold ofItems? at fails
    split at fails
    · cases fails
      exact ⟨rfl, isTuple⟩
    · cases fails
    · rw [staysInRange_withLength? _ _ fault fails] at overflows
      cases overflows
    · cases fails
      cases overflows
  · cases fails
  · cases fails

theorem readAs_within (use : AddressUse) (value : Value) :
    FailsWithin (fun fault => fault.overflows = true → ofValue? value = .error fault)
      (readAs use value) := by
  refine .bind (fun fault fails _ => fails) fun found _ => ?_
  cases found with
  | some interface => exact .ok _
  | none =>
      refine .error fun overflows => ?_
      rw [value.overflows_refused fun _ => rfl] at overflows
      cases overflows

end InterfaceAddress

theorem Network.staysInRange_read_text (s : String) : StaysInRange (Network.read (.text s)) := by
  refine .bind (fun fault fails => ?_) fun interface _ => .ok _
  cases overflows : fault.overflows with
  | false => rfl
  | true => cases InterfaceAddress.readAs_within .network (.text s) fault fails overflows

theorem Address.staysInRange_read (value : Value) : StaysInRange (Address.read value) := by
  unfold Address.read
  simp only
  split
  · exact .ok _
  · exact .error (value.overflows_refused fun _ => rfl)

end RoutingPlane
