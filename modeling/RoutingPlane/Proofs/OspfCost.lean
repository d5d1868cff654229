import Mathlib.Data.List.TakeWhile
import RoutingPlane.OspfCost
import RoutingPlane.Proofs.Failure
import RoutingPlane.Proofs.Table.Lookup

/-!
Costs that cannot be derived. An interface without a configured cost needs a bandwidth, unless
it belongs to a virtual network; the first one without it keeps all costs from being resolved.
-/

namespace RoutingPlane

open RoutingPlane.Decimal

/-- The name of an interface is a text, and its bandwidth a number if it is known. -/
structure Interface.IsTyped (interface : Interface) : Prop where
  name : interface.nameGiven = none
  bandwidth : interface.bandwidth.isNull = true ∨ interface.bandwidth.isNumeric = true

theorem Interface.IsTyped.nameValue_eq {interface : Interface} (isTyped : interface.IsTyped) :
    interface.nameValue = .text interface.name := by
  rw [Interface.nameValue, isTyped.name, Option.getD_none]

theorem Interface.IsTyped.isNumeric_of_truthy {interface : Interface}
    (isTyped : interface.IsTyped) (given : interface.bandwidth.truthy = true) :
    interface.bandwidth.isNumeric = true := by
  rcases isTyped.bandwidth with isNull | isNumeric
  · have isMissing : interface.bandwidth = .null := by
      revert isNull
      cases interface.bandwidth <;> simp [Value.isNull]
    rw [isMissing] at given
    cases given
  · exact isNumeric

namespace OspfCost

variable {devices : Table String Device} {options : Options} {router : String}
  {process : OspfProcess} {interface : Interface}

/-! ## What the cost of an interface is derived from -/

/-- Whether the name of an interface begins as those of virtual networks do, in any case. -/
def isNamedVlan (options : Options) (interface : Interface) : Bool :=
  match options.vlanNameStart with
  | .text start => Text.begins (Text.lowercase start) (Text.lowercase interface.name)
  | _ => false

/-- Whether an interface has no bandwidth, or none but zero, to derive a cost from. -/
def lacksBandwidth (options : Options) (interface : Interface) : Bool :=
  !isNamedVlan options interface && !interface.bandwidth.truthy

def quotient (process : OspfProcess) (interface : Interface) : Except ValueFault Float := do
  let reference ← (Value.ofFloat 0 process.referenceBandwidth).toFloat
  let bandwidth ← interface.bandwidth.toFloat
  return reference / bandwidth

/-- Whether the reference bandwidth over that of an interface is neither infinite nor
undefined. -/
def hasFiniteQuotient (process : OspfProcess) (interface : Interface) : Bool :=
  match (quotient process interface).map Binary64.ofFloat with
  | .ok (.finite _) => true
  | _ => false

theorem hasFiniteQuotient_iff : hasFiniteQuotient process interface = true ↔
    ∃ ratio value, quotient process interface = .ok ratio ∧
      Binary64.ofFloat ratio = .finite value := by
  rw [hasFiniteQuotient]
  cases quotient process interface with
  | error fault => simp [Except.map]
  | ok ratio => cases isRatio : Binary64.ofFloat ratio <;> simp [Except.map, isRatio]

/-- Settings and interfaces are of the types that are declared for them. -/
structure AreTyped (options : Options) (devices : Table String Device) : Prop where
  vlanNameStart : ∃ start, options.vlanNameStart = .text start
  interfaces : ∀ router device name interface, devices.get? router = some device →
    device.interfaces.get? name = some interface → interface.IsTyped

/-- The quotients that are needed before a bandwidth is missed are finite. -/
def QuotientsFinite (options : Options) (devices : Table String Device) : Prop :=
  ∀ item ∈ (derived devices).takeWhile fun item => !lacksBandwidth options item.2.2,
    isNamedVlan options item.2.2 = false → hasFiniteQuotient item.2.1 item.2.2 = true

instance : Decidable (QuotientsFinite options devices) :=
  inferInstanceAs (Decidable (∀ item ∈ _, _ → _))

/-! ## The cost of one interface -/

theorem isVlan_eq (isText : ∃ start, options.vlanNameStart = .text start)
    (isTyped : interface.IsTyped) :
    isVlan options interface.nameValue = .ok (isNamedVlan options interface) := by
  obtain ⟨start, isText⟩ := isText
  rw [isVlan, isNamedVlan, isTyped.nameValue_eq, isText]
  rfl

theorem standardCost_of_lacksBandwidth (isText : ∃ start, options.vlanNameStart = .text start)
    (isTyped : interface.IsTyped) (lacks : lacksBandwidth options interface = true)
    (referenceBandwidth : Float) :
    standardCost router interface referenceBandwidth options =
      .error (.configuration (.missingBandwidth router interface.name)) := by
  rw [lacksBandwidth, Bool.and_eq_true, Bool.not_eq_true', Bool.not_eq_true'] at lacks
  simp only [standardCost, derivedCost, isVlan_eq isText isTyped, lacks]
  rfl

/-- A finite quotient has a floor. The reference bandwidth is no whole number, so the quotient is
one of double precision. -/
theorem exists_floorQuotient (isNumeric : interface.bandwidth.isNumeric = true)
    (isFinite : hasFiniteQuotient process interface = true) :
    ∃ floor, floorQuotient (Value.ofFloat 0 process.referenceBandwidth) interface.bandwidth =
      .ok floor := by
  obtain ⟨ratio, value, isRatio, isFinite⟩ := hasFiniteQuotient_iff.1 isFinite
  have notWhole : (Value.ofFloat 0 process.referenceBandwidth).whole? = none := by
    rw [Value.ofFloat]
    split <;> rfl
  have referenceNumeric : (Value.ofFloat 0 process.referenceBandwidth).isNumeric = true := by
    rw [Value.ofFloat]
    split <;> rfl
  obtain ⟨reference, isReference, isRatio⟩ := bind_eq_ok_iff.1 isRatio
  obtain ⟨bandwidth, isBandwidth, isRatio⟩ := bind_eq_ok_iff.1 isRatio
  obtain rfl := pure_eq_ok_iff.1 isRatio
  have isFloor : floorOf (reference / bandwidth) = .ok value.floor := by
    rw [floorOf, isFinite]
  refine ⟨value.floor, ?_⟩
  rw [floorQuotient, notWhole, referenceNumeric, isNumeric, isReference, isBandwidth]
  exact isFloor

/-- A cost is derived if the bandwidth is known and the quotient is finite. -/
theorem exists_standardCost (isText : ∃ start, options.vlanNameStart = .text start)
    (isTyped : interface.IsTyped) (hasBandwidth : lacksBandwidth options interface = false)
    (isFinite : isNamedVlan options interface = false →
      hasFiniteQuotient process interface = true) :
    ∃ cost, standardCost router interface process.referenceBandwidth options = .ok cost := by
  rw [standardCost, derivedCost, isVlan_eq isText isTyped]
  cases isNamed : isNamedVlan options interface with
  | true => exact ⟨options.vlanCost, rfl⟩
  | false =>
      rw [lacksBandwidth, isNamed, Bool.not_false, Bool.true_and, Bool.not_eq_false']
        at hasBandwidth
      have isNumeric := isTyped.isNumeric_of_truthy hasBandwidth
      obtain ⟨floor, isFloor⟩ := exists_floorQuotient isNumeric (isFinite isNamed)
      refine ⟨.int (max 1 floor), ?_⟩
      rw [hasBandwidth, isFloor]
      rfl

/-! ## The costs of all interfaces -/

/-- Costs are told for the active interfaces of devices with an OSPF process. -/
theorem mem_costed_iff {device : Device} :
    (process, interface) ∈ costed device ↔
      device.ospf = some process ∧ (∃ name, device.interfaces.get? name = some interface) ∧
        interface.isActive = true := by
  rw [costed, ← Table.mem_values_iff]
  cases device.ospf with
  | none => simp
  | some given =>
      simp only [List.mem_map, List.mem_filter, Prod.mk.injEq, Option.some.injEq]
      constructor
      · rintro ⟨_, ⟨isInterface, isActive⟩, rfl, rfl⟩
        exact ⟨rfl, isInterface, isActive⟩
      · rintro ⟨rfl, isInterface, isActive⟩
        exact ⟨interface, ⟨isInterface, isActive⟩, rfl, rfl⟩

theorem mem_derived_iff :
    (router, process, interface) ∈ derived devices ↔
      ∃ device, devices.get? router = some device ∧ (process, interface) ∈ costed device ∧
        interface.ospfCost.isNull = true := by
  simp only [derived, List.mem_flatMap, List.mem_map, List.mem_filter, Prod.exists, Prod.mk.injEq,
    Table.get?_eq_some_iff]
  constructor
  · rintro ⟨_, device, isDevice, _, _, ⟨isCosted, noCost⟩, rfl, rfl, rfl⟩
    exact ⟨device, isDevice, isCosted, noCost⟩
  · rintro ⟨device, isDevice, isCosted, noCost⟩
    exact ⟨router, device, isDevice, process, interface, ⟨isCosted, noCost⟩, rfl, rfl, rfl⟩

theorem AreTyped.of_costed (typed : AreTyped options devices) {device : Device}
    (isDevice : devices.get? router = some device)
    (isCosted : (process, interface) ∈ costed device) :
    interface.IsTyped := by
  obtain ⟨_, ⟨name, isInterface⟩, _⟩ := mem_costed_iff.1 isCosted
  exact typed.interfaces router device name interface isDevice isInterface

theorem faultOf?_costOf (router : String) (process : OspfProcess) (options : Options)
    (interface : Interface) :
    faultOf? (costOf router process options interface) =
      if interface.ospfCost.isNull then
        faultOf? (standardCost router interface process.referenceBandwidth options)
      else none := by
  rw [costOf]
  cases interface.ospfCost <;> rfl

/-- The costs of a device fail as the first of its costs that are derived. -/
theorem faultOf?_deviceCosts (typed : AreTyped options devices) {device : Device}
    (isDevice : devices.get? router = some device) :
    faultOf? (deviceCosts options router device) =
      ((costed device).filter fun pair => pair.2.ospfCost.isNull).findSome? fun pair =>
        faultOf? (standardCost router pair.2 pair.1.referenceBandwidth options) := by
  rw [deviceCosts, faultOf?_bind_pure, faultOf?_mapM, findSome?_filter]
  apply findSome?_congr
  intro pair isCosted
  rw [← faultOf?_costOf, (typed.of_costed isDevice isCosted).nameValue_eq]
  exact faultOf?_bind_pure _ _

/-- Costs are resolved unless one of them cannot be derived. -/
theorem faultOf?_resolve (typed : AreTyped options devices) :
    faultOf? (resolve devices options) =
      (derived devices).findSome? fun item =>
        faultOf? (standardCost item.1 item.2.2 item.2.1.referenceBandwidth options) := by
  rw [resolve, faultOf?_bind_pure, faultOf?_mapM, derived, findSome?_flatMap]
  apply findSome?_congr
  intro entry isDevice
  rw [faultOf?_bind_pure, faultOf?_deviceCosts typed (Table.get?_eq_some_iff.2 isDevice),
    List.findSome?_map]
  rfl

/-- The first interface without the bandwidth that it needs decides. -/
theorem faultOf?_resolve_eq (typed : AreTyped options devices)
    (finite : QuotientsFinite options devices) :
    faultOf? (resolve devices options) =
      ((derived devices).find? fun item => lacksBandwidth options item.2.2).map fun item =>
        .configuration (.missingBandwidth item.1 item.2.2.name) := by
  have isTyped : ∀ item ∈ derived devices, item.2.2.IsTyped := by
    rintro ⟨router, process, interface⟩ isDerived
    obtain ⟨device, isDevice, isCosted, _⟩ := mem_derived_iff.1 isDerived
    exact typed.of_costed isDevice isCosted
  rw [faultOf?_resolve typed]
  apply findSome?_eq_map_find?
  · intro item isDerived lacks
    rw [faultOf?_eq_some_iff]
    exact standardCost_of_lacksBandwidth typed.vlanNameStart (isTyped item isDerived) lacks _
  · intro item isBefore
    have isDerived := (List.takeWhile_sublist _).subset isBefore
    have hasBandwidth := List.mem_takeWhile_imp isBefore
    rw [Bool.not_eq_true'] at hasBandwidth
    rw [faultOf?_eq_none_iff]
    exact exists_standardCost typed.vlanNameStart (isTyped item isDerived) hasBandwidth
      (finite item isBefore)

end OspfCost

end RoutingPlane
