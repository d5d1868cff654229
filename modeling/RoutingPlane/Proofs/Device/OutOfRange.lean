import RoutingPlane.Proofs.Value.Places

/-!
What can be out of range in the configuration of a device. It stands in certain fields of the
parts: an infinite number where a whole one is read, too large a whole number where one in double
precision is read, or an empty tuple where a network is read. The last one stands in no decoded
value.
-/

namespace RoutingPlane

open RoutingPlane.Decimal

/-! ## Items of a configuration -/

/-- What an item of a configuration is read as: a whole number, a number in double precision, or
a network with or without the address of a member. -/
inductive FieldKind where
  | whole
  | double
  | network
  deriving DecidableEq, Repr

/-- A value cannot be read as an item of a kind. -/
def FieldKind.Refuses (kind : FieldKind) (value : Value) (fault : ValueFault) : Prop :=
  match kind with
  | whole => value.toInteger = .error fault
  | double => value.toFloat = .error fault
  | network => InterfaceAddress.ofValue? value = .error fault

abbrev FieldKinds := List (String × FieldKind)

def Interface.fieldKinds : FieldKinds :=
  [("prefix", .network), ("bandwidth", .double), ("ospf_cost", .whole)]

def BgpNeighbor.fieldKinds : FieldKinds :=
  [("prefix", .network), ("local_as", .whole), ("remote_as", .whole)]

def StaticRoute.fieldKinds : FieldKinds :=
  [("network", .network), ("admin_distance", .whole)]

def NetworkRange.fieldKinds : FieldKinds :=
  [("prefix", .network), ("min_length", .whole), ("max_length", .whole)]

def FieldKinds.In (fields : FieldKinds) (value : Value) (kind : FieldKind) (item : Value) :
    Prop :=
  ∃ name, (name, kind) ∈ fields ∧ value.HasField name item

/-- A range of networks stands in a condition, or in a condition inside it. -/
inductive Condition.HasRange : Value → Value → Prop
  | own {condition range : Value} :
      condition.HasElementIn "match_prefix_set" range → HasRange condition range
  | part {name : String} {condition part range : Value} : name ∈ ["all", "any"] →
      condition.HasElementIn name part → HasRange part range → HasRange condition range
  | negated {condition part range : Value} :
      condition.HasField "not" part → HasRange part range → HasRange condition range

/-- A range of networks stands in the condition of a statement, or of a statement inside it. -/
inductive Statement.HasRange : Value → Value → Prop
  | guard {statement guard range : Value} :
      statement.HasField "if" guard → Condition.HasRange guard range → HasRange statement range
  | block {name : String} {statement inner range : Value} : name ∈ ["then", "else"] →
      statement.HasElementIn name inner → HasRange inner range → HasRange statement range

inductive OspfProcess.HasItem (process : Value) : FieldKind → Value → Prop
  | area {item members : Value} :
      process.HasEntryIn "areas" item members → HasItem process .whole item
  | reference {item : Value} :
      process.HasField "reference_bandwidth" item → HasItem process .double item

inductive Device.HasItem (device : Value) : FieldKind → Value → Prop
  | interface {kind : FieldKind} {name interface item : Value} :
      device.HasEntryIn "interfaces" name interface →
        Interface.fieldKinds.In interface kind item → HasItem device kind item
  | ospf {kind : FieldKind} {process item : Value} :
      device.HasField "ospf" process → OspfProcess.HasItem process kind item →
        HasItem device kind item
  | neighbor {kind : FieldKind} {process neighbor item : Value} :
      device.HasField "bgp" process → process.HasElementIn "neighbors" neighbor →
        BgpNeighbor.fieldKinds.In neighbor kind item → HasItem device kind item
  | route {kind : FieldKind} {route item : Value} :
      device.HasElementIn "static_routes" route → StaticRoute.fieldKinds.In route kind item →
        HasItem device kind item
  | policy {kind : FieldKind} {name statements statement range item : Value} :
      device.HasEntryIn "routing_policies" name statements → statements.HasElement statement →
        Statement.HasRange statement range → NetworkRange.fieldKinds.In range kind item →
          HasItem device kind item

/-- A number in the configuration of a device is out of the range of what it is converted to. -/
inductive Device.HasOverflow (device : Value) : ValueFault → Prop
  | infinite {x : Float} {negative : Bool} : Device.HasItem device .whole (.float x) →
      Binary64.ofFloat x = .infinite negative → HasOverflow device .infiniteInteger
  | huge {n : Int} : Device.HasItem device .double (.int n) → overflowBound ≤ n.natAbs →
      HasOverflow device .hugeInteger

/-- The empty tuple stands for a network in the configuration of a device. -/
def Device.LacksItem (device : Value) : Prop :=
  ∃ item, Device.HasItem device .network item ∧ item.opened = .tuple []

/-! ## Networks in decoded values -/

section Decoded

variable {whole value item range : Value}

theorem FieldKinds.In.exists_entry {fields : FieldKinds} {kind : FieldKind}
    (isItem : fields.In value kind item) : ∃ key, value.HasEntry key item := by
  obtain ⟨_, _, hasField⟩ := isItem
  exact hasField.exists_entry

theorem Condition.HasRange.contained (hasRange : Condition.HasRange value range) :
    whole.Contains value → whole.Contains range := by
  induction hasRange with
  | own hasRange => exact fun contained => contained.elementIn hasRange
  | part _ hasPart _ inductionHypothesis =>
      exact fun contained => inductionHypothesis (contained.elementIn hasPart)
  | negated hasPart _ inductionHypothesis =>
      exact fun contained => inductionHypothesis (contained.field hasPart)

theorem Statement.HasRange.contained (hasRange : Statement.HasRange value range) :
    whole.Contains value → whole.Contains range := by
  induction hasRange with
  | guard hasGuard hasRange => exact fun contained => hasRange.contained (contained.field hasGuard)
  | block _ hasInner _ inductionHypothesis =>
      exact fun contained => inductionHypothesis (contained.elementIn hasInner)

/-- What is read as a network is the value of an entry. -/
theorem Device.HasItem.exists_entry (isItem : Device.HasItem value .network item) :
    ∃ mapping key, value.Contains mapping ∧ mapping.HasEntry key item := by
  cases isItem with
  | interface hasInterface isItem =>
      obtain ⟨key, hasEntry⟩ := isItem.exists_entry
      exact ⟨_, key, Value.Contains.self.entryIn hasInterface, hasEntry⟩
  | ospf _ isItem => cases isItem
  | neighbor hasProcess hasNeighbor isItem =>
      obtain ⟨key, hasEntry⟩ := isItem.exists_entry
      exact ⟨_, key, (Value.Contains.self.field hasProcess).elementIn hasNeighbor, hasEntry⟩
  | route hasRoute isItem =>
      obtain ⟨key, hasEntry⟩ := isItem.exists_entry
      exact ⟨_, key, Value.Contains.self.elementIn hasRoute, hasEntry⟩
  | policy hasPolicy hasStatement hasRange isItem =>
      obtain ⟨key, hasEntry⟩ := isItem.exists_entry
      have contained := (Value.Contains.self.entryIn hasPolicy).element hasStatement
      exact ⟨_, key, hasRange.contained contained, hasEntry⟩

theorem Device.not_lacksItem (isDecoded : whole.IsDecoded) (contained : whole.Contains value) :
    ¬Device.LacksItem value := by
  rintro ⟨item, isItem, isEmpty⟩
  obtain ⟨mapping, key, inside, hasEntry⟩ := isItem.exists_entry
  exact isDecoded (contained.trans inside) hasEntry [] isEmpty

end Decoded

/-! ## Fields that are read -/

def BlamesOneOf (items : FieldKind → Value → Prop) (fault : ValueFault) : Prop :=
  fault.overflows = true → ∃ kind item, items kind item ∧ kind.Refuses item fault

def PartBlamesOneOf (items : FieldKind → Value → Prop) (fault : DeviceFault) : Prop :=
  ∀ cause, fault = .value cause → BlamesOneOf items cause

section Readers

variable {α : Type} {items more : FieldKind → Value → Prop} {value item : Value}
  {entries : List (Value × Value)} {allowed : ValueFault → Prop}

theorem BlamesOneOf.imp {fault : ValueFault} (blames : BlamesOneOf items fault)
    (included : ∀ kind item, items kind item → more kind item) :
    BlamesOneOf more fault := by
  intro overflows
  obtain ⟨kind, item, isItem, refuses⟩ := blames overflows
  exact ⟨kind, item, included kind item isItem, refuses⟩

/-- What is out of range is blamed on items among more of them. -/
theorem blames_more {outcome : Except ValueFault α}
    (within : FailsWithin (BlamesOneOf items) outcome)
    (included : ∀ kind item, items kind item → more kind item) :
    FailsWithin (BlamesOneOf more) outcome :=
  within.imp fun _ blames => blames.imp included

theorem StaysInRange.blames {outcome : Except ValueFault α} (stays : StaysInRange outcome) :
    FailsWithin (BlamesOneOf items) outcome := by
  intro fault fails overflows
  rw [stays fault fails] at overflows
  cases overflows

theorem blames_toInteger (isItem : items .whole item) :
    FailsWithin (BlamesOneOf items) item.toInteger :=
  fun _ fails _ => ⟨.whole, item, isItem, fails⟩

theorem blames_toFloat (isItem : items .double item) :
    FailsWithin (BlamesOneOf items) item.toFloat :=
  fun _ fails _ => ⟨.double, item, isItem, fails⟩

theorem blames_readAs (use : AddressUse) (isItem : items .network item) :
    FailsWithin (BlamesOneOf items) (InterfaceAddress.readAs use item) :=
  (InterfaceAddress.readAs_within use item).imp fun _ blames overflows =>
    ⟨.network, item, isItem, blames overflows⟩

theorem blames_readNetwork (isItem : items .network item) :
    FailsWithin (BlamesOneOf items) (Network.read item) :=
  .bind (blames_readAs .network isItem) fun _ _ => .ok _

theorem within_readOptional {name : String} {readValue : Value → Except ValueFault α}
    (within : ∀ field, Value.fieldIn? name entries = some field →
      FailsWithin allowed (readValue field)) :
    FailsWithin allowed (readOptional name entries readValue) := by
  rw [readOptional]
  cases found : Value.fieldIn? name entries with
  | none => exact .ok none
  | some field =>
      by_cases given : field.truthy = true
      · simp only [given, if_pos]
        exact (within field found).map some
      · simp only [given]
        exact .ok none

theorem within_readPresent {name : String} {readValue : Value → Except ValueFault α}
    (within : ∀ field, Value.fieldIn? name entries = some field →
      FailsWithin allowed (readValue field)) :
    FailsWithin allowed (readPresent name entries readValue) := by
  rw [readPresent]
  split
  · exact .ok none
  · rename_i field _ found
    exact (within field found).map some
  · exact .ok none

theorem within_getD {name : String} {standard : Value} {readValue : Value → Except ValueFault α}
    (standardWithin : FailsWithin allowed (readValue standard))
    (within : ∀ field, Value.fieldIn? name entries = some field →
      FailsWithin allowed (readValue field)) :
    FailsWithin allowed (readValue ((Value.fieldIn? name entries).getD standard)) := by
  cases found : Value.fieldIn? name entries with
  | none => exact standardWithin
  | some field => exact within field found

theorem staysInRange_fieldIfFound (name : String) (value : Value) :
    StaysInRange (value.fieldIfFound name) := by
  refine .bind (value.staysInRange_holds name) fun found _ => ?_
  cases found with
  | false => exact .ok none
  | true => exact .bind (value.staysInRange_field name) fun field _ => .ok (some field)

end Readers

/-! ## Interfaces, neighbors and routes -/

section Records

variable {value : Value}

theorem Interface.blames_read (name : String) (value : Value) :
    FailsWithin (BlamesOneOf (Interface.fieldKinds.In value)) (Interface.read name value) := by
  refine .bind value.staysInRange_fieldsOrNone.blames fun entries isMapping => ?_
  have fields := fieldsOf_fieldsOrNone isMapping
  refine .bind (within_readOptional fun field found =>
    blames_readAs .interface ⟨"prefix", by decide, fields _ _ found⟩) fun address _ => ?_
  refine .bind (within_readPresent fun field found =>
    blames_toFloat ⟨"bandwidth", by decide, fields _ _ found⟩) fun bandwidth _ => ?_
  refine .bind (within_readPresent fun field found =>
    blames_toInteger ⟨"ospf_cost", by decide, fields _ _ found⟩) fun ospfCost _ => ?_
  exact .ok _

theorem BgpNeighbor.blames_read (value : Value) :
    FailsWithin (BlamesOneOf (BgpNeighbor.fieldKinds.In value)) (BgpNeighbor.read value) := by
  refine .bind (value.staysInRange_field "prefix").blames fun network isField => ?_
  refine .bind (blames_readNetwork
    ⟨"prefix", by decide, Value.hasField_of_field isField⟩) fun peers _ => ?_
  refine .bind value.staysInRange_fields.blames fun entries isMapping => ?_
  have fields := fieldsOf_fields isMapping
  refine .bind (within_readPresent fun field found =>
    blames_toInteger ⟨"local_as", by decide, fields _ _ found⟩) fun localAs _ => ?_
  refine .bind (within_readPresent fun field found =>
    blames_toInteger ⟨"remote_as", by decide, fields _ _ found⟩) fun remoteAs _ => ?_
  refine .bind (within_readOptional fun field _ =>
    (Address.staysInRange_read field).blames) fun localAddress _ => ?_
  refine .bind (Value.staysInRange_toText _).blames fun description _ => ?_
  exact .ok _

theorem StaticRoute.blames_read (value : Value) :
    FailsWithin (BlamesOneOf (StaticRoute.fieldKinds.In value)) (StaticRoute.read value) := by
  refine .bind (value.staysInRange_field "network").blames fun network isField => ?_
  refine .bind (blames_readNetwork
    ⟨"network", by decide, Value.hasField_of_field isField⟩) fun destination _ => ?_
  refine .bind value.staysInRange_fields.blames fun entries isMapping => ?_
  have fields := fieldsOf_fields isMapping
  refine .bind (within_readOptional fun field _ =>
    (Address.staysInRange_read field).blames) fun nextHopAddress _ => ?_
  refine .bind (within_getD (.ok _) fun field found =>
    blames_toInteger ⟨"admin_distance", by decide, fields _ _ found⟩) fun distance _ => ?_
  exact .ok _

theorem NetworkRange.blames_read (value : Value) :
    FailsWithin (BlamesOneOf (NetworkRange.fieldKinds.In value)) (NetworkRange.read value) := by
  unfold NetworkRange.read
  split
  · refine .bind (StaysInRange.blames ?_) fun network _ => .ok _
    exact Network.staysInRange_read_text _
  · refine .bind (Value.staysInRange_field "prefix" _).blames fun given isField => ?_
    refine .bind (blames_readNetwork
      ⟨"prefix", by decide, Value.hasField_of_field isField⟩) fun network _ => ?_
    refine .bind (Value.staysInRange_fields _).blames fun entries isMapping => ?_
    have fields := fieldsOf_fields isMapping
    refine .bind (within_getD (.ok _) fun field found =>
      blames_toInteger ⟨"min_length", by decide, fields _ _ found⟩) fun shortest _ => ?_
    refine .bind (within_getD (.ok _) fun field found =>
      blames_toInteger ⟨"max_length", by decide, fields _ _ found⟩) fun longest _ => ?_
    exact .ok _

end Records

/-! ## Conditions and statements -/

section Policies

variable {α : Type} {items : FieldKind → Value → Prop}

theorem partBlames_of_inRange {cause : ValueFault} (inRange : cause.overflows = false) :
    PartBlamesOneOf items (.value cause) := by
  intro other same overflows
  cases same
  rw [inRange] at overflows
  cases overflows

/-- What a value blames, the part of a device that it describes blames. -/
theorem FailsWithin.asPart {outcome : Except ValueFault α}
    (within : FailsWithin (BlamesOneOf items) outcome) :
    FailsWithin (PartBlamesOneOf items) (outcome.mapError DeviceFault.value) := by
  refine .mapError (within.imp fun fault blames cause same => ?_)
  cases same
  exact blames

theorem StaysInRange.asPart {outcome : Except ValueFault α} (stays : StaysInRange outcome) :
    FailsWithin (PartBlamesOneOf items) (outcome.mapError DeviceFault.value) :=
  FailsWithin.asPart stays.blames

def RangeItems (hasRange : Value → Value → Prop) (value : Value) (kind : FieldKind)
    (item : Value) : Prop :=
  ∃ range, hasRange value range ∧ NetworkRange.fieldKinds.In range kind item

theorem NetworkSet.blames_read (value : Value) :
    FailsWithin (BlamesOneOf (RangeItems Value.HasElement value)) (NetworkSet.read value) := by
  unfold NetworkSet.read
  split
  · exact .ok _
  · refine .bind value.staysInRange_elements.blames fun elements areElements => ?_
    refine .bind (.mapM fun range isElement => ?_) fun ranges _ => .ok _
    refine blames_more (NetworkRange.blames_read range) fun kind item isItem => ?_
    exact ⟨range, ⟨elements, areElements, isElement⟩, isItem⟩

theorem RouteSource.staysInRange_read (value : Value) : StaysInRange (RouteSource.read value) := by
  refine .bind value.staysInRange_toText fun shown _ => ?_
  simp only
  split
  · exact .ok _
  · exact .error rfl

/-- Only a set of networks can be out of range in a condition that holds no other one. -/
theorem Condition.blames_readLeaf (value : Value) :
    FailsWithin (PartBlamesOneOf (RangeItems Condition.HasRange value))
      (Condition.readLeaf value) := by
  refine .bind (staysInRange_fieldIfFound "match_protocol" value).asPart fun source _ => ?_
  cases source with
  | some source =>
      exact .bind (RouteSource.staysInRange_read source).asPart fun _ _ => .ok _
  | none =>
      refine .bind (staysInRange_fieldIfFound "match_prefix_set" value).asPart
        fun set isFound => ?_
      cases set with
      | some set =>
          refine .bind (FailsWithin.asPart ?_) fun _ _ => .ok _
          refine blames_more (NetworkSet.blames_read set) ?_
          rintro kind item ⟨range, isRange, isItem⟩
          have hasSet := hasField_of_fieldIfFound (mapError_eq_ok_iff.1 isFound)
          exact ⟨range, .own ⟨set, hasSet, isRange⟩, isItem⟩
      | none =>
          refine .bind (staysInRange_fieldIfFound "call" value).asPart fun policy _ => ?_
          cases policy with
          | some policy => exact .bind policy.staysInRange_toText.asPart fun _ _ => .ok _
          | none => exact .bind value.staysInRange_toText.asPart fun _ _ => .error nofun

/-- What the parts inside a condition or a statement blame, the whole blames. -/
theorem blames_inner {outcome : Except DeviceFault α} {hasRange other : Value → Value → Prop}
    {value part : Value} (within : FailsWithin (PartBlamesOneOf (RangeItems other part)) outcome)
    (included : ∀ range, other part range → hasRange value range) :
    FailsWithin (PartBlamesOneOf (RangeItems hasRange value)) outcome := by
  refine within.imp fun fault blames cause same => (blames cause same).imp ?_
  rintro kind item ⟨range, isRange, isItem⟩
  exact ⟨range, included range isRange, isItem⟩

/-- While a condition is read, what is out of range stands in a range of networks in it, in a
condition of a list or in a negated one. -/
theorem Condition.blames_readWithin : ∀ room value,
    FailsWithin (PartBlamesOneOf (RangeItems Condition.HasRange value))
      (Condition.readWithin room value)
  | 0, _ => .error (partBlames_of_inRange rfl)
  | room + 1, value => by
      have readParts : ∀ name ∈ ["all", "any"], ∀ parts, value.HasField name parts →
          ∀ make : List Condition → Condition,
            FailsWithin (PartBlamesOneOf (RangeItems Condition.HasRange value)) (do
              return make (← (← parts.elements).mapM (Condition.readWithin room))) := by
        intro name isName parts hasParts make
        refine .bind parts.staysInRange_elements.asPart fun elements areElements => ?_
        have areElements := mapError_eq_ok_iff.1 areElements
        refine .bind (.mapM fun part isElement => ?_) fun _ _ => .ok _
        refine blames_inner (blames_readWithin room part) fun range => ?_
        exact .part isName ⟨parts, hasParts, elements, areElements, isElement⟩
      rw [Condition.readWithin]
      refine .bind (staysInRange_fieldIfFound "all" value).asPart fun all isFound => ?_
      cases all with
      | some parts =>
          have hasParts := hasField_of_fieldIfFound (mapError_eq_ok_iff.1 isFound)
          exact readParts "all" (by decide) parts hasParts .all
      | none =>
          refine .bind (staysInRange_fieldIfFound "any" value).asPart fun any isFound => ?_
          cases any with
          | some parts =>
              have hasParts := hasField_of_fieldIfFound (mapError_eq_ok_iff.1 isFound)
              exact readParts "any" (by decide) parts hasParts .any
          | none =>
              refine .bind (staysInRange_fieldIfFound "not" value).asPart fun not isFound => ?_
              cases not with
              | some part =>
                  have hasPart := hasField_of_fieldIfFound (mapError_eq_ok_iff.1 isFound)
                  refine .bind (blames_inner (blames_readWithin room part) ?_)
                    fun _ _ => .ok _
                  exact fun range => .negated hasPart
              | none => exact Condition.blames_readLeaf value

theorem Statement.blames_readCall (value : Value) :
    FailsWithin (PartBlamesOneOf items) (Statement.readCall value) := by
  refine .bind (staysInRange_fieldIfFound "call" value).asPart fun policy _ => ?_
  cases policy with
  | some policy => exact .bind policy.staysInRange_toText.asPart fun _ _ => .ok _
  | none => exact .bind value.staysInRange_toText.asPart fun _ _ => .error nofun

theorem Statement.blames_readAction (s : String) :
    FailsWithin (PartBlamesOneOf items) (Statement.readAction s) := by
  unfold Statement.readAction
  simp only
  split
  · exact .ok _
  · exact .error (partBlames_of_inRange rfl)

/-- While a statement is read, what is out of range stands in its guard or in a statement of one of
its blocks. -/
theorem Statement.blames_readWithin : ∀ room value,
    FailsWithin (PartBlamesOneOf (RangeItems Statement.HasRange value))
      (Statement.readWithin room value)
  | 0, _ => .error (partBlames_of_inRange rfl)
  | room + 1, value => by
      have readBlock : ∀ name ∈ ["then", "else"], ∀ entries, FieldsOf value entries →
          FailsWithin (PartBlamesOneOf (RangeItems Statement.HasRange value)) (do
            (← Statement.block name entries).mapM (Statement.readWithin room)) := by
        intro name isName entries fields
        refine .bind (Value.staysInRange_elementsOrNone _).asPart fun elements areElements => ?_
        have areElements := mapError_eq_ok_iff.1 areElements
        refine .mapM fun inner isElement => blames_inner (blames_readWithin room inner) ?_
        exact fun range => .block isName (fields.hasElementIn areElements isElement)
      unfold Statement.readWithin
      split
      · exact Statement.blames_readAction _
      · refine .bind (staysInRange_fieldIfFound "if" value).asPart fun guard isFound => ?_
        cases guard with
        | none => exact Statement.blames_readCall value
        | some guard =>
            have hasGuard := hasField_of_fieldIfFound (mapError_eq_ok_iff.1 isFound)
            refine .bind value.staysInRange_fields.asPart fun entries isMapping => ?_
            have fields := fieldsOf_fields (mapError_eq_ok_iff.1 isMapping)
            refine .bind (blames_inner (Condition.blames_readWithin _ guard) ?_) fun _ _ => ?_
            · exact fun range => .guard hasGuard
            simp only [← bind_assoc]
            refine .bind (readBlock "then" (by decide) entries fields) fun _ _ => ?_
            exact .bind (readBlock "else" (by decide) entries fields) fun _ _ => .ok _

theorem failsWithin_readFully {P : DeviceFault → Prop}
    {readWithin : Nat → Value → Except DeviceFault α} {value : Value}
    (runs : ∀ room, FailsWithin P (readWithin room value)) :
    FailsWithin P (readFully readWithin value) := by
  unfold readFully
  split
  · exact runs _
  · exact runs firstRoom

def PolicyItems (statements : Value) (kind : FieldKind) (item : Value) : Prop :=
  ∃ statement, statements.HasElement statement ∧
    RangeItems Statement.HasRange statement kind item

/-- While a policy is read, what is out of range stands in one of its statements. -/
theorem RoutingPolicy.blames_read (name : String) (value : Value) :
    FailsWithin (PartBlamesOneOf (PolicyItems value)) (RoutingPolicy.read name value) := by
  have readListed : ∀ elements : List Value, (∀ statement ∈ elements, value.HasElement statement) →
      FailsWithin (PartBlamesOneOf (PolicyItems value)) (elements.mapM Statement.read) := by
    intro elements included
    refine .mapM fun statement isElement => ?_
    have blames := failsWithin_readFully fun room => Statement.blames_readWithin room statement
    refine blames.imp fun fault blames cause same => ?_
    refine (blames cause same).imp fun kind item isItem => ?_
    exact ⟨statement, included statement isElement, isItem⟩
  rw [RoutingPolicy.read, RoutingPolicy.readListed]
  by_cases given : value.truthy = true
  · rw [if_pos given]
    refine .bind value.staysInRange_elements.asPart fun elements areElements => ?_
    have areElements := mapError_eq_ok_iff.1 areElements
    exact .bind (readListed elements fun _ isElement => ⟨elements, areElements, isElement⟩)
      fun _ _ => .ok _
  · rw [if_neg given]
    exact .ok _

end Policies

/-! ## Devices -/

section Devices

variable {α : Type} {allowed : DeviceFault → Prop}

theorem OspfArea.blames_readMember {items : FieldKind → Value → Prop}
    (interfaces : Table String Interface) (area name : Value) :
    FailsWithin (PartBlamesOneOf items) (OspfArea.readMember interfaces area name) := by
  have unknown : FailsWithin (PartBlamesOneOf items)
      (OspfArea.readMember.unknown area name) := by
    refine .bind area.staysInRange_toText.asPart fun _ _ => ?_
    exact .bind name.staysInRange_toText.asPart fun _ _ => .error nofun
  unfold OspfArea.readMember
  split
  · split
    · exact .ok _
    · exact unknown
  · split
    · exact unknown
    · exact .error (partBlames_of_inRange rfl)

theorem OspfArea.blames_read {items : FieldKind → Value → Prop}
    (interfaces : Table String Interface) {area : Value} (isItem : items .whole area)
    (members : Value) :
    FailsWithin (PartBlamesOneOf items) (OspfArea.read interfaces area members) := by
  refine .bind members.staysInRange_elementsOrNone.asPart fun names _ => ?_
  refine .bind (.mapM fun name _ => OspfArea.blames_readMember interfaces area name)
    fun _ _ => ?_
  exact .bind (blames_toInteger isItem).asPart fun _ _ => .ok _

theorem OspfProcess.blames_read (interfaces : Table String Interface) (value : Value) :
    FailsWithin (PartBlamesOneOf (OspfProcess.HasItem value))
      (OspfProcess.read interfaces value) := by
  refine .bind value.staysInRange_fields.asPart fun entries isMapping => ?_
  have fields := fieldsOf_fields (mapError_eq_ok_iff.1 isMapping)
  refine .bind (Value.staysInRange_fieldsOrNone _).asPart fun areaEntries areEntries => ?_
  have areEntries := mapError_eq_ok_iff.1 areEntries
  refine .bind (.mapM fun entry isEntry => OspfArea.blames_read interfaces
    (.area (fields.hasEntryIn areEntries isEntry)) entry.2) fun areas _ => ?_
  have readReference : FailsWithin (BlamesOneOf (OspfProcess.HasItem value))
      ((Value.fieldIn? "reference_bandwidth" entries).getD (.float 100000000.0)).toFloat :=
    within_getD (.ok _) fun field found => blames_toFloat (.reference (fields _ _ found))
  exact .bind readReference.asPart fun _ _ => .ok _

def NeighborItems (process : Value) (kind : FieldKind) (item : Value) : Prop :=
  ∃ neighbor, process.HasElementIn "neighbors" neighbor ∧
    BgpNeighbor.fieldKinds.In neighbor kind item

theorem BgpProcess.blames_read (value : Value) :
    FailsWithin (BlamesOneOf (NeighborItems value)) (BgpProcess.read value) := by
  refine .bind value.staysInRange_fields.blames fun entries isMapping => ?_
  have fields := fieldsOf_fields isMapping
  refine .bind (within_readOptional fun field _ =>
    (Address.staysInRange_read field).blames) fun routerId _ => ?_
  refine .bind (Value.staysInRange_elementsOrNone _).blames fun elements areElements => ?_
  refine .bind (.mapM fun neighbor isElement => ?_) fun _ _ => .ok _
  refine blames_more (BgpNeighbor.blames_read neighbor) fun kind item isItem => ?_
  exact ⟨neighbor, fields.hasElementIn areElements isElement, isItem⟩

theorem within_readProcess {value : Value} {readValue : Value → Except DeviceFault α}
    (within : value.truthy = true → FailsWithin allowed (readValue value)) :
    FailsWithin allowed (readProcess value readValue) := by
  rw [readProcess]
  by_cases given : value.truthy = true
  · rw [if_pos given]
    exact (within given).map some
  · rw [if_neg given]
    exact .ok none

theorem blames_readInterfaces {items : FieldKind → Value → Prop}
    {entries : List (Value × Value)}
    (included : ∀ entry ∈ entries, ∀ kind item,
      Interface.fieldKinds.In entry.2 kind item → items kind item) :
    FailsWithin (BlamesOneOf items) (readInterfaces entries) := by
  refine .bind (.mapM fun entry isEntry => ?_) fun _ _ => .ok _
  refine .bind entry.1.staysInRange_toText.blames fun name _ => ?_
  exact .bind (blames_more (Interface.blames_read name entry.2) (included entry isEntry))
    fun _ _ => .ok _

/-- What is out of range while a device is read is an item in its configuration. -/
theorem Device.blames_read (name : String) (value : Value) :
    FailsWithin (PartBlamesOneOf (Device.HasItem value)) (Device.read name value) := by
  refine .bind value.staysInRange_fieldsOrNone.asPart fun entries isMapping => ?_
  have fields := fieldsOf_fieldsOrNone (mapError_eq_ok_iff.1 isMapping)
  refine .bind (Value.staysInRange_fieldsOrNone _).asPart fun interfaceEntries areEntries => ?_
  have areEntries := mapError_eq_ok_iff.1 areEntries
  refine .bind (FailsWithin.asPart (blames_readInterfaces fun entry isEntry kind item =>
    .interface (fields.hasEntryIn areEntries isEntry))) fun interfaces _ => ?_
  refine .bind (within_readProcess fun given => ?_) fun ospf _ => ?_
  · refine (OspfProcess.blames_read interfaces _).imp fun fault blames cause same => ?_
    refine (blames cause same).imp fun kind item => ?_
    exact .ospf (fields.hasField_of_truthy given)
  refine .bind (within_readProcess fun given => ?_) fun bgp _ => ?_
  · refine FailsWithin.asPart (blames_more (BgpProcess.blames_read _) ?_)
    rintro kind item ⟨neighbor, isNeighbor, isItem⟩
    exact .neighbor (fields.hasField_of_truthy given) isNeighbor isItem
  refine .bind (Value.staysInRange_elementsOrNone _).asPart fun routeValues areElements => ?_
  have areElements := mapError_eq_ok_iff.1 areElements
  refine .bind (.mapM fun route isElement => ?_) fun staticRoutes _ => ?_
  · refine FailsWithin.asPart (blames_more (StaticRoute.blames_read route) fun kind item => ?_)
    exact .route (fields.hasElementIn areElements isElement)
  refine .bind (Value.staysInRange_toText _).asPart fun vendor _ => ?_
  refine .bind (Value.staysInRange_fieldsOrNone _).asPart fun policyEntries areEntries => ?_
  have areEntries := mapError_eq_ok_iff.1 areEntries
  refine .bind (.mapM fun entry isEntry => ?_) fun policies _ => .ok _
  refine .bind entry.1.staysInRange_toText.asPart fun policyName _ => ?_
  refine .bind ((RoutingPolicy.blames_read policyName entry.2).imp ?_) fun _ _ => .ok _
  intro fault blames cause same
  refine (blames cause same).imp ?_
  rintro kind item ⟨statement, isStatement, range, isRange, isItem⟩
  exact .policy (fields.hasEntryIn areEntries isEntry) isStatement isRange isItem

/-- A fault that escapes from a device is told by a number out of range in it or by an empty tuple.
-/
theorem Device.of_read_overflows {name : String} {value : Value} {cause : ValueFault}
    (fails : Device.read name value = .error (.value cause)) (overflows : cause.overflows = true) :
    Device.HasOverflow value cause ∨ cause = .noItem ∧ Device.LacksItem value := by
  obtain ⟨kind, item, isItem, refuses⟩ :=
    Device.blames_read name value _ fails cause rfl overflows
  cases kind with
  | whole =>
      obtain ⟨rfl, x, negative, rfl, isInfinite⟩ := Value.of_toInteger_overflows refuses overflows
      exact .inl (.infinite isItem isInfinite)
  | double =>
      obtain ⟨rfl, n, rfl, isHuge⟩ := Value.of_toFloat_overflows refuses overflows
      exact .inl (.huge isItem isHuge)
  | network =>
      obtain ⟨rfl, isEmpty⟩ := InterfaceAddress.of_ofValue?_overflows refuses overflows
      exact .inr ⟨rfl, item, isItem, isEmpty⟩

end Devices

end RoutingPlane
