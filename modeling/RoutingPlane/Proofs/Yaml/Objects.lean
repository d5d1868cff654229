import RoutingPlane.Proofs.Sequence
import RoutingPlane.Proofs.Value.Places
import RoutingPlane.Yaml.Object

/-!
What the objects of a document hold. Scalars and keys hold no other values, and the parts of a
collection are nodes of the document, since they are begun before the collection is filled.
-/

namespace RoutingPlane

/-! ## Results of computations -/

section Success

variable {ε α β σ : Type}

/-- A computation that succeeds has a result with a property. -/
def SucceedsWithin (P : α → Prop) (outcome : Except ε α) : Prop :=
  ∀ result, outcome = .ok result → P result

namespace SucceedsWithin

variable {P : α → Prop} {Q : β → Prop}

theorem ok {result : α} (holds : P result) : SucceedsWithin P (.ok result : Except ε α) := by
  rintro _ ⟨⟩
  exact holds

theorem error (fault : ε) : SucceedsWithin P (.error fault) :=
  nofun

theorem bind {first : Except ε α} {next : α → Except ε β} (firstWithin : SucceedsWithin P first)
    (nextWithin : ∀ result, P result → SucceedsWithin Q (next result)) :
    SucceedsWithin Q (first >>= next) := by
  intro result succeeds
  obtain ⟨middle, isMiddle, isResult⟩ := bind_eq_ok_iff.1 succeeds
  exact nextWithin middle (firstWithin middle isMiddle) result isResult

theorem bindAny {first : Except ε α} {next : α → Except ε β}
    (nextWithin : ∀ result, first = .ok result → SucceedsWithin Q (next result)) :
    SucceedsWithin Q (first >>= next) :=
  bind (P := fun result => first = .ok result) (fun _ isResult => isResult) nextWithin

theorem map {outcome : Except ε α} {make : α → β} (holds : ∀ result, Q (make result)) :
    SucceedsWithin Q (make <$> outcome) := by
  cases outcome with
  | error fault => exact error fault
  | ok result => exact ok (holds result)

/-- What holds at the start of a run and is kept by each step holds at its end. -/
theorem foldlM {I : σ → Prop} {step : σ → α → Except ε σ} {items : List α} {start : σ}
    (atStart : I start)
    (kept : ∀ item ∈ items, ∀ state, I state → SucceedsWithin I (step state item)) :
    SucceedsWithin I (items.foldlM step start) := by
  induction items generalizing start with
  | nil => exact .ok atStart
  | cons item rest inductionHypothesis =>
      rw [List.foldlM_cons]
      rw [List.forall_mem_cons] at kept
      exact .bind (kept.1 start atStart) fun _ holds => inductionHypothesis holds kept.2

end SucceedsWithin

end Success

namespace Value

section Entries

variable {α : Type} {P : Value → Prop} {Q : α → Prop} {entries : List (Value × α)}

theorem forall_mem_putEntry {key : Value} {value : α} (isKey : P key) (isValue : Q value)
    (hold : ∀ entry ∈ entries, P entry.1 ∧ Q entry.2) :
    ∀ entry ∈ putEntry key value entries, P entry.1 ∧ Q entry.2 := by
  induction entries with
  | nil => exact List.forall_mem_singleton.2 ⟨isKey, isValue⟩
  | cons first rest inductionHypothesis =>
      rw [List.forall_mem_cons] at hold
      rw [putEntry]
      split
      · exact List.forall_mem_cons.2 ⟨⟨hold.1.1, isValue⟩, hold.2⟩
      · exact List.forall_mem_cons.2 ⟨hold.1, inductionHypothesis hold.2⟩

theorem forall_mem_distinctEntries (hold : ∀ entry ∈ entries, P entry.1 ∧ Q entry.2) :
    ∀ entry ∈ distinctEntries entries, P entry.1 ∧ Q entry.2 := by
  have kept : ∀ written : List (Value × α), (∀ entry ∈ written, P entry.1 ∧ Q entry.2) →
      ∀ entry ∈ entries, ∀ other ∈ putEntry entry.1 entry.2 written, P other.1 ∧ Q other.2 :=
    fun _ areWritten entry isEntry =>
      forall_mem_putEntry (hold entry isEntry).1 (hold entry isEntry).2 areWritten
  exact List.foldlRecOn entries _ (List.forall_mem_nil _) kept

end Entries

end Value

namespace Yaml

/-! ## Scalars -/

theorem DocumentFault.lift_eq_ok_iff {α : Type} {found : Option α} {result : α} :
    (liftM found : Except DocumentFault α) = .ok result ↔ found = some result := by
  cases found with
  | none => exact ⟨nofun, nofun⟩
  | some given => exact ⟨fun same => congrArg some (Except.ok.inj same), fun same =>
      congrArg Except.ok (Option.some.inj same)⟩

namespace Scalar

variable {occurrence : Nat} {text : String}

theorem isAtom_of_timestamp {timestamp : Timestamp} {value : Value}
    (isValue : timestamp.value? = some value) : value.isAtom = true := by
  obtain ⟨date, _, isValue⟩ := Option.bind_eq_some_iff.1 isValue
  split at isValue
  · cases isValue
    rfl
  · obtain ⟨moment, _, isValue⟩ := Option.bind_eq_some_iff.1 isValue
    cases isValue
    rfl

theorem toTime_within : SucceedsWithin (fun value => value.isAtom = true) (toTime text) := by
  unfold toTime
  split
  · exact .error _
  · split
    · rename_i isValue
      exact .ok (isAtom_of_timestamp isValue)
    · exact .error _

theorem toDecimal_within :
    SucceedsWithin (fun value => value.isAtom = true) (toDecimal occurrence text) := by
  have ofFloat : ∀ x, (Value.ofFloat (occurrence + 1) x).isAtom = true := by
    intro x
    unfold Value.ofFloat
    split <;> rfl
  refine .bindAny fun ⟨negative, size⟩ _ => ?_
  dsimp only
  split
  · exact .ok rfl
  · split
    · exact .ok (ofFloat _)
    · exact .bindAny fun _ _ => .ok (ofFloat _)

/-- The value of a scalar holds no others. -/
theorem value_within (occurrence : Nat) (tag : Tag) (text : String) :
    SucceedsWithin (fun value => value.isAtom = true) (value occurrence tag text) := by
  cases tag with
  | null | text => exact .ok rfl
  | bool | int | bytes => exact .map fun _ => rfl
  | float => exact toDecimal_within
  | time => exact toTime_within
  | _ => exact .error _

end Scalar

/-! ## Nodes -/

namespace Nodes

variable {nodes : Nodes} {size : Nat}

theorem size_setContent (nodes : Nodes) (number : Nat) (content : Content) :
    (nodes.setContent number content).size = nodes.size :=
  Array.size_modify

theorem size_settleKeys (nodes : Nodes) (entries : List (Nat × Nat)) :
    (nodes.settleKeys entries).size = nodes.size := by
  refine List.foldlRecOn (motive := fun settled : Nodes => settled.size = nodes.size)
    entries _ rfl fun settled sameSize entry _ => ?_
  split
  · exact Array.size_modify.trans sameSize
  · exact sameSize

theorem handOver_within {prepare : Nodes → Nat → Except DocumentFault Nodes}
    (prepares : ∀ nodes number, SucceedsWithin (fun after => after.size = nodes.size)
      (prepare nodes number)) (nodes : Nodes) (number : Nat) :
    SucceedsWithin (fun handed => handed.1.size = nodes.size) (handOver prepare nodes number) := by
  have handsOverOne : ∀ (nodes : Nodes) (number : Nat),
      SucceedsWithin (fun handed => handed.1.size = nodes.size)
        (do
          let _ ← nodes.entries? number
          let prepared ← prepare nodes number
          return (prepared, ← prepared.entries? number) :
            Except DocumentFault (Nodes × List (Nat × Nat))) := by
    intro nodes number
    refine .bindAny fun _ _ => .bind (prepares nodes number) fun prepared sameSize => ?_
    exact .bindAny fun entries _ => .ok sameSize
  unfold handOver
  dsimp only
  split
  · exact handsOverOne nodes number
  · refine .foldlM rfl fun item _ handed sameSize => ?_
    refine .bind (handsOverOne handed.1 item) fun prepared preparedSize => .ok ?_
    exact preparedSize.trans sameSize

/-- Mappings that take over entries leave the nodes as many as they were. -/
theorem takeOver_within : ∀ (steps : Nat) (nodes : Nodes) (number : Nat) (taken : List (Nat × Nat)),
    SucceedsWithin (fun after => after.size = nodes.size) (takeOver steps nodes number taken)
  | 0, _, _, _ => .ok rfl
  | steps + 1, nodes, number, taken => by
      refine .bindAny fun entries _ => ?_
      split
      · refine .ok ?_
        split
        · exact size_settleKeys nodes entries
        · rw [size_setContent, size_settleKeys]
      · rename_i before value behind _
        have handed := handOver_within (fun nodes number => takeOver_within steps nodes number [])
          (nodes.setContent number (.mapping (before ++ behind))) value
        refine .bind handed fun handed sameSize => ?_
        rw [size_setContent] at sameSize
        intro after isAfter
        exact (takeOver_within steps _ _ _ after isAfter).trans sameSize

end Nodes

/-! ## Objects -/

/-- An object of one of some nodes: what it holds itself is decoded, and its parts are among the
nodes. -/
def Object.IsSound (size : Nat) : Object → Prop
  | scalar value => value.isAtom = true
  | list items => ∀ item ∈ items, item < size
  | pairs entries => ∀ entry ∈ entries, entry.1 < size ∧ entry.2 < size
  | set members => ∀ member ∈ members, member.isAtom = true
  | map entries => ∀ entry ∈ entries, entry.1.isAtom = true ∧ entry.2 < size

/-- All objects that are begun are sound as those of the nodes of a document. -/
def Object.AreSound (objects : Array (Option Object)) : Prop :=
  ∀ (number : Nat) (object : Object), objects[number]?.join = some object →
    object.IsSound objects.size

theorem Object.isSound_of_begun? {tag : Tag} {object : Object} {size : Nat}
    (isBegun : begun? tag = some object) : object.IsSound size := by
  cases tag <;> cases isBegun <;> exact List.forall_mem_nil _

namespace Construction

theorem scalarOf_within (nodes : Nodes) (number : Nat) (node : Node) :
    SucceedsWithin (fun value => value.isAtom = true) (scalarOf nodes number node) := by
  refine .bindAny fun text _ => ?_
  split
  · exact .error _
  · exact Scalar.value_within number _ text

theorem object?_put (construction : Construction) (number other : Nat) (object : Object) :
    (construction.put number object).object? other =
      if number = other ∧ other < construction.objects.size then some object
      else construction.object? other := by
  unfold object? put
  rw [Array.getElem?_setIfInBounds]
  by_cases isOther : number = other
  · by_cases inRange : other < construction.objects.size
    · simp [isOther, inRange]
    · simp [isOther, inRange]
  · simp [isOther]

/-- There are as many objects as nodes, and those that are begun are sound. -/
structure IsSound (size : Nat) (construction : Construction) : Prop where
  nodeCount : construction.nodes.size = size
  objectCount : construction.objects.size = size
  objects : ∀ number object, construction.object? number = some object → object.IsSound size

namespace IsSound

variable {size number : Nat} {construction : Construction}

theorem lt_of_object? (sound : construction.IsSound size) {object : Object}
    (isObject : construction.object? number = some object) : number < size := by
  have found := Option.join_eq_some_iff.1 isObject
  exact sound.objectCount ▸ (Array.getElem?_eq_some_iff.1 found).1

theorem put (sound : construction.IsSound size) {object : Object} (isSound : object.IsSound size) :
    (construction.put number object).IsSound size where
  nodeCount := sound.nodeCount
  objectCount := Array.size_setIfInBounds.trans sound.objectCount
  objects := by
    intro other found isFound
    rw [object?_put] at isFound
    split at isFound
    · cases isFound
      exact isSound
    · exact sound.objects other found isFound

/-- A node whose object is begun is one of the nodes. -/
theorem begun_within (sound : construction.IsSound size) :
    SucceedsWithin (fun after => after.IsSound size ∧ number < size)
      (construction.begun number) := by
  unfold begun
  split
  · rename_i isBegun
    obtain ⟨object, isObject⟩ := Option.isSome_iff_exists.1 isBegun
    exact .ok ⟨sound, sound.lt_of_object? isObject⟩
  · refine .bindAny fun node isNode => ?_
    have isNode := DocumentFault.lift_eq_ok_iff.1 isNode
    have inRange : number < size := sound.nodeCount ▸ (Array.getElem?_eq_some_iff.1 isNode).1
    split
    · refine .bind (scalarOf_within construction.nodes number node) fun value isAtom => ?_
      exact .ok ⟨sound.put isAtom, inRange⟩
    · refine .bindAny fun object isObject => .ok ⟨?_, inRange⟩
      have isObject := DocumentFault.lift_eq_ok_iff.1 isObject
      have putSound : (construction.put number object).IsSound size :=
        sound.put (Object.isSound_of_begun? isObject)
      exact ⟨putSound.nodeCount, putSound.objectCount, putSound.objects⟩

theorem isAtom_of_keyOf? (sound : construction.IsSound size) {key : Value}
    (isKey : construction.keyOf? number = some key) : key.isAtom = true := by
  unfold keyOf? at isKey
  split at isKey
  · rename_i value isObject
    cases isKey
    exact sound.objects number _ isObject
  · cases isKey

theorem begunEntry_within (sound : construction.IsSound size) (entry : Nat × Nat) :
    SucceedsWithin
      (fun begun => begun.1.IsSound size ∧ begun.2.isAtom = true ∧ entry.2 < size)
      (construction.begunEntry entry) := by
  refine .bind sound.begun_within fun keyed ⟨keyedSound, _⟩ => ?_
  refine .bindAny fun key isKey => ?_
  have isAtom := keyedSound.isAtom_of_keyOf? (DocumentFault.lift_eq_ok_iff.1 isKey)
  exact .bind keyedSound.begun_within fun after ⟨afterSound, inRange⟩ =>
    .ok ⟨afterSound, isAtom, inRange⟩

theorem begunEntries_within (sound : construction.IsSound size) :
    SucceedsWithin
      (fun begun => begun.1.IsSound size ∧
        ∀ entry ∈ begun.2, entry.1.isAtom = true ∧ entry.2 < size)
      (construction.begunEntries number) := by
  refine .bind (Nodes.takeOver_within _ _ _ _) fun nodes sameSize => ?_
  refine .bindAny fun entries _ => ?_
  have start : ({ construction with nodes } : Construction).IsSound size :=
    ⟨sameSize.trans sound.nodeCount, sound.objectCount, sound.objects⟩
  refine .bind (P := fun begun : Construction × List (Value × Nat) => begun.1.IsSound size ∧
    ∀ entry ∈ begun.2, entry.1.isAtom = true ∧ entry.2 < size) ?_ ?_
  · refine .foldlM ⟨start, List.forall_mem_nil _⟩ fun entry _ begun ⟨begunSound, areBegun⟩ => ?_
    refine .bind (begunSound.begunEntry_within entry) fun after ⟨afterSound, isBegun⟩ => .ok ?_
    exact ⟨afterSound, List.forall_mem_cons.2 ⟨isBegun, areBegun⟩⟩
  · intro begun ⟨begunSound, areBegun⟩
    have inOrder : ∀ entry ∈ begun.2.reverse, entry.1.isAtom = true ∧ entry.2 < size :=
      fun entry isEntry => areBegun entry (List.mem_reverse.1 isEntry)
    exact .ok ⟨begunSound, Value.forall_mem_distinctEntries (P := fun key => key.isAtom = true)
      (Q := fun value => value < size) inOrder⟩

theorem begunPairs_within (sound : construction.IsSound size) (items : List Nat) :
    SucceedsWithin
      (fun begun => begun.1.IsSound size ∧ ∀ entry ∈ begun.2, entry.1 < size ∧ entry.2 < size)
      (construction.begunPairs items) := by
  refine .bind (P := fun begun : Construction × List (Nat × Nat) => begun.1.IsSound size ∧
    ∀ entry ∈ begun.2, entry.1 < size ∧ entry.2 < size) ?_ ?_
  · refine .foldlM ⟨sound, List.forall_mem_nil _⟩ fun item _ begun ⟨begunSound, areBegun⟩ => ?_
    refine .bindAny fun entries _ => ?_
    split
    · refine .bind begunSound.begun_within fun keyed ⟨keyedSound, keyInRange⟩ => ?_
      refine .bind keyedSound.begun_within fun after ⟨afterSound, inRange⟩ => .ok ?_
      exact ⟨afterSound, List.forall_mem_cons.2 ⟨⟨keyInRange, inRange⟩, areBegun⟩⟩
    · exact .error _
  · intro begun ⟨begunSound, areBegun⟩
    exact .ok ⟨begunSound, fun entry isEntry => areBegun entry (List.mem_reverse.1 isEntry)⟩

theorem foldlM_begun_within {items : List Nat} (sound : construction.IsSound size) :
    SucceedsWithin (fun after => after.IsSound size ∧ ∀ item ∈ items, item < size)
      (items.foldlM Construction.begun construction) := by
  induction items generalizing construction with
  | nil => exact .ok ⟨sound, List.forall_mem_nil _⟩
  | cons item rest inductionHypothesis =>
      rw [List.foldlM_cons]
      refine .bind sound.begun_within fun middle ⟨middleSound, inRange⟩ => ?_
      intro after isAfter
      obtain ⟨afterSound, restInRange⟩ := inductionHypothesis middleSound after isAfter
      exact ⟨afterSound, List.forall_mem_cons.2 ⟨inRange, restInRange⟩⟩

/-- A collection is filled with nodes that are begun. -/
theorem filled_within (sound : construction.IsSound size) (tag : Tag) :
    SucceedsWithin (IsSound size) (construction.filled number tag) := by
  cases tag with
  | list =>
      refine .bindAny fun items _ => ?_
      refine .bind sound.foldlM_begun_within fun after ⟨afterSound, inRange⟩ => .ok ?_
      exact afterSound.put inRange
  | orderedMap | pairs =>
      refine .bindAny fun items _ => ?_
      refine .bind (sound.begunPairs_within items) fun begun ⟨begunSound, inRange⟩ => .ok ?_
      exact begunSound.put inRange
  | set =>
      refine .bind sound.begunEntries_within fun begun ⟨begunSound, areBegun⟩ => .ok ?_
      have areAtoms : ∀ member ∈ begun.2.map Prod.fst, member.isAtom = true :=
        List.forall_mem_map.2 fun entry isEntry => (areBegun entry isEntry).1
      exact begunSound.put areAtoms
  | map =>
      refine .bind sound.begunEntries_within fun begun ⟨begunSound, areBegun⟩ => .ok ?_
      exact begunSound.put areBegun
  | _ => exact .ok sound

theorem filledFrom_within : ∀ (count place : Nat) {construction : Construction},
    construction.IsSound size → SucceedsWithin (IsSound size) (filledFrom count place construction)
  | 0, _, _, sound => .ok sound
  | count + 1, place, construction, sound => by
      unfold filledFrom
      split
      · exact .ok sound
      · refine .bindAny fun node _ => ?_
        refine .bind (sound.filled_within node.tag) fun after afterSound => ?_
        exact filledFrom_within count (place + 1) afterSound

theorem ofNodes (nodes : Nodes) : (Construction.ofNodes nodes).IsSound nodes.size where
  nodeCount := rfl
  objectCount := Array.size_replicate
  objects := by
    intro number object isObject
    have isFound := Option.join_eq_some_iff.1 isObject
    unfold Construction.ofNodes at isFound
    rw [Array.getElem?_replicate] at isFound
    split at isFound <;> cases isFound

end IsSound

end Construction

/-- The objects of a document are sound. -/
theorem Composition.objects_within (composition : Composition) :
    SucceedsWithin Object.AreSound composition.objects := by
  have start := Construction.IsSound.ofNodes composition.nodes
  refine .bind start.begun_within fun begun ⟨begunSound, _⟩ => ?_
  refine .bind (begunSound.filledFrom_within _ 0) fun finished finishedSound => .ok ?_
  intro number object isObject
  rw [finishedSound.objectCount]
  exact finishedSound.objects number object isObject

end Yaml

end RoutingPlane
