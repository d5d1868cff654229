import RoutingPlane.Proofs.Yaml.Objects
import RoutingPlane.Snapshot.File

/-!
The values of documents are decoded: of all collections only the pairs in a list are tuples. This
holds of collections that have a value of their own, and of those that form a knot.
-/

namespace RoutingPlane

/-! ## Computations with a state -/

section States

variable {σ α β : Type}

/-- A computation keeps what holds of the state, and its result has a property. -/
def Keeps (I : σ → Prop) (P : α → Prop) (run : StateM σ α) : Prop :=
  ∀ state, I state → ∀ result after, run.run state = (result, after) → I after ∧ P result

namespace Keeps

variable {I : σ → Prop} {P : α → Prop} {Q : β → Prop}

theorem pure {result : α} (holds : P result) : Keeps I P (pure result) := by
  rintro state atStart _ _ ⟨⟩
  exact ⟨atStart, holds⟩

theorem bind {run : StateM σ α} {next : α → StateM σ β} (runKeeps : Keeps I P run)
    (nextKeeps : ∀ result, P result → Keeps I Q (next result)) : Keeps I Q (run >>= next) := by
  intro state atStart result after ends
  obtain ⟨kept, holds⟩ := runKeeps state atStart _ _ rfl
  exact nextKeeps _ holds _ kept result after ends

theorem get : Keeps I I (get : StateM σ σ) := by
  rintro state atStart _ _ ⟨⟩
  exact ⟨atStart, atStart⟩

theorem modify {change : σ → σ} (kept : ∀ state, I state → I (change state)) :
    Keeps I (fun _ => True) (modify change : StateM σ PUnit) := by
  rintro state atStart _ _ ⟨⟩
  exact ⟨kept state atStart, trivial⟩

theorem mapM {run : α → StateM σ β} {items : List α} (runs : ∀ item ∈ items, Keeps I Q (run item)) :
    Keeps I (fun results => ∀ result ∈ results, Q result) (items.mapM run) := by
  induction items with
  | nil => exact .pure (List.forall_mem_nil _)
  | cons item rest inductionHypothesis =>
      rw [List.forall_mem_cons] at runs
      rw [List.mapM_cons]
      refine .bind runs.1 fun first holds => ?_
      refine .bind (inductionHypothesis runs.2) fun others othersHold => .pure ?_
      exact List.forall_mem_cons.2 ⟨holds, othersHold⟩

end Keeps

end States

namespace Value

/-- A decoded value that can be an entry, and no place inside a knot. -/
def IsFree (value : Value) : Prop :=
  value.IsDecodedEntry ∧ ∀ place, value ≠ .again place

theorem isFree_of_isAtom {value : Value} (isAtom : value.isAtom = true) : value.IsFree := by
  refine ⟨isDecodedEntry_of_isAtom isAtom, ?_⟩
  rintro place rfl
  cases isAtom

theorem isFree_list {items : List Value} (areDecoded : ∀ item ∈ items, item.IsDecoded) :
    (list items).IsFree :=
  ⟨isDecodedEntry_list_iff.2 areDecoded, nofun⟩

theorem isFree_map {entries : List (Value × Value)}
    (areDecoded : ∀ entry ∈ entries, entry.1.IsDecoded ∧ entry.2.IsDecodedEntry) :
    (map entries).IsFree :=
  ⟨isDecodedEntry_map_iff.2 areDecoded, nofun⟩

theorem isFree_set {members : List Value} (areAtoms : ∀ member ∈ members, member.isAtom = true) :
    (set members).IsFree := by
  refine ⟨⟨isDecoded_of_elements nofun ?_, nofun⟩, nofun⟩
  rintro item ⟨elements, areElements, isElement⟩
  cases areElements
  exact (isDecodedEntry_of_isAtom (areAtoms item isElement)).1

theorem isDecoded_tuple {items : List Value} (areDecoded : ∀ item ∈ items, item.IsDecoded) :
    (tuple items).IsDecoded := by
  refine isDecoded_of_elements nofun ?_
  rintro item ⟨elements, areElements, isElement⟩
  cases areElements
  exact areDecoded item isElement

theorem isDecodedEntry_again (place : Nat) : (again place).IsDecodedEntry := by
  refine ⟨isDecoded_of_elements nofun ?_, nofun⟩
  rintro item ⟨elements, areElements, _⟩
  cases areElements

end Value

namespace Yaml

/-! ## Values of their own -/

namespace Standing

/-- All values that are settled are free. -/
def AreFree (standings : Array Standing) : Prop :=
  ∀ (number : Nat) (value : Value), standings[number]? = some (free value) → value.IsFree

theorem AreFree.set {standings : Array Standing} (areFree : AreFree standings) {standing : Standing}
    (isFree : ∀ value, standing = free value → value.IsFree) (number : Nat) :
    AreFree (standings.setIfInBounds number standing) := by
  intro other value isSettled
  rw [Array.getElem?_setIfInBounds] at isSettled
  split at isSettled
  · split at isSettled
    · exact isFree value (Option.some.inj isSettled)
    · cases isSettled
  · exact areFree other value isSettled

theorem mem_of_mapM_id {parts : List (Option Value)} {values : List Value}
    (areValues : parts.mapM id = some values) : ∀ value ∈ values, some value ∈ parts := by
  induction parts generalizing values with
  | nil =>
      cases areValues
      exact List.forall_mem_nil _
  | cons part rest inductionHypothesis =>
      rw [List.mapM_cons] at areValues
      obtain ⟨first, isFirst, areValues⟩ := Option.bind_eq_some_iff.1 areValues
      obtain ⟨others, areOthers, areValues⟩ := Option.bind_eq_some_iff.1 areValues
      cases areValues
      refine List.forall_mem_cons.2 ⟨List.mem_cons.2 (.inl isFirst.symm), fun value isOther => ?_⟩
      exact List.mem_cons_of_mem _ (inductionHypothesis areOthers value isOther)

/-- A property of what is found, if it is found. -/
def IfFound (P : Value → Prop) (found : Option Value) : Prop :=
  ∀ value, found = some value → P value

variable {P Q : Value → Prop}

theorem ofParts_within {parts : List (Option Value)} {collection : List Value → Value}
    (hold : ∀ part ∈ parts, IfFound P part)
    (collected : ∀ values, (∀ value ∈ values, P value) → Q (collection values)) :
    IfFound Q (ofParts parts collection) := by
  intro value isCollected
  obtain ⟨values, areValues, rfl⟩ := Option.map_eq_some_iff.1 isCollected
  refine collected values fun value isValue => ?_
  exact hold (some value) (mem_of_mapM_id areValues value isValue) value rfl

theorem keeps_found {value : Value} (holds : P value) :
    Keeps AreFree (IfFound P) (pure (some value)) := by
  refine .pure ?_
  rintro _ ⟨⟩
  exact holds

theorem AreFree.of_getD {standings : Array Standing} (areFree : AreFree standings) {number : Nat}
    {value : Value} (isSettled : standings[number]?.getD unknown = free value) : value.IsFree := by
  cases found : standings[number]? with
  | none =>
      rw [found] at isSettled
      cases isSettled
  | some standing =>
      rw [found] at isSettled
      exact areFree number value (found.trans (congrArg some isSettled))

theorem ofObject_keeps {inner : Nat → StateM (Array Standing) (Option Value)} {object : Object}
    {size : Nat} (sound : object.IsSound size)
    (settles : ∀ number, Keeps AreFree (IfFound Value.IsFree) (inner number)) :
    Keeps AreFree (IfFound Value.IsFree) (ofObject inner (some object)) := by
  cases object with
  | scalar value => exact keeps_found (Value.isFree_of_isAtom sound)
  | set members => exact keeps_found (Value.isFree_set sound)
  | list items =>
      refine .bind (.mapM fun item _ => settles item) fun parts partsFree => .pure ?_
      refine ofParts_within partsFree fun values areFree => ?_
      exact Value.isFree_list fun value isValue => (areFree value isValue).1.1
  | pairs entries =>
      have settlePair : ∀ entry ∈ entries, Keeps AreFree (IfFound Value.IsDecoded)
          (do return ofParts [← inner entry.1, ← inner entry.2] .tuple) := by
        intro entry _
        refine .bind (settles entry.1) fun key keyFree => ?_
        refine .bind (settles entry.2) fun value valueFree => .pure ?_
        have bothFree : ∀ part ∈ [key, value], IfFound Value.IsFree part :=
          List.forall_mem_cons.2 ⟨keyFree, List.forall_mem_singleton.2 valueFree⟩
        refine ofParts_within bothFree fun values areFree => ?_
        exact Value.isDecoded_tuple fun value isValue => (areFree value isValue).1.1
      refine .bind (.mapM settlePair) fun tuples areDecoded => .pure ?_
      exact ofParts_within areDecoded fun values => Value.isFree_list
  | map entries =>
      refine .bind (.mapM fun entry _ => settles entry.2) fun parts partsFree => .pure ?_
      refine ofParts_within partsFree fun values areFree => Value.isFree_map fun entry isEntry => ?_
      obtain ⟨isKey, isValue⟩ := List.of_mem_zip isEntry
      obtain ⟨given, isGiven, sameKey⟩ := List.mem_map.1 isKey
      have keyAtom : entry.1.isAtom = true := sameKey ▸ (sound given isGiven).1
      exact ⟨(Value.isDecodedEntry_of_isAtom keyAtom).1, (areFree entry.2 isValue).1⟩

theorem store_keeps {found : Option Value} (isFree : IfFound Value.IsFree found) (number : Nat) :
    Keeps AreFree (IfFound Value.IsFree)
      (do
        if let some value := found then
          modify fun standings => standings.setIfInBounds number (free value)
        return found : StateM (Array Standing) (Option Value)) := by
  cases found with
  | none => exact .pure isFree
  | some value =>
      have setFree : ∀ state, AreFree state →
          AreFree (state.setIfInBounds number (free value)) := by
        intro state stateFree
        refine stateFree.set ?_ number
        rintro _ ⟨⟩
        exact isFree value rfl
      exact .bind (.modify setFree) fun _ _ => .pure isFree

/-- A node that does not lead back has a free value. -/
theorem settle_keeps {objects : Array (Option Object)} (sound : Object.AreSound objects) :
    ∀ nesting number, Keeps AreFree (IfFound Value.IsFree) (settle objects nesting number)
  | 0, _ => .pure nofun
  | nesting + 1, number => by
      refine .bind .get fun standings areFree => ?_
      split
      · rename_i value isSettled
        exact keeps_found (areFree.of_getD isSettled)
      · exact .pure nofun
      · have knots : ∀ state, AreFree state → AreFree (state.setIfInBounds number knotted) :=
          fun _ stateFree => stateFree.set (fun _ isFree => by cases isFree) number
        refine .bind (.modify knots) fun _ _ => ?_
        refine .bind ?_ fun found isFree => store_keeps isFree number
        cases isObject : objects[number]?.join with
        | none => exact keeps_found (Value.isFree_of_isAtom rfl)
        | some object =>
            exact ofObject_keeps (sound number object isObject) (settle_keeps sound nesting)

end Standing

/-! ## Knots -/

namespace Knot

/-- A part of a knot: its items are decoded, and its entries lead to nodes of the document only,
among which there are no pairs. -/
def IsSoundPart (size : Nat) : Value → Prop
  | .list items => ∀ item ∈ items, item.IsDecoded
  | .tuple items => ∀ item ∈ items, item.IsDecoded
  | .map entries => ∀ entry ∈ entries, entry.1.IsDecoded ∧ entry.2.IsDecodedEntry ∧
      ∀ place, entry.2 = .again place → place < size
  | _ => True

/-- The parts of a knot are sound, and the pairs stand behind those of the nodes. -/
structure IsSound (size : Nat) (parts : Array Value) : Prop where
  nodeCount : size ≤ parts.size
  soundPart : ∀ (place : Nat) (part : Value), parts[place]? = some part → IsSoundPart size part
  noPair : ∀ place < size, ∀ items, parts[place]? ≠ some (.tuple items)

variable {size : Nat} {parts : Array Value} {standings : Array Standing}

theorem IsSound.replicate (size : Nat) : IsSound size (Array.replicate size .null) where
  nodeCount := Nat.le_of_eq Array.size_replicate.symm
  soundPart := by
    intro place part isPart
    rw [Array.getElem?_replicate] at isPart
    split at isPart <;> cases isPart
    trivial
  noPair := by
    intro place _ items isPart
    rw [Array.getElem?_replicate] at isPart
    split at isPart <;> cases isPart

theorem IsSound.set (sound : IsSound size parts) {part : Value} (isSound : IsSoundPart size part)
    (noPair : ∀ items, part ≠ .tuple items) (number : Nat) :
    IsSound size (parts.setIfInBounds number part) where
  nodeCount := Nat.le_trans sound.nodeCount (Nat.le_of_eq Array.size_setIfInBounds.symm)
  soundPart := by
    intro place found isPart
    rw [Array.getElem?_setIfInBounds] at isPart
    split at isPart
    · split at isPart <;> cases isPart
      exact isSound
    · exact sound.soundPart place found isPart
  noPair := by
    intro place inRange items isPart
    rw [Array.getElem?_setIfInBounds] at isPart
    split at isPart
    · split at isPart
      · exact noPair items (Option.some.inj isPart)
      · cases isPart
    · exact sound.noPair place inRange items isPart

theorem IsSound.setList (sound : IsSound size parts) {items : List Value}
    (areDecoded : ∀ item ∈ items, item.IsDecoded) (number : Nat) :
    IsSound size (parts.setIfInBounds number (.list items)) := by
  have isSound : IsSoundPart size (.list items) := areDecoded
  exact sound.set isSound (fun _ isPair => by cases isPair) number

theorem IsSound.push (sound : IsSound size parts) {items : List Value}
    (areDecoded : ∀ item ∈ items, item.IsDecoded) : IsSound size (parts.push (.tuple items)) where
  nodeCount := Nat.le_trans sound.nodeCount (Array.size_push _ ▸ Nat.le_succ _)
  soundPart := by
    intro place found isPart
    rw [Array.getElem?_push] at isPart
    split at isPart
    · cases isPart
      exact areDecoded
    · exact sound.soundPart place found isPart
  noPair := by
    intro place inRange items isPart
    rw [Array.getElem?_push, if_neg (Nat.ne_of_lt (Nat.lt_of_lt_of_le inRange sound.nodeCount))]
      at isPart
    exact sound.noPair place inRange items isPart

theorem part_within (areFree : Standing.AreFree standings) (number : Nat) :
    (part standings number).IsDecodedEntry ∧
      ∀ place, part standings number = .again place → place = number := by
  unfold part
  split
  · rename_i value isSettled
    obtain ⟨isDecoded, noPlace⟩ := areFree number value isSettled
    exact ⟨isDecoded, fun place isPlace => absurd isPlace (noPlace place)⟩
  · refine ⟨Value.isDecodedEntry_again number, ?_⟩
    rintro _ ⟨⟩
    rfl

theorem pair_within (areFree : Standing.AreFree standings) (sound : IsSound size parts)
    (entry : Nat × Nat) :
    IsSound size (pair standings parts entry).1 ∧ (pair standings parts entry).2.IsDecoded := by
  have areDecoded : ∀ item ∈ [part standings entry.1, part standings entry.2], item.IsDecoded :=
    List.forall_mem_cons.2 ⟨(part_within areFree entry.1).1.1,
      List.forall_mem_singleton.2 (part_within areFree entry.2).1.1⟩
  unfold pair
  dsimp only
  split
  · exact ⟨sound, Value.isDecoded_tuple areDecoded⟩
  · exact ⟨sound.push areDecoded, (Value.isDecodedEntry_again _).1⟩

theorem pairs_within (areFree : Standing.AreFree standings) (sound : IsSound size parts)
    (entries : List (Nat × Nat)) :
    let made : Array Value × List Value := entries.foldl (fun made entry =>
      let (grown, item) := pair standings made.1 entry
      (grown, item :: made.2)) (parts, [])
    IsSound size made.1 ∧ ∀ item ∈ made.2, item.IsDecoded := by
  refine List.foldlRecOn (motive := fun made : Array Value × List Value =>
    IsSound size made.1 ∧ ∀ item ∈ made.2, item.IsDecoded) entries _
    ⟨sound, List.forall_mem_nil _⟩ fun made ⟨madeSound, areDecoded⟩ entry _ => ?_
  obtain ⟨grownSound, isDecoded⟩ := pair_within areFree madeSound entry
  exact ⟨grownSound, List.forall_mem_cons.2 ⟨isDecoded, areDecoded⟩⟩

theorem enter_within {objects : Array (Option Object)} (objectsSound : Object.AreSound objects)
    (areFree : Standing.AreFree standings) (sound : IsSound objects.size parts) (number : Nat) :
    IsSound objects.size (enter objects standings parts number) := by
  unfold enter
  split
  · exact sound.setList (List.forall_mem_map.2 fun item _ => (part_within areFree item).1.1) number
  · rename_i entries _ isObject
    have inRange : ∀ entry ∈ entries, entry.1.isAtom = true ∧ entry.2 < objects.size :=
      objectsSound number _ isObject
    have isSound : IsSoundPart objects.size
        (.map (entries.map fun entry => (entry.1, part standings entry.2))) := by
      refine List.forall_mem_map.2 fun entry isEntry => ?_
      obtain ⟨isDecoded, noOther⟩ := part_within areFree entry.2
      refine ⟨(Value.isDecodedEntry_of_isAtom (inRange entry isEntry).1).1, isDecoded, ?_⟩
      intro place isPlace
      exact noOther place isPlace ▸ (inRange entry isEntry).2
    exact sound.set isSound (fun _ isPair => by cases isPair) number
  · obtain ⟨grownSound, areDecoded⟩ := pairs_within areFree sound _
    exact grownSound.setList (fun item isItem => areDecoded item (List.mem_reverse.1 isItem)) number
  · exact sound

theorem parts_within {objects : Array (Option Object)} (objectsSound : Object.AreSound objects)
    (areFree : Standing.AreFree standings) :
    IsSound objects.size (Knot.parts objects standings) :=
  List.foldlRecOn (List.range objects.size) _ (.replicate objects.size)
    fun _ sound number _ => enter_within objectsSound areFree sound number

/-- A collection of the knot, or a decoded value. -/
def IsInside (parts : Array Value) (value : Value) : Prop :=
  (∃ place, value = .knot parts place) ∨ value.IsDecoded

theorem isInside_tied {item : Value} (isDecoded : item.IsDecoded) :
    IsInside parts (Value.tied parts item) := by
  cases item with
  | again place => exact .inl ⟨place, rfl⟩
  | _ => exact .inr isDecoded

theorem IsSound.opened_ne_tuple (sound : IsSound size parts) {place : Nat} (inRange : place < size)
    (items : List Value) : (Value.knot parts place).opened ≠ .tuple items := by
  intro opened
  unfold Value.opened at opened
  dsimp only at opened
  split at opened
  · cases opened
  · exact sound.noPair place inRange _ ‹_›
  · cases opened
  · cases opened

theorem IsSound.isInside_of_hasEntry (sound : IsSound size parts) {place : Nat} {key item : Value}
    (hasEntry : (Value.knot parts place).HasEntry key item) :
    IsInside parts item ∧ ∀ items, item.opened ≠ .tuple items := by
  obtain ⟨entries, opened, isEntry⟩ := hasEntry
  unfold Value.opened at opened
  dsimp only at opened
  split at opened
  · cases opened
  · cases opened
  · rename_i own isPart
    cases opened
    obtain ⟨entry, isOwn, isEntry⟩ := List.mem_map.1 isEntry
    cases isEntry
    obtain ⟨_, isDecodedEntry, inRange⟩ := sound.soundPart place _ isPart entry isOwn
    refine ⟨isInside_tied isDecodedEntry.1, ?_⟩
    cases isValue : entry.2 with
    | again place => exact sound.opened_ne_tuple (inRange place isValue)
    | _ =>
        rw [isValue] at isDecodedEntry
        exact isDecodedEntry.2
  · cases opened

theorem IsSound.isInside_of_hasElement (sound : IsSound size parts) {place : Nat} {item : Value}
    (hasElement : (Value.knot parts place).HasElement item) : IsInside parts item := by
  obtain ⟨elements, areElements, isElement⟩ := hasElement
  unfold Value.elements Value.opened at areElements
  dsimp only at areElements
  split at areElements
  · rename_i own isPart
    cases areElements
    obtain ⟨held, isHeld, rfl⟩ := List.mem_map.1 isElement
    exact isInside_tied (sound.soundPart place _ isPart held isHeld)
  · rename_i own isPart
    cases areElements
    obtain ⟨held, isHeld, rfl⟩ := List.mem_map.1 isElement
    exact isInside_tied (sound.soundPart place _ isPart held isHeld)
  · rename_i own isPart
    cases areElements
    obtain ⟨entry, isEntry, rfl⟩ := List.mem_map.1 isElement
    obtain ⟨held, isHeld, rfl⟩ := List.mem_map.1 isEntry
    exact .inr (sound.soundPart place _ isPart held isHeld).1
  · cases areElements

/-- A collection of a knot is decoded. -/
theorem IsSound.isDecoded (sound : IsSound size parts) (place : Nat) :
    (Value.knot parts place).IsDecoded := by
  refine Value.isDecoded_of_closed (P := IsInside parts) (.inl ⟨place, rfl⟩) ?_ ?_
  · rintro mapping key item (⟨place, rfl⟩ | isDecoded) hasEntry
    · exact sound.isInside_of_hasEntry hasEntry
    · exact ⟨.inr (isDecoded.inside (.entry .self hasEntry)), isDecoded .self hasEntry⟩
  · rintro collection item (⟨place, rfl⟩ | isDecoded) hasElement
    · exact sound.isInside_of_hasElement hasElement
    · exact .inr (isDecoded.inside (.element .self hasElement))

end Knot

/-! ## Documents -/

theorem Composition.value_within (composition : Composition) :
    SucceedsWithin Value.IsDecoded composition.value := by
  refine .bind composition.objects_within fun objects sound => ?_
  have start : Standing.AreFree (Array.replicate objects.size .unknown) := by
    intro number value isSettled
    rw [Array.getElem?_replicate] at isSettled
    split at isSettled <;> cases isSettled
  split
  rename_i found standings ended
  obtain ⟨areFree, isFree⟩ := Standing.settle_keeps sound _ _ _ start found standings ended
  refine .ok ?_
  cases found with
  | none => exact (Knot.parts_within sound areFree).isDecoded composition.root
  | some value => exact (isFree value rfl).1.1

/-- The value of a document is decoded. -/
theorem isDecoded_of_documentValue {text : String} {value : Value}
    (isValue : documentValue text = .ok value) : value.IsDecoded := by
  obtain ⟨composition, _, isValue⟩ := bind_eq_ok_iff.1 isValue
  cases composition with
  | none =>
      cases isValue
      exact (Value.isDecodedEntry_of_isAtom rfl).1
  | some composition => exact composition.value_within value isValue

end Yaml

end RoutingPlane
