import RoutingPlane.Proofs.Address.Printed
import RoutingPlane.Proofs.Policy.Room
import RoutingPlane.Proofs.Sequence

/-!
Policies as values. Every condition and every statement is written as a value from which it is
read again, whatever lies inside it: for each level of it there is a level in the value. So there
is a snapshot for every policy.
-/

namespace RoutingPlane

/-! ## Fields of written values -/

namespace Value

def single (name : String) (value : Value) : Value :=
  .map [(.text name, value)]

theorem fieldIfFound_map (name : String) (entries : List (Value × Value)) :
    (map entries).fieldIfFound name = .ok (fieldIn? name entries) := by
  have opens : (map entries).opened = map entries := rfl
  simp only [fieldIfFound, holds, field, opens]
  cases fieldIn? name entries <;> rfl

theorem fieldIfFound_single (name other : String) (value : Value) :
    (single name value).fieldIfFound other = .ok (if name = other then some value else none) := by
  rw [single, fieldIfFound_map]
  simp [fieldIn?, isText]

theorem elements_list (items : List Value) : (list items).elements = .ok items := rfl

theorem elementsOrNone_list (items : List Value) : (list items).elementsOrNone = .ok items := by
  cases items <;> rfl

end Value

/-! ## Sets, sources and actions -/

def NetworkRange.written (range : NetworkRange) : Value :=
  .map [
    (.text "prefix", .text range.network.text),
    (.text "min_length", .int range.shortest),
    (.text "max_length", .int range.longest)]

theorem NetworkRange.read_written (range : NetworkRange) :
    NetworkRange.read range.written = .ok range := by
  refine bind_eq_ok_iff.2 ⟨.text range.network.text, rfl, ?_⟩
  refine bind_eq_ok_iff.2 ⟨range.network, Network.read_text range.network, ?_⟩
  refine bind_eq_ok_iff.2 ⟨_, rfl, ?_⟩
  exact bind_eq_ok_iff.2 ⟨range.shortest, rfl, bind_eq_ok_iff.2 ⟨range.longest, rfl, rfl⟩⟩

def NetworkSet.written : NetworkSet → Value
  | ranges members => .list (members.map NetworkRange.written)
  | named name => .text name

theorem NetworkSet.read_written (set : NetworkSet) : NetworkSet.read set.written = .ok set := by
  cases set with
  | named name => rfl
  | ranges members =>
      have read : (members.map NetworkRange.written).mapM NetworkRange.read = .ok members := by
        rw [mapM_eq_ok_iff, List.forall₂_map_left_iff, List.forall₂_same]
        exact fun range _ => range.read_written
      exact bind_eq_ok_iff.2 ⟨_, Value.elements_list _, bind_eq_ok_iff.2 ⟨members, read, rfl⟩⟩

theorem RouteSource.read_word (source : RouteSource) :
    RouteSource.read (.text source.word) = .ok source := by
  cases source <;> decide +kernel

theorem Statement.readAction_word (action : Action) :
    Statement.readAction action.word = .ok (.act action) := by
  cases action <;> rfl

namespace Condition

/-! ## Conditions -/

mutual

/-- The value that a condition is written as. -/
def written : Condition → Value
  | within set => .single "match_prefix_set" set.written
  | learnedFrom source => .single "match_protocol" (.text source.word)
  | not condition => .single "not" (written condition)
  | all conditions => .single "all" (.list (listWritten conditions))
  | any conditions => .single "any" (.list (listWritten conditions))
  | call policy => .single "call" (.text policy)

def listWritten : List Condition → List Value
  | [] => []
  | condition :: rest => written condition :: listWritten rest

end

mutual

/-- How many conditions lie inside each other, this one included. -/
def levels : Condition → Nat
  | within _ => 1
  | learnedFrom _ => 1
  | call _ => 1
  | not condition => levels condition + 1
  | all conditions => listLevels conditions + 1
  | any conditions => listLevels conditions + 1

def listLevels : List Condition → Nat
  | [] => 0
  | condition :: rest => max (levels condition) (listLevels rest)

end

theorem exists_room {condition : Condition} {room : Nat} (fits : condition.levels ≤ room) :
    ∃ inner, room = inner + 1 := by
  refine Nat.exists_eq_add_of_le' (Nat.le_trans ?_ fits)
  cases condition with
  | within set | learnedFrom source | call policy => exact Nat.le_refl 1
  | not condition | all conditions | any conditions => exact Nat.le_add_left 1 _

/-! ### Reading what is written -/

section Reading

variable (room : Nat)

theorem readWithin_all (parts : List Value) :
    readWithin (room + 1) (.single "all" (.list parts)) =
      (do return all (← parts.mapM (readWithin room))) := by
  simp only [readWithin, Value.fieldIfFound_single, if_true]
  rfl

theorem readWithin_any (parts : List Value) :
    readWithin (room + 1) (.single "any" (.list parts)) =
      (do return any (← parts.mapM (readWithin room))) := by
  simp only [readWithin, Value.fieldIfFound_single, if_true, String.reduceEq, if_false]
  rfl

theorem readWithin_not (part : Value) :
    readWithin (room + 1) (.single "not" part) =
      (do return not (← readWithin room part)) := by
  simp only [readWithin, Value.fieldIfFound_single, if_true, String.reduceEq, if_false]
  rfl

/-- A value without the fields that hold other conditions is read as a condition that holds
none. -/
theorem readWithin_leaf {name : String} (isLeaf : name ∉ ["all", "any", "not"]) (value : Value) :
    readWithin (room + 1) (.single name value) = readLeaf (.single name value) := by
  simp only [List.mem_cons, List.not_mem_nil, or_false, not_or] at isLeaf
  simp only [readWithin, Value.fieldIfFound_single, isLeaf, if_false]
  rfl

theorem readLeaf_within (set : Value) :
    readLeaf (.single "match_prefix_set" set) = (do return within (← NetworkSet.read set)) := by
  simp only [readLeaf, Value.fieldIfFound_single, if_true, String.reduceEq, if_false]
  rfl

theorem readLeaf_learnedFrom (source : Value) :
    readLeaf (.single "match_protocol" source) =
      (do return learnedFrom (← RouteSource.read source)) := by
  simp only [readLeaf, Value.fieldIfFound_single, if_true]
  rfl

theorem readLeaf_call (policy : String) :
    readLeaf (.single "call" (.text policy)) = .ok (call policy) := by
  simp only [readLeaf, Value.fieldIfFound_single, if_true, String.reduceEq, if_false]
  rfl

end Reading

mutual

/-- A condition is read from the value that it is written as. -/
theorem readWithin_written : ∀ (condition : Condition) {room : Nat},
    condition.levels ≤ room → readWithin room condition.written = .ok condition
  | within set, room, fits => by
      obtain ⟨inner, rfl⟩ := exists_room fits
      rw [written, readWithin_leaf inner (by decide), readLeaf_within]
      exact bind_eq_ok_iff.2 ⟨set, mapError_eq_ok_iff.2 set.read_written, rfl⟩
  | learnedFrom source, room, fits => by
      obtain ⟨inner, rfl⟩ := exists_room fits
      rw [written, readWithin_leaf inner (by decide), readLeaf_learnedFrom]
      exact bind_eq_ok_iff.2 ⟨source, mapError_eq_ok_iff.2 source.read_word, rfl⟩
  | call policy, room, fits => by
      obtain ⟨inner, rfl⟩ := exists_room fits
      rw [written, readWithin_leaf inner (by decide), readLeaf_call]
  | not condition, room, fits => by
      obtain ⟨inner, rfl⟩ := exists_room fits
      have read := readWithin_written condition (Nat.le_of_succ_le_succ fits)
      rw [written, readWithin_not, read]
      rfl
  | all conditions, room, fits => by
      obtain ⟨inner, rfl⟩ := exists_room fits
      have read := mapM_readWithin_written conditions (Nat.le_of_succ_le_succ fits)
      rw [written, readWithin_all, read]
      rfl
  | any conditions, room, fits => by
      obtain ⟨inner, rfl⟩ := exists_room fits
      have read := mapM_readWithin_written conditions (Nat.le_of_succ_le_succ fits)
      rw [written, readWithin_any, read]
      rfl

theorem mapM_readWithin_written : ∀ (conditions : List Condition) {room : Nat},
    listLevels conditions ≤ room →
      (listWritten conditions).mapM (readWithin room) = .ok conditions
  | [], _, _ => rfl
  | condition :: rest, room, fits => by
      rw [listLevels, Nat.max_le] at fits
      have read := readWithin_written condition fits.1
      have readRest := mapM_readWithin_written rest fits.2
      rw [listWritten, List.mapM_cons, read, readRest]
      rfl

end

mutual

/-- A value leads as far as the levels of the condition that is written as it. -/
theorem levels_le_reach : ∀ condition : Condition, condition.levels ≤ condition.written.reach + 1
  | within _ | learnedFrom _ | call _ => Nat.le_add_left 1 _
  | not condition => by
      have fits := levels_le_reach condition
      simp only [written, Value.single, Value.reach, Value.entriesReach, levels]
      omega
  | all conditions => by
      have fits := listLevels_le_itemsReach conditions
      simp only [written, Value.single, Value.reach, Value.entriesReach, levels]
      omega
  | any conditions => by
      have fits := listLevels_le_itemsReach conditions
      simp only [written, Value.single, Value.reach, Value.entriesReach, levels]
      omega

theorem listLevels_le_itemsReach : ∀ conditions : List Condition,
    listLevels conditions ≤ Value.itemsReach (listWritten conditions) + 1
  | [] => Nat.zero_le _
  | condition :: rest => by
      have fits := levels_le_reach condition
      have restFits := listLevels_le_itemsReach rest
      simp only [listWritten, Value.itemsReach, listLevels]
      omega

end

/-- A condition is read from what it is written as. -/
theorem read_written (condition : Condition) : read condition.written = .ok condition :=
  readFully_eq_ok (fun isMore => readWithin_extends isMore condition.written)
    (readWithin_written condition condition.levels_le_reach)

end Condition

namespace Statement

/-! ## Statements -/

mutual

/-- The value that a statement is written as. -/
def written : Statement → Value
  | act action => .text action.word
  | call policy => .single "call" (.text policy)
  | branch guard whenTrue whenFalse =>
      .map [
        (.text "if", guard.written),
        (.text "then", .list (listWritten whenTrue)),
        (.text "else", .list (listWritten whenFalse))]

def listWritten : List Statement → List Value
  | [] => []
  | statement :: rest => written statement :: listWritten rest

end

mutual

/-- How many statements and conditions lie inside each other, this statement included. -/
def levels : Statement → Nat
  | act _ => 1
  | call _ => 1
  | branch guard whenTrue whenFalse =>
      max guard.levels (max (listLevels whenTrue) (listLevels whenFalse)) + 1

def listLevels : List Statement → Nat
  | [] => 0
  | statement :: rest => max (levels statement) (listLevels rest)

end

theorem exists_room {statement : Statement} {room : Nat} (fits : statement.levels ≤ room) :
    ∃ inner, room = inner + 1 := by
  refine Nat.exists_eq_add_of_le' (Nat.le_trans ?_ fits)
  cases statement with
  | act action | call policy => exact Nat.le_refl 1
  | branch guard whenTrue whenFalse => exact Nat.le_add_left 1 _

/-! ### Reading what is written -/

section Reading

variable (room : Nat)

theorem readWithin_text (s : String) : readWithin (room + 1) (.text s) = readAction s := by
  rw [readWithin]

theorem readWithin_call (policy : String) :
    readWithin (room + 1) (.single "call" (.text policy)) = .ok (call policy) := by
  rw [readWithin]
  · simp only [readCall, Value.fieldIfFound_single, if_true, String.reduceEq, if_false]
    rfl
  · intro s isText
    cases isText

variable {room} in
theorem readWithin_branch {guard : Value} {whenTrue whenFalse : List Value}
    {condition : Condition} {trueStatements falseStatements : List Statement}
    (guardRead : Condition.readWithin room guard = .ok condition)
    (trueRead : whenTrue.mapM (readWithin room) = .ok trueStatements)
    (falseRead : whenFalse.mapM (readWithin room) = .ok falseStatements) :
    readWithin (room + 1) (.map [
        (.text "if", guard), (.text "then", .list whenTrue), (.text "else", .list whenFalse)]) =
      .ok (branch condition trueStatements falseStatements) := by
  rw [readWithin]
  · refine bind_eq_ok_iff.2 ⟨some guard, rfl, ?_⟩
    refine bind_eq_ok_iff.2 ⟨_, rfl, bind_eq_ok_iff.2 ⟨condition, guardRead, ?_⟩⟩
    refine bind_eq_ok_iff.2 ⟨whenTrue, mapError_eq_ok_iff.2 (Value.elementsOrNone_list _), ?_⟩
    refine bind_eq_ok_iff.2 ⟨trueStatements, trueRead, ?_⟩
    refine bind_eq_ok_iff.2 ⟨whenFalse, mapError_eq_ok_iff.2 (Value.elementsOrNone_list _), ?_⟩
    exact bind_eq_ok_iff.2 ⟨falseStatements, falseRead, rfl⟩
  · intro s isText
    cases isText

end Reading

mutual

/-- A statement is read from the value that it is written as. -/
theorem readWithin_written : ∀ (statement : Statement) {room : Nat},
    statement.levels ≤ room → readWithin room statement.written = .ok statement
  | act action, room, fits => by
      obtain ⟨inner, rfl⟩ := exists_room fits
      rw [written, readWithin_text, readAction_word]
  | call policy, room, fits => by
      obtain ⟨inner, rfl⟩ := exists_room fits
      exact readWithin_call inner policy
  | branch guard whenTrue whenFalse, room, fits => by
      obtain ⟨inner, rfl⟩ := exists_room fits
      rw [levels, Nat.succ_le_succ_iff, Nat.max_le, Nat.max_le] at fits
      obtain ⟨guardFits, trueFits, falseFits⟩ := fits
      exact readWithin_branch (guard.readWithin_written guardFits)
        (mapM_readWithin_written whenTrue trueFits) (mapM_readWithin_written whenFalse falseFits)

theorem mapM_readWithin_written : ∀ (statements : List Statement) {room : Nat},
    listLevels statements ≤ room →
      (listWritten statements).mapM (readWithin room) = .ok statements
  | [], _, _ => rfl
  | statement :: rest, room, fits => by
      rw [listLevels, Nat.max_le] at fits
      have read := readWithin_written statement fits.1
      have readRest := mapM_readWithin_written rest fits.2
      rw [listWritten, List.mapM_cons, read, readRest]
      rfl

end

mutual

/-- A value leads as far as the levels of the statement that is written as it. -/
theorem levels_le_reach : ∀ statement : Statement, statement.levels ≤ statement.written.reach + 1
  | act _ | call _ => Nat.le_add_left 1 _
  | branch guard whenTrue whenFalse => by
      have guardFits := guard.levels_le_reach
      have trueFits := listLevels_le_itemsReach whenTrue
      have falseFits := listLevels_le_itemsReach whenFalse
      simp only [written, Value.reach, Value.entriesReach, levels]
      omega

theorem listLevels_le_itemsReach : ∀ statements : List Statement,
    listLevels statements ≤ Value.itemsReach (listWritten statements) + 1
  | [] => Nat.zero_le _
  | statement :: rest => by
      have fits := levels_le_reach statement
      have restFits := listLevels_le_itemsReach rest
      simp only [listWritten, Value.itemsReach, listLevels]
      omega

end

/-- A statement is read from what it is written as. -/
theorem read_written (statement : Statement) : read statement.written = .ok statement :=
  readFully_eq_ok (fun isMore => readWithin_extends isMore statement.written)
    (readWithin_written statement statement.levels_le_reach)

end Statement

/-! ## Policies -/

def RoutingPolicy.written (policy : RoutingPolicy) : Value :=
  .list (Statement.listWritten policy.statements)

theorem Statement.mapM_read_written (statements : List Statement) :
    (Statement.listWritten statements).mapM Statement.read = .ok statements := by
  induction statements with
  | nil => rfl
  | cons statement rest inductionHypothesis =>
      rw [Statement.listWritten, List.mapM_cons, statement.read_written, inductionHypothesis]
      rfl

theorem RoutingPolicy.read_list (name : String) (statements : List Value) :
    RoutingPolicy.read name (.list statements) = (do
      let statements ← statements.mapM Statement.read
      return { name, statements }) := by
  cases statements <;> rfl

theorem RoutingPolicy.read_written (policy : RoutingPolicy) :
    RoutingPolicy.read policy.name policy.written = .ok policy := by
  have areRead := Statement.mapM_read_written policy.statements
  rw [written, RoutingPolicy.read_list]
  exact bind_eq_ok_iff.2 ⟨policy.statements, areRead, rfl⟩

/-- Conditions, statements and policies of every shape can be written in a snapshot: what is read
from the value that they are written as is exactly what was written. It takes no more room than
there are levels in it. -/
theorem exists_read :
    (∀ condition : Condition, (∃ value, Condition.read value = .ok condition) ∧
      ∀ room, condition.levels ≤ room →
        Condition.readWithin room condition.written = .ok condition) ∧
    (∀ statement : Statement, (∃ value, Statement.read value = .ok statement) ∧
      ∀ room, statement.levels ≤ room →
        Statement.readWithin room statement.written = .ok statement) ∧
    ∀ policy : RoutingPolicy, ∃ value, RoutingPolicy.read policy.name value = .ok policy := by
  refine ⟨fun condition => ⟨⟨_, condition.read_written⟩, fun _ => condition.readWithin_written⟩,
    fun statement => ⟨⟨_, statement.read_written⟩, fun _ => statement.readWithin_written⟩,
    fun policy => ⟨_, policy.read_written⟩⟩

end RoutingPlane
