import Mathlib.Data.List.Forall2
import RoutingPlane.Proofs.Decimal.Binary64
import RoutingPlane.Value

/-!
Equality of values. Two values that hold no others are the same exactly if there is something that
both stand for: numbers stand for their exact values, whatever their kind, and times on clocks
with known offsets for instants. From there it goes up through collections, so it does not matter
in what order values are compared and through which ones, provided that no set repeats a member
and no mapping a key.
-/

namespace RoutingPlane

open RoutingPlane.Decimal

section Pairing

universe u v

variable {α : Type u} {β : Type v} {related : α → β → Prop} {items : List α} {others : List β}

/-- If as many items are paired with others, and no two of them with the same one, then no other
is left. -/
theorem exists_of_paired (sameLength : items.length = others.length)
    (paired : ∀ item ∈ items, ∃ other ∈ others, related item other)
    (apart : items.Pairwise fun earlier later =>
      ∀ other, related earlier other → ¬related later other) :
    ∀ other ∈ others, ∃ item ∈ items, related item other := by
  induction items generalizing others with
  | nil =>
      rw [List.length_nil, eq_comm, List.length_eq_zero_iff] at sameLength
      rw [sameLength]
      exact fun _ isThere => absurd isThere List.not_mem_nil
  | cons item rest inductionHypothesis =>
      rw [List.pairwise_cons] at apart
      rw [List.forall_mem_cons] at paired
      obtain ⟨⟨partner, isPartner, isRelated⟩, restPaired⟩ := paired
      obtain ⟨front, back, rfl⟩ := List.append_of_mem isPartner
      have restLength : rest.length = (front ++ back).length := by
        simp only [List.length_cons, List.length_append] at sameLength ⊢
        omega
      have stillPaired : ∀ later ∈ rest, ∃ other ∈ front ++ back, related later other := by
        intro later isLater
        obtain ⟨other, isOther, laterRelated⟩ := restPaired later isLater
        have differs : other ≠ partner := by
          rintro rfl
          exact apart.1 later isLater other isRelated laterRelated
        refine ⟨other, ?_, laterRelated⟩
        simpa [differs] using isOther
      intro other isOther
      by_cases isSame : other = partner
      · exact ⟨item, List.mem_cons_self, isSame ▸ isRelated⟩
      · have remains : other ∈ front ++ back := by simpa [isSame] using isOther
        obtain ⟨later, isLater, laterRelated⟩ :=
          inductionHypothesis restLength stillPaired apart.2 other remains
        exact ⟨later, List.mem_cons_of_mem _ isLater, laterRelated⟩

end Pairing

namespace Value

variable {value left middle right : Value}

/-! ## Values that hold no others -/

/-- What a value that holds no others stands for. -/
inductive Meaning where
  | null
  | number (exact : Exact)
  | text (s : String)
  | bytes (content : List UInt8)
  | date (day : CalendarDate)
  | time (offsetKnown : Bool) (instant : Int)
  | undefined (occurrence : Nat)
  | again (place : Nat)

def meaning? : Value → Option Meaning
  | null => some .null
  | bool b => some (.number (.finite (if b then 1 else 0)))
  | int n => some (.number (.finite n))
  | float x => (Binary64.ofFloat x).exactValue?.map .number
  | undefined occurrence => some (.undefined occurrence)
  | text s => some (.text s)
  | bytes content => some (.bytes content)
  | date day => some (.date day)
  | moment time => some (.time time.offset.isSome time.instant)
  | again place => some (.again place)
  | _ => none

/-- A number is compared with a whole number by its exact value. -/
theorem floatIsInt_iff {x : Float} {n : Int} :
    floatIsInt x n = true ↔ (Binary64.ofFloat x).exactValue? = some (.finite n) := by
  rw [floatIsInt]
  split
  next exact isFinite =>
    rw [isFinite, Binary64.exactValue?, Option.some.injEq, Exact.finite.injEq, Bool.and_eq_true,
      decide_eq_true_eq, decide_eq_true_eq]
    exact Dyadic.isWhole_iff
  next notFinite =>
    cases isExact : Binary64.ofFloat x with
    | finite exact => exact absurd isExact (notFinite exact)
    | infinite negative => simp [Binary64.exactValue?]
    | undefined => simp [Binary64.exactValue?]

theorem sameScalar_iff : sameScalar left right = true ↔
    ∃ meaning, right.meaning? = some meaning ∧ left.meaning? = some meaning := by
  cases left <;> cases right <;>
    simp [sameScalar, meaning?, floatIsInt_iff, beq_eq_true_iff, sameMoment, Moment.comparable]
  case bool.bool flag other => cases flag <;> cases other <;> simp
  case bool.int flag n => cases flag <;> norm_cast
  case int.bool n flag => cases flag <;> simp [eq_comm]
  case float.float => exact exists_congr fun _ => and_comm

theorem same_eq_sameScalar {meaning : Meaning} (means : left.meaning? = some meaning)
    (right : Value) : left.same right = sameScalar left right := by
  cases left <;> first | (cases means; done) | simp only [same]

theorem same_of_sameScalar (isSame : sameScalar left right = true) : right.same left = true := by
  obtain ⟨meaning, isRight, isLeft⟩ := sameScalar_iff.1 isSame
  rw [same_eq_sameScalar isRight]
  exact sameScalar_iff.2 ⟨meaning, isLeft, isRight⟩

theorem sameScalar_of_same (first : sameScalar left middle = true)
    (second : middle.same right = true) : sameScalar left right = true := by
  obtain ⟨meaning, isMiddle, isLeft⟩ := sameScalar_iff.1 first
  rw [same_eq_sameScalar isMiddle] at second
  obtain ⟨other, isRight, alsoMiddle⟩ := sameScalar_iff.1 second
  obtain rfl := Option.some.inj (isMiddle.symm.trans alsoMiddle)
  exact sameScalar_iff.2 ⟨meaning, isRight, isLeft⟩

/-! ## Collections -/

variable {items others members : List Value} {entries otherEntries : List (Value × Value)}
  {entry : Value × Value} {parts : Array Value} {place : Nat}

theorem sameItems_iff : sameItems items others = true ↔
    List.Forall₂ (fun item other => item.same other = true) items others := by
  induction items generalizing others with
  | nil => cases others <;> simp [sameItems]
  | cons item rest inductionHypothesis =>
      cases others <;> simp [sameItems, inductionHypothesis]

theorem allAmong_iff : allAmong members others = true ↔
    ∀ member ∈ members, ∃ other ∈ others, member.same other = true := by
  induction members with
  | nil => simp [allAmong]
  | cons member rest inductionHypothesis => simp [allAmong, inductionHypothesis]

def SameEntry (entry other : Value × Value) : Prop :=
  entry.1.same other.1 = true ∧ entry.2.same other.2 = true

theorem sameEntries_iff : sameEntries entries otherEntries = true ↔
    ∀ entry ∈ entries, ∃ other ∈ otherEntries, SameEntry entry other := by
  induction entries with
  | nil => simp [sameEntries]
  | cons entry rest inductionHypothesis =>
      rw [sameEntries, Bool.and_eq_true, inductionHypothesis, List.forall_mem_cons,
        List.any_eq_true]
      simp only [Bool.and_eq_true, SameEntry]

theorem list_same_iff : (list items).same right = true ↔ ∃ others, right = list others ∧
    List.Forall₂ (fun item other => item.same other = true) items others := by
  cases right <;> simp [same, sameItems_iff]

theorem tuple_same_iff : (tuple items).same right = true ↔ ∃ others, right = tuple others ∧
    List.Forall₂ (fun item other => item.same other = true) items others := by
  cases right <;> simp [same, sameItems_iff]

theorem set_same_iff : (set members).same right = true ↔ ∃ others, right = set others ∧
    members.length = others.length ∧
      ∀ member ∈ members, ∃ other ∈ others, member.same other = true := by
  cases right <;> simp [same, allAmong_iff]

theorem map_same_iff : (map entries).same right = true ↔ ∃ others, right = map others ∧
    entries.length = others.length ∧
      ∀ entry ∈ entries, ∃ other ∈ others, SameEntry entry other := by
  cases right <;> simp [same, sameEntries_iff]

theorem knot_same_iff :
    (knot parts place).same right = true ↔ ∃ others, right = knot others place := by
  cases right <;> simp [same, eq_comm]

/-- The values that a value holds. Knots are not looked into. -/
def held : Value → List Value
  | list items => items
  | tuple items => items
  | set members => members
  | map entries => entries.flatMap fun entry => [entry.1, entry.2]
  | _ => []

theorem mem_held_map (isEntry : entry ∈ entries) :
    entry.1 ∈ (map entries).held ∧ entry.2 ∈ (map entries).held := by
  constructor <;> exact List.mem_flatMap.2 ⟨entry, isEntry, by simp⟩

theorem sizeOf_lt_of_mem_held {part : Value} (isHeld : part ∈ value.held) :
    sizeOf part < sizeOf value := by
  cases value with
  | list items =>
      have isItem : part ∈ items := isHeld
      have smaller := List.sizeOf_lt_of_mem isItem
      simp only [list.sizeOf_spec]
      omega
  | tuple items =>
      have isItem : part ∈ items := isHeld
      have smaller := List.sizeOf_lt_of_mem isItem
      simp only [tuple.sizeOf_spec]
      omega
  | set members =>
      have isMember : part ∈ members := isHeld
      have smaller := List.sizeOf_lt_of_mem isMember
      simp only [set.sizeOf_spec]
      omega
  | map entries =>
      obtain ⟨⟨key, content⟩, isEntry, isPart⟩ := List.mem_flatMap.1 isHeld
      have smaller := List.sizeOf_lt_of_mem isEntry
      simp only [map.sizeOf_spec, Prod.mk.sizeOf_spec] at smaller ⊢
      simp only [List.mem_cons, List.not_mem_nil, or_false] at isPart
      rcases isPart with rfl | rfl <;> omega
  | _ => cases isHeld

/-- What holds of a value if it holds of all values inside it holds of every value. -/
theorem heldInduction {motive : Value → Prop}
    (step : ∀ value, (∀ part ∈ value.held, motive part) → motive value) (value : Value) :
    motive value :=
  step value fun part _ => heldInduction step part
termination_by sizeOf value
decreasing_by exact sizeOf_lt_of_mem_held ‹_›

theorem forall₂_trans {others thirds : List Value}
    (trans : ∀ item ∈ items, ∀ middle right, item.same middle = true →
      middle.same right = true → item.same right = true)
    (first : List.Forall₂ (fun item other => item.same other = true) items others)
    (second : List.Forall₂ (fun item other => item.same other = true) others thirds) :
    List.Forall₂ (fun item other => item.same other = true) items thirds := by
  induction first generalizing thirds with
  | nil => exact second
  | cons same _ inductionHypothesis =>
      rw [List.forall_mem_cons] at trans
      cases second with
      | cons further rest =>
          exact .cons (trans.1 _ _ same further) (inductionHypothesis trans.2 rest)

/-- What is the same as a value is the same as all that the value is the same as. -/
theorem same_trans (first : left.same middle = true) (second : middle.same right = true) :
    left.same right = true := by
  induction left using heldInduction generalizing middle right with
  | step left inductionHypothesis =>
  have trans : ∀ part ∈ left.held, ∀ middle right, part.same middle = true →
      middle.same right = true → part.same right = true :=
    fun part isHeld _ _ => inductionHypothesis part isHeld
  cases left with
  | list items =>
      obtain ⟨others, rfl, areSame⟩ := list_same_iff.1 first
      obtain ⟨thirds, rfl, othersSame⟩ := list_same_iff.1 second
      exact list_same_iff.2 ⟨thirds, rfl, forall₂_trans trans areSame othersSame⟩
  | tuple items =>
      obtain ⟨others, rfl, areSame⟩ := tuple_same_iff.1 first
      obtain ⟨thirds, rfl, othersSame⟩ := tuple_same_iff.1 second
      exact tuple_same_iff.2 ⟨thirds, rfl, forall₂_trans trans areSame othersSame⟩
  | set members =>
      obtain ⟨others, rfl, sameLength, areAmong⟩ := set_same_iff.1 first
      obtain ⟨thirds, rfl, othersLength, othersAmong⟩ := set_same_iff.1 second
      refine set_same_iff.2 ⟨thirds, rfl, sameLength.trans othersLength, ?_⟩
      intro member isMember
      obtain ⟨other, isOther, memberSame⟩ := areAmong member isMember
      obtain ⟨third, isThird, otherSame⟩ := othersAmong other isOther
      exact ⟨third, isThird, trans member isMember other third memberSame otherSame⟩
  | map entries =>
      obtain ⟨others, rfl, sameLength, areAmong⟩ := map_same_iff.1 first
      obtain ⟨thirds, rfl, othersLength, othersAmong⟩ := map_same_iff.1 second
      refine map_same_iff.2 ⟨thirds, rfl, sameLength.trans othersLength, ?_⟩
      intro entry isEntry
      obtain ⟨keyHeld, valueHeld⟩ := mem_held_map isEntry
      obtain ⟨other, isOther, sameKey, sameValue⟩ := areAmong entry isEntry
      obtain ⟨third, isThird, otherKey, otherValue⟩ := othersAmong other isOther
      exact ⟨third, isThird, trans entry.1 keyHeld _ _ sameKey otherKey,
        trans entry.2 valueHeld _ _ sameValue otherValue⟩
  | knot parts place =>
      obtain ⟨others, rfl⟩ := knot_same_iff.1 first
      obtain ⟨thirds, rfl⟩ := knot_same_iff.1 second
      exact knot_same_iff.2 ⟨thirds, rfl⟩
  | _ =>
      simp only [same] at first ⊢
      exact sameScalar_of_same first second

/-! ## Proper values -/

/-- No set inside a value repeats a member, and no mapping a key. -/
inductive IsProper : Value → Prop
  | intro {value : Value} (inside : ∀ part ∈ value.held, IsProper part)
      (membersDiffer : ∀ members, value = set members →
        members.Pairwise fun earlier later => earlier.same later = false)
      (keysDiffer : ∀ entries, value = map entries →
        entries.Pairwise fun earlier later => earlier.1.same later.1 = false) : IsProper value

/-- A value that holds no others is proper. -/
theorem IsProper.of_meaning {meaning : Meaning} (means : value.meaning? = some meaning) :
    value.IsProper := by
  cases value with
  | set members => cases means
  | map entries => cases means
  | list items => cases means
  | tuple items => cases means
  | _ =>
      exact .intro (fun _ isHeld => absurd isHeld List.not_mem_nil) (fun _ isSet => nomatch isSet)
        fun _ isMap => nomatch isMap

theorem forall₂_symm
    (symm : ∀ item ∈ items, ∀ other, item.same other = true → other.same item = true)
    (areSame : List.Forall₂ (fun item other => item.same other = true) items others) :
    List.Forall₂ (fun other item => other.same item = true) others items := by
  induction areSame with
  | nil => exact .nil
  | cons isSame _ inductionHypothesis =>
      rw [List.forall_mem_cons] at symm
      exact .cons (symm.1 _ isSame) (inductionHypothesis symm.2)

/-- What is the same as a proper value is so in both directions. -/
theorem IsProper.same_symm (proper : left.IsProper) (isSame : left.same right = true) :
    right.same left = true := by
  induction proper generalizing right with
  | @intro left _ membersDiffer keysDiffer inductionHypothesis =>
  have symm : ∀ part ∈ left.held, ∀ other, part.same other = true → other.same part = true :=
    fun part isHeld _ => inductionHypothesis part isHeld
  cases left with
  | list items =>
      obtain ⟨others, rfl, areSame⟩ := list_same_iff.1 isSame
      exact list_same_iff.2 ⟨items, rfl, forall₂_symm symm areSame⟩
  | tuple items =>
      obtain ⟨others, rfl, areSame⟩ := tuple_same_iff.1 isSame
      exact tuple_same_iff.2 ⟨items, rfl, forall₂_symm symm areSame⟩
  | set members =>
      obtain ⟨others, rfl, sameLength, areAmong⟩ := set_same_iff.1 isSame
      have apart : members.Pairwise fun earlier later => ∀ other : Value,
          earlier.same other = true → ¬later.same other = true := by
        apply (membersDiffer members rfl).imp_of_mem
        intro earlier later _ isLater differ other earlierSame laterSame
        rw [same_trans earlierSame (symm later isLater other laterSame)] at differ
        cases differ
      refine set_same_iff.2 ⟨members, rfl, sameLength.symm, ?_⟩
      intro other isOther
      obtain ⟨member, isMember, memberSame⟩ :=
        exists_of_paired sameLength areAmong apart other isOther
      exact ⟨member, isMember, symm member isMember other memberSame⟩
  | map entries =>
      obtain ⟨others, rfl, sameLength, areAmong⟩ := map_same_iff.1 isSame
      have apart : entries.Pairwise fun earlier later => ∀ other,
          SameEntry earlier other → ¬SameEntry later other := by
        apply (keysDiffer entries rfl).imp_of_mem
        intro earlier later _ isLater differ other earlierSame laterSame
        have back := symm later.1 (mem_held_map isLater).1 other.1 laterSame.1
        rw [same_trans earlierSame.1 back] at differ
        cases differ
      refine map_same_iff.2 ⟨entries, rfl, sameLength.symm, ?_⟩
      intro other isOther
      obtain ⟨entry, isEntry, sameKey, sameValue⟩ :=
        exists_of_paired sameLength areAmong apart other isOther
      obtain ⟨keyHeld, valueHeld⟩ := mem_held_map isEntry
      exact ⟨entry, isEntry, symm entry.1 keyHeld _ sameKey, symm entry.2 valueHeld _ sameValue⟩
  | knot parts place =>
      obtain ⟨others, rfl⟩ := knot_same_iff.1 isSame
      exact knot_same_iff.2 ⟨parts, rfl⟩
  | _ =>
      simp only [same] at isSame
      exact same_of_sameScalar isSame

/-! ## Equal values -/

theorem equals_iff : left.equals right = true ↔
    left.same right = true ∧ ∀ occurrence, left ≠ undefined occurrence := by
  cases left <;> simp [equals]

theorem undefined_same_iff {occurrence : Nat} :
    (undefined occurrence).same right = true ↔ right = undefined occurrence := by
  cases right <;> simp [same, sameScalar, eq_comm]

/-- A value equals all that a proper value equals which is the same as it. -/
theorem IsProper.equals_of_same (proper : left.IsProper) (isSame : left.same middle = true)
    (isEqual : left.equals right = true) : middle.equals right = true := by
  obtain ⟨sameRight, isDefined⟩ := equals_iff.1 isEqual
  have back := proper.same_symm isSame
  refine equals_iff.2 ⟨same_trans back sameRight, ?_⟩
  rintro occurrence rfl
  exact isDefined occurrence (undefined_same_iff.1 back)

end Value

end RoutingPlane
