/-!
The reasons for which a document has no value. Most texts that are no documents
are not told apart; what a scalar stands for can be missing for several reasons.
-/

namespace RoutingPlane.Yaml

inductive DocumentFault where
  /-- The text has not the form of a document, or uses something unknown. -/
  | malformed
  /-- The text holds half of a pair, which no file can hold. -/
  | halfText
  /-- The text of a number is empty. -/
  | emptyNumber
  /-- The text of a number is none, or has too many digits to be read. -/
  | noNumber
  /-- The text of a number has too many places in base sixty. -/
  | hugePlace
  /-- A word stands for no truth value. -/
  | noTruthValue
  /-- The text of a time is none. -/
  | noTime
  /-- A mapping stands where the text of a time must stand. -/
  | mappingForTime
  /-- A day or a time does not exist. -/
  | impossibleTime
  /-- A code is beyond those of all characters. -/
  | noCharacter
  /-- A code is beyond all codes. -/
  | hugeCode
  /-- Collections lie inside each other too deeply, or without an end. -/
  | tooDeep
  deriving DecidableEq, Repr

/-- What is missing where the form of a document demands it makes the document
malformed. -/
instance : MonadLift Option (Except DocumentFault) where
  monadLift found := found.elim (.error .malformed) .ok

end RoutingPlane.Yaml
