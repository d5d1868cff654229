/-!
Parts of texts: whether one text begins another or occurs in it, and splitting at a
separator and joining the parts again.
-/

namespace RoutingPlane.Text

/-! ## Occurrences -/

def begins (part text : String) : Bool :=
  part.toList.isPrefixOf text.toList

def occursAmong (part : List Char) : List Char → Bool
  | [] => part.isEmpty
  | c :: rest => part.isPrefixOf (c :: rest) || occursAmong part rest

def occurs (part text : String) : Bool :=
  occursAmong part.toList text.toList

/-! ## Separators -/

/-- The parts of a text between the occurrences of a separator; one more than
there are occurrences. -/
def split (separator : Char) : List Char → List (List Char)
  | [] => [[]]
  | c :: rest =>
      if c = separator then [] :: split separator rest
      else
        match split separator rest with
        | [] => [[c]]
        | part :: parts => (c :: part) :: parts

/-- The parts of a text put together with a separator between them. -/
def join (separator : Char) : List (List Char) → List Char
  | [] => []
  | [part] => part
  | part :: next :: parts => part ++ separator :: join separator (next :: parts)

/-- The text before and after the first occurrence of a separator. -/
def cut? (separator : Char) : List Char → Option (List Char × List Char)
  | [] => none
  | c :: rest =>
      if c = separator then some ([], rest)
      else (cut? separator rest).map fun sides => (c :: sides.1, sides.2)

/-- The text before and after the first place where a separator stands twice. -/
def cutDouble? (separator : Char) : List Char → Option (List Char × List Char)
  | [] => none
  | [_] => none
  | c :: d :: rest =>
      if c = separator ∧ d = separator then some ([], rest)
      else (cutDouble? separator (d :: rest)).map fun sides => (c :: sides.1, sides.2)

theorem split_ne_nil (separator : Char) (text : List Char) :
    split separator text ≠ [] := by
  cases text with
  | nil => simp [split]
  | cons c rest =>
      simp only [split]
      split
      · simp
      · split <;> simp

theorem split_of_not_mem {separator : Char} {text : List Char}
    (absent : separator ∉ text) : split separator text = [text] := by
  induction text with
  | nil => rfl
  | cons c rest inductionHypothesis =>
      rw [List.mem_cons, not_or] at absent
      simp [split, Ne.symm absent.1, inductionHypothesis absent.2]

theorem split_append_cons {separator : Char} {part : List Char} (rest : List Char)
    (absent : separator ∉ part) :
    split separator (part ++ separator :: rest) = part :: split separator rest := by
  induction part with
  | nil => simp [split]
  | cons c tail inductionHypothesis =>
      rw [List.mem_cons, not_or] at absent
      simp [split, Ne.symm absent.1, inductionHypothesis absent.2]

/-- Splitting undoes joining, if no part holds the separator. -/
theorem split_join {separator : Char} {parts : List (List Char)} (nonempty : parts ≠ [])
    (absent : ∀ part ∈ parts, separator ∉ part) :
    split separator (join separator parts) = parts := by
  induction parts with
  | nil => exact absurd rfl nonempty
  | cons part rest inductionHypothesis =>
      cases rest with
      | nil => exact split_of_not_mem (absent part (List.mem_singleton.2 rfl))
      | cons next others =>
          have headAbsent := absent part List.mem_cons_self
          rw [join, split_append_cons _ headAbsent,
            inductionHypothesis (by simp)
              fun other member => absent other (List.mem_cons_of_mem _ member)]

end RoutingPlane.Text
