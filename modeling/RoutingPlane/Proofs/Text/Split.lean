import RoutingPlane.Text.Split

/-!
Cutting undoes putting together. A text that was put together from parts is cut at
the separator that was put in last, if no part holds it; and it holds the separator
twice in a row only where an empty part stands.
-/

namespace RoutingPlane.Text

variable {separator c : Char} {front : List Char} {parts : List (List Char)}

theorem mem_split_of_mem {text : List Char} (isIn : c ∈ text) (different : c ≠ separator) :
    ∃ part ∈ split separator text, c ∈ part := by
  induction text with
  | nil =>
      cases isIn
  | cons first rest inductionHypothesis =>
      by_cases isSeparator : first = separator
      · have inRest : c ∈ rest := by
          rcases List.mem_cons.1 isIn with isFirst | inRest
          · exact absurd (isFirst.trans isSeparator) different
          · exact inRest
        obtain ⟨part, isPart, isIn⟩ := inductionHypothesis inRest
        exact ⟨part, by simp [split, isSeparator, isPart], isIn⟩
      · rw [split, if_neg isSeparator]
        cases parted : split separator rest with
        | nil => exact absurd parted (split_ne_nil separator rest)
        | cons next others =>
            rcases List.mem_cons.1 isIn with isFirst | inRest
            · exact ⟨first :: next, List.mem_cons_self, isFirst ▸ List.mem_cons_self⟩
            · obtain ⟨part, isPart, isIn⟩ := inductionHypothesis inRest
              rw [parted, List.mem_cons] at isPart
              rcases isPart with rfl | isOther
              · exact ⟨first :: part, List.mem_cons_self, List.mem_cons_of_mem _ isIn⟩
              · exact ⟨part, List.mem_cons_of_mem _ isOther, isIn⟩

theorem mem_join (isIn : c ∈ join separator parts) :
    c = separator ∨ ∃ part ∈ parts, c ∈ part := by
  induction parts with
  | nil =>
      cases isIn
  | cons part rest inductionHypothesis =>
      cases rest with
      | nil => exact .inr ⟨part, List.mem_cons_self, isIn⟩
      | cons next others =>
          rw [join, List.mem_append, List.mem_cons] at isIn
          rcases isIn with inPart | isSeparator | inRest
          · exact .inr ⟨part, List.mem_cons_self, inPart⟩
          · exact .inl isSeparator
          · refine (inductionHypothesis inRest).imp_right fun inOther => ?_
            obtain ⟨other, isOther, isIn⟩ := inOther
            exact ⟨other, List.mem_cons_of_mem _ isOther, isIn⟩

theorem separator_mem_join (several : 2 ≤ parts.length) : separator ∈ join separator parts := by
  match parts, several with
  | _ :: _ :: _, _ => simp [join]

theorem cut?_of_not_mem (absent : separator ∉ front) : cut? separator front = none := by
  induction front with
  | nil =>
      rfl
  | cons first rest inductionHypothesis =>
      rw [List.mem_cons, not_or] at absent
      simp [cut?, Ne.symm absent.1, inductionHypothesis absent.2]

theorem cut?_append_cons (back : List Char) (absent : separator ∉ front) :
    cut? separator (front ++ separator :: back) = some (front, back) := by
  induction front with
  | nil =>
      simp [cut?]
  | cons first rest inductionHypothesis =>
      rw [List.mem_cons, not_or] at absent
      simp [cut?, Ne.symm absent.1, inductionHypothesis absent.2]

/-- A text is cut where the separator stands first. -/
theorem cut?_eq_some_iff {text back : List Char} :
    cut? separator text = some (front, back) ↔
      text = front ++ separator :: back ∧ separator ∉ front := by
  constructor
  · intro isCut
    induction text generalizing front with
    | nil => cases isCut
    | cons first rest inductionHypothesis =>
        rw [cut?] at isCut
        split at isCut
        next isSeparator =>
          obtain ⟨rfl, rfl⟩ := Prod.mk.inj (Option.some.inj isCut)
          exact ⟨by rw [isSeparator, List.nil_append], List.not_mem_nil⟩
        next differs =>
          obtain ⟨⟨part, after⟩, restCut, same⟩ := Option.map_eq_some_iff.1 isCut
          obtain ⟨rfl, rfl⟩ := Prod.mk.inj same
          obtain ⟨rfl, absent⟩ := inductionHypothesis restCut
          refine ⟨rfl, ?_⟩
          rw [List.mem_cons, not_or]
          exact ⟨Ne.symm differs, absent⟩
  · rintro ⟨rfl, absent⟩
    exact cut?_append_cons back absent

/-! ## Two separators in a row -/

/-- A character begins no double separator if it or the next one is no separator. -/
theorem cutDouble?_cons {text : List Char}
    (single : c ≠ separator ∨ text.head? ≠ some separator) :
    cutDouble? separator (c :: text) =
      (cutDouble? separator text).map fun sides => (c :: sides.1, sides.2) := by
  cases text with
  | nil => rfl
  | cons next rest =>
      have notDouble : ¬(c = separator ∧ next = separator) := by
        intro isDouble
        obtain ⟨isFirst, isNext⟩ := isDouble
        rcases single with notFirst | notNext
        · exact notFirst isFirst
        · exact notNext (by rw [List.head?_cons, isNext])
      rw [cutDouble?, if_neg notDouble]

theorem cutDouble?_append (back : List Char) (absent : separator ∉ front) :
    cutDouble? separator (front ++ back) =
      (cutDouble? separator back).map fun sides => (front ++ sides.1, sides.2) := by
  induction front with
  | nil =>
      simp
  | cons first rest inductionHypothesis =>
      rw [List.mem_cons, not_or] at absent
      rw [List.cons_append, cutDouble?_cons (.inl (Ne.symm absent.1)),
        inductionHypothesis absent.2, Option.map_map]
      rfl

theorem head?_join_append_ne {next : List Char} (others : List (List Char))
    (back : List Char) (nonempty : next ≠ []) (absent : separator ∉ next) :
    (join separator (next :: others) ++ back).head? ≠ some separator := by
  cases next with
  | nil => exact absurd rfl nonempty
  | cons first rest =>
      rw [List.mem_cons, not_or] at absent
      cases others <;> simpa [join] using Ne.symm absent.1

/-- Parts that are not empty have no double separator between them, nor does one begin in them and
end in what follows: each separator stands alone, because the next part begins with another
character. -/
theorem cutDouble?_join_append (back : List Char)
    (nonempty : ∀ part ∈ parts, part ≠ []) (absent : ∀ part ∈ parts, separator ∉ part) :
    cutDouble? separator (join separator parts ++ back) =
      (cutDouble? separator back).map fun sides =>
        (join separator parts ++ sides.1, sides.2) := by
  induction parts with
  | nil =>
      simp [join]
  | cons part rest inductionHypothesis =>
      have headAbsent := absent part List.mem_cons_self
      cases rest with
      | nil => exact cutDouble?_append back headAbsent
      | cons next others =>
          have isNext : next ∈ part :: next :: others := by simp
          have notSeparator :=
            head?_join_append_ne others back (nonempty next isNext) (absent next isNext)
          have passed := inductionHypothesis
            (fun other isOther => nonempty other (List.mem_cons_of_mem _ isOther))
            (fun other isOther => absent other (List.mem_cons_of_mem _ isOther))
          rw [join, List.append_assoc, List.cons_append, cutDouble?_append _ headAbsent,
            cutDouble?_cons (.inr notSeparator), passed, Option.map_map, Option.map_map]
          simp [Function.comp_def]

theorem cutDouble?_join (nonempty : ∀ part ∈ parts, part ≠ [])
    (absent : ∀ part ∈ parts, separator ∉ part) :
    cutDouble? separator (join separator parts) = none := by
  simpa [cutDouble?] using cutDouble?_join_append [] nonempty absent

theorem cutDouble?_join_double (back : List Char) (nonempty : ∀ part ∈ parts, part ≠ [])
    (absent : ∀ part ∈ parts, separator ∉ part) :
    cutDouble? separator (join separator parts ++ separator :: separator :: back) =
      some (join separator parts, back) := by
  rw [cutDouble?_join_append _ nonempty absent]
  simp [cutDouble?]

end RoutingPlane.Text
