import RoutingPlane.Address.Reader

/-!
The numerals in an address are read as the numbers that they were printed from: the
decimal ones of bytes and lengths, and the hexadecimal ones of groups.
-/

namespace RoutingPlane.Address

/-! ## Decimal numerals -/

theorem isDecimal_toDigits (n : Nat) : isDecimal (Nat.toDigits 10 n) = true := by
  have allDigits : ∀ c ∈ Nat.toDigits 10 n, c.isDigit = true := fun _ isDigit =>
    Nat.isDigit_of_mem_toDigits (by decide) (by decide) isDigit
  simpa [isDecimal, Nat.toDigits_ne_nil] using allDigits

theorem decimalValue_toDigits (n : Nat) : decimalValue (Nat.toDigits 10 n) = n :=
  Nat.ofDigitChars_ten_toDigits

/-- No zero stands in front of the digits of a number. -/
theorem head?_toDigits_ne_zero {n : Nat} (positive : 0 < n) :
    (Nat.toDigits 10 n).head? ≠ some '0' := by
  induction n using Nat.base_induction 10 (by decide) with
  | single digit small =>
      have notZero : ∀ value < 10, 0 < value → value.digitChar ≠ '0' := by decide
      rw [Nat.toDigits_of_lt_base small, List.head?_cons, ne_eq, Option.some.injEq]
      exact notZero digit small positive
  | digit front last small frontPositive inductionHypothesis =>
      have headOfFront := inductionHypothesis frontPositive
      rw [← Nat.toDigits_append_toDigits (by decide) frontPositive small]
      cases printed : Nat.toDigits 10 front with
      | nil => exact absurd printed Nat.toDigits_ne_nil
      | cons head tail =>
          rw [printed] at headOfFront
          exact headOfFront

theorem readByte?_toDigits {n : Nat} (small : n < 256) :
    readByte? (Nat.toDigits 10 n) = some n := by
  have fewDigits : (Nat.toDigits 10 n).length ≤ 3 :=
    (Nat.length_toDigits_le_iff (by decide) (by decide)).2 (by omega)
  have noZeroInFront : Nat.toDigits 10 n = ['0'] ∨ (Nat.toDigits 10 n).head? ≠ some '0' := by
    rcases Nat.eq_zero_or_pos n with isZero | positive
    · exact .inl (by rw [isZero, Nat.toDigits_zero])
    · exact .inr (head?_toDigits_ne_zero positive)
  have isByte : n ≤ 255 := by omega
  simp [readByte?, isDecimal_toDigits, decimalValue_toDigits, fewDigits, noZeroInFront, isByte]

theorem readLength?_toDigits {version : IpVersion} {length : Nat}
    (fits : length ≤ version.width) :
    readLength? version (Nat.toDigits 10 length) = some length := by
  have atMost : version.width ≤ 128 := by cases version <;> decide
  have fewDigits : (Nat.toDigits 10 length).length ≤ 3 :=
    (Nat.length_toDigits_le_iff (by decide) (by decide)).2 (by omega)
  have readable : (Nat.toDigits 10 length).length ≤ Decimal.maxDigits :=
    Nat.le_trans fewDigits (by decide)
  simp [readLength?, isDecimal_toDigits, decimalValue_toDigits, readable, fits]

/-! ## Hexadecimal numerals -/

theorem hexValue?_digitChar : ∀ {digit : Nat}, digit < 16 →
    hexValue? digit.digitChar = some digit := by
  decide

theorem exists_digitChar_of_mem {n : Nat} {c : Char} (isDigit : c ∈ Nat.toDigits 16 n) :
    ∃ digit < 16, c = digit.digitChar := by
  induction n using Nat.base_induction 16 (by decide) with
  | single digit small =>
      rw [Nat.toDigits_of_lt_base small, List.mem_singleton] at isDigit
      exact ⟨digit, small, isDigit⟩
  | digit front last small frontPositive inductionHypothesis =>
      rw [← Nat.toDigits_append_toDigits (by decide) frontPositive small, List.mem_append,
        Nat.toDigits_of_lt_base small, List.mem_singleton] at isDigit
      rcases isDigit with inFront | isLast
      · exact inductionHypothesis inFront
      · exact ⟨last, small, isLast⟩

/-- A mark that is no hexadecimal digit stands in no group. -/
theorem not_mem_toDigits {n : Nat} {c : Char} (noDigit : hexValue? c = none) :
    c ∉ Nat.toDigits 16 n := by
  intro isDigit
  obtain ⟨digit, small, rfl⟩ := exists_digitChar_of_mem isDigit
  rw [hexValue?_digitChar small] at noDigit
  cases noDigit

/-- The digits of a number in base sixteen read back as that number. -/
theorem exists_mapM_hexValue? (n : Nat) :
    ∃ values, (Nat.toDigits 16 n).mapM hexValue? = some values ∧
      values.foldl (fun sum value => 16 * sum + value) 0 = n := by
  induction n using Nat.base_induction 16 (by decide) with
  | single digit small =>
      refine ⟨[digit], ?_, by simp⟩
      simp [Nat.toDigits_of_lt_base small, hexValue?_digitChar small]
  | digit front last small frontPositive inductionHypothesis =>
      obtain ⟨values, areValues, isFront⟩ := inductionHypothesis
      refine ⟨values ++ [last], ?_, ?_⟩
      · rw [← Nat.toDigits_append_toDigits (by decide) frontPositive small, List.mapM_append,
          areValues, Nat.toDigits_of_lt_base small]
        simp [hexValue?_digitChar small]
      · rw [List.foldl_append, isFront]
        rfl

theorem readGroup?_toDigits {n : Nat} (small : n < 65536) :
    readGroup? (Nat.toDigits 16 n) = some n := by
  have fewDigits : (Nat.toDigits 16 n).length ≤ 4 :=
    (Nat.length_toDigits_le_iff (by decide) (by decide)).2 (by omega)
  obtain ⟨values, areValues, isNumber⟩ := exists_mapM_hexValue? n
  simp [readGroup?, Nat.toDigits_ne_nil, fewDigits, areValues, isNumber]

/-! ## Groups of a number -/

/-- The leading bits of a number and the group after them are its leading bits up to
that group. -/
theorem shiftRight_append_group (n shift : Nat) :
    65536 * (n >>> (shift + 16)) + (n >>> shift) % 65536 = n >>> shift := by
  rw [Nat.shiftRight_add, Nat.shiftRight_eq_div_pow (n >>> shift) 16]
  exact Nat.div_add_mod _ _

end RoutingPlane.Address
