import Mathlib.Data.List.Lex
import Mathlib.Data.Prod.Lex
import RoutingPlane.Topology

/-!
The order of texts by their codes, and the order of interface references by device
and interface. Different texts have different codes, so both orders are linear.
-/

namespace RoutingPlane

namespace Text

/-- The code of a character is its number, unless it is kept for a half of a pair. -/
theorem toNat_codeOf (c : Char) :
    (isHalfCode (codeOf c) = true ∧ c.toNat = codeOf c + halfDistance) ∨
      (isHalfCode (codeOf c) = false ∧ c.toNat = codeOf c) := by
  unfold codeOf
  cases half : isHalf c with
  | true =>
      simp only [isHalf, Bool.and_eq_true, decide_eq_true_eq] at half
      rw [if_pos rfl]
      exact .inl ⟨half.2, by omega⟩
  | false =>
      have valid := c.valid
      rw [if_neg Bool.false_ne_true]
      refine .inr ⟨?_, rfl⟩
      simp only [UInt32.isValidChar, Nat.isValidChar] at valid
      simp only [isHalfCode, Bool.and_eq_false_iff, decide_eq_false_iff_not, Char.toNat]
      omega

theorem codeOf_injective : Function.Injective codeOf := by
  intro left right same
  apply Char.toNat_inj.1
  rcases toNat_codeOf left with ⟨leftHalf, leftCode⟩ | ⟨leftWhole, leftCode⟩ <;>
    rcases toNat_codeOf right with ⟨rightHalf, rightCode⟩ | ⟨rightWhole, rightCode⟩ <;>
      simp_all

theorem codes_injective : Function.Injective codes := by
  intro left right same
  exact String.toList_inj.1 (List.map_injective_iff.2 codeOf_injective same)

end Text

namespace InterfaceRef

def place (ref : InterfaceRef) : List Nat ×ₗ List Nat :=
  toLex (Text.codes ref.device, Text.codes ref.interface)

theorem place_injective : Function.Injective place := by
  rintro ⟨device, interface⟩ ⟨otherDevice, otherInterface⟩ same
  obtain ⟨sameDevice, sameInterface⟩ := Prod.mk.inj (toLex.injective same)
  cases Text.codes_injective sameDevice
  cases Text.codes_injective sameInterface
  rfl

theorem notAfter_iff {left right : InterfaceRef} :
    left.notAfter right = true ↔ left.place ≤ right.place := by
  rw [place, place, Prod.Lex.toLex_le_toLex]
  simp only [notAfter, Text.notAfter, Text.comesBefore, Bool.or_eq_true, Bool.and_eq_true,
    decide_eq_true_eq, Bool.not_eq_true', decide_eq_false_iff_not, not_lt,
    Text.codes_injective.eq_iff]

end InterfaceRef

end RoutingPlane
