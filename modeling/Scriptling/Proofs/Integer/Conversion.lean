/-
This file says which number a text is converted to. A text that spells a number
gives the nearest one of the signed range, and every other text gives zero. The
digits of a spelled number cannot be taken for fewer or more than they are,
because nothing but white space may follow them.
-/

import Scriptling.Proofs.Token.Rereading

namespace Scriptling

/-- No digit is white space. -/
theorem Byte.isSpace_of_isDigit {byte : UInt8} (digit : isDigit byte = true) :
    isSpace byte = false := by
  unfold isSpace
  rw [(isSolid_of_isDigit digit).1, Bool.false_or, beq_eq_false_iff_ne]
  exact ne_newline_of digit (by decide)

namespace Decimal

/-- What may stand before the digits of a number, and the factor that it is for them. -/
inductive Sign : Bytes → Int → Prop
  | none : Sign [] 1
  | plus : Sign [0x2b] 1
  | minus : Sign [0x2d] (-1)

/-- A text spells a number: white space, a sign or none and all digits that follow, and then the
end or white space and whatever comes after that. -/
def Spells (text : Bytes) (number : Int) : Prop :=
  ∃ spaces mark factor run rest, text = spaces ++ (mark ++ (run ++ rest)) ∧
    (∀ byte ∈ spaces, Byte.isSpace byte = true) ∧ Sign mark factor ∧
    run ≠ [] ∧ (∀ byte ∈ run, Byte.isDigit byte = true) ∧
    (∀ byte ∈ rest.head?, Byte.isSpace byte = true) ∧ number = factor * value run

/-! ### Fitting into the signed range -/

theorem toInt_clamp (number : Int) :
    (clamp number).toInt = max Int64.minValue.toInt (min number Int64.maxValue.toInt) := by
  have least : Int64.minValue.toInt = -2 ^ 63 := by decide
  have most : Int64.maxValue.toInt = 2 ^ 63 - 1 := by decide
  unfold clamp
  refine Int64.toInt_ofInt_of_le ?_ ?_ <;> omega

/-- A number of the signed range lies nearest to itself. -/
theorem clamp_toInt (number : Int64) : clamp number.toInt = number := by
  have least : Int64.minValue.toInt = -2 ^ 63 := by decide
  have most : Int64.maxValue.toInt = 2 ^ 63 - 1 := by decide
  have above := number.le_toInt
  have below := number.toInt_lt
  unfold clamp
  rw [Int.min_eq_left (by omega), Int.max_eq_right (by omega), Int64.ofInt_toInt]

/-- What lies over the magnitudes of the signed range cannot be told apart in it. -/
theorem clamp_magnitude {mark : Bytes} {factor : Int} (sign : Sign mark factor)
    (run : Bytes) : clamp (factor * magnitude run) = clamp (factor * value run) := by
  have least : Int64.minValue.toInt = -2 ^ 63 := by decide
  have most : Int64.maxValue.toInt = 2 ^ 63 - 1 := by decide
  rw [← Int64.toInt_inj, toInt_clamp, toInt_clamp, magnitude_eq]
  cases sign <;> omega

/-! ### Taking a text apart -/

theorem takeSign_cases (text : Bytes) : ∃ mark, Sign mark (takeSign text).1 ∧
    text = mark ++ (takeSign text).2 := by
  fun_cases takeSign text
  next => exact ⟨[], .none, rfl⟩
  next => exact ⟨[0x2d], .minus, rfl⟩
  next => exact ⟨[0x2b], .plus, rfl⟩
  next => exact ⟨[], .none, rfl⟩

/-- A sign is taken off the digits that it stands before. -/
theorem takeSign_append {mark run : Bytes} {factor : Int} (sign : Sign mark factor)
    (some : run ≠ []) (digits : ∀ byte ∈ run, Byte.isDigit byte = true) (rest : Bytes) :
    takeSign (mark ++ (run ++ rest)) = (factor, run ++ rest) := by
  obtain ⟨first, others, rfl⟩ := List.exists_cons_of_ne_nil some
  have digit := digits first List.mem_cons_self
  have noSign : first ≠ 0x2d ∧ first ≠ 0x2b := by
    constructor <;> rintro rfl <;> cases digit
  cases sign with
  | none =>
    show takeSign (first :: (others ++ rest)) = _
    unfold takeSign
    dsimp only
    rw [if_neg noSign.1, if_neg noSign.2]
    rfl
  | plus => rfl
  | minus => rfl

/-! ### Texts that spell numbers and all others -/

/-- A text that spells a number stands for the nearest one of the signed range. -/
theorem Spells.read {text : Bytes} {number : Int} (spells : Spells text number) :
    read text = clamp number := by
  obtain ⟨spaces, mark, factor, run, rest, rfl, blank, sign, some, digits, ends, rfl⟩ := spells
  have signed := takeSign_append sign some digits rest
  obtain ⟨first, others, rfl⟩ := List.exists_cons_of_ne_nil some
  have opens : ∀ byte ∈ (mark ++ (first :: others ++ rest)).head?,
      Byte.isSpace byte = false := by
    cases sign <;> rintro byte same <;> cases same
    · exact Byte.isSpace_of_isDigit (digits first List.mem_cons_self)
    · rfl
    · rfl
  have stops : ∀ byte ∈ rest.head?, Byte.isDigit byte = false := fun byte same =>
    Bool.eq_false_iff.mpr fun digit => by
      cases (ends byte same).symm.trans (Byte.isSpace_of_isDigit digit)
  have parts := span_append digits stops
  unfold Decimal.read
  rw [(span_append blank opens).2, signed]
  dsimp only
  rw [parts.1, parts.2, ← clamp_magnitude sign]
  cases rest with
  | nil => rfl
  | cons byte rest => exact if_pos (ends byte rfl)

/-- A text that does not spell a number stands for zero. -/
theorem read_of_not_spells {text : Bytes} (never : ¬∃ number, Spells text number) :
    read text = 0 := by
  obtain ⟨mark, sign, split⟩ := takeSign_cases (text.dropWhile Byte.isSpace)
  have whole := List.takeWhile_append_dropWhile (p := Byte.isSpace) (l := text)
  unfold Decimal.read
  generalize text.dropWhile Byte.isSpace = signed at *
  generalize takeSign signed = taken at *
  obtain ⟨factor, rest⟩ := taken
  have spells (some : rest.takeWhile Byte.isDigit ≠ [])
      (ends : ∀ byte ∈ (rest.dropWhile Byte.isDigit).head?, Byte.isSpace byte = true) :
      ∃ number, Spells text number := by
    refine ⟨_, text.takeWhile Byte.isSpace, mark, factor, rest.takeWhile Byte.isDigit,
      rest.dropWhile Byte.isDigit, ?_, List.all_eq_true.mp List.all_takeWhile, sign, some,
      List.all_eq_true.mp List.all_takeWhile, ends, rfl⟩
    rw [List.takeWhile_append_dropWhile, ← split, whole]
  dsimp only
  split
  next => rfl
  next byte others follows some =>
    split
    next space =>
      refine absurd (spells some ?_) never
      rw [follows]
      rintro byte same
      cases same
      exact space
    next => rfl
  next ended some =>
    refine absurd (spells some ?_) never
    rw [ended]
    exact fun byte same => nomatch same

/-! ### Texts that are written of numbers -/

theorem spells_write (number : Int64) : Spells (write number) number.toInt := by
  have some := digits_ne_nil number.toInt.natAbs
  have digits (byte : UInt8) (member : byte ∈ digits number.toInt.natAbs) :
      Byte.isDigit byte = true := isDigit_of_mem_digits member
  by_cases negative : number.toInt < 0
  · refine ⟨[], [0x2d], -1, _, [], ?_, List.forall_mem_nil _, .minus, some, digits,
      fun _ same => (nomatch same), ?_⟩
    · unfold write writeInt sign
      rw [if_pos negative, List.append_nil]
      rfl
    · rw [value_digits]
      omega
  · refine ⟨[], [], 1, _, [], ?_, List.forall_mem_nil _, .none, some, digits,
      fun _ same => (nomatch same), ?_⟩
    · unfold write writeInt sign
      rw [if_neg negative, List.append_nil]
      rfl
    · rw [value_digits]
      omega

/-- A number is read back from what is written of it. -/
theorem read_write (number : Int64) : read (write number) = number := by
  rw [(spells_write number).read, clamp_toInt]

end Decimal

end Scriptling
