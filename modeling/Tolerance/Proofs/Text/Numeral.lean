import Tolerance.Text.Numeral
import Tolerance.Text.Quoted

namespace Tolerance

/-!
# Digits and what they stand for

The decimal digits of a number stand for this number, and there are no more than
the limit of them exactly if the number is below the bound.  Four hexadecimal
digits write every number below 0x10000.
-/

namespace CodePoint

/-- The code point of a digit. -/
def ofDigit (digit : Nat) : CodePoint :=
  ofChar (Nat.digitChar digit)

/-- The digits `0` to `9` stand in their order from U+0030 on. -/
theorem val_ofDigit
    {digit : Nat}
    (bound : digit < 10) :
    (ofDigit digit).val = 0x30 + digit :=
  Nat.toNat_digitChar_of_lt_ten bound

/-- A hexadecimal digit is read as its value. -/
theorem hexDigitValue?_ofDigit :
    ∀ digit < 16, (ofDigit digit).hexDigitValue? = some digit := by
  decide

/-- A hexadecimal digit is a digit or a small letter. -/
theorem ofDigit_bounds :
    ∀ digit < 16,
      0x30 ≤ (ofDigit digit).val ∧ (ofDigit digit).val ≤ 0x66 := by
  decide

end CodePoint

namespace Text

open CodePoint

/-- Four hexadecimal digits of a number. -/
theorem hexadecimal_four
    {number : Nat}
    (bound : number < 0x10000) :
    hexadecimal 4 number =
      [ofDigit (number / 0x1000), ofDigit (number / 0x100 % 0x10),
        ofDigit (number / 0x10 % 0x10), ofDigit (number % 0x10)] := by
  have next
      {number : Nat}
      (several : 16 ≤ number) :=
    Nat.toDigits_of_base_le (b := 16) (by decide) several
  unfold hexadecimal
  by_cases one : number < 0x10
  · have first : number / 0x1000 = 0 := by omega
    have second : number / 0x100 % 0x10 = 0 := by omega
    have third : number / 0x10 % 0x10 = 0 := by omega
    have fourth : number % 0x10 = number := by omega
    rw [Nat.toDigits_of_lt_base one, first, second, third, fourth]
    rfl
  by_cases two : number < 0x100
  · have first : number / 0x1000 = 0 := by omega
    have second : number / 0x100 % 0x10 = 0 := by omega
    have third : number / 0x10 % 0x10 = number / 0x10 := by omega
    rw [next (by omega), Nat.toDigits_of_lt_base (by omega), first, second,
      third]
    rfl
  by_cases three : number < 0x1000
  · have first : number / 0x1000 = 0 := by omega
    have second : number / 0x100 % 0x10 = number / 0x10 / 0x10 := by omega
    rw [next (by omega), next (by omega), Nat.toDigits_of_lt_base (by omega),
      first, second]
    rfl
  · have first : number / 0x1000 = number / 0x10 / 0x10 / 0x10 := by omega
    have second :
        number / 0x100 % 0x10 = number / 0x10 / 0x10 % 0x10 := by omega
    rw [next (by omega), next (by omega), next (by omega),
      Nat.toDigits_of_lt_base (by omega), first, second]
    rfl

theorem length_hexadecimal_four
    {number : Nat}
    (bound : number < 0x10000) :
    (hexadecimal 4 number).length = 4 := by
  rw [hexadecimal_four bound]
  rfl

end Text

namespace Numeral

open CodePoint

theorem ofNat_of_lt
    {number : Nat}
    (bound : number < 10) :
    ofNat number = [ofDigit number] := by
  rw [ofNat, Nat.toDigits_of_lt_base bound]
  rfl

/-- The last digit of a number is written behind the others. -/
theorem ofNat_of_le
    {number : Nat}
    (several : 10 ≤ number) :
    ofNat number = ofNat (number / 10) ++ [ofDigit (number % 10)] := by
  rw [ofNat, Nat.toDigits_of_base_le (by decide) several, List.map_append]
  rfl

/-- A number is written in digits. -/
theorem isDigit_of_mem_ofNat
    (number : Nat) :
    ∀ point ∈ ofNat number, point.isDigit = true := by
  have digitIsDigit
      {digit : Nat}
      (bound : digit < 10) :
      (ofDigit digit).isDigit = true := by
    simp only [isDigit, val_ofDigit bound, Bool.and_eq_true,
      decide_eq_true_eq]
    omega
  induction number using Nat.strongRecOn with
  | ind number inductionHypothesis =>
      intro point member
      by_cases single : number < 10
      · rw [ofNat_of_lt single, List.mem_singleton] at member
        exact member ▸ digitIsDigit single
      · rw [ofNat_of_le (by omega), List.mem_append,
          List.mem_singleton] at member
        rcases member with inFront | isLast
        · exact inductionHypothesis _ (by omega) point inFront
        · exact isLast ▸ digitIsDigit (by omega)

/-- The digits of a number stand for this number. -/
theorem valueOfDigits_ofNat (number : Nat) :
    valueOfDigits ((ofNat number).map fun digit => digit.val - 0x30) =
      number := by
  induction number using Nat.strongRecOn with
  | ind number inductionHypothesis =>
      by_cases single : number < 10
      · rw [ofNat_of_lt single]
        simp [valueOfDigits, val_ofDigit single]
      · have front := inductionHypothesis (number / 10) (by omega)
        rw [valueOfDigits] at front ⊢
        rw [ofNat_of_le (by omega), List.map_append, List.foldl_append, front]
        simp only [List.map_cons, List.map_nil, List.foldl_cons,
          List.foldl_nil, val_ofDigit (Nat.mod_lt number (by decide))]
        omega

/-- Some digit is written first, and it is zero for the number zero alone. -/
theorem exists_ofNat_eq_cons (number : Nat) :
    ∃ first later,
      ofNat number = first :: later ∧
        (first = 0x30 → number = 0) := by
  induction number using Nat.strongRecOn with
  | ind number inductionHypothesis =>
      by_cases single : number < 10
      · refine ⟨_, _, ofNat_of_lt single, ?_⟩
        intro isZero
        have value := val_ofDigit single
        rw [isZero] at value
        change 0x30 = 0x30 + number at value
        omega
      · obtain ⟨first, later, shape, onlyZero⟩ :=
          inductionHypothesis (number / 10) (by omega)
        refine
          ⟨first, later ++ [ofDigit (number % 10)], ?_, ?_⟩
        · rw [ofNat_of_le (by omega), shape, List.cons_append]
        · intro isZero
          have frontIsZero := onlyZero isZero
          omega

/-- How many digits a number has at most is a matter of a power of ten. -/
theorem length_ofNat_le_iff
    {number digits : Nat}
    (some : 0 < digits) :
    (ofNat number).length ≤ digits ↔ number < Nat.pow 10 digits := by
  rw [ofNat, List.length_map, Nat.length_toDigits_le_iff (by decide) some,
    Nat.pow_eq]

/-- A number below the bound has no more digits than the limit. -/
theorem length_ofNat_le
    {number : Nat}
    (small : number < bound) :
    (ofNat number).length ≤ digitLimit := by
  unfold bound at small
  exact (length_ofNat_le_iff (by decide)).mpr small

/-- Only a number below the bound is written, and then with all its digits. -/
theorem write_eq_ok_iff
    {number : Int}
    {written : Text} :
    write number = .ok written ↔
      number.natAbs < bound ∧ written = ofInt number := by
  unfold write
  split
  · next small =>
      constructor
      · intro same
        cases same
        exact ⟨small, rfl⟩
      · rintro ⟨_, rfl⟩
        rfl
  · next large =>
      constructor
      · intro same
        cases same
      · rintro ⟨small, _⟩
        exact (large small).elim

end Numeral

end Tolerance
