/-
Numbers spelled in digits.

A number is written most significant digit first and without leading zeros. A
reader takes all the digits at the front of a text, within its limits.
-/

import Mathlib.Data.List.TakeWhile
import Mathlib.Data.Nat.Digits.Lemmas
import Pavis.Library.ByteText

namespace DigitText

open ByteText

def digitValue (byte : UInt8) : Option Nat :=
  if 48 ≤ byte ∧ byte ≤ 57 then some (byte.toNat - 48)
  else if 97 ≤ byte ∧ byte ≤ 122 then some (byte.toNat - 97 + 10)
  else if 65 ≤ byte ∧ byte ≤ 90 then some (byte.toNat - 65 + 10)
  else none

def toDigit (radix : Nat) (byte : UInt8) : Option Nat :=
  (digitValue byte).filter (fun digit => digit < radix)

def isDigit (radix : Nat) (byte : UInt8) : Bool := (toDigit radix byte).isSome

def addDigit (radix number : Nat) (byte : UInt8) : Nat :=
  number * radix + (toDigit radix byte).getD 0

def valueOf (radix : Nat) (digits : Text) : Nat := digits.foldl (addDigit radix) 0

def spell (radix number : Nat) : Text := (Nat.toDigits radix number).map ascii

def readNumber (radix : Nat) (maxDigits : Option Nat) (allowZeroPrefix : Bool) (bound : Nat)
    (text : Text) : Option (Nat × Text) :=
  let digits := text.takeWhile (isDigit radix)
  let hasLeadingZero := digits.head? == some (ascii '0')
  if digits = [] then none
  else if maxDigits.any (fun most => most < digits.length) then none
  else if !allowZeroPrefix && hasLeadingZero && 1 < digits.length then none
  else if valueOf radix digits < bound then
    some (valueOf radix digits, text.dropWhile (isDigit radix))
  else none

/-- Decimal digits, after one plus sign at most, of a number below `2 ^ 64`. -/
def parseU64 (text : Text) : Option Nat :=
  let digits := (stripPrefix text (literal "+")).getD text
  if digits ≠ [] ∧ digits.all (isDigit 10) = true ∧ valueOf 10 digits < 2 ^ 64 then
    some (valueOf 10 digits)
  else none

section

variable {radix : Nat}

theorem digitValue_digitChar : ∀ digit : Fin 16,
    digitValue (ascii (Nat.digitChar digit)) = some digit.val := by
  decide

theorem toDigit_digitChar (small : radix ≤ 16) {digit : Nat} (below : digit < radix) :
    toDigit radix (ascii (Nat.digitChar digit)) = some digit := by
  have found := digitValue_digitChar ⟨digit, by omega⟩
  unfold toDigit
  rw [found]
  simp [below]

theorem isDigit_digitChar (small : radix ≤ 16) {digit : Nat} (below : digit < radix) :
    isDigit radix (ascii (Nat.digitChar digit)) = true := by
  unfold isDigit
  rw [toDigit_digitChar small below]
  rfl

variable {number : Nat}

theorem spell_of_lt (below : number < radix) :
    spell radix number = [ascii (Nat.digitChar number)] := by
  unfold spell
  rw [Nat.toDigits_of_lt_base below]
  rfl

theorem spell_of_le (large : 1 < radix) (least : radix ≤ number) :
    spell radix number =
      spell radix (number / radix) ++ [ascii (Nat.digitChar (number % radix))] := by
  unfold spell
  rw [Nat.toDigits_of_base_le large least, List.map_append]
  rfl

theorem spell_length_pos (radix number : Nat) : 0 < (spell radix number).length := by
  unfold spell
  rw [List.length_map]
  exact Nat.length_toDigits_pos

theorem spell_ne_nil (radix number : Nat) : spell radix number ≠ [] :=
  List.ne_nil_of_length_pos (spell_length_pos radix number)

theorem spell_induction (large : 1 < radix) {property : Nat → Prop}
    (single : ∀ number, number < radix → property number)
    (longer : ∀ number, radix ≤ number → property (number / radix) → property number)
    (number : Nat) : property number := by
  induction number using Nat.strong_induction_on with
  | _ number ih =>
    by_cases below : number < radix
    · exact single number below
    · have least : radix ≤ number := Nat.le_of_not_lt below
      exact longer number least (ih _ (Nat.div_lt_self (by omega) large))

theorem spell_digits (large : 1 < radix) (small : radix ≤ 16) (number : Nat) :
    ∀ byte ∈ spell radix number, isDigit radix byte = true := by
  apply spell_induction large _ _ number
  · intro number below byte member
    rw [spell_of_lt below, List.mem_singleton] at member
    rw [member]
    exact isDigit_digitChar small below
  · intro number least ih byte member
    rw [spell_of_le large least, List.mem_append, List.mem_singleton] at member
    rcases member with earlier | rfl
    · exact ih byte earlier
    · exact isDigit_digitChar small (Nat.mod_lt _ (by omega))

theorem valueOf_spell (large : 1 < radix) (small : radix ≤ 16) (number : Nat) :
    valueOf radix (spell radix number) = number := by
  apply spell_induction large _ _ number
  · intro number below
    rw [spell_of_lt below]
    simp [valueOf, addDigit, toDigit_digitChar small below]
  · intro number least ih
    have below : number % radix < radix := Nat.mod_lt _ (by omega)
    rw [spell_of_le large least]
    unfold valueOf at ih ⊢
    rw [List.foldl_append, ih, List.foldl_cons, List.foldl_nil]
    unfold addDigit
    rw [toDigit_digitChar small below]
    exact Nat.div_add_mod' number radix

theorem digitChar_ne_zero : ∀ digit : Fin 16,
    digit.val ≠ 0 → ascii (Nat.digitChar digit) ≠ ascii '0' := by
  decide

theorem spell_head (large : 1 < radix) (small : radix ≤ 16) (number : Nat) :
    0 < number → (spell radix number).head? ≠ some (ascii '0') := by
  apply spell_induction large _ _ number
  · intro number below positive leading
    rw [spell_of_lt below] at leading
    exact digitChar_ne_zero ⟨number, by omega⟩ (Nat.ne_of_gt positive) (Option.some.inj leading)
  · intro number least ih _ leading
    rw [spell_of_le large least, List.head?_append_of_ne_nil _ (spell_ne_nil radix _)] at leading
    exact ih (Nat.div_pos least (by omega)) leading

theorem spell_length_of_zero (large : 1 < radix) (small : radix ≤ 16) (number : Nat)
    (leading : (spell radix number).head? = some (ascii '0')) :
    (spell radix number).length = 1 := by
  rcases Nat.eq_zero_or_pos number with rfl | positive
  · rw [spell_of_lt (by omega)]
    rfl
  · exact absurd leading (spell_head large small number positive)

theorem spell_length_le (large : 1 < radix) {most : Nat} (positive : 0 < most)
    (fits : number < radix ^ most) : (spell radix number).length ≤ most := by
  unfold spell
  rw [List.length_map]
  exact (Nat.length_toDigits_le_iff large positive).mpr fits

end

section

variable {radix : Nat} {maxDigits : Option Nat} {allowZeroPrefix : Bool} {bound : Nat}

def EndsNumber (radix : Nat) (rest : Text) : Prop :=
  ∀ byte, rest.head? = some byte → isDigit radix byte = false

variable {rest text : Text} {number : Nat}

theorem EndsNumber.cons {byte : UInt8} (stops : isDigit radix byte = false) :
    EndsNumber radix (byte :: rest) := by
  intro first leading
  cases leading
  exact stops

theorem isDigit_mono {larger : Nat} (ordered : radix ≤ larger) {byte : UInt8}
    (digit : isDigit radix byte = true) : isDigit larger byte = true := by
  unfold isDigit toDigit at digit ⊢
  obtain ⟨value, found⟩ := Option.isSome_iff_exists.mp digit
  rw [Option.filter_eq_some_iff, decide_eq_true_eq] at found
  rw [Option.isSome_iff_exists]
  refine ⟨value, Option.filter_eq_some_iff.mpr ⟨found.1, ?_⟩⟩
  exact decide_eq_true (Nat.lt_of_lt_of_le found.2 ordered)

theorem EndsNumber.mono {larger : Nat} (ordered : radix ≤ larger) (ended : EndsNumber larger rest) :
    EndsNumber radix rest := by
  intro byte leading
  cases digit : isDigit radix byte with
  | false => rfl
  | true =>
    have larger := isDigit_mono ordered digit
    rw [ended byte leading] at larger
    cases larger

theorem takeWhile_digits {digits : Text} (all : ∀ byte ∈ digits, isDigit radix byte = true)
    (ended : EndsNumber radix rest) :
    (digits ++ rest).takeWhile (isDigit radix) = digits ∧
      (digits ++ rest).dropWhile (isDigit radix) = rest := by
  rw [List.takeWhile_append_of_pos all, List.dropWhile_append_of_pos all]
  cases rest with
  | nil => simp
  | cons byte =>
    have stops := ended byte rfl
    simp [stops]

theorem readNumber_spell (large : 1 < radix) (small : radix ≤ 16) (below : number < bound)
    (fits : ∀ most, maxDigits = some most → 0 < most ∧ number < radix ^ most)
    (ended : EndsNumber radix rest) :
    readNumber radix maxDigits allowZeroPrefix bound (spell radix number ++ rest) =
      some (number, rest) := by
  obtain ⟨taken, left⟩ := takeWhile_digits (spell_digits large small number) ended
  have notTooLong :
      maxDigits.any (fun most => most < (spell radix number).length) = false := by
    cases maxDigits with
    | none => rfl
    | some most =>
      obtain ⟨positive, short⟩ := fits most rfl
      have length := spell_length_le large positive short
      simpa using length
  have noPrefix :
      (!allowZeroPrefix && (spell radix number).head? == some (ascii '0') &&
        decide (1 < (spell radix number).length)) = false := by
    by_cases leading : (spell radix number).head? = some (ascii '0')
    · rw [spell_length_of_zero large small number leading]
      simp
    · simp [leading]
  unfold readNumber
  rw [taken, left]
  simp [spell_ne_nil, notTooLong, noPrefix, valueOf_spell large small, below]

theorem readNumber_endsNumber (ended : EndsNumber radix text) :
    readNumber radix maxDigits allowZeroPrefix bound text = none := by
  cases text with
  | nil => rfl
  | cons byte =>
    have stops := ended byte rfl
    simp [readNumber, stops]

theorem readNumber_lt
    (read : readNumber radix maxDigits allowZeroPrefix bound text = some (number, rest)) :
    number < bound := by
  unfold readNumber at read
  simp only [Option.ite_none_left_eq_some, Option.ite_none_right_eq_some, Option.some.injEq,
    Prod.mk.injEq] at read
  obtain ⟨_, _, _, below, same, _⟩ := read
  exact same ▸ below

theorem readNumber_rest
    (read : readNumber radix maxDigits allowZeroPrefix bound text = some (number, rest)) :
    rest = text.dropWhile (isDigit radix) := by
  unfold readNumber at read
  simp only [Option.ite_none_left_eq_some, Option.ite_none_right_eq_some, Option.some.injEq,
    Prod.mk.injEq] at read
  obtain ⟨_, _, _, _, _, left⟩ := read
  exact left.symm

end

theorem parseU64_digits {digits : Text} (nonempty : digits ≠ [])
    (all : digits.all (isDigit 10) = true) :
    parseU64 digits = if valueOf 10 digits < 2 ^ 64 then some (valueOf 10 digits) else none := by
  have unsigned : stripPrefix digits (literal "+") = none := by
    cases stripped : stripPrefix digits (literal "+") with
    | none => rfl
    | some rest =>
      rw [eq_append_of_stripPrefix stripped] at all
      cases all
  simp only [parseU64, unsigned, Option.getD_none, ne_eq, nonempty, not_false_eq_true, all,
    true_and]

/-! ### Padding -/

def padded (radix width number : Nat) : Text :=
  List.replicate (width - (spell radix number).length) (ascii '0') ++ spell radix number

section

variable {radix : Nat}

theorem valueOf_append_singleton (radix : Nat) (front : Text) (last : UInt8) :
    valueOf radix (front ++ [last]) =
      valueOf radix front * radix + (toDigit radix last).getD 0 := by
  unfold valueOf
  rw [List.foldl_append]
  rfl

theorem isDigit_zero (large : 1 < radix) : isDigit radix (ascii '0') = true := by
  have found : digitValue (ascii '0') = some 0 := by decide
  have positive : 0 < radix := by omega
  unfold isDigit toDigit
  rw [found]
  simp [positive]

theorem valueOf_zeros (large : 1 < radix) (count : Nat) :
    valueOf radix (List.replicate count (ascii '0')) = 0 := by
  have found : toDigit radix (ascii '0') = some 0 := by
    have positive : 0 < radix := by omega
    have value : digitValue (ascii '0') = some 0 := by decide
    unfold toDigit
    rw [value]
    simp [positive]
  induction count with
  | zero => rfl
  | succ count ih =>
    rw [List.replicate_succ', valueOf_append_singleton, ih, found]
    simp

theorem valueOf_padded (large : 1 < radix) (small : radix ≤ 16) (width number : Nat) :
    valueOf radix (padded radix width number) = number := by
  have zeros := valueOf_zeros large (width - (spell radix number).length)
  have spelled := valueOf_spell large small number
  unfold padded
  unfold valueOf at zeros spelled ⊢
  rw [List.foldl_append, zeros, spelled]

theorem padded_digits (large : 1 < radix) (small : radix ≤ 16) (width number : Nat) :
    ∀ byte ∈ padded radix width number, isDigit radix byte = true := by
  intro byte member
  rcases List.mem_append.mp member with filling | spelled
  · rw [List.eq_of_mem_replicate filling]
    exact isDigit_zero large
  · exact spell_digits large small number byte spelled

theorem padded_length (radix width number : Nat) :
    (padded radix width number).length = max width (spell radix number).length := by
  unfold padded
  rw [List.length_append, List.length_replicate]
  omega

theorem padded_length_eq_iff (large : 1 < radix) {width : Nat} (positive : 0 < width)
    (number : Nat) : (padded radix width number).length = width ↔ number < radix ^ width := by
  have digits : (spell radix number).length ≤ width ↔ number < radix ^ width := by
    unfold spell
    rw [List.length_map]
    exact Nat.length_toDigits_le_iff large positive
  rw [padded_length, ← digits]
  omega

variable {digit : Nat}

theorem toDigit_lt {byte : UInt8} (found : toDigit radix byte = some digit) : digit < radix :=
  of_decide_eq_true (Option.filter_eq_some_iff.mp found).2

theorem valueOf_lt {digits : Text} (all : ∀ byte ∈ digits, isDigit radix byte = true) :
    valueOf radix digits < radix ^ digits.length := by
  induction digits using List.reverseRecOn with
  | nil => exact Nat.one_pos
  | append_singleton front last ih =>
    have frontSmall := ih fun byte member => all byte (List.mem_append_left _ member)
    obtain ⟨digit, found⟩ := Option.isSome_iff_exists.mp
      (all last (List.mem_append_right _ List.mem_cons_self))
    have below := toDigit_lt found
    rw [valueOf_append_singleton, found, List.length_append, List.length_singleton, Nat.pow_succ]
    have scaled : (valueOf radix front + 1) * radix ≤ radix ^ front.length * radix :=
      Nat.mul_le_mul_right radix frontSmall
    rw [Nat.add_mul] at scaled
    simp only [Option.getD_some]
    omega

theorem toNat_of_digitValue {byte : UInt8} (found : digitValue byte = some digit)
    (decimal : digit < 10) : byte.toNat = digit + 48 := by
  unfold digitValue at found
  split_ifs at found with digits lower upper
  · have least : 48 ≤ byte.toNat := UInt8.le_iff_toNat_le.mp digits.1
    have value := Option.some.inj found
    omega
  · have value := Option.some.inj found
    omega
  · have value := Option.some.inj found
    omega

theorem toDigit_inj (decimal : radix ≤ 10) {left right : UInt8}
    (leftFound : toDigit radix left = some digit) (rightFound : toDigit radix right = some digit) :
    left = right := by
  have below : digit < 10 := Nat.lt_of_lt_of_le (toDigit_lt leftFound) decimal
  have leftValue := toNat_of_digitValue (Option.filter_eq_some_iff.mp leftFound).1 below
  have rightValue := toNat_of_digitValue (Option.filter_eq_some_iff.mp rightFound).1 below
  exact UInt8.toNat_inj.mp (leftValue.trans rightValue.symm)

theorem valueOf_inj (decimal : radix ≤ 10) {left right : Text}
    (leftAll : ∀ byte ∈ left, isDigit radix byte = true)
    (rightAll : ∀ byte ∈ right, isDigit radix byte = true) (lengths : left.length = right.length)
    (values : valueOf radix left = valueOf radix right) : left = right := by
  induction left using List.reverseRecOn generalizing right with
  | nil => exact (List.length_eq_zero_iff.mp lengths.symm).symm
  | append_singleton front last ih =>
    rcases List.eq_nil_or_concat' right with rfl | ⟨otherFront, otherLast, rfl⟩
    · simp at lengths
    · obtain ⟨digit, found⟩ := Option.isSome_iff_exists.mp
        (leftAll last (List.mem_append_right _ List.mem_cons_self))
      obtain ⟨otherDigit, otherFound⟩ := Option.isSome_iff_exists.mp
        (rightAll otherLast (List.mem_append_right _ List.mem_cons_self))
      have below := toDigit_lt found
      have otherBelow := toDigit_lt otherFound
      rw [valueOf_append_singleton, valueOf_append_singleton, found, otherFound] at values
      simp only [Option.getD_some] at values
      have positive : 0 < radix := by omega
      have digits : digit = otherDigit := by
        have remainders := congrArg (· % radix) values
        simpa [Nat.mul_add_mod_of_lt, Nat.mod_eq_of_lt below, Nat.mod_eq_of_lt otherBelow,
          Nat.add_mod, Nat.mul_mod_left] using remainders
      subst digits
      have fronts : valueOf radix front = valueOf radix otherFront :=
        Nat.eq_of_mul_eq_mul_right positive (Nat.add_right_cancel values)
      have same := ih (fun byte member => leftAll byte (List.mem_append_left _ member))
        (fun byte member => rightAll byte (List.mem_append_left _ member))
        (by simpa using lengths) fronts
      rw [same, toDigit_inj decimal found otherFound]

theorem padded_valueOf (large : 1 < radix) (decimal : radix ≤ 10) {digits : Text}
    (some : digits ≠ []) (all : ∀ byte ∈ digits, isDigit radix byte = true) :
    padded radix digits.length (valueOf radix digits) = digits := by
  have small : radix ≤ 16 := by omega
  refine valueOf_inj decimal (padded_digits large small _ _) all ?_ (valueOf_padded large small _ _)
  exact (padded_length_eq_iff large (List.length_pos_of_ne_nil some) _).mpr (valueOf_lt all)

theorem padded_inj (large : 1 < radix) (small : radix ≤ 16) {width left right : Nat}
    (same : padded radix width left = padded radix width right) : left = right := by
  rw [← valueOf_padded large small width left, same, valueOf_padded large small]

end

end DigitText
