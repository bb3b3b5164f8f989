import SettingsCheck.Proofs.FloatRange
import SettingsCheck.Proofs.Numerals
import SettingsCheck.Scalar

namespace SettingsCheck

theorem toLower_of_isDecimalDigit {c : Char} (h : isDecimalDigit c) : c.toLower = c := by
  have hle : c ≤ '9' := by
    rw [isDecimalDigit, Bool.and_eq_true] at h
    exact of_decide_eq_true h.2
  rw [Char.toLower, dif_neg]
  rintro ⟨hA, -⟩
  exact absurd (Char.le_trans hA hle) (by decide)

theorem fitsSigned_iff {n : Int} : fitsSigned n ↔ -2 ^ 63 ≤ n ∧ n < 2 ^ 63 := by
  rw [fitsSigned, Bool.and_eq_true, decide_eq_true_eq, decide_eq_true_eq]
  rfl

/-- An integer as it is written, of any length. -/
structure IntegerText where
  sign : List Char
  digits : List Char
  sign_mem : sign ∈ [[], ['+'], ['-']]
  digits_ne_nil : digits ≠ []
  isDigits : ∀ c ∈ digits, isDecimalDigit c

namespace IntegerText

variable (t : IntegerText)

def text : String := String.ofList (t.sign ++ t.digits)

def negative : Bool := t.sign = ['-']

def magnitude : Nat := digitsValue t.digits

def value : Int := if t.negative then -(t.magnitude : Int) else t.magnitude

theorem splitSign_text : splitSign t.text.toList = (t.negative, t.digits) := by
  have hsplit : splitSign (t.sign ++ (t.digits ++ [])) = (t.negative, t.digits ++ []) :=
    Json.splitSign_append t.sign_mem t.digits_ne_nil t.isDigits
  rwa [List.append_nil, ← String.toList_ofList (l := t.sign ++ t.digits)] at hsplit

theorem natural?_digits : natural? t.digits = some t.magnitude := by
  have hdigits : t.digits.all isDecimalDigit = true := List.all_eq_true.mpr t.isDigits
  simp [natural?, t.digits_ne_nil, hdigits, magnitude]

theorem integer?_text : integer? t.text = some t.value := by
  rw [integer?, splitSign_text]
  simp [natural?_digits, value]

theorem scientific?_text :
    scientific? t.text.toList = some ⟨t.negative, t.magnitude, 0⟩ := by
  have htake : (t.digits ++ []).takeWhile isDecimalDigit = t.digits :=
    Json.takeWhile_digits t.isDigits (by simp)
  have hdrop : (t.digits ++ []).dropWhile isDecimalDigit = [] :=
    Json.dropWhile_digits t.isDigits (by simp)
  rw [List.append_nil] at htake hdrop
  simp [scientific?, splitSign_text, htake, hdrop, t.digits_ne_nil, magnitude]

theorem map_toLower_digits : t.digits.map Char.toLower = t.digits :=
  (List.map_congr_left fun c hc => toLower_of_isDecimalDigit (t.isDigits c hc)).trans
    (List.map_id t.digits)

/-- Digits are none of the words for infinity and for what is no number. -/
theorem float?_text :
    float? t.text = some (Scientific.toFloat ⟨t.negative, t.magnitude, 0⟩) := by
  have hword (word : List Char) (h : word.all isDecimalDigit = false) :
      t.digits.map Char.toLower ≠ word := by
    rintro rfl
    rw [map_toLower_digits, List.all_eq_false] at h
    obtain ⟨c, hc, hnot⟩ := h
    exact hnot (t.isDigits c hc)
  have hinf := hword "inf".toList (by decide)
  have hinfinity := hword "infinity".toList (by decide)
  have hnan := hword "nan".toList (by decide)
  simp only [float?, splitSign_text, hinf, hinfinity, hnan, decide_false, Bool.or_self,
    Bool.false_eq_true, if_false, scientific?_text, Option.map_some]

theorem large_of_not_fits (h : ¬fitsSigned t.value) : 2 ^ 53 ≤ t.magnitude := by
  rw [fitsSigned_iff, value] at h
  split at h <;> omega

/-- A text of digits stands for a float just if it is beyond 64 bits and the floats go as far. -/
theorem float?_eq :
    (Value.string t.text).float? =
      if fitsSigned t.value ∨ floatLimit ≤ t.magnitude then none
      else some (Scientific.toFloat ⟨t.negative, t.magnitude, 0⟩) := by
  have hsigned : (signed64? t.text).isSome = fitsSigned t.value := by
    rw [signed64?, integer?_text]
    cases hfits : fitsSigned t.value <;> simp [Option.filter, hfits]
  simp only [Value.float?, hsigned, float?_text]
  by_cases hfits : fitsSigned t.value
  · simp only [hfits, true_or, if_true]
  · have hfinite := Scientific.isFinite_toFloat_whole (t.large_of_not_fits hfits) t.negative
    by_cases hbelow : t.magnitude < floatLimit
    · rw [if_neg hfits, if_neg (not_or.mpr ⟨hfits, Nat.not_le.mpr hbelow⟩), Option.filter_some,
        if_pos (hfinite.mpr hbelow)]
    · rw [if_neg hfits, if_pos (.inr (Nat.not_lt.mp hbelow)), Option.filter_some,
        if_neg (mt hfinite.mp hbelow)]

/-- The type takes no integer, and of the texts of digits just those of more than 64 bits that have a
finite float. -/
theorem taken_for_float_iff (n : Int) :
    (Value.string t.text).float? =
      (if fitsSigned t.value ∨ floatLimit ≤ t.magnitude then none
        else some (Scientific.toFloat ⟨t.negative, t.magnitude, 0⟩)) ∧
    (FieldType.float.accepts (.string t.text) ↔
      ¬fitsSigned t.value ∧ t.magnitude < floatLimit) ∧
    ¬FieldType.float.accepts (.integer n) := by
  refine ⟨t.float?_eq, ?_, Bool.false_ne_true⟩
  rw [FieldType.accepts, float?_eq, ← Nat.not_le, ← not_or]
  split
  case isTrue h => exact iff_of_false Bool.false_ne_true (not_not_intro h)
  case isFalse h => exact iff_of_true rfl h

example : ¬FieldType.float.accepts (.string "-9223372036854775808") := by decide
example : FieldType.float.accepts (.string "-9223372036854775809") := by decide

namespace Sample

/-- The first integer behind those of 64 bits. -/
def firstBeyond : IntegerText where
  sign := []
  digits := "9223372036854775808".toList
  sign_mem := by decide
  digits_ne_nil := by decide
  isDigits := List.all_eq_true.mp (by decide)

theorem firstBeyond_taken_for_float :
    firstBeyond.text = "9223372036854775808" ∧
    (Value.string firstBeyond.text).float? = some 9223372036854775808 ∧
    FieldType.float.accepts (.string firstBeyond.text) := by
  decide

end Sample

end IntegerText

end SettingsCheck
