import Mathlib.Data.List.Basic
import SettingsCheck.Json.Reading

namespace SettingsCheck.Json

section Stages

variable (negative : Bool)

/-- The digits behind the point, if there is one; whether there is one, and what follows. -/
def readFraction (p : Parts) (rest : List Char) : Option (Parts × Bool × List Char) :=
  match rest with
  | '.' :: r =>
    let fraction := r.takeWhile isDecimalDigit
    if fraction.isEmpty then none
    else some (fraction.foldl Parts.addFraction { p with full := false }, true,
      r.dropWhile isDecimalDigit)
  | r => some (p, false, r)

/-- The number from its digits and the exponent that may follow. -/
def readExponent (p : Parts) (pointed : Bool) (rest : List Char) : Option (Json × List Char) := do
  match rest with
  | c :: r =>
    if c = 'e' || c = 'E' then
      let (down, r) := splitSign r
      let digits := r.takeWhile isDecimalDigit
      if digits.isEmpty then none
      else return (← withExponent negative p down digits, r.dropWhile isDecimalDigit)
    else if pointed then return (float (← floatOf negative p), rest)
    else return (← integerOf negative p, rest)
  | [] =>
    if pointed then return (float (← floatOf negative p), [])
    else return (← integerOf negative p, [])

/-- A number behind its sign. -/
def readUnsigned (cs : List Char) : Option (Json × List Char) := do
  let whole := cs.takeWhile isDecimalDigit
  let rest := cs.dropWhile isDecimalDigit
  if whole.isEmpty || (whole.length > 1 && whole.head? == some '0') then none
  let (p, pointed, rest) ← readFraction (whole.foldl Parts.addWhole {}) rest
  readExponent negative p pointed rest

theorem readFraction_of_no_point {p : Parts} {rest : List Char} (h : rest.head? ≠ some '.') :
    readFraction p rest = some (p, false, rest) := by
  unfold readFraction
  split
  · exact absurd rfl h
  · rfl

end Stages

/-- The reader goes through a number in three stages. -/
theorem readNumber_eq (cs : List Char) :
    readNumber cs = match cs with
      | '-' :: r => readUnsigned true r
      | r => readUnsigned false r := by
  unfold readNumber readUnsigned
  simp only [Option.bind_eq_bind, Option.bind_none]
  split
  -- with a minus and without, the digits are then read in the same way
  all_goals
    simp only
    generalize List.dropWhile isDecimalDigit _ = rest
    generalize List.takeWhile isDecimalDigit _ = whole
    split
    · rfl
    · split
      next r =>
        unfold readFraction
        simp only
        split <;> rfl
      next hpoint =>
        have hrest : rest.head? ≠ some '.' := fun heq =>
          hpoint _ (List.eq_cons_of_mem_head? heq)
        rw [readFraction_of_no_point hrest]
        rfl

/-- The exponent of a number with its mark. -/
structure Exponent where
  mark : Char
  sign : List Char
  digits : List Char
  mark_eq : mark = 'e' ∨ mark = 'E'
  sign_mem : sign ∈ [[], ['+'], ['-']]
  digits_ne_nil : digits ≠ []
  isDigits : ∀ c ∈ digits, isDecimalDigit c

def exponentText : Option Exponent → List Char
  | none => []
  | some e => e.mark :: (e.sign ++ e.digits)

/-- A number has a point only with digits behind it. -/
def fractionText (fraction : List Char) : List Char :=
  if fraction = [] then [] else '.' :: fraction

/-- A number as it is written. -/
structure Numeral where
  negative : Bool
  whole : List Char
  fraction : List Char
  exponent : Option Exponent
  whole_ne_nil : whole ≠ []
  no_leading_zero : whole.head? = some '0' → whole.length = 1
  isDigits_whole : ∀ c ∈ whole, isDecimalDigit c
  isDigits_fraction : ∀ c ∈ fraction, isDecimalDigit c

theorem isDigits_nil : ∀ c ∈ ([] : List Char), isDecimalDigit c := nofun

namespace Numeral

def text (n : Numeral) : List Char :=
  (if n.negative then ['-'] else []) ++
    (n.whole ++ (fractionText n.fraction ++ exponentText n.exponent))

/-- What the reader has of the digits before the exponent. -/
def parts (n : Numeral) : Parts :=
  let p := n.whole.foldl Parts.addWhole {}
  if n.fraction = [] then p else n.fraction.foldl Parts.addFraction { p with full := false }

/-- The number in a tree, if it is not too large for one. -/
def json? (n : Numeral) : Option Json :=
  match n.exponent with
  | some e => withExponent n.negative n.parts (e.sign = ['-']) e.digits
  | none =>
    if n.fraction = [] then integerOf n.negative n.parts
    else (floatOf n.negative n.parts).map float

/-- What follows does not go on with the number. -/
def Ends (n : Numeral) (rest : List Char) : Prop :=
  ∀ c ∈ rest.head?, ¬isDecimalDigit c ∧
    (n.exponent = none → c ≠ 'e' ∧ c ≠ 'E' ∧ (n.fraction = [] → c ≠ '.'))

end Numeral

section Digits

variable {digits rest : List Char}

theorem takeWhile_digits (hd : ∀ c ∈ digits, isDecimalDigit c)
    (hrest : ∀ c ∈ rest.head?, ¬isDecimalDigit c) :
    (digits ++ rest).takeWhile isDecimalDigit = digits := by
  rw [List.takeWhile_append_of_pos hd]
  cases rest with
  | nil => simp
  | cons c rest => simp [hrest c rfl]

theorem dropWhile_digits (hd : ∀ c ∈ digits, isDecimalDigit c)
    (hrest : ∀ c ∈ rest.head?, ¬isDecimalDigit c) :
    (digits ++ rest).dropWhile isDecimalDigit = rest := by
  rw [List.dropWhile_append_of_pos hd]
  cases rest with
  | nil => rfl
  | cons c rest => simp [hrest c rfl]

theorem head?_digits (hne : digits ≠ []) (hd : ∀ c ∈ digits, isDecimalDigit c) {c : Char}
    (hc : c ∈ (digits ++ rest).head?) : isDecimalDigit c := by
  obtain ⟨d, ds, rfl⟩ := List.exists_cons_of_ne_nil hne
  cases hc
  exact hd c List.mem_cons_self

theorem splitSign_append {sign : List Char} (hsign : sign ∈ [[], ['+'], ['-']]) (hne : digits ≠ [])
    (hd : ∀ c ∈ digits, isDecimalDigit c) :
    splitSign (sign ++ (digits ++ rest)) = (decide (sign = ['-']), digits ++ rest) := by
  simp only [List.mem_cons, List.not_mem_nil, or_false] at hsign
  rcases hsign with rfl | rfl | rfl
  · obtain ⟨d, ds, rfl⟩ := List.exists_cons_of_ne_nil hne
    have hdigit : isDecimalDigit d := hd d List.mem_cons_self
    unfold splitSign
    split
    next h => cases h; exact absurd hdigit (by decide)
    next h => cases h; exact absurd hdigit (by decide)
    next => rfl
  · rfl
  · rfl

end Digits

section Text

variable {n : Numeral} {rest : List Char}

theorem head?_exponentText (h : n.Ends rest) :
    ∀ c ∈ (exponentText n.exponent ++ rest).head?,
      ¬isDecimalDigit c ∧ (n.fraction = [] → c ≠ '.') := by
  intro c hc
  cases he : n.exponent with
  | none =>
    rw [he] at hc
    exact ⟨(h c hc).1, ((h c hc).2 he).2.2⟩
  | some e =>
    rw [he] at hc
    cases hc
    rcases e.mark_eq with hmark | hmark <;> rw [hmark] <;> exact ⟨by decide, fun _ => by decide⟩

theorem readExponent_text (h : n.Ends rest) :
    readExponent n.negative n.parts (decide (n.fraction ≠ [])) (exponentText n.exponent ++ rest) =
      n.json?.map fun j => (j, rest) := by
  have hjson (o : Option Json) : (o.bind fun j => some (j, rest)) = o.map fun j => (j, rest) :=
    Option.map_eq_bind.symm
  have hfloat (o : Option Float) :
      (o.bind fun x => some (float x, rest)) = (o.map float).map fun j => (j, rest) := by
    rw [Option.map_map]
    exact Option.map_eq_bind.symm
  unfold Numeral.json? readExponent
  cases he : n.exponent with
  | none =>
    have hrest : ∀ c ∈ rest.head?, c ≠ 'e' ∧ c ≠ 'E' := fun c hc =>
      ⟨((h c hc).2 he).1, ((h c hc).2 he).2.1⟩
    by_cases hf : n.fraction = []
    · cases rest with
      | nil => simp [exponentText, hf, hjson]
      | cons c rest => simp [exponentText, hf, hrest c rfl, hjson]
    · cases rest with
      | nil => simp [exponentText, hf, hfloat]
      | cons c rest => simp [exponentText, hf, hrest c rfl, hfloat]
  | some e =>
    have hdigits : ∀ c ∈ rest.head?, ¬isDecimalDigit c := fun c hc => (h c hc).1
    have hmark : (e.mark = 'e' || e.mark = 'E') = true := by simpa using e.mark_eq
    simp only [exponentText, List.cons_append, List.append_assoc, hmark, if_true,
      splitSign_append e.sign_mem e.digits_ne_nil e.isDigits,
      takeWhile_digits e.isDigits hdigits, dropWhile_digits e.isDigits hdigits]
    simp [e.digits_ne_nil, hjson]

theorem readFraction_text (h : n.Ends rest) :
    readFraction (n.whole.foldl Parts.addWhole {})
        (fractionText n.fraction ++ (exponentText n.exponent ++ rest)) =
      some (n.parts, decide (n.fraction ≠ []), exponentText n.exponent ++ rest) := by
  have hhead := head?_exponentText h
  unfold fractionText Numeral.parts
  by_cases hf : n.fraction = []
  · have hpoint : (exponentText n.exponent ++ rest).head? ≠ some '.' := fun heq =>
      (hhead '.' heq).2 hf rfl
    simp [hf, readFraction_of_no_point hpoint]
  · have hdigits : ∀ c ∈ (exponentText n.exponent ++ rest).head?, ¬isDecimalDigit c :=
      fun c hc => (hhead c hc).1
    unfold readFraction
    simp only [hf, if_false, List.cons_append, takeWhile_digits n.isDigits_fraction hdigits,
      dropWhile_digits n.isDigits_fraction hdigits]
    simp [hf]

theorem readUnsigned_text (h : n.Ends rest) :
    readUnsigned n.negative
        (n.whole ++ (fractionText n.fraction ++ (exponentText n.exponent ++ rest))) =
      n.json?.map fun j => (j, rest) := by
  have hdigits : ∀ c ∈ (fractionText n.fraction ++ (exponentText n.exponent ++ rest)).head?,
      ¬isDecimalDigit c := by
    unfold fractionText
    intro c hc
    split at hc
    · exact (head?_exponentText h c hc).1
    · cases hc
      decide
  have hzero : ¬(n.whole.isEmpty || (n.whole.length > 1 && n.whole.head? == some '0')) := by
    have hone := n.no_leading_zero
    simp only [Bool.or_eq_true, List.isEmpty_iff, Bool.and_eq_true, decide_eq_true_eq, beq_iff_eq]
    rintro (hnil | ⟨hlong, hhead⟩)
    · exact n.whole_ne_nil hnil
    · exact absurd (hone hhead) (by omega)
  unfold readUnsigned
  simp only [takeWhile_digits n.isDigits_whole hdigits, dropWhile_digits n.isDigits_whole hdigits,
    if_neg hzero, readFraction_text h]
  exact readExponent_text h

/-- A number is read as what its parts say, whatever follows that is no part of it. -/
theorem readNumber_text (h : n.Ends rest) :
    readNumber (n.text ++ rest) = n.json?.map fun j => (j, rest) := by
  rw [← readUnsigned_text h, readNumber_eq]
  unfold Numeral.text
  cases hneg : n.negative with
  | true => simp [List.append_assoc]
  | false =>
    simp only [Bool.false_eq_true, if_false, List.nil_append, List.append_assoc]
    split
    next heq =>
      have hhead := congrArg List.head? heq
      have hminus := head?_digits n.whole_ne_nil n.isDigits_whole hhead
      exact absurd hminus (by decide)
    next => rfl

end Text

section Scanning

/-- Digits at the front of a text, as many as there are. -/
theorem exists_digits (cs : List Char) :
    cs = cs.takeWhile isDecimalDigit ++ cs.dropWhile isDecimalDigit ∧
      (∀ c ∈ cs.takeWhile isDecimalDigit, isDecimalDigit c) ∧
      ∀ c ∈ (cs.dropWhile isDecimalDigit).head?, ¬isDecimalDigit c := by
  refine ⟨List.takeWhile_append_dropWhile.symm, fun c hc => ?_, fun c hc => ?_⟩
  · exact List.all_eq_true.mp List.all_takeWhile c hc
  · have hhead := List.head?_dropWhile_not isDecimalDigit cs
    rw [Option.mem_def.mp hc] at hhead
    simpa using hhead

theorem exists_sign (cs : List Char) :
    ∃ sign ∈ [[], ['+'], ['-']], cs = sign ++ (splitSign cs).2 := by
  unfold splitSign
  split
  · exact ⟨['+'], by simp, rfl⟩
  · exact ⟨['-'], by simp, rfl⟩
  · exact ⟨[], by simp, rfl⟩

variable {negative : Bool} {p q : Parts} {pointed : Bool} {cs rest : List Char}
  {x : Json × List Char}

theorem exists_fraction (h : readFraction p cs = some (q, pointed, rest)) :
    ∃ fraction, (∀ c ∈ fraction, isDecimalDigit c) ∧ cs = fractionText fraction ++ rest ∧
      (fraction = [] → rest = cs ∧ rest.head? ≠ some '.') ∧
      (fraction ≠ [] → ∀ c ∈ rest.head?, ¬isDecimalDigit c) := by
  unfold readFraction at h
  split at h
  next r =>
    obtain ⟨happend, hdigits, hend⟩ := exists_digits r
    simp only at h
    split at h
    · cases h
    · next hne =>
      rw [List.isEmpty_iff] at hne
      cases h
      refine ⟨_, hdigits, ?_, fun hnil => absurd hnil hne, fun _ => hend⟩
      rw [fractionText, if_neg hne, List.cons_append, ← happend]
  next hpoint =>
    cases h
    refine ⟨[], by simp, rfl, fun _ => ⟨rfl, fun heq => ?_⟩, fun hne => absurd rfl hne⟩
    exact hpoint _ (List.eq_cons_of_mem_head? heq)

theorem exists_exponent (h : readExponent negative p pointed cs = some x) :
    ∃ exponent rest, cs = exponentText exponent ++ rest ∧
      (exponent = none → ∀ c ∈ rest.head?, c ≠ 'e' ∧ c ≠ 'E') ∧
      (exponent ≠ none → ∀ c ∈ rest.head?, ¬isDecimalDigit c) := by
  unfold readExponent at h
  split at h
  next c r =>
    split at h
    next hmark =>
      simp only at h
      split at h
      · cases h
      · next hne =>
        obtain ⟨sign, hsign, hr⟩ := exists_sign r
        obtain ⟨happend, hdigits, hend⟩ := exists_digits (splitSign r).2
        rw [List.isEmpty_iff] at hne
        refine ⟨some ⟨c, sign, _, by simpa using hmark, hsign, hne, hdigits⟩, _, ?_,
          nofun, fun _ => hend⟩
        rw [exponentText, List.cons_append, List.append_assoc, ← happend, ← hr]
    next hmark =>
      refine ⟨none, _, rfl, fun _ d hd => ?_, fun hne => absurd rfl hne⟩
      cases hd
      simpa using hmark
  next => exact ⟨none, [], rfl, fun _ => nofun, fun hne => absurd rfl hne⟩

theorem exists_unsigned (h : readUnsigned negative cs = some x) :
    ∃ (n : Numeral) (rest : List Char), n.negative = negative ∧ n.Ends rest ∧
      cs = n.whole ++ (fractionText n.fraction ++ (exponentText n.exponent ++ rest)) := by
  obtain ⟨happend, hwhole, hend⟩ := exists_digits cs
  unfold readUnsigned at h
  simp only [Option.bind_eq_bind] at h
  split at h
  · cases h
  next hzero =>
  obtain ⟨⟨q, pointed, behind⟩, hfraction, hexponent⟩ := Option.bind_eq_some_iff.mp h
  obtain ⟨fraction, hdigits, htext, hplain, hpointed⟩ := exists_fraction hfraction
  obtain ⟨exponent, rest, hbehind, hmark, hmarked⟩ := exists_exponent hexponent
  simp only [Bool.or_eq_true, List.isEmpty_iff, Bool.and_eq_true, decide_eq_true_eq, beq_iff_eq,
    not_or, not_and] at hzero
  have hone : (cs.takeWhile isDecimalDigit).head? = some '0' →
      (cs.takeWhile isDecimalDigit).length = 1 := fun hhead => by
    have hpos := List.length_pos_iff.mpr hzero.1
    have hshort := mt (hzero.2 ·) (not_not_intro hhead)
    omega
  refine ⟨⟨negative, _, fraction, exponent, hzero.1, hone, hwhole, hdigits⟩, rest, rfl, ?_, ?_⟩
  · intro c hc
    cases hexp : exponent with
    | some e => exact ⟨hmarked (by simp [hexp]) c hc, fun hnone => nomatch hnone⟩
    | none =>
      -- what follows then stands behind the fraction, or behind the whole part if there is none
      rw [hexp] at hbehind
      have hbehind : behind = rest := hbehind
      subst hbehind
      refine ⟨?_, fun _ => ⟨(hmark hexp c hc).1, (hmark hexp c hc).2, fun hf heq => ?_⟩⟩
      · by_cases hf : fraction = []
        · exact hend c ((hplain hf).1 ▸ hc)
        · exact hpointed hf c hc
      · exact (hplain hf).2 (heq ▸ hc)
  · rw [← hbehind, ← htext]
    exact happend

/-- Whatever is read as a number is one, and all of it is read. -/
theorem exists_numeral {j : Json} (h : readNumber cs = some (j, rest)) :
    ∃ n : Numeral, cs = n.text ++ rest ∧ n.Ends rest ∧ n.json? = some j := by
  have hscan : ∃ (n : Numeral) (behind : List Char), cs = n.text ++ behind ∧ n.Ends behind := by
    rw [readNumber_eq] at h
    split at h
    · obtain ⟨n, behind, hneg, hends, rfl⟩ := exists_unsigned h
      exact ⟨n, behind, by simp [Numeral.text, hneg, List.append_assoc], hends⟩
    · obtain ⟨n, behind, hneg, hends, rfl⟩ := exists_unsigned h
      exact ⟨n, behind, by simp [Numeral.text, hneg, List.append_assoc], hends⟩
  obtain ⟨n, behind, rfl, hends⟩ := hscan
  rw [readNumber_text hends] at h
  obtain ⟨_, hj, heq⟩ := Option.map_eq_some_iff.mp h
  cases heq
  exact ⟨n, rfl, hends, hj⟩

end Scanning

section Whole

/-- The number of some digits behind others of the number given. -/
def valueFrom (start : Nat) (digits : List Char) : Nat :=
  digits.foldl (fun n c => 10 * n + (c.toNat - 48)) start

theorem le_valueFrom (start : Nat) (digits : List Char) : start ≤ valueFrom start digits := by
  induction digits generalizing start with
  | nil => exact Nat.le_refl start
  | cons c digits ih =>
    have hrest := ih (10 * start + (c.toNat - 48))
    rw [valueFrom, List.foldl_cons, ← valueFrom]
    omega

theorem full_addWhole {p : Parts} (h : p.full = true) (digits : List Char) :
    (digits.foldl Parts.addWhole p).full = true := by
  induction digits generalizing p with
  | nil => exact h
  | cons c digits ih => exact ih (by simp [Parts.addWhole, h])

/-- Digits before the point are kept exactly as long as their number fits in 64 bits. -/
theorem foldl_addWhole (start : Nat) (digits : List Char) (h : start < unsignedLimit) :
    let p := digits.foldl Parts.addWhole { significand := start }
    (p.full = true ↔ unsignedLimit ≤ valueFrom start digits) ∧
      (p.full = false → p.significand = valueFrom start digits) := by
  induction digits generalizing start with
  | nil => simpa [valueFrom] using h
  | cons c digits ih =>
    have hvalue : valueFrom start (c :: digits) =
        valueFrom (start * 10 + (c.toNat - 48)) digits := by
      rw [Nat.mul_comm]
      rfl
    by_cases hfits : start * 10 + (c.toNat - 48) < unsignedLimit
    · have hstep : Parts.addWhole { significand := start } c =
          { significand := start * 10 + (c.toNat - 48) } := by
        simp [Parts.addWhole, Parts.digit, hfits]
      rw [List.foldl_cons, hstep, hvalue]
      exact ih _ hfits
    · -- one digit too many: the number of all digits is at least that of these
      have hlarge := le_valueFrom (start * 10 + (c.toNat - 48)) digits
      have hfull := full_addWhole (p := Parts.addWhole { significand := start } c)
        (by simp [Parts.addWhole, Parts.digit, hfits]) digits
      rw [List.foldl_cons, hvalue]
      exact ⟨iff_of_true hfull (by omega), fun hnot => absurd hfull (by simp [hnot])⟩

end Whole

namespace Numeral

/-- An optional minus and digits, nothing else. -/
def IsPlain (n : Numeral) : Prop := n.fraction = [] ∧ n.exponent = none

/-- The integer that the sign and the digits before the point write. -/
def value (n : Numeral) : Int :=
  if n.negative then -(digitsValue n.whole : Int) else digitsValue n.whole

/-- A number of 64 bits, with the sign or without, but no zero with a minus. -/
def Fits (n : Numeral) : Prop :=
  -(signedLimit : Int) ≤ n.value ∧ n.value < unsignedLimit ∧ ¬(n.negative = true ∧ n.value = 0)

variable {n : Numeral}

instance : Decidable n.Fits := inferInstanceAs (Decidable (_ ∧ _))

theorem json?_of_isPlain (h : n.IsPlain) :
    n.json? = integerOf n.negative (n.whole.foldl Parts.addWhole {}) := by
  simp [json?, parts, h.1, h.2]

theorem fits_iff :
    n.Fits ↔ digitsValue n.whole < unsignedLimit ∧
      (n.negative = true → digitsValue n.whole ≠ 0 ∧ digitsValue n.whole ≤ signedLimit) := by
  have hlimits : signedLimit < unsignedLimit := by decide
  unfold Fits value
  cases n.negative with
  | false => simp
  | true =>
    simp only [if_true, Int.neg_le_neg_iff, Int.ofNat_le, Int.neg_eq_zero, true_and, forall_const]
    omega

/-- The reader keeps a plain integer that fits and turns any other into a float. -/
theorem json?_eq_of_isPlain (h : n.IsPlain) :
    (n.Fits → n.json? = some (integer n.value)) ∧
      (¬n.Fits → ∀ j, n.json? = some j → ∃ x, j = float x) := by
  obtain ⟨hfull, hkept⟩ := foldl_addWhole 0 n.whole (by decide)
  rw [json?_of_isPlain h, integerOf, fits_iff]
  by_cases hlarge : unsignedLimit ≤ digitsValue n.whole
  · rw [if_pos (hfull.mpr hlarge)]
    refine ⟨fun hfits => absurd hfits.1 (Nat.not_lt.mpr hlarge), fun _ j hj => ?_⟩
    obtain ⟨x, _, rfl⟩ := Option.map_eq_some_iff.mp hj
    exact ⟨x, rfl⟩
  have hnot := Bool.eq_false_iff.mpr (mt hfull.mp hlarge)
  have hvalue : _ = digitsValue n.whole := hkept hnot
  rw [hnot, hvalue, value]
  cases n.negative with
  | false => simpa using hlarge
  | true =>
    by_cases hwide : digitsValue n.whole = 0 ∨ signedLimit < digitsValue n.whole
    · refine ⟨fun hfits => absurd (hfits.2 rfl) (by omega), fun _ j hj => ?_⟩
      rw [if_neg (by decide), if_neg (by decide), if_pos (by simpa using hwide)] at hj
      obtain ⟨x, _, rfl⟩ := Option.map_eq_some_iff.mp hj
      exact ⟨x, rfl⟩
    · refine ⟨fun _ => ?_, fun hnot => absurd ⟨by omega, fun _ => by omega⟩ hnot⟩
      rw [if_neg (by decide), if_neg (by decide), if_neg (by simpa using hwide), if_pos rfl]

end Numeral

end SettingsCheck.Json
