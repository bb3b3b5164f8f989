import SettingsCheck.Base64
import SettingsCheck.Proofs.TextBytes

namespace SettingsCheck.Base64

variable {bytes text : List UInt8} {values : List Nat} {i pads : Nat}

/-- The values of the symbols for some bytes; a last group of one or two bytes is filled up with
zero bits. -/
def sextets : List UInt8 → List Nat
  | [] => []
  | [a] => [a.toNat / 4, a.toNat % 4 * 16]
  | [a, b] => [a.toNat / 4, a.toNat % 4 * 16 + b.toNat / 16, b.toNat % 16 * 4]
  | a :: b :: c :: rest =>
    (a.toNat / 4) :: (a.toNat % 4 * 16 + b.toNat / 16) :: (b.toNat % 16 * 4 + c.toNat / 64) ::
      (c.toNat % 64) :: sextets rest

/-- The number of pads behind the symbols for so many bytes. -/
def padding (n : Nat) : Nat := (3 - n % 3) % 3

theorem encode_eq (bytes : List UInt8) :
    encode bytes = (sextets bytes).map symbol ++ List.replicate (padding bytes.length) pad := by
  fun_induction encode bytes with
  | case1 => rfl
  | case2 a => rfl
  | case3 a b => rfl
  | case4 a b c rest ih =>
    have hpads : padding (a :: b :: c :: rest).length = padding rest.length := by
      simp only [padding, List.length_cons]
      omega
    rw [hpads, sextets, ih]
    rfl

theorem sextets_lt (bytes : List UInt8) : ∀ v ∈ sextets bytes, v < 64 := by
  fun_induction sextets bytes with
  | case1 => simp
  | case2 a =>
    have ha := a.toNat_lt
    simp only [List.forall_mem_cons, List.not_mem_nil, false_implies, implies_true, and_true]
    omega
  | case3 a b =>
    have ha := a.toNat_lt
    have hb := b.toNat_lt
    simp only [List.forall_mem_cons, List.not_mem_nil, false_implies, implies_true, and_true]
    omega
  | case4 a b c rest ih =>
    have ha := a.toNat_lt
    have hb := b.toNat_lt
    have hc := c.toNat_lt
    simp only [List.forall_mem_cons]
    exact ⟨by omega, by omega, by omega, by omega, ih⟩

theorem length_sextets (bytes : List UInt8) :
    (sextets bytes).length = bytes.length + (bytes.length + 2) / 3 := by
  fun_induction sextets bytes with
  | case1 => rfl
  | case2 a => simp
  | case3 a b => simp
  | case4 a b c rest ih =>
    simp only [List.length_cons, ih]
    omega

/-- A byte is put together from two of its parts. -/
theorem ofNat_eq_iff {n : Nat} {a : UInt8} : UInt8.ofNat n = a ↔ n % 256 = a.toNat := by
  rw [← UInt8.toNat_inj, UInt8.toNat_ofNat']

theorem assemble_sextets (bytes : List UInt8) : assemble (sextets bytes) = bytes := by
  fun_induction sextets bytes with
  | case1 => rfl
  | case2 a =>
    have ha := a.toNat_lt
    simp only [assemble, List.cons.injEq, ofNat_eq_iff, and_true]
    omega
  | case3 a b =>
    have ha := a.toNat_lt
    have hb := b.toNat_lt
    simp only [assemble, List.cons.injEq, ofNat_eq_iff, and_true]
    omega
  | case4 a b c rest ih =>
    have ha := a.toNat_lt
    have hb := b.toNat_lt
    have hc := c.toNat_lt
    simp only [assemble, List.cons.injEq, ofNat_eq_iff, ih, and_true]
    omega

theorem unusedBits_cons_group (a b c d : Nat) (rest : List Nat) :
    unusedBits (a :: b :: c :: d :: rest) = unusedBits rest := by
  cases rest with
  | nil => simp [unusedBits]
  | cons e rest =>
    have hlength : (a :: b :: c :: d :: e :: rest).length % 4 = (e :: rest).length % 4 := by
      simp only [List.length_cons]
      omega
    rw [unusedBits, hlength, unusedBits]
    simp only [List.getLast?_cons_cons]

theorem unusedBits_sextets (bytes : List UInt8) : unusedBits (sextets bytes) = 0 := by
  fun_induction sextets bytes with
  | case1 => rfl
  | case2 a =>
    simp [unusedBits]
  | case3 a b =>
    simp [unusedBits]
  | case4 a b c rest ih => rw [unusedBits_cons_group, ih]

theorem sextets_assemble (hvalues : ∀ v ∈ values, v < 64) (hlength : values.length % 4 ≠ 1)
    (hbits : unusedBits values = 0) : sextets (assemble values) = values := by
  fun_induction assemble values with
  | case1 a b c d rest ih =>
    simp only [List.forall_mem_cons] at hvalues
    obtain ⟨ha, hb, hc, hd, hrest⟩ := hvalues
    rw [unusedBits_cons_group] at hbits
    have hgroup : rest.length % 4 ≠ 1 := by
      simp only [List.length_cons] at hlength
      omega
    simp only [sextets, ih hrest hgroup hbits, UInt8.toNat_ofNat', List.cons.injEq, and_true]
    omega
  -- the low bits of a short last group get lost in the bytes, so they have to be zero
  | case2 a b c =>
    simp only [List.forall_mem_cons] at hvalues
    obtain ⟨ha, hb, hc, -⟩ := hvalues
    have hzero : c % 4 = 0 := by simpa [unusedBits] using hbits
    simp only [sextets, UInt8.toNat_ofNat', List.cons.injEq, and_true]
    omega
  | case3 a b =>
    simp only [List.forall_mem_cons] at hvalues
    obtain ⟨ha, hb, -⟩ := hvalues
    have hzero : b % 16 = 0 := by simpa [unusedBits] using hbits
    simp only [sextets, UInt8.toNat_ofNat', List.cons.injEq, and_true]
    omega
  | case4 values hfour hthree htwo =>
    rcases values with - | ⟨a, - | ⟨b, - | ⟨c, - | ⟨d, rest⟩⟩⟩⟩
    · rfl
    · simp at hlength
    · exact absurd rfl (htwo a b)
    · exact absurd rfl (hthree a b c)
    · exact absurd rfl (hfour a b c d rest)

theorem value?_symbol {v : Nat} (h : v < 64) : value? (symbol v) = some v ∧ symbol v ≠ pad := by
  have hall : ∀ v : Fin 64, value? (symbol v) = some v.val ∧ symbol v ≠ pad := by decide
  exact hall ⟨v, h⟩

theorem eq_symbol_of_value? {b : UInt8} {v : Nat} (h : value? b = some v) :
    b = symbol v ∧ v < 64 := by
  have hall : ∀ n : Fin 256, ∀ v ∈ value? (UInt8.ofNat n), UInt8.ofNat n = symbol v ∧ v < 64 := by
    decide +kernel
  have hb := hall ⟨b.toNat, b.toNat_lt⟩ v
  rw [UInt8.ofNat_toNat] at hb
  exact hb h

theorem scan_symbols (hvalues : ∀ v ∈ values, v < 64) :
    scan i none (values.map symbol ++ text) =
      (scan (i + values.length) none text).map fun (rest, pads) => (values ++ rest, pads) := by
  induction values generalizing i with
  | nil => cases h : scan i none text <;> simp [h, Except.map]
  | cons v values ih =>
    obtain ⟨hv, hvalues⟩ := List.forall_mem_cons.mp hvalues
    obtain ⟨hread, hpad⟩ := value?_symbol hv
    have hplace : i + 1 + values.length = i + (v :: values).length := by
      rw [List.length_cons]
      omega
    rw [List.map_cons, List.cons_append, scan, if_neg hpad, hread]
    simp only
    rw [ih hvalues, hplace]
    cases scan (i + (v :: values).length) none text <;> rfl

theorem scan_pad (firstPad : Option Nat) (text : List UInt8) :
    scan i firstPad (pad :: text) =
      if i % 4 < 2 then .error (.invalidByte (firstPad.getD i) pad)
      else (scan (i + 1) (some (firstPad.getD i)) text).map fun (values, pads) =>
        (values, pads + 1) := by
  cases firstPad <;> simp [scan]

theorem scan_pads {firstPad : Option Nat} (h : ∀ j < pads, 2 ≤ (i + j) % 4) :
    scan i firstPad (List.replicate pads pad) = .ok ([], pads) := by
  induction pads generalizing i firstPad with
  | zero => cases firstPad <;> rfl
  | succ pads ih =>
    have hfirst := h 0 (by omega)
    have hrest : ∀ j < pads, 2 ≤ (i + 1 + j) % 4 := by
      intro j hj
      have hnext := h (j + 1) (by omega)
      rwa [show i + 1 + j = i + (j + 1) by omega]
    rw [List.replicate_succ, scan_pad, if_neg (by omega), ih hrest]
    rfl

/-- A scan that goes on behind a pad has counted it, and the pad did not stand too early. -/
theorem of_scan_pad {firstPad : Option Nat}
    (h : scan i firstPad (pad :: text) = .ok (values, pads)) :
    2 ≤ i % 4 ∧ ∃ later, pads = later + 1 ∧
      scan (i + 1) (some (firstPad.getD i)) text = .ok (values, later) := by
  rw [scan_pad] at h
  split at h
  · cases h
  next hplace =>
    cases hrest : scan (i + 1) (some (firstPad.getD i)) text with
    | error e => simp [hrest, Except.map] at h
    | ok found =>
      simp only [hrest, Except.map, Except.ok.injEq, Prod.mk.injEq] at h
      obtain ⟨rfl, rfl⟩ := h
      exact ⟨by omega, found.2, rfl, rfl⟩

theorem of_scan_behind_pad {p : Nat} (h : scan i (some p) text = .ok (values, pads)) :
    values = [] ∧ text = List.replicate pads pad ∧ ∀ j < pads, 2 ≤ (i + j) % 4 := by
  induction text generalizing i p values pads with
  | nil =>
    cases h
    simp
  | cons b text ih =>
    by_cases hb : b = pad
    · subst hb
      obtain ⟨hplace, later, rfl, hrest⟩ := of_scan_pad h
      obtain ⟨rfl, rfl, hplaces⟩ := ih hrest
      refine ⟨rfl, rfl, ?_⟩
      intro j hj
      cases j with
      | zero => exact hplace
      | succ j =>
        have hnext := hplaces j (by omega)
        rwa [show i + (j + 1) = i + 1 + j by omega]
    · simp [scan, hb] at h

theorem of_scan (h : scan i none text = .ok (values, pads)) :
    text = values.map symbol ++ List.replicate pads pad ∧ (∀ v ∈ values, v < 64) ∧
      ∀ j < pads, 2 ≤ (i + values.length + j) % 4 := by
  induction text generalizing i values with
  | nil =>
    cases h
    simp
  | cons b text ih =>
    by_cases hb : b = pad
    · subst hb
      have hbehind : scan i (some i) (pad :: text) = .ok (values, pads) := by
        rwa [scan_pad] at h ⊢
      obtain ⟨rfl, htext, hplaces⟩ := of_scan_behind_pad hbehind
      exact ⟨htext, by simp, hplaces⟩
    · rw [scan, if_neg hb] at h
      simp only at h
      cases hv : value? b with
      | none => simp [hv] at h
      | some v =>
        simp only [hv] at h
        cases hrest : scan (i + 1) none text with
        | error e => simp [hrest, Except.map] at h
        | ok found =>
          simp only [hrest, Except.map, Except.ok.injEq, Prod.mk.injEq] at h
          obtain ⟨rfl, rfl⟩ := h
          obtain ⟨rfl, hvalues, hplaces⟩ := ih hrest
          obtain ⟨rfl, hlt⟩ := eq_symbol_of_value? hv
          refine ⟨rfl, List.forall_mem_cons.mpr ⟨hlt, hvalues⟩, ?_⟩
          intro j hj
          have hnext := hplaces j hj
          rw [List.length_cons]
          rwa [show i + (found.1.length + 1) + j = i + 1 + found.1.length + j by omega]

theorem decode_encode (bytes : List UInt8) : decode (encode bytes) = .ok bytes := by
  have hlength := length_sextets bytes
  have hgroups : ((sextets bytes).length + padding bytes.length) % 4 = 0 := by
    rw [hlength, padding]
    omega
  have hpads : ∀ j < padding bytes.length, 2 ≤ (0 + (sextets bytes).length + j) % 4 := by
    intro j hj
    rw [padding] at hj
    clear hgroups
    omega
  have htext : (encode bytes).length % 4 = 0 := by
    rwa [encode_eq, List.length_append, List.length_map, List.length_replicate]
  have hscan : scan 0 none (encode bytes) = .ok (sextets bytes, padding bytes.length) := by
    rw [encode_eq, scan_symbols (sextets_lt bytes), scan_pads hpads]
    simp [Except.map]
  rw [decode, if_neg (by omega), hscan]
  simp [hgroups, unusedBits_sextets, assemble_sextets]

theorem eq_encode_of_decode (h : decode text = .ok bytes) : text = encode bytes := by
  rw [decode] at h
  simp only at h
  split at h
  · split at h <;> cases h
  split at h
  · cases h
  next values pads hscan =>
  split at h
  · cases h
  next hgroups =>
  split at h
  · cases h
  next hbits =>
  obtain ⟨htext, hvalues, hplaces⟩ := of_scan hscan
  -- of three places in a row one is the first or the second of its group
  have hpads : pads < 3 := by
    apply Nat.lt_of_not_le
    intro hmany
    have hfirst := hplaces 0 (by omega)
    have hsecond := hplaces 1 (by omega)
    have hthird := hplaces 2 (by omega)
    omega
  cases h
  have hwhole : sextets (assemble values) = values :=
    sextets_assemble hvalues (by omega) (by simpa using hbits)
  have hlength := length_sextets (assemble values)
  rw [hwhole] at hlength
  have hpadding : padding (assemble values).length = pads := by
    rw [padding]
    omega
  rw [htext, encode_eq, hwhole, hpadding]

/-- What is read is the written form of the bytes. -/
theorem decode_eq_ok_iff : decode text = .ok bytes ↔ text = encode bytes := by
  constructor
  · exact eq_encode_of_decode
  · rintro rfl
    exact decode_encode bytes

theorem encode_injective {other : List UInt8} (h : encode bytes = encode other) :
    bytes = other := by
  have hdecode := decode_encode bytes
  rw [h, decode_encode] at hdecode
  exact (Except.ok.inj hdecode).symm

/-- The symbols and pads of the written form. -/
theorem forall_mem_encode {P : UInt8 → Prop} (hsymbol : ∀ n : Fin 64, P (symbol n)) (hpad : P pad) :
    ∀ b ∈ encode bytes, P b := by
  rw [encode_eq, List.forall_mem_append, List.forall_mem_map]
  constructor
  · intro v hv
    exact hsymbol ⟨v, sextets_lt bytes v hv⟩
  · intro b hb
    rw [List.eq_of_mem_replicate hb]
    exact hpad

/-- The written form as a text. -/
def written (bytes : List UInt8) : String :=
  String.ofList ((encode bytes).map fun b => Char.ofNat b.toNat)

theorem toUTF8_written (bytes : List UInt8) : (written bytes).toUTF8.toList = encode bytes := by
  apply Text.toUTF8_toList_of_ascii
  apply forall_mem_encode
  · decide
  · decide

theorem isBlank_written (bytes : List UInt8) :
    ∀ c ∈ (written bytes).toList, Text.isBlank c = false := by
  rw [written, String.toList_ofList, List.forall_mem_map]
  apply forall_mem_encode
  · decide
  · decide

theorem written_ne_empty (h : bytes ≠ []) : written bytes ≠ "" := by
  intro hempty
  have hnil : encode bytes = [] := List.map_eq_nil_iff.mp (String.ofList_eq_empty_iff.mp hempty)
  have hdecode : decode [] = .ok bytes := hnil ▸ decode_encode bytes
  exact h (Except.ok.inj hdecode).symm

end SettingsCheck.Base64
