import Mathlib.Algebra.Ring.Nat
import SettingsCheck.Builtin.Key
import SettingsCheck.Proofs.Pieces
import SettingsCheck.Proofs.WrittenBytes

namespace SettingsCheck.Builtin

/-- A number below 2 ^ 32 in four bytes, the highest first. -/
def lengthBytes (n : Nat) : List UInt8 :=
  [UInt8.ofNat (n / 2 ^ 24), UInt8.ofNat (n / 2 ^ 16), UInt8.ofNat (n / 2 ^ 8), UInt8.ofNat n]

/-- The first four bytes are the length of the type, and those behind them are its letters. -/
def Declares (type : String) (blob : List UInt8) : Prop :=
  4 + type.utf8ByteSize ≤ blob.length ∧ blob.take 4 = lengthBytes type.utf8ByteSize ∧
    (blob.drop 4).take type.utf8ByteSize = type.toUTF8.toList

/-- A known type and, in base 64, a payload that starts with it; the two are the first fields of the
line. -/
def KeyLine (line : String) : Prop :=
  ∃ type payload comment blob, Text.words (Text.trim line) = type :: payload :: comment ∧
    type ∈ sshKeyTypes ∧ payload.toUTF8.toList = Base64.encode blob ∧ Declares type blob

/-- The bytes behind a length, each of them read at a place that the payload has. -/
def readName? (blob : List UInt8) : Option (List UInt8) :=
  if _ : 4 ≤ blob.length then
    let n := bigEndian [blob[0], blob[1], blob[2], blob[3]]
    if _ : 4 + n ≤ blob.length then some (List.ofFn fun i : Fin n => blob[4 + i.val]) else none
  else none

variable {blob head name : List UInt8} {line type : String} {n : Nat}

theorem exists_four (h : 4 ≤ blob.length) : ∃ a b c d rest, blob = a :: b :: c :: d :: rest := by
  rcases blob with - | ⟨a, - | ⟨b, - | ⟨c, - | ⟨d, rest⟩⟩⟩⟩
  · simp at h
  · simp at h
  · simp at h
  · simp at h
  · exact ⟨a, b, c, d, rest, rfl⟩

theorem bigEndian_four (a b c d : UInt8) :
    bigEndian [a, b, c, d] =
      ((a.toNat * 256 + b.toNat) * 256 + c.toNat) * 256 + d.toNat := by
  simp only [bigEndian, List.foldl_cons, List.foldl_nil]
  omega

theorem foldl_bytes_lt (bytes : List UInt8) (n : Nat) :
    bytes.foldl (fun n b => 256 * n + b.toNat) n < (n + 1) * 256 ^ bytes.length := by
  induction bytes generalizing n with
  | nil => simp
  | cons b bytes ih =>
    have hb := b.toNat_lt
    calc (b :: bytes).foldl (fun n b => 256 * n + b.toNat) n
        < (256 * n + b.toNat + 1) * 256 ^ bytes.length := ih (256 * n + b.toNat)
      _ ≤ (n + 1) * 256 * 256 ^ bytes.length := Nat.mul_le_mul_right _ (by omega)
      _ = (n + 1) * 256 ^ (b :: bytes).length := by
        rw [List.length_cons, Nat.pow_succ, Nat.mul_assoc, Nat.mul_comm 256]

theorem bigEndian_take_four_lt (blob : List UInt8) : bigEndian (blob.take 4) < 2 ^ 32 := by
  have hlt := foldl_bytes_lt (blob.take 4) 0
  have hpow : 256 ^ (blob.take 4).length ≤ 256 ^ 4 :=
    Nat.pow_le_pow_right (by decide) (List.length_take_le 4 blob)
  rw [bigEndian]
  omega

theorem bigEndian_eq_iff (hhead : head.length = 4) (hn : n < 2 ^ 32) :
    bigEndian head = n ↔ head = lengthBytes n := by
  obtain ⟨a, b, c, d, rest, rfl⟩ := exists_four hhead.ge
  obtain rfl : rest = [] := by simpa using hhead
  have ha := a.toNat_lt
  have hb := b.toNat_lt
  have hc := c.toNat_lt
  have hd := d.toNat_lt
  simp only [bigEndian_four, lengthBytes, List.cons.injEq, ← UInt8.toNat_inj, UInt8.toNat_ofNat',
    and_true]
  omega

theorem lengthPrefixed?_eq_readName? (blob : List UInt8) :
    lengthPrefixed? blob = readName? blob := by
  by_cases hfour : 4 ≤ blob.length
  · obtain ⟨a, b, c, d, rest, rfl⟩ := exists_four hfour
    have hhead : (a :: b :: c :: d :: rest).take 4 = [a, b, c, d] := rfl
    have hrest : (a :: b :: c :: d :: rest).drop 4 = rest := rfl
    simp only [lengthPrefixed?, readName?, hhead, hrest, dif_pos hfour,
      if_neg (Nat.not_lt.mpr hfour), List.getElem_cons_zero, List.getElem_cons_succ]
    simp only [List.length_cons]
    by_cases hlength : rest.length < bigEndian [a, b, c, d]
    · rw [if_pos hlength, dif_neg (by omega)]
    · rw [if_neg hlength, dif_pos (by omega)]
      congr 1
      apply List.ext_getElem
      · rw [List.length_take, List.length_ofFn]
        omega
      · intro i _ _
        simp [Nat.add_comm 4 i]
  · simp only [lengthPrefixed?, readName?]
    rw [if_pos (by omega), dif_neg hfour]

theorem lengthPrefixed?_eq_some_iff :
    lengthPrefixed? blob = some name ↔
      4 + name.length ≤ blob.length ∧ bigEndian (blob.take 4) = name.length ∧
        (blob.drop 4).take name.length = name := by
  simp only [lengthPrefixed?]
  constructor
  · intro h
    split at h
    · cases h
    next hfour =>
    split at h
    · cases h
    next hlength =>
    cases h
    rw [List.length_drop] at hlength
    have hname : ((blob.drop 4).take (bigEndian (blob.take 4))).length =
        bigEndian (blob.take 4) := by
      rw [List.length_take, List.length_drop]
      omega
    rw [hname]
    exact ⟨by omega, rfl, rfl⟩
  · rintro ⟨hlength, hcount, hname⟩
    rw [if_neg (by omega), hcount, if_neg (by rw [List.length_drop]; omega), hname]

theorem embeddedType?_eq_some_iff (hsize : type.utf8ByteSize < 2 ^ 32) :
    embeddedType? blob = some type ↔ Declares type blob := by
  have hname : embeddedType? blob = some type ↔
      lengthPrefixed? blob = some type.toUTF8.toList := by
    simp only [embeddedType?, Option.bind_eq_bind, Option.bind_eq_some_iff,
      Text.fromUTF8?_eq_some_iff]
    simp
  rw [hname, lengthPrefixed?_eq_some_iff, Text.length_toUTF8_toList, Declares]
  refine and_congr_right fun hlength => and_congr_left fun _ => ?_
  exact bigEndian_eq_iff (by rw [List.length_take]; omega) hsize

theorem size_of_mem_sshKeyTypes : ∀ type ∈ sshKeyTypes, type.utf8ByteSize < 2 ^ 32 := by
  decide

theorem checkKeyLine_eq_ok_iff_of_words {payload : String} {comment : List String}
    (hwords : Text.words line = type :: payload :: comment) :
    checkKeyLine line = .ok () ↔ type ∈ sshKeyTypes ∧
      ∃ blob, payload.toUTF8.toList = Base64.encode blob ∧ Declares type blob := by
  simp only [checkKeyLine, hwords, ← Base64.decode_eq_ok_iff]
  by_cases htype : type ∈ sshKeyTypes
  · rw [if_neg (by simpa using htype), and_iff_right htype]
    cases hdecode : Base64.decode payload.toUTF8.toList with
    | error e => simp
    | ok blob =>
      simp only [Except.ok.injEq, exists_eq_left',
        ← embeddedType?_eq_some_iff (size_of_mem_sshKeyTypes type htype)]
      cases hembedded : embeddedType? blob with
      | none => simp
      | some embedded => simp
  · rw [if_pos (by simpa using htype)]
    simp [htype]

theorem checkKeyLine_eq_ok_iff : checkKeyLine line = .ok () ↔ KeyLine line := by
  rw [KeyLine, Text.words_trim]
  constructor
  · intro h
    rcases hwords : Text.words line with - | ⟨type, - | ⟨payload, comment⟩⟩
    · simp [checkKeyLine, hwords] at h
    · simp [checkKeyLine, hwords] at h
    · obtain ⟨htype, blob, hpayload, hdeclares⟩ := (checkKeyLine_eq_ok_iff_of_words hwords).mp h
      exact ⟨type, payload, comment, blob, rfl, htype, hpayload, hdeclares⟩
  · rintro ⟨type, payload, comment, blob, hwords, htype, hpayload, hdeclares⟩
    exact (checkKeyLine_eq_ok_iff_of_words hwords).mpr ⟨htype, blob, hpayload, hdeclares⟩

/-- The payload for a type, with anything behind the type. -/
def payloadFor (type : String) (tail : List UInt8) : String :=
  Base64.written (lengthBytes type.utf8ByteSize ++ type.toUTF8.toList ++ tail)

theorem declares_append (type : String) (tail : List UInt8) :
    Declares type (lengthBytes type.utf8ByteSize ++ type.toUTF8.toList ++ tail) := by
  have hlength := Text.length_toUTF8_toList type
  have hfour : (lengthBytes type.utf8ByteSize).length = 4 := rfl
  rw [List.append_assoc]
  refine ⟨?_, List.take_left' hfour, ?_⟩
  · rw [List.length_append, List.length_append, hlength, hfour]
    omega
  · rw [List.drop_left' hfour, List.take_left' hlength]

/-- A payload starts with one type only. -/
theorem Declares.unique {a b : String} (ha : Declares a blob) (hb : Declares b blob)
    (hasize : a.utf8ByteSize < 2 ^ 32) (hbsize : b.utf8ByteSize < 2 ^ 32) : a = b := by
  have hread (hfour : (blob.take 4).length = 4) : a.utf8ByteSize = b.utf8ByteSize := by
    rw [← (bigEndian_eq_iff hfour hasize).mpr ha.2.1, (bigEndian_eq_iff hfour hbsize).mpr hb.2.1]
  have hsize := hread (by rw [ha.2.1]; rfl)
  rw [← Text.toUTF8_toList_inj, ← ha.2.2, ← hb.2.2, hsize]

/-- Two fields, and whatever comes behind the next blank. -/
theorem exists_words {a b rest : String} (ha : a ≠ "")
    (hablank : ∀ c ∈ a.toList, Text.isBlank c = false) (hb : b ≠ "")
    (hbblank : ∀ c ∈ b.toList, Text.isBlank c = false)
    (hrest : ∀ c ∈ rest.toList.head?, Text.isBlank c = true) :
    ∃ comment, Text.words (a ++ " " ++ b ++ rest) = a :: b :: comment := by
  have hline : a ++ " " ++ b ++ rest =
      String.ofList (a.toList ++ ' ' :: (b.toList ++ rest.toList)) := by
    rw [← String.toList_inj]
    simp
  rw [hline, Text.words_append_cons (by decide), String.ofList_toList,
    Text.words_of_word ha hablank]
  cases htext : rest.toList with
  | nil =>
    rw [List.append_nil, String.ofList_toList, Text.words_of_word hb hbblank]
    exact ⟨[], rfl⟩
  | cons c later =>
    have hc : Text.isBlank c = true := hrest c (by rw [htext]; rfl)
    rw [Text.words_append_cons hc, String.ofList_toList, Text.words_of_word hb hbblank]
    exact ⟨Text.words (String.ofList later), rfl⟩

theorem sshKeyTypes_are_words : ∀ type ∈ sshKeyTypes,
    type ≠ "" ∧ ∀ c ∈ type.toList, Text.isBlank c = false := by
  have hall : (sshKeyTypes.all fun type =>
      type != "" && type.toList.all (!Text.isBlank ·)) = true := by decide
  simpa using hall

section Built

variable {other rest : String} {tail : List UInt8}
  (hrest : ∀ c ∈ rest.toList.head?, Text.isBlank c = true)
include hrest

theorem exists_words_payloadFor (type : String) (tail : List UInt8) (hother : other ≠ "")
    (hblank : ∀ c ∈ other.toList, Text.isBlank c = false) :
    ∃ comment, Text.words (other ++ " " ++ payloadFor type tail ++ rest) =
      other :: payloadFor type tail :: comment := by
  apply exists_words hother hblank _ (Base64.isBlank_written _) hrest
  exact Base64.written_ne_empty (by simp [lengthBytes])

/-- What is in front of the payload has to be the type that the payload was built for. -/
theorem checkKeyLine_payloadFor_iff (htype : type ∈ sshKeyTypes) (hother : other ≠ "")
    (hblank : ∀ c ∈ other.toList, Text.isBlank c = false) :
    checkKeyLine (other ++ " " ++ payloadFor type tail ++ rest) = .ok () ↔ other = type := by
  obtain ⟨comment, hwords⟩ := exists_words_payloadFor hrest type tail hother hblank
  have hdeclares := declares_append type tail
  have hwritten := Base64.toUTF8_written
    (lengthBytes type.utf8ByteSize ++ type.toUTF8.toList ++ tail)
  rw [checkKeyLine_eq_ok_iff_of_words hwords]
  constructor
  · rintro ⟨hknown, blob, hpayload, hother⟩
    rw [Base64.encode_injective (hpayload.symm.trans hwritten)] at hother
    exact hother.unique hdeclares (size_of_mem_sshKeyTypes other hknown)
      (size_of_mem_sshKeyTypes type htype)
  · rintro rfl
    exact ⟨htype, _, hwritten, hdeclares⟩

end Built

/-- A line is accepted just if its payload is the written form of bytes that start with the type in
front of it; whatever length they claim, only bytes that are there are read. So all lines that are
built from a known type are accepted, and none with its payload behind another type. -/
theorem key_lines_by_payload (site : Site) :
    (∀ line, (sshPublicKey site (.string line)).verdict = .accepted ↔ KeyLine line) ∧
    (∀ blob, lengthPrefixed? blob = readName? blob ∧ bigEndian (blob.take 4) < 2 ^ 32) ∧
    ∀ type ∈ sshKeyTypes, ∀ tail rest, (∀ c ∈ rest.toList.head?, Text.isBlank c = true) →
      (sshPublicKey site (.string (type ++ " " ++ payloadFor type tail ++ rest))).verdict =
        .accepted ∧
      ∀ other, other ≠ type → other ≠ "" → (∀ c ∈ other.toList, Text.isBlank c = false) →
        ∃ reason, sshPublicKey site (.string (other ++ " " ++ payloadFor type tail ++ rest)) =
          .refuse reason := by
  refine ⟨fun line => onText_accepted_iff.trans checkKeyLine_eq_ok_iff, fun blob =>
    ⟨lengthPrefixed?_eq_readName? blob, bigEndian_take_four_lt blob⟩, ?_⟩
  intro type htype tail rest hrest
  constructor
  · obtain ⟨hsome, hblank⟩ := sshKeyTypes_are_words type htype
    exact onText_accepted_iff.mpr
      ((checkKeyLine_payloadFor_iff hrest htype hsome hblank).mpr rfl)
  · intro other hne hsome hblank
    rw [sshPublicKey, onText]
    cases hcheck : checkKeyLine (other ++ " " ++ payloadFor type tail ++ rest) with
    | error reason => exact ⟨reason, rfl⟩
    | ok =>
      exact absurd ((checkKeyLine_payloadFor_iff hrest htype hsome hblank).mp hcheck) hne

theorem key_of_its_type :
    "ssh-ed25519" ∈ sshKeyTypes ∧
      (sshPublicKey ⟨.null, [], .root⟩
        (.string ("ssh-ed25519" ++ " " ++ payloadFor "ssh-ed25519" [7] ++ " admin@host"))).verdict =
          .accepted ∧
      ∃ reason, sshPublicKey ⟨.null, [], .root⟩
        (.string ("ssh-rsa" ++ " " ++ payloadFor "ssh-ed25519" [7] ++ " admin@host")) =
          .refuse reason := by
  have htype : "ssh-ed25519" ∈ sshKeyTypes := by decide
  have hother : "ssh-rsa" ∈ sshKeyTypes := by decide
  have hrest : ∀ c ∈ " admin@host".toList.head?, Text.isBlank c = true := by
    intro c hc
    cases hc
    rfl
  obtain ⟨haccepted, hrefused⟩ :=
    (key_lines_by_payload ⟨.null, [], .root⟩).2.2 "ssh-ed25519" htype [7] " admin@host" hrest
  obtain ⟨hsome, hblank⟩ := sshKeyTypes_are_words "ssh-rsa" hother
  exact ⟨htype, haccepted, hrefused "ssh-rsa" (by decide) hsome hblank⟩

end SettingsCheck.Builtin
