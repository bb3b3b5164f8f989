import Mathlib.Data.List.DropRight
import Mathlib.Data.List.TakeWhile
import SettingsCheck.Text.Blank

namespace SettingsCheck.Text

variable {p : Char → Bool} {a s b t : List Char}

theorem dropEndWhile_append_of_pos (h : ∀ c ∈ b, p c = true) :
    dropEndWhile p (s ++ b) = dropEndWhile p s := by
  have hb : ∀ c ∈ b.reverse, p c = true := fun c hc => h c (List.mem_reverse.mp hc)
  rw [dropEndWhile, List.reverse_append, List.dropWhile_append_of_pos hb]
  rfl

theorem dropEndWhile_concat_of_neg {c : Char} (h : p c = false) :
    dropEndWhile p (s ++ [c]) = s ++ [c] :=
  List.rdropWhile_concat_neg p s c (by simp [h])

theorem dropEndWhile_eq_self_of_neg (h : ∀ c ∈ s, p c = false) : dropEndWhile p s = s :=
  List.rdropWhile_eq_self_iff.mpr fun hne => by simp [h _ (List.getLast_mem hne)]

/-- What stands around a text in characters of the class is cut off with those of the text. -/
theorem trimWhile_between (ha : ∀ c ∈ a, p c = true) (hb : ∀ c ∈ b, p c = true) :
    trimWhile p (a ++ s ++ b) = trimWhile p s := by
  unfold trimWhile
  rw [List.append_assoc, List.dropWhile_append_of_pos ha, List.dropWhile_append]
  split
  next hnil =>
    have hs : s.dropWhile p = [] := List.isEmpty_iff.mp hnil
    have hrest : b.dropWhile p = [] := List.dropWhile_eq_nil_iff.mpr hb
    rw [hs, hrest]
  next => exact dropEndWhile_append_of_pos hb

/-- What is cut off at the end. -/
theorem exists_dropEndWhile (p : Char → Bool) (s : List Char) :
    ∃ b, s = dropEndWhile p s ++ b ∧ ∀ c ∈ b, p c = true := by
  refine ⟨(s.reverse.takeWhile p).reverse, ?_, ?_⟩
  · rw [dropEndWhile, ← List.reverse_append, List.takeWhile_append_dropWhile, List.reverse_reverse]
  · exact fun c hc => List.all_eq_true.mp List.all_takeWhile c (List.mem_reverse.mp hc)

/-- What is cut off on the two sides. -/
theorem exists_trimWhile (p : Char → Bool) (s : List Char) :
    ∃ a b, s = a ++ trimWhile p s ++ b ∧ (∀ c ∈ a, p c = true) ∧ ∀ c ∈ b, p c = true := by
  obtain ⟨b, hs, hb⟩ := exists_dropEndWhile p (s.dropWhile p)
  refine ⟨s.takeWhile p, b, ?_, ?_, hb⟩
  · rw [List.append_assoc, trimWhile, ← hs, List.takeWhile_append_dropWhile]
  · exact fun c hc => List.all_eq_true.mp List.all_takeWhile c hc

theorem trimWhile_eq_self (h : ∀ c ∈ s, p c = false) : trimWhile p s = s := by
  have hstart : s.dropWhile p = s :=
    List.dropWhile_eq_self_iff.mpr fun hl => by simp [h _ (List.getElem_mem hl)]
  rw [trimWhile, hstart, dropEndWhile_eq_self_of_neg h]

/-- A text is taken up to the first character that is not of the class. -/
theorem takeWhile_upTo (hs : ∀ c ∈ s, p c = true) (hb : ∀ c ∈ b.head?, p c = false) :
    (s ++ b).takeWhile p = s := by
  rw [List.takeWhile_append_of_pos hs]
  cases b with
  | nil => exact List.append_nil s
  | cons c b => rw [List.takeWhile_cons_of_neg (by simp [hb c rfl]), List.append_nil]

theorem dropWhile_upTo (hs : ∀ c ∈ s, p c = true) (hb : ∀ c ∈ b.head?, p c = false) :
    (s ++ b).dropWhile p = b := by
  rw [List.dropWhile_append_of_pos hs]
  cases b with
  | nil => rfl
  | cons c b => exact List.dropWhile_cons_of_neg (by simp [hb c rfl])

theorem toList_toLower (s : String) : s.toLower.toList = s.toList.map Char.toLower :=
  String.toList_map

theorem toLower_of_isBlank {c : Char} (h : isBlank c = true) : c.toLower = c := by
  have hupper : ¬(c.val ≥ 'A'.val ∧ c.val ≤ 'Z'.val) := by
    rintro ⟨hlow, hhigh⟩
    have hl : 65 ≤ c.toNat := by simpa [UInt32.le_iff_toNat_le] using hlow
    have hh : c.toNat ≤ 90 := by simpa [UInt32.le_iff_toNat_le] using hhigh
    simp [isBlank] at h
    omega
  exact dif_neg hupper

/-- The last character is not a blank. -/
def EndsVisibly (s : List Char) : Prop := ∃ init c, s = init ++ [c] ∧ isBlank c = false

theorem EndsVisibly.of_suffix (h : EndsVisibly t) (hsuffix : t <:+ s) : EndsVisibly s := by
  obtain ⟨init, c, rfl, hc⟩ := h
  obtain ⟨before, rfl⟩ := hsuffix
  exact ⟨before ++ init, c, (List.append_assoc before init [c]).symm, hc⟩

theorem dropEndWhile_eq_self (h : EndsVisibly s) : dropEndWhile isBlank s = s := by
  obtain ⟨init, c, rfl, hc⟩ := h
  have hstop : (c :: init.reverse).dropWhile isBlank = c :: init.reverse :=
    List.dropWhile_cons_of_neg (by simp [hc])
  rw [dropEndWhile, List.reverse_append, List.reverse_singleton, List.singleton_append, hstop]
  simp

theorem dropEndWhile_break (h : EndsVisibly s) : dropEndWhile isBlank (s ++ ['\n']) = s := by
  have hbreak : isBlank '\n' = true := by decide
  have hkept := dropEndWhile_eq_self h
  rw [dropEndWhile] at hkept
  rw [dropEndWhile, List.reverse_append, List.reverse_singleton, List.singleton_append,
    List.dropWhile_cons_of_pos hbreak, hkept]

end SettingsCheck.Text
