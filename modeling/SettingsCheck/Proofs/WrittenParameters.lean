import SettingsCheck.Proofs.Trimming
import SettingsCheck.Remote.Challenge

namespace SettingsCheck

namespace Remote.Challenge

open Text (isBlank)

/-- Any number of blanks. -/
abbrev Blanks := { cs : List Char // ∀ c ∈ cs, isBlank c = true }

def Blanks.none : Blanks := ⟨[], nofun⟩

structure Parameter where
  key : List Char
  value : List Char
  /-- The value is written in quotes. -/
  quoted : Bool
  key_ne_nil : key ≠ []
  key_plain : ∀ c ∈ key, isBlank c = false ∧ c ≠ '=' ∧ c ≠ ',' ∧ c ≠ '"'
  value_plain : ∀ c ∈ value, c ≠ '"' ∧ (quoted = false → isBlank c = false ∧ c ≠ ',')

namespace Parameter

def name (p : Parameter) : String := Text.lowerAscii (String.ofList p.key)

/-- What the parameter says. -/
def entry (p : Parameter) : String × String := (p.name, String.ofList p.value)

def valueText (p : Parameter) : List Char :=
  if p.quoted then '"' :: (p.value ++ ['"']) else p.value

end Parameter

/-- A parameter with the blanks around its sign, and around the comma behind it if there is one. -/
structure Written where
  parameter : Parameter
  beforeSign : Blanks := .none
  afterSign : Blanks := .none
  beforeComma : Blanks := .none
  afterComma : Blanks := .none

namespace Written

def text (w : Written) : List Char :=
  w.parameter.key ++ w.beforeSign.1 ++ '=' :: (w.afterSign.1 ++ w.parameter.valueText)

/-- Blanks stand between the sign and the opening quote. -/
def Detached (w : Written) : Prop := w.parameter.quoted = true ∧ w.afterSign.1 ≠ []

/-- The value as it is read. Behind blanks a value in quotes counts as one without. -/
def seenValue (w : Written) : List Char :=
  if w.afterSign.1 = [] then w.parameter.value else w.parameter.valueText

def seen (w : Written) : String × String := (w.parameter.name, String.ofList w.seenValue)

theorem seen_eq_entry {w : Written} (h : ¬w.Detached) : w.seen = w.parameter.entry := by
  unfold seen seenValue Parameter.entry
  split
  · rfl
  next hblanks =>
    have hquoted : w.parameter.quoted = false := by simpa [Detached, hblanks] using h
    simp [Parameter.valueText, hquoted]

theorem seen_ne_entry {w : Written} (h : w.Detached) : w.seen.2 ≠ w.parameter.entry.2 := by
  obtain ⟨hquoted, hblanks⟩ := h
  unfold seen seenValue Parameter.entry
  simp only [if_neg hblanks, Parameter.valueText, if_pos hquoted]
  intro heq
  have hlength := congrArg List.length (String.ofList_inj.mp heq)
  simp only [List.length_cons, List.length_append] at hlength
  omega

end Written

def listText : List Written → List Char
  | [] => []
  | [w] => w.text
  | w :: rest => w.text ++ w.beforeComma.1 ++ ',' :: (w.afterComma.1 ++ listText rest)

section Reading

variable {w : Written} {b rest : List Char}

theorem readValue_eq_bareValue {cs : List Char} (h : ∀ c ∈ cs.head?, c ≠ '"') :
    readValue cs = bareValue cs := by
  unfold readValue
  split
  next rest => exact absurd rfl (h '"' rfl)
  next => rfl

theorem ne_of_isBlank {c d : Char} (hc : isBlank c = true) (hd : isBlank d = false) : c ≠ d := by
  rintro rfl
  rw [hc] at hd
  cases hd

theorem bareValue_append {a v : List Char} (ha : ∀ c ∈ a, isBlank c = true)
    (hv : ∀ c ∈ v, c ≠ ',') (hb : ∀ c ∈ b, isBlank c = true) (hrest : ∀ c ∈ rest.head?, c = ',') :
    bareValue (a ++ v ++ b ++ rest) = (Text.trimWhile isBlank v, rest) := by
  have hcomma : isBlank ',' = false := by decide
  have hinside : ∀ c ∈ a ++ v ++ b, decide (c ≠ ',') = true := by
    intro c hc
    rw [List.mem_append, List.mem_append] at hc
    obtain (hc | hc) | hc := hc
    · exact decide_eq_true (ne_of_isBlank (ha c hc) hcomma)
    · exact decide_eq_true (hv c hc)
    · exact decide_eq_true (ne_of_isBlank (hb c hc) hcomma)
  have hend : ∀ c ∈ rest.head?, decide (c ≠ ',') = false := fun c hc => by simp [hrest c hc]
  rw [bareValue, Text.takeWhile_upTo hinside hend, Text.dropWhile_upTo hinside hend,
    Text.trimWhile_between ha hb]

theorem readValue_quoted {value : List Char} (h : ∀ c ∈ value, c ≠ '"') :
    readValue ('"' :: (value ++ '"' :: rest)) = (value, rest) := by
  have hinside : ∀ c ∈ value, decide (c ≠ '"') = true := fun c hc => decide_eq_true (h c hc)
  have hend : ∀ c ∈ ('"' :: rest).head?, decide (c ≠ '"') = false := by simp
  simp only [readValue, quotedValue]
  rw [Text.takeWhile_upTo hinside hend, Text.dropWhile_upTo hinside hend]
  rfl

theorem Parameter.trimWhile_valueText (p : Parameter) :
    Text.trimWhile isBlank p.valueText = p.valueText := by
  unfold valueText
  split
  · have hquote : isBlank '"' = false := by decide
    have hstart : ('"' :: (p.value ++ ['"'])).dropWhile isBlank = '"' :: (p.value ++ ['"']) :=
      List.dropWhile_cons_of_neg (by simp [hquote])
    rw [Text.trimWhile, hstart]
    exact Text.dropEndWhile_concat_of_neg (s := '"' :: p.value) hquote
  next hbare =>
    exact Text.trimWhile_eq_self fun c hc => ((p.value_plain c hc).2 (by simpa using hbare)).1

theorem Parameter.ne_comma_of_mem_valueText {p : Parameter}
    (h : p.quoted = true → ',' ∉ p.value) : ∀ c ∈ p.valueText, c ≠ ',' := by
  unfold valueText
  split
  next hquoted =>
    rintro c hc rfl
    simp [h hquoted] at hc
  next hbare => exact fun c hc => ((p.value_plain c hc).2 (by simpa using hbare)).2

theorem forall_head?_append {P : Char → Prop} {first : List Char} (hfirst : ∀ c ∈ first, P c)
    (hrest : ∀ c ∈ rest.head?, P c) : ∀ c ∈ (first ++ rest).head?, P c := by
  cases first with
  | nil => exact hrest
  | cons c first =>
    rintro _ ⟨⟩
    exact hfirst c List.mem_cons_self

/-- Without a quote right behind the sign, the text behind the sign does not start with one. -/
theorem head?_ne_quote (h : ¬(w.parameter.quoted = true ∧ w.afterSign.1 = []))
    (hb : ∀ c ∈ b, isBlank c = true) (hrest : ∀ c ∈ rest.head?, c = ',') :
    ∀ c ∈ (w.afterSign.1 ++ w.parameter.valueText ++ b ++ rest).head?, c ≠ '"' := by
  have hquote : isBlank '"' = false := by decide
  have hend : ∀ c ∈ rest.head?, c ≠ '"' := fun c hc => by simp [hrest c hc]
  cases hblanks : w.afterSign.1 with
  | cons c blanks =>
    rintro _ ⟨⟩
    exact ne_of_isBlank (w.afterSign.2 c (by simp [hblanks])) hquote
  | nil =>
    have hbare : w.parameter.valueText = w.parameter.value :=
      if_neg fun hquoted => h ⟨hquoted, hblanks⟩
    rw [hbare, List.nil_append, List.append_assoc]
    exact forall_head?_append (fun c hc => (w.parameter.value_plain c hc).1)
      (forall_head?_append (fun c hc => ne_of_isBlank (hb c hc) hquote) hend)

/-- What is left behind a value are at most the blanks behind it and what follows them. -/
theorem readValue_seen (w : Written) (hcomma : w.Detached → ',' ∉ w.parameter.value)
    (hb : ∀ c ∈ b, isBlank c = true) (hrest : ∀ c ∈ rest.head?, c = ',') :
    ∃ left, (∀ c ∈ left, isBlank c = true) ∧
      readValue (w.afterSign.1 ++ w.parameter.valueText ++ b ++ rest) =
        (w.seenValue, left ++ rest) := by
  by_cases hattached : w.parameter.quoted = true ∧ w.afterSign.1 = []
  · obtain ⟨hquoted, hblanks⟩ := hattached
    have htext : w.afterSign.1 ++ w.parameter.valueText ++ b ++ rest =
        '"' :: (w.parameter.value ++ '"' :: (b ++ rest)) := by
      simp [hblanks, Parameter.valueText, hquoted]
    refine ⟨b, hb, ?_⟩
    rw [htext, readValue_quoted fun c hc => (w.parameter.value_plain c hc).1]
    simp [Written.seenValue, hblanks]
  · have hseen : w.parameter.valueText = w.seenValue := by
      unfold Written.seenValue
      split
      next hblanks => exact if_neg fun hquoted => hattached ⟨hquoted, hblanks⟩
      next => rfl
    have hquote := head?_ne_quote hattached hb hrest
    have hcommas := w.parameter.ne_comma_of_mem_valueText
      fun hquoted => hcomma ⟨hquoted, fun hblanks => hattached ⟨hquoted, hblanks⟩⟩
    refine ⟨[], nofun, ?_⟩
    rw [readValue_eq_bareValue hquote, bareValue_append w.afterSign.2 hcommas hb hrest,
      w.parameter.trimWhile_valueText, hseen]
    rfl

theorem isSeparator_of_isBlank {c : Char} (h : isBlank c = true) : isSeparator c = true := by
  simp [isSeparator, h]

/-- One parameter is read, and what is left are separators and what follows the parameter. -/
theorem readParams_text (w : Written) (lead rest : List Char)
    (hcomma : w.Detached → ',' ∉ w.parameter.value) (hlead : ∀ c ∈ lead, isSeparator c = true)
    (hb : ∀ c ∈ b, isBlank c = true) (hrest : ∀ c ∈ rest.head?, c = ',') (fuel : Nat) :
    ∃ left, (∀ c ∈ left, isSeparator c = true) ∧
      readParams (fuel + 1) (lead ++ (w.text ++ b ++ rest)) =
        w.seen :: readParams fuel (left ++ rest) := by
  obtain ⟨left, hleft, hvalue⟩ := readValue_seen w hcomma hb hrest
  refine ⟨left, fun c hc => isSeparator_of_isBlank (hleft c hc), ?_⟩
  have htext : w.text ++ b ++ rest = w.parameter.key ++ w.beforeSign.1 ++
      '=' :: (w.afterSign.1 ++ w.parameter.valueText ++ b ++ rest) := by
    simp [Written.text]
  have hstart : (lead ++ (w.text ++ b ++ rest)).dropWhile isSeparator = w.text ++ b ++ rest := by
    refine Text.dropWhile_upTo hlead ?_
    obtain ⟨k, key, hk⟩ := List.exists_cons_of_ne_nil w.parameter.key_ne_nil
    rw [htext, hk]
    rintro _ ⟨⟩
    obtain ⟨hblank, _, hk, _⟩ := w.parameter.key_plain k (by simp [hk])
    simp [isSeparator, hblank, hk]
  have hsign : ∀ c ∈ w.parameter.key ++ w.beforeSign.1, decide (c ≠ '=') = true := by
    intro c hc
    obtain hc | hc := List.mem_append.mp hc
    · exact decide_eq_true (w.parameter.key_plain c hc).2.1
    · exact decide_eq_true (ne_of_isBlank (w.beforeSign.2 c hc) (by decide))
  have hend : ∀ c ∈ ('=' :: (w.afterSign.1 ++ w.parameter.valueText ++ b ++ rest)).head?,
      decide (c ≠ '=') = false := by simp
  have hkey : Text.trimWhile isBlank (w.parameter.key ++ w.beforeSign.1) = w.parameter.key :=
    (Text.trimWhile_between (a := []) nofun w.beforeSign.2).trans
      (Text.trimWhile_eq_self fun c hc => (w.parameter.key_plain c hc).1)
  have hne : w.parameter.key.isEmpty = false := by simp [w.parameter.key_ne_nil]
  rw [readParams]
  simp only [hstart]
  rw [htext, Text.takeWhile_upTo hsign hend, Text.dropWhile_upTo hsign hend, hkey]
  simp only [hne, List.drop_succ_cons, List.drop_zero, hvalue]
  rfl

theorem readParams_listText (lead : List Char) {ws : List Written} {fuel : Nat}
    (hcomma : ∀ w ∈ ws, w.Detached → ',' ∉ w.parameter.value)
    (hlead : ∀ c ∈ lead, isSeparator c = true) (hfuel : ws.length ≤ fuel) :
    readParams fuel (lead ++ listText ws) = ws.map Written.seen := by
  -- on the parameters; what separates two of them leads the text of the second
  induction ws generalizing lead fuel with
  | nil =>
    cases fuel with
    | zero => rfl
    | succ fuel =>
      have hnone : (lead ++ listText []).dropWhile isSeparator = [] := by
        simpa [listText] using hlead
      simp only [readParams, hnone]
      rfl
  | cons w ws ih =>
    obtain ⟨fuel, rfl⟩ : ∃ m, fuel = m + 1 := Nat.exists_eq_add_one.mpr (by simp at hfuel; omega)
    have hlater : ws.length ≤ fuel := Nat.le_of_succ_le_succ hfuel
    have hw := hcomma w List.mem_cons_self
    have hws : ∀ w ∈ ws, w.Detached → ',' ∉ w.parameter.value :=
      fun w hmem => hcomma w (List.mem_cons_of_mem _ hmem)
    cases ws with
    | nil =>
      obtain ⟨left, hleft, hread⟩ := readParams_text (b := []) w lead [] hw hlead nofun nofun fuel
      rw [List.append_nil, List.append_nil] at hread
      rw [listText, hread]
      exact congrArg (w.seen :: ·) (ih left hws hleft hlater)
    | cons next ws =>
      obtain ⟨left, hleft, hread⟩ := readParams_text w lead
        (',' :: (w.afterComma.1 ++ listText (next :: ws))) hw hlead w.beforeComma.2 (by simp) fuel
      have hsplit : left ++ ',' :: (w.afterComma.1 ++ listText (next :: ws)) =
          left ++ ',' :: w.afterComma.1 ++ listText (next :: ws) := by simp
      have hbetween : ∀ c ∈ left ++ ',' :: w.afterComma.1, isSeparator c = true := by
        intro c hc
        rw [List.mem_append, List.mem_cons] at hc
        obtain hc | rfl | hc := hc
        · exact hleft c hc
        · decide
        · exact isSeparator_of_isBlank (w.afterComma.2 c hc)
      rw [listText, hread, hsplit]
      · exact congrArg (w.seen :: ·) (ih _ hws hbetween hlater)
      · exact List.cons_ne_nil _ _

end Reading

end Remote.Challenge

end SettingsCheck
