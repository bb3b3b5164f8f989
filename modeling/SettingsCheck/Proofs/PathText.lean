import SettingsCheck.Decimal.Reading
import SettingsCheck.Proofs.ReportLines

namespace SettingsCheck

/-- A number is read back from its text. -/
theorem natural?_toString (n : Nat) : natural? (toString n).toList = some n := by
  have hlist : (toString n).toList = Nat.toDigits 10 n := Nat.toList_repr
  have hsome : (Nat.toDigits 10 n).isEmpty = false := by
    rw [List.isEmpty_eq_false_iff, ← List.length_pos_iff]
    exact Nat.length_toDigits_pos
  have hdigits : (Nat.toDigits 10 n).all isDecimalDigit = true :=
    -- the two classes of digits have the same bounds
    List.all_eq_true.mpr fun _ hc => Nat.isDigit_of_mem_toDigits (by decide) (by decide) hc
  have hvalue : digitsValue (Nat.toDigits 10 n) = n := Nat.ofDigitChars_ten_toDigits
  rw [hlist, natural?, hsome, hdigits, hvalue]
  rfl

namespace FieldPath

def isMark (c : Char) : Bool := c == '.' || c == '['

/-- The word in front of the first mark, and the pieces that begin with a mark. -/
def sections : List Char → List Char × List (List Char)
  | [] => ([], [])
  | c :: cs =>
    let (word, pieces) := sections cs
    if isMark c then ([], (c :: word) :: pieces) else (c :: word, pieces)

/-- The step that a piece is the text of. -/
def readStep? : List Char → Option Step
  | '.' :: name => some (.key (String.ofList name))
  | '[' :: number =>
    if number.getLast? = some ']' then (natural? number.dropLast).map .index else none
  | _ => none

/-- The path that a text is written for. -/
def ofText? (s : String) : Option FieldPath :=
  if s = root.text then some root
  else
    let (word, pieces) := sections s.toList
    (pieces.mapM readStep?).map fun steps =>
      if word = [] then ⟨steps⟩ else ⟨.key (String.ofList word) :: steps⟩

/-- The names can be told from the marks around them, and the path from the root. -/
structure Readable (path : FieldPath) : Prop where
  names : ∀ name, Step.key name ∈ path.steps → name ≠ "" ∧ '.' ∉ name.toList ∧ '[' ∉ name.toList
  not_root : path ≠ root.key root.text

section Sections

variable {word : List Char} {step : Step} {steps : List Step}

theorem sections_append (h : ∀ c ∈ word, isMark c = false) (rest : List Char) :
    sections (word ++ rest) = (word ++ (sections rest).1, (sections rest).2) := by
  induction word with
  | nil => rfl
  | cons c word ih =>
    obtain ⟨hc, hword⟩ := List.forall_mem_cons.mp h
    simp [sections, hc, ih hword]

theorem isMark_of_isDigit {c : Char} (h : c.isDigit = true) : isMark c = false := by
  have hpoint : c ≠ '.' := fun heq => absurd h (heq ▸ by decide)
  have hbracket : c ≠ '[' := fun heq => absurd h (heq ▸ by decide)
  simp [isMark, hpoint, hbracket]

/-- A name on its own holds no marks. -/
def Unmarked (step : Step) : Prop := ∀ name, step = .key name → ∀ c ∈ name.toList, isMark c = false

theorem exists_mark (h : Unmarked step) : ∃ mark word, (laterStep step).toList = mark :: word ∧
    isMark mark = true ∧ ∀ c ∈ word, isMark c = false := by
  cases step with
  | key name =>
    refine ⟨'.', name.toList, ?_, rfl, h name rfl⟩
    rw [laterStep, String.toList_append]
    rfl
  | index i =>
    refine ⟨'[', (toString i).toList ++ [']'], ?_, rfl, ?_⟩
    · simp only [laterStep, String.toList_append]
      rfl
    · intro c hc
      rcases List.mem_append.mp hc with hdigit | hlast
      · exact isMark_of_isDigit (Text.isDigit_of_mem_toString hdigit)
      · rw [List.mem_singleton.mp hlast]
        rfl

/-- The steps behind the start are pieces of their own. -/
theorem sections_laterSteps (h : ∀ step ∈ steps, Unmarked step) :
    sections (String.join (steps.map laterStep)).toList =
      ([], steps.map fun step => (laterStep step).toList) := by
  induction steps with
  | nil => rfl
  | cons step steps ih =>
    obtain ⟨hstep, hsteps⟩ := List.forall_mem_cons.mp h
    obtain ⟨mark, word, hlist, hmark, hword⟩ := exists_mark hstep
    rw [List.map_cons, List.map_cons, String.join_cons, String.toList_append, hlist,
      List.cons_append, sections, sections_append hword, ih hsteps]
    simp [hmark]

theorem readStep?_laterStep (step : Step) : readStep? (laterStep step).toList = some step := by
  cases step with
  | key name =>
    have hlist : (laterStep (.key name)).toList = '.' :: name.toList := by
      rw [laterStep, String.toList_append]
      rfl
    rw [hlist, readStep?, String.ofList_toList]
  | index i =>
    have hlist : (laterStep (.index i)).toList = '[' :: ((toString i).toList ++ [']']) := by
      simp only [laterStep, String.toList_append]
      rfl
    rw [hlist, readStep?, List.getLast?_concat, if_pos rfl, List.dropLast_concat,
      natural?_toString]
    rfl

theorem mapM_readStep? (steps : List Step) :
    (steps.map fun step => (laterStep step).toList).mapM readStep? = some steps := by
  induction steps with
  | nil => rfl
  | cons step steps ih => simp [readStep?_laterStep, ih]

end Sections

variable {path p q : FieldPath}

theorem Readable.unmarked (h : path.Readable) : ∀ step ∈ path.steps, Unmarked step := by
  rintro step hstep name rfl c hc
  obtain ⟨-, hpoint, hbracket⟩ := h.names name hstep
  have hne : c ≠ '.' := fun heq => hpoint (heq ▸ hc)
  have hne' : c ≠ '[' := fun heq => hbracket (heq ▸ hc)
  simp [isMark, hne, hne']

/-- A text shows which steps it is of, if it is not that of the root. -/
theorem sections_text (h : path.Readable) (hsome : path ≠ root) :
    ∃ word later, sections path.text.toList =
        (word, later.map fun step => (laterStep step).toList) ∧
      path.steps = if word = [] then later else .key (String.ofList word) :: later := by
  obtain ⟨steps⟩ := path
  cases steps with
  | nil => exact absurd rfl hsome
  | cons first rest =>
    have hmarks := h.unmarked
    cases first with
    | key name =>
      obtain ⟨hname, hrest⟩ := List.forall_mem_cons.mp hmarks
      have hne : name.toList ≠ [] := by simpa using (h.names name List.mem_cons_self).1
      refine ⟨name.toList, rest, ?_, ?_⟩
      · have hjoin : text ⟨.key name :: rest⟩ = name ++ String.join (rest.map laterStep) := rfl
        rw [hjoin, String.toList_append, sections_append (hname name rfl),
          sections_laterSteps hrest, List.append_nil]
      · rw [if_neg hne, String.ofList_toList]
    | index i =>
      refine ⟨[], .index i :: rest, ?_, (if_pos rfl).symm⟩
      have hjoin : text ⟨.index i :: rest⟩ =
          String.join ((Step.index i :: rest).map laterStep) := by
        rw [List.map_cons, String.join_cons]
        rfl
      rw [hjoin, sections_laterSteps hmarks]

/-- Only the root has the text of the root. -/
theorem Readable.text_ne_root (h : path.Readable) (hsome : path ≠ root) :
    path.text ≠ root.text := by
  intro heq
  obtain ⟨word, later, hcut, hsteps⟩ := sections_text h hsome
  have hroot : sections root.text.toList = (root.text.toList, []) := by decide
  rw [heq, hroot] at hcut
  obtain ⟨rfl, hlater⟩ := Prod.mk.inj hcut
  rw [List.map_eq_nil_iff.mp hlater.symm, if_neg (by decide), String.ofList_toList] at hsteps
  exact h.not_root (congrArg FieldPath.mk hsteps)

theorem Readable.ofText?_text (h : path.Readable) : ofText? path.text = some path := by
  by_cases hroot : path = root
  · rw [hroot]
    rfl
  · obtain ⟨word, later, hcut, hsteps⟩ := sections_text h hroot
    rw [ofText?, if_neg (h.text_ne_root hroot), hcut]
    simp only [mapM_readStep?, Option.map_some]
    split at hsteps
    · rename_i hword
      rw [if_pos hword, ← hsteps]
    · rename_i hword
      rw [if_neg hword, ← hsteps]

/-- The text of a path says which path it is, and can be read back. -/
theorem texts_identify_paths (hp : p.Readable) (hq : q.Readable) :
    (p ≠ q → p.text ≠ q.text) ∧ ofText? p.text = some p := by
  refine ⟨fun hne htext => hne ?_, hp.ofText?_text⟩
  have hread := hp.ofText?_text
  rw [htext, hq.ofText?_text] at hread
  exact (Option.some_inj.mp hread).symm

namespace Sample

/-- A closing bracket at the end of a name is no index. -/
def named : FieldPath := (root.index 1).key "2]"

def numbered : FieldPath := (root.index 1).index 2

theorem readable_named : named.Readable where
  names name h := by
    obtain rfl : name = "2]" := by simpa [named, root, key, index] using h
    decide
  not_root := by decide

theorem readable_numbered : numbered.Readable where
  names name h := by simp [numbered, root, index] at h
  not_root := by decide

theorem bracketed_name_told_apart :
    named.Readable ∧ numbered.Readable ∧ "[1].2]" ≠ "[1][2]" ∧ ofText? "[1].2]" = some named := by
  have htexts : named.text = "[1].2]" ∧ numbered.text = "[1][2]" := by decide
  obtain ⟨hapart, hread⟩ := texts_identify_paths readable_named readable_numbered
  rw [htexts.1, htexts.2] at hapart
  rw [htexts.1] at hread
  exact ⟨readable_named, readable_numbered, hapart (by decide), hread⟩

end Sample

end FieldPath

end SettingsCheck
