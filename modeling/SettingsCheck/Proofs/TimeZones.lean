import SettingsCheck.Builtin.Schedule
import SettingsCheck.Proofs.Pieces

namespace SettingsCheck

open Text (pieces split)

namespace FileTree

variable {a b : String} {names : List String}

theorem place_append_slash (a b : String) : place (a ++ "/" ++ b) = place a ++ place b := by
  rw [place, Text.split_append rfl, List.filter_append, place, place]

theorem place_intercalate (hsome : names ≠ [])
    (h : ∀ name ∈ names, name ≠ "" ∧ name ≠ "." ∧ '/' ∉ name.toList) :
    place ("/".intercalate names) = names := by
  have hslash : ∀ name ∈ names, '/' ∉ name.toList := by
    intro name hname
    exact (h name hname).2.2
  rw [place, Text.split_intercalate rfl hsome hslash, List.filter_eq_self]
  intro name hname
  obtain ⟨hempty, hdot, -⟩ := h name hname
  simp [hempty, hdot]

/-- A path that is followed from a directory on starts with the names of the directory. -/
theorem place_join (base : String) {path : String} (h : FilePath.isAbsolute path = false) :
    place (FilePath.join base path) = place base ++ place path := by
  have hnone : place "" = [] := by decide
  rw [FilePath.join, h, if_neg Bool.false_ne_true]
  split
  next hend =>
    rcases Bool.or_eq_true_iff.mp hend with hempty | hslash
    · obtain rfl : base = "" := by simpa using hempty
      rw [String.empty_append, hnone, List.nil_append]
    -- the slash at the end of the directory cuts off an empty name, and no place has one
    · obtain ⟨front, hfront⟩ := List.getLast?_eq_some_iff.mp (by simpa using hslash)
      have hbase : base = String.ofList front ++ "/" := by
        rw [← String.toList_inj, hfront]
        simp
      have hsame := place_append_slash (String.ofList front) ""
      rw [String.append_empty, hnone, List.append_nil] at hsame
      rw [hbase, place_append_slash, hsame]
  · exact place_append_slash base path

end FileTree

namespace Builtin

/-- An area of ASCII letters and, behind slashes, one or more parts of ASCII letters, digits, `_`,
`-` and `+`. -/
def ZoneName (s : String) : Prop :=
  ∃ area parts, area ≠ [] ∧ (∀ c ∈ area, c.isAlpha = true) ∧ parts ≠ [] ∧
    (∀ part ∈ parts, part ≠ [] ∧ ∀ c ∈ part, c.isAlphanum = true ∨ c = '_' ∨ c = '-' ∨ c = '+') ∧
    s.toList = ['/'].intercalate (area :: parts)

/-- A path leads from a directory downwards, over two names or more. -/
def LeadsDown (directory path : String) : Prop :=
  ∃ names : List String, 2 ≤ names.length ∧
    (∀ name ∈ names, name ≠ "" ∧ name ≠ "." ∧ name ≠ ".." ∧ '/' ∉ name.toList) ∧
    path = FilePath.join directory ("/".intercalate names) ∧
    FileTree.place path = FileTree.place directory ++ names

variable {s : String}

theorem isZoneChar_iff {c : Char} :
    isZoneChar c = true ↔ c.isAlphanum = true ∨ c = '_' ∨ c = '-' ∨ c = '+' := by
  simp [isZoneChar, or_assoc]

theorem isZoneChar_of_isAlpha {c : Char} (h : c.isAlpha = true) : isZoneChar c = true := by
  simp [isZoneChar, Char.isAlphanum, h]

/-- Zone characters make up the name of a file, and it does not lead upwards. -/
theorem isName_of_zoneChars {name : List Char} (hsome : name ≠ [])
    (h : ∀ c ∈ name, isZoneChar c = true) :
    String.ofList name ≠ "" ∧ String.ofList name ≠ "." ∧ String.ofList name ≠ ".." ∧
      '/' ∉ (String.ofList name).toList := by
  have hdot : '.' ∉ name := fun hmem => absurd (h '.' hmem) (by decide)
  have hslash : '/' ∉ name := fun hmem => absurd (h '/' hmem) (by decide)
  refine ⟨?_, ?_, ?_, by rwa [String.toList_ofList]⟩
  · exact fun hempty => hsome (String.ofList_eq_empty_iff.mp hempty)
  · intro heq
    rw [← String.toList_inj, String.toList_ofList] at heq
    simp [heq] at hdot
  · intro heq
    rw [← String.toList_inj, String.toList_ofList] at heq
    simp [heq] at hdot

theorem hasZoneShape_iff_pieces {area : List Char} {parts : List (List Char)}
    (hcut : pieces (· == '/') s.toList = area :: parts) :
    hasZoneShape s.toList = true ↔ area ≠ [] ∧ (∀ c ∈ area, c.isAlpha = true) ∧ parts ≠ [] ∧
      ∀ part ∈ parts, part ≠ [] ∧ ∀ c ∈ part, isZoneChar c = true := by
  simp [hasZoneShape, hcut, and_assoc]

/-- The area and the parts of a zone are its pieces between slashes. -/
theorem ZoneName.exists_pieces (h : ZoneName s) : ∃ area parts,
    pieces (· == '/') s.toList = area :: parts ∧ area ≠ [] ∧ (∀ c ∈ area, c.isAlpha = true) ∧
      parts ≠ [] ∧ ∀ part ∈ parts, part ≠ [] ∧ ∀ c ∈ part, isZoneChar c = true := by
  obtain ⟨area, parts, harea, hletters, hparts, hchars, hs⟩ := h
  simp only [← isZoneChar_iff] at hchars
  have hslash : ∀ part ∈ area :: parts, '/' ∉ part := by
    rw [List.forall_mem_cons]
    refine ⟨fun hmem => absurd (hletters '/' hmem) (by decide), ?_⟩
    intro part hpart hmem
    exact absurd ((hchars part hpart).2 '/' hmem) (by decide)
  have hcut := (Text.eq_intercalate_iff (List.cons_ne_nil area parts) hslash).mp hs
  exact ⟨area, parts, hcut, harea, hletters, hparts, hchars⟩

theorem hasZoneShape_iff : hasZoneShape s.toList = true ↔ ZoneName s := by
  constructor
  · intro h
    have hsome : pieces (· == '/') s.toList ≠ [] := Text.pieces_ne_nil
    obtain ⟨area, parts, hcut⟩ := List.exists_cons_of_ne_nil hsome
    obtain ⟨harea, hletters, hparts, hchars⟩ := (hasZoneShape_iff_pieces hcut).mp h
    have hs := Text.intercalate_pieces '/' s.toList
    rw [hcut] at hs
    simp only [isZoneChar_iff] at hchars
    exact ⟨area, parts, harea, hletters, hparts, hchars, hs.symm⟩
  · intro h
    obtain ⟨area, parts, hcut, hzone⟩ := h.exists_pieces
    exact (hasZoneShape_iff_pieces hcut).mpr hzone

instance : Decidable (ZoneName s) := decidable_of_iff _ hasZoneShape_iff

/-- The name of a zone leads downwards from wherever it is followed. -/
theorem ZoneName.leadsDown (h : ZoneName s) (directory : String) :
    LeadsDown directory (FilePath.join directory s) := by
  obtain ⟨area, parts, hcut, harea, hletters, hparts, hchars⟩ := h.exists_pieces
  have hnames : ∀ name ∈ split '/' s,
      name ≠ "" ∧ name ≠ "." ∧ name ≠ ".." ∧ '/' ∉ name.toList := by
    rw [split, hcut, List.forall_mem_map, List.forall_mem_cons]
    refine ⟨isName_of_zoneChars harea fun c hc => isZoneChar_of_isAlpha (hletters c hc), ?_⟩
    intro part hpart
    exact isName_of_zoneChars (hchars part hpart).1 (hchars part hpart).2
  have hlength : 2 ≤ (split '/' s).length := by
    have hpos := List.length_pos_iff.mpr hparts
    rw [split, hcut, List.length_map, List.length_cons]
    omega
  have hjoined : "/".intercalate (split '/' s) = s := Text.intercalate_split rfl s
  have hplace : FileTree.place s = split '/' s := by
    have hsome : split '/' s ≠ [] := List.length_pos_iff.mp (by omega)
    have hplace := FileTree.place_intercalate hsome fun name hname =>
      ⟨(hnames name hname).1, (hnames name hname).2.1, (hnames name hname).2.2.2⟩
    rwa [hjoined] at hplace
  have hrelative : FilePath.isAbsolute s = false := by
    rw [FilePath.isAbsolute, beq_eq_false_iff_ne]
    intro hslash
    obtain ⟨rest, hs⟩ := List.head?_eq_some_iff.mp hslash
    rw [hs, Text.pieces_cons_of_pos (by decide)] at hcut
    exact harea (List.cons.inj hcut).1.symm
  refine ⟨split '/' s, hlength, hnames, by rw [hjoined], ?_⟩
  rw [FileTree.place_join directory hrelative, hplace]

section Cases

variable {surroundings : Surroundings} {site : Site}

theorem timezone_of_fixed (h : s = "UTC" ∨ s = "Local") :
    timezone surroundings site (.string s) = .accept := by
  simp [timezone, h]

theorem not_fixed_of_zoneName (h : ZoneName s) : ¬(s = "UTC" ∨ s = "Local") := by
  rintro (rfl | rfl)
  · exact absurd h (by decide)
  · exact absurd h (by decide)

theorem timezone_of_shapeless (site : Site) (h : ¬(s = "UTC" ∨ s = "Local"))
    (hzone : ¬ZoneName s) :
    ∃ reason, ∀ surroundings, timezone surroundings site (.string s) = .refuse reason := by
  have hshape : hasZoneShape s.toList = false := by
    rw [← Bool.not_eq_true, hasZoneShape_iff]
    exact hzone
  refine ⟨"'" ++ s ++ "' is not a valid timezone; expected an IANA name such as Europe/Berlin", ?_⟩
  intro surroundings
  simp [timezone, h, hshape]

theorem timezone_without_database (h : ZoneName s)
    (hmissing : surroundings.kind surroundings.zoneinfo ≠ some .directory) :
    timezone surroundings site (.string s) =
      ⟨.accepted, ["timezone database not found at " ++ surroundings.zoneinfo ++ "; '" ++ s ++
        "' was only checked for shape"]⟩ := by
  simp [timezone, not_fixed_of_zoneName h, hasZoneShape_iff.mpr h, hmissing]

theorem timezone_with_database (h : ZoneName s)
    (hfound : surroundings.kind surroundings.zoneinfo = some .directory) :
    timezone surroundings site (.string s) =
      if surroundings.kind (FilePath.join surroundings.zoneinfo s) = some .file then .accept
      else .refuse ("unknown timezone '" ++ s ++ "'") := by
  simp [timezone, not_fixed_of_zoneName h, hasZoneShape_iff.mpr h, hfound]

/-- Only the database and, for the name of a zone, the path that it leads to are asked for. -/
theorem timezone_eq_of_agree {kind : String → Option FileKind}
    (hdatabase : kind surroundings.zoneinfo = surroundings.kind surroundings.zoneinfo)
    (hfile : ZoneName s → kind (FilePath.join surroundings.zoneinfo s) =
      surroundings.kind (FilePath.join surroundings.zoneinfo s)) :
    timezone { surroundings with kind } site (.string s) =
      timezone surroundings site (.string s) := by
  by_cases hfixed : s = "UTC" ∨ s = "Local"
  · rw [timezone_of_fixed hfixed, timezone_of_fixed hfixed]
  by_cases hzone : ZoneName s
  · by_cases hfound : surroundings.kind surroundings.zoneinfo = some .directory
    · rw [timezone_with_database hzone hfound,
        timezone_with_database hzone (hdatabase.trans hfound)]
      simp only [hfile hzone]
    · rw [timezone_without_database hzone hfound,
        timezone_without_database hzone (by simpa only [hdatabase] using hfound)]
  · obtain ⟨reason, hrefused⟩ := timezone_of_shapeless site hfixed hzone
    rw [hrefused, hrefused]

theorem timezone_accepted_iff :
    (timezone surroundings site (.string s)).verdict = .accepted ↔
      s = "UTC" ∨ s = "Local" ∨ ZoneName s ∧
        (surroundings.kind surroundings.zoneinfo ≠ some .directory ∨
          surroundings.kind (FilePath.join surroundings.zoneinfo s) = some .file) := by
  rw [← or_assoc]
  by_cases hfixed : s = "UTC" ∨ s = "Local"
  · simp [timezone_of_fixed hfixed, hfixed, Judgement.accept]
  by_cases hzone : ZoneName s
  · by_cases hfound : surroundings.kind surroundings.zoneinfo = some .directory
    · rw [timezone_with_database hzone hfound]
      split
      next hfile => simp [hzone, hfile, Judgement.accept]
      next hfile => simp [hfixed, hfound, hfile, Judgement.refuse]
    · simp [timezone_without_database hzone hfound, hzone, hfound]
  · obtain ⟨reason, hrefused⟩ := timezone_of_shapeless site hfixed hzone
    simp [hrefused, hfixed, hzone, Judgement.refuse]

theorem length_warnings_timezone :
    (timezone surroundings site (.string s)).warnings.length =
      if ZoneName s ∧ surroundings.kind surroundings.zoneinfo ≠ some .directory then 1 else 0 := by
  by_cases hzone : ZoneName s
  · by_cases hfound : surroundings.kind surroundings.zoneinfo = some .directory
    · have hnone : ¬(ZoneName s ∧ surroundings.kind surroundings.zoneinfo ≠ some .directory) :=
        fun h => h.2 hfound
      rw [timezone_with_database hzone hfound, if_neg hnone]
      split <;> rfl
    · rw [timezone_without_database hzone hfound, if_pos ⟨hzone, hfound⟩]
      rfl
  · rw [if_neg fun h => hzone h.1]
    by_cases hfixed : s = "UTC" ∨ s = "Local"
    · rw [timezone_of_fixed hfixed]
      rfl
    · obtain ⟨reason, hrefused⟩ := timezone_of_shapeless site hfixed hzone
      rw [hrefused]
      rfl

end Cases

/-- The files outside the database do not matter, nor does what a path would lead to that does not
lead downwards from it. A text is accepted if it is one of two fixed words, or if it is the name of
a zone that has its file; without a database the name is enough, and there is one warning. -/
theorem timezone_stays_in_database (surroundings : Surroundings) (site : Site) (s : String) :
    let judgement := timezone surroundings site (.string s)
    (∀ kind : String → Option FileKind,
      (∀ path, path = surroundings.zoneinfo ∨ LeadsDown surroundings.zoneinfo path →
        kind path = surroundings.kind path) →
      timezone { surroundings with kind } site (.string s) = judgement) ∧
    (judgement.verdict = .accepted ↔ s = "UTC" ∨ s = "Local" ∨ ZoneName s ∧
      (surroundings.kind surroundings.zoneinfo ≠ some .directory ∨
        surroundings.kind (FilePath.join surroundings.zoneinfo s) = some .file)) ∧
    judgement.warnings.length =
      if ZoneName s ∧ surroundings.kind surroundings.zoneinfo ≠ some .directory then 1 else 0 := by
  refine ⟨?_, timezone_accepted_iff, length_warnings_timezone⟩
  intro kind hkind
  apply timezone_eq_of_agree
  · exact hkind surroundings.zoneinfo (.inl rfl)
  · intro hzone
    exact hkind _ (.inr (hzone.leadsDown surroundings.zoneinfo))

namespace Sample

def zones : Surroundings where
  zoneinfo := "zoneinfo"
  kind path :=
    if path = "zoneinfo" then some .directory
    else if path = "zoneinfo/Europe/Berlin" then some .file
    else none

/-- The same database, with a file beside it. -/
def zonesWithin (path : String) : Option FileKind :=
  if path = "zoneinfo/../passwords" then some .file else zones.kind path

def site : Site := ⟨.null, [], .root⟩

theorem berlin_in_database :
    (∀ path, path = zones.zoneinfo ∨ LeadsDown zones.zoneinfo path →
      zonesWithin path = zones.kind path) ∧
      timezone { zones with kind := zonesWithin } site (.string "Europe/Berlin") =
        timezone zones site (.string "Europe/Berlin") ∧
      (timezone zones site (.string "Europe/Berlin")).verdict = .accepted ∧
      (timezone zones site (.string "Europe/Berlin")).warnings.length = 0 := by
  have hagree : ∀ path, path = zones.zoneinfo ∨ LeadsDown zones.zoneinfo path →
      zonesWithin path = zones.kind path := by
    intro path hpath
    have hother : path ≠ "zoneinfo/../passwords" := by
      rintro rfl
      rcases hpath with heq | ⟨names, -, hnames, -, hplace⟩
      · exact absurd heq (by decide)
      · have hup : ".." ∈ names := by
          have hsame : ["zoneinfo"] ++ ["..", "passwords"] = ["zoneinfo"] ++ names := hplace
          rw [← List.append_cancel_left hsame]
          exact List.mem_cons_self
        exact (hnames ".." hup).2.2.1 rfl
    rw [zonesWithin, if_neg hother]
  obtain ⟨hblind, haccepted, hwarnings⟩ := timezone_stays_in_database zones site "Europe/Berlin"
  refine ⟨hagree, hblind zonesWithin hagree, haccepted.mpr (.inr (.inr ⟨by decide, .inr ?_⟩)), ?_⟩
  · decide
  · rw [hwarnings, if_neg (by decide)]

end Sample

end Builtin

end SettingsCheck
