import SettingsCheck.Proofs.HostNames
import SettingsCheck.Remote.ZoneToken

namespace SettingsCheck.Remote

open Text (pieces split)
open Builtin (domain DomainName HostLabel)

/-- The labels of a text; empty ones do not count. -/
def labelsOf (s : String) : List (List Char) := (pieces (· == '.') s.toList).filter (!·.isEmpty)

/-- What a name ends in, behind one of its dots or as a whole. -/
def DotSuffix (name t : String) : Prop := t = name ∨ ∃ front, name = front ++ "." ++ t

variable {s t name : String} {labels whole : List (List Char)}

theorem of_mem_labelsOf {label : List Char} (h : label ∈ labelsOf s) :
    label ≠ [] ∧ '.' ∉ label := by
  obtain ⟨hpiece, hsome⟩ := List.mem_filter.mp h
  exact ⟨by simpa using hsome, Text.not_mem_of_mem_pieces hpiece⟩

theorem pieces_intercalate_of_suffix (h : labels <:+ labelsOf s) (hsome : labels ≠ []) :
    pieces (· == '.') (['.'].intercalate labels) = labels := by
  apply Text.pieces_intercalate hsome
  intro label hlabel
  exact (of_mem_labelsOf (h.subset hlabel)).2

theorem zoneCandidates_eq_map (s : String) :
    zoneCandidates s = (List.range ((labelsOf s).length - 1)).map fun start =>
      String.ofList (['.'].intercalate ((labelsOf s).drop start)) := by
  -- dots at the end only add empty labels, which are left out anyway
  obtain ⟨dots, hs, hdots⟩ := Text.exists_dropEndWhile (· == '.') s.toList
  have hlabels : (pieces (· == '.') (Text.dropEndWhile (· == '.') s.toList)).filter (!·.isEmpty) =
      labelsOf s := by
    rw [← Text.filter_pieces_append hdots, ← hs, labelsOf]
  rw [zoneCandidates, hlabels]
  apply List.map_congr_left
  intro start _
  rw [← String.toList_inj, String.toList_intercalate, String.toList_ofList, List.map_map]
  simp [Function.comp_def]

/-- The candidates are those texts that have two or more of the last labels. -/
theorem mem_zoneCandidates_iff :
    t ∈ zoneCandidates s ↔
      2 ≤ (pieces (· == '.') t.toList).length ∧ pieces (· == '.') t.toList <:+ labelsOf s := by
  rw [zoneCandidates_eq_map, List.mem_map]
  constructor
  · rintro ⟨start, hstart, rfl⟩
    rw [List.mem_range] at hstart
    have hlength : 2 ≤ ((labelsOf s).drop start).length := by
      rw [List.length_drop]
      omega
    have hsuffix : (labelsOf s).drop start <:+ labelsOf s := List.drop_suffix start (labelsOf s)
    have hsome : (labelsOf s).drop start ≠ [] := List.length_pos_iff.mp (by omega)
    rw [String.toList_ofList, pieces_intercalate_of_suffix hsuffix hsome]
    exact ⟨hlength, hsuffix⟩
  · rintro ⟨hlength, hsuffix⟩
    refine ⟨(labelsOf s).length - (pieces (· == '.') t.toList).length, ?_, ?_⟩
    · rw [List.mem_range]
      have hle := hsuffix.length_le
      omega
    · rw [← List.suffix_iff_eq_drop.mp hsuffix, Text.intercalate_pieces, String.ofList_toList]

theorem labelsOf_append_dots (s : String) (n : Nat) :
    labelsOf (s ++ String.ofList (List.replicate n '.')) = labelsOf s := by
  have hdots : ∀ c ∈ List.replicate n '.', (c == '.') = true := by
    intro c hc
    simp [List.eq_of_mem_replicate hc]
  rw [labelsOf, String.toList_append, String.toList_ofList, Text.filter_pieces_append hdots,
    labelsOf]

theorem dotSuffix_iff :
    DotSuffix name t ↔ pieces (· == '.') t.toList <:+ pieces (· == '.') name.toList := by
  constructor
  · rintro (rfl | ⟨front, rfl⟩)
    · exact List.suffix_rfl
    · have hcut := Text.pieces_append_sep '.' front.toList t.toList
      rw [show (front ++ "." ++ t).toList = front.toList ++ '.' :: t.toList by simp, hcut]
      exact List.suffix_append _ _
  · rintro ⟨labels, hcut⟩
    by_cases hsome : labels = []
    · left
      subst hsome
      rw [← String.toList_inj, ← Text.intercalate_pieces '.' t.toList,
        ← Text.intercalate_pieces '.' name.toList, ← hcut, List.nil_append]
    -- the labels in front, joined again, are what stands before the dot
    · right
      refine ⟨String.ofList (['.'].intercalate labels), ?_⟩
      have hdot : ∀ label ∈ labels, '.' ∉ label := by
        intro label hlabel
        have hmem : label ∈ pieces (· == '.') name.toList := by
          rw [← hcut]
          exact List.mem_append_left _ hlabel
        exact Text.not_mem_of_mem_pieces hmem
      have hname := Text.pieces_append_sep '.' (['.'].intercalate labels) t.toList
      rw [Text.pieces_intercalate hsome hdot, hcut] at hname
      rw [← String.toList_inj, ← Text.intercalate_pieces '.' name.toList, ← hname,
        Text.intercalate_pieces]
      simp

theorem length_intercalate_lt (h : labels <:+ whole) (hsome : labels ≠ []) (hne : labels ≠ whole) :
    (['.'].intercalate labels).length < (['.'].intercalate whole).length := by
  induction whole with
  | nil => exact absurd (List.suffix_nil.mp h) hsome
  | cons label rest ih =>
    have hrest := (List.suffix_cons_iff.mp h).resolve_left hne
    have hnext : rest ≠ [] := by
      rintro rfl
      exact hsome (List.suffix_nil.mp hrest)
    rw [List.intercalate_cons_of_ne_nil hnext]
    simp only [List.length_append, List.length_singleton]
    by_cases heq : labels = rest
    · rw [heq]
      omega
    · have hlt := ih hrest heq
      omega

theorem pairwise_length_zoneCandidates (s : String) :
    (zoneCandidates s).Pairwise fun longer shorter => shorter.length < longer.length := by
  rw [zoneCandidates_eq_map, List.pairwise_map]
  apply (List.pairwise_lt_range).imp_of_mem
  intro i j hi hj hij
  rw [List.mem_range] at hi hj
  simp only [String.length_ofList]
  have hsuffix : (labelsOf s).drop j <:+ (labelsOf s).drop i := by
    obtain ⟨k, rfl⟩ := Nat.exists_eq_add_of_le (Nat.le_of_lt hij)
    rw [← List.drop_drop]
    exact List.drop_suffix k _
  apply length_intercalate_lt hsuffix
  · exact List.length_pos_iff.mp (by rw [List.length_drop]; omega)
  · intro heq
    have hlength := congrArg List.length heq
    simp only [List.length_drop] at hlength
    omega

theorem labelsOf_of_domainName (h : DomainName name) :
    labelsOf name = pieces (· == '.') name.toList := by
  obtain ⟨-, -, hlabels, -⟩ := Builtin.domainName_iff_pieces.mp h
  apply List.filter_eq_self.mpr
  intro label hlabel
  simpa using (hlabels label hlabel).ne_nil

theorem head?_zoneCandidates (h : DomainName name) : (zoneCandidates name).head? = some name := by
  obtain ⟨-, hlength, -⟩ := Builtin.domainName_iff_pieces.mp h
  have hrange : (List.range ((pieces (· == '.') name.toList).length - 1)).head? = some 0 := by
    rw [List.head?_range, if_neg (by omega)]
  rw [zoneCandidates_eq_map, labelsOf_of_domainName h, List.head?_map, hrange, Option.map_some,
    List.drop_zero, Text.intercalate_pieces, String.ofList_toList]

/-- A domain name is left as long as two labels are. -/
theorem domainName_of_dotSuffix (h : DomainName name) (hsuffix : DotSuffix name t)
    (hlength : 2 ≤ (pieces (· == '.') t.toList).length) : DomainName t := by
  obtain ⟨hsize, -, hlabels, hletters⟩ := Builtin.domainName_iff_pieces.mp h
  obtain ⟨front, hcut⟩ := dotSuffix_iff.mp hsuffix
  rw [← hcut] at hlabels hletters
  rw [Builtin.domainName_iff_pieces]
  refine ⟨?_, hlength, ?_, ?_⟩
  · rcases hsuffix with rfl | ⟨front, rfl⟩
    · exact hsize
    · simp only [String.utf8ByteSize_append] at hsize
      omega
  · intro label hlabel
    exact hlabels label (List.mem_append_right front hlabel)
  · have hsome : pieces (· == '.') t.toList ≠ [] := Text.pieces_ne_nil
    have hlast := List.getLast?_eq_some_getLast hsome
    rwa [List.getLast?_append, hlast, Option.some_or, ← hlast] at hletters

/-- The labels of a candidate are never empty, and there are two or more; dots at the end of the
text do not count. For a domain name the candidates are it and what is left of it behind its dots,
as long as it has two labels, and these are domain names again. -/
theorem candidates_of_domain_names (site : Site) (s : String) :
    (∀ t ∈ zoneCandidates s, 2 ≤ (split '.' t).length ∧ "" ∉ split '.' t) ∧
      (∀ n, zoneCandidates (s ++ String.ofList (List.replicate n '.')) = zoneCandidates s) ∧
      ((domain site (.string s)).verdict = .accepted →
        (zoneCandidates s).head? = some s ∧
          (∀ t, t ∈ zoneCandidates s ↔ DotSuffix s t ∧ 2 ≤ (split '.' t).length) ∧
          (zoneCandidates s).Pairwise (fun longer shorter => shorter.length < longer.length) ∧
          ∀ t ∈ zoneCandidates s, (domain site (.string t)).verdict = .accepted) := by
  have hdomain : ∀ t, (domain site (.string t)).verdict = .accepted ↔ DomainName t := fun t =>
    Builtin.onText_accepted_iff.trans Builtin.checkDomain_eq_ok_iff
  have hlength : ∀ t, (split '.' t).length = (pieces (· == '.') t.toList).length := fun t =>
    List.length_map String.ofList
  have hdots : ∀ n, zoneCandidates (s ++ String.ofList (List.replicate n '.')) =
      zoneCandidates s := by
    intro n
    rw [zoneCandidates_eq_map, labelsOf_append_dots, ← zoneCandidates_eq_map]
  refine ⟨?_, hdots, ?_⟩
  · intro t ht
    obtain ⟨htwo, hsuffix⟩ := mem_zoneCandidates_iff.mp ht
    refine ⟨by rw [hlength]; exact htwo, ?_⟩
    intro hempty
    obtain ⟨label, hlabel, hnil⟩ := List.mem_map.mp hempty
    have hsome := (of_mem_labelsOf (hsuffix.subset hlabel)).1
    exact hsome (String.ofList_eq_empty_iff.mp hnil)
  · intro haccepted
    have hname := (hdomain s).mp haccepted
    have hmem : ∀ t, t ∈ zoneCandidates s ↔ DotSuffix s t ∧ 2 ≤ (split '.' t).length := by
      intro t
      rw [mem_zoneCandidates_iff, labelsOf_of_domainName hname, dotSuffix_iff, hlength, and_comm]
    refine ⟨head?_zoneCandidates hname, hmem, pairwise_length_zoneCandidates s, ?_⟩
    intro t ht
    obtain ⟨hsuffix, htwo⟩ := (hmem t).mp ht
    rw [hlength] at htwo
    exact (hdomain t).mpr (domainName_of_dotSuffix hname hsuffix htwo)

theorem parent_zone_of_files :
    (domain ⟨.null, [], .root⟩ (.string "files.example.org")).verdict = .accepted ∧
      (zoneCandidates "files.example.org").head? = some "files.example.org" ∧
      "example.org" ∈ zoneCandidates "files.example.org" ∧ "" ∉ split '.' "example.org" ∧
      (domain ⟨.null, [], .root⟩ (.string "example.org")).verdict = .accepted := by
  have haccepted :
      (domain ⟨.null, [], .root⟩ (.string "files.example.org")).verdict = .accepted := by
    decide
  obtain ⟨hlabels, -, hname⟩ := candidates_of_domain_names ⟨.null, [], .root⟩ "files.example.org"
  obtain ⟨hhead, hmem, -, haccepts⟩ := hname haccepted
  have hzone : "example.org" ∈ zoneCandidates "files.example.org" :=
    (hmem "example.org").mpr ⟨.inr ⟨"files", rfl⟩, by decide⟩
  exact ⟨haccepted, hhead, hzone, (hlabels _ hzone).2, haccepts _ hzone⟩

end SettingsCheck.Remote
