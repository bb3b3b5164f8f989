import SettingsCheck.Proofs.ReportLines
import SettingsCheck.Registry

namespace SettingsCheck

namespace Text

variable {s word : String} {c : Char}

theorem unbroken_ofList {cs : List Char} : Unbroken (String.ofList cs) ↔ '\n' ∉ cs := by
  rw [Unbroken, String.toList_ofList]

theorem unbroken_of_subset (h : Unbroken s) {cs : List Char} (hcs : cs ⊆ s.toList) :
    Unbroken (String.ofList cs) :=
  unbroken_ofList.mpr fun hmem => h (hcs hmem)

@[simp]
theorem unbroken_toString_int (n : Int) : Unbroken (toString n) := by
  cases n with
  | ofNat n => exact unbroken_toString n
  | negSucc n =>
    have hminus : Unbroken "-" := .literal rfl
    exact unbroken_append.mpr ⟨hminus, unbroken_toString (n + 1)⟩

theorem unbroken_singleton (h : c ≠ '\n') : Unbroken (String.singleton c) := by
  rw [Unbroken, String.toList_singleton, List.mem_singleton]
  exact fun heq => h heq.symm

theorem unbroken_joinWith {sep : String} (hsep : Unbroken sep) {parts : List String}
    (h : ∀ part ∈ parts, Unbroken part) : Unbroken (joinWith sep parts) := by
  induction parts with
  | nil => exact .literal rfl
  | cons part rest ih =>
    obtain ⟨hpart, hrest⟩ := List.forall_mem_cons.mp h
    cases rest with
    | nil =>
      rw [joinWith, String.intercalate_singleton]
      exact hpart
    | cons next rest =>
      rw [joinWith, String.intercalate_cons_cons]
      exact (hpart.append hsep).append (ih hrest)

theorem unbroken_hex (n : Nat) : Unbroken (hex n) := by
  have hdigit : ∀ k < 16, '\n' ≠ Nat.digitChar k := by decide
  rw [hex, unbroken_ofList]
  induction n using Nat.strongRecOn with
  | ind n ih =>
    rw [Nat.toDigits_eq_if (by decide)]
    split
    next hlt => exact fun h => hdigit n hlt (List.mem_singleton.mp h)
    next hge =>
      rw [List.mem_append, List.mem_singleton, not_or]
      exact ⟨ih (n / 16) (by omega), hdigit _ (Nat.mod_lt n (by decide))⟩

theorem unbroken_quotedBlank (c : Char) : Unbroken (quotedBlank c) := by
  unfold quotedBlank
  split
  · exact .literal rfl
  split
  · exact .literal rfl
  split
  · exact .literal rfl
  split
  · exact .literal rfl
  split
  · exact .literal rfl
  · exact (unbroken_hex _).between rfl rfl

/-- No letter has the line feed for its lower case. -/
theorem eq_of_toLower (h : c.toLower = '\n') : c = '\n' := by
  by_cases hupper : c.val ≥ 'A'.val ∧ c.val ≤ 'Z'.val
  · have hlow : 65 ≤ c.toNat := UInt32.le_iff_toNat_le.mp hupper.1
    have hhigh : c.toNat ≤ 90 := UInt32.le_iff_toNat_le.mp hupper.2
    have hlower : c.toLower = _ := dif_pos hupper
    rw [hlower] at h
    have hcode : (c.val + 32).toNat = 10 := congrArg (fun c : Char => c.val.toNat) h
    rw [UInt32.toNat_add] at hcode
    simp at hcode
    omega
  · have hlower : c.toLower = c := dif_neg hupper
    rwa [hlower] at h

theorem unbroken_of_mem_words (h : word ∈ words s) : Unbroken word := by
  obtain ⟨piece, hpiece, rfl⟩ := List.mem_map.mp h
  intro hmem
  rw [String.toList_ofList] at hmem
  have hblank := (of_mem_pieces (List.mem_filter.mp hpiece).1 '\n' hmem).2
  exact absurd hblank (by decide)

end Text

open Text (Unbroken)

namespace FloatLayout

theorem unbroken_positionalText {digits : String} (h : Unbroken digits) (point : Int) :
    Unbroken (positionalText false digits point) := by
  have hzeros : ∀ n, Unbroken (String.ofList (List.replicate n '0')) := by
    intro n
    rw [Text.unbroken_ofList, List.mem_replicate]
    exact fun h => absurd h.2 (by decide)
  simp only [positionalText, Bool.false_eq_true, if_false]
  split
  · exact (h.append (hzeros _)).append (.literal rfl)
  · split
    · have hwhole := Text.unbroken_of_subset h (List.take_subset point.toNat digits.toList)
      have hrest := Text.unbroken_of_subset h (List.drop_subset point.toNat digits.toList)
      rw [List.splitAt_eq]
      exact (hwhole.append (.literal rfl)).append hrest
    · exact ((hzeros _).prepend rfl).append h

theorem unbroken_plain (x : Float) : Unbroken (plainFloat.render x) := by
  have hfinite : ∀ b : Binary, Unbroken
      (if b.m = 0 then "0" else
        let digits := toString (b.shortest .up).digits
        positionalText false digits (digits.length + (b.shortest .up).exponent)) := by
    intro b
    split
    · exact .literal rfl
    · exact unbroken_positionalText (Text.unbroken_toString _) _
  unfold render
  split
  · exact .literal rfl
  · simp only
    split
    · split <;> exact .literal rfl
    · split
      · exact (hfinite _).prepend rfl
      · exact hfinite _

end FloatLayout

namespace Builtin

/-- The type that the payload of a key line starts with. -/
def payloadType? (line : String) : Option String :=
  match Text.words line with
  | _ :: payload :: _ =>
    match Base64.decode payload.toUTF8.toList with
    | .ok blob => embeddedType? blob
    | .error _ => none
  | _ => none

/-- A text that messages may quote: neither it nor a type in its payload has a line feed. -/
def Quotable (s : String) : Prop := Unbroken s ∧ ∀ type, payloadType? s = some type → Unbroken type

end Builtin

open Builtin (Quotable)

namespace Value

mutual
/-- No name in the tree has a line feed, and messages may quote all of its texts. -/
def Unbroken : Value → Prop
  | string s => Quotable s
  | sequence items => ItemsUnbroken items
  | mapping entries => EntriesUnbroken entries
  | _ => True

def ItemsUnbroken : List Value → Prop
  | [] => True
  | v :: rest => v.Unbroken ∧ ItemsUnbroken rest

def EntriesUnbroken : List (String × Value) → Prop
  | [] => True
  | (name, v) :: rest => Text.Unbroken name ∧ v.Unbroken ∧ EntriesUnbroken rest
end

theorem itemsUnbroken_iff {items : List Value} :
    ItemsUnbroken items ↔ ∀ v ∈ items, v.Unbroken := by
  induction items with
  | nil => simp [ItemsUnbroken]
  | cons v rest ih => simp [ItemsUnbroken, ih]

theorem entriesUnbroken_iff {entries : List (String × Value)} :
    EntriesUnbroken entries ↔
      ∀ entry ∈ entries, Text.Unbroken entry.1 ∧ entry.2.Unbroken := by
  induction entries with
  | nil => simp [EntriesUnbroken]
  | cons entry rest ih => simp [EntriesUnbroken, ih, and_assoc]

theorem unbroken_kind (v : Value) : Text.Unbroken v.kind := by
  unfold kind
  split <;> exact .literal rfl

end Value

theorem FieldType.unbroken_mismatch {type : FieldType} {value : Value}
    (htype : ∀ name, type = .custom name → Unbroken name) (hvalue : value.Unbroken) :
    Unbroken (type.mismatch value) := by
  have hexpectation : Unbroken type.expectation := by
    cases type with
    | custom name => exact htype name rfl
    | _ => exact .literal rfl
  have hfound : ∀ {found : String}, Unbroken found →
      Unbroken ("expected " ++ type.expectation ++ ", found " ++ found) := fun h =>
    (hexpectation.between rfl rfl).append h
  cases value with
  | string s =>
    have hs : Unbroken s := hvalue.1
    have hshown :
        Unbroken (if s.utf8ByteSize ≤ 40 then "string \"" ++ s ++ "\"" else "string") := by
      split
      · exact hs.between rfl rfl
      · exact .literal rfl
    exact hfound hshown
  | integer n => exact hfound ((Text.unbroken_toString_int n).prepend rfl)
  | float x => exact hfound ((FloatLayout.unbroken_plain x).prepend rfl)
  | bool b =>
    have hb : Unbroken (toString b) := by cases b <;> exact .literal rfl
    exact hfound (hb.prepend rfl)
  | null => exact hfound (Value.unbroken_kind .null)
  | sequence items => exact hfound (Value.unbroken_kind (.sequence items))
  | mapping entries => exact hfound (Value.unbroken_kind (.mapping entries))

namespace Judgement

/-- The reason of a refusal and the warnings are on one line each. -/
def OneLine (j : Judgement) : Prop :=
  (∀ reason, j.verdict = .refused reason → Unbroken reason) ∧
    ∀ message ∈ j.warnings, Unbroken message

theorem OneLine.accept : Judgement.accept.OneLine := ⟨nofun, nofun⟩

theorem OneLine.refuse {reason : String} (h : Unbroken reason) :
    (Judgement.refuse reason).OneLine := by
  refine ⟨fun other hother => ?_, nofun⟩
  cases hother
  exact h

end Judgement

namespace Builtin

/-- The reason for a fault is on one line. -/
def OneLine (result : Except String Unit) : Prop :=
  ∀ reason, result = .error reason → Unbroken reason

variable {x : Except String Unit} {f : Unit → Except String Unit} {s reason : String}

theorem OneLine.ok : OneLine (.ok ()) := nofun

theorem OneLine.error (h : Unbroken reason) : OneLine (.error reason) := by
  intro other hother
  cases hother
  exact h

theorem OneLine.refuseIf (condition : Bool) (h : Unbroken reason) :
    OneLine (refuseIf condition reason) := by
  unfold Builtin.refuseIf
  split
  · exact .error h
  · exact .ok

theorem OneLine.bind (hx : OneLine x) (hf : OneLine (f ())) : OneLine (x >>= f) := by
  cases x with
  | error reason => exact hx
  | ok => exact hf

theorem OneLine.judgement (h : OneLine x) : (Judgement.ofExcept x).OneLine := by
  cases x with
  | error reason => exact .refuse (h reason rfl)
  | ok => exact .accept

theorem oneLine_onText {check : String → Except String Unit}
    (h : ∀ s, Quotable s → OneLine (check s)) (site : Site) {value : Value}
    (hv : value.Unbroken) : (onText check site value).OneLine := by
  cases value with
  | string s => exact (h s hv).judgement
  | _ => exact .refuse (FieldType.unbroken_mismatch nofun hv)

theorem oneLine_checkLabel {noun : String} {label : List Char} (hnoun : Unbroken noun)
    (hlabel : '\n' ∉ label) : OneLine (checkLabel noun label) := by
  have hnamed : Unbroken (noun ++ " '" ++ String.ofList label ++ "'") :=
    ((hnoun.append (.literal rfl)).append (Text.unbroken_ofList.mpr hlabel)).append (.literal rfl)
  refine .bind (.refuseIf _ ?_) (.bind (.refuseIf _ ?_) ?_)
  · exact hnoun.append (.literal rfl)
  · exact hnamed.append (.literal rfl)
  simp only
  split
  next bad hfind =>
    have hbad : Unbroken (String.singleton bad) :=
      Text.unbroken_singleton fun heq => hlabel (heq ▸ List.mem_of_find?_eq_some hfind)
    exact .error (((hnamed.append (.literal rfl)).append hbad).append (.literal rfl))
  next =>
    refine .bind (.refuseIf _ ?_) (.bind (.refuseIf _ ?_) (.refuseIf _ ?_))
    · exact hnamed.append (.literal rfl)
    · exact hnamed.append (.literal rfl)
    · exact hnamed.append (.literal rfl)

theorem oneLine_checkLabels {labels : List (List Char)} (hs : Unbroken s)
    (hlabels : ∀ label ∈ labels, '\n' ∉ label) : OneLine (checkLabels s labels) := by
  induction labels with
  | nil => exact .ok
  | cons label rest ih =>
    obtain ⟨hlabel, hrest⟩ := List.forall_mem_cons.mp hlabels
    rw [checkLabels]
    split
    next reason hfault =>
      have hreason : Unbroken reason := oneLine_checkLabel (.literal rfl) hlabel reason hfault
      exact .error ((hs.between rfl rfl).append hreason)
    next => exact ih hrest

theorem oneLine_checkDomain (hs : Unbroken s) : OneLine (checkDomain s) := by
  have hlabels : ∀ label ∈ Text.pieces (· == '.') s.toList, '\n' ∉ label :=
    fun label hlabel hmem => hs (Text.of_mem_pieces hlabel '\n' hmem).1
  have hlast : '\n' ∉ (Text.pieces (· == '.') s.toList).getLast?.getD [] := by
    cases hend : (Text.pieces (· == '.') s.toList).getLast? with
    | none => exact List.not_mem_nil
    | some last => exact hlabels last (List.mem_of_getLast? hend)
  have hnamed : Unbroken ("domain '" ++ s) := hs.prepend rfl
  refine .bind (.refuseIf _ (.literal rfl)) (.bind (.refuseIf _ (.literal rfl)) ?_)
  refine .bind (.refuseIf _ ?_) (.bind (oneLine_checkLabels hs hlabels) (.refuseIf _ ?_))
  · exact hnamed.append (.literal rfl)
  · have hshown := Text.unbroken_ofList.mpr hlast
    exact ((hnamed.append (.literal rfl)).append hshown).append (.literal rfl)

theorem unbroken_decodeError (e : Base64.DecodeError) : Unbroken e.message := by
  have hplace : ∀ (start : String) (byte : UInt8) (offset : Nat), Unbroken start →
      Unbroken (start ++ toString byte.toNat ++ ", offset " ++ toString offset ++ ".") := by
    intro start byte offset h
    have hbyte := h.append (Text.unbroken_toString byte.toNat)
    have hcomma := hbyte.append (.literal rfl : Unbroken ", offset ")
    exact (hcomma.append (Text.unbroken_toString offset)).append (.literal rfl)
  cases e with
  | invalidByte offset byte => exact hplace _ byte offset (.literal rfl)
  | invalidLastSymbol offset byte => exact hplace _ byte offset (.literal rfl)
  | invalidLength => exact .literal rfl
  | invalidPadding => exact .literal rfl

theorem oneLine_checkKeyLine (hs : Quotable s) : OneLine (checkKeyLine s) := by
  unfold checkKeyLine
  split
  next type payload rest hwords =>
    have htype : Unbroken type :=
      Text.unbroken_of_mem_words (s := s) (by rw [hwords]; exact List.mem_cons_self)
    split
    · exact .error (htype.between rfl rfl)
    split
    next e _ => exact .error ((unbroken_decodeError e).prepend rfl)
    next blob hdecoded =>
      split
      · exact .error (.literal rfl)
      next embedded hembedded =>
        -- the bytes behind the code may hold a line feed that the value does not
        have hhidden : Unbroken embedded := by
          refine hs.2 embedded ?_
          simp only [payloadType?, hwords, hdecoded, hembedded]
        have hdeclared : Unbroken
            ("SSH key declares type '" ++ type ++ "' but its payload encodes '") :=
          htype.between rfl rfl
        exact .refuseIf _ ((hdeclared.append hhidden).append (.literal rfl))
  next => exact .error (.literal rfl)

theorem oneLine_onInteger {check : Int → Except String Unit} (h : ∀ n, OneLine (check n))
    (site : Site) {value : Value} (hv : value.Unbroken) :
    (onInteger check site value).OneLine := by
  unfold onInteger
  split
  next n _ => exact (h n).judgement
  next => exact .refuse (FieldType.unbroken_mismatch nofun hv)

theorem oneLine_password (site : Site) {value : Value} (hv : value.Unbroken) :
    (password site value).OneLine := by
  cases value with
  | string s =>
    simp only [password]
    split
    · exact .refuse (.literal rfl)
    split
    · exact .refuse (.literal rfl)
    refine ⟨nofun, fun message hmessage => ?_⟩
    simp only at hmessage
    rcases List.mem_append.mp hmessage with hshort | hplain
    · split at hshort
      · rw [List.mem_singleton.mp hshort]
        decide
      · cases hshort
    · split at hplain
      · rw [List.mem_singleton.mp hplain]
        exact (Text.unbroken_toString _).between rfl rfl
      · cases hplain
  | _ => exact .refuse (FieldType.unbroken_mismatch nofun hv)

theorem oneLine_timezone {surroundings : Surroundings} (hz : Unbroken surroundings.zoneinfo)
    (site : Site) {value : Value} (hv : value.Unbroken) :
    (timezone surroundings site value).OneLine := by
  cases value with
  | string s =>
    have hs : Unbroken s := hv.1
    simp only [timezone]
    split
    · exact .accept
    split
    · exact .refuse (hs.between rfl rfl)
    split
    · refine ⟨nofun, List.forall_mem_singleton.mpr ?_⟩
      have hmissing : Unbroken
          ("timezone database not found at " ++ surroundings.zoneinfo ++ "; '") :=
        hz.between rfl rfl
      exact (hmissing.append hs).append (.literal rfl)
    split
    · exact .accept
    · exact .refuse (hs.between rfl rfl)
  | _ => exact .refuse (FieldType.unbroken_mismatch nofun hv)

theorem oneLine_rcloneTemplate (surroundings : Surroundings) (site : Site) {value : Value}
    (hv : value.Unbroken) : (rcloneTemplate surroundings site value).OneLine := by
  refine oneLine_onText (fun s hs => ?_) site hv
  split
  · exact .ok
  split
  · exact .ok
  · exact .error (hs.1.between rfl rfl)
  · refine .error ?_
    have htemplates : Unbroken (Text.joinWith ", " rcloneTemplates) :=
      Text.unbroken_joinWith (.literal rfl) (by decide)
    have hneither : Unbroken ("'" ++ s ++ "' is neither a known rclone template (") :=
      hs.1.between rfl rfl
    exact (hneither.append htemplates).append (.literal rfl)

theorem oneLine_cronSpecialTime (site : Site) {value : Value} (hv : value.Unbroken) :
    (cronSpecialTime site value).OneLine := by
  refine oneLine_onText (fun s hs => .refuseIf _ ?_) site hv
  have hnamed : Unbroken ("'" ++ s ++ "' is not a cron special time; expected one of ") :=
    hs.1.between rfl rfl
  exact hnamed.append (Text.unbroken_joinWith (.literal rfl) (by decide))

end Builtin

namespace Url.Address

theorem unbroken_scheme_of_split {cs rest : List Char} {scheme : String}
    (h : splitScheme cs = some (scheme, rest)) : Unbroken scheme := by
  unfold splitScheme at h
  split at h
  · cases h
  split at h
  · cases h
  simp only at h
  split at h
  · cases h
    rw [Text.lowerAscii, Text.unbroken_ofList, String.toList_ofList, List.mem_map]
    rintro ⟨c, hc, heq⟩
    have hsign := List.all_eq_true.mp List.all_takeWhile c hc
    rw [Text.eq_of_toLower heq] at hsign
    exact absurd hsign (by decide)
  · cases h

/-- An address that was read has this scheme. -/
def HasScheme (scheme : String) (read : Except UrlError Address) : Prop :=
  ∀ a, read = .ok a → a.scheme = scheme

theorem HasScheme.bind {α : Type} {scheme : String} {x : Except UrlError α}
    {f : α → Except UrlError Address} (h : ∀ v, HasScheme scheme (f v)) :
    HasScheme scheme (x >>= f) := by
  cases x with
  | error e => exact nofun
  | ok v => exact h v

theorem hasScheme_withPathAfterHost (a : Address) (web : Bool) (cs : List Char) :
    HasScheme a.scheme (.ok (a.withPathAfterHost web cs)) := by
  intro b hb
  cases hb
  unfold withPathAfterHost
  split
  · split
    · rfl
    · split <;> rfl
  · rfl

theorem hasScheme_readAuthority (scheme : String) (cs : List Char) :
    HasScheme scheme (readAuthority scheme cs) := by
  unfold readAuthority
  simp only
  split
  · change HasScheme scheme (.error .emptyHost)
    exact nofun
  · split
    · exact .bind fun host => .bind fun port => hasScheme_withPathAfterHost _ _ _
    · exact .bind fun host => .bind fun port => hasScheme_withPathAfterHost _ _ _

theorem hasScheme_readFile (cs : List Char) : HasScheme "file" (readFile cs) := by
  unfold readFile
  split
  · split
    · simp only
      split
      · exact .bind fun host => hasScheme_withPathAfterHost _ _ _
      · exact .bind fun host => hasScheme_withPathAfterHost _ _ _
    · exact hasScheme_withPathAfterHost _ _ _
  · exact hasScheme_withPathAfterHost _ _ _

theorem hasScheme_readAfterScheme (scheme : String) (cs : List Char) :
    HasScheme scheme (readAfterScheme scheme cs) := by
  unfold readAfterScheme
  split
  next hfile => exact hfile ▸ hasScheme_readFile cs
  split
  · exact hasScheme_readAuthority scheme _
  · split
    · exact hasScheme_readAuthority scheme _
    · intro a ha
      cases ha
      rfl
    · intro a ha
      cases ha
      rfl

theorem unbroken_scheme {s : String} {a : Address} (h : parse s = .ok a) : Unbroken a.scheme := by
  unfold parse at h
  simp only at h
  split at h
  next scheme rest hsplit =>
    rw [hasScheme_readAfterScheme scheme rest a h]
    exact unbroken_scheme_of_split hsplit
  next => cases h

end Url.Address

namespace Builtin

theorem oneLine_checkUrl {s : String} (hs : Unbroken s) : OneLine (checkUrl s) := by
  unfold checkUrl
  split
  · exact .error (.literal rfl)
  split
  next bad _ =>
    exact .error ((Text.unbroken_quotedBlank bad).prepend rfl)
  split
  next e _ =>
    have he : Unbroken e.message := by cases e <;> exact .literal rfl
    exact .error ((hs.between rfl rfl).append he)
  next address hparsed =>
    split
    · have hscheme := Url.Address.unbroken_scheme hparsed
      exact .error (hscheme.between rfl rfl)
    · exact .refuseIf _ (hs.between rfl rfl)

end Builtin

/-- A validator that is always there has nothing to say that takes more than a line. -/
theorem Registry.oneLine_of_mem_builtins {surroundings : Surroundings}
    (hz : Unbroken surroundings.zoneinfo) {entry : String × Validator}
    (h : entry ∈ builtins surroundings) (site : Site) {value : Value} (hv : value.Unbroken) :
    (entry.2 site value).OneLine := by
  simp only [builtins, List.mem_cons, List.not_mem_nil, or_false] at h
  rcases h with rfl | rfl | rfl | rfl | rfl | rfl | rfl | rfl | rfl | rfl
  · refine Builtin.oneLine_onText (fun s hs => ?_) site hv
    exact Builtin.oneLine_checkLabel (.literal rfl) hs.1
  · exact Builtin.oneLine_onText (fun s hs => Builtin.oneLine_checkDomain hs.1) site hv
  · refine Builtin.oneLine_onInteger (fun n => ?_) site hv
    split
    · exact .error ((Text.unbroken_toString_int n).prepend rfl)
    · exact .ok
  · refine Builtin.oneLine_onInteger (fun n => ?_) site hv
    split
    · exact .error ((Text.unbroken_toString_int n).prepend rfl)
    · exact .ok
  · exact Builtin.oneLine_onText (fun s hs => Builtin.oneLine_checkUrl hs.1) site hv
  · exact Builtin.oneLine_onText (fun s hs => Builtin.oneLine_checkKeyLine hs) site hv
  · exact Builtin.oneLine_cronSpecialTime site hv
  · exact Builtin.oneLine_timezone hz site hv
  · exact Builtin.oneLine_rcloneTemplate surroundings site hv
  · exact Builtin.oneLine_password site hv

end SettingsCheck
