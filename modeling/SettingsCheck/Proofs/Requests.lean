import SettingsCheck.Http.Client
import SettingsCheck.Proofs.WrittenBytes

namespace SettingsCheck.Http

/-- The header of a login: name and password with a colon in between, in base 64. -/
def loginHeader (username password : String) : String :=
  "Basic " ++ Base64.written (username ++ ":" ++ password).toUTF8.toList

/-- A text that a header can hold. -/
def Sendable (header : String) : Prop :=
  ∀ c ∈ header.toList, c = '\t' ∨ 0x20 ≤ c.toNat ∧ c.toNat ≠ 0x7F

theorem isHeaderText_iff {header : String} : isHeaderText header = true ↔ Sendable header := by
  simp [isHeaderText, Sendable, List.all_eq_true]

instance (header : String) : Decidable (Sendable header) := decidable_of_iff _ isHeaderText_iff

/-- What is sent to an address with some headers. A login in the address gets a header of its own,
in front of the others. Nothing can be sent over a scheme other than `http` and `https`. -/
def requestTo (address : Url.Address) (headers : List String) : Option Request :=
  let (bare, own) := withoutLogin address
  if (∀ header ∈ headers, Sendable header) ∧ (bare.scheme = "http" ∨ bare.scheme = "https") then
    some ⟨bare, own ++ headers⟩
  else none

/-- An address with some pairs behind its query. -/
def withPairs (address : Url.Address) (pairs : List (String × String)) : Url.Address :=
  pairs.foldl (fun a (name, value) => a.addQuery name value) address

variable {address : Url.Address} {credentials : Option Credentials} {request : Request}

/-- The headers given stand behind the ones that the address brings along. -/
theorem authorization_of_requestTo {headers : List String}
    (h : requestTo address headers = some request) :
    request.authorization = (withoutLogin address).2 ++ headers := by
  unfold requestTo at h
  simp only [Option.ite_none_right_eq_some] at h
  rw [← Option.some.inj h.2]

theorem build_eq (address : Url.Address) (credentials : Option Credentials) :
    (Request.build address credentials).toOption =
      requestTo address (credentials.map Credentials.header).toList := by
  unfold Request.build requestTo
  generalize (credentials.map Credentials.header).toList = headers
  obtain ⟨bare, own⟩ := withoutLogin address
  have hall : headers.all isHeaderText = true ↔ ∀ header ∈ headers, Sendable header := by
    simp only [List.all_eq_true, isHeaderText_iff]
  by_cases hsendable : ∀ header ∈ headers, Sendable header
  · have hyes : headers.all isHeaderText = true := hall.mpr hsendable
    by_cases hscheme : bare.scheme = "http" ∨ bare.scheme = "https"
    · have hknown : ¬(bare.scheme ≠ "http" ∧ bare.scheme ≠ "https") := by
        rintro ⟨hhttp, hhttps⟩
        exact hscheme.elim hhttp hhttps
      simp only [hyes, if_pos (And.intro hsendable hscheme)]
      simp [hknown, Except.toOption]
    · simp only [hyes, if_neg (fun h : _ ∧ _ => hscheme h.2)]
      simp [not_or.mp hscheme, Except.toOption]
  · have hno : headers.all isHeaderText = false := by rwa [← Bool.not_eq_true, hall]
    simp only [hno, if_neg (fun h : _ ∧ _ => hsendable h.1)]
    rfl

theorem requestTo_eq_some_iff : requestTo address (credentials.map Credentials.header).toList =
    some request ↔ Request.build address credentials = .ok request := by
  rw [← build_eq]
  cases Request.build address credentials <;> simp [Except.toOption]

theorem requestTo_eq_none_iff : requestTo address (credentials.map Credentials.header).toList =
    none ↔ ∃ f, Request.build address credentials = .error f := by
  rw [← build_eq]
  cases Request.build address credentials <;> simp [Except.toOption]

end SettingsCheck.Http
