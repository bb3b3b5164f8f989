import SettingsCheck.Proofs.Asking

namespace SettingsCheck

namespace Walk

/-- One sequence of events is the other one, cut after its `n`-th error. -/
structure CutAfter (n : Nat) (whole part : List Event) : Prop where
  isPrefix : part <+: whole
  all_of_fewer : errorCount whole < n → part = whole
  count : n ≤ errorCount whole → errorCount part = n
  shortest : ∀ other, other <+: whole → n ≤ errorCount other → part <+: other
  ends : n ≤ errorCount whole → ∃ before e, part = before ++ [.error e]

variable {limit met : Nat}

/-- What comes after the last error that is allowed has no part in the cut. -/
theorem cut_append {first : List Event} (hroom : met < limit)
    (hfull : limit ≤ met + errorCount first) (rest : List Event) :
    cut limit met (first ++ rest) = cut limit met first := by
  induction first generalizing met with
  | nil => rw [errorCount_nil] at hfull; omega
  | cons event first ih =>
    cases he : event.error? with
    | none =>
      rw [errorCount_cons_of_other he] at hfull
      rw [List.cons_append, cut_cons_of_other he, cut_cons_of_other he, ih hroom hfull]
    | some e =>
      cases event <;> cases he
      rw [errorCount_cons_error] at hfull
      simp only [List.cons_append, cut]
      split
      · rfl
      · rw [ih (by omega) (by omega)]

/-- A cut that the limit makes ends with an error. -/
theorem cut_ends_with_error {events : List Event} (hroom : met < limit)
    (hfull : limit ≤ met + errorCount events) :
    ∃ before e, cut limit met events = before ++ [.error e] := by
  induction events generalizing met with
  | nil => rw [errorCount_nil] at hfull; omega
  | cons event events ih =>
    cases he : event.error? with
    | none =>
      rw [errorCount_cons_of_other he] at hfull
      obtain ⟨before, last, heq⟩ := ih hroom hfull
      exact ⟨event :: before, last, by rw [cut_cons_of_other he, heq, List.cons_append]⟩
    | some e =>
      cases event <;> cases he
      rw [errorCount_cons_error] at hfull
      by_cases hlast : limit ≤ met + 1
      · have hstop : limit ≠ 0 ∧ limit ≤ met + 1 := ⟨by omega, hlast⟩
        exact ⟨[], e, by simp [cut, hstop]⟩
      · obtain ⟨before, last, heq⟩ := @ih (met + 1) (by omega) (by omega)
        exact ⟨.error e :: before, last, by simp [cut, hlast, heq]⟩

theorem cutAfter_cut {n : Nat} (hn : 0 < n) (events : List Event) :
    CutAfter n events (cut n 0 events) where
  isPrefix := cut_isPrefix n 0 events
  all_of_fewer hfew := cut_of_length_lt (by simpa [errorCount] using hfew)
  count hmany := by
    unfold errorCount at hmany ⊢
    rw [errors_cut hn, List.length_take]
    omega
  shortest other hother hmany := by
    obtain ⟨rest, rfl⟩ := hother
    rw [cut_append hn (by omega) rest]
    exact cut_isPrefix n 0 other
  ends hmany := cut_ends_with_error hn (by omega)

end Walk

open Walk

namespace DocumentValidator

/-- A walk with a limit is the full walk up to its last error that is allowed, in its events and in
the validators that it asks: recording ones show no more of them, and all others may be replaced. -/
theorem limited_walk_halts_at_error (v : DocumentValidator) (full limited : Options) (n : Nat)
    (hfull : full.failFast = false ∧ full.maxErrors = 0) (hn : 0 < n)
    (hlimited : limited.failFast = true ∧ n = 1 ∨
      limited.failFast = false ∧ limited.maxErrors = n) :
    (∀ document : Mapping,
      CutAfter n (v.pass full document) (v.pass limited document) ∧
      CutAfter n (v.recording.pass full document) (v.recording.pass limited document) ∧
      (∀ options, (v.recording.pass options document).filterMap Event.unwarned? =
        (v.pass options document).filterMap Event.unwarned?) ∧
      (∀ f, (∀ name validator site value,
          .warning ⟨site.path, name⟩ ∈ v.recording.pass limited document →
          f name validator site value = validator site value) →
        (v.adjust f).checkStructure limited (.mapping document) =
          v.checkStructure limited (.mapping document)) ∧
      ((v.checkStructure limited (.mapping document)).crashed = true ↔
        (v.checkStructure full (.mapping document)).crashed = true ∧
          errorCount (v.pass full document) < n)) ∧
    ∀ document : Value,
      (v.checkStructure limited document).errors <+: (v.checkStructure full document).errors ∧
      (v.checkStructure limited document).warnings <+: (v.checkStructure full document).warnings ∧
      (v.checkStructure limited document).pending <+: (v.checkStructure full document).pending := by
  have hzero : full.limit = 0 := by simp [Options.limit, hfull]
  have hlimit : limited.limit = n := by
    rcases hlimited with ⟨hfast, rfl⟩ | ⟨hfast, rfl⟩ <;> simp [Options.limit, hfast]
  have hcut : ∀ (w : DocumentValidator) (document : Mapping),
      CutAfter n (w.pass full document) (w.pass limited document) := by
    intro w document
    rw [pass_eq_events, pass_eq_events, hzero, hlimit, events_zero]
    exact cutAfter_cut hn _
  refine ⟨fun document => ⟨hcut v document, hcut v.recording document,
    v.unwarned_pass_recording document, fun f hf => v.checkStructure_adjust document hf, ?_⟩,
    fun document => ?_⟩
  · rw [crashed_iff, crashed_iff, hzero, hlimit, pass_eq_events, hzero, events_zero]
    simp [Nat.ne_of_gt hn]
  · cases document with
    | mapping m =>
      have hpart := (hcut v m).isPrefix
      exact ⟨hpart.filterMap _, hpart.filterMap _, hpart.filterMap _⟩
    | _ => exact ⟨List.prefix_refl _, List.prefix_refl _, List.prefix_refl _⟩

end DocumentValidator

namespace Sample

/-- The first error is an unknown field, so the validator of the names is not asked, and it does not
show when all validators break off. -/
theorem halts_before_names :
    let full : Options := {}
    let limited : Options := { failFast := true }
    let broken := validator.adjust fun _ _ _ _ => ⟨.crashed, []⟩
    (full.failFast = false ∧ full.maxErrors = 0) ∧ 0 < 1 ∧ limited.failFast = true ∧
    CutAfter 1 (validator.pass full document) (validator.pass limited document) ∧
    errorCount (validator.pass full document) = 5 ∧
    errorCount (validator.pass limited document) = 1 ∧
    (validator.recording.pass full document).filterMap Event.warning? =
      [⟨⟨[.key "nodes", .index 0, .key "name"]⟩, "subdomain"⟩] ∧
    (broken.checkStructure full (.mapping document)).crashed = true ∧
    broken.checkStructure limited (.mapping document) =
      validator.checkStructure limited (.mapping document) ∧
    (validator.checkStructure limited (.mapping document)).errors <+:
      (validator.checkStructure full (.mapping document)).errors := by
  intro full limited broken
  obtain ⟨hpass, houtcome⟩ := DocumentValidator.limited_walk_halts_at_error validator full limited 1
    ⟨rfl, rfl⟩ (by decide) (.inl ⟨rfl, rfl⟩)
  obtain ⟨hcut, _, _, hreplace, _⟩ := hpass document
  have hfive : errorCount (validator.pass full document) = 5 := by decide
  have hnone : (validator.recording.pass limited document).filterMap Event.warning? = [] := by
    decide
  have hbroken : broken.checkStructure limited (.mapping document) =
      validator.checkStructure limited (.mapping document) := by
    refine hreplace _ fun name _ site _ hm => ?_
    have hw := Event.mem_filterMap_warning?.mpr hm
    rw [hnone] at hw
    cases hw
  exact ⟨⟨rfl, rfl⟩, by decide, rfl, hcut, hfive, hcut.count (by omega), by decide,
    by decide, hbroken, (houtcome (.mapping document)).1⟩

end Sample

end SettingsCheck
