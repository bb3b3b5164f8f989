import SettingsCheck.Proofs.Canonical
import Mathlib.Data.List.Infix

namespace SettingsCheck

open CheckRun

variable {v : DocumentValidator} {base limited : Options} {document : Value}
  {complete : PendingCheck → Completion} {r b : Report}

namespace StructuralOutcome

/-- A walk that a limit cut short, beside the full one. -/
structure CutShort (s full : StructuralOutcome) (limit : Nat) : Prop where
  positive : 0 < limit
  length : s.errors.length = limit
  errors : s.errors <+: full.errors
  warnings : s.warnings <+: full.warnings
  pending : s.pending <+: full.pending
  fatal : s.fatal = full.fatal

/-- The limit does not cut the walk short. -/
def Within (s : StructuralOutcome) (limit : Nat) : Prop :=
  s.fatal = false → 0 < limit → s.errors.length < limit

variable {s full : StructuralOutcome}

theorem Within.toRun_eq (h : s.Within limited.limit) (hfast : base.failFast = false)
    (hdeferred : limited.runDeferred = base.runDeferred) : s.toRun limited = s.toRun base := by
  have hopen : s.fatal = false → limited.failFast = true → s.errors = [] := by
    intro hf hl
    have hlimit : limited.limit = 1 := by simp [Options.limit, hl]
    have hlen := h hf (by omega)
    exact List.length_eq_zero_iff.mp (by omega)
  unfold toRun
  rw [hfast, hdeferred]
  cases hf : s.fatal with
  | true => simp
  | false =>
    cases hl : limited.failFast with
    | false => simp
    | true => simp [hopen hf hl]

theorem CutShort.toRun_sublist (h : s.CutShort full limited.limit) (hfast : base.failFast = false)
    (hdeferred : limited.runDeferred = base.runDeferred) :
    (s.toRun limited).Sublist (full.toRun base) := by
  unfold toRun
  rw [hfast, hdeferred, h.fatal]
  cases limited.failFast with
  | true =>
    have hne : s.errors ≠ [] := by
      have hlen := h.length
      have hpos := h.positive
      exact List.ne_nil_of_length_pos (by omega)
    simp [hne]
  | false =>
    simp only [Bool.false_and, Bool.or_false]
    split
    · exact List.Sublist.refl _
    · exact h.pending.sublist

theorem refusals_sublist {s full : StructuralOutcome}
    (h : (s.toRun limited).Sublist (full.toRun base))
    (htimeout : limited.callTimeout = base.callTimeout) :
    (s.refusals limited complete).Sublist (full.refusals base complete) := by
  unfold refusals
  rw [htimeout]
  exact h.filterMap _

theorem perm_of_sortErrors (options : Options) (errors : List ValidationError) :
    (if options.sortErrors then ValidationError.sortByPath errors else errors).Perm errors := by
  split
  · exact ValidationError.sortByPath_perm _
  · exact .refl _

theorem conclude_perm (hmax : limited.maxErrors = 0) (s : StructuralOutcome) (run : Outcome) :
    (s.conclude limited run).errors.Perm (s.errors ++ run.errors) := by
  simp only [conclude, if_neg (show ¬limited.maxErrors > 0 by omega)]
  exact perm_of_sortErrors _ _

theorem conclude_subperm (s : StructuralOutcome) (run : Outcome) :
    (s.conclude limited run).errors.Subperm (s.errors ++ run.errors) := by
  simp only [conclude]
  by_cases hmax : limited.maxErrors > 0
  · rw [if_pos hmax]
    exact (List.take_sublist _ _).subperm.trans (perm_of_sortErrors _ _).subperm
  · rw [if_neg hmax]
    exact (perm_of_sortErrors _ _).subperm

theorem length_conclude (hmax : 0 < limited.maxErrors) (s : StructuralOutcome) (run : Outcome) :
    (s.conclude limited run).errors.length =
      min limited.maxErrors (s.errors ++ run.errors).length := by
  simp only [conclude, gt_iff_lt, hmax, if_true, List.length_take]
  rw [(perm_of_sortErrors limited _).length_eq]

end StructuralOutcome

namespace DocumentValidator

/-- A limit that is not reached leaves the walk as it is. -/
theorem checkStructure_limited (hfull : base.limit = 0)
    (hgoing : (v.checkStructure base document).crashed = false) :
    (v.checkStructure limited document).crashed = false ∧
    ((v.checkStructure limited document = v.checkStructure base document ∧
        (v.checkStructure limited document).Within limited.limit) ∨
      (v.checkStructure limited document).CutShort (v.checkStructure base document)
        limited.limit) := by
  cases document with
  | mapping m =>
    have hnone : Walk.Happening.crash ∉ v.trace m := fun hm =>
      absurd ((v.crashed_iff_mem m hfull).mpr hm) (by simp [hgoing])
    have hlimited : (v.checkStructure limited (.mapping m)).crashed = false := by
      rw [← Bool.not_eq_true]
      exact fun hc => hnone (v.crashed_imp_mem m hc)
    refine ⟨hlimited, ?_⟩
    rw [checkStructure_mapping] at hlimited hgoing
    simp only [checkStructure_mapping, hfull] at hlimited hgoing ⊢
    rw [hlimited, hgoing]
    have herrors : 0 < limited.limit → (v.events m limited.limit).filterMap Event.error? =
        ((v.events m 0).filterMap Event.error?).take limited.limit := by
      intro hpos
      rw [events_zero]
      exact Walk.errors_cut hpos _
    -- either the full walk meets as many errors as the limit, or the limit drops no event
    by_cases hreach : 0 < limited.limit ∧
        limited.limit ≤ ((v.events m 0).filterMap Event.error?).length
    · obtain ⟨hpos, hle⟩ := hreach
      have hprefix := v.events_isPrefix m limited.limit
      exact .inr
        { positive := hpos
          length := by simp [herrors hpos, hle]
          errors := hprefix.filterMap _
          warnings := hprefix.filterMap _
          pending := hprefix.filterMap _
          fatal := rfl }
    · have hevents : v.events m limited.limit = v.events m 0 := by
        rcases Nat.eq_zero_or_pos limited.limit with hzero | hpos
        · rw [hzero]
        · rw [events_zero]
          apply Walk.cut_of_length_lt
          rw [← events_zero]
          omega
      refine .inl ⟨by rw [hevents], fun _ hpos => ?_⟩
      simp only [hevents]
      omega
  | _ => exact ⟨rfl, .inl ⟨rfl, fun hf => by cases hf⟩⟩

/-- Before the last limit is applied, a limited check has some of the errors of the full one, and
either all of them or as many as the limit allows. -/
theorem errors_refusals_limited (complete : PendingCheck → Completion)
    (hfast : base.failFast = false) (hmax : base.maxErrors = 0)
    (htimeout : limited.callTimeout = base.callTimeout)
    (hdeferred : limited.runDeferred = base.runDeferred)
    (hgoing : (v.checkStructure base document).crashed = false) :
    let s := v.checkStructure limited document
    let full := v.checkStructure base document
    (s.errors ++ s.refusals limited complete).Sublist (full.errors ++ full.refusals base complete) ∧
    s.warnings <+: full.warnings ∧ (s.toRun limited).Sublist (full.toRun base) ∧
    (s.errors ++ s.refusals limited complete = full.errors ++ full.refusals base complete ∨
      0 < limited.limit ∧ limited.limit ≤ (s.errors ++ s.refusals limited complete).length) := by
  intro s full
  have hfull : base.limit = 0 := by simp [Options.limit, hfast, hmax]
  obtain ⟨_, ⟨heq, hwithin⟩ | hcut⟩ := v.checkStructure_limited hfull hgoing
  · have hrun : s.toRun limited = full.toRun base :=
      (hwithin.toRun_eq hfast hdeferred).trans (congrArg (·.toRun base) heq)
    have hrefusals : s.refusals limited complete = full.refusals base complete := by
      unfold StructuralOutcome.refusals
      rw [hrun, htimeout]
    have hsame : s.errors ++ s.refusals limited complete =
        full.errors ++ full.refusals base complete := by
      rw [hrefusals, show s.errors = full.errors from congrArg (·.errors) heq]
    refine ⟨hsame ▸ List.Sublist.refl _, ?_, hrun ▸ List.Sublist.refl _, .inl hsame⟩
    rw [show s.warnings = full.warnings from congrArg (·.warnings) heq]
  · have hrun := hcut.toRun_sublist hfast hdeferred
    refine ⟨hcut.errors.sublist.append (StructuralOutcome.refusals_sublist hrun htimeout),
      hcut.warnings, hrun, .inr ⟨hcut.positive, ?_⟩⟩
    have hlen : s.errors.length = limited.limit := hcut.length
    rw [List.length_append]
    omega

/-- Whatever the limits and the order of the errors, a check that has an answer without limits has
one, with the same verdict. It reports errors of the full report, as many as it may. -/
theorem limits_keep_verdict (v : DocumentValidator) (document : Value)
    (complete : PendingCheck → Completion) (base limited : Options) (b : Report)
    (hfast : base.failFast = false) (hmax : base.maxErrors = 0)
    (htimeout : limited.callTimeout = base.callTimeout)
    (hdeferred : limited.runDeferred = base.runDeferred)
    (hb : v.Yields base complete document b) :
    (∃ r, v.Yields limited complete document r) ∧
    ∀ r, v.Yields limited complete document r →
      r.isValid = b.isValid ∧ r.errors.Subperm b.errors ∧ r.warnings <+: b.warnings ∧
      r.checksRun ≤ b.checksRun ∧
      (limited.failFast = false → 0 < limited.maxErrors →
        r.errors.length = min limited.maxErrors b.errors.length) := by
  have hfull : base.limit = 0 := by simp [Options.limit, hfast, hmax]
  have hgoing := (v.checkStructure_limited hfull hb.1 : (v.checkStructure limited document).crashed
    = false ∧ _).1
  refine ⟨⟨_, yields_report hgoing⟩, fun r hr => ?_⟩
  obtain ⟨hsub, hwarnings, hchecks, hcount⟩ := errors_refusals_limited complete hfast
    hmax htimeout hdeferred hb.1
  obtain ⟨run, hrun, hdispatched, _, rfl⟩ := hr.exists_run
  obtain ⟨run', hrun', hdispatched', _, rfl⟩ := hb.exists_run
  have hb_perm := (StructuralOutcome.conclude_perm hmax (v.checkStructure base document) run').trans
    (hrun'.append_left _)
  have hr_perm := hrun.append_left (v.checkStructure limited document).errors
  have hsome : ((v.checkStructure limited document).conclude limited run).errors.Subperm
      ((v.checkStructure base document).conclude base run').errors :=
    ((StructuralOutcome.conclude_subperm _ run).trans hr_perm.subperm).trans
      (hsub.subperm.trans hb_perm.symm.subperm)
  have hmore := hsub.length_le
  rw [← hb_perm.length_eq, ← hr_perm.length_eq] at hmore
  have hlen : ((v.checkStructure limited document).errors ++ run.errors).length =
        ((v.checkStructure base document).conclude base run').errors.length ∨
      0 < limited.limit ∧
        limited.limit ≤ ((v.checkStructure limited document).errors ++ run.errors).length := by
    rw [hr_perm.length_eq, hb_perm.length_eq]
    exact hcount.imp_left (congrArg List.length)
  refine ⟨?_, hsome, hwarnings, ?_, ?_⟩
  · rw [Report.isValid, Report.isValid, Bool.eq_iff_iff, List.isEmpty_iff_length_eq_zero,
      List.isEmpty_iff_length_eq_zero]
    have hfewer := hsome.length_le
    rcases Nat.eq_zero_or_pos limited.maxErrors with hnone | hpos
    · have hall := (StructuralOutcome.conclude_perm hnone
        (v.checkStructure limited document) run).length_eq
      omega
    · have htaken := StructuralOutcome.length_conclude hpos
        (v.checkStructure limited document) run
      omega
  · have hle := hchecks.length_le
    simp only [StructuralOutcome.conclude]
    omega
  · intro hall hpos
    have hlimit : limited.limit = limited.maxErrors := by simp [Options.limit, hall]
    rw [StructuralOutcome.length_conclude hpos]
    omega

end DocumentValidator

namespace Sample

/-- The report without limits, by the clock. -/
def fullReport : Report :=
  (validator.checkStructure {} (.mapping Sample.document)).report {} (revokedAfter 3) .never

def atMostTwo : Options := { maxErrors := 2, sortErrors := false }

theorem two_errors_of_full_report :
    validator.Yields {} (revokedAfter 3) (.mapping Sample.document) fullReport ∧
    (∃ r, validator.Yields atMostTwo (revokedAfter 3) (.mapping Sample.document) r) ∧
    ∀ r, validator.Yields atMostTwo (revokedAfter 3) (.mapping Sample.document) r →
      r.isValid = false ∧ r.errors.Subperm fullReport.errors ∧ r.errors.length = 2 := by
  have hb : validator.Yields {} (revokedAfter 3) (.mapping Sample.document) fullReport :=
    DocumentValidator.yields_report (by decide)
  have hfull : fullReport.errors.length = 6 := by
    obtain ⟨run, hrun, _, _, hr⟩ := hb.exists_run
    have hmax : ({} : Options).maxErrors = 0 := rfl
    have hperm := (StructuralOutcome.conclude_perm hmax
      (validator.checkStructure {} (.mapping Sample.document)) run).trans (hrun.append_left _)
    rw [hr, hperm.length_eq]
    decide
  obtain ⟨hexists, hlimited⟩ := DocumentValidator.limits_keep_verdict validator
    (.mapping Sample.document) (revokedAfter 3) {} atMostTwo fullReport rfl rfl rfl rfl hb
  refine ⟨hb, hexists, fun r hr => ?_⟩
  obtain ⟨hvalid, hsome, _, _, hlength⟩ := hlimited r hr
  have hne : fullReport.isValid = false := by
    rw [Report.isValid, List.isEmpty_eq_false_iff]
    exact List.ne_nil_of_length_pos (by omega)
  refine ⟨hvalid.trans hne, hsome, ?_⟩
  rw [hlength rfl (by decide), hfull]
  rfl

end Sample

end SettingsCheck
