import SettingsCheck.Batch
import SettingsCheck.Proofs.Limits

namespace SettingsCheck

namespace CheckRun

theorem taskResult_eq_accepted_iff {deadline : Nat} {c : Completion} :
    taskResult deadline c = .accepted ↔ ∃ t ≤ deadline, c = ⟨some t, .accepted⟩ := by
  obtain ⟨endsAt, verdict⟩ := c
  constructor
  · intro h
    cases endsAt with
    | none => cases h
    | some t =>
      by_cases hlate : deadline < t
      · simp [taskResult, hlate] at h
      · have hintime : t ≤ deadline := by omega
        cases verdict with
        | accepted => exact ⟨t, hintime, rfl⟩
        | refused reason => simp [taskResult, hlate] at h
        | crashed => simp [taskResult, hlate] at h
  · rintro ⟨t, hintime, heq⟩
    cases heq
    have hlate : ¬deadline < t := by omega
    simp [taskResult, hlate]

variable {tasks : List (CheckLabel × TaskResult)} {ms : List Move} {before : Bool}

/-- What was not cancelled has dispatched all checks and has the errors of those that failed. -/
theorem outcomeOf_of_uncancelled (hp : Plays tasks ms)
    (hf : ((State.start (tasks.map Prod.fst)).moves ms).finished = true)
    (hno : (outcomeOf (tasks.map Prod.fst) before ms).cancelled = false) :
    (outcomeOf (tasks.map Prod.fst) before ms).errors.Perm (tasks.filterMap failure?) ∧
      (outcomeOf (tasks.map Prod.fst) before ms).dispatched = tasks.length := by
  cases tasks with
  | nil => exact ⟨.nil, rfl⟩
  | cons task rest =>
    cases before with
    | true => cases hno
    | false =>
      have hend := settled_of_finished hp hf
      exact ⟨(hend.uncancelled hno).2, hend.dispatched⟩

theorem cancelled_outcomeOf (hp : Plays tasks ms)
    (hf : ((State.start (tasks.map Prod.fst)).moves ms).finished = true) (hc : .cancels ∉ ms) :
    (outcomeOf (tasks.map Prod.fst) false ms).cancelled = false := by
  have hcompletes : Completes tasks ms := ⟨hp, hc, hf⟩
  obtain ⟨errors, _, hrun⟩ := hcompletes.outcome
  rw [hrun]

end CheckRun

open CheckRun

theorem Walk.errors_eq_nil_of_cut {limit : Nat} {events : List Event}
    (h : (cut limit 0 events).filterMap Event.error? = []) :
    events.filterMap Event.error? = [] := by
  rcases Nat.eq_zero_or_pos limit with rfl | hpos
  · rwa [cut_zero] at h
  · rw [errors_cut hpos, List.take_eq_nil_iff] at h
    exact h.resolve_left (by omega)

namespace DocumentValidator

variable {v : DocumentValidator} {options : Options} {document : Value}

/-- Where a walk finds no error its limit has no part in it. -/
theorem checkStructure_eq_of_no_errors (h : (v.checkStructure options document).errors = [])
    (other : Options) : v.checkStructure other document = v.checkStructure options document := by
  cases document with
  | mapping m =>
    rw [checkStructure_mapping] at h
    have hnone : (Walk.heard (v.trace m)).filterMap Event.error? = [] :=
      Walk.errors_eq_nil_of_cut h
    have hevents : ∀ limit, v.events m limit = Walk.heard (v.trace m) := by
      intro limit
      rcases Nat.eq_zero_or_pos limit with rfl | hpos
      · exact v.events_zero m
      · exact Walk.cut_of_length_lt (by simpa [hnone] using hpos)
    -- no error comes before a crash, so every walk reaches it
    have hcrashed : ∀ o, (v.checkStructure o (.mapping m)).crashed = true ↔
        Walk.Happening.crash ∈ v.trace m := by
      intro o
      have hroom : o.limit = 0 ∨ Walk.errorCount (Walk.heard (v.trace m)) < o.limit := by
        rw [Walk.errorCount, hnone, List.length_nil]
        omega
      rw [crashed_iff, and_iff_left hroom]
    have hsame := Bool.eq_iff_iff.mpr ((hcrashed other).trans (hcrashed options).symm)
    rw [checkStructure_mapping, checkStructure_mapping] at hsame ⊢
    rw [hevents, hevents, StructuralOutcome.mk.injEq]
    exact ⟨rfl, rfl, rfl, rfl, hsame⟩
  | _ => rfl

theorem fatal_of_no_errors (h : (v.checkStructure options document).errors = []) :
    (v.checkStructure options document).fatal = false := by
  cases document with
  | mapping m => rw [checkStructure_mapping]
  | _ => cases h

end DocumentValidator

namespace StructuralOutcome

variable {s : StructuralOutcome} {options : Options} {complete : PendingCheck → Completion}

theorem toRun_of_no_errors (hf : s.fatal = false) (he : s.errors = []) :
    s.toRun options = if options.runDeferred then s.pending else [] := by
  unfold toRun
  rw [hf, he]
  cases options.runDeferred <;> simp

theorem refusals_eq_nil_iff :
    s.refusals options complete = [] ↔
      ∀ c ∈ s.toRun options, ∃ t ≤ options.callTimeout, complete c = ⟨some t, .accepted⟩ := by
  simp only [refusals, List.filterMap_eq_nil_iff, ← taskResult_eq_accepted_iff]
  refine forall₂_congr fun c _ => ?_
  cases taskResult options.callTimeout (complete c) with
  | accepted => simp [TaskResult.error?]
  | refused reason => simp [TaskResult.error?]

/-- No limit hides the last error. -/
theorem errors_conclude_eq_nil_iff {run : Outcome} :
    (s.conclude options run).errors = [] ↔ s.errors = [] ∧ run.errors = [] := by
  rw [← List.append_eq_nil_iff]
  rcases Nat.eq_zero_or_pos options.maxErrors with hmax | hmax
  · have hperm := conclude_perm hmax s run
    exact ⟨fun h => (h ▸ hperm).symm.eq_nil, fun h => (h ▸ hperm).eq_nil⟩
  · have hlen := length_conclude hmax s run
    rw [← List.length_eq_zero_iff, ← List.length_eq_zero_iff]
    omega

end StructuralOutcome

namespace Job

/-- The reports that a job may end with, whatever the order in which its deferred checks end. The
cancellation may come at any time, if it is raised at all. -/
inductive MayReport (job : Job) (complete : PendingCheck → Completion) (raised : Bool) :
    Report → Prop
  | unread {reason : String} :
    job.document = .error reason → MayReport job complete raised (.fatal reason)
  | brokenOff {document : Value} :
    job.document = .ok document →
    (job.validator.checkStructure job.options document).crashed = true →
    MayReport job complete raised (.fatal "validation did not complete")
  | checked {document : Value} {s : StructuralOutcome} {before : Bool} {ms : List Move} :
    job.document = .ok document →
    job.validator.checkStructure job.options document = s →
    s.crashed = false →
    Plays (reports job.options.callTimeout (s.checks job.options complete)) ms →
    ((State.start ((s.checks job.options complete).map Prod.fst)).moves ms).finished = true →
    (raised = false → before = false ∧ .cancels ∉ ms) →
    MayReport job complete raised (s.conclude job.options
      (outcomeOf ((s.checks job.options complete).map Prod.fst) before ms))

/-- The document was read, the whole walk finds nothing in it, and the deferred checks accept in
time if they are to be run. -/
def Passes (job : Job) (complete : PendingCheck → Completion) : Prop :=
  ∃ document, job.document = .ok document ∧
    let s := job.validator.checkStructure {} document
    s.crashed = false ∧ s.errors = [] ∧
    (job.options.runDeferred = true →
      ∀ c ∈ s.pending, ∃ t ≤ job.options.callTimeout, complete c = ⟨some t, .accepted⟩)

/-- The report of a document that passes leaves out no warning and no check. -/
def Whole (job : Job) (r : Report) : Prop :=
  ∃ document, job.document = .ok document ∧
    let s := job.validator.checkStructure {} document
    r = { warnings := s.warnings
          checksRun := if job.options.runDeferred then s.pending.length else 0 }

variable {job : Job} {complete : PendingCheck → Completion} {raised : Bool} {r : Report}

theorem passes_iff {document : Value} (hd : job.document = .ok document)
    (hgoing : (job.validator.checkStructure job.options document).crashed = false) :
    job.Passes complete ↔
      (job.validator.checkStructure job.options document).errors = [] ∧
        (job.validator.checkStructure job.options document).refusals job.options complete = [] := by
  rw [StructuralOutcome.refusals_eq_nil_iff]
  constructor
  · rintro ⟨document', hd', _, he, hchecks⟩
    cases hd.symm.trans hd'
    have hfatal := DocumentValidator.fatal_of_no_errors he
    rw [DocumentValidator.checkStructure_eq_of_no_errors he job.options,
      StructuralOutcome.toRun_of_no_errors hfatal he]
    refine ⟨he, fun c hc => ?_⟩
    cases hrun : job.options.runDeferred with
    | true => exact hchecks hrun c (by simpa [hrun] using hc)
    | false => simp [hrun] at hc
  · rintro ⟨he, hchecks⟩
    have hfatal := DocumentValidator.fatal_of_no_errors he
    rw [StructuralOutcome.toRun_of_no_errors hfatal he] at hchecks
    refine ⟨document, hd, ?_⟩
    rw [DocumentValidator.checkStructure_eq_of_no_errors he {}]
    exact ⟨hgoing, he, fun hrun c hc => hchecks c (by simpa [hrun] using hc)⟩

/-- A cancellation that is not raised is not reported. -/
theorem MayReport.uncancelled (h : job.MayReport complete false r) : r.cancelled = false := by
  cases h with
  | unread _ => rfl
  | brokenOff _ _ => rfl
  | checked _ _ _ hp hf hno =>
    obtain ⟨rfl, hc⟩ := hno rfl
    rw [← map_fst_reports job.options.callTimeout] at hf
    have hrun := cancelled_outcomeOf hp hf hc
    rwa [map_fst_reports] at hrun

/-- A job that was not cancelled has a report without errors just if its document passes. -/
theorem MayReport.errors_eq_nil_iff (h : job.MayReport complete raised r)
    (hno : r.cancelled = false) : r.errors = [] ↔ job.Passes complete := by
  cases h with
  | unread hd =>
    refine ⟨fun he => (List.cons_ne_nil _ _ he).elim, ?_⟩
    rintro ⟨document, hd', _⟩
    cases hd.symm.trans hd'
  | brokenOff hd hcrashed =>
    refine ⟨fun he => (List.cons_ne_nil _ _ he).elim, ?_⟩
    rintro ⟨document', hd', hgoing, he, _⟩
    cases hd.symm.trans hd'
    rw [DocumentValidator.checkStructure_eq_of_no_errors he job.options, hgoing] at hcrashed
    cases hcrashed
  | checked hd hs hgoing hp hf _ =>
    subst hs
    rw [← map_fst_reports job.options.callTimeout] at hf hno ⊢
    obtain ⟨hrun, _⟩ := outcomeOf_of_uncancelled hp hf hno
    rw [StructuralOutcome.filterMap_reports] at hrun
    rw [passes_iff hd hgoing, StructuralOutcome.errors_conclude_eq_nil_iff]
    have hsame : ∀ {a b : List ValidationError}, a.Perm b → (a = [] ↔ b = []) := by
      intro a b hab
      rw [← List.length_eq_zero_iff, hab.length_eq, List.length_eq_zero_iff]
    rw [hsame hrun]

theorem MayReport.whole (h : job.MayReport complete raised r) (hno : r.cancelled = false)
    (he : r.errors = []) : job.Whole r := by
  cases h with
  | unread _ => cases he
  | brokenOff _ _ => cases he
  | @checked document _ _ _ hd hs hgoing hp hf _ =>
    subst hs
    rw [← map_fst_reports job.options.callTimeout] at hf hno he ⊢
    obtain ⟨_, hdispatched⟩ := outcomeOf_of_uncancelled hp hf hno
    obtain ⟨hnone, _⟩ := StructuralOutcome.errors_conclude_eq_nil_iff.mp he
    have hfatal := DocumentValidator.fatal_of_no_errors hnone
    refine ⟨document, hd, ?_⟩
    rw [DocumentValidator.checkStructure_eq_of_no_errors hnone {}, Report.mk.injEq]
    refine ⟨he, rfl, ?_, hno⟩
    simp only [StructuralOutcome.conclude]
    rw [hdispatched, length_reports, StructuralOutcome.checks, List.length_map,
      StructuralOutcome.toRun_of_no_errors hfatal hnone]
    split <;> rfl

/-- A run by the clock is one of the runs that may happen. -/
theorem mayReport_report (job : Job) (complete : PendingCheck → Completion)
    (cancel : Cancellation) :
    job.MayReport complete (cancel != .never) (job.report complete cancel) := by
  unfold report
  cases hd : job.document with
  | error reason => exact .unread hd
  | ok document =>
    cases hcrashed : (job.validator.checkStructure job.options document).crashed with
    | true =>
      simp only [hcrashed, if_true]
      exact .brokenOff hd hcrashed
    | false =>
      simp only [hcrashed, Bool.false_eq_true, if_false]
      obtain ⟨hp, hf⟩ := plays_clockedMoves job.options.callTimeout
        ((job.validator.checkStructure job.options document).checks job.options complete) cancel
      refine .checked hd rfl hcrashed hp hf fun hraised => ?_
      have hnever : cancel = .never := by simpa using hraised
      subst hnever
      exact ⟨rfl, (completes_clockedMoves _ _).uncancelled⟩

end Job

end SettingsCheck
