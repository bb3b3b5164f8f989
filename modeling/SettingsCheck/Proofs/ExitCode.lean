import SettingsCheck.Proofs.Passing
import SettingsCheck.Proofs.Targets

namespace SettingsCheck.Command

open CheckRun CommandLine

section Lists

variable {α β : Type} {R : α → β → Prop} {l : List α} {l' : List β}

theorem forall₂_zipIdx (h : List.Forall₂ R l l') (n : Nat) :
    List.Forall₂ (fun x y => R x.1 y.1 ∧ x.2 = y.2) (l.zipIdx n) (l'.zipIdx n) := by
  induction h generalizing n with
  | nil => exact .nil
  | cons hxy _ ih => exact .cons ⟨hxy, rfl⟩ (ih (n + 1))

theorem forall_mem_iff_of_forall₂ (h : List.Forall₂ R l l') {p : α → Prop} {q : β → Prop}
    (hpq : ∀ x, ∀ y ∈ l', R x y → (p x ↔ q y)) : (∀ x ∈ l, p x) ↔ ∀ y ∈ l', q y := by
  induction h with
  | nil => simp
  | cons hxy _ ih =>
    have hrest := ih fun x y hy => hpq x y (List.mem_cons_of_mem _ hy)
    rw [List.forall_mem_cons, List.forall_mem_cons, hpq _ _ List.mem_cons_self hxy, hrest]

theorem exists_forall₂ (h : ∀ x ∈ l, ∃ y, R x y) : ∃ ys, List.Forall₂ R l ys := by
  induction l with
  | nil => exact ⟨[], .nil⟩
  | cons x rest ih =>
    obtain ⟨hx, hrest⟩ := List.forall_mem_cons.mp h
    obtain ⟨y, hy⟩ := hx
    obtain ⟨ys, hys⟩ := ih hrest
    exact ⟨y :: ys, .cons hy hys⟩

end Lists

variable {c : Context} {s : Situation} {arguments : Arguments} {a : ValidateArguments}
  {config : Config} {registry : Registry}

/-- The document can be read, the whole walk by its schema finds nothing in it, and the deferred
checks accept in time unless the run is offline. -/
def Target.Passes (s : Situation) (config : Config) (a : ValidateArguments) (registry : Registry)
    (complete : PendingCheck → Completion) (target : Target) : Prop :=
  ∃ validator document, target.Demands s.files registry validator ∧
    target.Reads s.files document ∧
    let o := validator.checkStructure {} document
    o.crashed = false ∧ o.errors = [] ∧
    (¬Offline a config →
      ∀ check ∈ o.pending, ∃ t ≤ deadline a config, complete check = ⟨some t, .accepted⟩)

/-- The arguments, the settings and the schemas are sound, and every document passes. -/
def AllPass (s : Situation) (config : Config) (a : ValidateArguments)
    (complete : Nat → PendingCheck → Completion) : Prop :=
  ∃ list registry, Targeted a config list ∧ a.timeoutSecs ≠ some 0 ∧ Registers s config registry ∧
    ∀ entry ∈ list.zipIdx, entry.1.Passes s config a registry (complete entry.2)

/-- The report of a document without errors leaves out no warning and no check. -/
def Target.Whole (s : Situation) (config : Config) (a : ValidateArguments) (registry : Registry)
    (target : Target) (r : Report) : Prop :=
  ∃ validator document, target.Demands s.files registry validator ∧
    target.Reads s.files document ∧
    let o := validator.checkStructure {} document
    r = { warnings := o.warnings
          checksRun := if Offline a config then 0 else o.pending.length }

/-- The reports are those of the targets in order, each of them whole. -/
def AllWhole (s : Situation) (config : Config) (a : ValidateArguments) (b : BatchReport) : Prop :=
  ∃ list registry, Targeted a config list ∧ Registers s config registry ∧
    List.Forall₂ (fun (target : Target) (d : DocumentReport) =>
      d.name = target.name ∧ target.Whole s config a registry d.report) list b.documents

/-- The reports that a batch may end with. -/
def MayReportAll (jobs : List Job) (complete : Nat → PendingCheck → Completion) (raised : Bool)
    (b : BatchReport) : Prop :=
  List.Forall₂ (fun (entry : Job × Nat) (d : DocumentReport) =>
    d.name = entry.1.name ∧ entry.1.MayReport (complete entry.2) raised d.report)
    jobs.zipIdx b.documents

/-- How a command that checks documents may end, with its reports. The deferred checks of all
documents are under way at once and end in any order, and the cancellation may come at any time. -/
inductive Ends (c : Context) (a : ValidateArguments) (complete : Nat → PendingCheck → Completion)
    (raised : Bool) : BatchReport → Except CommandError Unit → Prop
  | refused {e : CommandError} :
    (prepare c a).jobs = .error e → Ends c a complete raised {} (.error e)
  | reported {jobs : List Job} {b : BatchReport} :
    (prepare c a).jobs = .ok jobs → MayReportAll jobs complete raised b →
    Ends c a complete raised b (verdict b)

theorem runDeferred_iff : (optionsOf a config).runDeferred = true ↔ ¬Offline a config := by
  simp [optionsOf]

theorem Prepared.passes_iff {target : Target} {job : Job}
    (h : Prepared (s.context arguments config) registry (optionsOf a config) target job)
    (complete : PendingCheck → Completion) :
    target.Passes s config a registry complete ↔ job.Passes complete := by
  obtain ⟨validator, hv, rfl⟩ := h
  have hdemands := loadSchema_eq_ok_iff.mp hv
  unfold Target.Passes Job.Passes
  simp only [runDeferred_iff]
  constructor
  · rintro ⟨validator', document, hdemands', hd, hs⟩
    cases hv.symm.trans (loadSchema_eq_ok_iff.mpr hdemands')
    exact ⟨document, loadDocument_eq_ok_iff.mpr hd, hs⟩
  · rintro ⟨document, hd, hs⟩
    exact ⟨validator, document, hdemands, loadDocument_eq_ok_iff.mp hd, hs⟩

theorem Prepared.whole {target : Target} {job : Job} {r : Report}
    (h : Prepared (s.context arguments config) registry (optionsOf a config) target job)
    (hr : job.Whole r) : target.Whole s config a registry r := by
  obtain ⟨validator, hv, rfl⟩ := h
  obtain ⟨document, hd, rfl⟩ := hr
  refine ⟨validator, document, loadSchema_eq_ok_iff.mp hv, loadDocument_eq_ok_iff.mp hd, ?_⟩
  by_cases hoffline : Offline a config <;> simp [optionsOf, hoffline]

/-- All documents pass just if their jobs can be prepared and all of these pass. -/
theorem allPass_iff (arguments : Arguments) {complete : Nat → PendingCheck → Completion} :
    AllPass s config a complete ↔ ∃ jobs, (prepare (s.context arguments config) a).jobs = .ok jobs ∧
      ∀ entry ∈ jobs.zipIdx, entry.1.Passes (complete entry.2) := by
  constructor
  · rintro ⟨list, registry, hlist, htimeout, hregistry, hpass⟩
    obtain ⟨jobs, hprepared⟩ : ∃ jobs, List.Forall₂
        (Prepared (s.context arguments config) registry (optionsOf a config)) list jobs := by
      refine exists_forall₂ fun target ht => ?_
      obtain ⟨i, hi⟩ := List.mem_iff_getElem?.mp ht
      obtain ⟨validator, _, hdemands, _⟩ := hpass (target, i) (List.mem_zipIdx_iff_getElem?.mpr hi)
      exact ⟨_, validator, loadSchema_eq_ok_iff.mpr hdemands, rfl⟩
    refine ⟨jobs, prepare_eq_ok_iff.mpr ⟨list, registry, hlist, htimeout, hregistry, hprepared⟩,
      ?_⟩
    refine (forall_mem_iff_of_forall₂ (forall₂_zipIdx hprepared 0) ?_).mp hpass
    rintro ⟨target, i⟩ ⟨job, j⟩ _ ⟨h, heq⟩
    cases heq
    exact h.passes_iff _
  · rintro ⟨jobs, hjobs, hpass⟩
    obtain ⟨list, registry, hlist, htimeout, hregistry, hprepared⟩ := prepare_eq_ok_iff.mp hjobs
    refine ⟨list, registry, hlist, htimeout, hregistry, ?_⟩
    refine (forall_mem_iff_of_forall₂ (forall₂_zipIdx hprepared 0) ?_).mpr hpass
    rintro ⟨target, i⟩ ⟨job, j⟩ _ ⟨h, heq⟩
    cases heq
    exact h.passes_iff _

theorem cancelled_eq_false_iff {b : BatchReport} :
    b.cancelled = false ↔ ∀ d ∈ b.documents, d.report.cancelled = false := by
  simp [BatchReport.cancelled]

theorem isValid_iff {b : BatchReport} :
    b.isValid = true ↔ ∀ d ∈ b.documents, d.report.errors = [] := by
  simp [BatchReport.isValid, Report.isValid]

theorem verdict_eq_ok_iff {b : BatchReport} :
    verdict b = .ok () ↔ b.cancelled = false ∧ b.isValid = true := by
  unfold verdict
  cases b.cancelled <;> cases b.isValid <;> simp

theorem verdict_of_cancelled {b : BatchReport} (h : b.cancelled = true) :
    verdict b = .error .cancelled :=
  if_pos h

namespace MayReportAll

variable {jobs : List Job} {complete : Nat → PendingCheck → Completion} {raised : Bool}
  {b : BatchReport}

theorem uncancelled (h : MayReportAll jobs complete false b) : b.cancelled = false := by
  rw [cancelled_eq_false_iff]
  refine (forall_mem_iff_of_forall₂ h (p := fun _ => True) ?_).mp fun _ _ => trivial
  rintro entry d _ ⟨_, hd⟩
  simp [hd.uncancelled]

/-- A batch that was not cancelled is valid just if all of its jobs pass. -/
theorem isValid_iff (h : MayReportAll jobs complete raised b) (hno : b.cancelled = false) :
    b.isValid = true ↔ ∀ entry ∈ jobs.zipIdx, entry.1.Passes (complete entry.2) := by
  rw [Command.isValid_iff]
  refine (forall_mem_iff_of_forall₂ h ?_).symm
  rintro entry d hm ⟨_, hd⟩
  exact (hd.errors_eq_nil_iff (cancelled_eq_false_iff.mp hno d hm)).symm

theorem whole (h : MayReportAll jobs complete raised b) (hno : b.cancelled = false)
    (hvalid : b.isValid = true) :
    List.Forall₂ (fun (job : Job) (d : DocumentReport) => d.name = job.name ∧ job.Whole d.report)
      jobs b.documents := by
  have hclean : ∀ d ∈ b.documents, d.report.cancelled = false ∧ d.report.errors = [] :=
    fun d hm => ⟨cancelled_eq_false_iff.mp hno d hm, Command.isValid_iff.mp hvalid d hm⟩
  have hboth := ((List.forall₂_and_left _ _).mpr ⟨hclean, h.flip⟩).flip
  rw [← List.zipIdx_map_fst 0 jobs, List.forall₂_map_left_iff]
  refine hboth.imp ?_
  rintro entry d ⟨⟨hno, he⟩, hname, hd⟩
  exact ⟨hname, hd.whole hno he⟩

end MayReportAll

theorem exitCode_eq_zero_iff {f : Finished} : f.exitCode = 0 ↔ f.result = .ok () := by
  unfold Finished.exitCode
  cases f.result with
  | ok _ => simp
  | error e => cases e <;> simp [CommandError.exitCode]

/-- A run by the clock is one of the runs that may happen. -/
theorem ends_validate (c : Context) (a : ValidateArguments)
    (complete : Nat → PendingCheck → Completion) (cancel : Cancellation) :
    ∃ b, Ends c a complete (cancel != .never) b
      (validate c a (fun _ => complete) cancel).result := by
  cases hjobs : (prepare c a).jobs with
  | error e =>
    simp only [validate, hjobs]
    exact ⟨_, .refused hjobs⟩
  | ok jobs =>
    simp only [validate, hjobs]
    refine ⟨_, .reported hjobs ?_⟩
    unfold MayReportAll checkBatch
    rw [List.forall₂_map_right_iff, List.forall₂_same]
    exact fun entry _ => ⟨rfl, entry.1.mayReport_report _ _⟩

variable {complete : Nat → PendingCheck → Completion} {raised : Bool} {b : BatchReport}
  {result : Except CommandError Unit}

/-- The jobs that end well are those of the targets. -/
theorem allWhole_of_jobs {jobs : List Job}
    (hjobs : (prepare (s.context arguments config) a).jobs = .ok jobs)
    (h : List.Forall₂ (fun (job : Job) (d : DocumentReport) =>
      d.name = job.name ∧ job.Whole d.report) jobs b.documents) : AllWhole s config a b := by
  obtain ⟨list, registry, hlist, _, hregistry, hprepared⟩ := prepare_eq_ok_iff.mp hjobs
  refine ⟨list, registry, hlist, hregistry, ?_⟩
  rw [List.forall₂_iff_get] at hprepared h ⊢
  obtain ⟨hlength, hprepared⟩ := hprepared
  obtain ⟨hlength', h⟩ := h
  refine ⟨hlength.trans hlength', fun i hi hi' => ?_⟩
  have hjob := hprepared i hi (hlength ▸ hi)
  obtain ⟨hname, hwhole⟩ := h i (hlength ▸ hi) hi'
  refine ⟨hname.trans ?_, hjob.whole hwhole⟩
  obtain ⟨_, _, hjob⟩ := hjob
  rw [hjob]

/-- A command that ends well has left nothing out. -/
theorem Ends.allPass (h : Ends (s.context arguments config) a complete raised b result)
    (hok : result = .ok ()) : AllPass s config a complete ∧ AllWhole s config a b := by
  cases h with
  | refused _ => cases hok
  | @reported jobs _ hjobs hreports =>
    obtain ⟨hno, hvalid⟩ := verdict_eq_ok_iff.mp hok
    exact ⟨(allPass_iff arguments).mpr ⟨jobs, hjobs, (hreports.isValid_iff hno).mp hvalid⟩,
      allWhole_of_jobs hjobs (hreports.whole hno hvalid)⟩

/-- Documents that all pass make a command end well unless it is cancelled. -/
theorem Ends.of_allPass (h : Ends (s.context arguments config) a complete raised b result)
    (hpass : AllPass s config a complete) :
    result = .ok () ∨ raised = true ∧ result = .error .cancelled := by
  obtain ⟨jobs, hjobs, hpass⟩ := (allPass_iff arguments).mp hpass
  cases h with
  | refused hrefused =>
    rw [hjobs] at hrefused
    cases hrefused
  | @reported jobs' _ hjobs' hreports =>
    rw [hjobs] at hjobs'
    cases hjobs'
    cases hc : b.cancelled with
    | false => exact .inl (verdict_eq_ok_iff.mpr ⟨hc, (hreports.isValid_iff hc).mpr hpass⟩)
    | true =>
      refine .inr ⟨?_, verdict_of_cancelled hc⟩
      cases raised with
      | true => rfl
      | false => exact absurd (hreports.uncancelled.symm.trans hc) (by simp)

/-- An exit code of zero means that all documents were read and pass, and documents that all pass
give it unless the run was cancelled, in whatever order the deferred checks end. -/
theorem exit_zero_iff_all_pass (s : Situation) (a : Arguments) (arguments : ValidateArguments)
    (complete : Nat → PendingCheck → Completion) (ha : a.command = .validate arguments) :
    (∀ config raised b result, s.loadConfig a = .ok config →
      Ends (s.context a config) arguments complete raised b result →
      (result = .ok () →
        AllPass s config arguments complete ∧ AllWhole s config arguments b) ∧
      (AllPass s config arguments complete →
        result = .ok () ∨ raised = true ∧ result = .error .cancelled)) ∧
    ∀ cancel,
      let f := run s a (fun _ => complete) cancel
      (∀ config, s.loadConfig a = .ok config →
        ∃ b, Ends (s.context a config) arguments complete (cancel != .never) b f.result) ∧
      (f.exitCode = 0 → ∃ config, s.loadConfig a = .ok config ∧
        AllPass s config arguments complete) ∧
      ∀ config, s.loadConfig a = .ok config → AllPass s config arguments complete →
        f.exitCode = 0 ∨ cancel ≠ .never ∧ f.exitCode = 130 := by
  have hends : ∀ cancel config, s.loadConfig a = .ok config →
      ∃ b, Ends (s.context a config) arguments complete (cancel != .never) b
        (run s a (fun _ => complete) cancel).result := by
    intro cancel config hconfig
    simp only [run, hconfig, command, ha]
    exact ends_validate _ _ _ _
  refine ⟨fun config raised b result _ h => ⟨h.allPass, h.of_allPass⟩, fun cancel => ?_⟩
  intro f
  refine ⟨hends cancel, fun hzero => ?_, fun config hconfig hpass => ?_⟩
  · have hok := exitCode_eq_zero_iff.mp hzero
    cases hconfig : s.loadConfig a with
    | error e =>
      simp only [f, run, hconfig] at hok
      cases hok
    | ok config =>
      obtain ⟨b, h⟩ := hends cancel config hconfig
      exact ⟨config, rfl, (h.allPass hok).1⟩
  · obtain ⟨b, h⟩ := hends cancel config hconfig
    rcases h.of_allPass hpass with hok | ⟨hraised, hcancelled⟩
    · exact .inl (exitCode_eq_zero_iff.mpr hok)
    · refine .inr ⟨by simpa using hraised, ?_⟩
      rw [Finished.exitCode, hcancelled]
      rfl

namespace Sample

def schemaText : String :=
  "\x7b\"domain\": \x7b\"type\": \"string\"\x7d, " ++
    "\"token\": \x7b\"type\": \"cloudflare_api_token\"\x7d\x7d"

def siteText : String := "\x7b\"domain\": \"example.org\", \"token\": \"secret\"\x7d"

/-- A working directory with a schema and one document, whose token has to be checked. -/
def situation : Situation where
  files :=
    { kind := fun path => if path = "schema.json" ∨ path = "site.json" then some .file else none
      read := fun path =>
        if path = "schema.json" then .ok schemaText
        else if path = "site.json" then .ok siteText
        else .error .missing }
  environment := fun _ => none

def site : ValidateArguments := { documents := ["site.json"], schema := some "schema.json" }

def checkSite : Arguments := { command := .validate site }

/-- A peer that accepts every token after that many nanoseconds. -/
def acceptedAfter (t : Nat) (_ : Nat) (_ : PendingCheck) : Completion := ⟨some t, .accepted⟩

/-- The site passes if the peer is in time. The run ends well then unless it is cancelled first. -/
theorem site_passes_in_time :
    checkSite.command = .validate site ∧
    AllPass situation {} site (acceptedAfter 3) ∧
    ¬AllPass situation {} site (acceptedAfter 10000000001) ∧
    (run situation checkSite (fun _ => acceptedAfter 3) (.after 2)).exitCode = 130 ∧
    ∃ b, Ends (situation.context checkSite {}) site (acceptedAfter 3) false b (.ok ()) ∧
      AllWhole situation {} site b := by
  have hconfig : situation.loadConfig checkSite = .ok {} := rfl
  have hzero : (run situation checkSite (fun _ => acceptedAfter 3) .never).exitCode = 0 := by
    decide +kernel
  have hlate : (run situation checkSite (fun _ => acceptedAfter 10000000001) .never).exitCode =
      1 := by decide +kernel
  obtain ⟨hall, hruns⟩ := exit_zero_iff_all_pass situation checkSite site (acceptedAfter 3) rfl
  obtain ⟨_, hruns'⟩ :=
    exit_zero_iff_all_pass situation checkSite site (acceptedAfter 10000000001) rfl
  obtain ⟨hends, _⟩ := hruns .never
  obtain ⟨b, hb⟩ := hends {} hconfig
  rw [exitCode_eq_zero_iff.mp hzero] at hb
  obtain ⟨hsite, hreports⟩ := (hall {} _ b _ hconfig hb).1 rfl
  refine ⟨rfl, hsite, fun hpasses => ?_, by decide +kernel, b, hb, hreports⟩
  rcases (hruns' .never).2.2 {} hconfig hpasses with hok | ⟨hne, _⟩
  · omega
  · exact hne rfl

end Sample

end SettingsCheck.Command
