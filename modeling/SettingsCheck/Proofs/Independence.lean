import SettingsCheck.Proofs.Seats
import Mathlib.Algebra.GroupWithZero.Nat

namespace SettingsCheck

namespace BatchRun

/-- The checks of a task make some moves. -/
def Task.checks (raised : Bool) (ms : List CheckRun.Move) (task : Task) : Task :=
  ms.foldl (fun task m => task.check raised m) task

/-- A task whose checks are running can be brought to its end. -/
theorem Task.exists_end_of_checking (raised : Bool) (options : Options) (s : StructuralOutcome)
    (run : CheckRun.State) :
    ∃ ms report, (Task.checking options s run).checks raised ms = .ended report := by
  obtain ⟨rest, hno, hf⟩ : ∃ rest, .cancels ∉ rest ∧ (run.moves rest).finished = true := by
    obtain ⟨rest, _, _, hends⟩ := run.exists_rest fun _ => .accepted
    exact ⟨rest, hends⟩
  induction rest generalizing run with
  | nil =>
    have hf : run.finished = true := hf
    refine ⟨[.closes], some (s.conclude options run.outcome), ?_⟩
    simp [checks, check, CheckRun.State.move_of_finished hf, hf]
  | cons m rest ih =>
    have hm : ¬(m = .cancels ∧ raised = false) := fun hc => hno (by simp [hc.1])
    cases hend : (run.move m).finished with
    | true =>
      refine ⟨[m], some (s.conclude options (run.move m).outcome), ?_⟩
      simp [checks, check, hm, hend]
    | false =>
      obtain ⟨ms, report, hms⟩ := ih (run.move m) (fun h => hno (List.mem_cons_of_mem _ h)) hf
      exact ⟨m :: ms, report, by simpa [checks, check, hm, hend] using hms⟩

theorem Task.exists_end (raised : Bool) (task : Task) :
    ∃ ms report, (task.begin raised).checks raised ms = .ended report := by
  cases task with
  | ready v options document =>
    simp only [Task.begin]
    split
    · exact ⟨[], _, rfl⟩
    · split
      · exact ⟨[], _, rfl⟩
      · exact Task.exists_end_of_checking raised options _ _
  | checking options s run => exact Task.exists_end_of_checking raised options s run
  | ended report => exact ⟨[], report, rfl⟩

theorem length_update (s : State) (i : Nat) (f : Task → Task) :
    (s.update i f).tasks.length = s.tasks.length :=
  List.length_map _

/-- The moves of the checks of one task. -/
theorem moves_checks (s : State) (i : Nat) (ms : List CheckRun.Move) :
    (s.moves (ms.map (.checks i))).tasks.lookup i =
      (s.tasks.lookup i).map (Task.checks s.raised ms) ∧
    (s.moves (ms.map (.checks i))).tasks.length = s.tasks.length := by
  induction ms generalizing s with
  | nil => exact ⟨Option.map_id_apply.symm, rfl⟩
  | cons m ms ih =>
    obtain ⟨hlookup, hlength⟩ := ih (s.move (.checks i m))
    refine ⟨hlookup.trans ?_, hlength.trans (length_update s i _)⟩
    rw [State.move, State.update, lookup_update, if_pos rfl, Option.map_map]
    rfl

/-- One task more can always be joined. -/
theorem State.exists_fewer {s : State} (h : s.tasks ≠ []) :
    ∃ ms, (s.moves ms).tasks.length < s.tasks.length := by
  obtain ⟨⟨i, task⟩, rest, htasks⟩ := List.exists_cons_of_ne_nil h
  have hi : s.tasks.lookup i = some task := by simp [htasks]
  obtain ⟨ms, report, hend⟩ := Task.exists_end s.raised task
  obtain ⟨hlookup, hlength⟩ := moves_checks (s.move (.starts i)) i ms
  have hbegun : (s.move (.starts i)).tasks.lookup i = some (task.begin s.raised) := by
    rw [State.move, State.update, lookup_update, if_pos rfl, hi, Option.map_some]
  have hraised : (s.move (.starts i)).raised = s.raised := rfl
  rw [hbegun, Option.map_some, hraised, hend] at hlookup
  refine ⟨.starts i :: (ms.map (.checks i) ++ [.joins i]), ?_⟩
  rw [show s.moves (.starts i :: (ms.map (.checks i) ++ [.joins i])) =
    ((s.move (.starts i)).moves (ms.map (.checks i))).join i from State.moves_append _ _ _]
  generalize (s.move (.starts i)).moves (ms.map (.checks i)) = r at hlookup hlength
  obtain ⟨before, after, heq, _⟩ := List.lookup_eq_some_iff.mp hlookup
  simp only [State.join, hlookup]
  calc (r.tasks.filter (·.1 != i)).length
      < r.tasks.length := List.length_filter_lt_length_iff_exists.mpr
        ⟨(i, .ended report), by simp [heq], by simp⟩
    _ = s.tasks.length := hlength.trans (length_update s i _)

/-- Every batch can be brought to its end. -/
theorem State.exists_joined (s : State) : ∃ rest, (s.moves rest).tasks = [] := by
  induction hn : s.tasks.length using Nat.strongRecOn generalizing s with
  | _ n ih =>
    by_cases hnone : s.tasks = []
    · exact ⟨[], hnone⟩
    · obtain ⟨ms, hfewer⟩ := exists_fewer hnone
      obtain ⟨rest, hrest⟩ := ih _ (hn ▸ hfewer) (s.moves ms) rfl
      exact ⟨ms ++ rest, by rw [State.moves_append]; exact hrest⟩

/-- What comes after a document's task has begun only adds to what its checks did. -/
theorem foldl_next_of_begun (i : Nat) {w : View} (hb : w.begun ≠ none) (ms : List Move) :
    ∃ extra, (ms.foldl (View.next i) w).begun = w.begun ∧
      (ms.foldl (View.next i) w).own = w.own ++ extra := by
  induction ms generalizing w with
  | nil => exact ⟨[], rfl, (List.append_nil _).symm⟩
  | cons m ms ih =>
    have hstep : ∃ extra, (w.next i m).begun = w.begun ∧ (w.next i m).own = w.own ++ extra := by
      cases m with
      | raises => exact ⟨[], rfl, (List.append_nil _).symm⟩
      | joins j => exact ⟨[], rfl, (List.append_nil _).symm⟩
      | starts j =>
        rw [View.next_starts_of_begun hb]
        exact ⟨[], rfl, (List.append_nil _).symm⟩
      | checks j m =>
        simp only [View.next]
        split
        · exact ⟨[m], rfl, rfl⟩
        · exact ⟨[], rfl, (List.append_nil _).symm⟩
    obtain ⟨extra, hbegun, hown⟩ := hstep
    obtain ⟨more, hbegun', hown'⟩ := ih (hbegun ▸ hb)
    refine ⟨extra ++ more, hbegun'.trans hbegun, ?_⟩
    rw [List.foldl_cons, hown', hown, List.append_assoc]

theorem foldl_next_starts_of_begun {i : Nat} {w : View} (hb : w.begun ≠ none) (is : List Nat) :
    (is.map Move.starts).foldl (View.next i) w = w := by
  induction is with
  | nil => rfl
  | cons j is ih => rw [List.map_cons, List.foldl_cons, View.next_starts_of_begun hb, ih]

theorem foldl_next_starts {i : Nat} {w : View} (hb : w.begun = none) {is : List Nat} (hi : i ∈ is) :
    (is.map Move.starts).foldl (View.next i) w = { w with begun := some w.raised } := by
  induction is with
  | nil => cases hi
  | cons j is ih =>
    rw [List.map_cons, List.foldl_cons]
    by_cases hj : j = i
    · subst hj
      rw [View.next_starts_of_ready hb, foldl_next_starts_of_begun (by simp)]
    · rw [View.next_starts_of_ne hj]
      exact ih (List.mem_of_ne_of_mem (Ne.symm hj) hi)

theorem foldl_next_checks {i : Nat} {w : View} (hb : w.begun ≠ none) {ms : List CheckRun.Move}
    (hc : .cancels ∈ ms → w.raised = true) :
    (ms.map (Move.checks i)).foldl (View.next i) w = { w with own := w.own ++ ms } := by
  induction ms generalizing w with
  | nil => simp
  | cons m ms ih =>
    have hm : m = .cancels → w.raised = true := fun h => hc (by simp [h])
    rw [List.map_cons, List.foldl_cons, View.next_checks_of_begun hb hm]
    have hrest := @ih { w with own := w.own ++ [m] } hb fun h => hc (List.mem_cons_of_mem _ h)
    rw [hrest, List.append_assoc]
    rfl

theorem foldl_next_checks_of_ne {i : Nat} {w : View} {ms : List Move}
    (h : ∀ m ∈ ms, ∃ j m', j ≠ i ∧ m = .checks j m') : ms.foldl (View.next i) w = w := by
  induction ms with
  | nil => rfl
  | cons m ms ih =>
    obtain ⟨j, m', hj, rfl⟩ := h m List.mem_cons_self
    rw [List.foldl_cons, View.next_checks_of_ne hj]
    exact ih fun m hm => h m (List.mem_cons_of_mem _ hm)

end BatchRun

/-- The moves of the checks of a job in a run by the clock. -/
def Job.clockedMoves (job : Job) (complete : PendingCheck → CheckRun.Completion)
    (cancel : CheckRun.Cancellation) : List CheckRun.Move :=
  CheckRun.clockedMoves job.options.callTimeout (job.toRun.map complete) cancel

namespace Job

variable (job : Job) (complete : PendingCheck → CheckRun.Completion)
  (cancel : CheckRun.Cancellation)

theorem cancel_ne_never (h : .cancels ∈ job.clockedMoves complete cancel) : cancel ≠ .never := by
  let checks := job.toRun.map fun c => ((⟨c.validator, c.site.path⟩ : CheckLabel), complete c)
  have hchecks : checks.map Prod.snd = job.toRun.map complete := by simp [checks, Function.comp_def]
  obtain ⟨entries, _, ⟨_, hmoves⟩ | ⟨hne, _⟩⟩ :=
    CheckRun.clockedMoves_cases job.options.callTimeout checks cancel
  · rw [hchecks] at hmoves
    rw [clockedMoves, hmoves] at h
    exact absurd h (by simpa using CheckRun.cancels_not_mem_endings _ _)
  · exact hne

/-- A run by the clock is one of the ways in which a document can be checked alone, and nothing that
comes after its end is heard. -/
theorem alone_clockedMoves (rest : List CheckRun.Move) :
    job.alone (cancel == .before) (job.clockedMoves complete cancel ++ rest) =
      job.report complete cancel := by
  unfold Job.alone Job.report Job.clockedMoves Job.toRun DocumentValidator.check
  cases job.document with
  | error reason => rfl
  | ok document =>
    simp only
    generalize job.validator.checkStructure job.options document = s
    cases hc : s.crashed with
    | true => rfl
    | false =>
      obtain ⟨_, hf⟩ := CheckRun.plays_clockedMoves job.options.callTimeout
        (s.checks job.options complete) cancel
      have hlabels : (s.checks job.options complete).map Prod.fst = s.labels job.options := by
        simp [StructuralOutcome.checks, StructuralOutcome.labels, Function.comp_def]
      have hcompletions : (s.checks job.options complete).map Prod.snd =
          (s.toRun job.options).map complete := by
        simp [StructuralOutcome.checks, Function.comp_def]
      simp only [Bool.false_eq_true, if_false, Option.getD_some, StructuralOutcome.report,
        CheckRun.clocked]
      rw [hlabels, hcompletions] at hf ⊢
      rw [CheckRun.outcomeOf_append_of_finished hf]

end Job

namespace BatchRun

/-- A batch by the clock: all tasks begin at once, and the checks of each make their moves. -/
def clockedMoves (jobs : List Job) (complete : Nat → PendingCheck → CheckRun.Completion)
    (cancel : CheckRun.Cancellation) : List Move :=
  (if cancel = .before then [.raises] else []) ++ (List.range jobs.length).map .starts ++
    (if cancel = .never then [] else [.raises]) ++
    jobs.zipIdx.flatMap fun (job, i) => (job.clockedMoves (complete i) cancel).map (.checks i)

/-- Among the jobs of a batch each has its own place. -/
theorem exists_split_zipIdx {jobs : List Job} {i : Nat} {job : Job} (hi : jobs[i]? = some job) :
    ∃ before after, jobs.zipIdx = before ++ (job, i) :: after ∧
      ∀ entry ∈ before ++ after, entry.2 ≠ i := by
  obtain ⟨before, after, hsplit⟩ :=
    List.append_of_mem (List.mem_zipIdx_iff_getElem? (x := (job, i)).mpr hi)
  refine ⟨before, after, hsplit, fun entry he heq => ?_⟩
  have hn : (jobs.zipIdx.map Prod.snd).Nodup := by
    rw [List.zipIdx_map_snd]
    exact List.nodup_range'
  rw [hsplit, List.map_append, List.map_cons, List.nodup_middle, List.nodup_cons,
    ← List.map_append] at hn
  exact hn.1 (List.mem_map.mpr ⟨entry, he, heq⟩)

theorem view_clockedMoves {jobs : List Job} {complete : Nat → PendingCheck → CheckRun.Completion}
    {cancel : CheckRun.Cancellation} {i : Nat} {job : Job} (hi : jobs[i]? = some job) :
    (view i (clockedMoves jobs complete cancel)).begun = some (cancel == .before) ∧
      (view i (clockedMoves jobs complete cancel)).own = job.clockedMoves (complete i) cancel := by
  obtain ⟨before, after, hsplit, hnone⟩ := exists_split_zipIdx hi
  have hlt : i ∈ List.range jobs.length := List.mem_range.mpr (List.getElem?_eq_some_iff.mp hi).1
  -- the checks of the jobs before this one and after it are none of its own
  have hothers : ∀ entries ⊆ before ++ after, ∀ w : View, (entries.flatMap fun (job, k) =>
      (job.clockedMoves (complete k) cancel).map (Move.checks k)).foldl (View.next i) w = w := by
    intro entries hsub w
    refine foldl_next_checks_of_ne fun m hm => ?_
    obtain ⟨entry, he, hm⟩ := List.mem_flatMap.mp hm
    obtain ⟨m', _, rfl⟩ := List.mem_map.mp hm
    exact ⟨entry.2, m', hnone entry (hsub he), rfl⟩
  let raised := cancel == .before
  have hfirst : (if cancel = .before then [Move.raises] else []).foldl (View.next i) {} =
      { raised := raised } := by
    cases cancel <;> rfl
  have hbegun := @foldl_next_starts i { raised := raised } rfl _ hlt
  have hsecond : (if cancel = .never then [] else [Move.raises]).foldl (View.next i)
      { raised := raised, begun := some raised } =
      { raised := cancel != .never, begun := some raised } := by
    cases cancel <;> rfl
  have hown := @foldl_next_checks i { raised := cancel != .never, begun := some raised } (by simp)
    (job.clockedMoves (complete i) cancel)
    (by simpa using job.cancel_ne_never (complete i) cancel)
  have hview : view i (clockedMoves jobs complete cancel) =
      { raised := cancel != .never, begun := some raised
        own := job.clockedMoves (complete i) cancel } := by
    unfold view clockedMoves
    rw [List.foldl_append, List.foldl_append, List.foldl_append, hfirst, hbegun, hsecond, hsplit,
      List.flatMap_append, List.flatMap_cons, List.foldl_append, List.foldl_append,
      hothers before (List.subset_append_left _ _), hown,
      hothers after (List.subset_append_right _ _)]
    rfl
  rw [hview]
  exact ⟨rfl, rfl⟩

/-- The documents of a batch are independent. In whatever order its tasks move, each document gets
the report that it gets alone from the moves it sees, and another batch in which it sees the same
gives it the same report. Every batch can be brought to its end; one by the clock is among them. -/
theorem documents_independent :
    (∀ (jobs : List Job) (ms : List Move), ((State.start jobs).moves ms).tasks = [] →
      let b := ((State.start jobs).moves ms).report jobs
      (b.documents = jobs.zipIdx.map fun (job, i) =>
        ⟨job.name, job.alone (view i ms).before (view i ms).own⟩) ∧
      (b.isValid = true ↔ ∀ d ∈ b.documents, d.report.errors = []) ∧
      b.totalErrors = (b.documents.map (·.report.errors.length)).sum ∧
      b.invalidDocuments = b.documents.filter (fun d => d.report.errors ≠ []) ∧
      ∀ (others : List Job) (ms' : List Move) (i j : Nat),
        ((State.start others).moves ms').tasks = [] → others[j]? = jobs[i]? →
        view j ms' = view i ms →
        (((State.start others).moves ms').report others).documents[j]? = b.documents[i]?) ∧
    (∀ (jobs : List Job) (ms : List Move), ∃ rest,
      ((State.start jobs).moves (ms ++ rest)).tasks = []) ∧
    ∀ (jobs : List Job) (complete : Nat → PendingCheck → CheckRun.Completion)
      (cancel : CheckRun.Cancellation), ∃ ms, ((State.start jobs).moves ms).tasks = [] ∧
        ((State.start jobs).moves ms).report jobs = checkBatch jobs complete cancel := by
  refine ⟨fun jobs ms hall => ?_, fun jobs ms => ?_, fun jobs complete cancel => ?_⟩
  · have hdocuments := (Seated.moves jobs ms).documents hall
    refine ⟨hdocuments, ?_, ?_, ?_, ?_⟩
    · simp [BatchReport.isValid, Report.isValid]
    · simp [BatchReport.totalErrors, List.length_flatMap]
    · simp only [BatchReport.invalidDocuments, Report.isValid]
      refine List.filter_congr fun d _ => ?_
      cases d.report.errors <;> rfl
    · intro others ms' i j hall' hjob hview
      rw [(Seated.moves others ms').documents hall', hdocuments]
      simp only [List.getElem?_map, List.getElem?_zipIdx, hjob, Nat.zero_add, Option.map_map]
      cases jobs[i]? with
      | none => rfl
      | some job => simp [hview]
  · obtain ⟨rest, hrest⟩ := State.exists_joined ((State.start jobs).moves ms)
    exact ⟨rest, by rw [State.moves_append]; exact hrest⟩
  · obtain ⟨rest, hrest⟩ := State.exists_joined
      ((State.start jobs).moves (clockedMoves jobs complete cancel))
    rw [← State.moves_append] at hrest
    refine ⟨_, hrest, congrArg BatchReport.mk (((Seated.moves jobs _).documents hrest).trans ?_)⟩
    refine List.map_congr_left fun entry he => ?_
    obtain ⟨hbegun, hown⟩ := @view_clockedMoves jobs complete cancel entry.2 entry.1
      (List.mem_zipIdx_iff_getElem?.mp he)
    have hne : (view entry.2 (clockedMoves jobs complete cancel)).begun ≠ none := by simp [hbegun]
    obtain ⟨extra, hbegun', hown'⟩ := foldl_next_of_begun entry.2 hne rest
    have hview : view entry.2 (clockedMoves jobs complete cancel ++ rest) =
        rest.foldl (View.next entry.2) (view entry.2 (clockedMoves jobs complete cancel)) :=
      List.foldl_append
    simp only [hview, View.before, hbegun', hown', hbegun, hown, Option.getD_some,
      Job.alone_clockedMoves]

namespace Sample

open SettingsCheck.Sample

/-- A document of one port, whose validator breaks off. -/
def brokenRules : Rules := [("port", { fieldType := .custom "port" })]

theorem brokenRules_ordered : brokenRules.Ordered ∧ Rule.FieldsOrdered brokenRules := by
  simp only [brokenRules, Rule.FieldsOrdered, Rule.ItemsOrdered, Rule.Ordered]
  decide

def brokenValidator : DocumentValidator where
  schema := ⟨brokenRules, brokenRules_ordered, by decide⟩
  registry := ⟨[("port", .immediate fun _ _ => ⟨.crashed, []⟩)]⟩
  resolved := by decide

def jobs : List Job :=
  [⟨"site", .ok (.mapping nodes), validator, {}⟩, ⟨"site", .error "gone", validator, {}⟩,
    ⟨"port", .ok (.mapping [("port", .integer 1)]), brokenValidator, {}⟩]

/-- The task that breaks off is joined while the other one is still running its checks. -/
def interleaved : List Move :=
  [.starts 0, .checks 0 (.ends 1 revoked), .starts 2, .checks 0 .takes, .joins 2, .raises,
    .checks 0 (.ends 0 .accepted), .checks 0 .takes, .checks 0 .closes, .joins 0]

end Sample

theorem neighbours_undisturbed :
    ((State.start Sample.jobs).moves Sample.interleaved).tasks = [] ∧
    let b := ((State.start Sample.jobs).moves Sample.interleaved).report Sample.jobs
    b.documents.map DocumentReport.name = ["site", "site", "port"] ∧
    b.documents.map (fun d => d.report.errors.length) = [1, 1, 1] ∧
    b.totalErrors = 3 ∧
    b.documents[1]? = some ⟨"site", .fatal "gone"⟩ ∧
    b.documents[2]? = some ⟨"port", .fatal "validation did not complete"⟩ ∧
    b.documents[0]? = (((State.start (Sample.jobs.take 1)).moves
      (Sample.interleaved.filter (· ≠ .joins 2))).report (Sample.jobs.take 1)).documents[0]? := by
  have hall : ((State.start Sample.jobs).moves Sample.interleaved).tasks = [] :=
    List.isEmpty_iff.mp (by decide)
  have halone : ((State.start (Sample.jobs.take 1)).moves
      (Sample.interleaved.filter (· ≠ .joins 2))).tasks = [] :=
    List.isEmpty_iff.mp (by decide)
  obtain ⟨_, _, htotal, _, hsame⟩ := documents_independent.1 Sample.jobs Sample.interleaved hall
  have hlengths : (((State.start Sample.jobs).moves Sample.interleaved).report
      Sample.jobs).documents.map (fun d => d.report.errors.length) = [1, 1, 1] := by
    decide +kernel
  refine ⟨hall, by decide, hlengths, ?_, by decide, by decide, ?_⟩
  · rw [htotal, hlengths]
    rfl
  · exact (hsame _ _ 0 0 halone rfl rfl).symm

end BatchRun

end SettingsCheck
