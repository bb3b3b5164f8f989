import SettingsCheck.Proofs.Judgement
import SettingsCheck.Proofs.PathOrder
import SettingsCheck.Proofs.Settlement

namespace SettingsCheck

namespace CheckRun

variable {tasks : List (CheckLabel × TaskResult)} {ms : List Move}

/-- A run that came to its end without a cancellation. -/
structure Completes (tasks : List (CheckLabel × TaskResult)) (ms : List Move) : Prop where
  plays : Plays tasks ms
  uncancelled : .cancels ∉ ms
  finished : ((State.start (tasks.map Prod.fst)).moves ms).finished = true

theorem Completes.outcome (h : Completes tasks ms) :
    ∃ errors, errors.Perm (tasks.filterMap failure?) ∧
      outcomeOf (tasks.map Prod.fst) false ms =
        ⟨ValidationError.sortByPathAndMessage errors, tasks.length, tasks.length, false⟩ := by
  obtain ⟨taken, hk⟩ := kept_moves h.plays h.uncancelled
  obtain ⟨hcompleted, herrors⟩ := hk.errors_of_closed h.finished
  refine ⟨_, herrors, ?_⟩
  cases tasks with
  | nil =>
    have hnone := herrors.eq_nil
    rw [hnone]
    simp [outcomeOf, ValidationError.sortByPathAndMessage]
  | cons task rest =>
    simp only [outcomeOf, List.map_cons, List.isEmpty_cons, Bool.false_eq_true, if_false]
    rw [State.outcome, Outcome.mk.injEq]
    exact ⟨rfl, hcompleted, hk.dispatched, hk.cancelled⟩

/-- A report that is taken as soon as it is sent does not wait. -/
theorem queue_ends_takes {s : State} (hq : s.queue = []) (hf : s.finished = false) (id : Nat)
    (result : TaskResult) :
    ((s.move (.ends id result)).move .takes).queue = [] ∧
      ((s.move (.ends id result)).move .takes).finished = false := by
  have htaken : ∀ r : State, r.finished = false → r.queue = [(id, result)] →
      (r.move .takes).queue = [] ∧ (r.move .takes).finished = false := by
    intro r hr hrq
    rw [State.move_takes_of_cons hr hrq]
    exact ⟨State.record_queue _ _ _, (State.record_finished _ _ _).trans hr⟩
  by_cases hid : id ∈ s.running
  · rw [State.move_ends_of_mem hf hid]
    exact htaken _ hf (by simp [hq])
  · rw [State.move_ends_of_not_mem hid, State.move_takes_of_nil hq]
    exact ⟨hq, hf⟩

theorem State.finished_closes {s : State} (hr : s.running = []) (hq : s.queue = []) :
    (s.moves [.closes]).finished = true := by
  cases hf : s.finished with
  | true => rw [State.moves_of_finished hf, hf]
  | false => rw [State.moves, List.foldl_cons, State.move_closes_of_empty hf hr hq]; rfl

/-- What the tasks of a run by the clock do, in an order of their ends. -/
def endings (deadline : Nat) (entries : List (Completion × Nat)) : List Move :=
  entries.flatMap fun (c, id) => [.ends id (taskResult deadline c), .takes]

theorem mem_endings {deadline : Nat} {entries : List (Completion × Nat)} {m : Move} :
    m ∈ endings deadline entries ↔
      ∃ entry ∈ entries, m = .ends entry.2 (taskResult deadline entry.1) ∨ m = .takes := by
  simp [endings, List.mem_flatMap]

theorem queue_moves_endings (deadline : Nat) (entries : List (Completion × Nat)) {s : State}
    (hq : s.queue = []) (hf : s.finished = false) :
    (s.moves (endings deadline entries)).queue = [] ∧
      (s.moves (endings deadline entries)).finished = false := by
  induction entries generalizing s with
  | nil => exact ⟨hq, hf⟩
  | cons entry rest ih =>
    obtain ⟨hq', hf'⟩ := queue_ends_takes hq hf entry.2 (taskResult deadline entry.1)
    exact ih hq' hf'

theorem plays_endings {deadline : Nat} {checks : List (CheckLabel × Completion)}
    {entries : List (Completion × Nat)} (hs : entries ⊆ (checks.map Prod.snd).zipIdx) :
    Plays (reports deadline checks) (endings deadline entries) := by
  refine ⟨fun id result hm task htask => ?_, fun id hm => ?_⟩
  · obtain ⟨entry, he, heq | heq⟩ := mem_endings.mp hm
    · obtain ⟨rfl, rfl⟩ := Move.ends.inj heq
      obtain ⟨check, hcheck, rfl⟩ : ∃ check, checks[entry.2]? = some check ∧
          (check.1, taskResult deadline check.2) = task := by simpa [reports] using htask
      have hsame := List.mem_zipIdx_iff_getElem?.mp (hs he)
      rw [List.getElem?_map, hcheck] at hsame
      rw [← Option.some.inj hsame]
    · cases heq
  · obtain ⟨entry, _, heq | heq⟩ := mem_endings.mp hm <;> cases heq

theorem cancels_not_mem_endings (deadline : Nat) (entries : List (Completion × Nat)) :
    .cancels ∉ endings deadline entries := by
  intro hm
  obtain ⟨entry, _, heq | heq⟩ := mem_endings.mp hm <;> cases heq

/-- If every task ends, the run can be closed. -/
theorem completes_endings {deadline : Nat} {checks : List (CheckLabel × Completion)}
    {entries : List (Completion × Nat)} (hp : entries.Perm (checks.map Prod.snd).zipIdx) :
    Completes (reports deadline checks) (endings deadline entries ++ [.closes]) := by
  have hplays := @plays_endings deadline checks entries hp.subset
  have hcancels := cancels_not_mem_endings deadline entries
  obtain ⟨taken, h⟩ := kept_moves hplays hcancels
  obtain ⟨hq, _⟩ := queue_moves_endings deadline entries
    (show (State.start ((reports deadline checks).map Prod.fst)).queue = [] from rfl) rfl
  have hrunning := h.running
  -- every task has its entry, so none is running after them
  have hall : ∀ id < (reports deadline checks).length,
      id ∈ (endings deadline entries).filterMap Move.ended? := by
    intro id hid
    have hlt : id < (checks.map Prod.snd).length := by
      rw [length_reports] at hid
      rwa [List.length_map]
    have he : ((checks.map Prod.snd)[id], id) ∈ entries :=
      hp.mem_iff.mpr (List.mem_zipIdx_iff_getElem?.mpr (List.getElem?_eq_getElem hlt))
    exact List.mem_filterMap.mpr ⟨_, mem_endings.mpr ⟨_, he, .inl rfl⟩, rfl⟩
  rw [List.filter_eq_nil_iff.mpr (by simpa using hall)] at hrunning
  refine ⟨Plays.append.mpr ⟨hplays, by simp, by simp⟩, by simpa using hcancels, ?_⟩
  rw [State.moves_append]
  exact State.finished_closes hrunning hq

/-- A run by the clock goes on until every task has ended, or until it is cancelled. -/
theorem clockedMoves_cases (deadline : Nat) (checks : List (CheckLabel × Completion))
    (cancel : Cancellation) :
    ∃ entries, entries ⊆ (checks.map Prod.snd).zipIdx ∧
      (entries.Perm (checks.map Prod.snd).zipIdx ∧
          clockedMoves deadline (checks.map Prod.snd) cancel =
            endings deadline entries ++ [.closes] ∨
        cancel ≠ .never ∧ clockedMoves deadline (checks.map Prod.snd) cancel =
          endings deadline entries ++ [.cancels]) := by
  let tasks := (checks.map Prod.snd).zipIdx.mergeSort fun a b =>
    taskEnd deadline a.1 ≤ taskEnd deadline b.1
  have htasks : tasks.Perm (checks.map Prod.snd).zipIdx := List.mergeSort_perm _ _
  cases cancel with
  | never => exact ⟨tasks, htasks.subset, .inl ⟨htasks, by simp [clockedMoves, endings, tasks]⟩⟩
  | before => exact ⟨tasks, htasks.subset, .inl ⟨htasks, by simp [clockedMoves, endings, tasks]⟩⟩
  | after t =>
    have hsub := List.filter_sublist (p := fun task => taskEnd deadline task.1 ≤ t) (l := tasks)
    refine ⟨_, List.Subset.trans hsub.subset htasks.subset, ?_⟩
    by_cases hclosed : (tasks.all fun task => taskEnd deadline task.1 < t) = true
    · have hall : ∀ task ∈ tasks, decide (taskEnd deadline task.1 ≤ t) = true := by
        intro task htask
        have hlt := of_decide_eq_true (List.all_eq_true.mp hclosed task htask)
        exact decide_eq_true (Nat.le_of_lt hlt)
      have hperm := List.Perm.of_eq (List.filter_eq_self.mpr hall)
      refine .inl ⟨hperm.trans htasks, ?_⟩
      simp only [clockedMoves, endings]
      rw [if_pos hclosed]
    · refine .inr ⟨nofun, ?_⟩
      simp only [clockedMoves, endings]
      rw [if_neg hclosed]

theorem completes_clockedMoves (deadline : Nat) (checks : List (CheckLabel × Completion)) :
    Completes (reports deadline checks) (clockedMoves deadline (checks.map Prod.snd) .never) := by
  obtain ⟨entries, _, ⟨hp, hmoves⟩ | ⟨hne, _⟩⟩ := clockedMoves_cases deadline checks .never
  · rw [hmoves]
    exact completes_endings hp
  · exact absurd rfl hne

theorem plays_clockedMoves (deadline : Nat) (checks : List (CheckLabel × Completion))
    (cancel : Cancellation) :
    Plays (reports deadline checks) (clockedMoves deadline (checks.map Prod.snd) cancel) ∧
      ((State.start (checks.map Prod.fst)).moves
        (clockedMoves deadline (checks.map Prod.snd) cancel)).finished = true := by
  obtain ⟨entries, hs, ⟨hp, hmoves⟩ | ⟨_, hmoves⟩⟩ := clockedMoves_cases deadline checks cancel
  · have hcompletes := @completes_endings deadline checks entries hp
    have hfinished := hcompletes.finished
    rw [map_fst_reports] at hfinished
    rw [hmoves]
    exact ⟨hcompletes.plays, hfinished⟩
  · rw [hmoves, State.moves_append]
    refine ⟨Plays.append.mpr ⟨plays_endings hs, by simp, by simp⟩, ?_⟩
    obtain ⟨_, hgoing⟩ := queue_moves_endings deadline entries
      (show (State.start (checks.map Prod.fst)).queue = [] from rfl) rfl
    exact congrArg State.finished (State.move_cancels hgoing)

end CheckRun

open CheckRun

namespace StructuralOutcome

/-- The errors of the deferred checks that are run and fail. -/
def refusals (s : StructuralOutcome) (options : Options) (complete : PendingCheck → Completion) :
    List ValidationError :=
  (s.toRun options).filterMap fun c =>
    (taskResult options.callTimeout (complete c)).error? ⟨c.validator, c.site.path⟩

variable {s : StructuralOutcome} {options : Options} {complete : PendingCheck → Completion}

theorem filterMap_reports : (reports options.callTimeout (s.checks options complete)).filterMap
    failure? = s.refusals options complete := by
  simp only [reports, checks, List.map_map, List.filterMap_map]
  rfl

theorem toRun_sublist (s : StructuralOutcome) (options : Options) :
    (s.toRun options).Sublist s.pending := by
  unfold toRun
  split
  · exact List.nil_sublist _
  · exact List.Sublist.refl _

theorem paths_refusals_sublist :
    ((s.refusals options complete).map ValidationError.path).Sublist
      (s.pending.map fun c => c.site.path) := by
  refine List.Sublist.trans ?_ ((s.toRun_sublist options).map _)
  unfold refusals
  induction s.toRun options with
  | nil => exact List.nil_sublist _
  | cons c rest ih =>
    rw [List.filterMap_cons]
    cases taskResult options.callTimeout (complete c) with
    | accepted => exact ih.cons _
    | refused reason => exact ih.cons_cons _

/-- Errors at different places make one report, in whatever order the checks gave them. -/
theorem conclude_eq_of_perm {run other : Outcome} (hsort : options.sortErrors = true)
    (hn : ((s.errors ++ run.errors).map ValidationError.path).Nodup)
    (herrors : run.errors.Perm other.errors) (hdispatched : run.dispatched = other.dispatched)
    (hcancelled : run.cancelled = other.cancelled) :
    s.conclude options run = s.conclude options other := by
  have hsorted := ValidationError.sortByPath_eq_of_perm hn (herrors.append_left s.errors)
  simp only [conclude, hsort, if_true, hsorted, hdispatched, hcancelled]

theorem pairwise_conclude {run : Outcome} (hsort : options.sortErrors = true)
    (hn : ((s.errors ++ run.errors).map ValidationError.path).Nodup) :
    (s.conclude options run).errors.Pairwise fun a b => compare a.path b.path = .lt := by
  have hlt := ValidationError.pairwise_lt_sortByPath hn
  simp only [conclude, hsort, if_true]
  split
  · exact hlt.sublist (List.take_sublist _ _)
  · exact hlt

end StructuralOutcome

namespace DocumentValidator

variable {v : DocumentValidator} {options : Options} {complete : PendingCheck → Completion}
  {document : Value} {r : Report}

/-- The reports of a check that is not cancelled, in whatever order its deferred checks end. -/
def Yields (v : DocumentValidator) (options : Options) (complete : PendingCheck → Completion)
    (document : Value) (r : Report) : Prop :=
  let s := v.checkStructure options document
  let checks := s.checks options complete
  s.crashed = false ∧ ∃ ms, Completes (reports options.callTimeout checks) ms ∧
    r = s.conclude options (outcomeOf (checks.map Prod.fst) false ms)

theorem yields_report (h : (v.checkStructure options document).crashed = false) :
    v.Yields options complete document
      ((v.checkStructure options document).report options complete .never) :=
  ⟨h, _, completes_clockedMoves _ _, rfl⟩

theorem Yields.exists_run (h : v.Yields options complete document r) :
    let s := v.checkStructure options document
    ∃ run : Outcome, run.errors.Perm (s.refusals options complete) ∧
      run.dispatched = (s.toRun options).length ∧ run.cancelled = false ∧
      r = s.conclude options run := by
  intro s
  obtain ⟨_, ms, hms, hr⟩ := h
  obtain ⟨errors, herrors, hrun⟩ := hms.outcome
  rw [map_fst_reports, length_reports] at hrun
  rw [StructuralOutcome.filterMap_reports] at herrors
  refine ⟨_, ?_, ?_, ?_, hr⟩
  · rw [hrun]
    exact (ValidationError.sortByPathAndMessage_perm _).trans herrors
  · rw [hrun]
    exact List.length_map _
  · rw [hrun]

theorem nodup_errors_refusals (hd : document.Ordered) :
    let s := v.checkStructure options document
    ((s.errors ++ s.refusals options complete).map ValidationError.path).Nodup := by
  intro s
  rw [List.map_append]
  refine List.Nodup.sublist
    ((List.Sublist.refl _).append StructuralOutcome.paths_refusals_sublist) ?_
  cases document with
  | mapping m =>
    rw [show s = _ from v.checkStructure_mapping m options]
    exact v.nodup_paths hd options.limit
  | _ => exact List.nodup_singleton _

/-- The order in which deferred checks end does not show. In a whole check there is one report for
all orders, its errors in strict order of their places; in a run of given checks, several of which
may be at one place, one list of places and messages. -/
theorem report_canonical :
    (∀ (v : DocumentValidator) (options : Options) (document : Value)
      (complete complete' : PendingCheck → Completion) (r r' : Report),
      document.Ordered → options.sortErrors = true →
      (∀ c ∈ (v.checkStructure options document).toRun options,
        taskResult options.callTimeout (complete c) =
          taskResult options.callTimeout (complete' c)) →
      v.Yields options complete document r → v.Yields options complete' document r' →
      r = r' ∧ r.errors.Pairwise fun a b => compare a.path b.path = .lt) ∧
    (∀ (deadline : Nat) (checks checks' : List (CheckLabel × Completion)) (ms ms' : List Move),
      reports deadline checks = reports deadline checks' →
      Completes (reports deadline checks) ms → Completes (reports deadline checks') ms' →
      (outcomeOf (checks.map Prod.fst) false ms).errors.map (fun e => (e.path, e.message)) =
        (outcomeOf (checks'.map Prod.fst) false ms').errors.map fun e => (e.path, e.message)) := by
  constructor
  · intro v options document complete complete' r r' hd hsort hsame hr hr'
    obtain ⟨run, hrun, hdispatched, hcancelled, rfl⟩ := hr.exists_run
    obtain ⟨run', hrun', hdispatched', hcancelled', rfl⟩ := hr'.exists_run
    have hrefusals : (v.checkStructure options document).refusals options complete =
        (v.checkStructure options document).refusals options complete' :=
      List.filterMap_congr fun c hc => by rw [hsame c hc]
    have hn : (((v.checkStructure options document).errors ++ run.errors).map
        ValidationError.path).Nodup :=
      ((hrun.append_left _).map _).nodup_iff.mpr (nodup_errors_refusals hd)
    refine ⟨?_, StructuralOutcome.pairwise_conclude hsort hn⟩
    refine StructuralOutcome.conclude_eq_of_perm hsort hn ?_
      (hdispatched.trans hdispatched'.symm) (hcancelled.trans hcancelled'.symm)
    exact hrun.trans (hrefusals ▸ hrun'.symm)
  · intro deadline checks checks' ms ms' heq hms hms'
    obtain ⟨errors, herrors, hrun⟩ := hms.outcome
    obtain ⟨errors', herrors', hrun'⟩ := hms'.outcome
    rw [map_fst_reports] at hrun hrun'
    rw [hrun, hrun']
    exact ValidationError.map_sortByPathAndMessage_eq_of_perm
      (herrors.trans (heq ▸ herrors'.symm))

end DocumentValidator

namespace Sample

/-- Two nodes whose tokens are to be checked. -/
def nodes : Mapping :=
  [("enabled", .bool true),
    ("nodes", .sequence
      [.mapping [("name", .string "a"), ("token", .string "s")],
        .mapping [("name", .string "b"), ("token", .string "t")]])]

theorem nodes_ordered : (Value.mapping nodes).Ordered := by
  simp only [nodes, Value.Ordered, Value.EntriesOrdered, Value.ItemsOrdered]
  decide

def revoked : TaskResult := .refused "revoked"

def revokedAfter (t : Nat) (_ : PendingCheck) : Completion := ⟨some t, .refused "revoked"⟩

def inTurn : List Move := [.ends 0 revoked, .ends 1 revoked, .takes, .takes, .closes]

def inReverse : List Move := [.ends 1 revoked, .takes, .ends 0 revoked, .takes, .closes]

theorem plays_of_revoked {tasks : List (CheckLabel × TaskResult)} {ms : List Move}
    (ht : ∀ task ∈ tasks, task.2 = revoked)
    (hm : ∀ m ∈ ms, (∃ id, m = .ends id revoked) ∨ m = .takes ∨ m = .closes) : Plays tasks ms := by
  refine ⟨fun id result h task htask => ?_, fun id h => ?_⟩
  · obtain ⟨id', heq⟩ | heq | heq := hm _ h
    · rw [(Move.ends.inj heq).2, ht task (List.mem_of_getElem? htask)]
    · cases heq
    · cases heq
  · obtain ⟨id', heq⟩ | heq | heq := hm _ h <;> cases heq

def checksAfter (t : Nat) : List (CheckLabel × Completion) :=
  (validator.checkStructure {} (.mapping nodes)).checks {} (revokedAfter t)

def reportAfter (t : Nat) (ms : List Move) : Report :=
  (validator.checkStructure {} (.mapping nodes)).conclude {}
    (outcomeOf ((checksAfter t).map Prod.fst) false ms)

/-- Two checks at one place. -/
def rivals (t : Nat) : List (CheckLabel × Completion) :=
  [(⟨"left", .root⟩, ⟨some t, .refused "revoked"⟩),
    (⟨"right", .root⟩, ⟨some 1, .refused "revoked"⟩)]

theorem reports_checksAfter {deadline t : Nat} (ht : t ≤ deadline) :
    ∀ task ∈ reports deadline (checksAfter t), task.2 = revoked := by
  intro task hm
  obtain ⟨check, hc, rfl⟩ := List.mem_map.mp hm
  obtain ⟨c, _, rfl⟩ := List.mem_map.mp hc
  simp [taskResult, revokedAfter, revoked, Nat.not_lt.mpr ht]

theorem same_report_in_both_orders :
    (Value.mapping nodes).Ordered ∧
    validator.Yields {} (revokedAfter 3) (.mapping nodes) (reportAfter 3 inTurn) ∧
    validator.Yields {} (revokedAfter 5) (.mapping nodes) (reportAfter 5 inReverse) ∧
    reportAfter 3 inTurn = reportAfter 5 inReverse ∧
    Completes (reports 9 (rivals 3)) inTurn ∧ Completes (reports 9 (rivals 5)) inReverse ∧
    (outcomeOf ((rivals 3).map Prod.fst) false inTurn).errors.map (fun e => (e.path, e.message)) =
      (outcomeOf ((rivals 5).map Prod.fst) false inReverse).errors.map
        fun e => (e.path, e.message) := by
  have hin : ∀ m ∈ inTurn, (∃ id, m = .ends id revoked) ∨ m = .takes ∨ m = .closes := by
    simp [inTurn]
  have hrev : ∀ m ∈ inReverse, (∃ id, m = .ends id revoked) ∨ m = .takes ∨ m = .closes := by
    simp [inReverse]
  have hgoing : (validator.checkStructure {} (.mapping nodes)).crashed = false := by
    decide
  have h₁ : validator.Yields {} (revokedAfter 3) (.mapping nodes) (reportAfter 3 inTurn) :=
    ⟨hgoing, inTurn,
      ⟨plays_of_revoked (reports_checksAfter (by decide)) hin, by decide, by decide⟩, rfl⟩
  have h₂ : validator.Yields {} (revokedAfter 5) (.mapping nodes) (reportAfter 5 inReverse) :=
    ⟨hgoing, inReverse,
      ⟨plays_of_revoked (reports_checksAfter (by decide)) hrev, by decide, by decide⟩, rfl⟩
  have h₃ : Completes (reports 9 (rivals 3)) inTurn :=
    ⟨plays_of_revoked (by decide) hin, by decide, by decide⟩
  have h₄ : Completes (reports 9 (rivals 5)) inReverse :=
    ⟨plays_of_revoked (by decide) hrev, by decide, by decide⟩
  obtain ⟨hchecks, hruns⟩ := DocumentValidator.report_canonical
  have hsame := (hchecks validator {} _ _ _ _ _ nodes_ordered rfl (fun c _ => rfl) h₁ h₂).1
  exact ⟨nodes_ordered, h₁, h₂, hsame, h₃, h₄, hruns 9 _ _ _ _ rfl h₃ h₄⟩

end Sample

end SettingsCheck
