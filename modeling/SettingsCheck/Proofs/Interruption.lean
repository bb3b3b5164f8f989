import SettingsCheck.Proofs.Settlement
import SettingsCheck.Report

namespace SettingsCheck.CheckRun

namespace State

theorem cancelled_record (s : State) (id : Nat) (result : TaskResult) :
    (s.record id result).cancelled = s.cancelled := by
  unfold record
  split <;> rfl

/-- One step: only a cancellation of a run that goes on makes it a cancelled one. -/
theorem cancelled_move_iff (s : State) (m : Move) :
    (s.move m).cancelled = true ↔ s.cancelled = true ∨ m = .cancels ∧ s.finished = false := by
  cases hf : s.finished with
  | true => simp [move_of_finished hf]
  | false =>
    cases m with
    | ends id result =>
      by_cases hid : id ∈ s.running
      · simp [move_ends_of_mem hf hid]
      · simp [move_ends_of_not_mem hid]
    | vanishes id => simp [move, hf]
    | takes =>
      cases hq : s.queue with
      | nil => simp [move_takes_of_nil hq]
      | cons entry rest => simp [move_takes_of_cons hf hq, cancelled_record]
    | closes =>
      by_cases hempty : s.running = [] ∧ s.queue = []
      · simp [move_closes_of_empty hf hempty.1 hempty.2]
      · simp [move_closes_of_not_empty hempty]
    | cancels => simp [move_cancels hf, writeOff]

/-- A run is called cancelled if a cancellation came while the collector went on. -/
theorem cancelled_moves_iff (s : State) (ms : List Move) :
    (s.moves ms).cancelled = true ↔ s.cancelled = true ∨
      ∃ pre post, ms = pre ++ .cancels :: post ∧ (s.moves pre).finished = false := by
  induction ms generalizing s with
  | nil => simp [moves]
  | cons m rest ih =>
    have hmoves : s.moves (m :: rest) = (s.move m).moves rest := rfl
    rw [hmoves, ih, cancelled_move_iff, or_assoc]
    -- the cancellation that was seen is this move or one of the rest
    refine or_congr_right ?_
    constructor
    · rintro (⟨rfl, hf⟩ | ⟨pre, post, rfl, hf⟩)
      · exact ⟨[], rest, rfl, hf⟩
      · exact ⟨m :: pre, post, rfl, hf⟩
    · rintro ⟨pre, post, heq, hf⟩
      cases pre with
      | nil =>
        obtain ⟨rfl, rfl⟩ := List.cons.inj heq
        exact .inl ⟨rfl, hf⟩
      | cons first pre =>
        obtain ⟨rfl, rfl⟩ := List.cons.inj heq
        exact .inr ⟨pre, post, rfl, hf⟩

end State

variable {tasks : List (CheckLabel × TaskResult)} {ms : List Move}

theorem settled_of_cancelled (hp : Plays tasks ms)
    (hc : ((State.start (tasks.map Prod.fst)).moves ms).cancelled = true) :
    Settled tasks ms ((State.start (tasks.map Prod.fst)).moves ms).outcome := by
  obtain ⟨_, _, h, _⟩ | ⟨_, r, _, _, _, _, hs⟩ := moves_cases hp
  · have hno := h.cancelled
    rw [hc] at hno
    cases hno
  · have hf := congrArg State.finished hs
    exact settled_of_finished hp hf

theorem missed_eq_nil_iff :
    missed tasks ms = [] ↔ ∀ id < tasks.length, id ∈ sent ms := by
  simp [missed, List.filter_eq_nil_iff]

/-- If all reports were sent, nothing is owed but what the reports say. -/
theorem settlement_of_missed_eq_nil (h : missed tasks ms = []) :
    settlement tasks (sent ms) = tasks.filterMap failure? := by
  have hfst : tasks.zipIdx.map Prod.fst = tasks := List.zipIdx_map_fst 0 tasks
  have hown : settlement tasks (sent ms) =
      tasks.zipIdx.filterMap fun entry => failure? entry.1 := by
    apply List.filterMap_congr
    intro entry he
    have hsent := missed_eq_nil_iff.mp h entry.2 (List.snd_lt_of_mem_zipIdx he)
    rw [owed, if_pos hsent]
  rw [hown]
  conv => rhs; rw [← hfst, List.filterMap_map]
  rfl

/-- A check that sent no report has the error that it was cut off. -/
theorem cutOff_mem_settlement {id : Nat} (h : id ∈ missed tasks ms) :
    ∃ task ∈ tasks, State.cutOff task.1 ∈ settlement tasks (sent ms) := by
  obtain ⟨hrange, hunsent⟩ := List.mem_filter.mp h
  have hlt := List.mem_range.mp hrange
  have hentry : (tasks[id], id) ∈ tasks.zipIdx :=
    List.mem_zipIdx_iff_getElem?.mpr (List.getElem?_eq_getElem hlt)
  refine ⟨tasks[id], List.getElem_mem hlt, List.mem_filterMap.mpr ⟨_, hentry, ?_⟩⟩
  rw [owed, if_neg (by simpa using hunsent)]

/-- No check was dispatched, or one of them has no result and the error that it was cut off. -/
def Interrupted (tasks : List (CheckLabel × TaskResult)) (o : Outcome) : Prop :=
  o.dispatched = 0 ∨ o.completed < o.dispatched ∧ ∃ task ∈ tasks, State.cutOff task.1 ∈ o.errors

theorem Settled.interrupted_iff {o : Outcome} (h : Settled tasks ms o) (hne : tasks ≠ [])
    (hc : o.cancelled = true) : Interrupted tasks o ↔ missed tasks ms ≠ [] := by
  obtain ⟨_, hbalance, herrors⟩ := h.cancelled hc
  have hsome : 0 < tasks.length := List.length_pos_iff.mpr hne
  have hdispatched := h.dispatched
  constructor
  · rintro (hnone | ⟨hless, _⟩) hall
    · omega
    · rw [hall, List.length_nil] at hbalance
      omega
  · intro hsome
    obtain ⟨id, hid⟩ := List.exists_mem_of_ne_nil _ hsome
    have hlength := List.length_pos_of_mem hid
    obtain ⟨task, htask, hcut⟩ := cutOff_mem_settlement hid
    exact .inr ⟨by omega, task, htask, herrors.mem_iff.mpr hcut⟩

/-- A run is called cancelled if the cancellation came before the start or while the collector went
on. It was interrupted then just if some check had sent no report. If all had sent theirs, the
outcome is that of a run without a cancellation, but for the name. -/
theorem cancelled_run_interrupted_iff (deadline : Nat) (checks : List (CheckLabel × Completion))
    (before : Bool) (ms : List Move) (hp : Plays (reports deadline checks) ms) :
    let labels := checks.map Prod.fst
    let tasks := reports deadline checks
    let o := outcomeOf labels before ms
    (o.cancelled = true ↔ checks ≠ [] ∧ (before = true ∨
      ∃ pre post, ms = pre ++ .cancels :: post ∧
        ((State.start labels).moves pre).finished = false)) ∧
    (o.cancelled = true → (Interrupted tasks o ↔ before = true ∨ missed tasks ms ≠ []) ∧
      (before = false → missed tasks ms = [] →
        o.completed = o.dispatched ∧ o.errors.Perm (tasks.filterMap failure?))) := by
  intro labels tasks o
  have hlabels : tasks.map Prod.fst = labels := map_fst_reports _ _
  by_cases hne : checks = []
  · have ho : o.cancelled = false := by simp [o, labels, hne, outcomeOf]
    simp [ho, hne]
  · have hempty : labels.isEmpty = false := by simpa [labels] using hne
    have htasks : tasks ≠ [] := by simpa [tasks, reports] using hne
    cases before with
    | true =>
      have ho : o = { cancelled := true } := by simp [o, outcomeOf, hempty]
      simp [ho, hne, Interrupted]
    | false =>
      have ho : o = ((State.start labels).moves ms).outcome := by simp [o, outcomeOf, hempty]
      have hcancelled : o.cancelled = ((State.start labels).moves ms).cancelled := by rw [ho]; rfl
      have hstart : (State.start labels).cancelled = false := rfl
      refine ⟨?_, fun hc => ?_⟩
      · rw [hcancelled, State.cancelled_moves_iff, hstart]
        simp [hne]
      · have hsettled : Settled tasks ms o := by
          rw [ho, ← hlabels]
          exact settled_of_cancelled hp (by rw [hlabels, ← hcancelled]; exact hc)
        obtain ⟨_, hbalance, herrors⟩ := hsettled.cancelled hc
        refine ⟨by simpa using hsettled.interrupted_iff htasks hc, fun _ hall => ⟨?_, ?_⟩⟩
        · rw [hall, List.length_nil] at hbalance
          exact hbalance
        · rwa [settlement_of_missed_eq_nil hall] at herrors

namespace Sample

/-- All three checks have sent their reports when the run is cancelled. -/
def lateMoves : List Move :=
  [.ends 0 .accepted, .takes, .ends 1 (.refused "closed"), .ends 2 (.refused "timed out after 0s"),
    .takes, .cancels]

theorem plays_lateMoves : Plays (reports 10 checks) lateMoves := by
  refine ⟨fun id result hm task htask => ?_, by simp [lateMoves]⟩
  have hends : id = 0 ∧ result = .accepted ∨ id = 1 ∧ result = .refused "closed" ∨
      id = 2 ∧ result = .refused "timed out after 0s" := by
    simpa [lateMoves] using hm
  obtain ⟨rfl, rfl⟩ | ⟨rfl, rfl⟩ | ⟨rfl, rfl⟩ := hends
  · cases htask
    rfl
  · cases htask
    rfl
  · cases htask
    decide

theorem late_cancellation_interrupts_nothing :
    let o := outcomeOf (checks.map Prod.fst) false lateMoves
    Plays (reports 10 checks) lateMoves ∧ o.cancelled = true ∧
    ¬Interrupted (reports 10 checks) o ∧ o.completed = o.dispatched ∧
    o.errors.Perm [.remote (FieldPath.root.key "port") "open_port" "closed",
      .remote (FieldPath.root.key "token") "known_token" "timed out after 0s"] := by
  intro o
  obtain ⟨hcancelled, hcut⟩ :=
    cancelled_run_interrupted_iff 10 checks false lateMoves plays_lateMoves
  have hc : o.cancelled = true :=
    hcancelled.mpr ⟨by decide, .inr ⟨lateMoves.take 5, [], rfl, by decide⟩⟩
  have hall : missed (reports 10 checks) lateMoves = [] := by decide
  obtain ⟨hinterrupted, hwhole⟩ := hcut hc
  obtain ⟨hcompleted, herrors⟩ := hwhole rfl hall
  refine ⟨plays_lateMoves, hc, fun h => ?_, hcompleted, ?_⟩
  · rcases hinterrupted.mp h with hbefore | hmissed
    · cases hbefore
    · exact hmissed hall
  · have howed : (reports 10 checks).filterMap failure? =
        [.remote (FieldPath.root.key "port") "open_port" "closed",
          .remote (FieldPath.root.key "token") "known_token" "timed out after 0s"] := by
      decide
    rwa [howed] at herrors

/-- Checks of sixteen tokens, all of them accepted after ten milliseconds. -/
def tokens : List (CheckLabel × Completion) :=
  (List.range 16).map fun i =>
    (⟨"remote", (FieldPath.root.key "tokens").index i⟩, ⟨some 10000000, .accepted⟩)

/-- Cancelled at the moment when all of them have ended, the run has the results of all checks and
no error, and is called cancelled. -/
theorem tokens_done_but_cancelled :
    clocked ({} : Options).callTimeout tokens (.after 10000000) =
      { errors := [], completed := 16, dispatched := 16, cancelled := true } := by
  have hsort : ((tokens.map Prod.snd).zipIdx.mergeSort fun a b =>
      taskEnd ({} : Options).callTimeout a.1 ≤ taskEnd ({} : Options).callTimeout b.1) =
      (tokens.map Prod.snd).zipIdx :=
    List.mergeSort_of_pairwise (by decide)
  have hmoves : clockedMoves ({} : Options).callTimeout (tokens.map Prod.snd) (.after 10000000) =
      (List.range 16).flatMap (fun id => [.ends id .accepted, .takes]) ++ [.cancels] := by
    unfold clockedMoves
    rw [hsort]
    decide
  have herrors : ((State.start (tokens.map Prod.fst)).moves
      (clockedMoves ({} : Options).callTimeout (tokens.map Prod.snd) (.after 10000000))).errors =
      [] := by
    rw [hmoves]
    decide
  have hnone : ValidationError.sortByPathAndMessage [] = [] := List.mergeSort_nil
  have hlabels : (tokens.map Prod.fst).isEmpty = false := rfl
  unfold clocked outcomeOf State.outcome
  rw [hlabels, herrors, hnone, hmoves]
  decide

end Sample

end SettingsCheck.CheckRun
