import SettingsCheck.Proofs.Accounting

namespace SettingsCheck.CheckRun

variable {tasks : List (CheckLabel × TaskResult)} {ms : List Move}

/-- The error of a task if these tasks have sent their report: that of its report, or else that it
was cut off. -/
def owed (ids : List Nat) (entry : (CheckLabel × TaskResult) × Nat) : Option ValidationError :=
  if entry.2 ∈ ids then failure? entry.1 else some (State.cutOff entry.1.1)

/-- The errors of checks of which some have sent their report. -/
def settlement (tasks : List (CheckLabel × TaskResult)) (ids : List Nat) : List ValidationError :=
  tasks.zipIdx.filterMap (owed ids)

/-- The checks that sent no report before the cancellation. -/
def missed (tasks : List (CheckLabel × TaskResult)) (ms : List Move) : List Nat :=
  (List.range tasks.length).filter (· ∉ sent ms)

theorem failureAt_of_mem {task : CheckLabel × TaskResult} {id : Nat}
    (h : (task, id) ∈ tasks.zipIdx) : failureAt tasks id = failure? task := by
  simp [failureAt, List.mem_zipIdx_iff_getElem?.mp h]

theorem filter_range_filterMap (p : Nat → Bool) :
    ((List.range tasks.length).filter p).filterMap (failureAt tasks) =
      (tasks.zipIdx.filter fun entry => p entry.2).filterMap fun entry => failure? entry.1 := by
  have hrange : List.range tasks.length = tasks.zipIdx.map Prod.snd := by
    rw [List.zipIdx_map_snd, List.range_eq_range']
  rw [hrange, List.filter_map, List.filterMap_map]
  apply List.filterMap_congr
  intro entry he
  exact failureAt_of_mem (List.mem_filter.mp he).1

theorem range_filterMap_failureAt :
    (List.range tasks.length).filterMap (failureAt tasks) = tasks.filterMap failure? := by
  have h := @filter_range_filterMap tasks fun _ => true
  have hfst : tasks.zipIdx.map Prod.fst = tasks := List.zipIdx_map_fst 0 tasks
  rw [List.filter_true, List.filter_true] at h
  rw [h, ← hfst, List.filterMap_map, hfst]
  rfl

namespace State

variable (answer : Nat → TaskResult)

/-- A run that is not over can go on without a cancellation, and comes nearer to its end. -/
theorem progress {s : State} (hf : s.finished = false) :
    ∃ m, (∀ id result, m = .ends id result → result = answer id) ∧ (∀ id, m ≠ .vanishes id) ∧
      m ≠ .cancels ∧ ((s.move m).finished = true ∨
      2 * (s.move m).running.length + (s.move m).queue.length <
        2 * s.running.length + s.queue.length) := by
  cases hr : s.running with
  | cons id rest =>
    have hid : id ∈ s.running := by simp [hr]
    have hfewer : (s.running.filter (· != id)).length < s.running.length :=
      List.length_filter_lt_length_iff_exists.mpr ⟨id, hid, by simp⟩
    refine ⟨.ends id (answer id), by simp +contextual, by simp, by simp, .inr ?_⟩
    rw [← hr, State.move_ends_of_mem hf hid]
    simp only [List.length_append, List.length_singleton]
    omega
  | nil =>
    cases hq : s.queue with
    | cons entry rest =>
      refine ⟨.takes, by simp, by simp, by simp, .inr ?_⟩
      rw [State.move_takes_of_cons hf hq]
      simp [hr]
    | nil =>
      refine ⟨.closes, by simp, by simp, by simp, .inl ?_⟩
      rw [State.move_closes_of_empty hf hr hq]

/-- Any run can be played to its end without a cancellation, whatever its tasks send. -/
theorem exists_rest (s : State) :
    ∃ rest, (∀ id result, .ends id result ∈ rest → result = answer id) ∧
      (∀ id, .vanishes id ∉ rest) ∧ .cancels ∉ rest ∧ (s.moves rest).finished = true := by
  -- a task that ends leaves one report to be taken, so it counts twice
  induction hn : 2 * s.running.length + s.queue.length using Nat.strongRecOn generalizing s with
  | _ n ih =>
    cases hf : s.finished with
    | true => exact ⟨[], by simp, by simp, by simp, hf⟩
    | false =>
      obtain ⟨m, hends, hreturns, hc, hnear⟩ := progress answer hf
      obtain hend | hless := hnear
      · refine ⟨[m], fun id result hm => ?_, fun id hm => ?_, by simpa using hc.symm, hend⟩
        · exact hends id result (List.mem_singleton.mp hm).symm
        · exact hreturns id (List.mem_singleton.mp hm).symm
      · obtain ⟨rest, hsent, hreturned, hnone, hend⟩ := ih _ (hn ▸ hless) (s.move m) rfl
        refine ⟨m :: rest, fun id result hm => ?_, fun id hm => ?_, by simp [hc.symm, hnone], hend⟩
        · rcases List.mem_cons.mp hm with heq | hm
          · exact hends id result heq.symm
          · exact hsent id result hm
        · rcases List.mem_cons.mp hm with heq | hm
          · exact hreturns id heq.symm
          · exact hreturned id hm

end State

namespace Kept

variable {s : State} {taken : List Nat}

theorem mem_taken_iff (h : Kept tasks ms s taken) (hq : s.queue = []) {id : Nat}
    (hid : id < tasks.length) : id ∈ taken ↔ id ∈ ms.filterMap Move.ended? := by
  have hparts := h.parts
  have hnodup := h.nodup
  rw [hq, List.map_nil, List.nil_append] at hparts hnodup
  have hrunning : id ∈ s.running ↔ id ∉ ms.filterMap Move.ended? := by
    rw [h.running, List.mem_filter, decide_eq_true_eq, List.mem_range, and_iff_right hid]
  have hall : id ∈ taken ∨ id ∈ s.running :=
    List.mem_append.mp (hparts.mem_iff.mpr (List.mem_range.mpr hid))
  constructor
  · intro ht
    by_contra hno
    exact (List.nodup_append.mp hnodup).2.2 id ht id (hrunning.mpr hno) rfl
  · intro hsent
    exact hall.resolve_right fun hr => hrunning.mp hr hsent

theorem taken_perm (h : Kept tasks ms s taken) :
    taken.Perm ((List.range tasks.length).filter (· ∈ taken)) := by
  refine (List.perm_ext_iff_of_nodup (List.nodup_append.mp h.nodup).1
    (List.nodup_range.filter _)).mpr fun id => ?_
  rw [List.mem_filter, decide_eq_true_eq]
  refine ⟨fun hm => ⟨?_, hm⟩, And.right⟩
  exact h.parts.mem_iff.mp (List.mem_append_left _ hm)

theorem errors_perm (h : Kept tasks ms s taken) :
    s.errors.Perm ((tasks.zipIdx.filter fun entry => entry.2 ∈ taken).filterMap (owed taken)) := by
  rw [h.errors]
  refine (h.taken_perm.filterMap _).trans ?_
  rw [filter_range_filterMap]
  refine List.Perm.of_eq (List.filterMap_congr fun entry he => ?_)
  rw [owed, if_pos (by simpa using (List.mem_filter.mp he).2)]

theorem map_cutOff_inFlight (h : Kept tasks ms s taken) :
    (s.inFlight.map fun entry => State.cutOff entry.2) =
      (tasks.zipIdx.filter fun entry => !decide (entry.2 ∈ taken)).filterMap (owed taken) := by
  have hcut : (tasks.zipIdx.filter fun entry => !decide (entry.2 ∈ taken)).filterMap (owed taken) =
      (tasks.zipIdx.filter fun entry => !decide (entry.2 ∈ taken)).map fun entry =>
        State.cutOff entry.1.1 := by
    rw [← List.filterMap_eq_map']
    apply List.filterMap_congr
    intro entry he
    rw [owed, if_neg (by simpa using (List.mem_filter.mp he).2)]
  rw [hcut, h.inFlight]
  simp only [State.start, List.zipIdx_map, List.map_map, List.filter_map, Function.comp_def]
  congr 1
  apply List.filter_congr
  intro entry _
  simp

/-- The errors on record together with one for each check in flight. -/
theorem settle (h : Kept tasks ms s taken) (hq : s.queue = []) :
    (s.errors ++ s.inFlight.map fun entry => State.cutOff entry.2).Perm
      (settlement tasks (ms.filterMap Move.ended?)) := by
  have hsame : settlement tasks (ms.filterMap Move.ended?) = settlement tasks taken := by
    apply List.filterMap_congr
    intro entry he
    simp only [owed, h.mem_taken_iff hq (List.snd_lt_of_mem_zipIdx he)]
  rw [hsame, h.map_cutOff_inFlight]
  refine (h.errors_perm.append_right _).trans ?_
  rw [← List.filterMap_append]
  exact (List.filter_append_perm _ _).filterMap _

/-- A run that closed has settled every check by its report. -/
theorem errors_of_closed (h : Kept tasks ms s taken) (hf : s.finished = true) :
    s.completed = tasks.length ∧ s.errors.Perm (tasks.filterMap failure?) := by
  obtain ⟨hr, hq⟩ := h.closed hf
  have htaken : taken.Perm (List.range tasks.length) := by simpa [hr, hq] using h.parts
  constructor
  · rw [h.completed, htaken.length_eq, List.length_range]
  · rw [h.errors, ← range_filterMap_failureAt]
    exact htaken.filterMap _

end Kept

/-- A run is either as if it had never been cancelled, or it was cut off while it was going on. -/
theorem moves_cases (hp : Plays tasks ms) :
    let s := (State.start (tasks.map Prod.fst)).moves ms
    (∃ seen taken, Kept tasks seen s taken ∧ (.cancels ∈ ms → s.finished = true)) ∨
      ∃ before r taken, .cancels ∈ ms ∧ before.filterMap Move.ended? = sent ms ∧
        Kept tasks before r taken ∧ s = r.drain.writeOff := by
  intro s
  by_cases hc : .cancels ∈ ms
  · -- the first cancellation ends the run, if it was not over, and what comes after changes nothing
    obtain ⟨before, after, heq, hnone⟩ := List.eq_append_cons_of_mem hc
    have hbefore : Plays tasks before := (Plays.append.mp (heq ▸ hp)).1
    obtain ⟨taken, h⟩ := kept_moves hbefore hnone
    have hs : s =
        (((State.start (tasks.map Prod.fst)).moves before).move .cancels).moves after := by
      simp only [s, heq, State.moves_append]
      rfl
    cases hf : ((State.start (tasks.map Prod.fst)).moves before).finished with
    | true =>
      refine .inl ⟨before, taken, ?_⟩
      rw [hs, State.move_of_finished hf, State.moves_of_finished hf]
      exact ⟨h, fun _ => hf⟩
    | false =>
      refine .inr ⟨before, _, taken, hc, ?_, h, ?_⟩
      · have htake : ms.takeWhile (· ≠ .cancels) = before := by
          rw [heq, List.takeWhile_append_of_pos]
          · simp
          · intro m hm
            have hne : m ≠ .cancels := fun he => hnone (he ▸ hm)
            simpa using hne
        rw [sent, htake]
      · rw [hs, State.move_cancels hf, State.moves_of_finished rfl]
  · obtain ⟨taken, h⟩ := kept_moves hp hc
    exact .inl ⟨ms, taken, h, fun hm => absurd hm hc⟩

theorem Kept.cut (h : Kept tasks ms s taken) :
    s.drain.completed + ((List.range tasks.length).filter
      (· ∉ ms.filterMap Move.ended?)).length = tasks.length := by
  obtain ⟨hd, hq, hr⟩ := h.drain
  have hlen := hd.parts.length_eq
  rw [hq, List.map_nil, List.nil_append, List.length_append, List.length_range] at hlen
  rw [hd.completed, ← h.running, ← hr]
  exact hlen

theorem failure?_eq_some_iff {deadline : Nat} {check : CheckLabel × Completion}
    {e : ValidationError} :
    failure? (check.1, taskResult deadline check.2) = some e ↔ ∃ reason,
      Fails deadline check.2 reason ∧ e = .remote check.1.path check.1.validator reason := by
  simp only [← taskResult_eq_refused_iff]
  cases h : taskResult deadline check.2 with
  | accepted => simp [failure?, TaskResult.error?]
  | refused reason => simp [failure?, TaskResult.error?, eq_comm]

/-- How a run of checks with these reports ended. -/
structure Settled (tasks : List (CheckLabel × TaskResult)) (ms : List Move) (o : Outcome) :
    Prop where
  dispatched : o.dispatched = tasks.length
  uncancelled : o.cancelled = false →
    o.completed = o.dispatched ∧ o.errors.Perm (tasks.filterMap failure?)
  cancelled : o.cancelled = true → .cancels ∈ ms ∧
    o.completed + (missed tasks ms).length = o.dispatched ∧
    o.errors.Perm (settlement tasks (sent ms))

theorem settled_of_finished (hp : Plays tasks ms)
    (hf : ((State.start (tasks.map Prod.fst)).moves ms).finished = true) :
    Settled tasks ms ((State.start (tasks.map Prod.fst)).moves ms).outcome := by
  have hsort : ∀ errors, (ValidationError.sortByPathAndMessage errors).Perm errors :=
    fun errors => List.mergeSort_perm _ _
  obtain ⟨seen, taken, h, _⟩ | ⟨before, r, taken, hc, hsent, h, hs⟩ := moves_cases hp
  · obtain ⟨hall, herrors⟩ := h.errors_of_closed hf
    exact
      { dispatched := h.dispatched
        uncancelled := fun _ => ⟨hall.trans h.dispatched.symm, (hsort _).trans herrors⟩
        cancelled := fun hc => absurd (h.cancelled.symm.trans hc) (by simp) }
  · obtain ⟨hd, hq, _⟩ := h.drain
    rw [hs]
    refine ⟨hd.dispatched, fun hno => absurd hno (by simp [State.outcome, State.writeOff]), ?_⟩
    refine fun _ => ⟨hc, ?_, ?_⟩
    · rw [missed, ← hsent]
      exact h.cut.trans hd.dispatched.symm
    · rw [← hsent]
      exact (hsort _).trans (hd.settle hq)

theorem exists_rest_of_plays (hp : Plays tasks ms) :
    ∃ rest, Plays tasks (ms ++ rest) ∧ .cancels ∉ rest ∧
      (((State.start (tasks.map Prod.fst)).moves ms).moves rest).finished = true := by
  let answer (id : Nat) : TaskResult := (tasks[id]?.map Prod.snd).getD .accepted
  obtain ⟨rest, hsent, hreturned, hno, hf⟩ :=
    State.exists_rest answer ((State.start (tasks.map Prod.fst)).moves ms)
  have hrest : Plays tasks rest :=
    ⟨fun id result hm task htask => by simp [hsent id result hm, answer, htask], hreturned⟩
  exact ⟨rest, Plays.append.mpr ⟨hp, hrest⟩, hno, hf⟩

/-- Every dispatched check is counted once while the run goes on, whatever the order of its moves,
and settled once when it ends. A run that has begun can always end. -/
theorem every_check_settled_once (deadline : Nat) (checks : List (CheckLabel × Completion))
    (ms : List Move) (hne : checks ≠ []) (hp : Plays (reports deadline checks) ms) :
    let labels := checks.map Prod.fst
    let s := (State.start labels).moves ms
    outcomeOf labels true ms = ⟨[], 0, 0, true⟩ ∧
    (outcomeOf labels false ms).dispatched = checks.length ∧
    (s.cancelled = false → s.completed + s.inFlight.length = s.dispatched ∧
      s.drain.completed + s.drain.inFlight.length = s.dispatched) ∧
    (s.finished = true → Settled (reports deadline checks) ms (outcomeOf labels false ms)) ∧
    (.cancels ∈ ms → s.finished = true) ∧
    (∃ rest, Plays (reports deadline checks) (ms ++ rest) ∧ .cancels ∉ rest ∧
      (s.moves rest).finished = true) ∧
    ∀ check ∈ checks,
      (∀ e, failure? (check.1, taskResult deadline check.2) = some e ↔ ∃ reason,
        Fails deadline check.2 reason ∧
          e = ⟨check.1.path, check.1.validator ++ ": " ++ reason, .remote, check.1.validator⟩) ∧
      State.cutOff check.1 = ⟨check.1.path,
        check.1.validator ++ ": " ++ "cancelled before completion", .remote,
        check.1.validator⟩ := by
  intro labels s
  have hempty : labels.isEmpty = false := by simpa [labels] using hne
  have hlabels : (reports deadline checks).map Prod.fst = labels := map_fst_reports _ _
  have hrun : outcomeOf labels false ms = s.outcome := by simp [outcomeOf, hempty, s]
  have hlen : (reports deadline checks).length = checks.length := length_reports _ _
  have hcases := moves_cases hp
  have hend := settled_of_finished hp
  have hrest := exists_rest_of_plays hp
  rw [hlabels] at hcases hend hrest
  rw [hrun]
  refine ⟨by simp [outcomeOf, hempty], ?_, ?_, hend, ?_, hrest,
    fun _ _ => ⟨fun _ => failure?_eq_some_iff, rfl⟩⟩
  · obtain ⟨seen, taken, h, _⟩ | ⟨before, r, taken, _, _, h, hs⟩ := hcases
    · exact h.dispatched.trans hlen
    · have hs : s = r.drain.writeOff := hs
      rw [show s.outcome.dispatched = r.drain.dispatched by rw [hs]; rfl]
      exact h.drain.1.dispatched.trans hlen
  · intro hno
    obtain ⟨seen, taken, h, _⟩ | ⟨before, r, taken, _, _, _, hs⟩ := hcases
    · exact ⟨h.balance.trans h.dispatched.symm, h.drain.1.balance.trans h.dispatched.symm⟩
    · have hs : s = r.drain.writeOff := hs
      exact absurd (hs ▸ hno) (by simp [State.writeOff])
  · intro hc
    obtain ⟨seen, taken, _, hf⟩ | ⟨before, r, taken, _, _, _, hs⟩ := hcases
    · exact hf hc
    · have hs : s = r.drain.writeOff := hs
      rw [hs]
      rfl

namespace Sample

def checks : List (CheckLabel × Completion) :=
  [(⟨"reachable", FieldPath.root.key "host"⟩, ⟨some 4, .accepted⟩),
    (⟨"open_port", FieldPath.root.key "port"⟩, ⟨some 7, .refused "closed"⟩),
    (⟨"known_token", FieldPath.root.key "token"⟩, ⟨none, .crashed⟩)]

/-- The second report waits when the run is cancelled, and the third check has sent none. -/
def moves : List Move := [.ends 0 .accepted, .takes, .ends 1 (.refused "closed"), .cancels]

end Sample

theorem settled_after_cancellation :
    Sample.checks ≠ [] ∧ Plays (reports 10 Sample.checks) Sample.moves ∧
    (outcomeOf (Sample.checks.map Prod.fst) false Sample.moves).completed = 2 ∧
    (outcomeOf (Sample.checks.map Prod.fst) false Sample.moves).errors.Perm
      [.remote (FieldPath.root.key "port") "open_port" "closed",
        .remote (FieldPath.root.key "token") "known_token" "cancelled before completion"] := by
  have hne : Sample.checks ≠ [] := by decide
  have hp : Plays (reports 10 Sample.checks) Sample.moves := by
    refine ⟨fun id result hm task htask => ?_, by simp [Sample.moves]⟩
    have hends : id = 0 ∧ result = .accepted ∨ id = 1 ∧ result = .refused "closed" := by
      simpa [Sample.moves] using hm
    obtain ⟨rfl, rfl⟩ | ⟨rfl, rfl⟩ := hends <;> (cases htask; rfl)
  obtain ⟨_, hdispatched, _, hend, hstop, _, _⟩ :=
    every_check_settled_once 10 Sample.checks Sample.moves hne hp
  obtain ⟨_, hcompleted, herrors⟩ := (hend (hstop (by decide))).cancelled (by decide)
  have hmissed : (missed (reports 10 Sample.checks) Sample.moves).length = 1 := by decide
  have hlength : Sample.checks.length = 3 := rfl
  exact ⟨hne, hp, by omega, herrors⟩

end SettingsCheck.CheckRun
