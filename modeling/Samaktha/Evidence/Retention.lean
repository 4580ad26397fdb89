import Samaktha.Evidence.Instrumentation
import Samaktha.Foundation.Machine

/-!
# What ends the evidence of an execution

The summary of an execution gets its end from any event whose status is one of five texts, and
`cleanup_retention` deletes the evidence of the executions whose summaries have an end.

The end is set by the events of the execution itself, and the evidence of an execution without
such an event is kept, exactly in the runs of the recorder in which no accepted event misreports
(`endsExactly_iff`).
-/

namespace Samaktha

namespace Evidence

/-! ## Retention -/

/-- The executions that the cleanup selects. -/
def expiredExecutions (tables : EvidenceTables) (cutoff : String) : List String :=
  (tables.executions.filter fun kv =>
    kv.2.terminalAt.any (fun terminalAt => terminalAt < cutoff) && kv.2.finalStatus.isSome).map
      Prod.fst

/-- `cleanup_retention`, with the text of the time before which an end is too long ago, and the
numbers of the deleted events and executions. -/
def cleanupRetention (tables : EvidenceTables) (cutoff : String) : EvidenceTables × ℕ × ℕ :=
  let executionIds := expiredExecutions tables cutoff
  if executionIds.isEmpty then (tables, 0, 0)
  else
    let events := tables.events.filter fun event => !executionIds.contains event.executionId
    let executions := tables.executions.filter fun kv => !executionIds.contains kv.1
    ({ events, executions }, tables.events.length - events.length,
      tables.executions.length - executions.length)

/-- The end in the summary of an execution. -/
def endOf (tables : EvidenceTables) (executionId : String) : Option String × Option String :=
  match tables.executions.get? executionId with
  | none => (none, none)
  | some row => (row.terminalAt, row.finalStatus)

/-- An event of the execution itself says that it has ended. -/
def HasEnded (tables : EvidenceTables) (executionId : String) : Prop :=
  ∃ event ∈ tables.events, event.executionId = executionId ∧ event.payload.endsExecution = true

/-! ## Runs of the recorder -/

/-- A call of a method of the recorder, with the identity and the times of the event it makes, or
a cleanup. -/
inductive RecorderMove where
  | emit (scope : ExecutionScope) (m : Method) (evidenceId timestamp now : String)
  | cleanup (cutoff : String)

variable (isLetter : Char → Bool) (maxPayloadBytes : ℕ)

/-- The event that a method makes. -/
def recorded (scope : ExecutionScope) (m : Method) (evidenceId timestamp : String) :
    EvidenceEvent where
  evidenceId
  payload := m.payload isLetter scope timestamp

/-- The store, driven by the recorder and the cleanup. -/
def recorder : Machine EvidenceTables RecorderMove where
  step tables
    | .emit scope m evidenceId timestamp now =>
        some (append isLetter maxPayloadBytes tables
          (recorded isLetter scope m evidenceId timestamp) now).1
    | .cleanup cutoff => some (cleanupRetention tables cutoff).1

/-- The tables can hold the event of a method, and its identity is new. -/
def Takes (tables : EvidenceTables) (scope : ExecutionScope) (m : Method)
    (evidenceId timestamp : String) : Prop :=
  storable isLetter maxPayloadBytes (recorded isLetter scope m evidenceId timestamp) = true ∧
    ∀ stored ∈ tables.events, stored.evidenceId ≠ evidenceId

/-- Whatever the clock shows, an event sets the end of its execution exactly where it is stored
and ends the execution, and it leaves the other ends alone; a cleanup deletes evidence of
executions that have ended only. -/
def EndsExactly (tables : EvidenceTables) : RecorderMove → Prop
  | .emit scope m evidenceId timestamp _ => ∀ now executionId,
      let event := recorded isLetter scope m evidenceId timestamp
      let tables' := (append isLetter maxPayloadBytes tables event now).1
      (Takes isLetter maxPayloadBytes tables scope m evidenceId timestamp ∧
          scope.executionId = executionId ∧ event.payload.endsExecution = true →
        endOf tables' executionId = (some now, event.payload.status)) ∧
      (¬ (Takes isLetter maxPayloadBytes tables scope m evidenceId timestamp ∧
          scope.executionId = executionId ∧ event.payload.endsExecution = true) →
        endOf tables' executionId = endOf tables executionId)
  | .cleanup cutoff =>
      (∀ event ∈ tables.events, event ∉ (cleanupRetention tables cutoff).1.events →
          HasEnded tables event.executionId) ∧
        ∀ kv ∈ tables.executions, kv ∉ (cleanupRetention tables cutoff).1.executions →
          HasEnded tables kv.1

/-- The store takes no event of a method that misreports. -/
def NoMisreport (tables : EvidenceTables) : RecorderMove → Prop
  | .emit scope m evidenceId timestamp _ =>
      Takes isLetter maxPayloadBytes tables scope m evidenceId timestamp → m.misreports = false
  | .cleanup _ => True

variable {isLetter maxPayloadBytes}

@[simp] lemma executionId_recorded (scope : ExecutionScope) (m : Method)
    (evidenceId timestamp : String) :
    (recorded isLetter scope m evidenceId timestamp).executionId = scope.executionId :=
  executionId_payload scope timestamp m

/-! ## The end of a summary -/

lemma end_upsert (executions : Dict String ExecutionEvidenceSummary) (payload : EvidencePayload)
    (summary : Option String) (now : String) :
    ∃ row, (upsertExecutionSummary executions payload summary now).get? payload.executionId =
        some row ∧
      (row.terminalAt, row.finalStatus) =
        if payload.isTerminal then (some now, payload.status)
        else
          match executions.get? payload.executionId with
          | none => (none, none)
          | some old => (old.terminalAt, old.finalStatus) := by
  refine ⟨_, Dict.get?_set_self _ _ _, ?_⟩
  cases executions.get? payload.executionId with
  | none => cases payload.isTerminal <;> rfl
  | some old => cases payload.isTerminal <;> rfl

lemma endOf_insertEvent {tables tables' : EvidenceTables} {event row : EvidenceEvent}
    {now : String}
    (h : insertEvent isLetter maxPayloadBytes tables event now = some (tables', row))
    (executionId : String) :
    endOf tables' executionId =
      if event.executionId = executionId ∧ event.payload.isTerminal = true then
        (some now, event.payload.status)
      else endOf tables executionId := by
  obtain ⟨metadata, summary, hrow, htables, -⟩ := insertEvent_spec h
  have hid : row.payload.executionId = event.executionId := by rw [hrow]; rfl
  have hterminal : row.payload.isTerminal = event.payload.isTerminal := by rw [hrow]; rfl
  have hstatus : row.payload.status = event.payload.status := by rw [hrow]; rfl
  rw [endOf, htables]
  by_cases heq : event.executionId = executionId
  · obtain ⟨s, hs, hend⟩ := end_upsert tables.executions row.payload summary now
    rw [hid, heq] at hs hend
    rw [hs]
    show (s.terminalAt, s.finalStatus) = _
    rw [hend, hterminal, hstatus]
    simp [heq, endOf]
  · rw [if_neg fun hboth => heq hboth.1, upsertExecutionSummary,
      Dict.get?_set_of_ne (by rw [hid]; exact heq), endOf]

variable (isLetter maxPayloadBytes) in
lemma append_recorded (tables : EvidenceTables) (scope : ExecutionScope) (m : Method)
    (evidenceId timestamp now : String) :
    (Takes isLetter maxPayloadBytes tables scope m evidenceId timestamp ∧ ∃ tables' row,
        insertEvent isLetter maxPayloadBytes tables
            (recorded isLetter scope m evidenceId timestamp) now = some (tables', row) ∧
          (append isLetter maxPayloadBytes tables
            (recorded isLetter scope m evidenceId timestamp) now).1 = tables') ∨
      ¬ Takes isLetter maxPayloadBytes tables scope m evidenceId timestamp ∧
        (append isLetter maxPayloadBytes tables
          (recorded isLetter scope m evidenceId timestamp) now).1 = tables := by
  have hsome := insertEvent_isSome isLetter maxPayloadBytes
    tables (recorded isLetter scope m evidenceId timestamp) now
  unfold append
  cases hinsert : insertEvent isLetter maxPayloadBytes tables
      (recorded isLetter scope m evidenceId timestamp) now with
  | none =>
      rw [hinsert] at hsome
      exact .inr ⟨fun htakes => by simpa using hsome.mpr htakes, rfl⟩
  | some result =>
      rw [hinsert] at hsome
      exact .inl ⟨hsome.mp rfl, result.1, result.2, rfl, rfl⟩

/-! ## The cleanup -/

/-- An end in a summary comes from an event that ended the execution. -/
def EndsAreReal (tables : EvidenceTables) : Prop :=
  ∀ executionId, (endOf tables executionId).1 ≠ none → HasEnded tables executionId

lemma endOf_of_mem_expired {tables : EvidenceTables} (cutoff : String) {executionId : String}
    (hkeys : Dict.NodupKeys tables.executions)
    (h : executionId ∈ expiredExecutions tables cutoff) : (endOf tables executionId).1 ≠ none := by
  obtain ⟨kv, hmem, rfl⟩ := List.mem_map.mp h
  obtain ⟨hin, hexpired⟩ := List.mem_filter.mp hmem
  rw [endOf, Dict.get?_of_mem hkeys hin]
  intro hnone
  have hterminal : kv.2.terminalAt = none := hnone
  simp [hterminal] at hexpired

lemma cleanupRetention_eq (tables : EvidenceTables) (cutoff : String) :
    (cleanupRetention tables cutoff).1 =
      { events := tables.events.filter fun event =>
          !(expiredExecutions tables cutoff).contains event.executionId
        executions := tables.executions.filter fun kv =>
          !(expiredExecutions tables cutoff).contains kv.1 } := by
  unfold cleanupRetention
  dsimp only
  split
  · rename_i hempty
    rw [List.isEmpty_iff.mp hempty]
    simp
  · rfl

lemma get?_cleanup (tables : EvidenceTables) (cutoff executionId : String) :
    (cleanupRetention tables cutoff).1.executions.get? executionId =
      if executionId ∈ expiredExecutions tables cutoff then none
      else tables.executions.get? executionId := by
  have hget := Dict.get?_filterKeys (p := fun k =>
    !(expiredExecutions tables cutoff).contains k) tables.executions executionId
  rw [cleanupRetention_eq]
  refine hget.trans ?_
  by_cases hmem : executionId ∈ expiredExecutions tables cutoff
  · simp [hmem]
  · simp [hmem]

/-! ## The theorem -/

/-- Ends are real and every execution has one summary. -/
structure Sealed (tables : EvidenceTables) : Prop where
  real : EndsAreReal tables
  keys : Dict.NodupKeys tables.executions

lemma Sealed.step {tables tables' : EvidenceTables} {move : RecorderMove} (hsealed : Sealed tables)
    (hmove : NoMisreport isLetter maxPayloadBytes tables move)
    (hstep : (recorder isLetter maxPayloadBytes).step tables move = some tables') :
    Sealed tables' := by
  cases move with
  | emit scope m evidenceId timestamp now =>
      obtain rfl : (append isLetter maxPayloadBytes tables
        (recorded isLetter scope m evidenceId timestamp) now).1 = tables' := Option.some.inj hstep
      rcases append_recorded isLetter maxPayloadBytes tables
        scope m evidenceId timestamp now with ⟨htakes, tables', row, hinsert, hresult⟩ |
        ⟨-, hresult⟩
      · rw [hresult]
        refine ⟨fun executionId hend => ?_, ?_⟩
        · rw [endOf_insertEvent hinsert] at hend
          rw [HasEnded, events_insertEvent hinsert]
          split at hend
          · rename_i hterminal
            obtain ⟨metadata, summary, hrow, -⟩ := insertEvent_spec hinsert
            refine ⟨row, List.mem_append_right _ List.mem_cons_self, ?_, ?_⟩
            · rw [← hterminal.1]
              exact (executionId_insertEvent hinsert).1
            · have hreports := misreports_eq isLetter scope timestamp m
              rw [hmove htakes] at hreports
              have hexecution : (m.payload isLetter scope timestamp).eventType.isExecution =
                  true := by
                simpa [show (m.payload isLetter scope timestamp).isTerminal = true from
                  hterminal.2] using hreports.symm
              have hends : row.payload.endsExecution =
                  (m.payload isLetter scope timestamp).endsExecution := by
                rw [hrow]
                rfl
              rw [hends, EvidencePayload.endsExecution, hexecution]
              exact hterminal.2
          · obtain ⟨event, hmem, hevent⟩ := hsealed.real executionId hend
            exact ⟨event, List.mem_append_left _ hmem, hevent⟩
        · obtain ⟨metadata, summary, rfl, rfl, -⟩ := insertEvent_spec hinsert
          exact hsealed.keys.set _ _
      · rw [hresult]
        exact hsealed
  | cleanup cutoff =>
      obtain rfl : (cleanupRetention tables cutoff).1 = tables' := Option.some.inj hstep
      refine ⟨fun executionId hend => ?_, ?_⟩
      · rw [endOf, get?_cleanup] at hend
        split at hend
        · rename_i hnone
          exact absurd rfl hend
        · rename_i row hrow
          split at hrow
          · cases hrow
          · rename_i hkept
            obtain ⟨event, hmem, hid, hends⟩ := hsealed.real executionId (by
              rw [endOf, hrow]
              exact hend)
            refine ⟨event, ?_, hid, hends⟩
            rw [cleanupRetention_eq]
            exact List.mem_filter.mpr ⟨hmem, by simpa [hid] using hkept⟩
      · rw [cleanupRetention_eq]
        exact Dict.NodupKeys.filterKeys
          (p := fun k => !(expiredExecutions tables cutoff).contains k) hsealed.keys

/-- The condition is exact for one move. -/
lemma noMisreport_iff {tables : EvidenceTables} {move : RecorderMove} (hsealed : Sealed tables) :
    NoMisreport isLetter maxPayloadBytes tables move ↔
      EndsExactly isLetter maxPayloadBytes tables move := by
  cases move with
  | emit scope m evidenceId timestamp now =>
      constructor
      · intro hmove now executionId
        dsimp only
        rcases append_recorded isLetter maxPayloadBytes tables
          scope m evidenceId timestamp now with ⟨htakes, tables', row, hinsert, hresult⟩ |
          ⟨hnot, hresult⟩
        · have hreports := misreports_eq isLetter scope timestamp m
          rw [hmove htakes] at hreports
          have hterminal : (m.payload isLetter scope timestamp).isTerminal =
              (m.payload isLetter scope timestamp).endsExecution := by
            rw [EvidencePayload.endsExecution]
            cases hterminal : (m.payload isLetter scope timestamp).isTerminal with
            | false => simp
            | true => simpa [hterminal] using hreports
          rw [hresult, endOf_insertEvent hinsert]
          constructor
          · rintro ⟨-, hid, hends⟩
            rw [if_pos ⟨by simpa using hid, hterminal.trans hends⟩]
          · intro hother
            rw [if_neg fun hboth => hother
              ⟨htakes, by simpa using hboth.1, hterminal.symm.trans hboth.2⟩]
        · rw [hresult]
          exact ⟨fun hboth => absurd hboth.1 hnot, fun _ => rfl⟩
      · intro hends htakes
        by_contra hmis
        rw [Bool.not_eq_false, misreports_eq isLetter scope timestamp m,
          Bool.and_eq_true, Bool.not_eq_true'] at hmis
        -- a time that is not the one in the summary
        obtain ⟨now, hnow⟩ : ∃ now, (endOf tables scope.executionId).1 ≠ some now := by
          cases (endOf tables scope.executionId).1 with
          | none => exact ⟨"", by simp⟩
          | some terminalAt =>
              refine ⟨terminalAt ++ "x", fun heq => ?_⟩
              have hlength := congrArg String.length (Option.some.inj heq)
              rw [String.length_append] at hlength
              have hone : "x".length = 1 := rfl
              omega
        have hkept := (hends now scope.executionId).2 fun hboth => by
          have hexecution := hboth.2.2
          rw [EvidencePayload.endsExecution] at hexecution
          simp [recorded, hmis.2] at hexecution
        rcases append_recorded isLetter maxPayloadBytes tables
          scope m evidenceId timestamp now with ⟨-, tables', row, hinsert, hresult⟩ | ⟨hnot, -⟩
        · rw [hresult, endOf_insertEvent hinsert,
            if_pos ⟨by simp, hmis.1⟩] at hkept
          exact hnow (congrArg Prod.fst hkept).symm
        · exact hnot htakes
  | cleanup cutoff =>
      refine iff_of_true trivial ⟨fun event hmem hgone => ?_, fun kv hmem hgone => ?_⟩
      · rw [cleanupRetention_eq, List.mem_filter] at hgone
        refine hsealed.real _ (endOf_of_mem_expired cutoff hsealed.keys ?_)
        simpa [hmem] using hgone
      · rw [cleanupRetention_eq, List.mem_filter] at hgone
        refine hsealed.real _ (endOf_of_mem_expired cutoff hsealed.keys ?_)
        simpa [hmem] using hgone

/-- In the runs of the recorder and the cleanup on an empty store, ends are set by the events that
end executions only, and evidence is deleted of ended executions only, exactly where no stored
event is misreported. -/
theorem endsExactly_iff (isLetter : Char → Bool) (maxPayloadBytes : ℕ)
    (moves : List RecorderMove) :
    (recorder isLetter maxPayloadBytes).Guarded (EndsExactly isLetter maxPayloadBytes) {} moves ↔
      (recorder isLetter maxPayloadBytes).Guarded (NoMisreport isLetter maxPayloadBytes) {}
        moves := by
  refine (Machine.guarded_congr (I := Sealed) _ (fun tables move tables' hsealed hmove hstep =>
    hsealed.step hmove hstep) (fun tables move hsealed => noMisreport_iff hsealed) ?_).symm
  refine ⟨fun executionId hend => ?_, List.nodup_nil⟩
  exact absurd rfl hend

/-- A tool fails while its execution goes on: the summary has an end, and a cleanup deletes the
evidence. -/
theorem not_endsExactly :
    let scope : ExecutionScope := ⟨"x1", "p1", "s1"⟩
    let moves := [
      RecorderMove.emit scope (.executionCreated "copy the file") "e1" "t1" "2026-01-01",
      .emit scope (.toolFailed "task1" "filesystem" "copy" "busy") "e2" "t2" "2026-01-02",
      .cleanup "2026-06-01"]
    (¬ (recorder (fun _ => false) 64000).Guarded (EndsExactly (fun _ => false) 64000) {} moves) ∧
      ((recorder (fun _ => false) 64000).run {} moves).map (fun tables => tables.events.length) =
        some 0 := by
  intro scope moves
  have hran : ((recorder (fun _ => false) 64000).run {} moves).map
      (fun tables => tables.events.length) = some 0 := by rfl
  refine ⟨fun hguarded => ?_, hran⟩
  have hkept := ((hguarded.2 _ rfl).1 "2026-01-02" "x1").2 fun hboth =>
    absurd hboth.2.2 (by decide)
  exact absurd hkept (by decide)

end Evidence

end Samaktha
