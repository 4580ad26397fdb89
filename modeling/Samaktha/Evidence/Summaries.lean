import Samaktha.Evidence.Store
import Samaktha.Foundation.Machine

/-!
# Summaries and the log

The update of a summary counts an event under its type, and the insertion writes zeros whatever
the type of the event.  So the counts of a summary agree with the events of its execution exactly
where the first event of the execution is of no counted type (`tallied_insertEvent_iff`): a count
that is once wrong stays wrong (`miscounted_insertEvent`).

`append_many` is one transaction.  It does what the appends of its events do one by one where all
of them are accepted or the first one is refused (`appendMany_eq_iff`).
-/

namespace Samaktha

namespace Evidence

/-! ## Counts -/

/-- The counts of a summary. -/
inductive Tally where
  | retry
  | approval
  | securityDenial
  | recovery
  deriving Repr, DecidableEq

/-- The event types a count is about. -/
def Tally.counts : Tally → EvidenceEventType → Bool
  | retry, type => type = .retryScheduled
  | approval, type => type = .approvalResolved
  | securityDenial, type => type ∈ securityDenials
  | recovery, type => type ∈ recoveries

def ExecutionEvidenceSummary.tally (row : ExecutionEvidenceSummary) : Tally → ℕ
  | .retry => row.retryCount
  | .approval => row.approvalCount
  | .securityDenial => row.securityDenialCount
  | .recovery => row.recoveryCount

/-- Some count is about events of the type. -/
def isCounted (type : EvidenceEventType) : Bool :=
  type = .retryScheduled || type = .approvalResolved || type ∈ securityDenials ||
    type ∈ recoveries

lemma isCounted_eq_false_iff (type : EvidenceEventType) :
    isCounted type = false ↔ ∀ t : Tally, t.counts type = false := by
  constructor
  · intro h t
    simp only [isCounted, Bool.or_eq_false_iff] at h
    cases t with
    | retry => exact h.1.1.1
    | approval => exact h.1.1.2
    | securityDenial => exact h.1.2
    | recovery => exact h.2
  · intro h
    simp only [isCounted, Bool.or_eq_false_iff]
    exact ⟨⟨⟨h .retry, h .approval⟩, h .securityDenial⟩, h .recovery⟩

/-- The number of events of an execution that a count is about. -/
def EvidenceTables.count (tables : EvidenceTables) (executionId : String) (t : Tally) : ℕ :=
  (tables.eventsOf executionId).countP fun event => t.counts event.payload.eventType

/-- An execution has a summary where it has events, and the summary has their number. -/
def Totalled (tables : EvidenceTables) : Prop :=
  ∀ executionId,
    match tables.executions.get? executionId with
    | none => tables.eventsOf executionId = []
    | some row => row.totalEvents = (tables.eventsOf executionId).length

/-- The counts of the summaries are the numbers of the events. -/
def Tallied (tables : EvidenceTables) : Prop :=
  ∀ executionId row, tables.executions.get? executionId = some row →
    ∀ t, row.tally t = tables.count executionId t

/-! ## The upsert -/

lemma get?_upsert_of_ne {executions : Dict String ExecutionEvidenceSummary}
    {payload : EvidencePayload} {summary : Option String} {now executionId : String}
    (h : payload.executionId ≠ executionId) :
    (upsertExecutionSummary executions payload summary now).get? executionId =
      executions.get? executionId := Dict.get?_set_of_ne h _ _

lemma get?_upsert_new {executions : Dict String ExecutionEvidenceSummary}
    {payload : EvidencePayload} {summary : Option String} {now : String}
    (h : executions.get? payload.executionId = none) :
    ∃ row, (upsertExecutionSummary executions payload summary now).get? payload.executionId =
        some row ∧ row.totalEvents = 1 ∧ ∀ t, row.tally t = 0 := by
  refine ⟨_, Dict.get?_set_self _ _ _, ?_⟩
  rw [h]
  refine ⟨rfl, fun t => ?_⟩
  cases t <;> rfl

lemma get?_upsert_old {executions : Dict String ExecutionEvidenceSummary}
    {payload : EvidencePayload} {summary : Option String} {now : String}
    {old : ExecutionEvidenceSummary} (h : executions.get? payload.executionId = some old) :
    ∃ row, (upsertExecutionSummary executions payload summary now).get? payload.executionId =
        some row ∧ row.totalEvents = old.totalEvents + 1 ∧
      ∀ t : Tally, row.tally t = old.tally t + if t.counts payload.eventType then 1 else 0 := by
  refine ⟨_, Dict.get?_set_self _ _ _, ?_⟩
  rw [h]
  refine ⟨rfl, fun t => ?_⟩
  cases t <;> simp [ExecutionEvidenceSummary.tally, Tally.counts]

/-! ## One insertion -/

section Insertion

variable {isLetter : Char → Bool} {maxPayloadBytes : ℕ} {tables tables' : EvidenceTables}
  {event row : EvidenceEvent} {now : String}

lemma get?_insertEvent
    (h : insertEvent isLetter maxPayloadBytes tables event now = some (tables', row)) :
    (∀ executionId, event.executionId ≠ executionId →
        tables'.executions.get? executionId = tables.executions.get? executionId) ∧
      (tables.executions.get? event.executionId = none →
        ∃ s, tables'.executions.get? event.executionId = some s ∧ s.totalEvents = 1 ∧
          ∀ t, s.tally t = 0) ∧
      ∀ old, tables.executions.get? event.executionId = some old →
        ∃ s, tables'.executions.get? event.executionId = some s ∧
          s.totalEvents = old.totalEvents + 1 ∧
          ∀ t : Tally, s.tally t =
            old.tally t + if t.counts event.payload.eventType then 1 else 0 := by
  obtain ⟨metadata, summary, rfl, rfl, -⟩ := insertEvent_spec h
  exact ⟨fun executionId hne => get?_upsert_of_ne hne, fun hnew => get?_upsert_new hnew,
    fun old hold => get?_upsert_old hold⟩

lemma count_insertEvent
    (h : insertEvent isLetter maxPayloadBytes tables event now = some (tables', row))
    (executionId : String) (t : Tally) :
    tables'.count executionId t = tables.count executionId t +
      if event.executionId = executionId ∧ t.counts event.payload.eventType = true then 1
      else 0 := by
  obtain ⟨hid, htype⟩ := executionId_insertEvent h
  rw [EvidenceTables.count, eventsOf_insertEvent h, List.countP_append, EvidenceTables.count, hid]
  by_cases heq : event.executionId = executionId
  · simp [heq, htype, List.countP_singleton]
  · simp [heq]

lemma Totalled.insertEvent (htotals : Totalled tables)
    (h : insertEvent isLetter maxPayloadBytes tables event now = some (tables', row)) :
    Totalled tables' := by
  intro executionId
  obtain ⟨hother, hnew, hold⟩ := get?_insertEvent h
  have hbefore := htotals executionId
  rw [eventsOf_insertEvent h, (executionId_insertEvent h).1]
  by_cases heq : event.executionId = executionId
  · subst heq
    rw [if_pos rfl, List.length_append]
    cases hget : tables.executions.get? event.executionId with
    | none =>
        obtain ⟨s, hs, htotal, -⟩ := hnew hget
        rw [hget] at hbefore
        have hempty : tables.eventsOf event.executionId = [] := hbefore
        rw [hs, hempty]
        exact htotal
    | some old =>
        obtain ⟨s, hs, htotal, -⟩ := hold old hget
        rw [hget] at hbefore
        have hlength : old.totalEvents = (tables.eventsOf event.executionId).length := hbefore
        rw [hs]
        show s.totalEvents = _
        rw [htotal, hlength]
        rfl
  · rw [if_neg heq, List.append_nil, hother executionId heq]
    exact hbefore

lemma tally_sub_insertEvent
    (h : insertEvent isLetter maxPayloadBytes tables event now = some (tables', row))
    {executionId : String} {old : ExecutionEvidenceSummary}
    (hget : tables.executions.get? executionId = some old) :
    ∃ s, tables'.executions.get? executionId = some s ∧
      ∀ t, s.tally t = tables'.count executionId t ↔ old.tally t = tables.count executionId t := by
  obtain ⟨hother, -, hold⟩ := get?_insertEvent h
  by_cases heq : event.executionId = executionId
  · subst heq
    obtain ⟨s, hs, -, htally⟩ := hold old hget
    refine ⟨s, hs, fun t => ?_⟩
    rw [htally t, count_insertEvent h]
    simp
  · refine ⟨old, (hother executionId heq).trans hget, fun t => ?_⟩
    rw [count_insertEvent h]
    simp [heq]

lemma miscounted_insertEvent
    (h : insertEvent isLetter maxPayloadBytes tables event now = some (tables', row))
    (htallied : Tallied tables') : Tallied tables := by
  intro executionId old hget t
  obtain ⟨s, hs, htally⟩ := tally_sub_insertEvent h hget
  exact (htally t).mp (htallied executionId s hs t)

/-- The counts stay right exactly where the first event of an execution is of no counted type. -/
lemma tallied_insertEvent_iff (htotals : Totalled tables) (htallied : Tallied tables)
    (h : insertEvent isLetter maxPayloadBytes tables event now = some (tables', row)) :
    Tallied tables' ↔ (tables.executions.get? event.executionId = none →
      isCounted event.payload.eventType = false) := by
  obtain ⟨hother, hnew, -⟩ := get?_insertEvent h
  constructor
  · intro htallied' hget
    obtain ⟨s, hs, -, hzero⟩ := hnew hget
    have hbefore := htotals event.executionId
    rw [hget] at hbefore
    have hempty : tables.eventsOf event.executionId = [] := hbefore
    rw [isCounted_eq_false_iff]
    intro t
    have hcount := htallied' event.executionId s hs t
    rw [hzero t, count_insertEvent h, EvidenceTables.count, hempty] at hcount
    by_contra hcounts
    rw [Bool.not_eq_false] at hcounts
    simp [hcounts] at hcount
  · intro hfirst executionId s hs t
    cases hget : tables.executions.get? executionId with
    | some old =>
        obtain ⟨s', hs', htally⟩ := tally_sub_insertEvent h hget
        obtain rfl : s' = s := Option.some.inj (hs'.symm.trans hs)
        exact (htally t).mpr (htallied executionId old hget t)
    | none =>
        by_cases heq : event.executionId = executionId
        · subst heq
          obtain ⟨s', hs', -, hzero⟩ := hnew hget
          obtain rfl : s' = s := Option.some.inj (hs'.symm.trans hs)
          have hbefore := htotals event.executionId
          rw [hget] at hbefore
          have hempty : tables.eventsOf event.executionId = [] := hbefore
          have huncounted := (isCounted_eq_false_iff _).mp (hfirst hget) t
          rw [hzero t, count_insertEvent h, EvidenceTables.count, hempty]
          simp [huncounted]
        · rw [hother executionId heq, hget] at hs
          cases hs

end Insertion

/-! ## Batches -/

section Batch

variable (isLetter : Char → Bool) (maxPayloadBytes : ℕ)

/-- `for event in events: store.append(event)`; the first call that raises ends the loop. -/
def appendEach (tables : EvidenceTables) :
    List (EvidenceEvent × String) → EvidenceTables × Option (List EvidenceEvent)
  | [] => (tables, some [])
  | (event, now) :: rest =>
      match append isLetter maxPayloadBytes tables event now with
      | (tables, none) => (tables, none)
      | (tables, some updated) =>
          let result := appendEach tables rest
          (result.1, result.2.map fun results => updated :: results)

/-- The store accepts an event: the tables can hold it, and its identity is new. -/
def Accepts (tables : EvidenceTables) (event : EvidenceEvent) : Prop :=
  storable isLetter maxPayloadBytes event = true ∧
    ∀ stored ∈ tables.events, stored.evidenceId ≠ event.evidenceId

/-- The store accepts the events of a batch one after the other. -/
def AcceptsAll (tables : EvidenceTables) (events : List (EvidenceEvent × String)) : Prop :=
  (∀ entry ∈ events, Accepts isLetter maxPayloadBytes tables entry.1) ∧
    (events.map fun entry => entry.1.evidenceId).Nodup

/-- The first event of a batch for an execution that is new is of no counted type. -/
def FirstsUncounted (tables : EvidenceTables) (events : List (EvidenceEvent × String)) : Prop :=
  ∀ before entry after, events = before ++ entry :: after →
    tables.executions.get? entry.1.executionId = none →
    (∀ earlier ∈ before, earlier.1.executionId ≠ entry.1.executionId) →
    isCounted entry.1.payload.eventType = false

variable {isLetter maxPayloadBytes}
variable {tables : EvidenceTables}

lemma accepts_iff {event : EvidenceEvent} (now : String) :
    Accepts isLetter maxPayloadBytes tables event ↔
      ∃ tables' row,
        insertEvent isLetter maxPayloadBytes tables event now = some (tables', row) := by
  rw [Accepts, ← insertEvent_isSome isLetter maxPayloadBytes tables event now,
    Option.isSome_iff_exists]
  simp

/-- After the first event, the store accepts the others where it accepted them all. -/
lemma acceptsAll_cons_iff {tables' : EvidenceTables} {event row : EvidenceEvent} {now : String}
    {rest : List (EvidenceEvent × String)}
    (h : insertEvent isLetter maxPayloadBytes tables event now = some (tables', row)) :
    AcceptsAll isLetter maxPayloadBytes tables ((event, now) :: rest) ↔
      AcceptsAll isLetter maxPayloadBytes tables' rest := by
  obtain ⟨metadata, summary, hrow, -, hstorable, hnew⟩ := insertEvent_spec h
  have hid : row.evidenceId = event.evidenceId := by rw [hrow]
  unfold AcceptsAll Accepts
  rw [events_insertEvent h, List.forall_mem_cons, List.map_cons, List.nodup_cons]
  simp only [List.forall_mem_append, List.forall_mem_singleton, List.mem_map, not_exists, not_and,
    hid]
  constructor
  · rintro ⟨⟨-, hrest⟩, hne, hnodup⟩
    exact ⟨fun entry hmem => ⟨(hrest entry hmem).1, (hrest entry hmem).2,
      fun heq => hne entry hmem heq.symm⟩, hnodup⟩
  · rintro ⟨hrest, hnodup⟩
    exact ⟨⟨⟨hstorable, hnew⟩, fun entry hmem => ⟨(hrest entry hmem).1, (hrest entry hmem).2.1⟩⟩,
      fun entry hmem heq => (hrest entry hmem).2.2 heq.symm, hnodup⟩

lemma insertEvents_isSome (events : List (EvidenceEvent × String)) :
    (insertEvents isLetter maxPayloadBytes tables events).isSome = true ↔
      AcceptsAll isLetter maxPayloadBytes tables events := by
  induction events generalizing tables with
  | nil => exact iff_of_true rfl ⟨by simp, List.nodup_nil⟩
  | cons entry rest ih =>
      obtain ⟨event, now⟩ := entry
      rw [insertEvents]
      cases hinsert : insertEvent isLetter maxPayloadBytes tables event now with
      | none =>
          refine iff_of_false (by simp) fun hall => ?_
          obtain ⟨tables', row, hsome⟩ := (accepts_iff now).mp (hall.1 _ List.mem_cons_self)
          rw [hinsert] at hsome
          cases hsome
      | some result =>
          obtain ⟨tables', row⟩ := result
          rw [acceptsAll_cons_iff hinsert, ← ih]
          simp

lemma appendEach_of_insertEvents {events : List (EvidenceEvent × String)}
    {tables' : EvidenceTables} {results : List EvidenceEvent}
    (h : insertEvents isLetter maxPayloadBytes tables events = some (tables', results)) :
    appendEach isLetter maxPayloadBytes tables events = (tables', some results) := by
  induction events generalizing tables results with
  | nil =>
      simp only [insertEvents, Option.some.injEq, Prod.mk.injEq] at h
      rw [appendEach, h.1, h.2]
  | cons entry rest ih =>
      obtain ⟨event, now⟩ := entry
      rw [insertEvents] at h
      rw [appendEach, append]
      cases hinsert : insertEvent isLetter maxPayloadBytes tables event now with
      | none =>
          rw [hinsert] at h
          cases h
      | some result =>
          obtain ⟨middle, updated⟩ := result
          simp only [hinsert, Option.map_eq_some_iff, Prod.mk.injEq, Prod.exists] at h
          obtain ⟨tables'', results', hrest, rfl, rfl⟩ := h
          simp [ih hrest]

variable (isLetter maxPayloadBytes tables) in
lemma length_appendEach (events : List (EvidenceEvent × String)) :
    tables.events.length ≤
      (appendEach isLetter maxPayloadBytes tables events).1.events.length := by
  induction events generalizing tables with
  | nil => exact le_refl _
  | cons entry rest ih =>
      obtain ⟨event, now⟩ := entry
      rw [appendEach, append]
      cases hinsert : insertEvent isLetter maxPayloadBytes tables event now with
      | none => exact le_refl _
      | some result =>
          obtain ⟨middle, updated⟩ := result
          have hlength := ih middle
          rw [events_insertEvent hinsert, List.length_append] at hlength
          exact le_trans (Nat.le_add_right _ _) hlength

/-- `append_many` is the loop exactly where the batch is accepted or its first event is refused. -/
lemma appendMany_eq_iff (events : List (EvidenceEvent × String)) :
    appendMany isLetter maxPayloadBytes tables events =
        appendEach isLetter maxPayloadBytes tables events ↔
      AcceptsAll isLetter maxPayloadBytes tables events ∨
        ∀ entry, events.head? = some entry → ¬ Accepts isLetter maxPayloadBytes tables entry.1 := by
  cases events with
  | nil => exact iff_of_true rfl (.inl ⟨by simp, List.nodup_nil⟩)
  | cons entry rest =>
      obtain ⟨event, now⟩ := entry
      rw [appendMany, List.isEmpty_cons, if_neg Bool.false_ne_true, ← insertEvents_isSome]
      cases hall : insertEvents isLetter maxPayloadBytes tables ((event, now) :: rest) with
      | some result =>
          obtain ⟨tables', results⟩ := result
          exact iff_of_true (appendEach_of_insertEvents hall).symm (.inl rfl)
      | none =>
          simp only [Option.isSome_none, Bool.false_eq_true, false_or, List.head?_cons,
            Option.some.injEq, forall_eq']
          cases hinsert : insertEvent isLetter maxPayloadBytes tables event now with
          | none =>
              refine iff_of_true ?_ fun haccepts => ?_
              · rw [appendEach, append, hinsert]
              · obtain ⟨tables', row, hsome⟩ := (accepts_iff now).mp haccepts
                rw [hinsert] at hsome
                cases hsome
          | some result =>
              obtain ⟨middle, updated⟩ := result
              refine iff_of_false (fun heq => ?_) fun hnot =>
                hnot ((accepts_iff now).mpr ⟨middle, updated, hinsert⟩)
              -- the loop has stored the first event
              have hlength := length_appendEach isLetter maxPayloadBytes middle rest
              have hsame : tables.events.length =
                  (appendEach isLetter maxPayloadBytes middle rest).1.events.length := by
                rw [appendEach, append, hinsert] at heq
                exact congrArg (fun result => result.1.events.length) heq
              rw [← hsame, events_insertEvent hinsert, List.length_append] at hlength
              simp at hlength

/-- The first event of a batch, and the others. -/
lemma firstsUncounted_cons_iff {tables' : EvidenceTables} {event row : EvidenceEvent}
    {now : String} {rest : List (EvidenceEvent × String)}
    (h : insertEvent isLetter maxPayloadBytes tables event now = some (tables', row)) :
    FirstsUncounted tables ((event, now) :: rest) ↔
      (tables.executions.get? event.executionId = none →
          isCounted event.payload.eventType = false) ∧ FirstsUncounted tables' rest := by
  obtain ⟨hother, hnew, hold⟩ := get?_insertEvent h
  have hnone : ∀ executionId, tables'.executions.get? executionId = none ↔
      tables.executions.get? executionId = none ∧ event.executionId ≠ executionId := by
    intro executionId
    by_cases heq : event.executionId = executionId
    · subst heq
      refine iff_of_false (fun hget => ?_) fun hboth => hboth.2 rfl
      cases hbefore : tables.executions.get? event.executionId with
      | none =>
          obtain ⟨s, hs, -⟩ := hnew hbefore
          rw [hs] at hget
          cases hget
      | some old =>
          obtain ⟨s, hs, -⟩ := hold old hbefore
          rw [hs] at hget
          cases hget
    · rw [hother executionId heq]
      exact (and_iff_left heq).symm
  constructor
  · intro hfirsts
    refine ⟨fun hget => hfirsts [] (event, now) rest rfl hget (by simp), ?_⟩
    intro before entry after heq hget hearlier
    obtain ⟨hget, hne⟩ := (hnone _).mp hget
    exact hfirsts ((event, now) :: before) entry after (by rw [heq]; rfl) hget
      (List.forall_mem_cons.mpr ⟨hne, hearlier⟩)
  · rintro ⟨hfirst, hrest⟩ before entry after heq hget hearlier
    cases before with
    | nil =>
        obtain ⟨rfl, -⟩ := List.cons.inj heq
        exact hfirst hget
    | cons other before =>
        obtain ⟨rfl, htail⟩ := List.cons.inj heq
        obtain ⟨hne, hearlier⟩ := List.forall_mem_cons.mp hearlier
        exact hrest before entry after htail ((hnone _).mpr ⟨hget, hne⟩) hearlier

lemma insertEvents_invariant {I : EvidenceTables → Prop}
    (hstep : ∀ {tables tables' event row now}, I tables →
      insertEvent isLetter maxPayloadBytes tables event now = some (tables', row) → I tables')
    {events : List (EvidenceEvent × String)} {tables' : EvidenceTables}
    {results : List EvidenceEvent} (hI : I tables)
    (h : insertEvents isLetter maxPayloadBytes tables events = some (tables', results)) :
    I tables' := by
  induction events generalizing tables results with
  | nil =>
      simp only [insertEvents, Option.some.injEq, Prod.mk.injEq] at h
      exact h.1 ▸ hI
  | cons entry rest ih =>
      obtain ⟨event, now⟩ := entry
      rw [insertEvents] at h
      cases hinsert : insertEvent isLetter maxPayloadBytes tables event now with
      | none =>
          rw [hinsert] at h
          cases h
      | some result =>
          obtain ⟨middle, updated⟩ := result
          simp only [hinsert, Option.map_eq_some_iff, Prod.mk.injEq, Prod.exists] at h
          obtain ⟨tables'', results', hrest, rfl, -⟩ := h
          exact ih (hstep hI hinsert) hrest

/-- After a batch, the counts are right exactly where they were and the first events for new
executions are of no counted type. -/
lemma tallied_insertEvents_iff {events : List (EvidenceEvent × String)} {tables' : EvidenceTables}
    {results : List EvidenceEvent} (htotals : Totalled tables)
    (h : insertEvents isLetter maxPayloadBytes tables events = some (tables', results)) :
    Tallied tables' ↔ Tallied tables ∧ FirstsUncounted tables events := by
  induction events generalizing tables results with
  | nil =>
      simp only [insertEvents, Option.some.injEq, Prod.mk.injEq] at h
      rw [← h.1]
      refine (and_iff_left ?_).symm
      intro before entry after heq
      cases before <;> cases heq
  | cons entry rest ih =>
      obtain ⟨event, now⟩ := entry
      rw [insertEvents] at h
      cases hinsert : insertEvent isLetter maxPayloadBytes tables event now with
      | none =>
          rw [hinsert] at h
          cases h
      | some result =>
          obtain ⟨middle, updated⟩ := result
          simp only [hinsert, Option.map_eq_some_iff, Prod.mk.injEq, Prod.exists] at h
          obtain ⟨tables'', results', hrest, rfl, -⟩ := h
          rw [ih (htotals.insertEvent hinsert) hrest, firstsUncounted_cons_iff hinsert]
          constructor
          · rintro ⟨hmiddle, hfirsts⟩
            have htallied := miscounted_insertEvent hinsert hmiddle
            exact ⟨htallied, (tallied_insertEvent_iff htotals htallied hinsert).mp hmiddle, hfirsts⟩
          · rintro ⟨htallied, hfirst, hfirsts⟩
            exact ⟨(tallied_insertEvent_iff htotals htallied hinsert).mpr hfirst, hfirsts⟩

end Batch

/-! ## Runs -/

/-- A call of the store, with the times its insertions read. -/
inductive RecordingCall where
  | append (event : EvidenceEvent) (now : String)
  | appendMany (events : List (EvidenceEvent × String))

variable (isLetter : Char → Bool) (maxPayloadBytes : ℕ)

/-- The store, driven by the calls made on it. -/
def recording : Machine EvidenceTables RecordingCall where
  step tables
    | .append event now => some (append isLetter maxPayloadBytes tables event now).1
    | .appendMany events => some (appendMany isLetter maxPayloadBytes tables events).1

/-- The summaries and the numbers agree with the events. -/
structure Summarized (tables : EvidenceTables) : Prop where
  numbered : Numbered tables
  totalled : Totalled tables
  tallied : Tallied tables

/-- A batch is the same as its events one by one. -/
def BatchIsLoop (tables : EvidenceTables) : RecordingCall → Prop
  | .append _ _ => True
  | .appendMany events =>
      appendMany isLetter maxPayloadBytes tables events =
        appendEach isLetter maxPayloadBytes tables events

/-- An accepted event for an execution that is new is of no counted type; the events of a batch
are all accepted, or the first one is refused. -/
def Countable (tables : EvidenceTables) : RecordingCall → Prop
  | .append event _ =>
      Accepts isLetter maxPayloadBytes tables event →
        tables.executions.get? event.executionId = none →
          isCounted event.payload.eventType = false
  | .appendMany events =>
      AcceptsAll isLetter maxPayloadBytes tables events ∧ FirstsUncounted tables events ∨
        ∀ entry, events.head? = some entry → ¬ Accepts isLetter maxPayloadBytes tables entry.1

variable {isLetter maxPayloadBytes}

lemma append_eq_of_not_accepts {tables : EvidenceTables} {event : EvidenceEvent} {now : String}
    (h : ¬ Accepts isLetter maxPayloadBytes tables event) :
    append isLetter maxPayloadBytes tables event now = (tables, none) := by
  cases hinsert : insertEvent isLetter maxPayloadBytes tables event now with
  | none => rw [append, hinsert]
  | some result => exact absurd ((accepts_iff now).mpr ⟨_, _, hinsert⟩) h

lemma recording_invariant {I : EvidenceTables → Prop}
    (hstep : ∀ {tables tables' event row now}, I tables →
      insertEvent isLetter maxPayloadBytes tables event now = some (tables', row) → I tables')
    {tables tables' : EvidenceTables} {call : RecordingCall} (hI : I tables)
    (h : (recording isLetter maxPayloadBytes).step tables call = some tables') : I tables' := by
  cases call with
  | append event now =>
      obtain rfl : (append isLetter maxPayloadBytes tables event now).1 = tables' :=
        Option.some.inj h
      rw [append]
      cases hinsert : insertEvent isLetter maxPayloadBytes tables event now with
      | none => exact hI
      | some result => exact hstep hI hinsert
  | appendMany events =>
      obtain rfl : (appendMany isLetter maxPayloadBytes tables events).1 = tables' :=
        Option.some.inj h
      rw [appendMany]
      split
      · exact hI
      · cases hinsert : insertEvents isLetter maxPayloadBytes tables events with
        | none => exact hI
        | some result => exact insertEvents_invariant hstep hI hinsert

lemma recording_kept {tables tables' : EvidenceTables} {call : RecordingCall}
    (hkept : Numbered tables ∧ Totalled tables)
    (h : (recording isLetter maxPayloadBytes).step tables call = some tables') :
    Numbered tables' ∧ Totalled tables' :=
  recording_invariant (I := fun tables => Numbered tables ∧ Totalled tables)
    (fun hI hinsert => ⟨hI.1.insertEvent hinsert, hI.2.insertEvent hinsert⟩) hkept h

/-- The condition is exact for one call. -/
lemma countable_iff {tables : EvidenceTables} {call : RecordingCall}
    (hkept : Numbered tables ∧ Totalled tables) (htallied : Tallied tables) :
    Countable isLetter maxPayloadBytes tables call ↔
      BatchIsLoop isLetter maxPayloadBytes tables call ∧
        ∀ tables', (recording isLetter maxPayloadBytes).step tables call = some tables' →
          Summarized tables' := by
  have hsummarized : ∀ tables',
      (recording isLetter maxPayloadBytes).step tables call = some tables' →
        (Summarized tables' ↔ Tallied tables') := fun tables' hstep =>
    ⟨fun h => h.tallied, fun h =>
      ⟨(recording_kept hkept hstep).1, (recording_kept hkept hstep).2, h⟩⟩
  cases call with
  | append event now =>
      refine Iff.trans ?_ (and_iff_right trivial).symm
      have hstep : (recording isLetter maxPayloadBytes).step tables (.append event now) =
          some (append isLetter maxPayloadBytes tables event now).1 := rfl
      simp only [hstep, Option.some.injEq, forall_eq', hsummarized _ hstep]
      cases hinsert : insertEvent isLetter maxPayloadBytes tables event now with
      | none =>
          have hnot : ¬ Accepts isLetter maxPayloadBytes tables event := fun h => by
            obtain ⟨_, _, hsome⟩ := (accepts_iff now).mp h
            rw [hinsert] at hsome
            cases hsome
          rw [append_eq_of_not_accepts hnot]
          exact iff_of_true (fun h => absurd h hnot) htallied
      | some result =>
          obtain ⟨tables', row⟩ := result
          have haccepts : Accepts isLetter maxPayloadBytes tables event :=
            (accepts_iff now).mpr ⟨_, _, hinsert⟩
          rw [append, hinsert]
          exact (forall_prop_of_true haccepts).trans
            (tallied_insertEvent_iff hkept.2 htallied hinsert).symm
  | appendMany events =>
      have hstep : (recording isLetter maxPayloadBytes).step tables (.appendMany events) =
          some (appendMany isLetter maxPayloadBytes tables events).1 := rfl
      simp only [hstep, Option.some.injEq, forall_eq', hsummarized _ hstep]
      show _ ↔ appendMany isLetter maxPayloadBytes tables events = _ ∧ _
      rw [appendMany_eq_iff, Countable]
      cases hall : insertEvents isLetter maxPayloadBytes tables events with
      | none =>
          -- the transaction is rolled back
          have hnot : ¬ AcceptsAll isLetter maxPayloadBytes tables events := by
            rw [← insertEvents_isSome, hall]
            simp
          have hsame : (appendMany isLetter maxPayloadBytes tables events).1 = tables := by
            rw [appendMany, hall]
            split <;> rfl
          rw [hsame]
          simp [hnot, htallied]
      | some result =>
          obtain ⟨tables', results⟩ := result
          have haccepts : AcceptsAll isLetter maxPayloadBytes tables events := by
            rw [← insertEvents_isSome, hall]
            rfl
          have hresult : (appendMany isLetter maxPayloadBytes tables events).1 = tables' := by
            rw [appendMany]
            cases events with
            | nil =>
                simp only [insertEvents, Option.some.injEq, Prod.mk.injEq] at hall
                exact hall.1
            | cons entry rest => rw [hall]; rfl
          rw [hresult, tallied_insertEvents_iff hkept.2 hall]
          constructor
          · rintro (⟨-, hfirsts⟩ | hrefused)
            · exact ⟨.inl haccepts, htallied, hfirsts⟩
            · refine ⟨.inl haccepts, htallied, ?_⟩
              cases events with
              | nil =>
                  intro before entry after heq
                  cases before <;> cases heq
              | cons entry rest =>
                  exact absurd (haccepts.1 entry List.mem_cons_self) (hrefused entry rfl)
          · rintro ⟨-, -, hfirsts⟩
            exact .inl ⟨haccepts, hfirsts⟩

/-- Whatever calls are made on an empty store, the summaries and the numbers agree with the events
all along and every batch is the same as its events one by one, exactly where every call is
`Countable`. -/
theorem summarized_iff (isLetter : Char → Bool) (maxPayloadBytes : ℕ)
    (calls : List RecordingCall) :
    ((recording isLetter maxPayloadBytes).Guarded (BatchIsLoop isLetter maxPayloadBytes) {} calls ∧
        ∀ made tables, made <+: calls →
          (recording isLetter maxPayloadBytes).run {} made = some tables → Summarized tables) ↔
      (recording isLetter maxPayloadBytes).Guarded (Countable isLetter maxPayloadBytes) {}
        calls := by
  have hempty : Summarized ({} : EvidenceTables) := by
    refine ⟨fun executionId => rfl, fun executionId => rfl, ?_⟩
    intro executionId row hget
    cases hget
  exact (Machine.guarded_iff_guarded_and_forall
    (I := fun tables => Numbered tables ∧ Totalled tables) _
    (fun tables call tables' hkept hstep => recording_kept hkept hstep)
    (fun tables call hkept hP => countable_iff hkept hP.tallied)
    ⟨hempty.numbered, hempty.totalled⟩ hempty).symm

/-- A retry that is the first event of its execution is not counted, and of a batch with one event
twice nothing is stored while the loop stores it once. -/
theorem not_summarized :
    let retry : EvidenceEvent :=
      ⟨"e1", { eventType := .retryScheduled, executionId := "x1", timestamp := "t1" }⟩
    (¬ ∀ made tables, made <+: [RecordingCall.append retry "t2"] →
        (recording (fun _ => false) 64000).run {} made = some tables → Summarized tables) ∧
      ¬ BatchIsLoop (fun _ => false) 64000 {} (.appendMany [(retry, "t2"), (retry, "t3")]) := by
  intro retry
  constructor
  · intro hall
    have hrun := hall [.append retry "t2"] (append (fun _ => false) 64000 {} retry "t2").1
      (List.prefix_refl _) rfl
    have hrow : (append (fun _ => false) 64000 {} retry "t2").1.executions =
        upsertExecutionSummary [] retry.payload none "t2" := by rfl
    have hcount : (append (fun _ => false) 64000 {} retry "t2").1.count "x1" .retry = 1 := by rfl
    have htally := hrun.tallied "x1" _ (by rw [hrow]; exact Dict.get?_set_self _ _ _) .retry
    rw [hcount] at htally
    exact absurd htally (by decide)
  · intro hloop
    have hlength := congrArg (fun result => result.1.events.length) hloop
    exact absurd hlength (by decide)

end Evidence

end Samaktha
