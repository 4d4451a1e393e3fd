/-
This file says what the stores keep when records are handed to them one after another: which of the
records a log accepts, and which recipients the queue file marks.
-/

import Nondelivery.Stores

namespace Nondelivery

/-- The place of a recipient in the queue file. -/
abbrev QueuePlace := QueueId × UInt64

/-- The place in the queue file that a record is about. -/
def Record.place (record : Record) : QueuePlace :=
  (record.queueId, record.offset)

namespace Logbook

/-- The append with this number is accepted. -/
def takes (logbook : Logbook) (number : Nat) : Bool :=
  !logbook.failing && !logbook.refused.contains number

/-- Of items whose records are appended one after another, those whose append is accepted. -/
def accepted {α : Type} (logbook : Logbook) (items : List α) : List α :=
  ((items.zipIdx (logbook.appends + 1)).filter fun item => logbook.takes item.2).map Prod.fst

/-- The log after records have been appended to it one after another. -/
def appendAll (records : List Record) (logbook : Logbook) : Logbook :=
  { logbook with
    records := logbook.records ++ logbook.accepted records
    appends := logbook.appends + records.length }

theorem accepted_map {α β : Type} (logbook : Logbook) (f : α → β) (items : List α) :
    logbook.accepted (items.map f) = (logbook.accepted items).map f := by
  simp only [accepted, List.zipIdx_map, List.filter_map, List.map_map]
  rfl

theorem accepted_sublist {α : Type} (logbook : Logbook) (items : List α) :
    (logbook.accepted items).Sublist items := by
  have part := List.filter_sublist (p := fun item : α × Nat => logbook.takes item.2)
    (l := items.zipIdx (logbook.appends + 1))
  simpa only [accepted, List.zipIdx_map_fst] using part.map Prod.fst

/-- The appends of later items are numbered on from those of earlier items. -/
theorem accepted_append {α : Type} (logbook : Logbook) (first second : List α)
    (records : List Record) (sameLength : records.length = first.length) :
    logbook.accepted (first ++ second) =
      logbook.accepted first ++ (logbook.appendAll records).accepted second := by
  have shift : logbook.appends + 1 + first.length = logbook.appends + records.length + 1 := by
    omega
  simp only [accepted, appendAll, List.zipIdx_append, List.filter_append, List.map_append, shift,
    takes]

theorem appendAll_append (first second : List Record) (logbook : Logbook) :
    logbook.appendAll (first ++ second) = (logbook.appendAll first).appendAll second := by
  have accepts := logbook.accepted_append first second first rfl
  have count : logbook.appends + (first ++ second).length =
      logbook.appends + first.length + second.length := by
    rw [List.length_append, Nat.add_assoc]
  simp only [appendAll, accepts, count, List.append_assoc]

@[simp] theorem accepted_nil {α : Type} (logbook : Logbook) :
    logbook.accepted ([] : List α) = [] := rfl

@[simp] theorem appendAll_nil (logbook : Logbook) : logbook.appendAll [] = logbook := by
  simp [appendAll]

/-- When all of the appends are accepted, nothing is lost. -/
theorem accepted_of_takes {α : Type} (logbook : Logbook) (items : List α)
    (takes : ∀ number, logbook.appends < number → number ≤ logbook.appends + items.length →
      logbook.takes number = true) : logbook.accepted items = items := by
  have every : ∀ item ∈ items.zipIdx (logbook.appends + 1), logbook.takes item.2 = true := by
    intro item member
    obtain ⟨above, below, _⟩ := List.mem_zipIdx member
    exact takes item.2 (by omega) (by omega)
  rw [accepted, List.filter_eq_self.mpr every, List.zipIdx_map_fst]

theorem accepted_of_failing {α : Type} (logbook : Logbook) (items : List α)
    (failing : logbook.failing = true) : logbook.accepted items = [] := by
  simp [accepted, takes, failing]

/-- The next append alone. -/
theorem accepted_singleton {α : Type} (logbook : Logbook) (item : α) :
    logbook.accepted [item] = if logbook.accepts then [item] else [] := by
  cases taken : logbook.accepts <;>
    simp_all [accepted, accepts, takes]

/-- A log takes a record in just when its next append is accepted. -/
theorem append_value (record : Record) (logbook : Logbook) :
    (logbook.append record).2 = logbook.appendAll [record] := by
  unfold append appendAll
  rw [accepted_singleton]
  split <;> simp

end Logbook

namespace QueueFile

/-- The queue file after it was told that the recipients at these places are done. -/
def markAll (places : List QueuePlace) (queueFile : QueueFile) : QueueFile :=
  if queueFile.failing then queueFile
  else { queueFile with delivered := queueFile.delivered ++ places }

/-- A failing queue file hears nothing. -/
theorem markAll_eq (places : List QueuePlace) (queueFile : QueueFile) :
    queueFile.markAll places = { queueFile with
      delivered := queueFile.delivered ++ if queueFile.failing then [] else places } := by
  rcases queueFile with ⟨delivered, failing⟩
  cases failing <;> simp [markAll]

theorem markAll_append (first second : List QueuePlace) (queueFile : QueueFile) :
    queueFile.markAll (first ++ second) = (queueFile.markAll first).markAll second := by
  cases failing : queueFile.failing <;> simp [markAll, failing]

@[simp] theorem markAll_nil (queueFile : QueueFile) : queueFile.markAll [] = queueFile := by
  simp [markAll]

theorem markDelivered_value (queueId : QueueId) (offset : UInt64) (queueFile : QueueFile) :
    (queueFile.markDelivered queueId offset).2 = queueFile.markAll [(queueId, offset)] := by
  unfold markDelivered markAll
  split <;> rfl

end QueueFile

namespace Reachable

variable {ε σ : Type}

/-- Changes the backend if it can be reached. -/
def update (change : σ → σ) (service : Reachable ε σ) : Reachable ε σ :=
  match service.outage with
  | some _ => service
  | none => { service with backend := change service.backend }

theorem call_value (service : Reachable ε σ) (operation : σ → Except ε Unit × σ) :
    (service.call operation).2 = service.update fun backend => (operation backend).2 := by
  rcases service with ⟨outage, backend⟩
  cases outage <;> rfl

/-- A change that leaves the backend alone leaves the service alone. -/
theorem update_of_unchanged (change : σ → σ) (service : Reachable ε σ)
    (unchanged : change service.backend = service.backend) : service.update change = service := by
  rcases service with ⟨outage, backend⟩
  cases outage
  · simp only [update]
    rw [unchanged]
  · rfl

theorem update_update (first second : σ → σ) (service : Reachable ε σ) :
    (service.update first).update second = service.update (second ∘ first) := by
  rcases service with ⟨outage, backend⟩
  cases outage <;> rfl

end Reachable

namespace Stores

/-- Of items whose records are appended one after another to the log for an outcome, those whose
append is accepted. While the log is cut off none is. -/
def accepted {α : Type} (stores : Stores) (outcome : Outcome) (items : List α) : List α :=
  if (stores.log outcome).outage.isSome then []
  else (stores.log outcome).backend.accepted items

/-- The queue file is within reach and takes updates. -/
def queueWorks (stores : Stores) : Bool :=
  stores.queue.outage.isNone && !stores.queue.backend.failing

/-- The stores after records have been handed to them one after another for an outcome. The queue
file hears only of those that the log has accepted. -/
def keepAll (outcome : Outcome) (records : List Record) (stores : Stores) : Stores :=
  { stores.withLog outcome ((stores.log outcome).update (Logbook.appendAll records)) with
    queue := stores.queue.update
      (QueueFile.markAll ((stores.accepted outcome records).map Record.place)) }

theorem accepted_map {α β : Type} (stores : Stores) (outcome : Outcome) (f : α → β)
    (items : List α) :
    stores.accepted outcome (items.map f) = (stores.accepted outcome items).map f := by
  unfold accepted
  split
  · rfl
  · exact Logbook.accepted_map _ f items

theorem accepted_sublist {α : Type} (stores : Stores) (outcome : Outcome) (items : List α) :
    (stores.accepted outcome items).Sublist items := by
  unfold accepted
  split
  · exact List.nil_sublist items
  · exact Logbook.accepted_sublist _ items

/-- An append either succeeds and the log takes the record in, or fails and the record is lost; the
log counts the append in both cases. -/
theorem append_cases {α : Type} (stores : Stores) (outcome : Outcome) (record : Record)
    (item : α) :
    let tried := stores.withLog outcome
      ((stores.log outcome).update (Logbook.appendAll [record]))
    (stores.accepted outcome [item] = [item] ∧ stores.append outcome record = (.ok (), tried)) ∨
      (stores.accepted outcome [item] = [] ∧
        ∃ error, stores.append outcome record = (.error error, tried)) := by
  intro tried
  have kept : (stores.append outcome record).2 = tried := by
    simp only [append, Reachable.call_value, Logbook.append_value]
    rfl
  cases reach : (stores.log outcome).outage with
  | some error =>
      refine .inr ⟨by simp [accepted, reach], error, Prod.ext ?_ kept⟩
      simp [append, Reachable.call, reach]
  | none =>
      cases taken : (stores.log outcome).backend.accepts with
      | true =>
          refine .inl ⟨by simp [accepted, reach, Logbook.accepted_singleton, taken],
            Prod.ext ?_ kept⟩
          simp [append, Reachable.call, reach, Logbook.append, taken]
      | false =>
          obtain ⟨error, refused⟩ : ∃ error, (stores.append outcome record).1 = .error error := by
            simp [append, Reachable.call, reach, Logbook.append, taken]
          exact .inr ⟨by simp [accepted, reach, Logbook.accepted_singleton, taken], error,
            Prod.ext refused kept⟩

/-- An update of the queue file succeeds just when the queue file works. -/
theorem markDelivered_cases (stores : Stores) (queueId : QueueId) (offset : UInt64) :
    let told := { stores with
      queue := stores.queue.update (QueueFile.markAll [(queueId, offset)]) }
    (stores.queueWorks = true ∧ stores.markDelivered queueId offset = (.ok (), told)) ∨
      (stores.queueWorks = false ∧
        ∃ error, stores.markDelivered queueId offset = (.error error, told)) := by
  intro told
  have kept : (stores.markDelivered queueId offset).2 = told := by
    simp only [markDelivered, Reachable.call_value, QueueFile.markDelivered_value]
    rfl
  cases reach : stores.queue.outage with
  | some error =>
      refine .inr ⟨by simp [queueWorks, reach], error, Prod.ext ?_ kept⟩
      simp [markDelivered, Reachable.call, reach]
  | none =>
      cases failing : stores.queue.backend.failing with
      | false =>
          refine .inl ⟨by simp [queueWorks, reach, failing], Prod.ext ?_ kept⟩
          simp [markDelivered, Reachable.call, reach, QueueFile.markDelivered, failing]
      | true =>
          obtain ⟨error, refused⟩ :
              ∃ error, (stores.markDelivered queueId offset).1 = .error error := by
            simp [markDelivered, Reachable.call, reach, QueueFile.markDelivered, failing]
          exact .inr ⟨by simp [queueWorks, reach, failing], error, Prod.ext refused kept⟩

@[simp] theorem queue_withLog (stores : Stores) (outcome : Outcome)
    (log : Reachable LogError Logbook) : (stores.withLog outcome log).queue = stores.queue := by
  cases outcome <;> rfl

@[simp] theorem queueWorks_withLog (stores : Stores) (outcome : Outcome)
    (log : Reachable LogError Logbook) :
    (stores.withLog outcome log).queueWorks = stores.queueWorks := by
  simp [queueWorks]

/-- The queue file hears of a record that the log has taken in. -/
theorem keepAll_taken (stores : Stores) (outcome : Outcome) (record : Record)
    (taken : stores.accepted outcome [record] = [record]) :
    let tried := stores.withLog outcome
      ((stores.log outcome).update (Logbook.appendAll [record]))
    stores.keepAll outcome [record] =
      { tried with queue := tried.queue.update (QueueFile.markAll [record.place]) } := by
  simp [keepAll, taken]

/-- The queue file does not hear of a record that the log has refused. -/
theorem keepAll_refused (stores : Stores) (outcome : Outcome) (record : Record)
    (refused : stores.accepted outcome [record] = []) :
    stores.keepAll outcome [record] =
      stores.withLog outcome ((stores.log outcome).update (Logbook.appendAll [record])) := by
  have silent : stores.queue.update (QueueFile.markAll []) = stores.queue :=
    Reachable.update_of_unchanged _ _ (QueueFile.markAll_nil _)
  rw [keepAll, refused, List.map_nil, silent]
  cases outcome <;> rfl

theorem withLog_log (stores : Stores) (outcome : Outcome) :
    stores.withLog outcome (stores.log outcome) = stores := by
  cases outcome <;> rfl

@[simp] theorem accepted_nil {α : Type} (stores : Stores) (outcome : Outcome) :
    stores.accepted outcome ([] : List α) = [] :=
  List.sublist_nil.mp (stores.accepted_sublist outcome [])

@[simp] theorem keepAll_nil (outcome : Outcome) (stores : Stores) :
    stores.keepAll outcome [] = stores := by
  have log : (stores.log outcome).update (Logbook.appendAll []) = stores.log outcome :=
    Reachable.update_of_unchanged _ _ (Logbook.appendAll_nil _)
  have queue : stores.queue.update (QueueFile.markAll []) = stores.queue :=
    Reachable.update_of_unchanged _ _ (QueueFile.markAll_nil _)
  rw [keepAll, accepted_nil, List.map_nil, queue, log, withLog_log]

@[simp] theorem log_keepAll (outcome : Outcome) (records : List Record) (stores : Stores) :
    (stores.keepAll outcome records).log outcome =
      (stores.log outcome).update (Logbook.appendAll records) := by
  cases outcome <;> rfl

/-- The log for the other outcome is left alone. -/
theorem log_keepAll_other {outcome other : Outcome} (different : other ≠ outcome)
    (records : List Record) (stores : Stores) :
    (stores.keepAll outcome records).log other = stores.log other := by
  cases outcome <;> cases other <;> first | rfl | exact absurd rfl different

@[simp] theorem queueWorks_keepAll (outcome : Outcome) (records : List Record) (stores : Stores) :
    (stores.keepAll outcome records).queueWorks = stores.queueWorks := by
  rcases stores with ⟨deferLog, bounceLog, outage, queueFile⟩
  cases outage <;> cases failing : queueFile.failing <;>
    simp [queueWorks, keepAll, Reachable.update, QueueFile.markAll, failing]

theorem accepted_append {α : Type} (stores : Stores) (outcome : Outcome) (first second : List α)
    (records : List Record) (sameLength : records.length = first.length) :
    stores.accepted outcome (first ++ second) =
      stores.accepted outcome first ++
        (stores.keepAll outcome records).accepted outcome second := by
  unfold accepted
  rw [log_keepAll, Reachable.update]
  cases reach : (stores.log outcome).outage with
  | some error => simp [reach]
  | none =>
      simpa [reach] using
        Logbook.accepted_append _ first second records sameLength

theorem keepAll_append (outcome : Outcome) (first second : List Record) (stores : Stores) :
    stores.keepAll outcome (first ++ second) =
      (stores.keepAll outcome first).keepAll outcome second := by
  have accepts := stores.accepted_append outcome first second first rfl
  have queue : stores.queue.update (QueueFile.markAll
      ((stores.accepted outcome (first ++ second)).map Record.place)) =
      (stores.queue.update (QueueFile.markAll
        ((stores.accepted outcome first).map Record.place))).update (QueueFile.markAll
          (((stores.keepAll outcome first).accepted outcome second).map Record.place)) := by
    rw [Reachable.update_update, accepts, List.map_append]
    congr 1
    funext queueFile
    exact QueueFile.markAll_append _ _ queueFile
  have log : (stores.log outcome).update (Logbook.appendAll (first ++ second)) =
      ((stores.log outcome).update (Logbook.appendAll first)).update
        (Logbook.appendAll second) := by
    rw [Reachable.update_update]
    congr 1
    funext logbook
    exact Logbook.appendAll_append first second logbook
  rw [keepAll, queue, log]
  cases outcome <;> rfl

end Stores

end Nondelivery
