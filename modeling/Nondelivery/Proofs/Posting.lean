/-
This file follows the records that reach the logs. Each of them is about one recipient that waited,
and it completes that recipient: what a call or a longer course puts on record can therefore be read
off from the ledgers before and after it.
-/

import Nondelivery.Course
import Nondelivery.Proofs.Aftermath

namespace Nondelivery

namespace Stores

/-- The records in the log for an outcome. -/
def records (stores : Stores) (outcome : Outcome) : List Record :=
  (stores.log outcome).backend.records

/-- The places that the queue file has marked. -/
def delivered (stores : Stores) : List QueuePlace :=
  stores.queue.backend.delivered

theorem records_keepAll (outcome : Outcome) (records : List Record) (stores : Stores) :
    (stores.keepAll outcome records).records outcome =
      stores.records outcome ++ stores.accepted outcome records := by
  unfold Stores.records Stores.accepted
  rw [log_keepAll, Reachable.update]
  cases (stores.log outcome).outage <;> simp [Logbook.appendAll]

theorem records_keepAll_other {outcome other : Outcome} (different : other ≠ outcome)
    (records : List Record) (stores : Stores) :
    (stores.keepAll outcome records).records other = stores.records other := by
  unfold Stores.records
  rw [log_keepAll_other different]

/-- The queue file marks all accepted recipients or, while it does not work, none. -/
theorem delivered_keepAll (outcome : Outcome) (records : List Record) (stores : Stores) :
    (stores.keepAll outcome records).delivered = stores.delivered ++
      if stores.queueWorks then (stores.accepted outcome records).map Record.place else [] := by
  have queue : (stores.keepAll outcome records).queue = stores.queue.update
      (QueueFile.markAll ((stores.accepted outcome records).map Record.place)) := rfl
  rw [delivered, delivered, queueWorks, queue, Reachable.update]
  cases stores.queue.outage with
  | some error => simp
  | none => cases failing : stores.queue.backend.failing <;> simp [QueueFile.markAll, failing]

/-- A change in the condition of the stores loses no records and adds none. -/
@[simp] theorem records_apply (stores : Stores) (condition : Condition) (outcome : Outcome) :
    (stores.apply condition).records outcome = stores.records outcome := by
  rcases condition with ⟨log | _, failing⟩ | ⟨log, number⟩ | ⟨log, outage⟩ | outage
  · cases log <;> cases outcome <;> rfl
  · cases outcome <;> rfl
  · cases log <;> cases outcome <;> rfl
  · cases log <;> cases outcome <;> rfl
  · cases outcome <;> rfl

@[simp] theorem delivered_apply (stores : Stores) (condition : Condition) :
    (stores.apply condition).delivered = stores.delivered := by
  rcases condition with ⟨log | _, failing⟩ | ⟨log, number⟩ | ⟨log, outage⟩ | outage
  · cases log <;> rfl
  · rfl
  · cases log <;> rfl
  · cases log <;> rfl
  · rfl

end Stores

/-- A record that has reached a log, with the index of the recipient that it is about. -/
structure Posting where
  outcome : Outcome
  index : Nat
  record : Record

/-- The records that have reached the log for an outcome. -/
def Outcome.posted (outcome : Outcome) (postings : List Posting) : List Record :=
  (postings.filter fun posting => posting.outcome == outcome).map Posting.record

@[simp] theorem Outcome.posted_append (outcome : Outcome) (first second : List Posting) :
    outcome.posted (first ++ second) = outcome.posted first ++ outcome.posted second := by
  simp only [posted, List.filter_append, List.map_append]

/-- Every record has reached one of the two logs. -/
theorem Outcome.posted_perm (postings : List Posting) :
    (deferred.posted postings ++ bounced.posted postings).Perm (postings.map Posting.record) := by
  have others : (postings.filter fun posting => !(posting.outcome == deferred)) =
      postings.filter fun posting => posting.outcome == bounced := by
    apply List.filter_congr
    intro posting _
    cases posting.outcome <;> rfl
  have parts := List.filter_append_perm (fun posting => posting.outcome == deferred) postings
  rw [others] at parts
  simpa only [posted, List.map_append] using parts.map Posting.record

/-- The later scene has come from the earlier one by these postings. Each of them concerns another
recipient, which waited before, and exactly these recipients are completed. -/
structure Scene.Posts (before after : Scene) (postings : List Posting) : Prop where
  records : ∀ outcome,
    after.stores.records outcome = before.stores.records outcome ++ outcome.posted postings
  waited : ∀ posting ∈ postings, ∃ recipient peer reason,
    before.attempt.request.ledger.pending? posting.index = some recipient ∧
      posting.record = before.attempt.request.record recipient peer reason
  once : (postings.map Posting.index).Nodup
  ledger : after.attempt.request.ledger =
    before.attempt.request.ledger.completeAll (postings.map Posting.index)
  queueId : after.attempt.request.queueId = before.attempt.request.queueId
  arrival : after.attempt.request.arrival = before.attempt.request.arrival
  purposes : after.attempt.request.purposes = before.attempt.request.purposes

namespace Scene.Posts

variable {before middle after : Scene} {first second postings : List Posting}

/-- Nothing is put on record as long as the logs and the recipients stay as they are. -/
theorem unchanged (records : ∀ outcome, after.stores.records outcome = before.stores.records outcome)
    (ledger : after.attempt.request.ledger = before.attempt.request.ledger)
    (queueId : after.attempt.request.queueId = before.attempt.request.queueId)
    (arrival : after.attempt.request.arrival = before.attempt.request.arrival)
    (purposes : after.attempt.request.purposes = before.attempt.request.purposes) :
    before.Posts after [] where
  records outcome := by rw [records, Outcome.posted, List.filter_nil, List.map_nil, List.append_nil]
  waited posting member := absurd member List.not_mem_nil
  once := List.nodup_nil
  ledger := ledger
  queueId := queueId
  arrival := arrival
  purposes := purposes

theorem refl (scene : Scene) : scene.Posts scene [] :=
  .unchanged (fun _ => rfl) rfl rfl rfl rfl

/-- A scene may be replaced by another one that keeps the same books. -/
theorem congr_right (posts : before.Posts middle postings) (books : after.SameBooks middle) :
    before.Posts after postings where
  records outcome := by rw [books.stores, posts.records]
  waited := posts.waited
  once := posts.once
  ledger := books.ledger.trans posts.ledger
  queueId := books.queueId.trans posts.queueId
  arrival := books.arrival.trans posts.arrival
  purposes := books.purposes.trans posts.purposes

/-- A recipient that waits after some postings waited before them, and none of them was about it. -/
theorem pending?_before (posts : before.Posts after postings) (index : Nat) (recipient : Recipient)
    (waits : after.attempt.request.ledger.pending? index = some recipient) :
    index ∉ postings.map Posting.index ∧
      before.attempt.request.ledger.pending? index = some recipient := by
  rw [posts.ledger, Ledger.pending?_completeAll] at waits
  split at waits
  · cases waits
  · exact ⟨‹_›, waits⟩

theorem record_eq (posts : before.Posts after postings) (recipient : Recipient)
    (peer reason : String) :
    after.attempt.request.record recipient peer reason =
      before.attempt.request.record recipient peer reason := by
  unfold Request.record
  rw [posts.queueId, posts.arrival, posts.purposes]

theorem trans (earlier : before.Posts middle first) (later : middle.Posts after second) :
    before.Posts after (first ++ second) where
  records outcome := by
    rw [later.records, earlier.records, Outcome.posted_append, List.append_assoc]
  waited posting member := by
    rcases List.mem_append.mp member with early | late
    · exact earlier.waited posting early
    · obtain ⟨recipient, peer, reason, waits, record⟩ := later.waited posting late
      refine ⟨recipient, peer, reason, (earlier.pending?_before _ _ waits).2, ?_⟩
      rw [record, earlier.record_eq]
  once := by
    rw [List.map_append]
    refine List.nodup_append.mpr ⟨earlier.once, later.once, ?_⟩
    intro index early other late same
    obtain ⟨posting, member, rfl⟩ := List.mem_map.mp late
    obtain ⟨recipient, _, _, waits, _⟩ := later.waited posting member
    exact (earlier.pending?_before _ _ waits).1 (same ▸ early)
  ledger := by rw [later.ledger, earlier.ledger, List.map_append, Ledger.completeAll_append]
  queueId := later.queueId.trans earlier.queueId
  arrival := later.arrival.trans earlier.arrival
  purposes := later.purposes.trans earlier.purposes

/-- The recipients that are completed afterwards are those that were completed before, and those
that the postings are about. -/
theorem isCompleted_iff (posts : before.Posts after postings) (index : Nat) :
    after.attempt.request.ledger.isCompleted index = true ↔
      before.attempt.request.ledger.isCompleted index = true ∨
        index ∈ postings.map Posting.index := by
  unfold Ledger.isCompleted
  rw [posts.ledger, Ledger.get?_completeAll]
  by_cases posted : index ∈ postings.map Posting.index
  · obtain ⟨posting, member, rfl⟩ := List.mem_map.mp posted
    obtain ⟨recipient, _, _, waits, _⟩ := posts.waited posting member
    have found := ((Ledger.pending?_eq_some _ _ _).mp waits).1
    simp [posted, found, Recipient.complete]
  · simp [posted]

/-- The postings are about the recipients that waited before and are completed afterwards. -/
theorem mem_index_iff (posts : before.Posts after postings) (index : Nat) :
    index ∈ postings.map Posting.index ↔
      before.attempt.request.ledger.isPending index = true ∧
        after.attempt.request.ledger.isCompleted index = true := by
  rw [posts.isCompleted_iff, Ledger.isPending_eq_true]
  constructor
  · intro posted
    obtain ⟨posting, member, rfl⟩ := List.mem_map.mp posted
    obtain ⟨recipient, _, _, waits, _⟩ := posts.waited posting member
    exact ⟨⟨recipient, waits⟩, .inr posted⟩
  · rintro ⟨⟨recipient, waits⟩, completed | posted⟩
    · rw [Ledger.isCompleted_of_pending _ index recipient waits] at completed
      cases completed
    · exact posted

end Scene.Posts

namespace Filing

variable (filing : Filing) (scene : Scene)

/-- What a filing puts in its log. -/
def postings : List Posting :=
  (filing.accepted scene.stores).map fun entry =>
    ⟨filing.outcome, entry.1, filing.record scene.attempt.request entry⟩

theorem postings_index : (filing.postings scene).map Posting.index =
    (filing.accepted scene.stores).map Prod.fst := by
  simp only [postings, List.map_map]
  rfl

theorem postings_record : (filing.postings scene).map Posting.record =
    scene.stores.accepted filing.outcome
      (filing.entries.map (filing.record scene.attempt.request)) := by
  rw [Stores.accepted_map, postings, List.map_map]
  rfl

/-- All postings of a filing are in the log for its outcome. -/
theorem posted_postings (outcome : Outcome) : outcome.posted (filing.postings scene) =
    if outcome = filing.outcome then (filing.postings scene).map Posting.record else [] := by
  have all : ∀ posting ∈ filing.postings scene, posting.outcome = filing.outcome := by
    intro posting member
    obtain ⟨entry, _, rfl⟩ := List.mem_map.mp member
    rfl
  unfold Outcome.posted
  split
  · rw [List.filter_eq_self.mpr]
    intro posting member
    rw [all posting member, beq_iff_eq]
    exact Eq.symm ‹_›
  · rw [List.filter_eq_nil_iff.mpr, List.map_nil]
    intro posting member
    rw [all posting member, beq_iff_eq]
    exact Ne.symm ‹_›

/-- A filing for recipients that wait comes to its postings. -/
theorem posts (waiting : filing.entries.Sublist scene.attempt.request.ledger.pending) :
    scene.Posts (scene.file filing) (filing.postings scene) where
  records outcome := by
    rw [posted_postings]
    split
    · rename_i same
      rw [postings_record, same]
      exact Stores.records_keepAll _ _ scene.stores
    · rw [List.append_nil]
      exact Stores.records_keepAll_other ‹_› _ scene.stores
  waited posting member := by
    obtain ⟨entry, accepted, rfl⟩ := List.mem_map.mp member
    have waits := waiting.subset ((scene.stores.accepted_sublist _ _).subset accepted)
    exact ⟨entry.2, filing.peer, filing.reason, (Ledger.mem_pending _ _ _).mp waits, rfl⟩
  once := by
    rw [postings_index]
    have part := (scene.stores.accepted_sublist filing.outcome filing.entries).trans waiting
    exact (Ledger.pendingIndices_nodup _).sublist (part.map Prod.fst)
  ledger := by
    rw [postings_index]
    rfl
  queueId := rfl
  arrival := rfl
  purposes := rfl

/-- The queue file hears of all postings of a filing or, while it does not work, of none. -/
theorem delivered_file : (scene.file filing).stores.delivered = scene.stores.delivered ++
    if scene.stores.queueWorks then
      (filing.postings scene).map fun posting => posting.record.place
    else [] := by
  have places : (filing.postings scene).map (fun posting => posting.record.place) =
      (scene.stores.accepted filing.outcome
        (filing.entries.map (filing.record scene.attempt.request))).map Record.place := by
    rw [← postings_record, List.map_map]
    rfl
  rw [places]
  exact Stores.delivered_keepAll _ _ scene.stores

end Filing

namespace Policy

variable (policy : Policy) (trouble : Trouble) (scene : Scene)

/-- What trouble puts in the logs. -/
def postings : List Posting :=
  (policy.filingFor scene trouble).elim [] fun filing => filing.postings scene

/-- Whatever trouble is handled, the scene comes to its postings. -/
theorem handle_posts :
    scene.Posts (policy.handle trouble scene).value.scene (policy.postings trouble scene) := by
  have books := policy.handle_sameBooks trouble scene
  unfold postings
  cases filed : policy.filingFor scene trouble with
  | none =>
      rw [filed] at books
      exact (Scene.Posts.refl scene).congr_right books
  | some filing =>
      rw [filed] at books
      exact (filing.posts scene (policy.filingFor_entries trouble scene filing filed)).congr_right
        books

/-- The queue file hears of a record only after the record is in a log. -/
theorem delivered_handle :
    (policy.handle trouble scene).value.scene.stores.delivered = scene.stores.delivered ++
      if scene.stores.queueWorks then
        (policy.postings trouble scene).map fun posting => posting.record.place
      else [] := by
  rw [(policy.handle_sameBooks trouble scene).stores, postings]
  cases policy.filingFor scene trouble with
  | none =>
      rw [Option.elim_none, List.map_nil, ite_self, List.append_nil]
      rfl
  | some filing => exact filing.delivered_file scene

end Policy

end Nondelivery
