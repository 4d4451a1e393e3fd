/-
This file looks into the calls of an attempt, at the exchanges with the stores of which they are
made. A record is offered to its log, and the queue file is told only once the log has taken it.
What an attempt reports as refused in the end is just what was refused in one of these exchanges.
-/

import Mathlib.Data.List.Nodup
import Nondelivery.Proofs.Undone

namespace Nondelivery

/-- One exchange with the stores about the outcome of a recipient. -/
structure Exchange where
  outcome : Outcome
  /-- The index of the recipient. -/
  index : Nat
  record : Record
  /-- How the stores have answered. -/
  result : Except RecordingError Unit

namespace Exchange

/-- The log has refused the record. -/
def isRefused (exchange : Exchange) : Bool :=
  match exchange.result with
  | .error (.log _) => true
  | .error (.queue _) => false
  | .ok () => false

/-- The log has taken the record, but the queue file has refused the update. -/
def isUntold (exchange : Exchange) : Bool :=
  match exchange.result with
  | .error (.log _) => false
  | .error (.queue _) => true
  | .ok () => false

/-- What the exchange puts in a log unless it is refused. -/
def posting (exchange : Exchange) : Posting :=
  ⟨exchange.outcome, exchange.index, exchange.record⟩

theorem isOk_eq (exchange : Exchange) :
    exchange.result.isOk = (!exchange.isRefused && !exchange.isUntold) := by
  rcases exchange with ⟨outcome, index, record, (log | queue) | done⟩ <;> rfl

end Exchange

namespace Stores

/-- Offers a record to the log for an outcome and tells the queue file once the log has it. -/
def keep (stores : Stores) (outcome : Outcome) (record : Record) :
    Except RecordingError Unit × Stores :=
  match stores.append outcome record with
  | (.error error, after) => (.error (.log error), after)
  | (.ok (), after) =>
      match after.markDelivered record.queueId record.offset with
      | (.error error, after) => (.error (.queue error), after)
      | (.ok (), after) => (.ok (), after)

/-- An outcome is put on record for a recipient that waits by one exchange. -/
theorem dispose_keep (stores : Stores) (softBounce : Bool) (outcome : Outcome) (request : Request)
    (index : Nat) (peer reason : String) (recipient : Recipient)
    (waits : request.ledger.pending? index = some recipient) :
    let record := request.record recipient peer reason
    let kept := stores.keep (outcome.soften softBounce) record
    let exchange : Exchange := ⟨outcome.soften softBounce, index, record, kept.1⟩
    (stores.dispose softBounce outcome request index peer reason).value =
      ⟨if exchange.isRefused then request else request.complete index, kept.2,
        { logFailed := exchange.isRefused, queueFailed := exchange.isUntold }⟩ := by
  intro record
  rcases appended : stores.append (outcome.soften softBounce) record with ⟨error | taken, after⟩
  · have kept : stores.keep (outcome.soften softBounce) record = (.error (.log error), after) := by
      rw [keep, appended]
    simp only [dispose, waits, record, appended, kept]
    rfl
  · rcases told : after.markDelivered request.queueId recipient.offset with ⟨error | told, final⟩
    · have kept : stores.keep (outcome.soften softBounce) record =
          (.error (.queue error), final) := by
        have toldOf : after.markDelivered record.queueId record.offset = _ := told
        simp only [keep, appended, toldOf]
      simp only [dispose, waits, record, appended, kept, settle, told]
      rfl
    · have kept : stores.keep (outcome.soften softBounce) record = (.ok (), final) := by
        have toldOf : after.markDelivered record.queueId record.offset = _ := told
        simp only [keep, appended, toldOf]
      simp only [dispose, waits, record, appended, kept, settle, told]
      rfl

/-- The later stores have come from the earlier ones by these exchanges, one after the other. -/
inductive Exchanges : Stores → List Exchange → Stores → Prop where
  | nil (stores : Stores) : Exchanges stores [] stores
  | cons {before middle after : Stores} {exchange : Exchange} {rest : List Exchange}
      (first : before.keep exchange.outcome exchange.record = (exchange.result, middle))
      (others : Exchanges middle rest after) : Exchanges before (exchange :: rest) after

/-- Exchanges may follow one another. -/
theorem Exchanges.append {before middle after : Stores} {first second : List Exchange}
    (leads : before.Exchanges first middle) (continues : middle.Exchanges second after) :
    before.Exchanges (first ++ second) after := by
  induction leads with
  | nil stores => exact continues
  | cons kept others ih => exact .cons kept (ih continues)

/-- The exchanges about several records, which are given with the indices of their recipients. -/
def exchanges (outcome : Outcome) : List (Nat × Record) → Stores → List Exchange
  | [], _ => []
  | (index, record) :: rest, stores =>
      ⟨outcome, index, record, (stores.keep outcome record).1⟩ ::
        exchanges outcome rest (stores.keep outcome record).2

/-- The log takes a record, and then the queue file hears of it if it works, or refuses it. -/
theorem keep_cases {α : Type} (stores : Stores) (outcome : Outcome) (record : Record) (item : α) :
    (stores.keep outcome record).2 = stores.keepAll outcome [record] ∧
      ((stores.accepted outcome [item] = [item] ∧ stores.queueWorks = true ∧
          (stores.keep outcome record).1 = .ok ()) ∨
        (stores.accepted outcome [item] = [item] ∧ stores.queueWorks = false ∧
          ∃ error, (stores.keep outcome record).1 = .error (.queue error)) ∨
        (stores.accepted outcome [item] = [] ∧
          ∃ error, (stores.keep outcome record).1 = .error (.log error))) := by
  -- The log judges the record just as it judges any other item.
  have judged := stores.accepted_map outcome (fun _ => record) [item]
  rcases stores.append_cases outcome record item with
    ⟨taken, appended⟩ | ⟨refused, error, appended⟩
  · rw [taken] at judged
    have kept := stores.keepAll_taken outcome record judged
    rcases markDelivered_cases
        (stores.withLog outcome ((stores.log outcome).update (Logbook.appendAll [record])))
        record.queueId record.offset with
      ⟨works, told⟩ | ⟨broken, error, told⟩
    · rw [queueWorks_withLog] at works
      refine ⟨?_, .inl ⟨taken, works, ?_⟩⟩ <;> simp only [keep, appended, told]
      exact kept.symm
    · rw [queueWorks_withLog] at broken
      refine ⟨?_, .inr (.inl ⟨taken, broken, error, ?_⟩)⟩ <;> simp only [keep, appended, told]
      exact kept.symm
  · rw [refused] at judged
    have kept := stores.keepAll_refused outcome record judged
    rw [keep, appended]
    exact ⟨kept.symm, .inr (.inr ⟨refused, error, rfl⟩)⟩

theorem keep_stores (stores : Stores) (outcome : Outcome) (record : Record) :
    (stores.keep outcome record).2 = stores.keepAll outcome [record] :=
  (stores.keep_cases outcome record ()).1

variable (outcome : Outcome) (items : List (Nat × Record)) (stores : Stores)

theorem exchanges_cons (index : Nat) (record : Record) (rest : List (Nat × Record)) :
    exchanges outcome ((index, record) :: rest) stores =
      ⟨outcome, index, record, (stores.keep outcome record).1⟩ ::
        exchanges outcome rest (stores.keepAll outcome [record]) := by
  rw [← keep_stores]
  rfl

theorem exchanges_index :
    (exchanges outcome items stores).map Exchange.index = items.map Prod.fst := by
  induction items generalizing stores with
  | nil => rfl
  | cons item rest ih => exact congrArg (List.cons item.1) (ih _)

/-- Every exchange is about one of the records. -/
theorem mem_of_mem_exchanges (exchange : Exchange)
    (member : exchange ∈ exchanges outcome items stores) :
    (exchange.index, exchange.record) ∈ items := by
  induction items generalizing stores with
  | nil => exact absurd member List.not_mem_nil
  | cons item rest ih =>
      rcases List.mem_cons.mp member with rfl | later
      · exact List.mem_cons_self
      · exact List.mem_cons_of_mem item (ih _ later)

/-- The exchanges that are not refused put the accepted records in the log. -/
theorem exchanges_accepted :
    ((exchanges outcome items stores).filter fun exchange => !exchange.isRefused).map
        Exchange.posting =
      (stores.accepted outcome items).map fun item => ⟨outcome, item.1, item.2⟩ := by
  induction items generalizing stores with
  | nil => rw [accepted_nil]; rfl
  | cons item rest ih =>
      obtain ⟨index, record⟩ := item
      have parts : stores.accepted outcome ((index, record) :: rest) = _ :=
        stores.accepted_append outcome [(index, record)] rest [record] rfl
      rw [exchanges_cons, List.filter_cons, parts, List.map_append, ← ih]
      rcases (stores.keep_cases outcome record (index, record)).2 with
        ⟨taken, _, result⟩ | ⟨taken, _, error, result⟩ | ⟨refused, error, result⟩
      · rw [taken]
        simp [Exchange.isRefused, Exchange.posting, result]
      · rw [taken]
        simp [Exchange.isRefused, Exchange.posting, result]
      · rw [refused]
        simp [Exchange.isRefused, result]

/-- What the log has taken stays untold just when the queue file does not work. -/
theorem exchanges_isUntold :
    ∀ exchange ∈ exchanges outcome items stores,
      exchange.isUntold = (!exchange.isRefused && !stores.queueWorks) := by
  induction items generalizing stores with
  | nil => exact fun _ member => absurd member List.not_mem_nil
  | cons item rest ih =>
      obtain ⟨index, record⟩ := item
      have others := ih (stores.keepAll outcome [record])
      rw [queueWorks_keepAll] at others
      rw [exchanges_cons, List.forall_mem_cons]
      refine ⟨?_, others⟩
      rcases (stores.keep_cases outcome record ()).2 with
        ⟨_, works, result⟩ | ⟨_, broken, error, result⟩ | ⟨_, error, result⟩
      · simp [Exchange.isRefused, Exchange.isUntold, result, works]
      · simp [Exchange.isRefused, Exchange.isUntold, result, broken]
      · simp [Exchange.isRefused, Exchange.isUntold, result]

end Stores

/-- The later scene has come from the earlier one by these exchanges, each of them about another
recipient, which waited before. A recipient whose record is refused waits on, and no record of it is
kept; any other one is completed. The queue file has heard of those for which all went well. -/
structure Scene.Exchanged (before after : Scene) (exchanges : List Exchange) : Prop where
  stores : before.stores.Exchanges exchanges after.stores
  once : (exchanges.map Exchange.index).Nodup
  recipients : ∀ exchange ∈ exchanges, ∃ recipient peer reason,
    before.attempt.request.ledger.pending? exchange.index = some recipient ∧
      exchange.record = before.attempt.request.record recipient peer reason ∧
      after.attempt.request.ledger.get? exchange.index =
        some (if exchange.isRefused then recipient else recipient.complete)
  records : ∀ outcome, after.stores.records outcome = before.stores.records outcome ++
    outcome.posted ((exchanges.filter fun exchange => !exchange.isRefused).map Exchange.posting)
  delivered : after.stores.delivered = before.stores.delivered ++
    (exchanges.filter fun exchange => exchange.result.isOk).map
      fun exchange => exchange.record.place

namespace Scene.Exchanged

variable {before middle after : Scene} {exchanges : List Exchange}

theorem refl (scene : Scene) : scene.Exchanged scene [] where
  stores := .nil scene.stores
  once := List.nodup_nil
  recipients _ member := absurd member List.not_mem_nil
  records _ := (List.append_nil _).symm
  delivered := (List.append_nil _).symm

/-- A scene may be replaced by another one that keeps the same books. -/
theorem congr_right (exchanged : before.Exchanged middle exchanges)
    (books : after.SameBooks middle) : before.Exchanged after exchanges where
  stores := by rw [books.stores]; exact exchanged.stores
  once := exchanged.once
  recipients := by rw [books.ledger]; exact exchanged.recipients
  records := by rw [books.stores]; exact exchanged.records
  delivered := by rw [books.stores]; exact exchanged.delivered

end Scene.Exchanged

namespace Scene

variable (softBounce : Bool) (outcome : Outcome) (peer reason : String)

/-- The exchange by which an outcome is put on record for the recipient at an index, if it waits. -/
def exchange? (scene : Scene) (index : Nat) : Option Exchange :=
  (scene.attempt.request.ledger.pending? index).map fun recipient =>
    let record := scene.attempt.request.record recipient peer reason
    ⟨outcome.soften softBounce, index, record,
      (scene.stores.keep (outcome.soften softBounce) record).1⟩

/-- The exchanges that are made while an outcome is recorded for several recipients in turn. -/
def exchangesAlong : List Nat → Scene → List Exchange
  | [], _ => []
  | index :: indices, scene =>
      (scene.exchange? softBounce outcome peer reason index).toList ++
        exchangesAlong indices (scene.dispose softBounce outcome peer reason index).value

/-- What is recorded for one recipient is recorded by its exchange. -/
theorem dispose_exchanges (scene : Scene) (index : Nat) :
    scene.stores.Exchanges (scene.exchange? softBounce outcome peer reason index).toList
      (scene.dispose softBounce outcome peer reason index).value.stores := by
  unfold exchange?
  cases waits : scene.attempt.request.ledger.pending? index with
  | none =>
      rw [scene.dispose_completed softBounce outcome peer reason index waits]
      exact .nil scene.stores
  | some recipient =>
      have kept := scene.stores.dispose_keep softBounce outcome scene.attempt.request index peer
        reason recipient waits
      have leads : (scene.dispose softBounce outcome peer reason index).value.stores =
          (scene.stores.keep (outcome.soften softBounce)
            (scene.attempt.request.record recipient peer reason)).2 :=
        congrArg Disposal.stores kept
      rw [leads]
      exact .cons rfl (.nil _)

/-- What is recorded for several recipients in turn is recorded by the exchanges along the way. -/
theorem foldl_dispose_exchanges (indices : List Nat) (scene : Scene) :
    scene.stores.Exchanges (exchangesAlong softBounce outcome peer reason indices scene)
      (indices.foldl (fun scene index =>
        (scene.dispose softBounce outcome peer reason index).value) scene).stores := by
  induction indices generalizing scene with
  | nil => exact .nil scene.stores
  | cons index rest ih =>
      have first := scene.dispose_exchanges softBounce outcome peer reason index
      exact first.append (ih (scene.dispose softBounce outcome peer reason index).value)

end Scene

namespace Filing

variable (filing : Filing) (scene : Scene)

/-- The exchanges of which a filing consists. -/
def exchanges : List Exchange :=
  Stores.exchanges filing.outcome
    (filing.entries.map fun entry => (entry.1, filing.record scene.attempt.request entry))
    scene.stores

theorem exchanges_index : (filing.exchanges scene).map Exchange.index =
    filing.entries.map Prod.fst := by
  rw [exchanges, Stores.exchanges_index, List.map_map]
  rfl

theorem length_exchanges : (filing.exchanges scene).length = filing.entries.length := by
  simpa only [List.length_map] using congrArg List.length (filing.exchanges_index scene)

theorem exchanges_accepted :
    ((filing.exchanges scene).filter fun exchange => !exchange.isRefused).map Exchange.posting =
      filing.postings scene := by
  rw [exchanges, Stores.exchanges_accepted, Stores.accepted_map, List.map_map]
  rfl

/-- The walk through the recipients of a filing makes just the exchanges of the filing. -/
theorem exchangesAlong_eq (softBounce : Bool) (outcome : Outcome) (peer reason : String)
    (entries : List (Nat × Recipient)) (scene : Scene)
    (waiting : ∀ entry ∈ entries, scene.attempt.request.ledger.pending? entry.1 = some entry.2)
    (once : (entries.map Prod.fst).Nodup) :
    Scene.exchangesAlong softBounce outcome peer reason (entries.map Prod.fst) scene =
      Filing.exchanges ⟨outcome.soften softBounce, peer, reason, entries⟩ scene := by
  induction entries generalizing scene with
  | nil => rfl
  | cons entry rest ih =>
      obtain ⟨index, recipient⟩ := entry
      simp only [List.map_cons, List.nodup_cons] at once
      have waits := waiting (index, recipient) List.mem_cons_self
      have others := scene.waiting_file (outcome.soften softBounce) peer reason index recipient rest
        (fun other member => waiting other (List.mem_cons_of_mem _ member)) once.1
      rw [List.map_cons, Scene.exchangesAlong,
        scene.dispose_waiting softBounce outcome peer reason index recipient waits,
        ih _ others once.2, Scene.exchange?, waits]
      exact (Stores.exchanges_cons _ scene.stores index _ _).symm

/-- A filing for recipients that wait is the walk through them, and its exchanges are those that are
made on the way. -/
theorem exchanges_file
    (waiting : ∀ entry ∈ filing.entries,
      scene.attempt.request.ledger.pending? entry.1 = some entry.2)
    (once : (filing.entries.map Prod.fst).Nodup) :
    scene.stores.Exchanges (filing.exchanges scene) (scene.file filing).stores := by
  have walked := Scene.foldl_dispose_exchanges false filing.outcome filing.peer filing.reason
    (filing.entries.map Prod.fst) scene
  have settled : filing.outcome.soften false = filing.outcome := by
    cases filing.outcome <;> rfl
  rwa [exchangesAlong_eq false filing.outcome _ _ _ scene waiting once,
    Scene.foldl_dispose false filing.outcome _ _ _ scene waiting once, settled] at walked

/-- What the log has taken stays untold just when the queue file does not work. -/
theorem exchanges_isUntold : ∀ exchange ∈ filing.exchanges scene,
    exchange.isUntold = (!exchange.isRefused && !scene.stores.queueWorks) :=
  Stores.exchanges_isUntold _ _ _

/-- The queue file hears of the exchanges that are not refused or, while it fails, of none. -/
theorem exchanges_delivered : (scene.file filing).stores.delivered = scene.stores.delivered ++
    ((filing.exchanges scene).filter fun exchange => exchange.result.isOk).map
      fun exchange => exchange.record.place := by
  have told : ((filing.exchanges scene).filter fun exchange => exchange.result.isOk) =
      (filing.exchanges scene).filter
        fun exchange => !exchange.isRefused && scene.stores.queueWorks := by
    apply List.filter_congr
    intro exchange member
    rw [exchange.isOk_eq, filing.exchanges_isUntold scene exchange member]
    cases exchange.isRefused <;> cases scene.stores.queueWorks <;> rfl
  rw [delivered_file, ← exchanges_accepted, told, List.map_map]
  cases scene.stores.queueWorks with
  | true => simp only [if_true, Bool.and_true]; rfl
  | false => simp

/-- A recipient is completed just when the log has taken its record. -/
theorem exchanges_completed (once : (filing.entries.map Prod.fst).Nodup) (exchange : Exchange)
    (member : exchange ∈ filing.exchanges scene) :
    exchange.index ∈ (filing.accepted scene.stores).map Prod.fst ↔ exchange.isRefused = false := by
  rw [← postings_index, ← exchanges_accepted, List.map_map]
  constructor
  · intro accepted
    obtain ⟨other, taken, same⟩ := List.mem_map.mp accepted
    obtain ⟨among, unrefused⟩ := List.mem_filter.mp taken
    rw [← exchanges_index filing scene] at once
    obtain rfl : other = exchange := List.inj_on_of_nodup_map once among member same
    simpa using unrefused
  · intro unrefused
    have taken : exchange ∈ (filing.exchanges scene).filter fun exchange => !exchange.isRefused :=
      List.mem_filter.mpr ⟨member, by rw [unrefused]; rfl⟩
    exact List.mem_map_of_mem taken

/-- An exchange of a filing is about a recipient that waits, and completes it unless it is refused. -/
theorem exchanges_recipient
    (waiting : ∀ entry ∈ filing.entries,
      scene.attempt.request.ledger.pending? entry.1 = some entry.2)
    (once : (filing.entries.map Prod.fst).Nodup) (exchange : Exchange)
    (member : exchange ∈ filing.exchanges scene) : ∃ recipient,
      scene.attempt.request.ledger.pending? exchange.index = some recipient ∧
        exchange.record = scene.attempt.request.record recipient filing.peer filing.reason ∧
        (scene.file filing).attempt.request.ledger.get? exchange.index =
          some (if exchange.isRefused then recipient else recipient.complete) := by
  obtain ⟨entry, among, same⟩ :=
    List.mem_map.mp (Stores.mem_of_mem_exchanges _ _ _ exchange member)
  obtain ⟨index, record⟩ := Prod.mk.inj same
  have pending := waiting entry among
  rw [index] at pending
  have found := ((Ledger.pending?_eq_some _ _ _).mp pending).1
  have completed := filing.exchanges_completed scene once exchange member
  refine ⟨entry.2, pending, record.symm, ?_⟩
  rw [Scene.file, Ledger.get?_completeAll, found]
  cases refused : exchange.isRefused <;> simp [completed, refused]

/-- A filing for recipients that wait comes about by its exchanges. -/
theorem exchanged (waiting : filing.entries.Sublist scene.attempt.request.ledger.pending) :
    scene.Exchanged (scene.file filing) (filing.exchanges scene) := by
  have once : (filing.entries.map Prod.fst).Nodup :=
    (Ledger.pendingIndices_nodup _).sublist (waiting.map Prod.fst)
  have waits : ∀ entry ∈ filing.entries,
      scene.attempt.request.ledger.pending? entry.1 = some entry.2 := by
    intro entry among
    exact (Ledger.mem_pending _ _ _).mp (waiting.subset among)
  constructor
  case stores => exact filing.exchanges_file scene waits once
  case once =>
    rw [exchanges_index]
    exact once
  case recipients =>
    intro exchange member
    obtain ⟨recipient, pending, record, later⟩ :=
      filing.exchanges_recipient scene waits once exchange member
    exact ⟨recipient, filing.peer, filing.reason, pending, record, later⟩
  case records =>
    intro outcome
    rw [exchanges_accepted]
    exact (filing.posts scene waiting).records outcome
  case delivered => exact filing.exchanges_delivered scene

/-- A refused record leaves something undone. -/
theorem logFailed_eq :
    (filing.shortfall scene.stores).logFailed =
      (filing.exchanges scene).any Exchange.isRefused := by
  have count := congrArg List.length (filing.exchanges_accepted scene)
  simp only [List.length_map, postings] at count
  rw [shortfall, ← count, ← filing.length_exchanges scene, Bool.eq_iff_iff, decide_eq_true_iff,
    List.length_filter_lt_length_iff_exists, List.any_eq_true]
  simp

/-- An accepted record that the queue file does not hear of leaves something undone. -/
theorem queueFailed_eq :
    (filing.shortfall scene.stores).queueFailed =
      (filing.exchanges scene).any Exchange.isUntold := by
  have untold := filing.exchanges_isUntold scene
  have taken : (filing.accepted scene.stores).isEmpty =
      ((filing.exchanges scene).filter fun exchange => !exchange.isRefused).isEmpty := by
    have same := congrArg List.isEmpty (filing.exchanges_accepted scene)
    simpa only [List.isEmpty_map, postings] using same.symm
  rw [shortfall, taken]
  apply Bool.eq_iff_iff.mpr
  simp only [Bool.and_eq_true, Bool.not_eq_true', List.isEmpty_eq_false_iff_exists_mem,
    List.mem_filter, List.any_eq_true]
  constructor
  · rintro ⟨⟨exchange, member, accepted⟩, broken⟩
    exact ⟨exchange, member, by rw [untold exchange member, accepted, broken]; rfl⟩
  · rintro ⟨exchange, member, missed⟩
    rw [untold exchange member, Bool.and_eq_true, Bool.not_eq_true', Bool.not_eq_true'] at missed
    exact ⟨⟨exchange, member, missed.1⟩, missed.2⟩

end Filing

namespace Policy

variable (policy : Policy)

/-- The exchanges with the stores that a call makes. -/
def exchanges (call : Call) : List Exchange :=
  (policy.filingFor call.scene call.trouble).elim [] fun filing => filing.exchanges call.scene

variable (call : Call)

/-- Every call comes to its exchanges. -/
theorem handle_exchanged : call.scene.Exchanged
    (policy.handle call.trouble call.scene).value.scene (policy.exchanges call) := by
  have books := policy.handle_sameBooks call.trouble call.scene
  unfold exchanges
  cases filed : policy.filingFor call.scene call.trouble with
  | none =>
      rw [filed] at books
      exact (Scene.Exchanged.refl call.scene).congr_right books
  | some filing =>
      rw [filed] at books
      have waiting := policy.filingFor_entries call.trouble call.scene filing filed
      exact (filing.exchanged call.scene waiting).congr_right books

/-- What a call reports as refused was refused in one of its exchanges, and conversely. -/
theorem undone_failed :
    (policy.undone call.trouble call.scene).logFailed =
        (policy.exchanges call).any Exchange.isRefused ∧
      (policy.undone call.trouble call.scene).queueFailed =
        (policy.exchanges call).any Exchange.isUntold := by
  unfold undone exchanges
  cases leaves : call.scene.leaves call.trouble with
  | true =>
      rw [policy.filingFor_of_leaves call.trouble call.scene leaves]
      exact ⟨rfl, rfl⟩
  | false =>
      cases policy.filingFor call.scene call.trouble with
      | none => exact ⟨rfl, rfl⟩
      | some filing =>
          exact ⟨filing.logFailed_eq call.scene, filing.queueFailed_eq call.scene⟩

/-- What a course reports as refused was refused in an exchange of one of its calls. -/
theorem undoneIn_failed (moves : List Move) (scene : Scene) :
    (Shortfall.unionAll (policy.undoneIn moves scene)).logFailed =
        ((policy.calls moves scene).any fun call =>
          (policy.exchanges call).any Exchange.isRefused) ∧
      (Shortfall.unionAll (policy.undoneIn moves scene)).queueFailed =
        ((policy.calls moves scene).any fun call =>
          (policy.exchanges call).any Exchange.isUntold) := by
  rw [Shortfall.logFailed_unionAll, Shortfall.queueFailed_unionAll, undoneIn, List.any_map,
    List.any_map]
  constructor <;> congr 1 <;> funext call
  · exact (policy.undone_failed call).1
  · exact (policy.undone_failed call).2

/-- Within an attempt a failure that has been reported is never taken back. -/
theorem run_failed_persists (earlier later : List Move) (scene : Scene)
    (oneAttempt : ∀ session, Move.retry session ∉ later) :
    let early := (policy.run earlier scene).attempt.state.shortfall
    let late := (policy.run (earlier ++ later) scene).attempt.state.shortfall
    (early.logFailed = true → late.logFailed = true) ∧
      (early.queueFailed = true → late.queueFailed = true) := by
  have added := policy.run_shortfall later (policy.run earlier scene) oneAttempt
  rw [← run_append] at added
  intro early late
  refine ⟨fun reported => ?_, fun reported => ?_⟩
  · rw [show late = _ from added, Shortfall.union]
    exact Bool.or_eq_true_iff.mpr (.inl reported)
  · rw [show late = _ from added, Shortfall.union]
    exact Bool.or_eq_true_iff.mpr (.inl reported)

end Policy

/-- The failures that an attempt reports are those that have happened. It reports that a log failed
just when in one of its calls a log refused a record, whose recipient then waits on, and that the
queue file failed just when in one of its calls a record was taken that the queue file did not hear
of, whose recipient is then completed. Whatever happens later, neither report is taken back. -/
theorem failures_are_reported (policy : Policy) (request : Request) (session : Option Session)
    (stores : Stores) (moves : List Move) (oneAttempt : ∀ other, Move.retry other ∉ moves) :
    let start : Scene := ⟨⟨request, session, .fresh⟩, stores⟩
    let calls := policy.calls moves start
    let reported := (policy.run moves start).attempt.state.shortfall
    (reported.logFailed = true ↔
      ∃ call ∈ calls, ∃ exchange ∈ policy.exchanges call, exchange.isRefused = true) ∧
    (reported.queueFailed = true ↔
      ∃ call ∈ calls, ∃ exchange ∈ policy.exchanges call, exchange.isUntold = true) ∧
    (∀ call ∈ calls, call.scene.Exchanged (policy.handle call.trouble call.scene).value.scene
      (policy.exchanges call)) ∧
    ∀ earlier later, moves = earlier ++ later →
      let early := (policy.run earlier start).attempt.state.shortfall
      (early.logFailed = true → reported.logFailed = true) ∧
        (early.queueFailed = true → reported.queueFailed = true) := by
  intro start calls reported
  have undone : reported = .unionAll (policy.undoneIn moves start) :=
    (policy.run_shortfall moves start oneAttempt).trans (Shortfall.none_union _)
  obtain ⟨refused, untold⟩ := policy.undoneIn_failed moves start
  rw [← undone] at refused untold
  refine ⟨?_, ?_, fun call _ => policy.handle_exchanged call, ?_⟩
  · simp only [refused, List.any_eq_true]
    rfl
  · simp only [untold, List.any_eq_true]
    rfl
  · rintro earlier later rfl
    exact policy.run_failed_persists earlier later start
      fun other member => oneAttempt other (List.mem_append_right earlier member)

/-- The second of three bounces is refused while the queue file fails. Both failures stay reported,
although the second call completes the refused recipient without any. -/
theorem failures_are_reported_after_recovery :
    let recipients : List Recipient :=
      [⟨"a", "a@x", 10, .pending⟩, ⟨"b", "b@x", 20, .pending⟩, ⟨"c", "c@x", 30, .pending⟩]
    let request : Request :=
      ⟨⟨"4F"⟩, ⟨0, 0, by decide, by decide, by decide⟩, ⟨0⟩, ⟨recipients⟩, none⟩
    let moves : List Move := [.condition (.refused .bounced 2), .condition (.failing .queue true),
      .trouble (.host 550 "no"), .condition (.failing .queue false), .trouble (.host 554 "gone")]
    let start : Scene := ⟨⟨request, none, .fresh⟩, .empty⟩
    let final := (Policy.standard.run moves start).attempt
    (Policy.standard.calls moves start).map (fun call => (Policy.standard.exchanges call).map
        fun exchange => (exchange.index, exchange.isRefused, exchange.isUntold)) =
      [[(0, false, true), (1, true, false), (2, false, true)], [(1, false, false)]] ∧
    final.state.shortfall.logFailed = true ∧ final.state.shortfall.queueFailed = true ∧
    final.request.ledger.pendingIndices = [] := by
  intro recipients request moves start final
  have oneAttempt : ∀ other, Move.retry other ∉ moves := by
    intro other
    simp [moves]
  obtain ⟨refused, untold, _⟩ :=
    failures_are_reported .standard request none .empty moves oneAttempt
  have someRefused : ((Policy.standard.calls moves start).any fun call =>
      (Policy.standard.exchanges call).any Exchange.isRefused) = true := by decide +kernel
  have someUntold : ((Policy.standard.calls moves start).any fun call =>
      (Policy.standard.exchanges call).any Exchange.isUntold) = true := by decide +kernel
  simp only [List.any_eq_true] at someRefused someUntold
  refine ⟨by decide +kernel, ?_, ?_, by decide +kernel⟩
  · rw [refused]
    exact someRefused
  · rw [untold]
    exact someUntold

end Nondelivery
