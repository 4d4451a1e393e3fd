/-
This file compares two courses of an attempt that differ in a single setting. Softening turns bounces
into deferrals and does nothing else, as long as both logs work or neither does.
-/

import Nondelivery.Proofs.Run

namespace Nondelivery

namespace Logbook

/-- The log in its present condition, without anything that was ever appended to it. -/
def blank (logbook : Logbook) : Logbook :=
  { logbook with records := [], appends := 0 }

/-- Without refusals of single appends a log accepts everything or nothing. -/
theorem accepted_of_unrefused {α : Type} (logbook : Logbook) (items : List α)
    (unrefused : logbook.refused = []) :
    logbook.accepted items = if logbook.failing then [] else items := by
  cases failing : logbook.failing with
  | true => exact logbook.accepted_of_failing items failing
  | false =>
      apply logbook.accepted_of_takes items
      intro number _ _
      simp [takes, failing, unrefused]

end Logbook

namespace Stores

/-- The stores in their present condition, with blank logs. -/
def blank (stores : Stores) : Stores :=
  (stores.modifyLogbook .deferred Logbook.blank).modifyLogbook .bounced Logbook.blank

/-- The log for an outcome is within reach and takes records. -/
def logWorks (stores : Stores) (outcome : Outcome) : Bool :=
  (stores.log outcome).outage.isNone && !(stores.log outcome).backend.failing

/-- Both logs work or neither does, and none of them refuses single appends. -/
structure Even (stores : Stores) : Prop where
  works : stores.logWorks .bounced = stores.logWorks .deferred
  unrefused : ∀ outcome, (stores.log outcome).backend.refused = []

instance (stores : Stores) : Decidable stores.Even :=
  decidable_of_iff
    (stores.logWorks .bounced = stores.logWorks .deferred ∧
      stores.deferLog.backend.refused = [] ∧ stores.bounceLog.backend.refused = [])
    ⟨fun ⟨works, deferLog, bounceLog⟩ =>
      ⟨works, fun | .deferred => deferLog | .bounced => bounceLog⟩,
      fun even => ⟨even.works, even.unrefused .deferred, even.unrefused .bounced⟩⟩

/-- The condition of the stores does not depend on what the logs hold. -/
theorem blank_apply (stores : Stores) (condition : Condition) :
    (stores.apply condition).blank = stores.blank.apply condition := by
  rcases condition with ⟨log | _, failing⟩ | ⟨log, number⟩ | ⟨log, outage⟩ | outage
  · cases log <;> rfl
  · rfl
  · cases log <;> rfl
  · cases log <;> rfl
  · rfl

/-- A change in the condition of the stores is not an append. -/
theorem appends_apply (stores : Stores) (condition : Condition) (outcome : Outcome) :
    ((stores.apply condition).log outcome).backend.appends =
      (stores.log outcome).backend.appends := by
  rcases condition with ⟨log | _, failing⟩ | ⟨log, number⟩ | ⟨log, outage⟩ | outage
  · cases log <;> cases outcome <;> rfl
  · cases outcome <;> rfl
  · cases log <;> cases outcome <;> rfl
  · cases log <;> cases outcome <;> rfl
  · cases outcome <;> rfl

theorem blank_update (stores : Stores) (outcome : Outcome) (records : List Record) :
    (stores.withLog outcome
      ((stores.log outcome).update (Logbook.appendAll records))).blank = stores.blank := by
  rcases stores with ⟨⟨deferOutage, deferLog⟩, ⟨bounceOutage, bounceLog⟩, queue⟩
  cases outcome
  · cases deferOutage <;> rfl
  · cases bounceOutage <;> rfl

/-- Records change nothing about the condition of the logs, but they may reach the queue file. -/
theorem blank_keepAll (stores : Stores) (outcome : Outcome) (records : List Record) :
    (stores.keepAll outcome records).blank = { stores.blank with
      queue := stores.queue.update
        (QueueFile.markAll ((stores.accepted outcome records).map Record.place)) } := by
  rw [← stores.blank_update outcome records]
  rfl

theorem logWorks_blank (stores : Stores) (outcome : Outcome) :
    stores.blank.logWorks outcome = stores.logWorks outcome := by
  cases outcome <;> rfl

theorem refused_blank (stores : Stores) (outcome : Outcome) :
    (stores.blank.log outcome).backend.refused = (stores.log outcome).backend.refused := by
  cases outcome <;> rfl

theorem accepted_of_unrefused {α : Type} (stores : Stores) (outcome : Outcome) (items : List α)
    (unrefused : (stores.log outcome).backend.refused = []) :
    stores.accepted outcome items = if stores.logWorks outcome then items else [] := by
  rw [accepted, logWorks, Logbook.accepted_of_unrefused _ items unrefused]
  cases (stores.log outcome).outage <;> cases (stores.log outcome).backend.failing <;> rfl

/-- Even stores accept the same for both outcomes. So do other stores in the same condition. -/
theorem Even.accepted_eq {α : Type} {soft plain : Stores} (even : plain.Even)
    (same : soft.blank = plain.blank) (outcome other : Outcome) (items : List α) :
    soft.accepted outcome items = plain.accepted other items := by
  have works (outcome : Outcome) : plain.logWorks outcome = plain.logWorks .deferred := by
    cases outcome
    · rfl
    · exact even.works
  have unrefused : (soft.log outcome).backend.refused = [] := by
    rw [← refused_blank, same, refused_blank, even.unrefused]
  rw [soft.accepted_of_unrefused outcome items unrefused,
    plain.accepted_of_unrefused other items (even.unrefused other), ← soft.logWorks_blank, same,
    logWorks_blank, works outcome, works other]

end Stores

/-- The scene in its present condition, with blank logs. -/
def Scene.blank (scene : Scene) : Scene :=
  { scene with stores := scene.stores.blank }

/-- The same filing as a deferral. -/
def Filing.softened (filing : Filing) : Filing :=
  { filing with outcome := .deferred }

/-- The same posting in the log of deferrals. -/
def Posting.softened (posting : Posting) : Posting :=
  { posting with outcome := .deferred }

namespace Scene

variable {soft plain : Scene}

theorem attempt_eq_of_blank_eq (same : soft.blank = plain.blank) : soft.attempt = plain.attempt :=
  congrArg (fun scene => scene.attempt) same

theorem blank_stores_eq_of_blank_eq (same : soft.blank = plain.blank) :
    soft.stores.blank = plain.stores.blank :=
  congrArg (fun scene => scene.stores) same

/-- In even stores a filing comes to the same whatever its outcome is, apart from what the logs
hold. -/
theorem blank_file_softened (filing : Filing) (even : plain.stores.Even)
    (same : soft.blank = plain.blank) :
    (soft.file filing.softened).blank = (plain.file filing).blank := by
  have attempts := attempt_eq_of_blank_eq same
  have stores := blank_stores_eq_of_blank_eq same
  have queues : soft.stores.queue = plain.stores.queue :=
    congrArg (fun stores => stores.queue) stores
  have accepts : filing.softened.accepted soft.stores = filing.accepted plain.stores :=
    even.accepted_eq stores _ _ _
  have undone : filing.softened.shortfall soft.stores = filing.shortfall plain.stores := by
    rw [Filing.shortfall, accepts, Stores.queueWorks, queues]
    rfl
  have taken (records : List Record) : soft.stores.accepted filing.softened.outcome records =
      plain.stores.accepted filing.outcome records :=
    even.accepted_eq stores _ _ _
  simp only [file, blank, Stores.blank_keepAll, attempts, accepts, undone, queues, stores, taken]
  rfl

end Scene

theorem Filing.postings_softened (filing : Filing) {soft plain : Scene} (even : plain.stores.Even)
    (same : soft.blank = plain.blank) :
    filing.softened.postings soft = (filing.postings plain).map Posting.softened := by
  have attempts := Scene.attempt_eq_of_blank_eq same
  have stores := Scene.blank_stores_eq_of_blank_eq same
  have accepts : filing.softened.accepted soft.stores = filing.accepted plain.stores :=
    even.accepted_eq stores _ _ _
  rw [postings, accepts, attempts, postings, List.map_map]
  rfl

namespace Policy

/-- The policy with bounces turned into deferrals. -/
def softened (policy : Policy) : Policy :=
  { policy with softBounce := true }

variable (policy : Policy) {soft plain : Scene}

theorem filing_softened (severity : Severity) (peer reason : String)
    (entries : List (Nat × Recipient)) :
    policy.softened.filing severity peer reason entries =
      (policy.filing severity peer reason entries).softened := by
  cases severity <;> rfl

/-- A softened policy files the same trouble as a deferral. -/
theorem filingFor_softened (trouble : Trouble) (same : soft.attempt = plain.attempt) :
    policy.softened.filingFor soft trouble =
      (policy.filingFor plain trouble).map Filing.softened := by
  have passes (code : Nat) : soft.passesOver (.ofCode code) = plain.passesOver (.ofCode code) := by
    rw [Scene.passesOver, same, Scene.passesOver]
  have streams (fault : StreamFault) (stage : String) :
      policy.softened.filingForStream soft fault stage =
        (policy.filingForStream plain fault stage).map Filing.softened := by
    simp only [filingForStream, same, filing_softened]
    cases plain.attempt.session <;> cases plain.attempt.state.finalServer <;> rfl
  cases trouble with
  | host code reason =>
      simp only [filingFor, passes, same, filing_softened]
      split <;> rfl
  | message code reason =>
      simp only [filingFor, passes, same, filing_softened]
      split <;> rfl
  | recipient code index reason =>
      simp only [filingFor, passes, same, filing_softened]
      split
      · rfl
      · cases plain.attempt.session <;> cases plain.attempt.request.ledger.pending? index <;> rfl
  | stream fault stage => exact streams fault stage
  | streamCode code stage =>
      simp only [filingFor, streams]
      cases StreamFault.ofCode code <;> rfl

/-- While the stores are even, a call is answered in the same way, and puts the same on record. -/
theorem handle_softened (trouble : Trouble) (even : plain.stores.Even)
    (same : soft.blank = plain.blank) :
    policy.softened.answer ⟨trouble, soft⟩ = policy.answer ⟨trouble, plain⟩ ∧
      (policy.softened.after soft (.trouble trouble)).blank =
        (policy.after plain (.trouble trouble)).blank ∧
      policy.softened.postings trouble soft =
        (policy.postings trouble plain).map Posting.softened := by
  have attempts := Scene.attempt_eq_of_blank_eq same
  have filings := policy.filingFor_softened trouble attempts
  have filed : (soft.fileAny (policy.softened.filingFor soft trouble)).blank =
      (plain.fileAny (policy.filingFor plain trouble)).blank := by
    rw [filings]
    cases policy.filingFor plain trouble with
    | none => exact same
    | some filing => exact Scene.blank_file_softened filing even same
  refine ⟨?_, ?_, ?_⟩
  · simp only [answer, handle_eq, attempts]
  · simp only [after, play, handle_eq, attempts]
    exact congrArg (Scene.remember (plain.attempt.aftermath trouble)) filed
  · rw [postings, filings, postings]
    cases policy.filingFor plain trouble with
    | none => rfl
    | some filing => exact filing.postings_softened even same

/-- While the stores are even, a move comes to the same. -/
theorem after_softened (move : Move) (even : ∀ call ∈ plain.calls move, call.scene.stores.Even)
    (same : soft.blank = plain.blank) :
    (soft.calls move).map policy.softened.answer = (plain.calls move).map policy.answer ∧
      (policy.softened.after soft move).blank = (policy.after plain move).blank ∧
      policy.softened.postingsOf move soft =
        (policy.postingsOf move plain).map Posting.softened := by
  have attempts := Scene.attempt_eq_of_blank_eq same
  -- Nobody is called, so that it does not matter who would answer.
  have quiet : ([] : List Call).map policy.softened.answer = [].map policy.answer :=
    List.map_nil.trans List.map_nil.symm
  cases move with
  | trouble trouble =>
      obtain ⟨answered, after, posted⟩ :=
        policy.handle_softened trouble (even ⟨trouble, plain⟩ List.mem_cons_self) same
      exact ⟨congrArg (fun answer => [answer]) answered, after, posted⟩
  | connect session => exact ⟨quiet, congrArg (Scene.connect session) same, rfl⟩
  | markFinal => exact ⟨quiet, congrArg Scene.markFinal same, rfl⟩
  | retry session => exact ⟨quiet, congrArg (Scene.retry session) same, rfl⟩
  | condition condition =>
      have stores := Scene.blank_stores_eq_of_blank_eq same
      refine ⟨quiet, ?_, rfl⟩
      simp only [after, play, Scene.blank, Traced.value_pure, Stores.blank_apply, stores, attempts]

/-- While the stores are even whenever a call is made, a course comes to the same. -/
theorem run_softened (moves : List Move)
    (even : ∀ call ∈ policy.calls moves plain, call.scene.stores.Even)
    (same : soft.blank = plain.blank) :
    policy.softened.answers moves soft = policy.answers moves plain ∧
      (policy.softened.run moves soft).blank = (policy.run moves plain).blank ∧
      policy.softened.history moves soft =
        (policy.history moves plain).map Posting.softened := by
  -- The two scenes stay the same but for what the logs hold, which no condition depends on.
  induction moves generalizing soft plain with
  | nil => simp only [answers_nil, run_nil, history_nil, List.map_nil, same, and_self]
  | cons move rest ih =>
      rw [calls_cons] at even
      obtain ⟨answered, after, posted⟩ := policy.after_softened move
        (fun call first => even call (List.mem_append_left _ first)) same
      obtain ⟨answers, final, history⟩ := ih
        (fun call later => even call (List.mem_append_right _ later)) after
      refine ⟨?_, final, ?_⟩
      · rw [answers_cons, answers_cons, answered, answers]
      · rw [history_cons, history_cons, posted, history, List.map_append]

/-- No call of a softened policy reaches the log of bounces. -/
theorem bounceLog_handle_softened (trouble : Trouble) (scene : Scene) :
    (policy.softened.handle trouble scene).value.scene.stores.bounceLog =
      scene.stores.bounceLog := by
  rw [handle_eq, policy.filingFor_softened trouble (Eq.refl scene.attempt)]
  cases policy.filingFor scene trouble with
  | none => rfl
  | some filing => rfl

theorem run_softened_bounceLog (moves : List Move) (scene : Scene) :
    let log := (policy.softened.run moves scene).stores.bounceLog.backend
    log.records = scene.stores.bounceLog.backend.records ∧
      log.appends = scene.stores.bounceLog.backend.appends := by
  induction moves generalizing scene with
  | nil => exact ⟨rfl, rfl⟩
  | cons move rest ih =>
      obtain ⟨records, appends⟩ := ih (policy.softened.after scene move)
      rw [run_cons]
      cases move with
      | trouble trouble =>
          have untouched := policy.bounceLog_handle_softened trouble scene
          rw [← untouched]
          exact ⟨records, appends⟩
      | connect session => exact ⟨records, appends⟩
      | markFinal => exact ⟨records, appends⟩
      | retry session => exact ⟨records, appends⟩
      | condition condition =>
          exact ⟨records.trans (scene.stores.records_apply condition .bounced),
            appends.trans (scene.stores.appends_apply condition .bounced)⟩

end Policy

/-- What all postings come to once bounces are softened. -/
theorem Outcome.posted_softened (postings : List Posting) :
    deferred.posted (postings.map Posting.softened) = postings.map Posting.record := by
  rw [posted, List.filter_eq_self.mpr, List.map_map]
  · rfl
  · intro posting member
    obtain ⟨hard, _, rfl⟩ := List.mem_map.mp member
    rfl

/-- Softening redirects bounces and changes nothing else. Whatever happens, the log of bounces gets no
append while bounces are softened. And as long as both logs work or neither does, and none of them
refuses single appends, whenever a call is made, softening changes no answer, nothing about the
attempt and nothing in the queue file; the log of deferrals then gains what both logs gain without
it, and each of them in its own order. -/
theorem softening_redirects_bounces (policy : Policy) (moves : List Move) (start : Scene) :
    let soft : Policy := { policy with softBounce := true }
    let plain : Policy := { policy with softBounce := false }
    let softFinal := soft.run moves start
    let plainFinal := plain.run moves start
    (softFinal.stores.bounceLog.backend.records = start.stores.bounceLog.backend.records ∧
      softFinal.stores.bounceLog.backend.appends = start.stores.bounceLog.backend.appends) ∧
    ((∀ call ∈ plain.calls moves start, call.scene.stores.Even) →
      soft.answers moves start = plain.answers moves start ∧
      softFinal.attempt = plainFinal.attempt ∧
      softFinal.stores.queue = plainFinal.stores.queue ∧
      ∃ deferrals bounces merged,
        plainFinal.stores.records .deferred = start.stores.records .deferred ++ deferrals ∧
        plainFinal.stores.records .bounced = start.stores.records .bounced ++ bounces ∧
        softFinal.stores.records .deferred = start.stores.records .deferred ++ merged ∧
        deferrals.Sublist merged ∧ bounces.Sublist merged ∧
        (deferrals ++ bounces).Perm merged) := by
  intro soft plain softFinal plainFinal
  refine ⟨plain.run_softened_bounceLog moves start, fun even => ?_⟩
  obtain ⟨answers, final, history⟩ := plain.run_softened moves even (Eq.refl start.blank)
  have plainPosts := plain.run_posts moves start
  have softPosts := soft.run_posts moves start
  refine ⟨answers, congrArg (fun scene => scene.attempt) final,
    congrArg (fun scene => scene.stores.queue) final,
    Outcome.deferred.posted (plain.history moves start),
    Outcome.bounced.posted (plain.history moves start),
    (plain.history moves start).map Posting.record, plainPosts.records .deferred,
    plainPosts.records .bounced, ?_, List.filter_sublist.map _, List.filter_sublist.map _,
    Outcome.posted_perm _⟩
  rw [← Outcome.posted_softened, ← history]
  exact softPosts.records .deferred

/-- Of three recipients the first and the last one bounce. Softened, their records take their places
before and behind the deferral. -/
theorem softening_redirects_bounces_around_deferral :
    let recipients : List Recipient :=
      [⟨"a", "a@x", 10, .pending⟩, ⟨"b", "b@x", 20, .pending⟩, ⟨"c", "c@x", 30, .pending⟩]
    let request : Request :=
      ⟨⟨"4F"⟩, ⟨0, 0, by decide, by decide, by decide⟩, ⟨0⟩, ⟨recipients⟩, none⟩
    let start : Scene := ⟨⟨request, some ⟨"mx", "192.0.2.1"⟩, .fresh⟩, .empty⟩
    let moves : List Move := [.markFinal, .trouble (.recipient 550 0 "no"),
      .condition (.failing .queue true), .trouble (.recipient 451 1 "later"), .connect none,
      .trouble (.host 554 "gone")]
    let soft : Policy := { softBounce := true }
    let plain : Policy := { softBounce := false }
    soft.answers moves start = plain.answers moves start ∧
      (soft.run moves start).attempt = (plain.run moves start).attempt ∧
      (plain.run moves start).stores.records .bounced =
        [request.record recipients[0] "mx[192.0.2.1]" "no",
          request.record recipients[2] "none" "gone"] ∧
      (soft.run moves start).stores.records .deferred =
        [request.record recipients[0] "mx[192.0.2.1]" "no",
          request.record recipients[1] "mx[192.0.2.1]" "later",
          request.record recipients[2] "none" "gone"] := by
  dsimp only
  have redirects (moves : List Move) (start : Scene) :=
    (softening_redirects_bounces .standard moves start).2
  refine ⟨(redirects _ _ ?even).1, (redirects _ _ ?even).2.1, by decide +kernel,
    by decide +kernel⟩
  case even => decide +kernel

end Nondelivery
