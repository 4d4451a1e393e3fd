/-
This file follows one of several attempts that share the stores. The others keep records of their
own messages only. As long as the condition of the stores stays the same, the attempt therefore goes
as it would go alone.
-/

import Nondelivery.Proofs.Softening
import Nondelivery.Proofs.WriteAhead

namespace Nondelivery

namespace Stores

/-- The stores in their present condition, with nothing in them. -/
def vacant (stores : Stores) : Stores :=
  { stores.blank with queue.backend.delivered := [] }

/-- No log refuses single appends. -/
def Unrefusing (stores : Stores) : Prop :=
  ∀ outcome, (stores.log outcome).backend.refused = []

/-- What the log for an outcome holds about a message. -/
def recordsOf (queueId : QueueId) (stores : Stores) (outcome : Outcome) : List Record :=
  (stores.records outcome).filter fun record => record.queueId == queueId

/-- What the queue file has marked of a message. -/
def deliveredOf (queueId : QueueId) (stores : Stores) : List QueuePlace :=
  stores.delivered.filter fun place => place.1 == queueId

theorem vacant_keepAll (outcome : Outcome) (records : List Record) (stores : Stores) :
    (stores.keepAll outcome records).vacant = stores.vacant := by
  -- Whatever the queue file has marked is taken out of it again.
  have queue (places : List QueuePlace) (queue : Reachable QueueError QueueFile) :
      ({ queue.update (QueueFile.markAll places) with
        backend.delivered := [] } : Reachable QueueError QueueFile) =
          { queue with backend.delivered := [] } := by
    rcases queue with ⟨outage, queueFile⟩
    cases outage <;> simp [Reachable.update, QueueFile.markAll_eq]
  rw [vacant, blank_keepAll]
  exact congrArg (fun queue => { stores.blank with queue := queue }) (queue _ stores.queue)

section Vacant

variable {left right : Stores} (same : left.vacant = right.vacant)

include same

theorem queueWorks_congr : left.queueWorks = right.queueWorks := by
  change left.vacant.queueWorks = right.vacant.queueWorks
  rw [same]

theorem outage_congr (outcome : Outcome) :
    (left.log outcome).outage = (right.log outcome).outage := by
  have outages := congrArg (fun stores => (stores.log outcome).outage) same
  cases outcome
  · exact outages
  · exact outages

theorem Unrefusing.congr (unrefused : left.Unrefusing) : right.Unrefusing := by
  intro outcome
  have refused := congrArg (fun stores => (stores.log outcome).backend.refused) same
  cases outcome
  · exact refused.symm.trans (unrefused .deferred)
  · exact refused.symm.trans (unrefused .bounced)

/-- Stores in the same condition accept the same, unless they refuse single appends. -/
theorem accepted_congr {α : Type} (unrefused : left.Unrefusing) (outcome : Outcome)
    (items : List α) : left.accepted outcome items = right.accepted outcome items := by
  have works := congrArg (fun stores => stores.logWorks outcome) same
  have alike : left.logWorks outcome = right.logWorks outcome := by
    cases outcome <;> exact works
  rw [left.accepted_of_unrefused outcome items (unrefused outcome),
    right.accepted_of_unrefused outcome items (unrefused.congr same outcome), alike]

end Vacant

/-- Two stores are in the same condition and hold the same about a message. -/
structure AgreeOn (queueId : QueueId) (left right : Stores) : Prop where
  vacant : left.vacant = right.vacant
  records : ∀ outcome, left.recordsOf queueId outcome = right.recordsOf queueId outcome
  delivered : left.deliveredOf queueId = right.deliveredOf queueId

namespace AgreeOn

variable {queueId : QueueId} {first second third : Stores}

theorem refl (queueId : QueueId) (stores : Stores) : stores.AgreeOn queueId stores :=
  ⟨rfl, fun _ => rfl, rfl⟩

theorem trans (earlier : first.AgreeOn queueId second) (later : second.AgreeOn queueId third) :
    first.AgreeOn queueId third where
  vacant := earlier.vacant.trans later.vacant
  records outcome := (earlier.records outcome).trans (later.records outcome)
  delivered := earlier.delivered.trans later.delivered

end AgreeOn

end Stores

/-- All postings of an attempt are about its message. -/
theorem Scene.Posts.queueId_of_mem {before after : Scene} {postings : List Posting}
    (posts : before.Posts after postings) :
    ∀ posting ∈ postings, posting.record.queueId = before.attempt.request.queueId := by
  intro posting member
  obtain ⟨_, _, _, _, record⟩ := posts.waited posting member
  rw [record]
  rfl

namespace Filing

variable (filing : Filing) {attempt : Attempt} {left right : Stores}

/-- A filing comes to the same in stores that accept the same. -/
theorem file_congr (same : left.vacant = right.vacant) (unrefused : left.Unrefusing) :
    (Scene.file filing ⟨attempt, left⟩).attempt = (Scene.file filing ⟨attempt, right⟩).attempt ∧
      filing.postings ⟨attempt, left⟩ = filing.postings ⟨attempt, right⟩ := by
  have accepts : filing.accepted left = filing.accepted right :=
    Stores.accepted_congr same unrefused _ _
  have undone : filing.shortfall left = filing.shortfall right := by
    rw [shortfall, accepts, Stores.queueWorks_congr same]
    rfl
  constructor
  · simp only [Scene.file, accepts, undone]
  · rw [postings, accepts]
    rfl

end Filing

/-- The move is one of the delivery client, and not a change in the condition of the stores. -/
def Move.isOwn : Move → Bool
  | .trouble _ => true
  | .connect _ => true
  | .markFinal => true
  | .retry _ => true
  | .condition _ => false

namespace Policy

variable (policy : Policy)

/-- The delivery client does not change the condition of the stores. -/
theorem vacant_after (move : Move) (own : move.isOwn = true) (scene : Scene) :
    (policy.after scene move).stores.vacant = scene.stores.vacant := by
  cases move with
  | trouble trouble =>
      rw [after, play, (policy.handle_sameBooks trouble scene).stores]
      cases policy.filingFor scene trouble with
      | none => rfl
      | some filing => exact Stores.vacant_keepAll _ _ scene.stores
  | connect session => rfl
  | markFinal => rfl
  | retry session => rfl
  | condition condition => cases own

section Own

variable (attempt : Attempt) {left right : Stores} (same : left.vacant = right.vacant)
  (unrefused : left.Unrefusing)

include same unrefused

/-- What an attempt decides depends on the condition of the stores only. -/
theorem handle_vacant (trouble : Trouble) :
    policy.answer ⟨trouble, ⟨attempt, left⟩⟩ = policy.answer ⟨trouble, ⟨attempt, right⟩⟩ ∧
      (policy.after ⟨attempt, left⟩ (.trouble trouble)).attempt =
        (policy.after ⟨attempt, right⟩ (.trouble trouble)).attempt ∧
      policy.postings trouble ⟨attempt, left⟩ = policy.postings trouble ⟨attempt, right⟩ := by
  have filings := policy.filingFor_stores attempt left right trouble
  refine ⟨?_, ?_, ?_⟩
  · simp only [answer, handle_eq]
  · simp only [after, play, handle_eq, filings]
    cases policy.filingFor ⟨attempt, right⟩ trouble with
    | none => rfl
    | some filing =>
        exact congrArg (Attempt.remember _) (filing.file_congr same unrefused).1
  · rw [postings, filings, postings]
    cases policy.filingFor ⟨attempt, right⟩ trouble with
    | none => rfl
    | some filing => exact (filing.file_congr same unrefused).2

theorem after_vacant (move : Move) (own : move.isOwn = true) :
    (Scene.calls ⟨attempt, left⟩ move).map policy.answer =
        (Scene.calls ⟨attempt, right⟩ move).map policy.answer ∧
      (policy.after ⟨attempt, left⟩ move).attempt = (policy.after ⟨attempt, right⟩ move).attempt ∧
      policy.postingsOf move ⟨attempt, left⟩ = policy.postingsOf move ⟨attempt, right⟩ := by
  cases move with
  | trouble trouble =>
      obtain ⟨answer, after, postings⟩ := policy.handle_vacant attempt same unrefused trouble
      exact ⟨congrArg (fun answer => [answer]) answer, after, postings⟩
  | connect session => exact ⟨rfl, rfl, rfl⟩
  | markFinal => exact ⟨rfl, rfl, rfl⟩
  | retry session => exact ⟨rfl, rfl, rfl⟩
  | condition condition => cases own

end Own

/-- In stores that agree on a message, an attempt does the same about it. -/
theorem after_agreeOn (attempt : Attempt) {left right : Stores} {queueId : QueueId}
    (agree : left.AgreeOn queueId right) (unrefused : left.Unrefusing) (move : Move)
    (own : move.isOwn = true) :
    (policy.after ⟨attempt, left⟩ move).stores.AgreeOn queueId
      (policy.after ⟨attempt, right⟩ move).stores := by
  obtain ⟨_, _, postings⟩ := policy.after_vacant attempt agree.vacant unrefused move own
  have leftPosts := policy.after_posts move ⟨attempt, left⟩
  have rightPosts := policy.after_posts move ⟨attempt, right⟩
  refine ⟨?_, fun outcome => ?_, ?_⟩
  · rw [policy.vacant_after move own, policy.vacant_after move own]
    exact agree.vacant
  · have before := agree.records outcome
    simp only [Stores.recordsOf] at before ⊢
    rw [leftPosts.records, rightPosts.records, List.filter_append, List.filter_append, before,
      postings]
  · have before := agree.delivered
    have works := Stores.queueWorks_congr agree.vacant
    simp only [Stores.deliveredOf] at before ⊢
    rw [delivered_after, delivered_after, List.filter_append, List.filter_append, before, works,
      postings]

/-- An attempt leaves alone what the stores hold about other messages. -/
theorem after_agreeOn_other (scene : Scene) {queueId : QueueId}
    (apart : scene.attempt.request.queueId ≠ queueId) (move : Move) (own : move.isOwn = true) :
    (policy.after scene move).stores.AgreeOn queueId scene.stores := by
  have posts := policy.after_posts move scene
  have about := posts.queueId_of_mem
  refine ⟨policy.vacant_after move own scene, fun outcome => ?_, ?_⟩
  · have foreign : (outcome.posted (policy.postingsOf move scene)).filter
        (fun record => record.queueId == queueId) = [] := by
      apply List.filter_eq_nil_iff.mpr
      intro record member
      obtain ⟨posting, among, rfl⟩ := List.mem_map.mp member
      rw [about posting (List.mem_filter.mp among).1, beq_iff_eq]
      exact apart
    rw [Stores.recordsOf, posts.records, List.filter_append, foreign, List.append_nil]
    rfl
  · have foreign : ((policy.postingsOf move scene).map fun posting => posting.record.place).filter
        (fun place => place.1 == queueId) = [] := by
      apply List.filter_eq_nil_iff.mpr
      intro place member
      obtain ⟨posting, among, rfl⟩ := List.mem_map.mp member
      rw [Record.place, about posting among, beq_iff_eq]
      exact apart
    rw [Stores.deliveredOf, delivered_after, List.filter_append]
    split
    · rw [foreign, List.append_nil]
      rfl
    · exact List.append_nil _

/-- The answers that are given in a turn, with the number of the attempt that gets them. -/
def answersInTurn (traffic : Traffic) (turn : Turn) : List (Nat × Except Misuse Verdict) :=
  (traffic.scene? turn.number).elim [] fun scene =>
    ((scene.calls turn.move).map policy.answer).map (Prod.mk turn.number)

/-- The answers that are given in several turns. -/
def answersInTurns : List Turn → Traffic → List (Nat × Except Misuse Verdict)
  | [], _ => []
  | turn :: turns, traffic =>
      policy.answersInTurn traffic turn ++ answersInTurns turns (policy.turn traffic turn)

end Policy

/-- The moves of the attempt with a number. -/
def Turn.movesOf (number : Nat) (turns : List Turn) : List Move :=
  (turns.filter fun turn => turn.number == number).map Turn.move

/-- The attempt with a number is just where it is in a scene of its own, and no other attempt is
about the same message. -/
structure Traffic.Shows (traffic : Traffic) (number : Nat) (scene : Scene) : Prop where
  found : traffic.attempts[number]? = some scene.attempt
  apart : ∀ other attempt, other ≠ number → traffic.attempts[other]? = some attempt →
    attempt.request.queueId ≠ scene.attempt.request.queueId
  agree : traffic.stores.AgreeOn scene.attempt.request.queueId scene.stores
  unrefused : traffic.stores.Unrefusing

namespace Policy

variable (policy : Policy) {traffic : Traffic} {scene : Scene} {number : Nat}

/-- In its own turn an attempt does what it does alone. -/
theorem turn_own (shown : traffic.Shows number scene) (turn : Turn) (mine : turn.number = number)
    (own : turn.move.isOwn = true) :
    policy.answersInTurn traffic turn =
        ((scene.calls turn.move).map policy.answer).map (Prod.mk number) ∧
      (policy.turn traffic turn).Shows number (policy.after scene turn.move) := by
  subst mine
  rcases scene with ⟨attempt, stores⟩
  rcases shown with ⟨found, apart, agree, unrefused⟩
  have here : traffic.scene? turn.number = some ⟨attempt, traffic.stores⟩ := by
    rw [Traffic.scene?, found, Option.map_some]
  have moved : policy.turn traffic turn =
      traffic.withScene turn.number (policy.after ⟨attempt, traffic.stores⟩ turn.move) := by
    simp only [Policy.turn, here]
  have inside : turn.number < traffic.attempts.length := (List.getElem?_eq_some_iff.mp found).1
  have queueId : (policy.after ⟨attempt, stores⟩ turn.move).attempt.request.queueId =
      attempt.request.queueId := (policy.after_posts turn.move ⟨attempt, stores⟩).queueId
  obtain ⟨answers, same, _⟩ := policy.after_vacant attempt agree.vacant unrefused turn.move own
  refine ⟨?_, ?_, fun other different elsewhere member => ?_, ?_, ?_⟩
  · rw [answersInTurn, here, Option.elim_some, answers]
  · rw [moved, Traffic.withScene, List.getElem?_set_self inside, same]
  · rw [moved, Traffic.withScene, List.getElem?_set_ne elsewhere.symm] at member
    rw [queueId]
    exact apart other different elsewhere member
  · rw [moved, queueId]
    exact policy.after_agreeOn attempt agree unrefused turn.move own
  · rw [moved]
    exact unrefused.congr (policy.vacant_after turn.move own ⟨attempt, traffic.stores⟩).symm

/-- In the turn of another attempt nothing happens to this one. -/
theorem turn_other (shown : traffic.Shows number scene) (turn : Turn)
    (elsewhere : turn.number ≠ number) (own : turn.move.isOwn = true) :
    (policy.answersInTurn traffic turn).filter (fun answer => answer.1 == number) = [] ∧
      (policy.turn traffic turn).Shows number scene := by
  cases standing : traffic.attempts[turn.number]? with
  | none =>
      have nobody : traffic.scene? turn.number = none := by
        rw [Traffic.scene?, standing, Option.map_none]
      rw [answersInTurn, Policy.turn, nobody]
      exact ⟨rfl, shown⟩
  | some attempt =>
      have here : traffic.scene? turn.number = some ⟨attempt, traffic.stores⟩ := by
        rw [Traffic.scene?, standing, Option.map_some]
      have moved : policy.turn traffic turn =
          traffic.withScene turn.number (policy.after ⟨attempt, traffic.stores⟩ turn.move) := by
        simp only [Policy.turn, here]
      have inside : turn.number < traffic.attempts.length :=
        (List.getElem?_eq_some_iff.mp standing).1
      have apart := shown.apart turn.number attempt elsewhere standing
      refine ⟨?_, ?_, fun other different others member => ?_, ?_, ?_⟩
      · rw [answersInTurn, here, Option.elim_some]
        apply List.filter_eq_nil_iff.mpr
        intro answer member
        obtain ⟨_, _, rfl⟩ := List.mem_map.mp member
        simpa using elsewhere
      · rw [moved, Traffic.withScene, List.getElem?_set_ne elsewhere]
        exact shown.found
      · rw [moved, Traffic.withScene, List.getElem?_set] at member
        split at member
        · obtain rfl : _ = different := Option.some.inj (by simpa [inside] using member)
          rw [(policy.after_posts turn.move ⟨attempt, traffic.stores⟩).queueId]
          exact apart
        · exact shown.apart other different others member
      · rw [moved]
        exact (policy.after_agreeOn_other ⟨attempt, traffic.stores⟩ apart turn.move own).trans
          shown.agree
      · rw [moved]
        exact shown.unrefused.congr
          (policy.vacant_after turn.move own ⟨attempt, traffic.stores⟩).symm

/-- In whatever order several attempts take turns, each of them goes as it goes alone. -/
theorem takeTurns_shows (turns : List Turn) (own : ∀ turn ∈ turns, turn.move.isOwn = true)
    (shown : traffic.Shows number scene) :
    (policy.answersInTurns turns traffic).filter (fun answer => answer.1 == number) =
        (policy.answers (Turn.movesOf number turns) scene).map (Prod.mk number) ∧
      (policy.takeTurns turns traffic).Shows number
        (policy.run (Turn.movesOf number turns) scene) := by
  induction turns generalizing traffic scene with
  | nil => exact ⟨rfl, shown⟩
  | cons turn rest ih =>
      have ownMove := own turn List.mem_cons_self
      have ownRest : ∀ later ∈ rest, later.move.isOwn = true :=
        fun later member => own later (List.mem_cons_of_mem turn member)
      by_cases mine : turn.number = number
      · obtain ⟨answers, after⟩ := policy.turn_own shown turn mine ownMove
        obtain ⟨later, final⟩ := ih ownRest after
        have moves : Turn.movesOf number (turn :: rest) =
            turn.move :: Turn.movesOf number rest := by
          simp [Turn.movesOf, mine]
        rw [moves]
        refine ⟨?_, final⟩
        rw [answersInTurns, List.filter_append, later, answers, answers_cons, List.map_append]
        congr 1
        apply List.filter_eq_self.mpr
        intro answer member
        obtain ⟨_, _, rfl⟩ := List.mem_map.mp member
        exact beq_self_eq_true _
      · obtain ⟨silent, after⟩ := policy.turn_other shown turn mine ownMove
        obtain ⟨later, final⟩ := ih ownRest after
        have moves : Turn.movesOf number (turn :: rest) = Turn.movesOf number rest := by
          simp [Turn.movesOf, mine]
        rw [moves]
        refine ⟨?_, final⟩
        rw [answersInTurns, List.filter_append, silent, later, List.nil_append]

end Policy

/-- Attempts on different messages do not disturb each other, although they share the stores. While
the condition of the stores stays the same, and no single appends are refused, every attempt gets
the answers that it would get alone and comes to the same request and state, and the logs and the
queue file come to hold the same about its message. -/
theorem attempts_do_not_disturb (policy : Policy) (attempts : List Attempt) (stores : Stores)
    (turns : List Turn)
    (apart : (attempts.map fun attempt => attempt.request.queueId).Nodup)
    (unrefused : ∀ outcome, (stores.log outcome).backend.refused = [])
    (steady : ∀ turn ∈ turns, ∀ condition, turn.move ≠ .condition condition)
    (number : Nat) (attempt : Attempt) (member : attempts[number]? = some attempt) :
    let start : Traffic := ⟨attempts, stores⟩
    let together := policy.takeTurns turns start
    let moves := Turn.movesOf number turns
    let alone := policy.run moves ⟨attempt, stores⟩
    let queueId := attempt.request.queueId
    ((policy.answersInTurns turns start).filter fun answer => answer.1 == number).map Prod.snd =
        policy.answers moves ⟨attempt, stores⟩ ∧
      together.attempts[number]? = some alone.attempt ∧
      (∀ outcome, together.stores.recordsOf queueId outcome =
        alone.stores.recordsOf queueId outcome) ∧
      together.stores.deliveredOf queueId = alone.stores.deliveredOf queueId := by
  intro start together moves alone queueId
  have shown : start.Shows number ⟨attempt, stores⟩ := by
    refine ⟨member, fun other different elsewhere found same => ?_, .refl _ stores, unrefused⟩
    have inside : number < (attempts.map fun attempt => attempt.request.queueId).length := by
      rw [List.length_map]
      exact (List.getElem?_eq_some_iff.mp member).1
    have twice : (attempts.map fun attempt => attempt.request.queueId)[number]? =
        (attempts.map fun attempt => attempt.request.queueId)[other]? := by
      rw [List.getElem?_map, List.getElem?_map, member, show attempts[other]? = _ from found]
      exact congrArg some same.symm
    exact elsewhere ((List.getElem?_inj inside apart).mp twice).symm
  have own : ∀ turn ∈ turns, turn.move.isOwn = true := by
    intro turn among
    cases made : turn.move with
    | condition condition => exact absurd made (steady turn among condition)
    | _ => rfl
  obtain ⟨answers, final⟩ := policy.takeTurns_shows turns own shown
  have agree := final.agree
  rw [(policy.run_posts (Turn.movesOf number turns) ⟨attempt, stores⟩).queueId] at agree
  refine ⟨?_, final.found, agree.records, agree.delivered⟩
  rw [answers, List.map_map]
  exact List.map_id _

/-- Two attempts take turns while the log of bounces fails. The second is deferred as it would be
alone. -/
theorem attempts_do_not_disturb_failing_bounceLog :
    let request (text : String) : Request := ⟨⟨text⟩, ⟨0, 0, by decide, by decide, by decide⟩, ⟨0⟩,
      ⟨[⟨"a", "a@x", 10, .pending⟩]⟩, none⟩
    let attempts := [Attempt.start (request "4F"), Attempt.start (request "5G")]
    let stores := Stores.empty.apply (.failing (.log .bounced) true)
    let turns : List Turn := [⟨0, .markFinal⟩, ⟨1, .trouble (.host 550 "no")⟩,
      ⟨0, .trouble (.host 450 "busy")⟩, ⟨1, .trouble (.host 451 "late")⟩,
      ⟨0, .trouble (.recipient 550 1 "who")⟩]
    let together := Policy.standard.takeTurns turns ⟨attempts, stores⟩
    (together.stores.records .deferred).length = 2 ∧
      together.stores.recordsOf ⟨"5G"⟩ .deferred =
        [(request "5G").record ⟨"a", "a@x", 10, .pending⟩ "none" "late"] ∧
      together.stores.deliveredOf ⟨"5G"⟩ = [(⟨"5G"⟩, 10)] := by
  intro request attempts stores turns together
  have steady : ∀ turn ∈ turns, ∀ condition, turn.move ≠ .condition condition := by
    simp [turns]
  obtain ⟨_, _, records, delivered⟩ := attempts_do_not_disturb .standard attempts stores turns
    (by decide) (fun outcome => by cases outcome <;> rfl) steady 1 (.start (request "5G")) rfl
  refine ⟨by decide +kernel, (records .deferred).trans ?_, delivered.trans ?_⟩
  · decide +kernel
  · decide +kernel

end Nondelivery
