/-
This file shows that trouble need be reported only once. Unless a log has refused a record, the same
call once more gets the same answer and changes nothing, whatever the condition of the stores is by
then.
-/

import Nondelivery.Proofs.Convergence
import Nondelivery.Proofs.Latches
import Nondelivery.Proofs.MisusedCalls
import Nondelivery.Proofs.SingleRejection
import Nondelivery.Proofs.Softening

namespace Nondelivery

namespace Attempt

/-- What is remembered of a failure that concerns every recipient depends on whether it is passed
over. -/
theorem failureAftermath_eq {first second : Attempt} {code : Nat}
    (same : first.passesOver code = second.passesOver code) (scope : Scope) (reason : String) :
    first.failureAftermath scope code reason = second.failureAftermath scope code reason := by
  rw [failureAftermath, same, failureAftermath]

/-- A failure that concerns every recipient makes the exchanger the last one only if it is not passed
over anyway. -/
theorem passesOver_failureAftermath (attempt : Attempt) (scope : Scope) (code : Nat)
    (reason : String) :
    (attempt.passesOver code && !(attempt.failureAftermath scope code reason).final) =
      attempt.passesOver code := by
  unfold failureAftermath
  cases attempt.passesOver code <;> rfl

end Attempt

namespace Policy

variable (policy : Policy) (trouble : Trouble) (scene : Scene)

/-- A call leaves the connection as it was. -/
theorem session_handle :
    (policy.handle trouble scene).value.scene.attempt.session = scene.attempt.session := by
  rw [handle_eq]
  cases policy.filingFor scene trouble <;> rfl

theorem size_handle :
    (policy.handle trouble scene).value.scene.attempt.request.ledger.size =
      scene.attempt.request.ledger.size := by
  rw [(policy.handle_posts trouble scene).ledger, Ledger.size_completeAll]

theorem passesOver_handle (code : Nat) :
    (policy.handle trouble scene).value.scene.attempt.passesOver code =
      (scene.attempt.passesOver code && !(scene.attempt.aftermath trouble).final) := by
  rw [handle_eq]
  refine (Attempt.passesOver_remember _ _ code).trans ?_
  cases policy.filingFor scene trouble <;> rfl

theorem passesOver_handle_rejection (code index : Nat) (reason : String) :
    (policy.handle (.recipient code index reason) scene).value.scene.attempt.passesOver code =
      scene.attempt.passesOver code := by
  obtain ⟨_, _, final⟩ := policy.frame_handle_rejection code index reason scene
  rw [Attempt.passesOver, final, Attempt.passesOver]

/-- A rejection that is passed over completes nobody. -/
theorem isPending_handle_passing (code index : Nat) (reason : String)
    (passes : scene.attempt.passesOver code = true) :
    let after := (policy.handle (.recipient code index reason) scene).value.scene.attempt
    after.request.ledger.isPending index = scene.attempt.request.ledger.isPending index := by
  intro after
  have unfiled : policy.filingFor scene (.recipient code index reason) = none := if_pos passes
  have ledger := (policy.handle_sameBooks (.recipient code index reason) scene).ledger
  rw [unfiled] at ledger
  exact congrArg (fun ledger => ledger.isPending index) ledger

/-- A failure of the connection is remembered as before when it is reported again. -/
theorem faultAftermath_handle (quiet : Call.endsSearch ⟨trouble, scene⟩ = false) :
    (policy.handle trouble scene).value.scene.attempt.faultAftermath =
      scene.attempt.faultAftermath := by
  have final := policy.finalServer_handle ⟨trouble, scene⟩
  rw [quiet, Bool.or_false] at final
  rw [Attempt.faultAftermath, session_handle, final, Attempt.faultAftermath]

/-- What is remembered of a call is what would be remembered of the same call once more. -/
theorem aftermath_handle :
    (policy.handle trouble scene).value.scene.attempt.aftermath trouble =
      scene.attempt.aftermath trouble := by
  have session := policy.session_handle trouble scene
  have passes := policy.passesOver_handle trouble scene
  cases trouble with
  | host code reason =>
      have again := (passes code).trans (scene.attempt.passesOver_failureAftermath .host code reason)
      exact Attempt.failureAftermath_eq again .host reason
  | message code reason =>
      simp only [Attempt.aftermath, session]
      cases alone : scene.attempt.session.isNone with
      | true => rfl
      | false =>
          have again := passes code
          simp only [Attempt.aftermath, alone, Bool.false_eq_true, if_false,
            Attempt.passesOver_failureAftermath] at again
          exact Attempt.failureAftermath_eq again .message reason
  | recipient code index reason =>
      have again := policy.passesOver_handle_rejection scene code index reason
      simp only [Attempt.aftermath, Attempt.rejectionAftermath, session, size_handle, again]
      cases passing : scene.attempt.passesOver code with
      | false => rfl
      | true => rw [policy.isPending_handle_passing scene code index reason passing]
  | stream fault stage => exact policy.faultAftermath_handle _ scene rfl
  | streamCode code stage =>
      simp only [Attempt.aftermath]
      rw [policy.faultAftermath_handle _ scene rfl]

/-- A call gets the same answer once more. -/
theorem answer_handle :
    (policy.handle trouble scene).value.scene.attempt.answer trouble =
      scene.attempt.answer trouble := by
  have session := policy.session_handle trouble scene
  cases trouble with
  | host code reason => rfl
  | message code reason => simp only [Attempt.answer, Attempt.connectedAnswer, session]
  | recipient code index reason =>
      have again := policy.passesOver_handle_rejection scene code index reason
      simp only [Attempt.answer, Attempt.rejectionAnswer, session, size_handle, again]
  | stream fault stage => simp only [Attempt.answer, Attempt.connectedAnswer, session]
  | streamCode code stage => simp only [Attempt.answer, Attempt.connectedAnswer, session]

/-- Nothing is put on record for misuse. -/
theorem filingFor_misused {misuse : Misuse} (misused : Misused scene trouble misuse) :
    policy.filingFor scene trouble = none := by
  cases misused with
  | message code reason alone => simp [filingFor, alone]
  | unknownRecipient code index reason unknown =>
      have absent := scene.attempt.request.ledger.pending?_of_size_le index unknown
      cases connected : scene.attempt.session <;> simp [filingFor, connected, absent]
  | recipient code index reason known stays alone => simp [filingFor, stays, alone]
  | stream fault stage alone => simp [filingFor, filingForStream, alone]
  | unknownStreamCode code stage unknown =>
      rcases StreamFault.ofCode_cases code with ⟨known, _⟩ | ⟨_, refused⟩
      · omega
      · simp [filingFor, refused, Except.toOption]
  | streamCode code stage known alone =>
      exact Option.bind_eq_none_iff.mpr fun fault _ => by simp [filingForStream, alone]

/-- Whatever is put on record was answered without an error. -/
theorem answered_of_filingFor (filing : Filing)
    (filed : policy.filingFor scene trouble = some filing) :
    ∃ verdict, (policy.handle trouble scene).value.result = .ok verdict := by
  cases answered : (policy.handle trouble scene).value.result with
  | ok verdict => exact ⟨verdict, rfl⟩
  | error misuse =>
      have misused := policy.misused_of_answer trouble scene misuse answered
      rw [policy.filingFor_misused trouble scene misused] at filed
      cases filed

/-- Outcomes are put on record for recipients that the trouble concerns. -/
theorem filingFor_concerned (filing : Filing)
    (filed : policy.filingFor scene trouble = some filing) (index : Nat) (recipient : Recipient)
    (member : (index, recipient) ∈ filing.entries) :
    index ∈ trouble.scope scene.attempt.request.ledger.size := by
  have waits := (policy.filingFor_entries trouble scene filing filed).subset member
  have inside : index < scene.attempt.request.ledger.size := by
    apply Ledger.lt_size_of_isPending
    rw [Ledger.isPending_eq_true]
    exact ⟨recipient, (Ledger.mem_pending _ _ _).mp waits⟩
  cases trouble with
  | host code reason => exact List.mem_range.mpr inside
  | message code reason => exact List.mem_range.mpr inside
  | recipient code named reason =>
      obtain ⟨_, only⟩ := policy.filingFor_rejection_entries code named reason scene filing filed
      rw [only, List.mem_singleton] at member
      exact List.mem_singleton.mpr (Prod.mk.inj member).1
  | stream fault stage => exact List.mem_range.mpr inside
  | streamCode code stage => exact List.mem_range.mpr inside

/-- The log has refused none of the records of the call. -/
def Unrefused : Prop :=
  ∀ exchange ∈ policy.exchanges ⟨trouble, scene⟩, exchange.isRefused = false

/-- If no record is refused, nobody is left for whom the same call could put anything on record. -/
theorem filingFor_handle_entries (unrefused : policy.Unrefused trouble scene) (filing : Filing)
    (filed : policy.filingFor (policy.handle trouble scene).value.scene trouble = some filing) :
    filing.entries = [] := by
  let after := (policy.handle trouble scene).value.scene
  have posts := policy.handle_posts trouble scene
  refine List.eq_nil_iff_forall_not_mem.mpr fun ⟨index, recipient⟩ member => ?_
  -- Whoever waits for the second call waited for the first one, which concerned them as well.
  have waits := (Ledger.mem_pending _ _ _).mp
    ((policy.filingFor_entries trouble after filing filed).subset member)
  obtain ⟨unposted, waited⟩ := posts.pending?_before index recipient waits
  have concerned := policy.filingFor_concerned trouble after filing filed index recipient member
  rw [show after.attempt.request.ledger.size = _ from policy.size_handle trouble scene] at concerned
  obtain ⟨verdict, answered⟩ := policy.answered_of_filingFor trouble after filing filed
  have answeredBefore : (policy.handle trouble scene).value.result = .ok verdict := by
    rw [handle_eq] at answered ⊢
    rw [← answered]
    exact (policy.answer_handle trouble scene).symm
  have stays : scene.leaves trouble = false := by
    rw [← scene.passedOver_aftermath, ← policy.aftermath_handle, Scene.passedOver_aftermath]
    refine Bool.eq_false_iff.mpr fun leaves => ?_
    rw [policy.filingFor_of_leaves trouble after leaves] at filed
    cases filed
  obtain ⟨first, filedFirst, among⟩ := policy.filingFor_covers trouble scene verdict answeredBefore
    stays index recipient concerned waited
  have accepts : first.accepted scene.stores = first.entries := by
    apply first.accepted_of_logged
    rw [first.logFailed_eq scene, List.any_eq_false]
    intro exchange made
    rw [unrefused exchange (by rwa [exchanges, filedFirst])]
    exact Bool.false_ne_true
  apply unposted
  rw [postings, filedFirst, Option.elim_some, first.postings_index, accepts]
  exact List.mem_map_of_mem among

/-- Unless a record is refused, a call changes nothing when it is made once more, whatever the stores
are by then. -/
theorem handle_again_unrefused (unrefused : policy.Unrefused trouble scene) (stores : Stores) :
    let first := (policy.handle trouble scene).value
    (policy.handle trouble ⟨first.scene.attempt, stores⟩).value =
      ⟨first.result, ⟨first.scene.attempt, stores⟩⟩ := by
  intro first
  let again : Scene := ⟨first.scene.attempt, stores⟩
  have idle : again.fileAny (policy.filingFor again trouble) = again := by
    have filings : policy.filingFor again trouble = policy.filingFor first.scene trouble :=
      policy.filingFor_stores first.scene.attempt stores first.scene.stores trouble
    rw [filings]
    cases filed : policy.filingFor first.scene trouble with
    | none => rfl
    | some filing =>
        have nobody := policy.filingFor_handle_entries trouble scene unrefused filing filed
        rcases filing with ⟨outcome, peer, reason, entries⟩
        obtain rfl : entries = [] := nobody
        exact again.file_nil outcome peer reason
  have remembered : again.remember (scene.attempt.aftermath trouble) = again := by
    have handled : first = ⟨_, (scene.fileAny (policy.filingFor scene trouble)).remember
        (scene.attempt.aftermath trouble)⟩ := policy.handle_eq trouble scene
    simp only [again, handled, Scene.remember, Attempt.remember_remember, Aftermath.union_self]
  have answered : first.scene.attempt.answer trouble = first.result := by
    rw [policy.answer_handle, show first = _ from policy.handle_eq trouble scene]
  rw [handle_eq, idle, policy.aftermath_handle, remembered, answered]

/-- Changes in the condition of the stores concern the stores alone. -/
theorem run_conditions_eq (conditions : List Condition) (attempt : Attempt) (stores : Stores) :
    policy.run (conditions.map Move.condition) ⟨attempt, stores⟩ =
      ⟨attempt, conditions.foldl Stores.apply stores⟩ := by
  induction conditions generalizing stores with
  | nil => rfl
  | cons condition rest ih => exact ih (stores.apply condition)

/-- Unless a record is refused, a call is answered alike however often it is made again, and nothing
but the condition of the stores changes. -/
theorem run_again_unrefused (unrefused : policy.Unrefused trouble scene)
    (rounds : List (List Condition)) (stores : Stores) :
    let first := (policy.handle trouble scene).value
    let start : Scene := ⟨first.scene.attempt, stores⟩
    policy.answers (insisting trouble rounds) start =
        List.replicate rounds.length first.result ∧
      policy.run (insisting trouble rounds) start =
        ⟨first.scene.attempt, rounds.flatten.foldl Stores.apply stores⟩ := by
  intro first start
  induction rounds generalizing stores with
  | nil => exact ⟨rfl, rfl⟩
  | cons conditions rest ih =>
      have again := policy.handle_again_unrefused trouble scene unrefused
        (conditions.foldl Stores.apply stores)
      obtain ⟨answers, final⟩ := ih (conditions.foldl Stores.apply stores)
      have changed := policy.run_conditions_eq conditions first.scene.attempt stores
      rw [insisting_cons, run_append, answers_append, answers_conditions, List.nil_append, changed,
        answers_trouble, run_cons, List.flatten_cons, List.foldl_append, answer, after, play, again]
      exact ⟨by rw [answers]; rfl, final⟩

end Policy

/-- Two stores hold the same and have counted the same appends. -/
structure Stores.HoldsSame (left right : Stores) : Prop where
  records : ∀ outcome, left.records outcome = right.records outcome
  appends : ∀ outcome, left.appends outcome = right.appends outcome
  delivered : left.delivered = right.delivered

/-- Changes in the condition of the stores change nothing about what they hold. -/
theorem Stores.holdsSame_apply (conditions : List Condition) (stores : Stores) :
    (conditions.foldl Stores.apply stores).HoldsSame stores := by
  induction conditions generalizing stores with
  | nil => exact ⟨fun _ => rfl, fun _ => rfl, rfl⟩
  | cons condition rest ih =>
      have later := ih (stores.apply condition)
      exact {
        records := fun outcome => (later.records outcome).trans (records_apply _ _ _)
        appends := fun outcome => (later.appends outcome).trans (appends_apply _ _ _)
        delivered := later.delivered.trans (delivered_apply _ _) }

/-- Trouble need be reported only once. If no record of a call is refused, the same call made again
gets the same answer and changes nothing at all, whatever the stores are by then. However often it is
made, with any changes in the condition of the stores before each call, the attempt stays as it is
and the stores hold what they held, although they are in another condition. -/
theorem repeated_call_changes_nothing (policy : Policy) (trouble : Trouble) (scene : Scene)
    (unrefused : ∀ exchange ∈ policy.exchanges ⟨trouble, scene⟩, exchange.isRefused = false) :
    let first := (policy.handle trouble scene).value
    (∀ stores, (policy.handle trouble ⟨first.scene.attempt, stores⟩).value =
      ⟨first.result, ⟨first.scene.attempt, stores⟩⟩) ∧
    ∀ rounds : List (List Condition),
      let final := policy.run (insisting trouble rounds) first.scene
      policy.answers (insisting trouble rounds) first.scene =
          List.replicate rounds.length first.result ∧
        final = { first.scene with
          stores := rounds.flatten.foldl Stores.apply first.scene.stores } ∧
        final.stores.HoldsSame first.scene.stores := by
  intro first
  refine ⟨policy.handle_again_unrefused trouble scene unrefused, fun rounds => ?_⟩
  obtain ⟨answers, final⟩ :=
    policy.run_again_unrefused trouble scene unrefused rounds first.scene.stores
  refine ⟨answers, final, ?_⟩
  rw [show policy.run (insisting trouble rounds) first.scene = _ from final]
  exact Stores.holdsSame_apply _ _

/-- The last exchanger is too busy, and the queue file does not hear of the deferrals. The failure is
reported twice more, to a log that fails by then and to one that is cut off, and changes nothing. -/
theorem repeated_call_changes_nothing_failing_queue :
    let recipients : List Recipient := [⟨"a", "a@x", 10, .pending⟩, ⟨"b", "b@x", 20, .completed⟩,
      ⟨"c", "c@x", 30, .pending⟩]
    let request : Request :=
      ⟨⟨"4F"⟩, ⟨0, 0, by decide, by decide, by decide⟩, ⟨0⟩, ⟨recipients⟩, none⟩
    let scene : Scene := ⟨⟨request, none, { finalServer := true }⟩,
      Stores.empty.apply (.failing .queue true)⟩
    let trouble : Trouble := .host 450 "busy"
    let rounds : List (List Condition) := [[.failing .queue false, .failing (.log .deferred) true],
      [.logOutage .deferred (some (.io "disk full"))]]
    let first := (Policy.standard.handle trouble scene).value.scene
    let final := Policy.standard.run (insisting trouble rounds) first
    (∀ exchange ∈ Policy.standard.exchanges ⟨trouble, scene⟩, exchange.isRefused = false) ∧
      final.attempt = first.attempt ∧ final.stores.HoldsSame first.stores ∧
      first.attempt.request.hopStatus = some "busy" ∧
      first.attempt.state.shortfall = .queueFailedOnly ∧
      (first.stores.records .deferred).map Record.address = ["a@x", "c@x"] := by
  intro recipients request scene trouble rounds first final
  have accepted : ((Policy.standard.exchanges ⟨trouble, scene⟩).any Exchange.isRefused) = false := by
    decide +kernel
  have unrefused : ∀ exchange ∈ Policy.standard.exchanges ⟨trouble, scene⟩,
      exchange.isRefused = false := by
    simpa only [List.any_eq_false, Bool.not_eq_true] using accepted
  obtain ⟨_, again⟩ := repeated_call_changes_nothing .standard trouble scene unrefused
  obtain ⟨_, unchanged, same⟩ := again rounds
  have attempt : final.attempt = first.attempt := by
    rw [show final = _ from unchanged]
  exact ⟨unrefused, attempt, same, by decide +kernel, by decide +kernel,
    by decide +kernel⟩

end Nondelivery
