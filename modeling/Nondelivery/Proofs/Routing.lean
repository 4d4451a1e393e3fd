/-
This file says where the records in the logs come from. Over any course of moves, a bounce is
recorded only for a failure that is not soft, and soft trouble leaves everything alone as long as
another exchanger may still take the message.
-/

import Nondelivery.Proofs.Run

namespace Nondelivery

namespace Trouble

/-- Trouble is soft when the code of the exchanger is a 4xx code, or when the connection failed. -/
def isSoft : Trouble → Bool
  | .host code _ => code / 100 == 4
  | .message code _ => code / 100 == 4
  | .recipient code _ _ => code / 100 == 4
  | .stream _ _ => true
  | .streamCode _ _ => true

/-- How serious trouble is. -/
def severity : Trouble → Severity
  | .host code _ => .ofCode code
  | .message code _ => .ofCode code
  | .recipient code _ _ => .ofCode code
  | .stream _ _ => .soft
  | .streamCode _ _ => .soft

theorem isSoft_eq (trouble : Trouble) : trouble.isSoft = trouble.severity.isSoft := by
  cases trouble <;> simp [isSoft, severity, Severity.isSoft_ofCode] <;> rfl

end Trouble

/-- A bounce is left only of what is not soft, while bounces are not softened. -/
theorem Severity.soften_outcome_eq_bounced (severity : Severity) (softBounce : Bool) :
    severity.outcome.soften softBounce = .bounced ↔
      severity.isSoft = false ∧ softBounce = false := by
  cases severity <;> cases softBounce <;> decide

/-- No connection is mistaken for the lack of one. -/
theorem Session.label_ne_none (session : Session) : session.label ≠ "none" := by
  intro same
  have last : session.label.toList.getLast? = some ']' := by
    rw [label, String.toList_append]
    exact List.getLast?_concat
  rw [same] at last
  cases last

/-- The peer and the reason that are put on record for trouble, given the connection at that time.
Only a failure of the exchanger can be put on record without a connection. -/
inductive Attribution : Option Session → Trouble → (peer reason : String) → Prop where
  | unconnected (code : Nat) (reason : String) :
      Attribution none (.host code reason) "none" reason
  | host (session : Session) (code : Nat) (reason : String) :
      Attribution (some session) (.host code reason) session.label reason
  | message (session : Session) (code : Nat) (reason : String) :
      Attribution (some session) (.message code reason) session.label reason
  | recipient (session : Session) (code index : Nat) (reason : String) :
      Attribution (some session) (.recipient code index reason) session.label reason
  | stream (session : Session) (fault : StreamFault) (stage : String) :
      Attribution (some session) (.stream fault stage) session.label
        (fault.reason session.label stage)
  | streamCode (session : Session) (code : Int) (fault : StreamFault) (stage : String)
      (known : StreamFault.ofCode code = .ok fault) :
      Attribution (some session) (.streamCode code stage) session.label
        (fault.reason session.label stage)

theorem Attribution.peerLabel (attempt : Attempt) (code : Nat) (reason : String) :
    Attribution attempt.session (.host code reason) attempt.peerLabel reason := by
  unfold Attempt.peerLabel
  cases attempt.session with
  | none => exact .unconnected code reason
  | some session => exact .host session code reason

/-- Records that name no peer come from a failure of the exchanger without a connection. -/
theorem Attribution.unconnected_of_none {session : Option Session} {trouble : Trouble}
    {peer reason : String} (attribution : Attribution session trouble peer reason)
    (nobody : peer = "none") :
    session = none ∧ ∃ code, trouble = .host code reason := by
  cases attribution with
  | unconnected code reason => exact ⟨rfl, code, rfl⟩
  | host session code reason => exact absurd nobody session.label_ne_none
  | message session code reason => exact absurd nobody session.label_ne_none
  | recipient session code index reason => exact absurd nobody session.label_ne_none
  | stream session fault stage => exact absurd nobody session.label_ne_none
  | streamCode session code fault stage known => exact absurd nobody session.label_ne_none

namespace Policy

variable (policy : Policy)

/-- What is known of a filing for trouble: it follows the severity of the trouble, it comes before
the last exchanger only if the trouble is not soft, and it tells where it comes from. -/
structure Founded (scene : Scene) (trouble : Trouble) (filing : Filing) : Prop where
  outcome : filing.outcome = trouble.severity.outcome.soften policy.softBounce
  settled : trouble.isSoft = true → scene.attempt.state.finalServer = true
  attribution : Attribution scene.attempt.session trouble filing.peer filing.reason

/-- A soft failure that is not passed over comes from the last exchanger. -/
theorem final_of_stays (code : Nat) (scene : Scene)
    (stays : ¬ scene.passesOver (.ofCode code) = true) (soft : (code / 100 == 4) = true) :
    scene.attempt.state.finalServer = true := by
  have isSoft : (Severity.ofCode code).isSoft = true := by
    rw [Severity.isSoft_ofCode]
    simpa using soft
  simpa [Scene.passesOver, isSoft] using stays

theorem filingFor_founded (trouble : Trouble) (scene : Scene) (filing : Filing)
    (filed : policy.filingFor scene trouble = some filing) :
    policy.Founded scene trouble filing := by
  cases trouble with
  | host code reason =>
      simp only [filingFor] at filed
      split at filed
      · cases filed
      · obtain rfl := Option.some.inj filed
        exact ⟨rfl, final_of_stays code scene ‹_›, .peerLabel scene.attempt code reason⟩
  | message code reason =>
      simp only [filingFor] at filed
      split at filed
      · cases filed
      · rename_i stays
        obtain rfl := Option.some.inj filed
        obtain ⟨present, stays⟩ : scene.attempt.session ≠ none ∧
            ¬ scene.passesOver (.ofCode code) = true := by simpa using stays
        obtain ⟨session, connected⟩ := Option.ne_none_iff_exists'.mp present
        refine ⟨rfl, final_of_stays code scene stays, ?_⟩
        have label : scene.attempt.peerLabel = session.label := by
          rw [Attempt.peerLabel, connected]
          rfl
        rw [connected, filing, label]
        exact .message session code reason
  | recipient code index reason =>
      simp only [filingFor] at filed
      split at filed
      · cases filed
      · obtain ⟨session, connected, chosen⟩ := Option.bind_eq_some_iff.mp filed
        obtain ⟨recipient, _, rfl⟩ := Option.map_eq_some_iff.mp chosen
        refine ⟨rfl, final_of_stays code scene ‹_›, ?_⟩
        rw [connected]
        exact .recipient session code index reason
  | stream fault stage =>
      obtain ⟨session, connected, final, rfl⟩ :=
        policy.filingForStream_eq_some fault stage scene filing filed
      refine ⟨rfl, fun _ => final, ?_⟩
      rw [connected]
      exact .stream session fault stage
  | streamCode code stage =>
      obtain ⟨fault, known, chosen⟩ := Option.bind_eq_some_iff.mp filed
      obtain ⟨session, connected, final, rfl⟩ :=
        policy.filingForStream_eq_some fault stage scene filing chosen
      have found : StreamFault.ofCode code = .ok fault := by
        cases found : StreamFault.ofCode code <;> simp_all [Except.toOption]
      refine ⟨rfl, fun _ => final, ?_⟩
      rw [connected]
      exact .streamCode session code fault stage found

/-- The records that a call appends to the log for an outcome. -/
def appended (outcome : Outcome) (call : Call) : List Record :=
  ((policy.handle call.trouble call.scene).value.scene.stores.records outcome).drop
    (call.scene.stores.records outcome).length

theorem appended_eq (outcome : Outcome) (call : Call) :
    policy.appended outcome call =
      outcome.posted (policy.postings call.trouble call.scene) := by
  rw [appended, (policy.handle_posts call.trouble call.scene).records, List.drop_left]

/-- Every record that a call appends belongs to one filing for its trouble. -/
theorem appended_founded (outcome : Outcome) (call : Call) (record : Record)
    (member : record ∈ policy.appended outcome call) :
    ∃ filing, policy.Founded call.scene call.trouble filing ∧ filing.outcome = outcome ∧
      record.peer = filing.peer ∧ record.reason = filing.reason := by
  rw [appended_eq, postings] at member
  cases filed : policy.filingFor call.scene call.trouble with
  | none =>
      rw [filed] at member
      cases member
  | some filing =>
      rw [filed, Option.elim_some, Filing.posted_postings] at member
      split at member
      · rename_i same
        obtain ⟨posting, posted, rfl⟩ := List.mem_map.mp member
        obtain ⟨entry, _, rfl⟩ := List.mem_map.mp posted
        exact ⟨filing, policy.filingFor_founded call.trouble call.scene filing filed, same.symm,
          rfl, rfl⟩
      · cases member

/-- The logs gain what the calls append, call after call. -/
theorem run_records (outcome : Outcome) (moves : List Move) (scene : Scene) :
    (policy.run moves scene).stores.records outcome =
      scene.stores.records outcome ++
        (policy.calls moves scene).flatMap (policy.appended outcome) := by
  have each : policy.appended outcome = fun call =>
      outcome.posted (policy.postings call.trouble call.scene) :=
    funext fun call => policy.appended_eq outcome call
  rw [(policy.run_posts moves scene).records, each, history, Outcome.posted, List.filter_flatMap,
    List.map_flatMap]
  rfl

/-- While another exchanger may still take the message, what soft trouble reports does not depend on
the stores. -/
theorem handle_soft_trace (trouble : Trouble) (attempt : Attempt) (soft : trouble.isSoft = true)
    (early : attempt.state.finalServer = false) (stores : Stores) :
    (policy.handle trouble ⟨attempt, stores⟩).trace =
      (policy.handle trouble ⟨attempt, .empty⟩).trace := by
  rw [Trouble.isSoft_eq] at soft
  have passes (code : Nat) (softCode : (Severity.ofCode code).isSoft = true) (stores : Stores) :
      Scene.passesOver ⟨attempt, stores⟩ (.ofCode code) = true := by
    simp only [Scene.passesOver, softCode, early, Bool.not_false, Bool.and_self]
  cases trouble with
  | host code reason =>
      simp only [handle, hostFailure, failAll, passes code soft, if_true, Scene.passOver,
        Scene.checkCode]
      split <;> rfl
  | message code reason =>
      simp only [handle, messageFailure, failAll, passes code soft, if_true, Scene.passOver,
        Scene.checkCode]
      split
      · rfl
      · split <;> rfl
  | recipient code index reason =>
      simp only [handle, recipientFailure, rejectRecipient, passes code soft, if_true,
        Scene.passOver, Scene.checkCode]
      split
      · rfl
      · split <;> simp only [Traced.trace_bind, Traced.value_bind, Traced.value_pure] <;>
          cases attempt.request.ledger.isPending index <;> rfl
  | stream fault stage =>
      simp only [handle, streamFailure, early]
      cases attempt.session <;> rfl
  | streamCode code stage =>
      simp only [handle, streamCodeFailure, streamFailure, early]
      cases StreamFault.ofCode code <;> cases attempt.session <;> rfl

/-- Soft trouble does not reach the stores while another exchanger may still take the message, and
leaves the request alone: whatever the stores are, the call goes the same way. -/
theorem handle_soft (trouble : Trouble) (attempt : Attempt) (soft : trouble.isSoft = true)
    (early : attempt.state.finalServer = false) :
    ∃ answer after trace, after.request = attempt.request ∧ ∀ stores,
      policy.handle trouble ⟨attempt, stores⟩ = ⟨⟨answer, ⟨after, stores⟩⟩, trace⟩ := by
  have unfiled : ∀ stores, policy.filingFor ⟨attempt, stores⟩ trouble = none := by
    intro stores
    apply Option.eq_none_iff_forall_ne_some.mpr
    intro filing filed
    have final := (policy.filingFor_founded trouble _ filing filed).settled soft
    rw [early] at final
    cases final
  refine ⟨attempt.answer trouble, attempt.remember (attempt.aftermath trouble),
    (policy.handle trouble ⟨attempt, .empty⟩).trace, ?_, fun stores => ?_⟩
  · have kept := attempt.hopStatus_aftermath_early trouble early
    simp [Attempt.remember, kept]
  · have value := policy.handle_eq trouble ⟨attempt, stores⟩
    rw [unfiled] at value
    rw [← policy.handle_soft_trace trouble attempt soft early stores]
    exact congrArg (Traced.mk · _) value

end Policy

/-- Where the records of a course of moves come from. The logs gain what the calls append, call after
call. A bounce is recorded only for trouble that is not soft, while bounces are not softened; a
deferral only for soft trouble with the last exchanger, or for a softened bounce. Each record names
the peer and the reason of its call; nobody is named only for a failure of the exchanger without a
connection. Soft trouble leaves the request and the stores alone while another exchanger may still
take the message: the call goes the same way whatever the stores are. -/
theorem run_routes_records (policy : Policy) (moves : List Move) (start : Scene) :
    let calls := policy.calls moves start
    (∀ outcome, (policy.run moves start).stores.records outcome =
      start.stores.records outcome ++ calls.flatMap (policy.appended outcome)) ∧
    ∀ call ∈ calls,
      (∀ record ∈ policy.appended .bounced call,
        call.trouble.isSoft = false ∧ policy.softBounce = false) ∧
      (∀ record ∈ policy.appended .deferred call,
        (call.trouble.isSoft = true ∧ call.scene.attempt.state.finalServer = true) ∨
          (call.trouble.isSoft = false ∧ policy.softBounce = true)) ∧
      (∀ outcome, ∀ record ∈ policy.appended outcome call,
        Attribution call.scene.attempt.session call.trouble record.peer record.reason ∧
          (record.peer = "none" → call.scene.attempt.session = none ∧
            ∃ code, call.trouble = .host code record.reason)) ∧
      (call.trouble.isSoft = true → call.scene.attempt.state.finalServer = false →
        ∃ answer after trace, after.request = call.scene.attempt.request ∧ ∀ stores,
          policy.handle call.trouble ⟨call.scene.attempt, stores⟩ =
            ⟨⟨answer, ⟨after, stores⟩⟩, trace⟩) := by
  intro calls
  refine ⟨fun outcome => policy.run_records outcome moves start, fun call _ =>
    ⟨fun record member => ?_, fun record member => ?_, fun outcome record member => ?_,
      policy.handle_soft call.trouble call.scene.attempt⟩⟩
  · obtain ⟨filing, founded, same, _, _⟩ := policy.appended_founded .bounced call record member
    rw [Trouble.isSoft_eq]
    exact (Severity.soften_outcome_eq_bounced _ _).mp (founded.outcome.symm.trans same)
  · obtain ⟨filing, founded, same, _, _⟩ := policy.appended_founded .deferred call record member
    have notBounced : ¬ (call.trouble.severity.isSoft = false ∧ policy.softBounce = false) := by
      rw [← Severity.soften_outcome_eq_bounced, ← founded.outcome, same]
      exact nofun
    have final := founded.settled
    rw [Trouble.isSoft_eq] at final ⊢
    cases soft : call.trouble.severity.isSoft with
    | true => exact .inl ⟨rfl, final soft⟩
    | false => exact .inr ⟨rfl, eq_true_of_ne_false fun off => notBounced ⟨soft, off⟩⟩
  · obtain ⟨filing, founded, _, peer, reason⟩ :=
      policy.appended_founded outcome call record member
    rw [peer, reason]
    exact ⟨founded.attribution, founded.attribution.unconnected_of_none⟩

end Nondelivery
