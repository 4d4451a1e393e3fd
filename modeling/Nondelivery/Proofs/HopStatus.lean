/-
This file says what stands behind the hop status. It becomes the reason of the first soft failure of
the last exchanger, and whatever that call puts on record names the same reason. But it does so even
when the call puts nothing on record, because nobody waits or because the log refuses every record.
-/

import Nondelivery.Proofs.Exchange
import Nondelivery.Proofs.Latches

namespace Nondelivery

/-- All exchanges about several records are about the same outcome. -/
theorem Stores.outcome_of_mem_exchanges (outcome : Outcome) (items : List (Nat × Record))
    (stores : Stores) (exchange : Exchange)
    (member : exchange ∈ exchanges outcome items stores) : exchange.outcome = outcome := by
  induction items generalizing stores with
  | nil => exact absurd member List.not_mem_nil
  | cons item rest ih =>
      rcases List.mem_cons.mp member with rfl | later
      · rfl
      · exact ih _ later

/-- The exchanges of a filing name its outcome and its reason. -/
theorem Filing.exchanges_name (filing : Filing) (scene : Scene) (exchange : Exchange)
    (member : exchange ∈ filing.exchanges scene) :
    exchange.outcome = filing.outcome ∧ exchange.record.reason = filing.reason := by
  have about := Stores.mem_of_mem_exchanges _ _ _ exchange member
  obtain ⟨entry, _, same⟩ := List.mem_map.mp about
  refine ⟨Stores.outcome_of_mem_exchanges _ _ _ exchange member, ?_⟩
  rw [← (Prod.mk.inj same).2]
  rfl

namespace Policy

variable (policy : Policy)

/-- What a call appends to a log are the records for it that are not refused. -/
theorem mem_appended_iff (outcome : Outcome) (call : Call) (record : Record) :
    record ∈ policy.appended outcome call ↔ ∃ exchange ∈ policy.exchanges call,
      exchange.isRefused = false ∧ exchange.outcome = outcome ∧ exchange.record = record := by
  rw [appended, (policy.handle_exchanged call).records, List.drop_left, Outcome.posted]
  simp only [List.mem_map, List.mem_filter, Bool.not_eq_true', beq_iff_eq]
  constructor
  · rintro ⟨_, ⟨⟨exchange, ⟨member, taken⟩, rfl⟩, same⟩, rfl⟩
    exact ⟨exchange, member, taken, same, rfl⟩
  · rintro ⟨exchange, member, taken, same, rfl⟩
    exact ⟨exchange.posting, ⟨⟨exchange, ⟨member, taken⟩, rfl⟩, same⟩, rfl⟩

/-- A soft failure of the last exchanger is offered to the log of deferrals for everybody who
waits. -/
theorem exchanges_softHost (code : Nat) (reason : String) (scene : Scene)
    (soft : code / 100 = 4) (final : scene.attempt.state.finalServer = true) :
    let exchanges := policy.exchanges ⟨.host code reason, scene⟩
    exchanges.map Exchange.index = scene.attempt.request.ledger.pendingIndices ∧
      ∀ exchange ∈ exchanges, exchange.outcome = .deferred ∧ exchange.record.reason = reason := by
  let filing : Filing := ⟨.deferred, scene.attempt.peerLabel, reason,
    scene.attempt.request.ledger.pending⟩
  have stays : scene.passesOver (.ofCode code) = false := by
    rw [Scene.passesOver, final, Bool.not_true, Bool.and_false]
  have deferral : (Severity.ofCode code).outcome.soften policy.softBounce = .deferred := by
    rw [Severity.soften_outcome_ofCode, if_pos (.inl soft)]
  have filed : policy.filingFor scene (.host code reason) = some filing := by
    rw [filingFor, stays, if_neg Bool.false_ne_true, Policy.filing, deferral]
  have made : policy.exchanges ⟨.host code reason, scene⟩ = filing.exchanges scene := by
    rw [Policy.exchanges, filed, Option.elim_some]
  dsimp only
  rw [made]
  exact ⟨filing.exchanges_index scene, filing.exchanges_name scene⟩

/-- A failure of the exchanger sets the hop status just when it is soft, the exchanger is the last
one, and no hop status was set before. -/
theorem hopStatus_set (code : Nat) (reason : String) (scene : Scene)
    (unset : scene.attempt.request.hopStatus = none) :
    (policy.handle (.host code reason) scene).value.scene.attempt.request.hopStatus =
      if code / 100 = 4 ∧ scene.attempt.state.finalServer = true then some reason else none := by
  have offered := policy.hopStatus_handle ⟨.host code reason, scene⟩
  rw [unset] at offered
  exact offered

/-- After a soft failure of the last exchanger a deferral with its reason is on record just when the
log does not refuse everybody who waits. -/
theorem deferral_softHost (code : Nat) (reason : String) (scene : Scene)
    (soft : code / 100 = 4) (final : scene.attempt.state.finalServer = true) :
    let call : Call := ⟨.host code reason, scene⟩
    (∃ record ∈ policy.appended .deferred call, record.reason = reason) ↔
      ∃ exchange ∈ policy.exchanges call, exchange.isRefused = false := by
  intro call
  obtain ⟨_, names⟩ := policy.exchanges_softHost code reason scene soft final
  constructor
  · rintro ⟨record, appended, _⟩
    obtain ⟨exchange, member, taken, _⟩ := (policy.mem_appended_iff _ _ _).mp appended
    exact ⟨exchange, member, taken⟩
  · rintro ⟨exchange, member, taken⟩
    obtain ⟨deferred, named⟩ := names exchange member
    have appended := (policy.mem_appended_iff .deferred call exchange.record).mpr
      ⟨exchange, member, taken, deferred, rfl⟩
    exact ⟨exchange.record, appended, named⟩

end Policy

/-- A failure of the exchanger sets the hop status, if it is not set yet, just when the failure is
soft and the exchanger is the last one. The hop status is then the reason of the call, everybody who
waits is offered to the log of deferrals with this reason, and the log has a record with the hop
status just when it does not refuse all of them. So if it does, or if nobody waits, the hop status
is set without a deferral on record. -/
theorem hopStatus_set_iff (policy : Policy) (code : Nat) (reason : String) (scene : Scene) :
    let call : Call := ⟨.host code reason, scene⟩
    let handled := (policy.handle call.trouble scene).value.scene
    let before := scene.attempt.request.hopStatus
    let after := handled.attempt.request.hopStatus
    let latched := before = none ∧ after ≠ none
    let due := before = none ∧ code / 100 = 4 ∧ scene.attempt.state.finalServer = true
    let backed := ∃ record ∈ policy.appended .deferred call, after = some record.reason
    let exchanges := policy.exchanges call
    (latched ↔ due) ∧
    (latched → after = some reason ∧ scene.Exchanged handled exchanges ∧
      exchanges.map Exchange.index = scene.attempt.request.ledger.pendingIndices ∧
      ∀ exchange ∈ exchanges, exchange.outcome = .deferred ∧ exchange.record.reason = reason) ∧
    (latched ∧ backed ↔ due ∧ ∃ exchange ∈ exchanges, exchange.isRefused = false) ∧
    (latched ∧ ¬ backed ↔ due ∧ ∀ exchange ∈ exchanges, exchange.isRefused = true) := by
  intro call handled before after latched due backed exchanges
  have latchedIff : latched ↔ due := by
    apply and_congr_right
    intro unset
    rw [show after = _ from policy.hopStatus_set code reason scene unset]
    simp
  have reached : due → after = some reason := by
    rintro ⟨unset, soft, final⟩
    rw [show after = _ from policy.hopStatus_set code reason scene unset, if_pos ⟨soft, final⟩]
  have backedIff : due → (backed ↔ ∃ exchange ∈ exchanges, exchange.isRefused = false) := by
    intro isDue
    refine Iff.trans ?_ (policy.deferral_softHost code reason scene isDue.2.1 isDue.2.2)
    simp only [backed, reached isDue, Option.some.injEq, eq_comm (a := reason)]
    rfl
  refine ⟨latchedIff, fun isLatched => ?_, ?_, ?_⟩
  · have isDue := latchedIff.mp isLatched
    exact ⟨reached isDue, policy.handle_exchanged call,
      policy.exchanges_softHost code reason scene isDue.2.1 isDue.2.2⟩
  · rw [latchedIff]
    exact and_congr_right backedIff
  · rw [latchedIff]
    apply and_congr_right
    intro isDue
    rw [backedIff isDue]
    simp

/-- The log of deferrals is down when the last exchanger fails softly. The hop status is set,
although the only recipient waits on and no deferral is on record. -/
theorem hopStatus_without_deferral :
    let request : Request := ⟨⟨"4F"⟩, ⟨0, 0, by decide, by decide, by decide⟩, ⟨0⟩,
      ⟨[⟨"a", "a@x", 10, .pending⟩]⟩, none⟩
    let moves : List Move := [.markFinal, .condition (.failing (.log .deferred) true)]
    let call : Call := ⟨.host 421 "busy", Policy.standard.run moves ⟨.start request, .empty⟩⟩
    let after := (Policy.standard.handle call.trouble call.scene).value.scene
    call.scene.attempt.request.hopStatus = none ∧
      after.attempt.request.hopStatus = some "busy" ∧
      after.stores.records .deferred = [] ∧
      ¬ (call.scene.attempt.request.hopStatus = none ∧ after.attempt.request.hopStatus ≠ none →
        ∃ record ∈ Policy.standard.appended .deferred call,
          after.attempt.request.hopStatus = some record.reason) := by
  intro request moves call after
  have unset : call.scene.attempt.request.hopStatus = none := by decide +kernel
  have latched : after.attempt.request.hopStatus = some "busy" := by decide +kernel
  have nothing : Policy.standard.appended .deferred call = [] := by decide +kernel
  refine ⟨unset, latched, by decide +kernel, fun documented => ?_⟩
  have changed : after.attempt.request.hopStatus ≠ none := by
    rw [latched]
    exact Option.some_ne_none _
  obtain ⟨record, appended, _⟩ := documented ⟨unset, changed⟩
  rw [nothing] at appended
  cases appended

end Nondelivery
