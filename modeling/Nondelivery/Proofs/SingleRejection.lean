/-
This file shows that the rejection of one recipient is a matter of that recipient alone. It touches
nobody else and none of the latches, it offers at most one record to the logs, and what comes of it
does not depend on who else is in the ledger.
-/

import Nondelivery.Proofs.Exchange
import Nondelivery.Proofs.InertRecipients

namespace Nondelivery

namespace Stores

/-- How many appends the log for an outcome has counted. -/
def appends (stores : Stores) (outcome : Outcome) : Nat :=
  (stores.log outcome).backend.appends

theorem appends_keepAll (outcome other : Outcome) (records : List Record) (stores : Stores) :
    (stores.keepAll outcome records).appends other = stores.appends other +
      if other = outcome ∧ (stores.log outcome).outage = none then records.length else 0 := by
  unfold appends
  by_cases same : other = outcome
  · subst same
    rw [log_keepAll, Reachable.update]
    cases (stores.log other).outage <;> simp [Logbook.appendAll]
  · rw [log_keepAll_other same, if_neg fun both => same both.1, Nat.add_zero]

end Stores

/-- Two attempts agree on what the rejection of the recipient at an index depends on. -/
structure Attempt.AgreesAt (index : Nat) (left right : Attempt) : Prop where
  session : left.session = right.session
  finalServer : left.state.finalServer = right.state.finalServer
  recipient : left.request.ledger.get? index = right.request.ledger.get? index

namespace Attempt.AgreesAt

variable {index : Nat} {left right : Attempt} (agree : left.AgreesAt index right)

include agree

theorem pending? : left.request.ledger.pending? index = right.request.ledger.pending? index := by
  rw [Ledger.pending?, agree.recipient, Ledger.pending?]

theorem isPending :
    left.request.ledger.isPending index = right.request.ledger.isPending index := by
  rw [Ledger.isPending, agree.pending?, Ledger.isPending]

theorem unknown_iff :
    left.request.ledger.size ≤ index ↔ right.request.ledger.size ≤ index := by
  have absent (ledger : Ledger) : ledger.size ≤ index ↔ ledger.get? index = none :=
    List.getElem?_eq_none_iff.symm
  rw [absent, absent, agree.recipient]

theorem passesOver (code : Nat) : left.passesOver code = right.passesOver code := by
  rw [Attempt.passesOver, agree.finalServer, Attempt.passesOver]

theorem rejectionAnswer (code : Nat) :
    left.rejectionAnswer code index = right.rejectionAnswer code index := by
  simp only [Attempt.rejectionAnswer, agree.unknown_iff, agree.passesOver, agree.session]

theorem rejectionAftermath (code : Nat) :
    left.rejectionAftermath code index = right.rejectionAftermath code index := by
  simp only [Attempt.rejectionAftermath, agree.unknown_iff, agree.passesOver, agree.session,
    agree.isPending]

theorem filingFor (policy : Policy) (code : Nat) (reason : String)
    (leftStores rightStores : Stores) :
    policy.filingFor ⟨left, leftStores⟩ (.recipient code index reason) =
      policy.filingFor ⟨right, rightStores⟩ (.recipient code index reason) := by
  have passes : Scene.passesOver ⟨left, leftStores⟩ (.ofCode code) =
      Scene.passesOver ⟨right, rightStores⟩ (.ofCode code) := agree.passesOver code
  simp only [Policy.filingFor, passes, agree.session, agree.pending?]

end Attempt.AgreesAt

namespace Policy

variable (policy : Policy) (code index : Nat) (reason : String) (scene : Scene)

/-- An outcome of a rejection is put on record for the rejected recipient alone. -/
theorem filingFor_rejection_entries (filing : Filing)
    (filed : policy.filingFor scene (.recipient code index reason) = some filing) :
    ∃ recipient, filing.entries = [(index, recipient)] := by
  simp only [filingFor] at filed
  split at filed
  · cases filed
  · obtain ⟨session, _, chosen⟩ := Option.bind_eq_some_iff.mp filed
    obtain ⟨recipient, _, rfl⟩ := Option.map_eq_some_iff.mp chosen
    exact ⟨recipient, rfl⟩

/-- An outcome is put on record just when the rejection is answered without an error, is not passed
over, and the recipient waits. -/
theorem isSome_filingFor_rejection :
    (policy.filingFor scene (.recipient code index reason)).isSome = true ↔
      (scene.attempt.rejectionAnswer code index).isOk = true ∧
        scene.attempt.request.ledger.isPending index = true ∧
        scene.attempt.passesOver code = false := by
  have same : scene.passesOver (.ofCode code) = scene.attempt.passesOver code := rfl
  simp only [filingFor, same, Attempt.rejectionAnswer]
  by_cases unknown : scene.attempt.request.ledger.size ≤ index
  · have absent := scene.attempt.request.ledger.pending?_of_size_le index unknown
    simp [Ledger.isPending, absent]
  · rw [if_neg unknown, Ledger.isPending]
    cases scene.attempt.passesOver code <;> cases scene.attempt.session <;>
      simp [Except.isOk, Except.toBool]

/-- The rejection of a recipient leaves the ledger alone or completes that recipient. -/
theorem ledger_handle_rejection :
    let ledger := scene.attempt.request.ledger
    let after := (policy.handle (.recipient code index reason) scene).value.scene
    after.attempt.request.ledger = ledger ∨
      after.attempt.request.ledger = ledger.complete index := by
  intro ledger after
  rw [show after.attempt.request.ledger = _ from
    (policy.handle_sameBooks (.recipient code index reason) scene).ledger]
  cases filed : policy.filingFor scene (.recipient code index reason) with
  | none => exact .inl rfl
  | some filing =>
      obtain ⟨recipient, only⟩ := policy.filingFor_rejection_entries code index reason scene _ filed
      have accepted := scene.stores.accepted_sublist filing.outcome filing.entries
      rw [only, List.sublist_singleton] at accepted
      rcases accepted with none | taken
      · exact .inl (by simp [Scene.fileAny, Scene.file, Filing.accepted, only, none, ledger])
      · exact .inr (by simp [Scene.fileAny, Scene.file, Filing.accepted, only, taken, ledger])

/-- Besides the ledger, the request, the connection and the latches stay as they were. -/
theorem frame_handle_rejection :
    let before := scene.attempt
    let after := (policy.handle (.recipient code index reason) scene).value.scene.attempt
    after.request = { before.request with ledger := after.request.ledger } ∧
      after.session = before.session ∧ after.state.finalServer = before.state.finalServer := by
  obtain ⟨goesOn, noReason⟩ := scene.attempt.rejectionAftermath_latches code index
  dsimp only
  rw [handle_recipient_eq]
  cases policy.filingFor scene (.recipient code index reason) <;>
    simp [Scene.fileAny, Scene.file, Scene.remember, Attempt.remember, AttemptState.add, goesOn,
      noReason]

/-- After the rejection of one recipient the attempt is the same for the rejection of another. -/
theorem agreesAt_handle_rejection (other : Nat) (different : other ≠ index) :
    let after := (policy.handle (.recipient code index reason) scene).value.scene.attempt
    after.AgreesAt other scene.attempt := by
  obtain ⟨_, session, finalServer⟩ := policy.frame_handle_rejection code index reason scene
  refine ⟨session, finalServer, ?_⟩
  rcases policy.ledger_handle_rejection code index reason scene with same | completed
  · rw [same]
  · rw [completed, Ledger.get?_complete, if_neg different.symm]

/-- A rejection makes one exchange with the stores if an outcome is put on record, and none
otherwise. -/
theorem exchanges_rejection :
    let exchanges := policy.exchanges ⟨.recipient code index reason, scene⟩
    exchanges.length ≤ 1 ∧ (exchanges.length = 1 ↔
      (scene.attempt.rejectionAnswer code index).isOk = true ∧
        scene.attempt.request.ledger.isPending index = true ∧
        scene.attempt.passesOver code = false) := by
  dsimp only
  rw [← policy.isSome_filingFor_rejection code index reason scene, exchanges]
  cases filed : policy.filingFor scene (.recipient code index reason) with
  | none => simp
  | some filing =>
      obtain ⟨recipient, only⟩ := policy.filingFor_rejection_entries code index reason scene _ filed
      simp [filing.length_exchanges, only]

/-- While the logs are within reach, they count one append for every exchange. -/
theorem appends_handle_rejection (reachable : ∀ outcome, (scene.stores.log outcome).outage = none) :
    let call : Call := ⟨.recipient code index reason, scene⟩
    let after := (policy.handle call.trouble scene).value.scene.stores
    after.appends .deferred + after.appends .bounced =
      scene.stores.appends .deferred + scene.stores.appends .bounced +
        (policy.exchanges call).length := by
  intro call after
  rw [show after = _ from (policy.handle_sameBooks call.trouble scene).stores, exchanges]
  cases policy.filingFor scene call.trouble with
  | none => rfl
  | some filing =>
      simp only [Option.elim_some, Scene.fileAny, Scene.file, Stores.appends_keepAll, reachable,
        and_true, List.length_map, filing.length_exchanges]
      cases filing.outcome <;> simp <;> omega

end Policy

namespace Scene

/-- What is put on record does not depend on the ledger, apart from what is read of the recipients
that it is put on record for. -/
theorem fileAny_withLedger_eq (filing? : Option Filing) (ledger : Ledger) (scene : Scene) :
    ∃ indices, (scene.fileAny filing?).attempt.request.ledger =
        scene.attempt.request.ledger.completeAll indices ∧
      (scene.withLedger ledger).fileAny filing? =
        (scene.fileAny filing?).withLedger (ledger.completeAll indices) := by
  cases filing? with
  | none => exact ⟨[], rfl, rfl⟩
  | some filing => exact ⟨(filing.accepted scene.stores).map Prod.fst, rfl, rfl⟩

end Scene

namespace Policy

variable (policy : Policy) (code index : Nat) (reason : String) (scene : Scene)

/-- With the same recipient at the index, another ledger makes no difference to the rejection of
that recipient. -/
theorem handle_rejection_withLedger (ledger : Ledger)
    (same : ledger.get? index = scene.attempt.request.ledger.get? index) :
    let ruling := (policy.handle (.recipient code index reason) scene).value
    let twin := (policy.handle (.recipient code index reason) (scene.withLedger ledger)).value
    twin.result = ruling.result ∧
      ∃ after, after.get? index = ruling.scene.attempt.request.ledger.get? index ∧
        twin.scene = ruling.scene.withLedger after := by
  have agree : (scene.withLedger ledger).attempt.AgreesAt index scene.attempt := ⟨rfl, rfl, same⟩
  have filings := agree.filingFor policy code reason scene.stores scene.stores
  obtain ⟨indices, completed, filed⟩ := scene.fileAny_withLedger_eq
    (policy.filingFor scene (.recipient code index reason)) ledger
  dsimp only
  rw [handle_recipient_eq, handle_recipient_eq, agree.rejectionAnswer, agree.rejectionAftermath,
    show policy.filingFor (scene.withLedger ledger) _ = _ from filings, filed]
  refine ⟨rfl, ledger.completeAll indices, ?_, rfl⟩
  change _ = (scene.fileAny _).attempt.request.ledger.get? index
  rw [completed, Ledger.get?_completeAll, Ledger.get?_completeAll, same]

end Policy

/-- The rejection of one recipient is a matter of that recipient alone. It completes the recipient
or leaves the ledger as it was, and changes nothing else about the request, nothing about the
connection, and not whether the exchanger is the last one. It makes one exchange with the stores,
which is one append and at most one update of the queue file, if it is answered without an error,
the recipient waits and the failure is not passed over, and it makes none otherwise. And whoever else
is in the ledger, it comes to the same. -/
theorem rejection_is_local (policy : Policy) (code index : Nat) (reason : String) (scene : Scene) :
    let call : Call := ⟨.recipient code index reason, scene⟩
    let ruling := (policy.handle call.trouble scene).value
    let before := scene.attempt
    let after := ruling.scene.attempt
    let exchanges := policy.exchanges call
    ((∀ other, other ≠ index →
        after.request.ledger.get? other = before.request.ledger.get? other) ∧
      (after.request.ledger = before.request.ledger ∨
        after.request.ledger = before.request.ledger.complete index) ∧
      after.request = { before.request with ledger := after.request.ledger } ∧
      after.session = before.session ∧ after.state.finalServer = before.state.finalServer) ∧
    (scene.Exchanged ruling.scene exchanges ∧ exchanges.length ≤ 1 ∧
      (exchanges.length = 1 ↔ ruling.result.isOk = true ∧
        before.request.ledger.isPending index = true ∧
        (code / 100 ≠ 4 ∨ before.state.finalServer = true)) ∧
      (∃ places, places.length ≤ 1 ∧
        ruling.scene.stores.delivered = scene.stores.delivered ++ places) ∧
      ((∀ outcome, (scene.stores.log outcome).outage = none) →
        ruling.scene.stores.appends .deferred + ruling.scene.stores.appends .bounced =
          scene.stores.appends .deferred + scene.stores.appends .bounced + exchanges.length)) ∧
    ∀ ledger, ledger.get? index = before.request.ledger.get? index →
      let twin := (policy.handle call.trouble (scene.withLedger ledger)).value
      twin.result = ruling.result ∧
        ∃ others, others.get? index = after.request.ledger.get? index ∧
          twin.scene = ruling.scene.withLedger others := by
  intro call ruling before after exchanges
  have exchanged := policy.handle_exchanged call
  obtain ⟨single, made⟩ := policy.exchanges_rejection code index reason scene
  refine ⟨⟨fun other different => ?_, policy.ledger_handle_rejection code index reason scene,
    policy.frame_handle_rejection code index reason scene⟩,
    ⟨exchanged, single, ?_, ⟨_, ?_, exchanged.delivered⟩,
      policy.appends_handle_rejection code index reason scene⟩,
    policy.handle_rejection_withLedger code index reason scene⟩
  · exact (policy.agreesAt_handle_rejection code index reason scene other different).recipient
  · have answered : ruling.result = before.rejectionAnswer code index := by
      rw [show ruling = _ from policy.handle_recipient_eq code index reason scene]
    rw [answered, ← before.passesOver_eq_false]
    exact made
  · rw [List.length_map]
    exact Nat.le_trans (List.length_filter_le _ _) single

/-- The second of two recipients bounces while the queue file fails. Between others it bounces in the
same way. -/
theorem rejection_is_local_among_others :
    let recipients : List Recipient := [⟨"a", "a@x", 10, .pending⟩, ⟨"b", "b@x", 20, .pending⟩]
    let others : Ledger := ⟨[⟨"c", "c@x", 30, .completed⟩, ⟨"b", "b@x", 20, .pending⟩,
      ⟨"d", "d@x", 40, .pending⟩]⟩
    let request : Request :=
      ⟨⟨"4F"⟩, ⟨0, 0, by decide, by decide, by decide⟩, ⟨0⟩, ⟨recipients⟩, none⟩
    let scene : Scene := ⟨⟨request, some ⟨"mx", "192.0.2.1"⟩, .fresh⟩,
      Stores.empty.apply (.failing .queue true)⟩
    let rejection := Policy.standard.handle (.recipient 550 1 "who")
    let ruling := (rejection scene).value
    let twin := (rejection (scene.withLedger others)).value
    others.get? 1 = scene.attempt.request.ledger.get? 1 ∧
      ruling.scene.attempt.state.shortfall = .queueFailedOnly ∧
      ruling.scene.attempt.request.ledger.pendingIndices = [0] ∧ twin.result = ruling.result ∧
      twin.scene.attempt.state = ruling.scene.attempt.state ∧
      twin.scene.stores = ruling.scene.stores := by
  intro recipients others request scene rejection ruling twin
  have same : others.get? 1 = scene.attempt.request.ledger.get? 1 := by decide
  obtain ⟨_, _, elsewhere⟩ := rejection_is_local .standard 550 1 "who" scene
  obtain ⟨result, after, _, alike⟩ := elsewhere others same
  refine ⟨same, by decide +kernel, by decide +kernel, result, ?_, ?_⟩
  · rw [show twin.scene = _ from alike]
    rfl
  · rw [show twin.scene = _ from alike]
    rfl

end Nondelivery
