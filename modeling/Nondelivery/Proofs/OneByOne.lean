/-
This file shows that it comes to the same whether a message is rejected as a whole or for one
recipient after the other.
-/

import Mathlib.Data.List.Basic
import Nondelivery.Proofs.DisposingCall
import Nondelivery.Proofs.Run

namespace Nondelivery

namespace Ledger

/-- Those of the recipients at these indices that wait, with their indices. -/
def pendingAt (indices : List Nat) (ledger : Ledger) : List (Nat × Recipient) :=
  indices.filterMap fun index => (ledger.pending? index).map fun recipient => (index, recipient)

theorem mem_pendingAt (indices : List Nat) (ledger : Ledger) (index : Nat)
    (recipient : Recipient) : (index, recipient) ∈ ledger.pendingAt indices ↔
      index ∈ indices ∧ ledger.pending? index = some recipient := by
  simp only [pendingAt, List.mem_filterMap, Option.map_eq_some_iff, Prod.mk.injEq]
  constructor
  · rintro ⟨other, among, found, waits, rfl, rfl⟩
    exact ⟨among, waits⟩
  · rintro ⟨among, waits⟩
    exact ⟨index, among, recipient, waits, rfl, rfl⟩

/-- Going through any indices in order finds all waiting recipients if none of them is left out. -/
theorem pendingAt_of_covers (indices : List Nat) (ledger : Ledger)
    (order : indices.Pairwise (· < ·))
    (covers : ∀ index, ledger.isPending index = true → index ∈ indices) :
    ledger.pendingAt indices = ledger.pending := by
  let before (left right : Nat × Recipient) : Prop := left.1 < right.1
  have found : (ledger.pendingAt indices).Pairwise before := by
    refine order.filterMap _ fun first second less one inFirst other inSecond => ?_
    obtain ⟨_, _, rfl⟩ := Option.map_eq_some_iff.mp inFirst
    obtain ⟨_, _, rfl⟩ := Option.map_eq_some_iff.mp inSecond
    exact less
  have pending : ledger.pending.Pairwise before :=
    List.pairwise_map.mp ledger.pendingIndices_increasing
  have distinct {entries : List (Nat × Recipient)} (sorted : entries.Pairwise before) :
      entries.Nodup := sorted.imp fun less same => Nat.ne_of_lt less (congrArg Prod.fst same)
  have perm : (ledger.pendingAt indices).Perm ledger.pending := by
    rw [List.perm_ext_iff_of_nodup (distinct found) (distinct pending)]
    rintro ⟨index, recipient⟩
    rw [mem_pendingAt, mem_pending]
    refine ⟨And.right, fun waits => ⟨covers index ?_, waits⟩⟩
    exact (ledger.isPending_eq_true index).mpr ⟨recipient, waits⟩
  exact perm.eq_of_pairwise
    (fun left right _ _ less greater => absurd less (Nat.lt_asymm greater)) found pending

/-- Going through all indices finds the waiting recipients in their order. -/
theorem pendingAt_range (ledger : Ledger) :
    ledger.pendingAt (List.range ledger.size) = ledger.pending :=
  pendingAt_of_covers _ ledger List.pairwise_lt_range fun index waits =>
    List.mem_range.mpr (ledger.lt_size_of_isPending index waits)

theorem pendingAt_cons (index : Nat) (indices : List Nat) (ledger : Ledger) :
    ledger.pendingAt (index :: indices) = ledger.pendingAt [index] ++ ledger.pendingAt indices := by
  simp only [pendingAt, ← List.filterMap_append, List.singleton_append]

/-- Recipients at other indices wait on when recipients are completed. -/
theorem pendingAt_completeAll (ledger : Ledger) (completed indices : List Nat)
    (apart : ∀ index ∈ indices, index ∉ completed) :
    (ledger.completeAll completed).pendingAt indices = ledger.pendingAt indices := by
  apply List.filterMap_congr
  intro index member
  rw [pending?_completeAll, if_neg (apart index member)]

end Ledger

/-- Filing for the first of several recipients changes nothing for the others, so that they can be
filed for afterwards. -/
theorem Scene.file_pendingAt_cons (scene : Scene) (outcome : Outcome) (peer reason : String)
    (index : Nat) (rest : List Nat) (apart : index ∉ rest) :
    let filed := scene.file
      ⟨outcome, peer, reason, scene.attempt.request.ledger.pendingAt [index]⟩
    scene.file ⟨outcome, peer, reason, scene.attempt.request.ledger.pendingAt (index :: rest)⟩ =
      filed.file ⟨outcome, peer, reason, filed.attempt.request.ledger.pendingAt rest⟩ := by
  intro filed
  have others : filed.attempt.request.ledger.pendingAt rest =
      scene.attempt.request.ledger.pendingAt rest := by
    apply Ledger.pendingAt_completeAll
    intro other member completed
    obtain ⟨entry, accepted, rfl⟩ := List.mem_map.mp completed
    have here := (scene.stores.accepted_sublist _ _).subset accepted
    have only := ((Ledger.mem_pendingAt _ _ _ _).mp here).1
    rw [List.mem_singleton.mp only] at member
    exact apart member
  rw [others, Ledger.pendingAt_cons]
  exact Scene.file_append outcome peer reason _ _ scene

/-- The rejections of the recipients at these indices, one after the other. -/
def rejections (code : Nat) (reason : String) (indices : List Nat) : List Move :=
  indices.map fun index => .trouble (.recipient code index reason)

namespace Policy

variable (policy : Policy)

/-- The rejection of a single recipient that is not passed over files its outcome if it waits. -/
theorem handle_rejection (code index : Nat) (reason : String) (session : Session) (scene : Scene)
    (connected : scene.attempt.session = some session)
    (stays : scene.attempt.passesOver code = false)
    (inside : index < scene.attempt.request.ledger.size) :
    (policy.handle (.recipient code index reason) scene).value = ⟨.ok .carryOn,
      (scene.file (policy.filing (.ofCode code) session.label reason
        (scene.attempt.request.ledger.pendingAt [index]))).remember
          { anomalous := isAnomalous code }⟩ := by
  have known : ¬ scene.attempt.request.ledger.size ≤ index := Nat.not_le.mpr inside
  have remains : scene.passesOver (.ofCode code) = false := stays
  have filed : scene.fileAny (policy.filingFor scene (.recipient code index reason)) =
      scene.file (policy.filing (.ofCode code) session.label reason
        (scene.attempt.request.ledger.pendingAt [index])) := by
    simp only [filingFor, remains, Bool.false_eq_true, if_false, connected, Option.bind_some,
      Ledger.pendingAt, List.filterMap_cons, List.filterMap_nil]
    cases scene.attempt.request.ledger.pending? index with
    | none => exact (Scene.file_nil _ _ _ scene).symm
    | some recipient => rfl
  rw [handle_recipient_eq, filed]
  simp [Attempt.rejectionAnswer, Attempt.rejectionAftermath, known, stays, connected]

/-- Rejections one after the other file the outcomes of all recipients that wait. -/
theorem run_rejections (code : Nat) (reason : String) (session : Session) (indices : List Nat)
    (scene : Scene) (connected : scene.attempt.session = some session)
    (stays : scene.attempt.passesOver code = false)
    (inside : ∀ index ∈ indices, index < scene.attempt.request.ledger.size)
    (once : indices.Nodup) :
    policy.answers (rejections code reason indices) scene =
        List.replicate indices.length (.ok .carryOn) ∧
      policy.run (rejections code reason indices) scene =
        (scene.file (policy.filing (.ofCode code) session.label reason
          (scene.attempt.request.ledger.pendingAt indices))).remember
            { anomalous := isAnomalous code && !indices.isEmpty } := by
  induction indices generalizing scene with
  | nil =>
      refine ⟨rfl, ?_⟩
      change scene = (scene.file ⟨_, _, _, []⟩).remember { anomalous := isAnomalous code && false }
      rw [Scene.file_nil, Bool.and_false]
      exact scene.remember_none.symm
  | cons index rest ih =>
      have first := policy.handle_rejection code index reason session scene connected stays
        (inside index List.mem_cons_self)
      let filed := scene.file (policy.filing (.ofCode code) session.label reason
        (scene.attempt.request.ledger.pendingAt [index]))
      have moved : policy.after scene (.trouble (.recipient code index reason)) =
          filed.remember { anomalous := isAnomalous code } := congrArg Ruling.scene first
      have answered : policy.answer ⟨.recipient code index reason, scene⟩ = .ok .carryOn :=
        congrArg Ruling.result first
      have staysNext : (filed.remember { anomalous := isAnomalous code }).attempt.passesOver code =
          false := by
        have unmoved : filed.attempt.passesOver code = false := stays
        rw [Scene.remember, Attempt.passesOver_remember, unmoved, Bool.false_and]
      have insideNext : ∀ other ∈ rest, other < filed.attempt.request.ledger.size := by
        intro other member
        have known := inside other (List.mem_cons_of_mem index member)
        rw [← Ledger.size_completeAll] at known
        exact known
      obtain ⟨indexApart, restOnce⟩ := List.nodup_cons.mp once
      obtain ⟨answers, run⟩ := ih (filed.remember { anomalous := isAnomalous code }) connected
        staysNext insideNext restOnce
      have anomalies : Aftermath.union { anomalous := isAnomalous code }
            { anomalous := isAnomalous code && !rest.isEmpty } =
          { anomalous := isAnomalous code && !(index :: rest).isEmpty } := by
        cases isAnomalous code <;> rfl
      have together := scene.file_pendingAt_cons ((Severity.ofCode code).outcome.soften
        policy.softBounce) session.label reason index rest indexApart
      rw [rejections, List.map_cons]
      constructor
      · rw [answers_trouble, answered, moved, List.length_cons, List.replicate_succ]
        exact congrArg (List.cons _) answers
      · rw [run_cons, moved]
        refine run.trans ?_
        rw [Scene.file_remember, Scene.remember_remember, anomalies]
        exact congrArg (Scene.remember _) together.symm

end Policy

/-- Rejecting a message comes to the same as rejecting all of its recipients, one after the other in
their order, with the same code and the same reason. Every single rejection is answered without an
error. The stores, the request and what is left undone are the same in the end; the postmaster is
concerned alike, unless there was nobody to reject. Only the rejection of the message makes the
exchanger the last one. -/
theorem message_rejected_one_by_one (policy : Policy) (code : Nat) (reason : String)
    (scene : Scene) (connected : scene.attempt.session.isSome = true)
    (disposing : code / 100 ≠ 4 ∨ scene.attempt.state.finalServer = true) :
    let size := scene.attempt.request.ledger.size
    let single := rejections code reason (List.range size)
    let each := policy.run single scene
    let whole := (policy.handle (.message code reason) scene).value
    policy.answers single scene = List.replicate size (.ok .carryOn) ∧
      whole.result = .ok .attemptOver ∧
      each.stores = whole.scene.stores ∧
      each.attempt.request = whole.scene.attempt.request ∧
      each.attempt.session = whole.scene.attempt.session ∧
      each.attempt.state.shortfall = whole.scene.attempt.state.shortfall ∧
      (each.attempt.state.concerns = if size = 0 then scene.attempt.state.concerns
        else whole.scene.attempt.state.concerns) ∧
      each.attempt.state.finalServer = scene.attempt.state.finalServer ∧
      whole.scene.attempt.state.finalServer = true := by
  intro size single each whole
  obtain ⟨session, present⟩ := Option.isSome_iff_exists.mp connected
  have stays := (scene.attempt.passesOver_eq_false code).mpr disposing
  let filed := scene.file (policy.filing (.ofCode code) session.label reason
    scene.attempt.request.ledger.pending)
  obtain ⟨answers, final⟩ := policy.run_rejections code reason session (List.range size) scene
    present stays (fun index member => List.mem_range.mp member) List.nodup_range
  rw [Ledger.pendingAt_range] at final
  have walked : each =
      filed.remember { anomalous := isAnomalous code && !(List.range size).isEmpty } := final
  have ruled : whole = ⟨.ok .attemptOver,
      filed.remember { final := true, anomalous := isAnomalous code }⟩ := by
    have label : scene.attempt.peerLabel = session.label := by
      rw [Attempt.peerLabel, present]
      rfl
    have disposed := policy.handle_disposing .message code reason scene (fun _ => connected)
      disposing
    rw [label] at disposed
    exact disposed
  rw [ruled, walked]
  refine ⟨by rw [answers, List.length_range], rfl, rfl, rfl, rfl, rfl, ?_, Bool.or_false _,
    Bool.or_true _⟩
  have nobody : (List.range size).isEmpty = decide (size = 0) := by
    rw [Bool.eq_iff_iff, List.isEmpty_iff, List.range_eq_nil, decide_eq_true_iff]
  have kept : filed.attempt.state.concerns = scene.attempt.state.concerns := rfl
  simp only [Scene.remember, Attempt.remember, nobody, kept]
  by_cases empty : size = 0
  · rw [if_pos empty, decide_eq_true empty, Bool.not_true, Bool.and_false]
    exact congrArg Concerns.mk (Bool.or_false _)
  · rw [if_neg empty, decide_eq_false empty, Bool.not_false, Bool.and_true]

/-- Of three recipients one is completed already, and the log refuses the second append. Rejecting
them one by one leaves the stores and the request just as rejecting the message does. -/
theorem message_rejected_one_by_one_second_refused :
    let recipients : List Recipient := [⟨"a", "a@x", 10, .pending⟩, ⟨"b", "b@x", 20, .completed⟩,
      ⟨"c", "c@x", 30, .pending⟩]
    let request : Request :=
      ⟨⟨"4F"⟩, ⟨0, 0, by decide, by decide, by decide⟩, ⟨0⟩, ⟨recipients⟩, none⟩
    let scene : Scene := ⟨⟨request, some ⟨"mx", "192.0.2.1"⟩, .fresh⟩,
      ⟨⟨none, .empty⟩, ⟨none, { refused := [2] }⟩, ⟨none, .empty⟩⟩⟩
    let each := Policy.standard.run (rejections 550 "no" [0, 1, 2]) scene
    let whole := (Policy.standard.handle (.message 550 "no") scene).value.scene
    Policy.standard.answers (rejections 550 "no" [0, 1, 2]) scene =
        [.ok .carryOn, .ok .carryOn, .ok .carryOn] ∧
      each.stores = whole.stores ∧ each.attempt.request = whole.attempt.request ∧
      each.attempt.request.ledger.get? 0 = some ⟨"a", "a@x", 10, .completed⟩ ∧
      each.attempt.request.ledger.get? 2 = some ⟨"c", "c@x", 30, .pending⟩ ∧
      each.attempt.state.finalServer = false := by
  intro recipients request scene each whole
  obtain ⟨answers, _, stores, same, _, _, _, final, _⟩ :=
    message_rejected_one_by_one .standard 550 "no" scene rfl (.inl (by decide))
  exact ⟨answers, stores, same, by decide, by decide, final⟩

end Nondelivery
