/-
This file shows that completed recipients have no influence. Two ledgers in which the same
recipients wait in the same order are treated alike, whatever else they hold and at whatever indices
the recipients stand. Only the rejection of a single recipient depends on an index.
-/

import Mathlib.Data.List.Nodup
import Nondelivery.Proofs.OneByOne

namespace Nondelivery

namespace Ledger

/-- The ledger without its completed recipients. -/
def waiting (ledger : Ledger) : Ledger :=
  ⟨ledger.recipients.filter Recipient.isPending⟩

theorem isPending_of_completeAll {ledger : Ledger} {indices : List Nat} {index : Nat}
    (waits : (ledger.completeAll indices).isPending index = true) :
    ledger.isPending index = true := by
  rw [isPending, pending?_completeAll] at waits
  split at waits
  · cases waits
  · exact waits

/-- Pairs of indices at which two ledgers hold the same recipients. They are in the order of both
ledgers, and no recipient that waits in either of them is left out. -/
structure Matched (pairs : List (Nat × Nat)) (left right : Ledger) : Prop where
  leftOrder : (pairs.map Prod.fst).Pairwise (· < ·)
  rightOrder : (pairs.map Prod.snd).Pairwise (· < ·)
  same : ∀ pair ∈ pairs, left.get? pair.1 = right.get? pair.2
  leftCovers : ∀ index, left.isPending index = true → index ∈ pairs.map Prod.fst
  rightCovers : ∀ index, right.isPending index = true → index ∈ pairs.map Prod.snd

/-- The pairs at which a recipient waits, each with the recipient. -/
def pendingPairs (pairs : List (Nat × Nat)) (ledger : Ledger) :
    List ((Nat × Nat) × Recipient) :=
  pairs.filterMap fun pair => (ledger.pending? pair.1).map fun recipient => (pair, recipient)

namespace Matched

variable {pairs : List (Nat × Nat)} {left right : Ledger} (matched : left.Matched pairs right)

include matched

theorem pending?_eq (pair : Nat × Nat) (member : pair ∈ pairs) :
    left.pending? pair.1 = right.pending? pair.2 := by
  rw [pending?, pending?, matched.same pair member]

theorem left_pending : left.pending =
    (left.pendingPairs pairs).map fun entry => (entry.1.1, entry.2) := by
  rw [← pendingAt_of_covers _ left matched.leftOrder matched.leftCovers, pendingAt, pendingPairs,
    List.filterMap_map, List.map_filterMap]
  simp only [Function.comp_def, Option.map_map]

theorem right_pending : right.pending =
    (left.pendingPairs pairs).map fun entry => (entry.1.2, entry.2) := by
  rw [← pendingAt_of_covers _ right matched.rightOrder matched.rightCovers, pendingAt,
    pendingPairs, List.filterMap_map, List.map_filterMap]
  refine List.filterMap_congr fun pair member => ?_
  simp only [Function.comp_def, Option.map_map, matched.pending?_eq pair member]

/-- The same recipients wait in both ledgers, in the same order. -/
theorem pending_map_snd : left.pending.map Prod.snd = right.pending.map Prod.snd := by
  rw [matched.left_pending, matched.right_pending, List.map_map, List.map_map]
  rfl

theorem isCompleted_eq (pair : Nat × Nat) (member : pair ∈ pairs) :
    left.isCompleted pair.1 = right.isCompleted pair.2 := by
  rw [isCompleted, isCompleted, matched.same pair member]

/-- Ledgers stay matched when the recipients at some of the pairs are completed in both. -/
theorem completeAll (completed : List (Nat × Nat)) (among : ∀ pair ∈ completed, pair ∈ pairs) :
    (left.completeAll (completed.map Prod.fst)).Matched pairs
      (right.completeAll (completed.map Prod.snd)) where
  leftOrder := matched.leftOrder
  rightOrder := matched.rightOrder
  same pair member := by
    -- No index belongs to two pairs, so a pair is known by either of its indices.
    have known (side : Nat × Nat → Nat) (order : (pairs.map side).Pairwise (· < ·)) :
        side pair ∈ completed.map side ↔ pair ∈ completed := by
      refine ⟨fun found => ?_, List.mem_map_of_mem⟩
      obtain ⟨other, done, equal⟩ := List.mem_map.mp found
      have once : (pairs.map side).Nodup := order.imp Nat.ne_of_lt
      exact List.inj_on_of_nodup_map once (among other done) member equal ▸ done
    simp only [get?_completeAll, known Prod.fst matched.leftOrder,
      known Prod.snd matched.rightOrder, matched.same pair member]
  leftCovers index waits := matched.leftCovers index (isPending_of_completeAll waits)
  rightCovers index waits := matched.rightCovers index (isPending_of_completeAll waits)

end Matched

theorem mem_of_pendingPairs (pairs : List (Nat × Nat)) (ledger : Ledger)
    {entry : (Nat × Nat) × Recipient} (member : entry ∈ ledger.pendingPairs pairs) :
    entry.1 ∈ pairs := by
  obtain ⟨pair, among, found⟩ := List.mem_filterMap.mp member
  obtain ⟨recipient, _, rfl⟩ := Option.map_eq_some_iff.mp found
  exact among

theorem get?_of_pendingIndices (ledger : Ledger) (number index : Nat)
    (found : ledger.pendingIndices[number]? = some index) :
    ledger.get? index = (ledger.pending.map Prod.snd)[number]? := by
  rw [pendingIndices, List.getElem?_map] at found
  obtain ⟨⟨_, recipient⟩, here, rfl⟩ := Option.map_eq_some_iff.mp found
  rw [List.getElem?_map, here]
  have waits := (ledger.mem_pending _ recipient).mp (List.mem_of_getElem? here)
  exact ((ledger.pending?_eq_some _ recipient).mp waits).1

/-- Two ledgers in which the same recipients wait in the same order are matched: the first one that
waits in one with the first one that waits in the other, and so on. -/
theorem matched_of_pending {left right : Ledger}
    (same : left.pending.map Prod.snd = right.pending.map Prod.snd) :
    left.Matched (left.pendingIndices.zip right.pendingIndices) right := by
  have length : left.pendingIndices.length = right.pendingIndices.length := by
    simpa [pendingIndices] using congrArg List.length same
  have lefts := List.map_fst_zip (Nat.le_of_eq length)
  have rights := List.map_snd_zip (Nat.le_of_eq length.symm)
  refine ⟨lefts.symm ▸ left.pendingIndices_increasing,
    rights.symm ▸ right.pendingIndices_increasing, ?_, ?_, ?_⟩
  · intro pair member
    obtain ⟨number, here⟩ := List.mem_iff_getElem?.mp member
    obtain ⟨onLeft, onRight⟩ := List.getElem?_zip_eq_some.mp here
    rw [left.get?_of_pendingIndices number _ onLeft, same,
      ← right.get?_of_pendingIndices number _ onRight]
  · intro index waits
    rw [lefts]
    exact (left.mem_pendingIndices index).mpr waits
  · intro index waits
    rw [rights]
    exact (right.mem_pendingIndices index).mpr waits

/-- The same recipients wait, in the same order, when the completed ones are left out. -/
theorem pending_waiting (ledger : Ledger) :
    ledger.waiting.pending.map Prod.snd = ledger.pending.map Prod.snd := by
  have before := ledger.select_map_snd Recipient.isPending
  have after := ledger.waiting.select_map_snd Recipient.isPending
  refine after.trans (Eq.trans ?_ before.symm)
  rw [waiting, List.filter_filter]
  simp only [Bool.and_self]

/-- Every recipient of the ledger without the completed ones waits. -/
theorem pendingIndices_waiting (ledger : Ledger) :
    ledger.waiting.pendingIndices = List.range ledger.pendingIndices.length := by
  have size : ledger.waiting.recipients.length = ledger.pendingIndices.length := by
    have recipients : ledger.pending.map Prod.snd = ledger.waiting.recipients :=
      ledger.select_map_snd Recipient.isPending
    rw [← recipients, pendingIndices, List.length_map, List.length_map]
  have everybody : ledger.waiting.recipients.zipIdx.filter (fun entry => entry.1.isPending) =
      ledger.waiting.recipients.zipIdx := by
    rw [List.filter_eq_self]
    rintro ⟨recipient, index⟩ member
    have here := List.fst_mem_of_mem_zipIdx member
    exact (List.mem_filter.mp here).2
  rw [pendingIndices, pending, everybody, List.map_map, ← size, List.range_eq_range']
  exact List.zipIdx_map_snd 0 _

end Ledger

/-- The scene with another ledger. -/
def Scene.withLedger (ledger : Ledger) (scene : Scene) : Scene :=
  { scene with attempt.request.ledger := ledger }

/-- The scene without the completed recipients of the request. -/
def Scene.waitingOnly (scene : Scene) : Scene :=
  scene.withLedger scene.attempt.request.ledger.waiting

namespace Scene

variable {pairs : List (Nat × Nat)} (scene : Scene) (ledger : Ledger)

/-- Matched ledgers are filed for alike: the same appends are tried and accepted, so that the same
recipients are completed. -/
theorem file_withLedger (filing : Filing)
    (everybody : filing.entries = scene.attempt.request.ledger.pending)
    (matched : scene.attempt.request.ledger.Matched pairs ledger) :
    ∃ after, (scene.withLedger ledger).file { filing with entries := ledger.pending } =
        (scene.file filing).withLedger after ∧
      (scene.file filing).attempt.request.ledger.Matched pairs after := by
  let waiting := scene.attempt.request.ledger.pendingPairs pairs
  let accepted := (scene.stores.accepted filing.outcome waiting).map Prod.fst
  have among : ∀ pair ∈ accepted, pair ∈ pairs := by
    intro pair member
    obtain ⟨entry, taken, rfl⟩ := List.mem_map.mp member
    have here := (scene.stores.accepted_sublist filing.outcome waiting).subset taken
    exact Ledger.mem_of_pendingPairs _ _ here
  have lefts : filing.entries = waiting.map fun entry => (entry.1.1, entry.2) :=
    everybody.trans matched.left_pending
  have rights : ledger.pending = waiting.map fun entry => (entry.1.2, entry.2) :=
    matched.right_pending
  refine ⟨ledger.completeAll (accepted.map Prod.snd), ?_, ?_⟩
  · simp only [file, withLedger, Filing.accepted, Filing.shortfall, lefts, rights,
      Stores.accepted_map, List.length_map, List.isEmpty_map, List.map_map, accepted]
    rfl
  · have completed : (filing.accepted scene.stores).map Prod.fst = accepted.map Prod.fst := by
      rw [Filing.accepted, lefts, Stores.accepted_map, List.map_map, List.map_map]
      rfl
    rw [file, completed]
    exact matched.completeAll accepted among

/-- So are matched ledgers if there may be nothing to put on record. -/
theorem fileAny_withLedger (filing? : Option Filing)
    (everybody : ∀ filing, filing? = some filing →
      filing.entries = scene.attempt.request.ledger.pending)
    (matched : scene.attempt.request.ledger.Matched pairs ledger) :
    ∃ after, (scene.withLedger ledger).fileAny
        (filing?.map fun filing => { filing with entries := ledger.pending }) =
          (scene.fileAny filing?).withLedger after ∧
      (scene.fileAny filing?).attempt.request.ledger.Matched pairs after := by
  cases filing? with
  | none => exact ⟨ledger, rfl, matched⟩
  | some filing => exact scene.file_withLedger ledger filing (everybody filing rfl) matched

end Scene

namespace Policy

variable (policy : Policy) {pairs : List (Nat × Nat)} (scene : Scene) (ledger : Ledger)

theorem filingForStream_withLedger (fault : StreamFault) (stage : String) :
    policy.filingForStream (scene.withLedger ledger) fault stage =
      (policy.filingForStream scene fault stage).map fun filing =>
        { filing with entries := ledger.pending } := by
  simp only [filingForStream]
  change scene.attempt.session.bind _ = _
  cases scene.attempt.session with
  | none => rfl
  | some session =>
      change (if scene.attempt.state.finalServer then _ else _) = _
      simp only [Option.bind_some]
      split <;> rfl

/-- What is put on record for trouble with a whole message does not depend on the ledger, apart from
who waits. -/
theorem filingFor_withLedger (trouble : Trouble)
    (whole : ∀ code index reason, trouble ≠ .recipient code index reason) :
    policy.filingFor (scene.withLedger ledger) trouble =
      (policy.filingFor scene trouble).map fun filing =>
        { filing with entries := ledger.pending } := by
  cases trouble with
  | host code reason =>
      simp only [filingFor]
      change (if scene.passesOver (.ofCode code) then none else _) = _
      split <;> rfl
  | message code reason =>
      simp only [filingFor]
      change (if scene.attempt.session.isNone || scene.passesOver (.ofCode code) then none
        else _) = _
      split <;> rfl
  | recipient code index reason => exact absurd rfl (whole code index reason)
  | stream fault stage => exact policy.filingForStream_withLedger scene ledger fault stage
  | streamCode code stage =>
      simp only [filingFor, policy.filingForStream_withLedger scene ledger]
      cases StreamFault.ofCode code <;> rfl

theorem filingFor_entries_eq (trouble : Trouble)
    (whole : ∀ code index reason, trouble ≠ .recipient code index reason) (filing : Filing)
    (filed : policy.filingFor scene trouble = some filing) :
    filing.entries = scene.attempt.request.ledger.pending := by
  have same := policy.filingFor_withLedger scene scene.attempt.request.ledger trouble whole
  change policy.filingFor scene trouble = _ at same
  rw [filed, Option.map_some] at same
  exact congrArg Filing.entries (Option.some.inj same)

/-- Neither the answer to trouble with a whole message nor what is remembered of it depends on the
ledger. -/
theorem answer_withLedger (trouble : Trouble)
    (whole : ∀ code index reason, trouble ≠ .recipient code index reason) :
    (scene.withLedger ledger).attempt.answer trouble = scene.attempt.answer trouble ∧
      (scene.withLedger ledger).attempt.aftermath trouble = scene.attempt.aftermath trouble := by
  cases trouble with
  | host code reason => exact ⟨rfl, rfl⟩
  | message code reason => exact ⟨rfl, rfl⟩
  | recipient code index reason => exact absurd rfl (whole code index reason)
  | stream fault stage => exact ⟨rfl, rfl⟩
  | streamCode code stage => exact ⟨rfl, rfl⟩

/-- Trouble with a whole message is handled alike for matched ledgers. -/
theorem handle_withLedger (trouble : Trouble)
    (whole : ∀ code index reason, trouble ≠ .recipient code index reason)
    (matched : scene.attempt.request.ledger.Matched pairs ledger) :
    let ruling := (policy.handle trouble scene).value
    ∃ after, (policy.handle trouble (scene.withLedger ledger)).value =
        ⟨ruling.result, ruling.scene.withLedger after⟩ ∧
      ruling.scene.attempt.request.ledger.Matched pairs after := by
  intro ruling
  have answered := answer_withLedger scene ledger trouble whole
  obtain ⟨after, filed, still⟩ := scene.fileAny_withLedger ledger (policy.filingFor scene trouble)
    (policy.filingFor_entries_eq scene trouble whole) matched
  refine ⟨after, ?_, ?_⟩
  · rw [handle_eq, policy.filingFor_withLedger scene ledger trouble whole, filed, answered.1,
      answered.2, show ruling = _ from policy.handle_eq trouble scene]
    rfl
  · rw [show ruling = _ from policy.handle_eq trouble scene]
    exact still

/-- A move that does not single out a recipient treats matched ledgers alike. -/
theorem after_withLedger (move : Move)
    (whole : ∀ code index reason, move ≠ .trouble (.recipient code index reason))
    (matched : scene.attempt.request.ledger.Matched pairs ledger) :
    ((scene.withLedger ledger).calls move).map policy.answer =
        (scene.calls move).map policy.answer ∧
      ∃ after, policy.after (scene.withLedger ledger) move =
          (policy.after scene move).withLedger after ∧
        (policy.after scene move).attempt.request.ledger.Matched pairs after := by
  cases move with
  | trouble trouble =>
      obtain ⟨after, handled, still⟩ := policy.handle_withLedger scene ledger trouble
        (fun code index reason same => whole code index reason (congrArg Move.trouble same)) matched
      have answered : policy.answer ⟨trouble, scene.withLedger ledger⟩ =
          policy.answer ⟨trouble, scene⟩ := by
        rw [answer, handled]
        rfl
      have final : policy.after (scene.withLedger ledger) (.trouble trouble) =
          (policy.after scene (.trouble trouble)).withLedger after := by
        rw [Policy.after, play, handled]
        rfl
      exact ⟨congrArg (fun answer => [answer]) answered, after, final, still⟩
  | connect session => exact ⟨rfl, ledger, rfl, matched⟩
  | markFinal => exact ⟨rfl, ledger, rfl, matched⟩
  | retry session => exact ⟨rfl, ledger, rfl, matched⟩
  | condition condition => exact ⟨rfl, ledger, rfl, matched⟩

/-- So does a course of such moves. -/
theorem run_withLedger (moves : List Move)
    (whole : ∀ code index reason, Move.trouble (.recipient code index reason) ∉ moves)
    (matched : scene.attempt.request.ledger.Matched pairs ledger) :
    policy.answers moves (scene.withLedger ledger) = policy.answers moves scene ∧
      ∃ after, policy.run moves (scene.withLedger ledger) =
          (policy.run moves scene).withLedger after ∧
        (policy.run moves scene).attempt.request.ledger.Matched pairs after := by
  -- The pairs stay the same from move to move: completed recipients keep their indices.
  induction moves generalizing scene ledger with
  | nil => exact ⟨rfl, ledger, rfl, matched⟩
  | cons move rest ih =>
      obtain ⟨answered, middle, moved, between⟩ := policy.after_withLedger scene ledger move
        (fun code index reason same => whole code index reason (same ▸ List.mem_cons_self)) matched
      obtain ⟨answers, after, final, still⟩ := ih (policy.after scene move) middle
        (fun code index reason member => whole code index reason (List.mem_cons_of_mem move member))
        between
      refine ⟨?_, after, ?_, still⟩
      · rw [answers_cons, answers_cons, answered, moved, answers]
      · rw [run_cons, run_cons, moved, final]

end Policy

/-- Completed recipients are inert. A course in which no single recipient is rejected comes to the
same with and without them: every call is answered alike, the stores and the attempt are the same in
the end, and so are the recipients that still wait. A recipient that waited at first is completed in
the end by both courses or by neither; without the completed recipients its index is its number
among those that waited. -/
theorem completed_recipients_inert (policy : Policy) (moves : List Move)
    (whole : ∀ code index reason, Move.trouble (.recipient code index reason) ∉ moves)
    (start : Scene) :
    let thin := start.waitingOnly
    let final := policy.run moves start
    let thinFinal := policy.run moves thin
    policy.answers moves thin = policy.answers moves start ∧
      thinFinal.stores = final.stores ∧
      thinFinal.attempt.session = final.attempt.session ∧
      thinFinal.attempt.state = final.attempt.state ∧
      thinFinal.attempt.request.hopStatus = final.attempt.request.hopStatus ∧
      thinFinal.attempt.request.ledger.pending.map Prod.snd =
        final.attempt.request.ledger.pending.map Prod.snd ∧
      ∀ number index : Nat, start.attempt.request.ledger.pendingIndices[number]? = some index →
        thinFinal.attempt.request.ledger.isCompleted number =
          final.attempt.request.ledger.isCompleted index := by
  intro thin final thinFinal
  let ledger := start.attempt.request.ledger
  have matched := Ledger.matched_of_pending ledger.pending_waiting.symm
  obtain ⟨answers, after, same, still⟩ :=
    policy.run_withLedger start ledger.waiting moves whole matched
  have ended : thinFinal = final.withLedger after := same
  rw [ended]
  refine ⟨answers, rfl, rfl, rfl, rfl, still.pending_map_snd.symm, ?_⟩
  intro number index found
  have numbered : ledger.waiting.pendingIndices[number]? = some number := by
    rw [ledger.pendingIndices_waiting]
    exact List.getElem?_range (List.getElem?_eq_some_iff.mp found).1
  have pair : (index, number) ∈ ledger.pendingIndices.zip ledger.waiting.pendingIndices :=
    List.mem_of_getElem? (List.getElem?_zip_eq_some.mpr ⟨found, numbered⟩)
  exact (still.isCompleted_eq (index, number) pair).symm

/-- One of three recipients is completed from the start. The first exchanger is busy, the second one
rejects the message, and the log refuses the second record. With and without the completed
recipient, the first of the other two is completed and the last one still waits. -/
theorem completed_recipients_inert_second_refused :
    let recipients : List Recipient := [⟨"a", "a@x", 10, .pending⟩, ⟨"b", "b@x", 20, .completed⟩,
      ⟨"c", "c@x", 30, .pending⟩]
    let request : Request :=
      ⟨⟨"4F"⟩, ⟨0, 0, by decide, by decide, by decide⟩, ⟨0⟩, ⟨recipients⟩, none⟩
    let start : Scene := ⟨.start request, .empty⟩
    let moves : List Move := [.trouble (.host 450 "busy"), .connect (some ⟨"mx", "192.0.2.1"⟩),
      .condition (.refused .bounced 2), .trouble (.message 550 "no")]
    let final := Policy.standard.run moves start
    let thinFinal := Policy.standard.run moves start.waitingOnly
    start.waitingOnly.attempt.request.ledger.size = 2 ∧
      Policy.standard.answers moves start.waitingOnly = [.ok .attemptOver, .ok .attemptOver] ∧
      thinFinal.stores = final.stores ∧
      thinFinal.attempt.request.ledger.isCompleted 0 = true ∧
      thinFinal.attempt.request.ledger.isCompleted 1 = false := by
  intro recipients request start moves final thinFinal
  obtain ⟨answers, stores, _, _, _, _, completed⟩ :=
    completed_recipients_inert .standard moves (by simp [moves]) start
  have first := completed 0 0 (by decide)
  have last := completed 1 2 (by decide)
  exact ⟨by decide, answers.trans (by decide), stores, first.trans (by decide),
    last.trans (by decide)⟩

end Nondelivery
