/-
This file compares the two failures that concern every recipient. A failure of the exchanger and a
rejection of the message come to the same apart from the hop status, and without a connection a
failure of the exchanger differs in the peer that its records name.
-/

import Nondelivery.Proofs.Latches
import Nondelivery.Proofs.Reordering

namespace Nondelivery

/-- The record with another peer. -/
def Record.withPeer (peer : String) (record : Record) : Record :=
  { record with peer }

theorem Logbook.appendAll_map (change : Record → Record) (records : List Record)
    (logbook : Logbook) :
    logbook.appendAll (records.map change) = { logbook.appendAll records with
      records := logbook.records ++ (logbook.accepted records).map change } := by
  rw [appendAll, accepted_map, List.length_map]
  rfl

namespace Stores

variable (change : Record → Record) (outcome : Outcome) (records : List Record) (stores : Stores)

/-- Changed records are accepted in the place of the others. -/
theorem log_keepAll_map (other : Outcome) :
    (stores.keepAll outcome (records.map change)).log other =
      { (stores.keepAll outcome records).log other with
        backend.records := stores.records other ++
          (if other = outcome then stores.accepted outcome records else []).map change } := by
  split
  · subst other
    rw [log_keepAll, log_keepAll, Stores.records, accepted]
    rcases stores.log outcome with ⟨_ | outage, logbook⟩
    · exact congrArg (Reachable.mk none) (logbook.appendAll_map change records)
    · simp [Reachable.update]
  · rename_i different
    rw [log_keepAll_other different, log_keepAll_other different, List.map_nil, List.append_nil]
    rfl

/-- The queue file does not notice a change that leaves the places of the records alone. -/
theorem queue_keepAll_map (inPlace : ∀ record, (change record).place = record.place) :
    (stores.keepAll outcome (records.map change)).queue =
      (stores.keepAll outcome records).queue := by
  have places : (stores.accepted outcome (records.map change)).map Record.place =
      (stores.accepted outcome records).map Record.place := by
    rw [accepted_map, List.map_map]
    exact List.map_congr_left fun record _ => inPlace record
  rw [keepAll, keepAll, places]

end Stores

namespace Scene

/-- Filing with another peer differs in the records that are appended, and in nothing else. -/
theorem fileAny_withPeer (filing? : Option Filing) (peer : String) (scene : Scene) :
    let filed := scene.fileAny filing?
    let renamed := scene.fileAny (filing?.map fun filing => { filing with peer })
    renamed.attempt = filed.attempt ∧ renamed.stores.queue = filed.stores.queue ∧
      ∀ outcome, renamed.stores.log outcome = { filed.stores.log outcome with
        backend.records := scene.stores.records outcome ++
          ((filed.stores.records outcome).drop (scene.stores.records outcome).length).map
            (Record.withPeer peer) } := by
  cases filing? with
  | none =>
      refine ⟨rfl, rfl, fun outcome => ?_⟩
      simp only [fileAny, Option.elim_none, List.drop_length, List.map_nil, List.append_nil]
      rfl
  | some filing =>
      intro filed renamed
      let records := filing.entries.map (filing.record scene.attempt.request)
      have kept : renamed.stores =
          scene.stores.keepAll filing.outcome (records.map (Record.withPeer peer)) := by
        rw [List.map_map]
        rfl
      refine ⟨rfl, ?_, fun outcome => ?_⟩
      · rw [kept]
        exact Stores.queue_keepAll_map _ _ _ _ fun _ => rfl
      · have gained : filed.stores.records outcome = _ :=
          Stores.records_keepAll_eq filing.outcome outcome records scene.stores
        rw [kept, Stores.log_keepAll_map, gained, List.drop_left]
        rfl

/-- Over another connection outcomes are recorded and remembered in the same way. -/
theorem fileAny_connect (filing? : Option Filing) (aftermath : Aftermath)
    (connection : Option Session) (scene : Scene) :
    ((scene.connect connection).fileAny filing?).remember aftermath =
      ((scene.fileAny filing?).remember aftermath).connect connection := by
  cases filing? <;> rfl

end Scene

/-- Of the two failures only that of the exchanger offers a hop status, namely if it is soft and the
exchanger is the last one. -/
theorem Attempt.failureAftermath_scopes (attempt : Attempt) (code : Nat) (reason : String) :
    attempt.failureAftermath .host code reason =
      { attempt.failureAftermath .message code reason with
        hopStatus := if code / 100 = 4 ∧ attempt.state.finalServer = true then some reason
          else none } ∧
      (attempt.failureAftermath .message code reason).hopStatus = none := by
  simp only [failureAftermath, passesOver, Severity.isSoft_ofCode, Severity.outcome_ofCode]
  by_cases soft : code / 100 = 4 <;> cases attempt.state.finalServer <;> simp [soft]

namespace Policy

variable (policy : Policy) (code : Nat) (reason : String) (scene : Scene)

/-- A failure of the exchanger over a connection, or without one. -/
theorem handle_host_connect (connection : Option Session) :
    (policy.handle (.host code reason) (scene.connect connection)).value = ⟨.ok .attemptOver,
      ((scene.fileAny (policy.filingFor (scene.connect connection) (.host code reason))).remember
        (scene.attempt.failureAftermath .host code reason)).connect connection⟩ := by
  rw [handle_eq, ← Scene.fileAny_connect]
  rfl

/-- A rejection of the message over a connection is put on record just as a failure of the exchanger
is. -/
theorem handle_message_connect (session : Session) :
    (policy.handle (.message code reason) (scene.connect (some session))).value =
      ⟨.ok .attemptOver, ((scene.fileAny
        (policy.filingFor (scene.connect (some session)) (.host code reason))).remember
          (scene.attempt.failureAftermath .message code reason)).connect (some session)⟩ := by
  rw [handle_eq, ← Scene.fileAny_connect]
  rfl

/-- Without a connection a failure of the exchanger is put on record for the same recipients, and no
peer is named. -/
theorem filingFor_host_alone (session : Session) :
    policy.filingFor (scene.connect none) (.host code reason) =
      (policy.filingFor (scene.connect (some session)) (.host code reason)).map
        fun filing => { filing with peer := "none" } := by
  have same (connection : Option Session) :
      (scene.connect connection).passesOver (.ofCode code) = scene.passesOver (.ofCode code) := rfl
  simp only [filingFor, same]
  split <;> rfl

/-- Over a connection a rejection of the message leaves the hop status alone, and a failure of the
exchanger leaves behind what the rejection does, apart from the hop status that it offers. -/
theorem handle_scopes (session : Session) :
    let failed := (policy.handle (.host code reason) (scene.connect (some session))).value
    let rejected := (policy.handle (.message code reason) (scene.connect (some session))).value
    let hopStatus := scene.attempt.request.hopStatus
    let offered :=
      if code / 100 = 4 ∧ scene.attempt.state.finalServer = true then some reason else none
    failed.result = .ok .attemptOver ∧ rejected.result = .ok .attemptOver ∧
      rejected.scene.attempt.request.hopStatus = hopStatus ∧
      failed.scene = { rejected.scene with
        attempt.request.hopStatus := hopStatus <|> offered } := by
  dsimp only
  let filing? := policy.filingFor (scene.connect (some session)) (.host code reason)
  obtain ⟨offers, unset⟩ := scene.attempt.failureAftermath_scopes code reason
  have kept := (latches_fileAny filing? scene).2
  rw [handle_host_connect, handle_message_connect, offers, ← kept]
  refine ⟨rfl, rfl, ?_, rfl⟩
  change ((scene.fileAny filing?).attempt.request.hopStatus <|> _) = _
  simp [unset]

/-- Without a connection a failure of the exchanger leaves behind what it does over any connection,
except that no peer is named. -/
theorem handle_host_alone (session : Session) :
    let connected := (policy.handle (.host code reason) (scene.connect (some session))).value
    let alone := (policy.handle (.host code reason) (scene.connect none)).value
    let call : Call := ⟨.host code reason, scene.connect (some session)⟩
    alone.result = connected.result ∧
      alone.scene.attempt = { connected.scene.attempt with session := none } ∧
      alone.scene.stores.queue = connected.scene.stores.queue ∧
      ∀ outcome, alone.scene.stores.log outcome = { connected.scene.stores.log outcome with
        backend.records := scene.stores.records outcome ++
          (policy.appended outcome call).map (Record.withPeer "none") } := by
  dsimp only [appended]
  let filing? := policy.filingFor (scene.connect (some session)) (.host code reason)
  obtain ⟨attempt, queue, logs⟩ := scene.fileAny_withPeer filing? "none"
  rw [handle_host_connect, handle_host_connect, policy.filingFor_host_alone code reason scene session]
  refine ⟨rfl, ?_, queue, logs⟩
  change { (Attempt.remember _ _) with session := none } = _
  rw [attempt]
  rfl

/-- The records of a failure of the exchanger name the peer of the connection. -/
theorem peer_of_mem_appended_host (session : Session) (outcome : Outcome) (record : Record)
    (member : record ∈
      policy.appended outcome ⟨.host code reason, scene.connect (some session)⟩) :
    record.peer = session.label := by
  obtain ⟨filing, founded, _, peer, _⟩ := policy.appended_founded outcome _ record member
  have attributed := founded.attribution
  rw [← peer] at attributed
  generalize record.peer = named, filing.reason = given at attributed ⊢
  cases attributed
  rfl

end Policy

/-- The two failures that concern every recipient differ in the hop status only. Over a connection a
failure of the exchanger and a rejection of the message leave the same behind, except that a soft
failure of the last exchanger sets the hop status if it was unset, while a rejection never does.
Without a connection a failure of the exchanger leaves the same behind as over any connection, except
that the records that it appends name no peer. -/
theorem failure_scopes_differ_in_hopStatus (policy : Policy) (code : Nat) (reason : String)
    (scene : Scene) (session : Session) :
    let failed (connection : Option Session) :=
      (policy.handle (.host code reason) (scene.connect connection)).value
    let rejected := (policy.handle (.message code reason) (scene.connect (some session))).value
    let connected := failed (some session)
    let alone := failed none
    let before := scene.attempt
    let hopStatus :=
      if code / 100 = 4 ∧ before.state.finalServer = true ∧ before.request.hopStatus = none then
        some reason
      else before.request.hopStatus
    (connected.result = .ok .attemptOver ∧ rejected.result = .ok .attemptOver ∧
      rejected.scene.attempt.request.hopStatus = before.request.hopStatus ∧
      connected.scene = { rejected.scene with attempt.request.hopStatus := hopStatus }) ∧
    (alone.result = .ok .attemptOver ∧
      alone.scene.attempt = { connected.scene.attempt with session := none } ∧
      alone.scene.stores.queue = connected.scene.stores.queue ∧
      ∀ outcome,
        let appended :=
          policy.appended outcome ⟨.host code reason, scene.connect (some session)⟩
        connected.scene.stores.records outcome = scene.stores.records outcome ++ appended ∧
          (∀ record ∈ appended, record.peer = session.label) ∧
          alone.scene.stores.log outcome = { connected.scene.stores.log outcome with
            backend.records := scene.stores.records outcome ++
              appended.map (Record.withPeer "none") }) := by
  intro failed rejected connected alone before hopStatus
  obtain ⟨answered, rejectedAnswered, unmoved, differs⟩ :=
    policy.handle_scopes code reason scene session
  obtain ⟨answeredAlike, attempt, queue, logs⟩ :=
    policy.handle_host_alone code reason scene session
  have latched : (before.request.hopStatus <|>
      if code / 100 = 4 ∧ before.state.finalServer = true then some reason else none) =
        hopStatus := by
    cases unset : before.request.hopStatus <;> simp [hopStatus, unset]
  rw [latched] at differs
  refine ⟨⟨answered, rejectedAnswered, unmoved, differs⟩,
    answeredAlike.trans answered, attempt, queue, fun outcome => ⟨?_,
      policy.peer_of_mem_appended_host code reason scene session outcome, logs outcome⟩⟩
  rw [policy.appended_eq]
  exact (policy.handle_posts (.host code reason) (scene.connect (some session))).records outcome

end Nondelivery
