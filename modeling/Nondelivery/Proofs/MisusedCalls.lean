/-
This file says what comes of misuse. A call is answered with an error just when it was misused, and
such a call changes nothing: the course of an attempt goes as it would go without it. Some calls
count as misused without need: a rejection misses the connection even if no outcome has to be
recorded.
-/

import Nondelivery.Proofs.Run

namespace Nondelivery

/-- The ways in which trouble can be brought up wrongly, each with the error that it is answered
with. A failure of the exchanger is never misused. -/
inductive Misused (scene : Scene) : Trouble → Misuse → Prop where
  | message (code : Nat) (reason : String) (alone : scene.attempt.session = none) :
      Misused scene (.message code reason) .noSession
  /-- The request does not reach as far as the index. -/
  | unknownRecipient (code index : Nat) (reason : String)
      (unknown : scene.attempt.request.ledger.size ≤ index) :
      Misused scene (.recipient code index reason) (.unknownRecipient index)
  /-- No peer is needed for a rejection that is passed over. -/
  | recipient (code index : Nat) (reason : String)
      (known : index < scene.attempt.request.ledger.size)
      (stays : scene.passesOver (.ofCode code) = false) (alone : scene.attempt.session = none) :
      Misused scene (.recipient code index reason) .noSession
  | stream (fault : StreamFault) (stage : String) (alone : scene.attempt.session = none) :
      Misused scene (.stream fault stage) .noSession
  | unknownStreamCode (code : Int) (stage : String) (unknown : code ≠ 1 ∧ code ≠ 2) :
      Misused scene (.streamCode code stage) (.unknownStreamFault code)
  | streamCode (code : Int) (stage : String) (known : code = 1 ∨ code = 2)
      (alone : scene.attempt.session = none) : Misused scene (.streamCode code stage) .noSession

namespace StreamFault

/-- The connection layer has two codes. -/
theorem ofCode_cases (code : Int) :
    ((code = 1 ∨ code = 2) ∧ ∃ fault, ofCode code = .ok fault) ∨
      ((code ≠ 1 ∧ code ≠ 2) ∧ ofCode code = .error (.unknownStreamFault code)) := by
  unfold ofCode
  by_cases lost : code = 1
  · exact .inl ⟨.inl lost, .lost, if_pos lost⟩
  by_cases late : code = 2
  · exact .inl ⟨.inr late, .timedOut, by rw [if_neg lost, if_pos late]⟩
  · exact .inr ⟨⟨lost, late⟩, by rw [if_neg lost, if_neg late]⟩

end StreamFault

namespace Policy

variable (policy : Policy)

/-- Misuse is found out before anything is changed. -/
theorem handle_misused {scene : Scene} {trouble : Trouble} {misuse : Misuse}
    (misused : Misused scene trouble misuse) :
    (policy.handle trouble scene).value = ⟨.error misuse, scene⟩ := by
  cases misused with
  | message code reason alone =>
      simp only [handle, messageFailure_value, alone, Option.isNone_none, if_true]
  | unknownRecipient code index reason unknown =>
      simp only [handle, recipientFailure_value, if_pos unknown]
  | recipient code index reason known stays alone =>
      simp only [handle, recipientFailure_value, if_neg (Nat.not_le.mpr known), stays, alone,
        Bool.false_eq_true, if_false]
  | stream fault stage alone => simp only [handle, streamFailure_value, alone]
  | unknownStreamCode code stage unknown =>
      rcases StreamFault.ofCode_cases code with ⟨known, _⟩ | ⟨_, refused⟩
      · omega
      · simp only [handle, streamCodeFailure_value, refused]
  | streamCode code stage known alone =>
      rcases StreamFault.ofCode_cases code with ⟨_, fault, found⟩ | ⟨unknown, _⟩
      · simp only [handle, streamCodeFailure_value, found, streamFailure_value, alone]
      · omega

/-- Whatever is answered with an error was misused. -/
theorem misused_of_answer (trouble : Trouble) (scene : Scene) (misuse : Misuse)
    (answered : (policy.handle trouble scene).value.result = .error misuse) :
    Misused scene trouble misuse := by
  cases trouble with
  | host code reason =>
      rw [handle, hostFailure_value] at answered
      cases answered
  | message code reason =>
      simp only [handle, messageFailure_value] at answered
      split at answered <;> cases answered
      exact .message code reason (Option.isNone_iff_eq_none.mp ‹_›)
  | recipient code index reason =>
      simp only [handle, recipientFailure_value] at answered
      split at answered
      · cases answered
        exact .unknownRecipient code index reason ‹_›
      split at answered
      · cases answered
      · split at answered <;> cases answered
        exact .recipient code index reason (Nat.not_le.mp ‹_›) (eq_false_of_ne_true ‹_›) ‹_›
  | stream fault stage =>
      simp only [handle, streamFailure_value] at answered
      split at answered <;> cases answered
      exact .stream fault stage ‹_›
  | streamCode code stage =>
      simp only [handle, streamCodeFailure_value] at answered
      rcases StreamFault.ofCode_cases code with ⟨known, fault, found⟩ | ⟨unknown, refused⟩
      · simp only [found, streamFailure_value] at answered
        split at answered <;> cases answered
        exact .streamCode code stage known ‹_›
      · simp only [refused] at answered
        cases answered
        exact .unknownStreamCode code stage unknown

theorem answer_eq_error (trouble : Trouble) (scene : Scene) (misuse : Misuse) :
    policy.answer ⟨trouble, scene⟩ = .error misuse ↔ Misused scene trouble misuse :=
  ⟨policy.misused_of_answer trouble scene misuse,
    fun misused => congrArg Ruling.result (policy.handle_misused misused)⟩

/-- The move makes no call, or one that is answered without an error. -/
def goesWell (move : Move) (scene : Scene) : Bool :=
  (scene.calls move).all fun call => (policy.answer call).isOk

/-- A move that does not go well changes nothing. -/
theorem after_misused (move : Move) (scene : Scene) (wrong : policy.goesWell move scene = false) :
    policy.after scene move = scene := by
  cases move with
  | trouble trouble =>
      cases answered : policy.answer ⟨trouble, scene⟩ with
      | error misuse =>
          have misused := policy.misused_of_answer trouble scene misuse answered
          exact congrArg Ruling.scene (policy.handle_misused misused)
      | ok verdict => simp [goesWell, Scene.calls, answered, Except.isOk, Except.toBool] at wrong
  | connect session => cases wrong
  | markFinal => cases wrong
  | retry session => cases wrong
  | condition condition => cases wrong

/-- A course of moves without the calls in it that are answered with an error. -/
def withoutMisuse : List Move → Scene → List Move
  | [], _ => []
  | move :: moves, scene =>
      if policy.goesWell move scene then move :: withoutMisuse moves (policy.after scene move)
      else withoutMisuse moves (policy.after scene move)

theorem withoutMisuse_sublist (moves : List Move) (scene : Scene) :
    (policy.withoutMisuse moves scene).Sublist moves := by
  induction moves generalizing scene with
  | nil => exact List.Sublist.slnil
  | cons move rest ih =>
      unfold withoutMisuse
      split
      · exact (ih _).cons_cons move
      · exact (ih _).cons move

theorem run_withoutMisuse (moves : List Move) (scene : Scene) :
    policy.run (policy.withoutMisuse moves scene) scene = policy.run moves scene := by
  induction moves generalizing scene with
  | nil => rfl
  | cons move rest ih =>
      rw [run_cons, ← ih]
      cases well : policy.goesWell move scene with
      | true => rw [withoutMisuse, if_pos well, run_cons]
      | false =>
          rw [withoutMisuse, well, if_neg Bool.false_ne_true,
            policy.after_misused move scene well]

/-- The remaining calls are made in the same scenes as before. -/
theorem calls_withoutMisuse (moves : List Move) (scene : Scene) :
    policy.calls (policy.withoutMisuse moves scene) scene =
      (policy.calls moves scene).filter fun call => (policy.answer call).isOk := by
  induction moves generalizing scene with
  | nil => rfl
  | cons move rest ih =>
      rw [calls_cons, List.filter_append, ← ih]
      cases well : policy.goesWell move scene with
      | true =>
          rw [withoutMisuse, if_pos well, calls_cons,
            List.filter_eq_self.mpr (List.all_eq_true.mp well)]
      | false =>
          have made : (scene.calls move).filter (fun call => (policy.answer call).isOk) = [] := by
            cases move <;> simp_all [goesWell, Scene.calls]
          rw [withoutMisuse, well, if_neg Bool.false_ne_true, made, List.nil_append,
            policy.after_misused move scene well]

end Policy

/-- Misuse changes nothing and can be left out. A call that is answered with an error leaves the
attempt and the stores as they were. A course of moves therefore comes to the same without these
calls, and the others are made in the same scenes and get the same answers. -/
theorem misuse_changes_nothing (policy : Policy) :
    (∀ trouble scene misuse,
      (policy.answer ⟨trouble, scene⟩ = .error misuse ↔ Misused scene trouble misuse) ∧
      (policy.answer ⟨trouble, scene⟩ = .error misuse →
        (policy.handle trouble scene).value.scene = scene)) ∧
    ∀ moves start,
      let kept := policy.withoutMisuse moves start
      kept.Sublist moves ∧
      policy.run kept start = policy.run moves start ∧
      policy.answers kept start = (policy.answers moves start).filter Except.isOk ∧
      policy.calls kept start =
        (policy.calls moves start).filter fun call => (policy.answer call).isOk := by
  refine ⟨fun trouble scene misuse => ⟨policy.answer_eq_error trouble scene misuse, ?_⟩,
    fun moves start => ?_⟩
  · intro answered
    have misused := policy.misused_of_answer trouble scene misuse answered
    exact congrArg Ruling.scene (policy.handle_misused misused)
  · intro kept
    have remaining := policy.calls_withoutMisuse moves start
    refine ⟨policy.withoutMisuse_sublist moves start, policy.run_withoutMisuse moves start, ?_,
      remaining⟩
    rw [Policy.answers, remaining, Policy.answers, List.filter_map]
    rfl

/-- Before there is a connection, a syntax error is no reason to note anything about the message or
a recipient, while the exchanger may fail all the same and a soft rejection is passed over. -/
theorem misuse_changes_nothing_unconnected :
    let request : Request := ⟨⟨"4F"⟩, ⟨0, 0, by decide, by decide, by decide⟩, ⟨0⟩,
      ⟨[⟨"a", "a@x", 10, .pending⟩]⟩, none⟩
    let start : Scene := ⟨⟨request, none, .fresh⟩, .empty⟩
    let wrong : List Move := [.trouble (.message 503 "bad sequence"),
      .trouble (.recipient 503 0 "bad sequence"), .trouble (.recipient 450 1 "nobody"),
      .trouble (.stream .lost "greeting"), .trouble (.streamCode 3 "greeting")]
    let right : List Move := [.trouble (.recipient 450 0 "busy"), .trouble (.host 550 "no")]
    Policy.standard.withoutMisuse (wrong ++ right) start = right ∧
      Policy.standard.run right start = Policy.standard.run (wrong ++ right) start ∧
      Policy.standard.answers right start = [.ok .carryOn, .ok .attemptOver] ∧
      (Policy.standard.run right start).attempt.state.concerns = .none ∧
      (Policy.standard.run wrong start) = start := by
  intro request start wrong right
  obtain ⟨_, course⟩ := misuse_changes_nothing .standard
  have kept : Policy.standard.withoutMisuse (wrong ++ right) start = right := by decide +kernel
  have nothing : Policy.standard.withoutMisuse wrong start = [] := by decide +kernel
  obtain ⟨_, same, _, _⟩ := course (wrong ++ right) start
  obtain ⟨_, unchanged, _, _⟩ := course wrong start
  rw [kept] at same
  rw [nothing] at unchanged
  exact ⟨kept, same, by rfl, by decide +kernel, unchanged.symm⟩

/-- The rejection of a recipient of the ledger misses the connection just when it is not passed over.
For a recipient that waits this is in order, because an outcome has to be recorded and the record
names the peer. But the connection is missed for a completed recipient as well, for which nothing
has to be recorded. -/
theorem rejection_misses_connection_iff (policy : Policy) (code index : Nat) (reason : String)
    (scene : Scene) :
    let ledger := scene.attempt.request.ledger
    let alone := scene.attempt.session = none
    let stays := code / 100 ≠ 4 ∨ scene.attempt.state.finalServer = true
    let missed := policy.answer ⟨.recipient code index reason, scene⟩ = .error .noSession
    (missed ↔ alone ∧ index < ledger.size ∧ stays) ∧
      (missed ∧ ledger.isPending index = true ↔
        alone ∧ ledger.isPending index = true ∧ stays) ∧
      (missed ∧ ledger.isPending index = false ↔
        alone ∧ ledger.isCompleted index = true ∧ stays) := by
  intro ledger alone stays missed
  have exactly : missed ↔ alone ∧ index < ledger.size ∧ stays := by
    refine (policy.answer_eq_error _ scene _).trans ?_
    constructor
    · rintro (_ | _ | ⟨_, _, _, known, remains, unconnected⟩)
      exact ⟨unconnected, known, (scene.attempt.passesOver_eq_false code).mp remains⟩
    · rintro ⟨unconnected, known, remains⟩
      exact .recipient code index reason known
        ((scene.attempt.passesOver_eq_false code).mpr remains) unconnected
  refine ⟨exactly, ?_, ?_⟩
  · rw [exactly]
    constructor
    · rintro ⟨⟨unconnected, _, remains⟩, waits⟩
      exact ⟨unconnected, waits, remains⟩
    · rintro ⟨unconnected, waits, remains⟩
      exact ⟨⟨unconnected, ledger.lt_size_of_isPending index waits, remains⟩, waits⟩
  · rw [exactly, ledger.isCompleted_iff]
    constructor
    · rintro ⟨⟨unconnected, inside, remains⟩, idle⟩
      exact ⟨unconnected, ⟨inside, idle⟩, remains⟩
    · rintro ⟨unconnected, ⟨inside, idle⟩, remains⟩
      exact ⟨⟨unconnected, inside, remains⟩, idle⟩

/-- The exchanger fails before there is a connection, and its only recipient bounces. When the same
recipient is then rejected, a connection is missed, although there is no outcome to be recorded. -/
theorem completed_recipient_misses_connection :
    let request : Request := ⟨⟨"4F"⟩, ⟨0, 0, by decide, by decide, by decide⟩, ⟨0⟩,
      ⟨[⟨"a", "a@x", 10, .pending⟩]⟩, none⟩
    let scene := Policy.standard.run [.trouble (.host 550 "no")] ⟨.start request, .empty⟩
    let ledger := scene.attempt.request.ledger
    scene.attempt.session = none ∧ ledger.isCompleted 0 = true ∧
      ¬ (Policy.standard.answer ⟨.recipient 550 0 "nobody", scene⟩ = .error .noSession ↔
        0 < ledger.size ∧ ledger.isPending 0 = true ∧
          (550 / 100 ≠ 4 ∨ scene.attempt.state.finalServer = true)) := by
  intro request scene ledger
  have alone : scene.attempt.session = none := rfl
  have completed : ledger.isCompleted 0 = true := by decide +kernel
  have missed : Policy.standard.answer ⟨.recipient 550 0 "nobody", scene⟩ = .error .noSession :=
    (Policy.standard.answer_eq_error _ scene _).mpr
      (.recipient 550 0 "nobody" (by decide +kernel) (by decide +kernel) alone)
  refine ⟨alone, completed, fun documented => ?_⟩
  have waits := (documented.mp missed).2.1
  rw [((ledger.isCompleted_iff 0).mp completed).2] at waits
  cases waits

end Nondelivery
