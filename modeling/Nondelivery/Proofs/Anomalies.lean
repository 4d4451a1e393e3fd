/-
This file compares two courses of an attempt whose codes differ, though not in being soft or not.
Such codes differ only in whether they are anomalous, and nothing that is decided depends on that,
nor on what was left undone before.
-/

import Mathlib.Data.List.Forall2
import Nondelivery.Proofs.Undone

namespace Nondelivery

/-- Two troubles that differ at most in their code, and are both soft or both not. -/
inductive Trouble.Alike : Trouble → Trouble → Prop
  | host {left right : Nat} (softness : left / 100 = 4 ↔ right / 100 = 4) (reason : String) :
      Alike (.host left reason) (.host right reason)
  | message {left right : Nat} (softness : left / 100 = 4 ↔ right / 100 = 4) (reason : String) :
      Alike (.message left reason) (.message right reason)
  | recipient {left right : Nat} (softness : left / 100 = 4 ↔ right / 100 = 4) (index : Nat)
      (reason : String) : Alike (.recipient left index reason) (.recipient right index reason)
  | stream (fault : StreamFault) (stage : String) :
      Alike (.stream fault stage) (.stream fault stage)
  | streamCode (code : Int) (stage : String) :
      Alike (.streamCode code stage) (.streamCode code stage)

/-- Two moves of one attempt that differ at most in the code of their trouble. -/
inductive Move.Alike : Move → Move → Prop
  | trouble {left right : Trouble} (alike : left.Alike right) :
      Alike (.trouble left) (.trouble right)
  | connect (session : Option Session) : Alike (.connect session) (.connect session)
  | markFinal : Alike .markFinal .markFinal
  | condition (condition : Condition) : Alike (.condition condition) (.condition condition)

/-- The scene without anything that its attempt has left undone or has taken note of. -/
def Scene.bare (scene : Scene) : Scene :=
  { scene with attempt.state := { finalServer := scene.attempt.state.finalServer } }

/-- What is remembered of trouble apart from a note of the code. -/
def Aftermath.unnoted (aftermath : Aftermath) : Aftermath :=
  { aftermath with anomalous := false }

section Codes

variable {left right : Nat} (softness : left / 100 = 4 ↔ right / 100 = 4)

include softness

/-- Of a code only its softness matters for the outcome. -/
theorem Severity.outcome_congr :
    (Severity.ofCode left).outcome = (Severity.ofCode right).outcome := by
  have deferred := (Severity.outcome_ofCode left).trans
    (softness.trans (Severity.outcome_ofCode right).symm)
  cases first : (Severity.ofCode left).outcome <;>
    cases second : (Severity.ofCode right).outcome <;> simp_all

theorem Attempt.passesOver_congr (attempt : Attempt) :
    attempt.passesOver left = attempt.passesOver right := by
  simp only [passesOver, Severity.isSoft_ofCode, softness]

theorem Scene.passesOver_congr (scene : Scene) :
    scene.passesOver (.ofCode left) = scene.passesOver (.ofCode right) :=
  scene.attempt.passesOver_congr softness

theorem Policy.filing_congr (policy : Policy) (peer reason : String)
    (entries : List (Nat × Recipient)) :
    policy.filing (.ofCode left) peer reason entries =
      policy.filing (.ofCode right) peer reason entries := by
  simp only [filing, Severity.outcome_congr softness]

theorem Attempt.failureAftermath_congr (attempt : Attempt) (scope : Scope) (reason : String) :
    (attempt.failureAftermath scope left reason).unnoted =
      (attempt.failureAftermath scope right reason).unnoted := by
  simp only [failureAftermath, attempt.passesOver_congr softness, Severity.outcome_congr softness]
  split <;> rfl

end Codes

namespace Scene

variable {first second : Trouble} (alike : first.Alike second) (scene : Scene)

include alike

theorem answer_congr : scene.attempt.answer first = scene.attempt.answer second := by
  cases alike with
  | host softness reason => rfl
  | message softness reason => rfl
  | recipient softness index reason =>
      simp only [Attempt.answer, Attempt.rejectionAnswer,
        scene.attempt.passesOver_congr softness]
  | stream fault stage => rfl
  | streamCode code stage => rfl

theorem leaves_congr : scene.leaves first = scene.leaves second := by
  cases alike with
  | host softness reason => exact scene.passesOver_congr softness
  | message softness reason => simp only [leaves, scene.passesOver_congr softness]
  | recipient softness index reason => simp only [leaves, scene.passesOver_congr softness]
  | stream fault stage => rfl
  | streamCode code stage => rfl

theorem aftermath_congr : (scene.attempt.aftermath first).unnoted =
    (scene.attempt.aftermath second).unnoted := by
  cases alike with
  | host softness reason => exact scene.attempt.failureAftermath_congr softness .host reason
  | message softness reason =>
      simp only [Attempt.aftermath]
      split
      · rfl
      · exact scene.attempt.failureAftermath_congr softness .message reason
  | recipient softness index reason =>
      simp only [Attempt.aftermath, Attempt.rejectionAftermath,
        scene.attempt.passesOver_congr softness]
      split
      · rfl
      · split
        · rfl
        · split <;> rfl
  | stream fault stage => rfl
  | streamCode code stage => rfl

theorem filingFor_congr (policy : Policy) :
    policy.filingFor scene first = policy.filingFor scene second := by
  cases alike with
  | host softness reason =>
      simp only [Policy.filingFor, scene.passesOver_congr softness, policy.filing_congr softness]
  | message softness reason =>
      simp only [Policy.filingFor, scene.passesOver_congr softness, policy.filing_congr softness]
  | recipient softness index reason =>
      simp only [Policy.filingFor, scene.passesOver_congr softness, policy.filing_congr softness]
  | stream fault stage => rfl
  | streamCode code stage => rfl

end Scene

namespace Policy

variable (policy : Policy)

/-- Nothing that is decided depends on what was left undone or taken note of before. -/
theorem handle_bare (trouble : Trouble) (scene : Scene) :
    policy.answer ⟨trouble, scene.bare⟩ = policy.answer ⟨trouble, scene⟩ ∧
      policy.undone trouble scene.bare = policy.undone trouble scene ∧
      (policy.after scene.bare (.trouble trouble)).bare =
        (policy.after scene (.trouble trouble)).bare := by
  have filings : policy.filingFor scene.bare trouble = policy.filingFor scene trouble := by
    cases trouble <;> rfl
  have leaves : scene.bare.leaves trouble = scene.leaves trouble := by
    cases trouble <;> rfl
  have answers : scene.bare.attempt.answer trouble = scene.attempt.answer trouble := by
    cases trouble <;> rfl
  have aftermaths : scene.bare.attempt.aftermath trouble = scene.attempt.aftermath trouble := by
    cases trouble <;> rfl
  refine ⟨?_, ?_, ?_⟩
  · simp only [answer, handle_eq, answers]
  · rw [undone, leaves, filings]
    rfl
  · simp only [after, play, handle_eq, filings, aftermaths]
    cases policy.filingFor scene trouble <;> rfl

/-- Nothing that is decided depends on a code beyond its softness. -/
theorem handle_congr {first second : Trouble} (alike : first.Alike second) (scene : Scene) :
    policy.answer ⟨first, scene⟩ = policy.answer ⟨second, scene⟩ ∧
      policy.undone first scene = policy.undone second scene ∧
      (policy.after scene (.trouble first)).bare = (policy.after scene (.trouble second)).bare := by
  have unnoted (aftermath : Aftermath) (scene : Scene) :
      (scene.remember aftermath).bare = (scene.remember aftermath.unnoted).bare := rfl
  refine ⟨?_, ?_, ?_⟩
  · simp only [answer, handle_eq, scene.answer_congr alike]
  · rw [undone, scene.leaves_congr alike, scene.filingFor_congr alike]
    rfl
  · simp only [after, play, handle_eq, scene.filingFor_congr alike]
    rw [unnoted, scene.aftermath_congr alike, ← unnoted]

/-- Moves that are alike come to the same in scenes that differ only in what was left undone or
taken note of. -/
theorem after_alike {left right : Move} (alike : left.Alike right) {one other : Scene}
    (same : one.bare = other.bare) :
    (one.calls left).map policy.answer = (other.calls right).map policy.answer ∧
      ((one.calls left).map fun call => policy.undone call.trouble call.scene) =
        ((other.calls right).map fun call => policy.undone call.trouble call.scene) ∧
      (policy.after one left).bare = (policy.after other right).bare := by
  cases alike with
  | @trouble first second alike =>
      obtain ⟨oneAnswer, oneUndone, oneAfter⟩ := policy.handle_bare first one
      obtain ⟨otherAnswer, otherUndone, otherAfter⟩ := policy.handle_bare second other
      obtain ⟨answer, undone, after⟩ := policy.handle_congr alike one.bare
      rw [same] at oneAnswer oneUndone oneAfter answer undone after
      refine ⟨?_, ?_, ?_⟩
      · exact congrArg (fun answer => [answer]) (oneAnswer.symm.trans (answer.trans otherAnswer))
      · exact congrArg (fun undone => [undone]) (oneUndone.symm.trans (undone.trans otherUndone))
      · exact oneAfter.symm.trans (after.trans otherAfter)
  | connect session => exact ⟨rfl, rfl, congrArg (Scene.connect session) same⟩
  | markFinal => exact ⟨rfl, rfl, congrArg Scene.markFinal same⟩
  | condition condition =>
      exact ⟨rfl, rfl, congrArg
        (fun scene : Scene => { scene with stores := scene.stores.apply condition }) same⟩

/-- Courses that are alike come to the same. -/
theorem run_alike {left right : List Move} (alike : List.Forall₂ Move.Alike left right)
    {one other : Scene} (same : one.bare = other.bare) :
    policy.answers left one = policy.answers right other ∧
      policy.undoneIn left one = policy.undoneIn right other ∧
      (policy.run left one).bare = (policy.run right other).bare := by
  -- The two scenes stay the same but for what the courses leave undone and take note of.
  induction alike generalizing one other with
  | nil => exact ⟨rfl, rfl, same⟩
  | cons first rest ih =>
      obtain ⟨answer, undone, after⟩ := policy.after_alike first same
      obtain ⟨answers, undoneIn, final⟩ := ih after
      refine ⟨?_, ?_, final⟩
      · rw [answers_cons, answers_cons, answer, answers]
      · simp only [Policy.undoneIn, calls_cons, List.map_append] at undoneIn ⊢
        rw [undone, undoneIn]

/-- The moves of a course that is like another one are those of one attempt. -/
theorem oneAttempt_of_alike {left right : List Move}
    (alike : List.Forall₂ Move.Alike left right) (session : Option Session) :
    Move.retry session ∉ left ∧ Move.retry session ∉ right := by
  induction alike with
  | nil => exact ⟨List.not_mem_nil, List.not_mem_nil⟩
  | cons first rest ih =>
      simp only [List.mem_cons, not_or]
      refine ⟨⟨?_, ih.1⟩, ?_, ih.2⟩ <;> cases first <;> exact nofun

end Policy

/-- Anomalies change nothing about what becomes of the recipients. Two attempts on the same request
whose moves are the same up to codes that are equally soft get the same answers and leave the same
request and the same stores behind, whatever they had left undone or taken note of at first. What
they leave undone in addition is the same for both. -/
theorem anomalies_change_no_disposition (policy : Policy) (request : Request)
    (session : Option Session) (stores : Stores) (first second : AttemptState)
    (final : first.finalServer = second.finalServer) (left right : List Move)
    (alike : List.Forall₂ Move.Alike left right) :
    let one : Scene := ⟨⟨request, session, first⟩, stores⟩
    let other : Scene := ⟨⟨request, session, second⟩, stores⟩
    let oneFinal := policy.run left one
    let otherFinal := policy.run right other
    policy.answers left one = policy.answers right other ∧
      oneFinal.attempt.request = otherFinal.attempt.request ∧
      oneFinal.attempt.session = otherFinal.attempt.session ∧
      oneFinal.attempt.state.finalServer = otherFinal.attempt.state.finalServer ∧
      oneFinal.stores = otherFinal.stores ∧
      ∃ gained : Shortfall,
        oneFinal.attempt.state.shortfall = first.shortfall.union gained ∧
        otherFinal.attempt.state.shortfall = second.shortfall.union gained := by
  intro one other oneFinal otherFinal
  have same : one.bare = other.bare := by
    simp only [one, other, Scene.bare, final]
  obtain ⟨answers, undone, finals⟩ := policy.run_alike alike same
  refine ⟨answers, congrArg (fun scene => scene.attempt.request) finals,
    congrArg (fun scene => scene.attempt.session) finals,
    congrArg (fun scene => scene.attempt.state.finalServer) finals,
    congrArg (fun scene => scene.stores) finals, .unionAll (policy.undoneIn left one), ?_, ?_⟩
  · exact policy.run_shortfall left one fun other => (Policy.oneAttempt_of_alike alike other).1
  · rw [undone]
    exact policy.run_shortfall right other fun other => (Policy.oneAttempt_of_alike alike other).2

/-- A syntax error in the place of a plain rejection concerns the postmaster, but it makes no other
difference. -/
theorem anomalies_change_no_disposition_syntax_error :
    let request : Request := ⟨⟨"4F"⟩, ⟨0, 0, by decide, by decide, by decide⟩, ⟨0⟩,
      ⟨[⟨"a", "a@x", 10, .pending⟩, ⟨"b", "b@x", 20, .pending⟩]⟩, none⟩
    let moves (soft hard : Nat) : List Move := [.trouble (.host soft "busy"),
      .connect (some ⟨"mx", "192.0.2.1"⟩), .condition (.refused .bounced 2),
      .trouble (.message hard "no")]
    let one : Scene := ⟨⟨request, none, .fresh⟩, .empty⟩
    let other : Scene := ⟨⟨request, none, { shortfall := .queueFailedOnly }⟩, .empty⟩
    let oneFinal := Policy.standard.run (moves 450 550) one
    let otherFinal := Policy.standard.run (moves 421 500) other
    oneFinal.attempt.request = otherFinal.attempt.request ∧
      oneFinal.stores = otherFinal.stores ∧
      oneFinal.attempt.request.ledger.pendingIndices = [1] ∧
      oneFinal.attempt.state.shortfall = { incomplete := true, logFailed := true } ∧
      otherFinal.attempt.state.shortfall =
        { incomplete := true, logFailed := true, queueFailed := true } ∧
      oneFinal.attempt.state.concerns ≠ otherFinal.attempt.state.concerns := by
  intro request moves one other oneFinal otherFinal
  have alike : List.Forall₂ Move.Alike (moves 450 550) (moves 421 500) :=
    .cons (.trouble (.host (by decide) "busy")) <| .cons (.connect _) <| .cons (.condition _) <|
      .cons (.trouble (.message (by decide) "no")) .nil
  obtain ⟨_, sameRequest, _, _, sameStores, _⟩ := anomalies_change_no_disposition .standard request
    none .empty .fresh { shortfall := .queueFailedOnly } rfl _ _ alike
  exact ⟨sameRequest, sameStores, by decide +kernel, by decide +kernel, by decide +kernel,
    by decide +kernel⟩

end Nondelivery
