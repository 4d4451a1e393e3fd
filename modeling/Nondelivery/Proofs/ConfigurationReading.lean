/-
This file says that a configuration file with the settings of a policy is read as this policy,
however its record is laid out: with or without its name, with the settings in either order, with or
without a comma at the end of the settings and of the list of problem classes, and with any blanks.
-/

import Nondelivery.Policy.Notation
import Nondelivery.Proofs.ConfigurationTokens
import Nondelivery.Proofs.SequenceReading

namespace Nondelivery

namespace Notation.Node

/-- The word has no meaning of its own, so that it can name a record or a problem class. -/
def isNameWord (letters : List Char) : Bool :=
  keyword? letters false = none && !isBareOptional letters false

variable (features : List Feature) (depth : Nat)

theorem read?_word (letters : List Char) (plain : isNameWord letters = true) (token : Token)
    (rest : List Token) (ends : token = .mark ',' ∨ token = .mark ']') :
    read? features (depth + 3) (.word letters false :: token :: rest) =
      some (word letters, token :: rest) := by
  simp only [isNameWord, Bool.and_eq_true, decide_eq_true_eq, Bool.not_eq_true'] at plain
  rcases ends with rfl | rfl <;> simp [read?, value?, single?, plain]

/-- A word in front of parentheses names the record that stands in them. -/
theorem value?_named (letters : List Char) (plain : isNameWord letters = true)
    (features : List Feature) (content? item? : Reader Node) (part? : Option (Reader Node))
    (tokens : List Token) :
    value? features content? item? part? (.word letters false :: .mark '(' :: tokens) =
      parenthesised? (some letters) item? tokens := by
  simp only [isNameWord, Bool.and_eq_true, decide_eq_true_eq, Bool.not_eq_true'] at plain
  simp [value?, plain]

theorem read?_truth (value : Bool) (rest : List Token) :
    read? features (depth + 3)
        (.word (if value then "true" else "false").toList false :: rest) =
      some (truth value, rest) := by
  cases value <;> rfl

/-- A list of names in brackets is read as the list of these words. -/
theorem read?_names {α : Type} (closing : Bool) (letters : α → List Char)
    (plain : ∀ item, isNameWord (letters item) = true) (items : List α) (rest : List Token) :
    read? features (depth + 5) (.mark '[' :: (Text.listed (.mark ',') closing
        (items.map fun item => [.word (letters item) false]) ++ .mark ']' :: rest)) =
      some (list (items.map fun item => word (letters item)), rest) := by
  have reads : List.Forall₂ (Text.PartReads (.mark ',') (.mark ']') (read? features (depth + 3)))
      (items.map fun item => [Token.word (letters item) false])
      (items.map fun item => word (letters item)) := by
    rw [List.forall₂_map_left_iff, List.forall₂_map_right_iff, List.forall₂_same]
    intro item _
    refine ⟨⟨_, rfl, by simp⟩, ?_⟩
    intro token rest ends
    exact read?_word features depth (letters item) (plain item) token rest ends
  have read := Text.bracketed?_listed (by simp) closing rest reads
  rw [read?, value?]
  simp [read]

end Notation.Node

open Notation (Spaced Token Node isPiece isMarkPiece CanFollow)

/-- A setting of a policy with its value. -/
inductive Setting where
  | softBounce (value : Bool)
  | notifyClasses (problems : List ProblemClass)

namespace Setting

def name : Setting → String
  | softBounce _ => "soft_bounce"
  | notifyClasses _ => "notify_classes"

/-- The pieces in which the value of a setting is written. A comma may follow the last problem
class. -/
def valuePieces (closing : Bool) : Setting → List String
  | softBounce value => [if value then "true" else "false"]
  | notifyClasses problems =>
      "[" :: (Text.listed "," closing (problems.map fun problem => [problem.name]) ++ ["]"])

/-- The pieces in which a setting is written. -/
def pieces (closing : Bool) (setting : Setting) : List String :=
  setting.name :: ":" :: setting.valuePieces closing

/-- The value of a configuration file that a setting has. -/
def node : Setting → Node
  | softBounce value => .truth value
  | notifyClasses problems => .list (problems.map fun problem => .word problem.name.toList)

end Setting

/-- How the record of a policy is laid out in a configuration file. -/
structure Layout where
  /-- The record is written after its name. -/
  named : Bool
  /-- The problem classes come before the other setting. -/
  classesFirst : Bool
  /-- A comma follows the last setting. -/
  closesSettings : Bool
  /-- A comma follows the last problem class. -/
  closesClasses : Bool

namespace Layout

/-- The settings that are not left out, in the order in which they are written. -/
def settings (layout : Layout) (softBounce : Option Bool)
    (notifyClasses : Option (List ProblemClass)) : List Setting :=
  let bounces := (softBounce.map Setting.softBounce).toList
  let problems := (notifyClasses.map Setting.notifyClasses).toList
  if layout.classesFirst then problems ++ bounces else bounces ++ problems

/-- The name of the record, if it is written. -/
def name? (layout : Layout) : Option String :=
  if layout.named then some "PolicyConfig" else none

/-- The pieces of which the file consists. -/
def pieces (layout : Layout) (softBounce : Option Bool)
    (notifyClasses : Option (List ProblemClass)) : List String :=
  layout.name?.toList ++ "(" ::
    (Text.listed "," layout.closesSettings
      ((layout.settings softBounce notifyClasses).map (Setting.pieces layout.closesClasses)) ++
        [")"])

end Layout

namespace Setting

variable (closing : Bool) (setting : Setting)

theorem sound : ∀ piece ∈ setting.pieces closing,
    isPiece piece = true ∧ piece ≠ "(" ∧ piece ≠ ")" := by
  cases setting with
  | softBounce value => cases value <;> cases closing <;> decide
  | notifyClasses problems =>
      intro piece member
      simp only [pieces, name, valuePieces, List.mem_cons, List.mem_append, List.not_mem_nil,
        or_false] at member
      rcases member with rfl | rfl | rfl | listed | rfl
      · decide
      · decide
      · decide
      · rcases Text.mem_listed listed with rfl | ⟨part, among, here⟩
        · decide
        · obtain ⟨problem, _, rfl⟩ := List.mem_map.mp among
          obtain rfl := List.mem_singleton.mp here
          cases problem <;> decide
      · decide

theorem isChain_pieces : (setting.pieces closing).IsChain CanFollow := by
  have colon : isMarkPiece ":".toList = true := by decide
  cases setting with
  | softBounce value =>
      refine .cons_cons (.ofSecond colon (by decide) _) ?_
      exact .cons_cons (.ofFirst colon (by decide) _) (.singleton _)
  | notifyClasses problems =>
      have comma : isMarkPiece ",".toList = true := by decide
      have list : (Text.listed "," closing (problems.map fun problem => [problem.name])).IsChain
          CanFollow := by
        refine Text.isChain_listed closing (CanFollow.ofSecond comma (by decide))
          (CanFollow.ofFirst comma (by decide)) _ ?_
        intro part among
        obtain ⟨problem, _, rfl⟩ := List.mem_map.mp among
        exact .singleton _
      refine .cons_cons (.ofSecond colon (by decide) _) ?_
      refine .cons_cons (.ofFirst colon (by decide) _) ?_
      rw [List.isChain_cons, List.isChain_append]
      refine ⟨fun next _ => .ofFirst (by decide) (by decide) next, list, .singleton _, ?_⟩
      rintro last - _ ⟨⟩
      exact .ofSecond (by decide) (by decide) last

/-- The tokens of the value of a setting. -/
def valueTokens : Setting → List Token
  | softBounce value => [.word (if value then "true" else "false").toList false]
  | notifyClasses problems =>
      .mark '[' :: (Text.listed (.mark ',') closing
        (problems.map fun problem => [.word problem.name.toList false]) ++ [.mark ']'])

theorem map_ofPiece : (setting.pieces closing).map Token.ofPiece =
    .word setting.name.toList false :: .mark ':' :: setting.valueTokens closing := by
  cases setting with
  | softBounce value => cases value <;> rfl
  | notifyClasses problems =>
      have names (problem : ProblemClass) :
          Token.ofPiece problem.name = .word problem.name.toList false := by
        cases problem <;> rfl
      have word : Token.ofPiece "notify_classes" = .word "notify_classes".toList false := rfl
      have colon : Token.ofPiece ":" = .mark ':' := rfl
      have comma : Token.ofPiece "," = .mark ',' := rfl
      have opening : Token.ofPiece "[" = .mark '[' := rfl
      have ending : Token.ofPiece "]" = .mark ']' := rfl
      simp only [pieces, name, valuePieces, valueTokens, List.map_cons, List.map_append,
        List.map_nil, Text.map_listed, List.map_map, Function.comp_def, names, word, colon, comma,
        opening, ending]

/-- The value of a setting is read as it is meant. -/
theorem read?_value (features : List Notation.Feature) (depth : Nat) (rest : List Token) :
    Node.read? features (depth + 5) (setting.valueTokens closing ++ rest) =
      some (setting.node, rest) := by
  cases setting with
  | softBounce value => exact Node.read?_truth features (depth + 2) value rest
  | notifyClasses problems =>
      have plain (problem : ProblemClass) :
          Node.isNameWord problem.name.toList = true := by
        cases problem <;> decide
      have read := Node.read?_names features depth closing _ plain problems rest
      simpa [valueTokens, node] using read

/-- The tokens of a setting are read as a member of the record. -/
theorem partReads (features : List Notation.Feature) (depth : Nat) :
    Text.PartReads (.mark ',') (.mark ')') (Node.member? (Node.read? features (depth + 5)))
      ((setting.pieces closing).map Token.ofPiece) (setting.name.toList, setting.node) := by
  rw [map_ofPiece]
  refine ⟨⟨_, rfl, by simp⟩, ?_⟩
  intro token rest _
  simp [Node.member?, read?_value]

end Setting

namespace Layout

variable (layout : Layout) (softBounce : Option Bool)
  (notifyClasses : Option (List ProblemClass))

/-- The token of the name of the record, if it is written. -/
def nameTokens : List Token :=
  (layout.name?.map fun name => Token.word name.toList false).toList

/-- The settings as members of a record. -/
def members : List (List Char × Node) :=
  (layout.settings softBounce notifyClasses).map fun setting => (setting.name.toList, setting.node)

/-- The tokens of the settings. -/
def settingTokens : List Token :=
  Text.listed (.mark ',') layout.closesSettings
    ((layout.settings softBounce notifyClasses).map fun setting =>
      (setting.pieces layout.closesClasses).map Token.ofPiece)

theorem map_ofPiece : (layout.pieces softBounce notifyClasses).map Token.ofPiece =
    layout.nameTokens ++ .mark '(' ::
      (layout.settingTokens softBounce notifyClasses ++ [.mark ')']) := by
  have comma : Token.ofPiece "," = .mark ',' := rfl
  have opening : Token.ofPiece "(" = .mark '(' := rfl
  have ending : Token.ofPiece ")" = .mark ')' := rfl
  have name : layout.name?.toList.map Token.ofPiece = layout.nameTokens := by
    unfold nameTokens name?
    cases layout.named <;> rfl
  simp only [pieces, settingTokens, List.map_append, List.map_cons, List.map_nil, Text.map_listed,
    List.map_map, name, comma, opening, ending]
  rfl

theorem sound : ∀ piece ∈ layout.pieces softBounce notifyClasses, isPiece piece = true := by
  intro piece member
  have named : ∀ name ∈ layout.name?, isPiece name = true := by
    unfold name?
    cases layout.named <;> decide
  simp only [pieces, List.mem_append, List.mem_cons, Option.mem_toList, List.not_mem_nil,
    or_false] at member
  rcases member with here | rfl | listed | rfl
  · exact named piece here
  · decide
  · rcases Text.mem_listed listed with rfl | ⟨part, among, here⟩
    · decide
    · obtain ⟨setting, _, rfl⟩ := List.mem_map.mp among
      exact (setting.sound layout.closesClasses piece here).1
  · decide

/-- No two pieces run together, unless all settings are left out. -/
theorem isChain_pieces (holds : layout.settings softBounce notifyClasses ≠ []) :
    (layout.pieces softBounce notifyClasses).IsChain CanFollow := by
  obtain ⟨first, others, same⟩ := List.exists_cons_of_ne_nil holds
  let parts := (first :: others).map (Setting.pieces layout.closesClasses)
  have comma : isMarkPiece ",".toList = true := by decide
  have listed : (Text.listed "," layout.closesSettings parts).IsChain CanFollow := by
    refine Text.isChain_listed _ (CanFollow.ofSecond comma (by decide))
      (CanFollow.ofFirst comma (by decide)) _ ?_
    intro part among
    obtain ⟨setting, _, rfl⟩ := List.mem_map.mp among
    exact setting.isChain_pieces layout.closesClasses
  have starts : (Text.listed "," layout.closesSettings parts).head? = some first.name :=
    Text.head?_listed "," layout.closesSettings _ first.name rfl
  have opens : CanFollow "(" first.name :=
    ⟨.inl (by decide), fun both =>
      (first.sound layout.closesClasses first.name List.mem_cons_self).2.2 both.2⟩
  have closes : ∀ last ∈ Text.listed "," layout.closesSettings parts, CanFollow last ")" := by
    intro last member
    refine ⟨.inr (by decide), fun both => ?_⟩
    rcases Text.mem_listed member with rfl | ⟨part, among, here⟩
    · exact absurd both.1 (by decide)
    · obtain ⟨setting, _, rfl⟩ := List.mem_map.mp among
      exact (setting.sound layout.closesClasses last here).2.1 both.1
  have record : ("(" :: (Text.listed "," layout.closesSettings parts ++ [")"])).IsChain
      CanFollow := by
    rw [List.isChain_cons, List.isChain_append]
    refine ⟨?_, listed, .singleton _, ?_⟩
    · intro next following
      rw [List.head?_append, starts] at following
      obtain rfl : first.name = next := Option.some.inj following
      exact opens
    · rintro last member _ ⟨⟩
      exact closes last (List.mem_of_getLast? member)
  rw [pieces, same, name?]
  cases layout.named with
  | false => exact record
  | true => exact .cons_cons (.ofSecond (by decide) (by decide) _) record

/-- What stands in the parentheses of the record is read as its members. -/
theorem parenthesised?_settings (features : List Notation.Feature) (depth : Nat)
    (name : Option (List Char)) : Node.parenthesised? name (Node.read? features (depth + 5))
      (layout.settingTokens softBounce notifyClasses ++ [.mark ')']) =
        some (.record name (layout.members softBounce notifyClasses), []) := by
  have reads : List.Forall₂ (Text.PartReads (.mark ',') (.mark ')')
      (Node.member? (Node.read? features (depth + 5))))
      ((layout.settings softBounce notifyClasses).map fun setting =>
        (setting.pieces layout.closesClasses).map Token.ofPiece)
      (layout.members softBounce notifyClasses) := by
    rw [members, List.forall₂_map_left_iff, List.forall₂_map_right_iff, List.forall₂_same]
    exact fun setting _ => setting.partReads layout.closesClasses features depth
  have read := Text.bracketed?_listed (by simp) layout.closesSettings [] reads
  rw [← settingTokens] at read
  cases same : layout.settings softBounce notifyClasses with
  | nil =>
      unfold settingTokens members
      rw [same]
      rfl
  | cons setting others =>
      obtain ⟨more, shape⟩ : ∃ more, layout.settingTokens softBounce notifyClasses ++ [.mark ')'] =
          .word setting.name.toList false :: .mark ':' :: more := by
        unfold settingTokens
        rw [same, List.map_cons, setting.map_ofPiece]
        cases others <;> exact ⟨_, rfl⟩
      rw [shape] at read ⊢
      simp [Node.parenthesised?, read]

/-- The record is read from its tokens. -/
theorem ofTokens?_record : Node.ofTokens? [] (layout.nameTokens ++ .mark '(' ::
    (layout.settingTokens softBounce notifyClasses ++ [.mark ')'])) =
      some (.record (layout.name?.map String.toList)
        (layout.members softBounce notifyClasses)) := by
  -- Values of members are two steps below the record, and 126 is the depth that is left for them.
  have inside (name : Option (List Char)) :=
    layout.parenthesised?_settings softBounce notifyClasses [] 121 name
  have depth : Node.greatestDepth = 125 + 3 := rfl
  rw [Node.ofTokens?, depth, Node.read?]
  unfold nameTokens name?
  cases layout.named with
  | false => simp [Node.value?, inside]
  | true =>
      have read := Node.value?_named "PolicyConfig".toList (by decide)
      simp only [if_true, Option.map_some, Option.toList_some, List.singleton_append, read, inside]

theorem ofTokens?_unit : Node.ofTokens? [] (layout.nameTokens ++ [.unit]) =
    some (.record (layout.name?.map String.toList) []) := by
  unfold nameTokens name?
  cases layout.named <;> rfl

theorem setting?_softBounce :
    Node.setting? (layout.members softBounce notifyClasses) "soft_bounce" Node.truth? =
      some softBounce := by
  unfold members settings
  cases layout.classesFirst <;> cases softBounce <;> cases notifyClasses <;>
    simp [Node.setting?, Setting.name, Setting.node, Node.truth?]

theorem setting?_notifyClasses :
    Node.setting? (layout.members softBounce notifyClasses) "notify_classes" Node.problems? =
      some notifyClasses := by
  have read (problems : List ProblemClass) :
      Node.problems? (.list (problems.map fun problem => .word problem.name.toList)) =
        some problems := by
    have known (problem : ProblemClass) :
        Node.problem? (.word problem.name.toList) = some problem := by
      cases problem <;> decide
    rw [Node.problems?]
    induction problems with
    | nil => rfl
    | cons problem rest ih => simp [known, ih]
  unfold members settings
  cases layout.classesFirst <;> cases softBounce <;> cases notifyClasses <;>
    simp [Node.setting?, Setting.name, Setting.node, read]

/-- If all settings are left out, the parentheses become one token or two. -/
theorem ofText?_empty (empty : layout.settings softBounce notifyClasses = []) (text : List Char)
    (spaced : Spaced (layout.pieces softBounce notifyClasses) text) :
    Token.ofText? text = some (layout.nameTokens ++ [.unit]) ∨
      Token.ofText? text = some (layout.nameTokens ++ [.mark '(', .mark ')']) := by
  rw [pieces, empty] at spaced
  unfold Token.ofText? nameTokens
  unfold name? at spaced ⊢
  cases named : layout.named with
  | false =>
      rw [named] at spaced
      exact spaced.readAll_parentheses _ (Nat.lt_succ_self _)
  | true =>
      have pieces : Spaced ["PolicyConfig", "(", ")"] text := by
        rw [named] at spaced
        exact spaced
      have canFollow : ∀ next ∈ ["(", ")"].head?, CanFollow "PolicyConfig" next := by
        rintro next ⟨⟩
        exact .ofSecond (by decide) (by decide) _
      obtain ⟨rest, others, shorter, step⟩ := pieces.readAll_next (by decide) canFollow
      rw [step]
      rcases others.readAll_parentheses text.length shorter with unit | marks
      · exact .inl (by rw [unit]; rfl)
      · exact .inr (by rw [marks]; rfl)

/-- The record is read from the text of the file. -/
theorem ofTokens?_spaced (text : List Char)
    (spaced : Spaced (layout.pieces softBounce notifyClasses) text) :
    ∃ tokens, Token.ofText? text = some (layout.nameTokens ++ tokens) ∧
      tokens.head? ≠ some (.mark '#') ∧
      Node.ofTokens? [] (layout.nameTokens ++ tokens) =
        some (.record (layout.name?.map String.toList)
          (layout.members softBounce notifyClasses)) := by
  have record := layout.ofTokens?_record softBounce notifyClasses
  by_cases empty : layout.settings softBounce notifyClasses = []
  · have unit := layout.ofTokens?_unit
    rw [settingTokens, members, empty] at record
    rw [members, empty]
    rcases layout.ofText?_empty softBounce notifyClasses empty text spaced with cut | cut
    · exact ⟨_, cut, by simp, unit⟩
    · exact ⟨_, cut, by simp, record⟩
  · have cut := spaced.readAll (layout.sound softBounce notifyClasses)
      (layout.isChain_pieces softBounce notifyClasses empty) _ (Nat.lt_succ_self _)
    rw [map_ofPiece] at cut
    exact ⟨_, cut, by simp, record⟩

/-- The record describes the policy with these settings. -/
theorem ofNode?_record : Policy.ofNode? false (.record (layout.name?.map String.toList)
    (layout.members softBounce notifyClasses)) =
      some (Policy.ofSettings softBounce notifyClasses) := by
  have named : layout.name?.map String.toList = some "PolicyConfig".toList ∨
      layout.name?.map String.toList = none ∧ false = false := by
    unfold name?
    cases layout.named
    · exact .inr ⟨rfl, rfl⟩
    · exact .inl rfl
  rw [Policy.ofNode?, if_pos named, setting?_softBounce, setting?_notifyClasses]
  rfl

end Layout

/-- A file that does not start with a number sign has no head lines. -/
theorem Notation.Feature.lines?_none (rounds : Nat) (tokens : List Token)
    (plain : tokens.head? ≠ some (.mark '#')) : lines? rounds tokens = some ([], tokens) := by
  cases rounds with
  | zero => rfl
  | succ rounds => exact if_neg plain

/-- A configuration file with these settings is read as they are meant, however it is laid out. -/
theorem Policy.ofConfiguration?_spaced (layout : Layout) (softBounce : Option Bool)
    (notifyClasses : Option (List ProblemClass)) (text : String)
    (spaced : Spaced (layout.pieces softBounce notifyClasses) text.toList) :
    ofConfiguration? text = some (ofSettings softBounce notifyClasses) := by
  obtain ⟨tokens, cut, plain, read⟩ :=
    layout.ofTokens?_spaced softBounce notifyClasses text.toList spaced
  have noLines : (layout.nameTokens ++ tokens).head? ≠ some (.mark '#') := by
    unfold Layout.nameTokens Layout.name?
    cases layout.named
    · exact plain
    · simp
  simp [ofConfiguration?, cut, Notation.Feature.lines?_none _ _ noLines, read,
    layout.ofNode?_record]

end Nondelivery
