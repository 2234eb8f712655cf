import Manuscript.Token.Basic

/-!
The literal text of a tree. It is gathered turn by turn from the trees that are left, and what was
found and what these still hold make up one text all along. Each turn meets one token, so that none
is left after as many turns as the tree has tokens.
-/

namespace Manuscript

namespace Token

mutual

/-- The text of a tree by recursion: its own, and then that of its children from first to last. -/
def rawText : Token → String
  | ⟨_, raw?, none, _⟩ => raw?.getD ""
  | ⟨_, raw?, some children, _⟩ => raw?.getD "" ++ rawTextAll children

/-- The text of trees one after another. -/
def rawTextAll : List Token → String
  | [] => ""
  | token :: rest => token.rawText ++ rawTextAll rest

end

/-- The root comes first, and a tree without children has its text alone. -/
theorem rawText_eq (token : Token) :
    token.rawText = token.raw?.getD "" ++ rawTextAll token.children := by
  obtain ⟨kind, raw?, _ | children, attrs⟩ := token
  · exact String.append_empty.symm
  · rfl

/-- The text of two rows of trees is that of the one and then that of the other. -/
theorem rawTextAll_append (front behind : List Token) :
    rawTextAll (front ++ behind) = rawTextAll front ++ rawTextAll behind := by
  -- The texts stand in the order of the tokens.
  induction front with
  | nil => exact String.empty_append.symm
  | cons token rest ih =>
    rw [List.cons_append, rawTextAll, rawTextAll, ih, String.append_assoc]

namespace Gathering

variable {found next last : Gathering} {turns : Nat}

/-- What was found, and behind it the text of the trees that are left, from the next one on. -/
def whole (found : Gathering) : String :=
  found.text ++ rawTextAll found.pending.toList.reverse

/-- With no tree left everything is found. -/
theorem whole_of_none_left (text : String) : whole ⟨text, #[]⟩ = text := String.append_empty

/-- A turn brings text from the trees to what was found, and the whole stays as it is. -/
theorem whole_of_turn? (turned : found.turn? = some next) : next.whole = found.whole := by
  obtain ⟨token, top, rfl⟩ := Option.map_eq_some_iff.mp turned
  obtain ⟨front, pending⟩ := Array.back?_eq_some_iff.mp top
  -- The children were put down in reverse, so that they are met from first to last.
  have onward : (front ++ token.children.reverse.toArray).toList.reverse =
      token.children ++ front.toList.reverse := by simp
  have before : (front.push token).toList.reverse = token :: front.toList.reverse := by simp
  rw [whole, whole, pending, Array.pop_push, onward, before, rawTextAll_append, rawTextAll,
    token.rawText_eq, String.append_assoc, String.append_assoc]

/-- There is a turn as long as a tree is left. -/
theorem turn?_eq_none_iff : found.turn? = none ↔ found.pending = #[] := by
  rw [turn?, Option.map_eq_none_iff, Array.back?_eq_none_iff]

/-- Without a turn no token is left. -/
theorem left_of_turn?_eq_none (ended : found.turn? = none) : found.left = 0 := by
  rw [left, turn?_eq_none_iff.mp ended]
  rfl

/-- What there is after some turns, if there are as many. -/
def after : Nat → Gathering → Option Gathering
  | 0, found => some found
  | turns + 1, found => found.turn?.bind (after turns)

/-- There are as many turns as tokens are left; then no tree is left and the whole is found. -/
theorem after_left (found : Gathering) : found.after found.left = some ⟨found.whole, #[]⟩ := by
  -- The induction is on the tokens that are left, of which a turn meets one.
  induction tokens : found.left generalizing found with
  | zero =>
    have ended : found.turn? = none := by
      cases turned : found.turn? with
      | none => rfl
      | some next =>
        have one := left_of_turn? turned
        omega
    obtain ⟨text, pending⟩ := found
    obtain rfl : pending = #[] := turn?_eq_none_iff.mp ended
    rw [whole_of_none_left, after]
  | succ tokens ih =>
    cases turned : found.turn? with
    | none =>
      -- A turn is due as long as a token is left.
      have none_left := left_of_turn?_eq_none turned
      omega
    | some next =>
      have one := left_of_turn? turned
      rw [after, turned, Option.bind_some, ih next (by omega), whole_of_turn? turned]

/-- Where there is no turn the text is what was found. -/
theorem finish_of_turn?_eq_none (ended : found.turn? = none) : found.finish = found.text := by
  fun_cases finish found with
  | case1 => rfl
  | case2 next turned => cases ended.symm.trans turned

/-- A turn does not change what the text will be. -/
theorem finish_of_turn? (turned : found.turn? = some next) : found.finish = next.finish := by
  fun_cases finish found with
  | case1 ended => cases ended.symm.trans turned
  | case2 other again => rw [Option.some.inj (again.symm.trans turned)]

/-- Nor do any number of turns. -/
theorem finish_of_after (taken : found.after turns = some last) : found.finish = last.finish := by
  -- No turn changes what comes out in the end.
  induction turns generalizing found with
  | zero => rw [Option.some.inj taken]
  | succ turns ih =>
    obtain ⟨next, turned, onward⟩ := Option.bind_eq_some_iff.mp taken
    rw [finish_of_turn? turned, ih onward]

/-- The text is the whole. -/
theorem finish_eq_whole (found : Gathering) : found.finish = found.whole := by
  rw [finish_of_after found.after_left, finish_of_turn?_eq_none (turn?_eq_none_iff.mpr rfl)]

/-- What is to be gathered from a tree is its text. -/
theorem whole_ofToken (token : Token) : (ofToken token).whole = token.rawText := by
  simp [whole, ofToken, rawTextAll]

/-- As many tokens are to be met as the tree has. -/
theorem left_ofToken (token : Token) : (ofToken token).left = token.count := by
  simp [left, ofToken, countAll]

end Gathering

/-- Gathering the text of a tree gives the same as recursion on the tree. -/
theorem plainText_eq_rawText (token : Token) : token.plainText = token.rawText := by
  rw [plainText, Gathering.finish_eq_whole, Gathering.whole_ofToken]

/--
The text of a tree is gathered in as many turns as the tree has tokens. After them no tree is left to
take a turn with, and what was found is the text of the root, behind it the text of its children from
first to last.
-/
theorem plainText_gathered (token : Token) :
    (Gathering.ofToken token).after token.count = some ⟨token.rawText, #[]⟩ ∧
      Gathering.turn? ⟨token.rawText, #[]⟩ = none ∧ token.plainText = token.rawText := by
  refine ⟨?_, Gathering.turn?_eq_none_iff.mpr rfl, token.plainText_eq_rawText⟩
  rw [← Gathering.left_ofToken, Gathering.after_left, Gathering.whole_ofToken]

example :
    (parent .paragraph [ofText "a ", parent .strong [ofText "b"], ofRaw .codespan " c"]).plainText =
      "a b c" := by
  decide +kernel

end Token

end Manuscript
