import Manuscript.Token.Basic

/-!
The levels of a token tree: which tokens stand how many levels below another one, and properties
that hold of every token of a tree at its own depth.
-/

namespace Manuscript.Token

/-- A token stands a number of levels below another one: so many steps to a child lead to it. -/
def Holds : Nat → Token → Token → Prop
  | 0, token, found => found = token
  | levels + 1, token, found => ∃ child ∈ token.children, Holds levels child found

/-- A property holds of a token at a depth and of all tokens below it, each at its own depth. -/
def Everywhere (property : Nat → Token → Prop) (depth : Nat) (token : Token) : Prop :=
  ∀ levels found, token.Holds levels found → property (depth + levels) found

/-- What stands below a token stands one level deeper below a token that has it as a child. -/
theorem Holds.of_child {token child found : Token} {levels : Nat}
    (member : child ∈ token.children) (held : child.Holds levels found) :
    token.Holds (levels + 1) found := ⟨child, member, held⟩

/-- What stands below a token that stands below another one stands below this too. -/
theorem Holds.trans {token middle found : Token} {upper lower : Nat}
    (first : token.Holds upper middle) (second : middle.Holds lower found) :
    token.Holds (upper + lower) found := by
  -- The steps of the second way are made behind those of the first.
  induction upper generalizing token with
  | zero =>
    obtain rfl : middle = token := first
    rwa [Nat.zero_add]
  | succ upper ih =>
    obtain ⟨child, member, deeper⟩ := first
    rw [Nat.add_right_comm]
    exact .of_child member (ih deeper)

/-- A token without children holds only itself. -/
theorem Holds.of_childless {token found : Token} {levels : Nat} (childless : token.children = [])
    (held : token.Holds levels found) : levels = 0 ∧ found = token := by
  -- A level further down would begin with a child.
  cases levels with
  | zero => exact ⟨rfl, held⟩
  | succ levels =>
    obtain ⟨child, member, -⟩ := held
    rw [childless] at member
    cases member

variable {property : Nat → Token → Prop} {depth : Nat} {token : Token}

/-- A property of a token that its children and all below them have too holds everywhere in it. -/
theorem Everywhere.of_children (here : property depth token)
    (below : ∀ child ∈ token.children, Everywhere property (depth + 1) child) :
    Everywhere property depth token := by
  intro levels found held
  cases levels with
  | zero =>
    -- No level down there is only the token itself.
    obtain rfl : found = token := held
    exact here
  | succ levels =>
    obtain ⟨child, member, deeper⟩ := held
    have there := below child member levels found deeper
    rwa [Nat.add_right_comm] at there

/-- In a token without children a property holds everywhere when it holds of the token. -/
theorem Everywhere.of_childless (childless : token.children = []) (here : property depth token) :
    Everywhere property depth token := by
  refine .of_children here fun child member => ?_
  rw [childless] at member
  cases member

end Manuscript.Token
