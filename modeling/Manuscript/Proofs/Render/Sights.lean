import Manuscript.Proofs.Render.Pruning

/-!
What rendering meets in a tree by which one can see whether unknown tokens were deleted: numbers of
tables that come behind tables in unknown tokens, and trees that are written as their plain text.
-/

namespace Manuscript

namespace TokenKind

/-- A kind whose content is rendered, but not written. -/
def dropsContent : TokenKind → Bool
  | .linebreak | .softbreak | .thematicBreak | .blankLine => true
  | _ => false

/-- Kinds whose content is not written are known. -/
theorem known_of_dropsContent {kind : TokenKind} (dropped : kind.dropsContent = true) :
    kind.isUnknown = false := by
  cases kind with
  | unknown name => exact absurd dropped Bool.false_ne_true
  | _ => rfl

/-- Parts of tables are written with their content. -/
theorem written_of_inTable {kind : TokenKind} (part : kind.inTable = true) :
    kind.dropsContent = false := by
  cases kind <;> first | rfl | exact absurd part Bool.false_ne_true

end TokenKind

/-- What rendering meets in a tree. -/
inductive Sight where
  /-- A table whose number is written. -/
  | number
  /-- A table inside of an unknown token: it takes a number, although nothing of it is written. -/
  | skipped
  /-- A tree at the depth limit, which is written as its plain text. -/
  | flat (token : Token)

/-- A table that takes a number inside of an unknown token. -/
def Sight.isSkipped : Sight → Bool
  | .skipped => true
  | _ => false

/--
What is met in a tree, in order, where a number of levels is left up to the depth limit. Of what is
rendered but not written only the numbers that are taken count.
-/
def Token.sights : Nat → Token → List Sight
  | 0, token => [.flat token]
  | room + 1, token =>
    let inside := token.inner.flatMap (sights room)
    if token.kind.isUnknown then .replicate (token.tablesWithin (room + 1)).length .skipped
    else if token.kind.dropsContent then inside.filter (·.isSkipped)
    else if token.kind = .table then .number :: inside
    else inside

/-- What is met stays the same without unknown tokens. -/
def Sight.Kept : Sight → Prop
  | .flat token => token.kind.isUnknown = false ∧ token.pruned.plainText = token.plainText
  | _ => True

/-- Nothing that is met changes without unknown tokens: no tree at the limit, and no number. -/
structure Undisturbed (met : List Sight) : Prop where
  /-- Trees at the limit have the same plain text. -/
  kept : ∀ sight ∈ met, sight.Kept
  /-- No number is written behind a table in an unknown token. -/
  inOrder : met.Pairwise fun first later => first = .skipped → later ≠ .number

/-- Nothing that is met changes where the numbers of tables were shifted before, or were not. -/
def UndisturbedBehind (shifted : Prop) (met : List Sight) : Prop :=
  Undisturbed met ∧ (shifted → .number ∉ met)

namespace Sight

/-- Only one thing that can be met is a table in an unknown token. -/
@[simp] theorem isSkipped_iff {sight : Sight} : sight.isSkipped = true ↔ sight = .skipped := by
  cases sight <;> simp [isSkipped]

end Sight

/-- Where nothing is met nothing changes. -/
theorem undisturbedBehind_nil (shifted : Prop) : UndisturbedBehind shifted [] :=
  ⟨⟨by simp, List.Pairwise.nil⟩, by simp⟩

/-- Tables in unknown tokens are not seen by themselves. -/
theorem undisturbedBehind_skipped {met : List Sight} (shifted : Prop)
    (all : ∀ sight ∈ met, sight = .skipped) : UndisturbedBehind shifted met := by
  refine ⟨⟨fun sight member => ?_, ?_⟩, fun _ member => Sight.noConfusion (all _ member)⟩
  · -- What is skipped asks nothing of the text, and no number is among it.
    rw [all sight member]
    trivial
  · refine List.pairwise_of_forall_mem_list fun first _ later member => ?_
    rw [all later member]
    exact fun _ => Sight.noConfusion

/-- What is met last is behind the tables in unknown tokens that were met first. -/
theorem undisturbedBehind_append {shifted : Prop} {front back : List Sight} :
    UndisturbedBehind shifted (front ++ back) ↔
      UndisturbedBehind shifted front ∧
        UndisturbedBehind (shifted ∨ .skipped ∈ front) back := by
  -- A number in the back is shifted by what was there before and by what the front skips.
  constructor
  · rintro ⟨⟨kept, inOrder⟩, numbers⟩
    obtain ⟨inFront, inBack, across⟩ := List.pairwise_append.mp inOrder
    refine ⟨⟨⟨fun sight member => kept sight (by simp [member]), inFront⟩,
      fun was member => numbers was (by simp [member])⟩,
      ⟨⟨fun sight member => kept sight (by simp [member]), inBack⟩, ?_⟩⟩
    rintro (was | skipped) member
    · exact numbers was (by simp [member])
    · exact across _ skipped _ member rfl rfl
  · -- The conditions of both parts make up those of the whole.
    rintro ⟨⟨⟨keptFront, inFront⟩, numbersFront⟩, ⟨⟨keptBack, inBack⟩, numbersBack⟩⟩
    refine ⟨⟨fun sight member => ?_, List.pairwise_append.mpr ⟨inFront, inBack, ?_⟩⟩, ?_⟩
    · exact (List.mem_append.mp member).elim (keptFront sight) (keptBack sight)
    · rintro _ skipped _ number rfl rfl
      exact numbersBack (.inr skipped) number
    · intro was member
      exact (List.mem_append.mp member).elim (numbersFront was) (numbersBack (.inl was))

/-- The number of a table is seen where numbers were shifted. -/
theorem undisturbedBehind_number {shifted : Prop} {met : List Sight} :
    UndisturbedBehind shifted (.number :: met) ↔ ¬ shifted ∧ UndisturbedBehind shifted met := by
  -- What comes behind the number is shifted neither more nor less than the number.
  have single : UndisturbedBehind shifted [.number] ↔ ¬ shifted := by
    refine ⟨fun undisturbed was => undisturbed.2 was (by simp), fun not => ⟨⟨?_, ?_⟩, ?_⟩⟩
    · simp [Sight.Kept]
    · exact List.pairwise_singleton ..
    · exact fun was => absurd was not
  rw [← List.singleton_append, undisturbedBehind_append, single]
  simp

/-- A tree at the limit is seen unless it is known and has the same plain text. -/
theorem undisturbedBehind_flat {shifted : Prop} {token : Token} :
    UndisturbedBehind shifted [.flat token] ↔ (Sight.flat token).Kept := by
  -- A single tree is no number that could be shifted.
  refine ⟨fun undisturbed => undisturbed.1.kept _ (by simp), fun kept => ⟨⟨?_, ?_⟩, ?_⟩⟩
  · rintro _ (_ | ⟨_, ⟨⟩⟩)
    exact kept
  · exact List.pairwise_singleton ..
  · rintro _ (_ | ⟨_, ⟨⟩⟩)

namespace Token

/-- What is met in an unknown token is the tables in it. -/
theorem sights_unknown {token : Token} (unknown : token.kind.isUnknown = true) (room : Nat) :
    token.sights (room + 1) = .replicate (token.tablesWithin (room + 1)).length .skipped :=
  if_pos unknown

/-- What is met in a known token is what is inside of it, its number, or only what is skipped. -/
theorem sights_known {token : Token} (known : token.kind.isUnknown = false) (room : Nat) :
    token.sights (room + 1) =
      let inside := token.inner.flatMap (sights room)
      if token.kind.dropsContent then inside.filter (·.isSkipped)
      else if token.kind = .table then .number :: inside
      else inside :=
  -- An unknown token would be seen as skipped tables only.
  if_neg (by simp [known])

/-- Where content is not written only the numbers that are taken are met. -/
theorem sights_dropped {token : Token} (dropped : token.kind.dropsContent = true) (room : Nat) :
    token.sights (room + 1) = (token.inner.flatMap (sights room)).filter (·.isSkipped) := by
  have known : token.kind.isUnknown = false := TokenKind.known_of_dropsContent dropped
  exact (sights_known known room).trans (if_pos dropped)

/-- The number of a table is met before what is inside of it. -/
theorem sights_table {token : Token} (isTable : token.kind = .table) (room : Nat) :
    token.sights (room + 1) = .number :: token.inner.flatMap (sights room) := by
  rw [sights_known (by simp [isTable, TokenKind.isUnknown])]
  simp [isTable, TokenKind.dropsContent]

/-- In all other tokens what is inside of them is met. -/
theorem sights_inner {token : Token} (known : token.kind.isUnknown = false)
    (written : token.kind.dropsContent = false) (notTable : token.kind ≠ .table) (room : Nat) :
    token.sights (room + 1) = token.inner.flatMap (sights room) := by
  rw [sights_known known]
  simp [written, notTable]

/-- Of the tables in known tokens those are skipped that are skipped one level below. -/
theorem countP_sights {token : Token} (known : token.kind.isUnknown = false) (room : Nat) :
    (token.sights (room + 1)).countP (·.isSkipped) =
      (token.inner.flatMap (sights room)).countP (·.isSkipped) := by
  -- Neither leaving out what is not skipped nor adding a number changes how much is skipped.
  rw [sights_known known]
  dsimp only
  split
  · rw [List.countP_filter]
    simp
  split
  · exact List.countP_cons_of_neg (by simp)
  · rfl

/-- The tables that are no longer reached without unknown tokens are those in unknown tokens. -/
theorem length_tablesWithin (room : Nat) (tokens : List Token) :
    (tokens.flatMap (tablesWithin room)).length =
      ((prunedAll tokens).flatMap (tablesWithin room)).length +
        (tokens.flatMap (sights room)).countP (·.isSkipped) := by
  -- Tables inside of unknown tokens are counted where the first unknown token stands around them.
  induction room generalizing tokens with
  | zero =>
    have unreached (trees : List Token) : trees.flatMap (tablesWithin 0) = [] :=
      List.flatMap_eq_nil_iff.mpr fun _ _ => rfl
    have unskipped : (tokens.flatMap (sights 0)).countP (·.isSkipped) = 0 := by
      refine List.countP_eq_zero.mpr fun sight member => ?_
      obtain ⟨token, -, flat⟩ := List.mem_flatMap.mp member
      rw [List.mem_singleton.mp flat]
      exact Bool.false_ne_true
    rw [unreached, unreached, unskipped]
    rfl
  | succ room ihRoom =>
    induction tokens with
    | nil => simp
    | cons token rest ih =>
      rw [List.flatMap_cons, List.length_append, List.flatMap_cons, List.countP_append, ih]
      cases known : token.kind.isUnknown with
      -- All tables of an unknown token are skipped, and none of them is left.
      | true =>
        rw [prunedAll_cons_unknown known, sights_unknown known, List.countP_replicate]
        simp only [Sight.isSkipped, if_true]
        omega
      | false =>
        rw [prunedAll_cons_known known, List.flatMap_cons, List.length_append,
          countP_sights known, tablesWithin, tablesWithin, List.length_append, List.length_append,
          ihRoom token.inner, inner_pruned, kind_pruned]
        -- A table that is left counts on both sides.
        have own : (if token.kind = .table then [token] else []).length =
          (if token.kind = .table then [token.pruned] else []).length := by split <;> rfl
        omega

end Token

end Manuscript
