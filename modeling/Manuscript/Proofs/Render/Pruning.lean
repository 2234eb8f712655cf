import Manuscript.Proofs.Render.Numbering
import Manuscript.Proofs.Token.PlainText

/-!
Trees without their unknown tokens, and what rendering meets in a tree by which one can see that
they were deleted.
-/

namespace Manuscript

namespace Token

mutual

/-- A tree without the unknown tokens below its root and all that is inside of them. -/
def pruned : Token → Token
  | ⟨kind, raw?, none, attrs⟩ => ⟨kind, raw?, none, attrs⟩
  | ⟨kind, raw?, some children, attrs⟩ => ⟨kind, raw?, some (prunedAll children), attrs⟩

/-- Trees without unknown tokens. -/
def prunedAll : List Token → List Token
  | [] => []
  | token :: rest =>
    if token.kind.isUnknown then prunedAll rest else token.pruned :: prunedAll rest

end

/-- Nothing is deleted where there is nothing. -/
@[simp] theorem prunedAll_nil : prunedAll [] = [] := rfl

/-- Deleting unknown tokens keeps the kind of the root. -/
@[simp] theorem kind_pruned (token : Token) : token.pruned.kind = token.kind := by
  obtain ⟨kind, raw?, children?, attrs⟩ := token
  cases children? <;> rfl

/-- Deleting unknown tokens keeps the text of the root. -/
@[simp] theorem raw?_pruned (token : Token) : token.pruned.raw? = token.raw? := by
  obtain ⟨kind, raw?, children?, attrs⟩ := token
  cases children? <;> rfl

/-- Deleting unknown tokens keeps the attributes of the root. -/
@[simp] theorem attrs_pruned (token : Token) : token.pruned.attrs = token.attrs := by
  obtain ⟨kind, raw?, children?, attrs⟩ := token
  cases children? <;> rfl

/-- Unknown tokens are deleted from the children. -/
@[simp] theorem children_pruned (token : Token) :
    token.pruned.children = prunedAll token.children := by
  obtain ⟨kind, raw?, children?, attrs⟩ := token
  cases children? with
  -- A missing list is read as an empty one, and there is nothing to delete.
  | none => exact prunedAll_nil.symm
  | some children => rfl

/-- An unknown token is of none of the known kinds. -/
theorem kind_ne_of_unknown {token : Token} {kind : TokenKind}
    (unknown : token.kind.isUnknown = true) (known : kind.isUnknown = false) :
    token.kind ≠ kind := by
  -- No kind is both known and unknown.
  intro same
  rw [same, known] at unknown
  exact Bool.false_ne_true unknown

/-- An unknown token is deleted. -/
theorem prunedAll_cons_unknown {token : Token} (unknown : token.kind.isUnknown = true)
    (rest : List Token) : prunedAll (token :: rest) = prunedAll rest :=
  if_pos unknown

/-- A token that is known stays, without what is unknown inside of it. -/
theorem prunedAll_cons_known {token : Token} (known : token.kind.isUnknown = false)
    (rest : List Token) : prunedAll (token :: rest) = token.pruned :: prunedAll rest :=
  if_neg (by simp [known])

/-- Unknown tokens are deleted from the first tokens and from the others. -/
theorem prunedAll_append (front back : List Token) :
    prunedAll (front ++ back) = prunedAll front ++ prunedAll back := by
  induction front with
  | nil => rfl
  | cons token rest ih =>
    rw [List.cons_append]
    -- The first token is deleted or is left, whatever stands behind it.
    cases known : token.kind.isUnknown with
    | true => rw [prunedAll_cons_unknown known, prunedAll_cons_unknown known, ih]
    | false => rw [prunedAll_cons_known known, prunedAll_cons_known known, ih, List.cons_append]

/-- Unknown tokens are deleted from lists of tokens one after another. -/
theorem prunedAll_flatten (lists : List (List Token)) :
    prunedAll lists.flatten = (lists.map prunedAll).flatten := by
  induction lists with
  | nil => rfl
  | cons tokens rest ih => simp [prunedAll_append, ih]

/-- The cells that are left are the cells, as unknown tokens are none. -/
theorem cellsOf_prunedAll (tokens : List Token) :
    cellsOf (prunedAll tokens) = (cellsOf tokens).map pruned := by
  induction tokens with
  | nil => rfl
  | cons token rest ih =>
    rw [cellsOf_cons]
    -- An unknown token is no cell, and any other keeps its kind.
    cases known : token.kind.isUnknown with
    | true => rw [prunedAll_cons_unknown known, ih, if_neg (kind_ne_of_unknown known rfl)]
    | false =>
      rw [prunedAll_cons_known known, cellsOf_cons, ih, kind_pruned]
      split <;> rfl

/-- The header cells that are left are the header cells. -/
theorem headCells_prunedAll (tokens : List Token) :
    headCells (prunedAll tokens) = (headCells tokens).map pruned := by
  induction tokens with
  | nil => rfl
  | cons token rest ih =>
    rw [headCells_cons]
    cases known : token.kind.isUnknown with
    | true =>
      -- It is neither a row of the head nor a cell in it.
      rw [prunedAll_cons_unknown known, ih, if_neg (kind_ne_of_unknown known rfl),
        if_neg (kind_ne_of_unknown known rfl)]
    | false =>
      rw [prunedAll_cons_known known, headCells_cons, ih, kind_pruned, children_pruned,
        cellsOf_prunedAll]
      split
      · -- A row of the head adds its cells, which are pruned on their own.
        rw [List.map_append]
      · split <;> rfl

/-- The rows that are left are the rows, none of which loses all of its cells. -/
theorem bodyRows_prunedAll (tokens : List Token) :
    bodyRows (prunedAll tokens) = (bodyRows tokens).map (List.map pruned) := by
  induction tokens with
  | nil => rfl
  | cons token rest ih =>
    rw [bodyRows_cons]
    cases known : token.kind.isUnknown with
    | true =>
      rw [prunedAll_cons_unknown known, ih, if_neg fun row => kind_ne_of_unknown known rfl row.1]
    | false =>
      -- A row keeps all of its cells, so that it is left out only where it was before.
      rw [prunedAll_cons_known known, bodyRows_cons, ih, kind_pruned, children_pruned,
        cellsOf_prunedAll]
      by_cases row : token.kind = .tableRow ∧ cellsOf token.children ≠ []
      · simp [row]
      · rw [if_neg row, if_neg (by simpa using row)]

/-- What a section adds is what it added, without the unknown tokens in its cells. -/
theorem sectionParts_pruned (token : Token) :
    token.pruned.sectionParts = token.sectionParts.map (TablePart.map prunedAll) := by
  unfold sectionParts
  rw [kind_pruned, children_pruned]
  -- A head has its header cells and a body its rows; any other child adds nothing, before and
  -- after.
  split
  · simp [headCells_prunedAll, headerPart, TablePart.map]
  · simp [bodyRows_prunedAll, rowPart, TablePart.map]
  · rfl

/-- What the sections of a table add is what they added, as unknown tokens add nothing to it. -/
theorem flatMap_sectionParts_prunedAll (tokens : List Token) :
    (prunedAll tokens).flatMap sectionParts =
      (tokens.flatMap sectionParts).map (TablePart.map prunedAll) := by
  induction tokens with
  | nil => rfl
  | cons token rest ih =>
    rw [List.flatMap_cons, List.map_append, ← ih]
    cases known : token.kind.isUnknown with
    | true =>
      -- What is deleted was neither a head nor a body.
      have nothing : token.sectionParts = [] := by
        unfold sectionParts
        split
        case h_1 isHead => exact absurd isHead (kind_ne_of_unknown known rfl)
        case h_2 isBody => exact absurd isBody (kind_ne_of_unknown known rfl)
        case h_3 => rfl
      rw [prunedAll_cons_unknown known, nothing, List.map_nil, List.nil_append]
    | false =>
      -- What stays is pruned inside, section by section.
      rw [prunedAll_cons_known known, List.flatMap_cons, sectionParts_pruned]

/-- A tree without unknown tokens is written like the tree, with other contents. -/
theorem outline_pruned (token : Token) :
    token.pruned.outline = token.outline.map prunedAll := by
  unfold outline
  rw [kind_pruned, children_pruned, raw?_pruned]
  -- A table has the parts that are left, and a text of its own is there before and after.
  split
  case h_1 => rw [flatMap_sectionParts_prunedAll, Outline.map]
  case h_6 => split <;> rfl
  all_goals rfl

/-- Unknown tokens are deleted from what is rendered one level below a token. -/
theorem inner_pruned (token : Token) : token.pruned.inner = prunedAll token.inner := by
  rw [inner, outline_pruned, Outline.contents_map, inner, prunedAll_flatten]

-- The induction goes through a tree and its children together, as the deletion does.
mutual

/-- Deleting unknown tokens leaves out some of the text of a tree. -/
theorem rawText_pruned_sublist :
    (token : Token) → token.pruned.rawText.toList.Sublist token.rawText.toList
  | ⟨_, _, none, _⟩ => List.Sublist.refl _
  | ⟨_, _, some children, _⟩ => by
    simp only [pruned, rawText, String.toList_append]
    exact (rawTextAll_prunedAll_sublist children).append_left _

/-- Deleting unknown tokens leaves out some of the text of trees. -/
theorem rawTextAll_prunedAll_sublist :
    (tokens : List Token) →
      (rawTextAll (prunedAll tokens)).toList.Sublist (rawTextAll tokens).toList
  | [] => by simp [prunedAll]
  | token :: rest => by
    rw [prunedAll]
    split
    -- The text of an unknown token is left out as a whole.
    · simp only [rawTextAll, String.toList_append]
      exact (rawTextAll_prunedAll_sublist rest).trans (List.sublist_append_right ..)
    · simp only [rawTextAll, String.toList_append]
      exact (rawText_pruned_sublist token).append (rawTextAll_prunedAll_sublist rest)

end

/-- So does the text that is gathered from it. -/
theorem plainText_pruned_sublist (token : Token) :
    token.pruned.plainText.toList.Sublist token.plainText.toList := by
  rw [plainText_eq_rawText, plainText_eq_rawText]
  exact token.rawText_pruned_sublist

end Token

end Manuscript
