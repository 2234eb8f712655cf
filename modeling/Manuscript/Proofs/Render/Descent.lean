import Manuscript.Proofs.Render.Numbering
import Mathlib.Data.List.Forall2

/-!
What is shown of rendered texts level by level: a relation of trees to texts holds of all that is
rendered, once the tokens one level below a token hand it on to this token.
-/

namespace Manuscript

section Thread

variable {α β : Type} {step : Nat → α → β × Nat} {items : List α}
  (rises : ∀ item ∈ items, ∀ count, count ≤ (step count item).2)

include rises

/-- The count rises along a list when no step lowers it. -/
theorem le_thread (count : Nat) : count ≤ (thread step count items).2 := by
  induction items generalizing count with
  | nil => exact Nat.le_refl count
  | cons item rest ih =>
    rw [thread_cons]
    -- The first step does not lower the count, and the others start from where it stopped.
    have here := rises item (by simp) count
    exact Nat.le_trans here (ih (fun other member => rises other (by simp [member])) _)

/-- What each step gives is related to its item, when the count runs between two bounds. -/
theorem forall₂_thread {R : α → β → Prop} {first last : Nat}
    (each : ∀ item ∈ items, ∀ count, first ≤ count → (step count item).2 ≤ last →
      R item (step count item).1)
    {count : Nat} (start : first ≤ count) (stop : (thread step count items).2 ≤ last) :
    List.Forall₂ R items (thread step count items).1 := by
  induction items generalizing count with
  | nil => exact .nil
  | cons item rest ih =>
    rw [thread_cons] at stop ⊢
    have risesRest : ∀ other ∈ rest, ∀ count, count ≤ (step count other).2 :=
      fun other member => rises other (by simp [member])
    -- The count behind this step lies between the count before it and the last one.
    have here := rises item (by simp) count
    have later := le_thread risesRest (step count item).2
    -- So each step stays between the two bounds.
    exact .cons (each item (by simp) count start (Nat.le_trans later stop))
      (ih risesRest (fun other member => each other (by simp [member]))
        (Nat.le_trans start here) stop)

end Thread

namespace Token

/-- What is inside of one of some trees is inside of these. -/
theorem mem_preorderAll {token found : Token} {tokens : List Token} (member : token ∈ tokens)
    (inside : found ∈ token.preorder) : found ∈ preorderAll tokens := by
  rw [preorderAll_eq]
  exact List.mem_flatMap.mpr ⟨token, member, inside⟩

/-- A token stands in its own tree. -/
theorem mem_preorder_self (token : Token) : token ∈ token.preorder := by
  rw [preorder_eq]
  exact List.mem_cons_self

/-- What is inside of a token that is rendered one level below a token is inside of this. -/
theorem mem_preorder_of_inner {token below found : Token} (member : below ∈ token.inner)
    (inside : found ∈ below.preorder) : found ∈ token.preorder := by
  have order := inner_flatMap_sublist (f := preorder) (fun token => List.Sublist.refl _) token
  rw [preorder_eq]
  exact List.mem_cons_of_mem _ (order.subset (List.mem_flatMap.mpr ⟨below, member, inside⟩))

end Token

/--
A relation of trees, with the levels that are left below them, to texts that are written while the
count of tables runs between two bounds: what is rendered of the tokens inside of a good token
hands the relation on to the token.
-/
structure Renderer.HandsOn (r : Renderer) (Good : Token → Prop) (first last : Nat)
    (Rel : Nat → List Token → String → Prop) : Prop where
  /-- No trees go with no text. -/
  nothing (room : Nat) : Rel room [] ""
  /-- Trees one after another go with texts one after another. -/
  append {room : Nat} {front back : List Token} {text text' : String} :
    Rel room front text → Rel room back text' → Rel room (front ++ back) (text ++ text')
  /-- A tree for which no level is left goes with its plain text. -/
  flat (token : Token) : Rel 0 [token] (r.text token.plainText)
  /-- A tree of good tokens goes with what is written of it from the texts inside of it. -/
  write {depth room tables : Nat} {token : Token} : (∀ found ∈ token.preorder, Good found) →
    first ≤ tables → (token.kind = .table → tables < last) →
      List.Forall₂ (Rel room) token.outline.contents (r.innerTexts depth tables token).1 →
        Rel (room + 1) [token]
          (r.write (tables + 1) token.kind token.attrs
            (token.outline.refill (r.innerTexts depth tables token).1))

namespace Renderer

variable {r : Renderer} {limit : Nat} (limited : r.depthLimit? = some limit)

include limited

/-- Rendering does not lower the count of tables. -/
theorem le_renderTokens (depth tables : Nat) (tokens : List Token) :
    tables ≤ (r.renderTokens depth tables tokens).2 := by
  rw [r.renderTokens_count limited rfl]
  exact Nat.le_add_right ..

/-- Rendering a tree does not lower the count of tables. -/
theorem le_renderToken (depth tables : Nat) (token : Token) :
    tables ≤ (r.renderToken depth tables token).2 := by
  rw [← renderTokens_singleton]
  exact le_renderTokens limited depth tables [token]

variable {Good : Token → Prop} {first last : Nat} {Rel : Nat → List Token → String → Prop}

/-- Trees go with what is rendered of them when each of them does. -/
theorem HandsOn.renderTokens_of_each (hands : r.HandsOn Good first last Rel) {depth room : Nat}
    {tokens : List Token}
    (each : ∀ token ∈ tokens, ∀ tables, first ≤ tables →
      (r.renderToken depth tables token).2 ≤ last →
        Rel room [token] (r.renderToken depth tables token).1)
    {tables : Nat} (start : first ≤ tables) (stop : (r.renderTokens depth tables tokens).2 ≤ last) :
    Rel room tokens (r.renderTokens depth tables tokens).1 := by
  -- Counts only grow, so that those in between stay within the bounds as well.
  induction tokens generalizing tables with
  | nil => exact hands.nothing room
  | cons token rest ih =>
    have between := le_renderToken limited depth tables token
    have behind := le_renderTokens limited depth (r.renderToken depth tables token).2 rest
    have here := each token (by simp) tables start (Nat.le_trans behind stop)
    exact hands.append here (ih (fun other member => each other (by simp [member]))
      (Nat.le_trans start between) stop)

/-- A tree of good tokens goes with what is rendered of it. -/
theorem HandsOn.renderToken (hands : r.HandsOn Good first last Rel) {depth room : Nat}
    (level : limit - depth = room) {tables : Nat} {token : Token}
    (good : ∀ found ∈ token.preorder, Good found) (start : first ≤ tables)
    (stop : (r.renderToken depth tables token).2 ≤ last) :
    Rel room [token] (r.renderToken depth tables token).1 := by
  -- The room shrinks by one with every level, and is used up at the limit.
  induction room generalizing depth tables token with
  | zero =>
    rw [renderToken_of_no_room limited level]
    exact hands.flat token
  | succ room ih =>
    rw [r.renderToken_eq_write (flattens_of_room limited level)] at stop ⊢
    have rises : ∀ tokens ∈ token.outline.contents, ∀ count,
        count ≤ (r.renderTokens (depth + 1) count tokens).2 :=
      fun tokens _ count => le_renderTokens limited (depth + 1) count tokens
    have own := le_thread rises (tables + token.ownNumbers)
    refine hands.write good start (fun isTable => ?_) ?_
    · -- The number of a table is taken before those inside of it.
      have one : token.ownNumbers = 1 := if_pos isTable
      exact Nat.lt_of_lt_of_le (by omega) (Nat.le_trans own stop)
    · refine forall₂_thread rises (fun tokens member count start stop => ?_)
        (Nat.le_trans start (Nat.le_add_right ..)) stop
      refine hands.renderTokens_of_each limited
        (fun below within count start stop => ?_) start stop
      have inner : below ∈ token.inner := List.mem_flatten.mpr ⟨tokens, member, within⟩
      exact ih (by omega) (fun found inside =>
        good found (Token.mem_preorder_of_inner inner inside)) start stop

/-- Trees of good tokens go with what is rendered of them. -/
theorem HandsOn.renderTokens (hands : r.HandsOn Good first last Rel) {depth room : Nat}
    (level : limit - depth = room) {tables : Nat} {tokens : List Token}
    (good : ∀ found ∈ Token.preorderAll tokens, Good found) (start : first ≤ tables)
    (stop : (r.renderTokens depth tables tokens).2 ≤ last) :
    Rel room tokens (r.renderTokens depth tables tokens).1 :=
  -- What is handed on for each token is handed on for the list.
  hands.renderTokens_of_each limited
    (fun _ member _ start stop => hands.renderToken limited level (fun found inside =>
      good found (Token.mem_preorderAll member inside)) start stop) start stop

end Renderer

end Manuscript
