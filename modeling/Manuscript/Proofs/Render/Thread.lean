import Manuscript.Render.Tokens

/-! Steps along a list that hand a count on: how tables are numbered while tokens are rendered. -/

namespace Manuscript

/-- What the steps along a list give, and the count behind the last of them. -/
def thread {α β : Type} (step : Nat → α → β × Nat) : Nat → List α → List β × Nat
  | count, [] => ([], count)
  | count, item :: rest =>
    let (result, between) := step count item
    let (results, after) := thread step between rest
    (result :: results, after)

variable {α β γ : Type}

/-- No steps give nothing and leave the count. -/
@[simp] theorem thread_nil (step : Nat → α → β × Nat) (count : Nat) :
    thread step count [] = ([], count) := rfl

/-- The first step hands its count to the others. -/
theorem thread_cons (step : Nat → α → β × Nat) (count : Nat) (item : α) (rest : List α) :
    thread step count (item :: rest) =
      ((step count item).1 :: (thread step (step count item).2 rest).1,
        (thread step (step count item).2 rest).2) := rfl

/-- Steps along two lists are steps along the first and then along the second. -/
theorem thread_append (step : Nat → α → β × Nat) (count : Nat) (front back : List α) :
    thread step count (front ++ back) =
      ((thread step count front).1 ++ (thread step (thread step count front).2 back).1,
        (thread step (thread step count front).2 back).2) := by
  -- The back starts with the count that the front ends with.
  induction front generalizing count with
  | nil => rfl
  | cons item rest ih => simp only [List.cons_append, thread_cons, ih]

/-- Each item gives one result. -/
@[simp] theorem length_thread (step : Nat → α → β × Nat) (count : Nat) (items : List α) :
    (thread step count items).1.length = items.length := by
  induction items generalizing count with
  | nil => rfl
  | cons item rest ih => simp [thread_cons, ih]

/-- Steps that agree on the items of a list agree along the list. -/
theorem thread_congr {step other : Nat → α → β × Nat} {items : List α}
    (agree : ∀ item ∈ items, ∀ count, step count item = other count item) (count : Nat) :
    thread step count items = thread other count items := by
  induction items generalizing count with
  | nil => rfl
  | cons item rest ih =>
    -- The first items give the same count, so that the others start alike.
    have here := agree item (by simp) count
    have later := ih fun i member => agree i (by simp [member])
    simp only [thread_cons, here, later]

/-- Steps along changed items are changed steps along the items. -/
theorem thread_map (step : Nat → β → γ × Nat) (change : α → β) (count : Nat) (items : List α) :
    thread step count (items.map change) =
      thread (fun count item => step count (change item)) count items := by
  -- Each item is changed right before its step.
  induction items generalizing count with
  | nil => rfl
  | cons item rest ih => simp only [List.map_cons, thread_cons, ih]

/-- What is forgotten of each result can be forgotten while the steps are made. -/
theorem thread_forget {step : Nat → α → β × Nat} {plain : Nat → α → γ × Nat} {forget : β → γ}
    {items : List α}
    (forgets : ∀ item ∈ items, ∀ count,
      plain count item = (forget (step count item).1, (step count item).2)) (count : Nat) :
    thread plain count items =
      ((thread step count items).1.map forget, (thread step count items).2) := by
  induction items generalizing count with
  | nil => rfl
  | cons item rest ih =>
    have here := forgets item (by simp) count
    -- The counts agree, so that what is forgotten decides nothing later on.
    have later := ih fun i member => forgets i (by simp [member])
    simp only [thread_cons, here, later, List.map_cons]

/-- Steps that each count what an item holds count what all items hold. -/
theorem thread_count {step : Nat → α → β × Nat} {held : α → List γ} {items : List α}
    (each : ∀ item ∈ items, ∀ count, (step count item).2 = count + (held item).length)
    (count : Nat) :
    (thread step count items).2 = count + (items.flatMap held).length := by
  induction items generalizing count with
  | nil => rfl
  | cons item rest ih =>
    have here := each item (by simp) count
    have later := ih fun i member => each i (by simp [member])
    -- The others count on from where the first item got to.
    rw [thread_cons, later, here, List.flatMap_cons, List.length_append, Nat.add_assoc]

/-- Steps that leave the count each give what they give behind the first count. -/
theorem thread_of_kept {step : Nat → α → β × Nat} {count : Nat} {items : List α}
    (kept : ∀ item ∈ items, (step count item).2 = count) :
    thread step count items = (items.map fun item => (step count item).1, count) := by
  induction items with
  | nil => rfl
  | cons item rest ih =>
    have here := kept item (by simp)
    have later := ih fun i member => kept i (by simp [member])
    -- No item moves the count, so that all start with the same one.
    rw [thread_cons, here, later, List.map_cons]

/-- What holds of the results of all steps holds of all results along a list. -/
theorem forall_mem_thread {step : Nat → α → β × Nat} {P : β → Prop} {items : List α}
    (each : ∀ item ∈ items, ∀ count, P (step count item).1) (count : Nat) :
    ∀ result ∈ (thread step count items).1, P result := by
  induction items generalizing count with
  | nil => exact nofun
  | cons item rest ih =>
    have here := each item (by simp) count
    -- The count that the others start with may be any.
    have later := ih fun i member => each i (by simp [member])
    exact List.forall_mem_cons.mpr ⟨here, later _⟩

namespace Renderer

variable (r : Renderer)

/-- Tokens are rendered one after another. -/
theorem renderTokens_eq_thread (depth tables : Nat) (tokens : List Token) :
    r.renderTokens depth tables tokens =
      (String.join (thread (r.renderToken depth) tables tokens).1,
        (thread (r.renderToken depth) tables tokens).2) := by
  -- Both go from token to token with the count of the tables.
  induction tokens generalizing tables with
  | nil => simp [renderTokens]
  | cons token rest ih => simp [renderTokens, thread_cons, ih]

/-- The first tokens are rendered before the others, and hand their count on. -/
theorem renderTokens_append (depth tables : Nat) (front back : List Token) :
    r.renderTokens depth tables (front ++ back) =
      ((r.renderTokens depth tables front).1 ++
          (r.renderTokens depth (r.renderTokens depth tables front).2 back).1,
        (r.renderTokens depth (r.renderTokens depth tables front).2 back).2) := by
  -- The texts are joined one behind the other, as the tokens are.
  simp only [renderTokens_eq_thread, thread_append, String.join_append]

/-- A single token is rendered as it is by itself. -/
theorem renderTokens_singleton (depth tables : Nat) (token : Token) :
    r.renderTokens depth tables [token] = r.renderToken depth tables token := by
  simp [renderTokens_eq_thread, thread_cons]

end Renderer

end Manuscript
