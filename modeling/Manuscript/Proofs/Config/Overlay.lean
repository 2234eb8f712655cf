import Manuscript.Config.Key
import Manuscript.Token.Attributes

/-!
What is found in a configuration after values were laid over it: a member that was set last counts,
and everything else is found as before.
-/

namespace Manuscript.Config

namespace Members

/-- Members of other keys are found as before when those of one key are replaced. -/
theorem lookup_replace_of_ne {key other : String} (apart : other ≠ key) (value : Value)
    (members : Members) :
    (members.map fun member => if member.1 = key then (key, value) else member).lookup other =
      members.lookup other := by
  -- A member that is replaced has the key, and so was not the one that is looked for.
  induction members with
  | nil => rfl
  | cons member members ih =>
    obtain ⟨first, held⟩ := member
    rw [List.map_cons, lookup_cons_eq_ite first]
    by_cases replaced : first = key
    · rw [if_pos replaced, lookup_cons_eq_ite, if_neg apart, ih, replaced, if_neg apart]
    · rw [if_neg replaced, lookup_cons_eq_ite, ih]

/-- A member is set in its place, or behind all others. -/
theorem set_cons (first key : String) (held value : Value) (members : Members) :
    Members.set ((first, held) :: members) key value =
      if first = key then
        (key, value) :: members.map fun member => if member.1 = key then (key, value) else member
      else (first, held) :: members.set key value := by
  unfold set
  -- Behind a member with another key it is set as among the others.
  by_cases same : first = key
  · simp [same]
  · by_cases later : members.any (·.1 = key) = true
    · simp [same, later]
    · simp [same, later]

/-- A member that was set is found by its key, and the others are found as before. -/
theorem lookup_set (members : Members) (key other : String) (value : Value) :
    (members.set key value).lookup other =
      if other = key then some value else members.lookup other := by
  -- The member is replaced where its key stands, or else put at the end.
  induction members with
  | nil => exact lookup_cons_eq_ite key other value []
  | cons member members ih =>
    obtain ⟨first, held⟩ := member
    rw [set_cons, lookup_cons_eq_ite first]
    by_cases same : first = key
    · rw [if_pos same, lookup_cons_eq_ite, same]
      -- Either the key is the one that is set, or nothing changes for it.
      by_cases found : other = key
      · rw [if_pos found, if_pos found]
      · rw [if_neg found, if_neg found, if_neg found, lookup_replace_of_ne found]
    · rw [if_neg same, lookup_cons_eq_ite, ih]
      by_cases found : other = key
      · subst found
        rw [if_neg (Ne.symm same), if_pos rfl, if_pos rfl]
      · simp only [found, if_false]

/-- The value of the last member whose key counts as a name. -/
def last? (name : String) : Members → Option Value
  | [] => none
  | (key, value) :: rest =>
    (last? name rest).or (if Unicode.lower key = name then some value else none)

/-- A name that no member has is that of no last member. -/
theorem last?_eq_none {name : String} {members : Members}
    (others : ∀ member ∈ members, Unicode.lower member.1 ≠ name) : last? name members = none := by
  induction members with
  | nil => rfl
  | cons member rest ih =>
    obtain ⟨first, behind⟩ := List.forall_mem_cons.mp others
    -- Neither the first member nor one behind it has the name.
    rw [last?, ih behind, if_neg first, Option.none_or]

/-- The last member of a name is one with none of the name behind it. -/
theorem last?_append {name key : String} {value : Value} (before : Members) {after : Members}
    (named : Unicode.lower key = name) (others : ∀ member ∈ after, Unicode.lower member.1 ≠ name) :
    last? name (before ++ (key, value) :: after) = some value := by
  -- Whatever stands in front of it, what is found behind counts.
  induction before with
  | nil => rw [List.nil_append, last?, last?_eq_none others, if_pos named, Option.none_or]
  | cons member rest ih => rw [List.cons_append, last?, ih, Option.some_or]

end Members

/-- What is no table replaces what was there. -/
theorem overlay_of_not_table (below : Value) {value : Value} (single : value.isTable = false) :
    overlay below value = value := by
  -- Only tables are laid over tables member by member.
  cases value with
  | table members => cases single
  | _ =>
    rw [overlay]
    exact nofun

/-- A name that none of the members has is found as before. -/
theorem lookup_overlayAll_of_none {name : String} {members : Members}
    (absent : members.last? name = none) (below : Value) :
    (overlayAll below members).members.lookup name = below.members.lookup name := by
  -- No member has the name, so that each of them sets another one.
  induction members generalizing below with
  | nil => rw [overlayAll]
  | cons member members ih =>
    obtain ⟨key, value⟩ := member
    obtain ⟨later, here⟩ := Option.or_eq_none_iff.mp absent
    have apart : name ≠ Unicode.lower key := by
      rintro rfl
      simp at here
    rw [overlayAll, ih later]
    exact (Members.lookup_set ..).trans (if_neg apart)

/-- The last member of a name is found when it is no table. -/
theorem lookup_overlayAll_of_some {name : String} {members : Members} {value : Value}
    (given : members.last? name = some value) (single : value.isTable = false) (below : Value) :
    (overlayAll below members).members.lookup name = some value := by
  induction members generalizing below with
  | nil => cases given
  | cons member members ih =>
    obtain ⟨key, held⟩ := member
    rw [overlayAll]
    cases later : Members.last? name members with
    | some last =>
      -- What stands further behind counts.
      rw [Members.last?, later, Option.some_or] at given
      exact ih (later.trans given) _
    | none =>
      rw [Members.last?, later, Option.none_or] at given
      split at given
      · rename_i same
        cases given
        -- Nothing behind this member has its name, so that it stays.
        rw [lookup_overlayAll_of_none later]
        refine (Members.lookup_set ..).trans ?_
        rw [if_pos same.symm, overlay_of_not_table _ single]
      · cases given

/-- Members laid over a table are a table, and so are some laid over anything. -/
theorem exists_overlayAll_eq_table {below : Value} {members : Members}
    (table : (∃ held, below = .table held) ∨ members ≠ []) :
    ∃ held, overlayAll below members = .table held := by
  -- The first member makes a table of whatever it is laid over, and the others leave it one.
  induction members generalizing below with
  | nil =>
    rcases table with ⟨held, rfl⟩ | none
    · exact ⟨held, rfl⟩
    · exact absurd rfl none
  | cons member members ih =>
    rw [overlayAll]
    exact ih (.inl ⟨_, rfl⟩)

/-- Members laid over a table leave a table in which a name that none of them has is found as
before. -/
theorem exists_overlayAll_of_none {name : String} {members : Members}
    (absent : members.last? name = none) (held : Members) :
    ∃ changed, overlayAll (.table held) members = .table changed ∧
      changed.lookup name = held.lookup name := by
  obtain ⟨changed, result⟩ : ∃ changed, overlayAll (.table held) members = .table changed :=
    exists_overlayAll_eq_table (.inl ⟨held, rfl⟩)
  -- What has no member of the name leaves the one below.
  have kept := lookup_overlayAll_of_none absent (.table held)
  rw [result] at kept
  exact ⟨changed, result, kept⟩

/-- Members laid over anything leave a table in which the last one of a name is found. -/
theorem exists_overlayAll_of_some {name : String} {members : Members} {value : Value}
    (given : members.last? name = some value) (single : value.isTable = false) (below : Value) :
    ∃ changed, overlayAll below members = .table changed ∧ changed.lookup name = some value := by
  -- Some member is there, so that the result is a table.
  have present : members ≠ [] := by
    rintro rfl
    cases given
  obtain ⟨changed, result⟩ : ∃ changed, overlayAll below members = .table changed :=
    exists_overlayAll_eq_table (.inr present)
  have kept := lookup_overlayAll_of_some given single below
  rw [result] at kept
  exact ⟨changed, result, kept⟩

end Manuscript.Config
