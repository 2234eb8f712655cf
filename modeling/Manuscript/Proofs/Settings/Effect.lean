import Manuscript.Proofs.Config.Overlay
import Manuscript.Settings.Loader

/-!
What the assignments of a configuration mean for one setting. An assignment leaves a setting as it
is, gives it a value, or does something else to it or to the table that it stands in; what is
assigned last counts. Where there is no order, as among the members of a table, what is said holds of
all orders.
-/

namespace Manuscript

open Config

/-- The settings, each one a value in a table. -/
inductive Setting where
  | config
  | template
  | escape
  | headingLevels
  | imageRules
  | jobs
  | engine
  | runs
  | passSeconds
  | imageSeconds
  deriving DecidableEq

namespace Setting

/-- The table that a setting stands in. -/
def table : Setting → String
  | .config | .template | .escape | .headingLevels | .imageRules => "render"
  | .jobs => "batch"
  | .engine | .runs | .passSeconds => "compile"
  | .imageSeconds => "images"

/-- The name of a setting in its table. -/
def name : Setting → String
  | .config => "config"
  | .template => "template"
  | .escape => "escape"
  | .headingLevels => "heading_levels"
  | .imageRules => "image_rewrites"
  | .jobs => "jobs"
  | .engine => "engine"
  | .runs => "runs"
  | .passSeconds => "timeout_secs"
  | .imageSeconds => "timeout_secs"

/-- What an assignment means for a setting. -/
inductive Effect where
  /-- It leaves the setting as it is. -/
  | none
  /-- It gives the setting a value. -/
  | gives (value : Value)
  /-- It changes the setting or its table in another way. -/
  | other

/-- A key leads to a setting, into it, or to something else in the place of its table. -/
def meets (setting : Setting) : Key → Bool
  | .name word => Unicode.lower word = setting.table
  | .member (.name outer) word =>
    Unicode.lower outer = setting.table && Unicode.lower word = setting.name
  | .member outer _ => setting.meets outer
  | .item outer _ => setting.meets outer

/-- What two effects come to together, of which either may be the last one. -/
def Effect.both : Effect → Effect → Effect
  | .none, effect => effect
  | effect, .none => effect
  | _, _ => .other

/-- What effects come to together, in whatever order. -/
def Effect.ofAll (effects : List Effect) : Effect := effects.foldr both .none

/-- What it means for a setting that its table is given a member. -/
def effectOfMember (setting : Setting) (member : String × Value) : Effect :=
  if Unicode.lower member.1 = setting.name then
    -- A table is laid over what was there.
    if member.2.isTable then .other else .gives member.2
  else .none

/-- What it means for a setting that a key which meets it is set to a value. -/
def effectOfMeeting (setting : Setting) : Key → Value → Effect
  | .name _, .table members => .ofAll (members.map setting.effectOfMember)
  | .member (.name _) word, value => setting.effectOfMember (word, value)
  | _, _ => .other

/-- What it means for a setting that a key is set to a value. -/
def effect (setting : Setting) (key : Key) (value : Value) : Effect :=
  if setting.meets key then setting.effectOfMeeting key value else .none

/-- What assignments mean for a setting that are made in whatever order. -/
def effectOfAll (setting : Setting) (assignments : List (Key × Value)) : Effect :=
  .ofAll (assignments.map fun entry => setting.effect entry.1 entry.2)

namespace Effect

/-- Two effects come to nothing when both of them are nothing. -/
theorem both_eq_none_iff {first second : Effect} :
    both first second = .none ↔ first = .none ∧ second = .none := by
  cases first <;> cases second <;> simp [both]

/-- Two effects give a value when one of them does and the other is nothing. -/
theorem both_eq_gives_iff {first second : Effect} {value : Value} :
    both first second = .gives value ↔
      (first = .gives value ∧ second = .none) ∨ (first = .none ∧ second = .gives value) := by
  cases first <;> cases second <;> simp [both]

variable {α : Type} {items others : List α} {effectOf : α → Effect}

/-- It does not matter in which order effects are put together. -/
theorem ofAll_perm (reordered : items.Perm others) :
    ofAll (items.map effectOf) = ofAll (others.map effectOf) := by
  refine (reordered.map effectOf).foldr_eq' (fun first _ second _ rest => ?_) _
  cases first <;> cases second <;> cases rest <;> rfl

/-- Effects come to nothing together when each of them is nothing. -/
theorem ofAll_eq_none_iff :
    ofAll (items.map effectOf) = .none ↔ ∀ item ∈ items, effectOf item = .none := by
  induction items with
  | nil => simp [ofAll]
  | cons item rest ih =>
    rw [List.forall_mem_cons, ← ih]
    -- Two effects together are none only if each of them is.
    exact both_eq_none_iff

/-- Effects give a value together when one of them does and all others are nothing. -/
theorem exists_of_ofAll_eq_gives {value : Value}
    (given : ofAll (items.map effectOf) = .gives value) :
    ∃ before item after, items = before ++ item :: after ∧ effectOf item = .gives value ∧
      (∀ other ∈ before, effectOf other = .none) ∧ ∀ other ∈ after, effectOf other = .none := by
  induction items with
  | nil => cases given
  | cons item rest ih =>
    -- Either the first one gives the value, or the rest of them do.
    rcases both_eq_gives_iff.mp given with ⟨gives, silent⟩ | ⟨silent, gives⟩
    · exact ⟨[], item, rest, rfl, gives, nofun, ofAll_eq_none_iff.mp silent⟩
    · obtain ⟨before, found, after, rfl, gives, front, behind⟩ := ih gives
      exact ⟨item :: before, found, after, rfl, gives, List.forall_mem_cons.mpr ⟨silent, front⟩,
        behind⟩

/-- Effects of which all but one are nothing come to this one. -/
theorem ofAll_of_only {before after : List α} {item : α}
    (front : ∀ other ∈ before, effectOf other = .none)
    (behind : ∀ other ∈ after, effectOf other = .none) :
    ofAll ((before ++ item :: after).map effectOf) = effectOf item := by
  induction before with
  | nil =>
    -- Nothing behind the item has an effect.
    have silent : ofAll (after.map effectOf) = .none := ofAll_eq_none_iff.mpr behind
    change both (effectOf item) (ofAll (after.map effectOf)) = _
    rw [silent]
    cases effectOf item <;> rfl
  | cons other before ih =>
    obtain ⟨first, front⟩ := List.forall_mem_cons.mp front
    change both (effectOf other) (ofAll ((before ++ item :: after).map effectOf)) = _
    rw [first, ih front]
    rfl

end Effect

section Arranged

variable (order : EntryOrder String Value)

/-- A value is a table in whatever order its members are. -/
theorem isTable_arranged (value : Value) : (value.arranged order).isTable = value.isTable := by
  cases value <;> simp [Value.arranged, Value.isTable]

/-- What is no table has no order. -/
theorem arranged_of_not_table {value : Value} (single : value.isTable = false) :
    value.arranged order = value := by
  -- Only a table has an order inside of it.
  cases value with
  | table members => cases single
  | _ =>
    rw [Value.arranged]
    exact nofun

/-- Members are arranged value by value. -/
theorem arrangedAll_eq_map (members : Members) :
    arrangedAll order members = members.map fun member => (member.1, member.2.arranged order) := by
  induction members with
  | nil => rw [arrangedAll, List.map_nil]
  | cons member rest ih => rw [arrangedAll, ih, List.map_cons]

/-- Members come up in some order, each with its value arranged. -/
theorem arranged_perm (members : Members) :
    (members.arranged order).Perm
      (members.map fun member => (member.1, member.2.arranged order)) := by
  rw [← arrangedAll_eq_map]
  exact order.perm _

/-- What a member means for a setting does not depend on the order of what it holds. -/
theorem effectOfMember_arranged (setting : Setting) (member : String × Value) :
    setting.effectOfMember (member.1, member.2.arranged order) = setting.effectOfMember member := by
  unfold effectOfMember
  dsimp only
  rw [isTable_arranged]
  -- Only a value that has no order is given.
  cases single : member.2.isTable with
  | true => rfl
  | false => rw [arranged_of_not_table order single]

/-- What an assignment means for a setting does not depend on the order of what it sets. -/
theorem effect_arranged (setting : Setting) (key : Key) (value : Value) :
    setting.effect key (value.arranged order) = setting.effect key value := by
  have meeting : setting.effectOfMeeting key (value.arranged order) =
      setting.effectOfMeeting key value := by
    -- Only in the place of the table of the setting it counts what a table holds.
    cases key with
    | item outer index => rfl
    | member outer word =>
      cases outer with
      -- The setting may be named by its own key.
      | name outer => exact effectOfMember_arranged order setting (word, value)
      | _ => rfl
    | name word =>
      cases value with
      | table members =>
        -- A table gives the setting by a member of that name, wherever it stands.
        have reordered : Effect.ofAll ((Members.arranged order members).map setting.effectOfMember) =
            Effect.ofAll (members.map setting.effectOfMember) := by
          rw [Effect.ofAll_perm (arranged_perm order members), List.map_map]
          exact congrArg Effect.ofAll
            (List.map_congr_left fun member _ => effectOfMember_arranged order setting member)
        rw [Value.arranged]
        exact reordered
      | _ => rw [arranged_of_not_table order rfl]
  rw [effect, effect, meeting]

end Arranged

/-- A member without an effect on a setting has another name. -/
theorem name_ne_of_effectOfMember {setting : Setting} {member : String × Value}
    (silent : setting.effectOfMember member = .none) : Unicode.lower member.1 ≠ setting.name := by
  intro named
  rw [effectOfMember, if_pos named] at silent
  split at silent <;> cases silent

/-- A member that gives a setting a value has the name of the setting and is no table. -/
theorem effectOfMember_eq_gives {setting : Setting} {member : String × Value} {last : Value}
    (gives : setting.effectOfMember member = .gives last) :
    Unicode.lower member.1 = setting.name ∧ member.2 = last ∧ last.isTable = false := by
  unfold effectOfMember at gives
  -- Only a member of this name counts, and a table is no value of a setting.
  split at gives
  · rename_i named
    split at gives
    · cases gives
    · rename_i single
      cases gives
      exact ⟨named, rfl, Bool.eq_false_iff.mpr single⟩
  · cases gives

/-- What has no effect on a setting does not meet it, or is a table that it does not stand in. -/
theorem effect_eq_none {setting : Setting} {key : Key} {value : Value}
    (silent : setting.effect key value = .none) :
    setting.meets key = false ∨ ∃ word members, key = .name word ∧ value = .table members ∧
      Unicode.lower word = setting.table ∧ Members.last? setting.name members = none := by
  -- Whoever meets the setting gives it a value, spoils it, or is a table without its name.
  unfold effect at silent
  split at silent
  · rename_i met
    unfold effectOfMeeting at silent
    split at silent
    · rename_i word members
      -- None of the members has the name of the setting.
      have others := Effect.ofAll_eq_none_iff.mp silent
      exact .inr ⟨word, members, rfl, rfl, by simpa [meets] using met,
        Members.last?_eq_none fun member inside => name_ne_of_effectOfMember (others member inside)⟩
    · rename_i outer word
      have ⟨_, named⟩ : Unicode.lower outer = setting.table ∧
          Unicode.lower word = setting.name := by simpa [meets] using met
      exact absurd named (name_ne_of_effectOfMember silent)
    · -- Any other key that meets the setting spoils it.
      cases silent
  · rename_i apart
    exact .inl (Bool.eq_false_iff.mpr apart)

/-- What gives a setting a value is a table that it stands in, or the value at the key of the
setting. -/
theorem effect_eq_gives {setting : Setting} {key : Key} {value last : Value}
    (gives : setting.effect key value = .gives last) :
    last.isTable = false ∧
      ((∃ word members, key = .name word ∧ value = .table members ∧
          Unicode.lower word = setting.table ∧ Members.last? setting.name members = some last) ∨
        ∃ outer word, key = .member (.name outer) word ∧ value = last ∧
          Unicode.lower outer = setting.table ∧ Unicode.lower word = setting.name) := by
  -- A table gives what its only member of the name holds, and the own key what it is set to.
  unfold effect at gives
  split at gives
  · rename_i met
    unfold effectOfMeeting at gives
    split at gives
    · rename_i word members
      -- The members behind it have other names, so that it is the last of its name.
      obtain ⟨before, member, after, rfl, held, _, behind⟩ := Effect.exists_of_ofAll_eq_gives gives
      obtain ⟨named, rfl, single⟩ := effectOfMember_eq_gives held
      exact ⟨single, .inl ⟨word, _, rfl, rfl, by simpa [meets] using met,
        Members.last?_append before named fun other inside =>
          name_ne_of_effectOfMember (behind other inside)⟩⟩
    · rename_i outer word
      obtain ⟨named, rfl, single⟩ := effectOfMember_eq_gives gives
      have ⟨here, _⟩ : Unicode.lower outer = setting.table ∧
          Unicode.lower word = setting.name := by simpa [meets] using met
      exact ⟨single, .inr ⟨outer, word, rfl, rfl, here, named⟩⟩
    · cases gives
  · cases gives

/-- A configuration has a value for a setting, or none, in the table of the setting; a table that is
missing is as good as an empty one. -/
def Holds (setting : Setting) (given : Option Value) (root : Value) : Prop :=
  ∃ top members, root = .table top ∧
    (top.lookup setting.table).getD (.table []) = .table members ∧
      members.lookup setting.name = given

variable {setting : Setting} {given : Option Value} {root : Value}

/-- An empty configuration has no values. -/
theorem holds_empty (setting : Setting) : setting.Holds none (.table []) := ⟨[], [], rfl, rfl, rfl⟩

/-- A change of a table changes what is found of it, and nothing else. -/
theorem exists_change_name (edit : Value → Value) (word : String) (root : Value) :
    ∃ top, Key.change edit (.name word) root = .table top ∧ ∀ other, top.lookup other =
      if other = Unicode.lower word then
        some (edit ((root.members.lookup (Unicode.lower word)).getD .null))
      else root.members.lookup other :=
  ⟨_, rfl, fun _ => Members.lookup_set ..⟩

/-- In a table whose setting stays as it is the setting is held as before. -/
theorem Holds.change_table {outer : String} {edit : Value → Value}
    (holds : setting.Holds given root)
    (keeps : setting.table = Unicode.lower outer → ∀ held : Value,
      held.members.lookup setting.name = given →
        ∃ changed, edit held = .table changed ∧ changed.lookup setting.name = given) :
    setting.Holds given (Key.change edit (.name outer) root) := by
  obtain ⟨top, members, rfl, table, found⟩ := holds
  obtain ⟨left, result, lookup⟩ := exists_change_name edit outer (.table top)
  -- The change is made in one table, and all others stay.
  by_cases same : setting.table = Unicode.lower outer
  · have held : ((top.lookup setting.table).getD .null).members.lookup setting.name = given := by
      -- A table that is missing holds as little as an empty one.
      cases here : top.lookup setting.table with
      | none =>
        rw [here] at table
        cases table
        exact found
      | some value =>
        rw [here] at table
        cases table
        exact found
    obtain ⟨changed, edited, kept⟩ := keeps same _ held
    refine ⟨left, changed, result, ?_, kept⟩
    rw [lookup, if_pos same, ← same, Option.getD_some]
    exact edited
  · refine ⟨left, members, result, ?_, found⟩
    rw [lookup, if_neg same]
    exact table

/-- A change that a key leads to which does not meet a setting leaves the setting as it is. -/
theorem Holds.change {key : Key} (apart : setting.meets key = false) (edit : Value → Value)
    (holds : setting.Holds given root) : setting.Holds given (key.change edit root) := by
  -- A key is followed outwards: the change at its end is one edit of what stands around it.
  induction key generalizing edit with
  | name word =>
    refine holds.change_table fun same => ?_
    simp [meets, same] at apart
  | item outer index ih => exact ih apart _
  | member outer word ih =>
    cases outer with
    | name outer =>
      refine holds.change_table fun same held found => ⟨_, rfl, ?_⟩
      -- The table itself is changed, at another name.
      have other : setting.name ≠ Unicode.lower word := fun named => by
        simp [meets, same, named] at apart
      exact (Members.lookup_set ..).trans ((if_neg other).trans found)
    | member outer inner => exact ih apart _
    | item outer index => exact ih apart _

/-- A member that is set is laid over what is found of it, and nothing else is changed. -/
theorem exists_set_name (value : Value) (word : String) (root : Value) :
    ∃ top, Key.set root value (.name word) = .table top ∧ ∀ other, top.lookup other =
      if other = Unicode.lower word then
        some (overlay ((root.members.lookup (Unicode.lower word)).getD (.table [])) value)
      else root.members.lookup other := by
  -- Setting a name lays a table of one member over the root.
  rw [Key.set, overlayAll, overlayAll]
  exact ⟨_, rfl, fun _ => Members.lookup_set ..⟩

/-- Setting a key that does not meet a setting leaves the setting as it is. -/
theorem Holds.set_apart {key : Key} (apart : setting.meets key = false) (value : Value)
    (holds : setting.Holds given root) : setting.Holds given (key.set root value) := by
  -- A key that is no name of a table reaches into one, where other names are left alone.
  cases key with
  | name word =>
    obtain ⟨top, members, rfl, table, found⟩ := holds
    obtain ⟨left, result, lookup⟩ := exists_set_name value word (.table top)
    -- The name is that of another table.
    have other : setting.table ≠ Unicode.lower word := fun same => by
      simp [meets, same] at apart
    refine ⟨left, members, result, ?_, found⟩
    rw [lookup, if_neg other]
    exact table
  | item outer index => exact holds.change (show setting.meets outer = false from apart) _
  | member outer word =>
    cases outer with
    | member outer inner =>
      -- What lies deeper is inside of something that does not meet the setting either.
      exact holds.change (show setting.meets (.member outer inner) = false from apart) _
    | item outer index =>
      exact holds.change (show setting.meets (.item outer index) = false from apart) _
    | name outer =>
      refine holds.change_table fun same held found => ?_
      -- The table may be the one of the setting, but then the name in it is another.
      have other : Members.last? setting.name [(word, value)] = none := by
        have named : Unicode.lower word ≠ setting.name := fun named => by
          simp [meets, same, named] at apart
        simp [Members.last?, named]
      obtain ⟨changed, result, kept⟩ := exists_overlayAll_of_none other held.members
      exact ⟨changed, result, kept.trans found⟩

/-- An assignment without an effect on a setting leaves the setting as it is. -/
theorem Holds.set {key : Key} {value : Value} (silent : setting.effect key value = .none)
    (holds : setting.Holds given root) : setting.Holds given (key.set root value) := by
  -- Either the key leads elsewhere, or what is laid over the table does not name the setting.
  rcases effect_eq_none silent with apart | ⟨word, above, rfl, rfl, here, absent⟩
  · exact holds.set_apart apart value
  · obtain ⟨top, members, rfl, table, found⟩ := holds
    obtain ⟨left, result, lookup⟩ := exists_set_name (.table above) word (.table top)
    obtain ⟨changed, laid, kept⟩ := exists_overlayAll_of_none absent members
    refine ⟨left, changed, result, ?_, kept.trans found⟩
    rw [lookup, if_pos here.symm, Option.getD_some, here, overlay, ← laid]
    exact congrArg (overlayAll · above) table

/-- An assignment that gives a setting a value leaves the setting with this value. -/
theorem holds_of_gives {key : Key} {value last : Value}
    (gives : setting.effect key value = .gives last) (root : Value) :
    setting.Holds (some last) (key.set root value) := by
  obtain ⟨single, ⟨word, above, rfl, rfl, here, given⟩ | ⟨outer, word, rfl, rfl, here, named⟩⟩ :=
    effect_eq_gives gives
  · -- The members are laid over what stands at the table, whatever that is.
    obtain ⟨left, result, lookup⟩ := exists_set_name (.table above) word root
    obtain ⟨changed, laid, kept⟩ := exists_overlayAll_of_some given single
      ((root.members.lookup (Unicode.lower word)).getD (.table []))
    refine ⟨left, changed, result, ?_, kept⟩
    rw [lookup, if_pos here.symm, Option.getD_some, overlay, laid]
  · -- What stands at the table and is none is replaced by an empty one first.
    have given : Members.last? setting.name [(word, value)] = some value := by
      simp [Members.last?, named]
    obtain ⟨left, result, lookup⟩ :=
      exists_change_name (fun held => overlayAll (.table held.members) [(word, value)]) outer root
    obtain ⟨changed, laid, kept⟩ := exists_overlayAll_of_some given single
      (.table ((root.members.lookup (Unicode.lower outer)).getD .null).members)
    refine ⟨left, changed, result, ?_, kept⟩
    rw [lookup, if_pos here.symm, Option.getD_some, laid]

/-- Assignments without an effect on a setting leave the setting as it is. -/
theorem Holds.foldl {assignments : List (Key × Value)}
    (silent : ∀ entry ∈ assignments, setting.effect entry.1 entry.2 = .none)
    (holds : setting.Holds given root) :
    setting.Holds given (assignments.foldl (fun acc entry => entry.1.set acc entry.2) root) := by
  -- Each assignment keeps what is held before the others are made.
  induction assignments generalizing root with
  | nil => exact holds
  | cons entry rest ih =>
    have ⟨first, others⟩ := List.forall_mem_cons.mp silent
    exact ih others (holds.set first)

/-- The last assignment that has an effect on a setting counts when it gives the setting a value. -/
theorem holds_of_last {before after : List (Key × Value)} {entry : Key × Value} {last : Value}
    (gives : setting.effect entry.1 entry.2 = .gives last)
    (silent : ∀ later ∈ after, setting.effect later.1 later.2 = .none) (root : Value) :
    setting.Holds (some last)
      ((before ++ entry :: after).foldl (fun acc entry => entry.1.set acc entry.2) root) := by
  -- What was set before is overwritten, and nothing behind touches it.
  rw [List.foldl_append, List.foldl_cons]
  exact (holds_of_gives gives _).foldl silent

/-- When none of some assignments does anything to a setting but give it a value, it has a value
that one of them gives. -/
theorem exists_holds_of_gives {assignments : List (Key × Value)}
    (touched : ∃ entry ∈ assignments, setting.effect entry.1 entry.2 ≠ .none)
    (clean : ∀ entry ∈ assignments, setting.effect entry.1 entry.2 ≠ .other) (root : Value) :
    ∃ entry ∈ assignments, ∃ last, setting.effect entry.1 entry.2 = .gives last ∧
      setting.Holds (some last)
        (assignments.foldl (fun acc entry => entry.1.set acc entry.2) root) := by
  induction assignments generalizing root with
  | nil =>
    obtain ⟨entry, member, -⟩ := touched
    cases member
  | cons entry rest ih =>
    obtain ⟨first, others⟩ := List.forall_mem_cons.mp clean
    -- One of the later ones counts, if any of them has to do with the setting.
    by_cases later : ∃ entry ∈ rest, setting.effect entry.1 entry.2 ≠ .none
    · obtain ⟨found, member, last, gives, holds⟩ := ih later others (entry.1.set root entry.2)
      exact ⟨found, List.mem_cons_of_mem _ member, last, gives, holds⟩
    · have silent : ∀ other ∈ rest, setting.effect other.1 other.2 = .none :=
        fun other member => Classical.not_not.mp fun effective => later ⟨other, member, effective⟩
      cases gives : setting.effect entry.1 entry.2 with
      | other => exact absurd gives first
      | none =>
        obtain ⟨found, member, effective⟩ := touched
        rcases List.mem_cons.mp member with rfl | behind
        · exact absurd gives effective
        · exact absurd (silent found behind) effective
      | gives last =>
        have holds := (holds_of_gives gives root).foldl silent
        exact ⟨entry, List.mem_cons_self, last, gives, holds⟩

end Setting

end Manuscript
