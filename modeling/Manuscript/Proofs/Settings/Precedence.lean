import Manuscript.Proofs.Settings.Layers
import Manuscript.Proofs.Settings.Reading

/-!
Settings put together by a sequence of calls. Files and single values may be named in any order; the
values count over all files. Of the files the one that was named last counts, and of the values at
one key the one that was set last. Values at different keys have no order, nor have the members of a
table: where one of them decides about a setting it does so in whatever order they come up.
-/

namespace Manuscript

open Config

/-- A call that says what settings are put together of. -/
inductive LoaderCall where
  /-- One more file, which has to be there. -/
  | file (path : Path)
  /-- One more file, which may be missing. -/
  | optionalFile (path : Path)
  /-- One more value at a key. -/
  | override (key : String) (value : Value)

namespace LoaderCall

/-- The layer that a call names, if it names a file. -/
def layers : LoaderCall → List Layer
  | .file path => [⟨path, true⟩]
  | .optionalFile path => [⟨path, false⟩]
  | .override _ _ => []

/-- The key that a call sets a value at, if it names one. -/
def key? : LoaderCall → Option Key
  | .override text _ => Key.ofText? text
  | .file _ | .optionalFile _ => none

/-- The values over all files behind a call, which puts one more over them or leaves them alone. -/
def putOver (overrides : Overrides) : LoaderCall → Overrides
  | .override text value =>
    match Key.ofText? text with
    | some key => overrides.insert key value
    | none => overrides
  | .file _ | .optionalFile _ => overrides

/-- A call names no key that is none. -/
def IsSound : LoaderCall → Prop
  | .override key _ => (Key.ofText? key).isSome
  | .file _ | .optionalFile _ => True

/-- A call sets a value at a key. -/
def Sets (call : LoaderCall) (key : Key) (value : Value) : Prop :=
  ∃ text, call = .override text value ∧ Key.ofText? text = some key

/-- A value is at a key behind a call when the call sets it, or leaves the key alone. -/
theorem mem_putOver_iff {overrides : Overrides} {call : LoaderCall} {key : Key} {value : Value} :
    (key, value) ∈ (putOver overrides call).entries ↔
      call.Sets key value ∨ (call.key? ≠ some key ∧ (key, value) ∈ overrides.entries) := by
  -- Only an override is kept by its key; the files are kept in order.
  cases call with
  | file path => simp [putOver, Sets, key?]
  | optionalFile path => simp [putOver, Sets, key?]
  | override text held =>
    cases spelled : Key.ofText? text with
    -- An override at no key is refused by the loader, and changes nothing here.
    | none => simp [putOver, Sets, key?, spelled]
    | some found =>
      simp only [putOver, Sets, key?, spelled, Overrides.mem_insert_iff, LoaderCall.override.injEq,
        Option.some.injEq, ne_eq]
      constructor
      · rintro (⟨rfl, rfl⟩ | ⟨apart, member⟩)
        · exact .inl ⟨text, ⟨rfl, rfl⟩, spelled⟩
        · exact .inr ⟨fun same => apart same.symm, member⟩
      · -- A text spells one key only.
        rintro (⟨other, ⟨rfl, rfl⟩, named⟩ | ⟨apart, member⟩)
        · rw [spelled] at named
          exact .inl ⟨(Option.some.inj named).symm, rfl⟩
        · exact .inr ⟨fun same => apart same.symm, member⟩

end LoaderCall

/-- A value stands at a key: it was set there, and none was set there after it. -/
def Stands (calls : List LoaderCall) (key : Key) (value : Value) : Prop :=
  ∃ before text after, calls = before ++ .override text value :: after ∧
    Key.ofText? text = some key ∧ ∀ call ∈ after, call.key? ≠ some key

/-- A value stands when it does so by later calls, or was set before calls that leave its key
alone. -/
theorem stands_cons_iff {first : LoaderCall} {rest : List LoaderCall} {key : Key} {value : Value} :
    Stands (first :: rest) key value ↔
      Stands rest key value ∨
        (first.Sets key value ∧ ∀ call ∈ rest, call.key? ≠ some key) := by
  constructor
  · rintro ⟨before, text, after, split, spelled, later⟩
    -- The call that stands is the first one or one of the others.
    cases before with
    | nil =>
      obtain ⟨rfl, rfl⟩ := List.cons.inj split
      exact .inr ⟨⟨text, rfl, spelled⟩, later⟩
    | cons call before =>
      obtain ⟨-, rfl⟩ := List.cons.inj split
      exact .inl ⟨before, text, after, rfl, spelled, later⟩
  · rintro (⟨before, text, after, rfl, spelled, later⟩ | ⟨⟨text, rfl, spelled⟩, later⟩)
    · exact ⟨first :: before, text, after, rfl, spelled, later⟩
    · exact ⟨[], text, rest, rfl, spelled, later⟩

/-- What stands was set by one of the calls. -/
theorem Stands.exists_mem {calls : List LoaderCall} {key : Key} {value : Value}
    (stands : Stands calls key value) :
    ∃ text, .override text value ∈ calls ∧ Key.ofText? text = some key := by
  obtain ⟨before, text, after, rfl, spelled, -⟩ := stands
  exact ⟨text, List.mem_append_right before List.mem_cons_self, spelled⟩

/-- Behind calls a value is at a key when it stands there, or was there and the calls leave the key
alone. -/
theorem mem_foldl_putOver_iff {calls : List LoaderCall} {overrides : Overrides} {key : Key}
    {value : Value} :
    (key, value) ∈ (calls.foldl LoaderCall.putOver overrides).entries ↔
      Stands calls key value ∨
        ((∀ call ∈ calls, call.key? ≠ some key) ∧ (key, value) ∈ overrides.entries) := by
  induction calls generalizing overrides with
  | nil => simp [Stands]
  | cons first rest ih =>
    -- What the first call sets stands unless a later one sets another value there.
    rw [List.foldl_cons, ih, stands_cons_iff, LoaderCall.mem_putOver_iff, List.forall_mem_cons]
    grind

namespace Loader

/-- The loader after a call. -/
def call (loader : Loader) : LoaderCall → Except SettingsFault Loader
  | .file path => .ok (loader.withFile path)
  | .optionalFile path => .ok (loader.withOptionalFile path)
  | .override key value => loader.setOverride key value

/-- The loader after calls; the first one that is refused ends them. -/
def callAll : List LoaderCall → Loader → Except SettingsFault Loader
  | [], loader => .ok loader
  | first :: rest, loader =>
    match loader.call first with
    | .error fault => .error fault
    | .ok next => callAll rest next

/-- The loader after a call has one more layer or another value at one key. -/
theorem call_eq_ok_iff {call : LoaderCall} {loader result : Loader} :
    loader.call call = .ok result ↔ call.IsSound ∧
      result = ⟨loader.layers ++ call.layers, call.putOver loader.overrides⟩ := by
  -- Only an override can be unsound, by a key that cannot be read.
  cases call with
  | file path => simp [Loader.call, withFile, LoaderCall.IsSound, LoaderCall.layers,
      LoaderCall.putOver, eq_comm]
  | optionalFile path => simp [Loader.call, withOptionalFile, LoaderCall.IsSound,
      LoaderCall.layers, LoaderCall.putOver, eq_comm]
  | override key value =>
    cases found : Key.ofText? key <;>
      simp [Loader.call, setOverride, found, LoaderCall.IsSound, LoaderCall.layers,
        LoaderCall.putOver, eq_comm]

/-- The loader that calls lead to has their layers in the order of the calls, and the values that
stand. -/
theorem callAll_eq_ok_iff {calls : List LoaderCall} {loader result : Loader} :
    callAll calls loader = .ok result ↔
      (∀ call ∈ calls, call.IsSound) ∧
        result = ⟨loader.layers ++ calls.flatMap LoaderCall.layers,
          calls.foldl LoaderCall.putOver loader.overrides⟩ := by
  -- Each call adds to what the loader has by then, so that any loader may be the first.
  induction calls generalizing loader with
  | nil => simp [callAll, eq_comm]
  | cons first rest ih =>
    simp only [List.forall_mem_cons, List.flatMap_cons, List.foldl_cons, ← List.append_assoc]
    cases made : loader.call first with
    | error fault =>
      -- Only a value at no key is refused.
      have refused : ¬first.IsSound := fun sound => by
        have ok : loader.call first = .ok _ := call_eq_ok_iff.mpr ⟨sound, rfl⟩
        rw [made] at ok
        cases ok
      simp [callAll, made, refused]
    | ok next =>
      obtain ⟨sound, rfl⟩ := call_eq_ok_iff.mp made
      simp only [callAll, made, ih, sound, true_and]

/-- The values over all files are those that stand. -/
theorem mem_overrides_iff {calls : List LoaderCall} {loader : Loader}
    (made : callAll calls {} = .ok loader) {key : Key} {value : Value} :
    (key, value) ∈ loader.overrides.entries ↔ Stands calls key value := by
  obtain ⟨-, rfl⟩ := callAll_eq_ok_iff.mp made
  simp [mem_foldl_putOver_iff, Overrides.empty]

end Loader

namespace Setting

/-- The value that a setting has to begin with. -/
def standard? (setting : Setting) : Option Value :=
  (Loader.standardMembers.lookup setting.table).bind fun table => table.members.lookup setting.name

/-- The key of a setting. -/
def key (setting : Setting) : Key := .member (.name setting.table) setting.name

/-- What the file of a layer means for a setting. -/
def effectOfLayer (setting : Setting) (files : Files) (layer : Layer) : Effect :=
  setting.effectOfAll (assignmentsOf (files.setAt layer.path))

/-- No value over all files has to do with a setting. -/
def IsLeftAlone (setting : Setting) (calls : List LoaderCall) : Prop :=
  ∀ key value, Stands calls key value → setting.effect key value = .none

/-- What a setting is given by calls on some files, whatever is gone through in whatever order. -/
inductive IsGiven (files : Files) (calls : List LoaderCall) (setting : Setting) :
    Option Value → Prop
  /-- A value that stands gives it, and none at another key has to do with the setting. -/
  | override {key : Key} {value last : Value} (stands : Stands calls key value)
      (gives : setting.effect key value = .gives last)
      (alone : ∀ other held, Stands calls other held → other ≠ key →
        setting.effect other held = .none) :
      IsGiven files calls setting (some last)
  /-- The last file gives it that has to do with the setting. -/
  | file {before after : List Layer} {layer : Layer} {last : Value}
      (alone : setting.IsLeftAlone calls)
      (split : calls.flatMap LoaderCall.layers = before ++ layer :: after)
      (gives : setting.effectOfLayer files layer = .gives last)
      (silent : ∀ later ∈ after, setting.effectOfLayer files later = .none) :
      IsGiven files calls setting (some last)
  /-- Nothing has to do with the setting. -/
  | standard (alone : setting.IsLeftAlone calls)
      (silent : ∀ layer ∈ calls.flatMap LoaderCall.layers,
        setting.effectOfLayer files layer = .none) :
      IsGiven files calls setting setting.standard?

/-- The names of a setting are in lower case. -/
theorem lower_names (setting : Setting) :
    Unicode.lower setting.table = setting.table ∧ Unicode.lower setting.name = setting.name := by
  cases setting <;> exact ⟨by decide +kernel, by decide +kernel⟩

/-- A setting is given what its own key is set to, unless that is a table. -/
theorem effect_key (setting : Setting) {value : Value} (single : value.isTable = false) :
    setting.effect setting.key value = .gives value := by
  obtain ⟨table, name⟩ := setting.lower_names
  have met : setting.meets setting.key = true := by simp [key, meets, table, name]
  rw [effect, if_pos met]
  show setting.effectOfMember (setting.name, value) = _
  rw [effectOfMember, if_pos name, if_neg (Bool.eq_false_iff.mp single)]

/-- The name of a table that a setting stands in spells a key of one step. -/
theorem ofText?_table (setting : Setting) :
    Key.ofText? setting.table = some (.name setting.table) := by
  cases setting <;> decide +kernel

/-- A setting is known by its table and its name. -/
theorem eq_of_names {setting other : Setting} (table : setting.table = other.table)
    (name : setting.name = other.name) : setting = other := by
  -- Two settings differ in one of the two.
  cases setting <;> cases other <;>
    first
    | rfl
    | exact absurd table (by decide)
    | exact absurd name (by decide)

/-- The table of a setting is set by its name. -/
theorem assignmentsOf_table (setting : Setting) (value : Value) :
    assignmentsOf [(setting.table, value)] = [(.name setting.table, value)] := by
  rw [assignmentsOf, List.map_singleton, ofText?_table, Option.getD_some]

/-- To set one setting does nothing to another, neither at its key nor in a file that gives its
table. -/
theorem effect_of_ne {setting other : Setting} (apart : other ≠ setting) (value : Value) :
    other.effect setting.key value = .none ∧
      other.effectOfAll (assignmentsOf [(setting.table, .table [(setting.name, value)])]) =
        .none := by
  obtain ⟨table, name⟩ := setting.lower_names
  rw [assignmentsOf_table, effectOfAll, Effect.ofAll_eq_none_iff, List.forall_mem_singleton, effect,
    effect]
  -- The names of two settings differ in the table or in what stands in it.
  by_cases same : setting.table = other.table
  · have named : setting.name ≠ other.name := fun named => apart (eq_of_names same named).symm
    have missed : other.effectOfMember (setting.name, value) = .none := by
      rw [effectOfMember, name, if_neg named]
    -- In the same table the two are told apart by their own names.
    have inside : other.effectOfMeeting setting.key value = .none := missed
    have behind : other.effectOfMeeting (.name setting.table) (.table [(setting.name, value)]) =
        .none := by
      rw [effectOfMeeting, Effect.ofAll_eq_none_iff, List.forall_mem_singleton, missed]
    exact ⟨by rw [inside, ite_self], by rw [behind, ite_self]⟩
  · -- In another table nothing meets this one.
    have elsewhere : other.meets setting.key = false := by simp [key, meets, table, same]
    have outside : other.meets (.name setting.table) = false := by simp [meets, table, same]
    exact ⟨if_neg (by simp [elsewhere]), if_neg (by simp [outside])⟩

section Groups

variable {setting : Setting} {given : Option Value} {last root : Value}

/-- The standard values give each setting its own, if it has one. -/
theorem effectOfAll_standardMembers (setting : Setting) :
    setting.effectOfAll (assignmentsOf Loader.standardMembers) =
      setting.standard?.elim .none .gives := by
  cases setting <;> rfl

/-- What members mean for a setting does not depend on the order in which they are set. -/
theorem effectOfAll_arranged (order : EntryOrder String Value) (setting : Setting)
    (members : Members) :
    setting.effectOfAll (assignmentsOf (members.arranged order)) =
      setting.effectOfAll (assignmentsOf members) := by
  simp only [effectOfAll, assignmentsOf, List.map_map]
  -- Neither the order of the members counts nor that inside of them.
  rw [Effect.ofAll_perm (arranged_perm order members), List.map_map]
  exact congrArg Effect.ofAll (List.map_congr_left fun member _ => effect_arranged order ..)

/-- What the values over all files mean for a setting does not depend on their order. -/
theorem effectOfAll_assignments (order : LayingOrder) (setting : Setting) (loader : Loader) :
    setting.effectOfAll (loader.assignments order) =
      setting.effectOfAll loader.overrides.entries := by
  simp only [effectOfAll, Loader.assignments, List.map_map]
  -- The overrides may come in any order, and so may what their tables hold.
  rw [Effect.ofAll_perm (order.overrides.perm _)]
  exact congrArg Effect.ofAll (List.map_congr_left fun entry _ => effect_arranged order.tables ..)

/-- Assignments that come to nothing for a setting leave it as it is. -/
theorem Holds.assignAll {assignments : List (Key × Value)}
    (silent : setting.effectOfAll assignments = .none) (holds : setting.Holds given root) :
    setting.Holds given (assignAll assignments root) :=
  holds.foldl (Effect.ofAll_eq_none_iff.mp silent)

/-- Assignments that come to a value for a setting leave it with this value. -/
theorem holds_assignAll {assignments : List (Key × Value)}
    (gives : setting.effectOfAll assignments = .gives last) (root : Value) :
    setting.Holds (some last) (assignAll assignments root) := by
  obtain ⟨before, entry, after, rfl, held, -, behind⟩ := Effect.exists_of_ofAll_eq_gives gives
  exact holds_of_last held behind root

/-- Groups of assignments that come to nothing each leave a setting as it is. -/
theorem Holds.assignGroups {groups : List (List (Key × Value))}
    (silent : ∀ group ∈ groups, setting.effectOfAll group = .none)
    (holds : setting.Holds given root) :
    setting.Holds given (Manuscript.assignAll groups.flatten root) :=
  -- An entry of a group without effect has none itself.
  holds.foldl fun entry member => by
    obtain ⟨group, inside, here⟩ := List.mem_flatten.mp member
    exact Effect.ofAll_eq_none_iff.mp (silent group inside) entry here

/-- Of groups of assignments the last one counts that has to do with a setting. -/
theorem holds_assignGroups {before after : List (List (Key × Value))} {group : List (Key × Value)}
    (gives : setting.effectOfAll group = .gives last)
    (silent : ∀ later ∈ after, setting.effectOfAll later = .none) (root : Value) :
    setting.Holds (some last)
      (Manuscript.assignAll (before ++ group :: after).flatten root) := by
  -- What comes before the group is overwritten by it.
  rw [List.flatten_append, List.flatten_cons, assignAll_append, assignAll_append]
  exact (holds_assignAll gives _).assignGroups silent

/-- The program starts with the standard values. -/
theorem holds_standard? (order : EntryOrder String Value) (setting : Setting) :
    setting.Holds setting.standard? (setAll (.table []) (Loader.standardMembers.arranged order)) := by
  have effect := (effectOfAll_arranged order setting _).trans (effectOfAll_standardMembers setting)
  rw [setAll_eq_assignAll]
  -- Some settings have a standard value, and the others are not there at first.
  cases standard : setting.standard? with
  | none => exact (holds_empty setting).assignAll (by rw [effect, standard]; rfl)
  | some value => exact holds_assignAll (by rw [effect, standard]; rfl) _

end Groups

section Given

variable {calls : List LoaderCall} {loader : Loader} {files : Files} {order : LayingOrder}
  {setting : Setting} {root top : Value}

/-- When no value over all files has to do with a setting, they leave it as it is. -/
theorem IsLeftAlone.assignAll {given : Option Value} (alone : setting.IsLeftAlone calls)
    (made : Loader.callAll calls {} = .ok loader) (holds : setting.Holds given root) :
    setting.Holds given (assignAll (loader.assignments order) root) := by
  refine holds.assignAll ?_
  rw [effectOfAll_assignments]
  -- What is in the map is what stands, and nothing else.
  exact Effect.ofAll_eq_none_iff.mpr fun entry member =>
    alone _ _ ((Loader.mem_overrides_iff made).mp member)

/-- The value that stands at one key is the effect of all that stand, when those at other keys have
none. -/
theorem effectOfAll_overrides {key : Key} {value : Value}
    (made : Loader.callAll calls {} = .ok loader) (stands : Stands calls key value)
    (alone : ∀ other held, Stands calls other held → other ≠ key →
      setting.effect other held = .none) :
    setting.effectOfAll loader.overrides.entries = setting.effect key value := by
  -- The map holds the key once, so that all its other entries are at other keys.
  obtain ⟨before, after, split⟩ :=
    List.append_of_mem ((Loader.mem_overrides_iff made).mpr stands)
  have distinct := loader.overrides.distinct
  have silent : ∀ entry ∈ loader.overrides.entries, entry.1 ≠ key →
      setting.effect entry.1 entry.2 = .none := fun entry member =>
    alone _ _ ((Loader.mem_overrides_iff made).mp member)
  rw [split] at distinct silent ⊢
  rw [List.map_append, List.map_cons, List.nodup_append, List.nodup_cons] at distinct
  obtain ⟨-, ⟨apart, -⟩, differ⟩ := distinct
  have front : ∀ other ∈ before, setting.effect other.1 other.2 = .none := fun other member =>
    silent other (by simp [member]) fun same =>
      differ other.1 (List.mem_map_of_mem member) key List.mem_cons_self same
  have behind : ∀ other ∈ after, setting.effect other.1 other.2 = .none := fun other member =>
    silent other (by simp [member]) fun same => apart (List.mem_map.mpr ⟨other, member, same⟩)
  exact Effect.ofAll_of_only front behind

/-- A setting is held with what it is given. -/
theorem IsGiven.holds {given : Option Value} (isGiven : setting.IsGiven files calls given)
    (made : Loader.callAll calls {} = .ok loader)
    (laid : files.laid order.tables loader.layers
      (setAll (.table []) (Loader.standardMembers.arranged order.tables)) = .ok root) :
    setting.Holds given (assignAll (loader.assignments order) root) := by
  have layers : loader.layers = calls.flatMap LoaderCall.layers := by
    obtain ⟨-, rfl⟩ := Loader.callAll_eq_ok_iff.mp made
    rfl
  have layered := Files.laid_eq_ok laid
  rw [layers] at layered
  -- The order inside of the tables of a file does not count.
  have arranged (layer : Layer) :
      setting.effectOfAll (assignmentsOf ((files.setAt layer.path).arranged order.tables)) =
        setting.effectOfLayer files layer := effectOfAll_arranged ..
  cases isGiven with
  -- What an override sets comes behind all layers.
  | override stands gives alone =>
    refine holds_assignAll ?_ _
    rw [effectOfAll_assignments, effectOfAll_overrides made stands alone, gives]
  -- The last file that has the setting decides, for no override touches it.
  | file alone split gives silent =>
    refine alone.assignAll made ?_
    rw [layered, split, List.map_append, List.map_cons]
    refine holds_assignGroups ((arranged _).trans gives) (fun group member => ?_) _
    obtain ⟨layer, inside, rfl⟩ := List.mem_map.mp member
    exact (arranged layer).trans (silent layer inside)
  -- With neither the standard value is left as it was.
  | standard alone silent =>
    refine alone.assignAll made ?_
    rw [layered]
    refine (holds_standard? _ setting).assignGroups fun group member => ?_
    obtain ⟨layer, inside, rfl⟩ := List.mem_map.mp member
    exact (arranged layer).trans (silent layer inside)

/-- When all values that stand give a setting a value or leave it alone, and one of them gives it
one, the setting is held with the value that one of them gives. -/
theorem exists_holds_of_stands (made : Loader.callAll calls {} = .ok loader)
    (touched : ∃ key value, Stands calls key value ∧ setting.effect key value ≠ .none)
    (clean : ∀ key value, Stands calls key value → setting.effect key value ≠ .other)
    (order : LayingOrder) (root : Value) :
    ∃ key value last, Stands calls key value ∧ setting.effect key value = .gives last ∧
      setting.Holds (some last) (assignAll (loader.assignments order) root) := by
  -- An entry that comes up is one that stands, with its tables in some order.
  have standing : ∀ entry ∈ loader.assignments order, ∃ value, Stands calls entry.1 value ∧
      setting.effect entry.1 entry.2 = setting.effect entry.1 value := by
    intro entry member
    obtain ⟨listed, here, rfl⟩ := List.mem_map.mp member
    exact ⟨listed.2, (Loader.mem_overrides_iff made).mp ((order.overrides.perm _).mem_iff.mp here),
      effect_arranged ..⟩
  obtain ⟨key, value, stands, effective⟩ := touched
  have member : (key, value.arranged order.tables) ∈ loader.assignments order :=
    List.mem_map.mpr ⟨(key, value),
      (order.overrides.perm _).mem_iff.mpr ((Loader.mem_overrides_iff made).mpr stands), rfl⟩
  -- Whichever entry the order puts last, it is one that stands.
  obtain ⟨entry, found, last, gives, holds⟩ := exists_holds_of_gives
    ⟨_, member, by rwa [effect_arranged]⟩
    (fun entry found => by
      obtain ⟨held, stands, same⟩ := standing entry found
      rw [same]
      exact clean _ _ stands) root
  obtain ⟨held, stands, same⟩ := standing entry found
  exact ⟨entry.1, held, last, stands, same ▸ gives, holds⟩

end Given

end Setting

/--
Settings are put together of calls in any order, on whatever files there are, and whatever has no
order of its own is gone through in some order. A file that has to be there and is missing is a
fault, and one that may be missing and is missing changes nothing. Each setting has what it is given:
the value that stands over all files, if none at another key has to do with the setting, or else the
one of the last file that has to do with it, or else the standard one. Where several values stand
that give the setting one, it has one of them. To set one setting does nothing to the others.
-/
theorem build_of_calls {calls : List LoaderCall} {loader : Loader}
    (made : Loader.callAll calls {} = .ok loader) {σ : Type} (programs : Programs σ)
    (files : Files) (order : LayingOrder) :
    ∃ outcome, (loader.build order).Tells programs files outcome [] ∧
      (∀ path, .file path ∈ calls → files.membersAt path = .error .missing →
        ∃ fault, outcome = .error fault) ∧
      (∀ before path after, calls = before ++ LoaderCall.optionalFile path :: after →
        files.membersAt path = .error .missing →
          ∃ other, Loader.callAll (before ++ after) {} = .ok other ∧
            (other.build order).Tells programs files outcome []) ∧
      (∀ settings, outcome = .ok settings → ∀ setting : Setting,
        (∀ given, setting.IsGiven files calls given → setting.Reads given settings) ∧
          ((∃ key value, Stands calls key value ∧ setting.effect key value ≠ .none) →
            (∀ key value, Stands calls key value → setting.effect key value ≠ .other) →
              ∃ key value last, Stands calls key value ∧ setting.effect key value = .gives last ∧
                setting.Reads (some last) settings)) ∧
      ∀ (setting other : Setting) (value : Value), other ≠ setting →
        other.effect setting.key value = .none ∧
          other.effectOfAll (assignmentsOf [(setting.table, .table [(setting.name, value)])]) =
            .none := by
  obtain ⟨sound, shape⟩ := Loader.callAll_eq_ok_iff.mp made
  refine ⟨_, tells_build _ _, fun path member missing => ?_,
    fun before path after split missing => ?_, fun settings read setting => ?_,
    fun setting other value apart => Setting.effect_of_ne apart value⟩
  · -- The missing file is among the layers, and the first fault there is ends them.
    have layer : (⟨path, true⟩ : Layer) ∈ loader.layers := by
      rw [shape]
      exact List.mem_flatMap.mpr ⟨.file path, member, List.mem_singleton_self _⟩
    obtain ⟨fault, failed⟩ := Files.laid_of_missing missing layer
      (setAll (.table []) (Loader.standardMembers.arranged order.tables))
    exact ⟨fault, by rw [Loader.settingsOn, failed]; rfl⟩
  · -- Without the layer of the missing file everything is laid as with it.
    have others : ∀ call ∈ before ++ after, call.IsSound := fun call member =>
      sound call (split ▸ ((List.sublist_cons_self _ _).append_left before).mem member)
    refine ⟨_, Loader.callAll_eq_ok_iff.mpr ⟨others, rfl⟩, ?_⟩
    -- Only the layers differ; the overrides are the same in both.
    subst split shape
    simp only [List.flatMap_append, List.flatMap_cons, LoaderCall.layers, List.foldl_append,
      List.foldl_cons, LoaderCall.putOver, List.nil_append, List.cons_append]
    have outcome : ∀ overrides : Overrides,
        Loader.settingsOn ⟨before.flatMap LoaderCall.layers ++
            ⟨path, false⟩ :: after.flatMap LoaderCall.layers, overrides⟩ order files =
          Loader.settingsOn ⟨before.flatMap LoaderCall.layers ++
            after.flatMap LoaderCall.layers, overrides⟩ order files :=
      fun overrides => by
        simp only [Loader.settingsOn, Files.laid_of_absent missing, Loader.assignments]
    rw [outcome]
    exact tells_build _ _
  · -- The settings are read from what all assignments make of the standard values.
    obtain ⟨root, laid, given⟩ := bind_eq_ok_iff.mp read
    refine ⟨fun value isGiven => Setting.reads_of_ofValue given (isGiven.holds made laid),
      fun touched clean => ?_⟩
    obtain ⟨key, value, last, stands, gives, holds⟩ :=
      Setting.exists_holds_of_stands made touched clean order root
    exact ⟨key, value, last, stands, gives, Setting.reads_of_ofValue given holds⟩

/-- An effect gives this integer, as a test that can be run. -/
def Setting.Effect.givesInteger (expected : Int) : Setting.Effect → Bool
  | .gives (.integer n) => n == expected
  | _ => false

/-- What passes the test gives the integer. -/
theorem Setting.Effect.eq_of_givesInteger {expected : Int} {effect : Setting.Effect}
    (passes : effect.givesInteger expected = true) : effect = .gives (.integer expected) := by
  unfold givesInteger at passes
  split at passes
  · rw [eq_of_beq passes]
  · cases passes

/-- The settings of the standard values. -/
def standardSettings : Settings :=
  { config := "default", template := "basic", escape := true,
    headingLevels := ["section", "subsection", "subsubsection", "paragraph", "subparagraph"],
    imageRules := [], jobs := 4, engine := .xelatex, runs := 2, passSeconds := 120,
    imageSeconds := 30 }

/-- Maps gone through from the last entry to the first. -/
def backwards : LayingOrder where
  tables := ⟨List.reverse, List.reverse_perm⟩
  overrides := ⟨List.reverse, List.reverse_perm⟩

/-- A folder with one file of settings. -/
def settingsFolder : Files where
  entries :=
    [(["a.toml".toList], .file (Utf8.encode "[compile]\nruns = 3\n[batch]\njobs = 8\n"))]

/-- Calls that name a value, files one of which is missing, a value for another setting, and another
value for the first key. -/
def mixedCalls : List LoaderCall :=
  [.override "batch.jobs" (.integer 2), .optionalFile (.ofString "b"), .file (.ofString "a"),
    .override "render.escape" (.bool false), .override "batch.jobs" (.text "7")]

/-- The value that was set last stands, also over the one in the file that was named behind the
other value; a setting without such a value has the one of the file. -/
theorem build_of_calls_mixedCalls :
    ∃ loader settings, Loader.callAll mixedCalls {} = .ok loader ∧
      (loader.build backwards).Tells
        (fun _ files (memory : Unit) => (.unstarted .missing, files, memory))
        settingsFolder (.ok settings) [] ∧
      settings = { standardSettings with escape := false, jobs := 7, runs := 3 } ∧
      Setting.jobs.Reads (some (.text "7")) settings ∧
      Setting.runs.Reads (some (.integer 3)) settings := by
  -- The two keys are read out of their texts once and for all.
  have jobs : Key.ofText? "batch.jobs" = some Setting.jobs.key := by decide +kernel
  have escape : Key.ofText? "render.escape" = some Setting.escape.key := by decide +kernel
  have sound : ∀ call ∈ mixedCalls, call.IsSound := by
    simp [mixedCalls, LoaderCall.IsSound, jobs, escape]
  have made : Loader.callAll mixedCalls {} = .ok _ :=
    Loader.callAll_eq_ok_iff.mpr ⟨sound, rfl⟩
  obtain ⟨outcome, told, _, _, counts, _⟩ := build_of_calls made
    (fun _ files (memory : Unit) => (.unstarted .missing, files, memory)) settingsFolder backwards
  -- What the loader ends with can be computed from these few files.
  have same : outcome = .ok { standardSettings with escape := false, jobs := 7, runs := 3 } := by
    have result := (told () []).symm.trans (tells_build _ _ () [])
    rw [(Prod.mk.inj result).1]
    decide +kernel
  subst same
  -- Only these two keys are set by any of the calls.
  have standing : ∀ key value, Stands mixedCalls key value →
      key = Setting.jobs.key ∨ key = Setting.escape.key := by
    intro key value stands
    obtain ⟨text, member, spelled⟩ := stands.exists_mem
    simp only [mixedCalls, List.mem_cons, List.not_mem_nil, or_false, reduceCtorEq, false_or,
      LoaderCall.override.injEq] at member
    rcases member with ⟨rfl, -⟩ | ⟨rfl, -⟩ | ⟨rfl, -⟩
    · exact .inl (Option.some.inj (spelled.symm.trans jobs))
    · exact .inr (Option.some.inj (spelled.symm.trans escape))
    · exact .inl (Option.some.inj (spelled.symm.trans jobs))
  -- The later of the two calls at the number of jobs is the one that stands.
  have last : Setting.jobs.IsGiven settingsFolder mixedCalls (some (.text "7")) := by
    have stands : Stands mixedCalls Setting.jobs.key (.text "7") :=
      ⟨mixedCalls.dropLast, _, [], rfl, jobs, List.forall_mem_nil _⟩
    refine .override stands (Setting.jobs.effect_key rfl) fun other held stands apart => ?_
    obtain rfl := (standing other held stands).resolve_left apart
    rfl
  -- No override is about the number of runs, so that the file gives it.
  have layered : Setting.runs.IsGiven settingsFolder mixedCalls (some (.integer 3)) := by
    have alone : Setting.runs.IsLeftAlone mixedCalls := by
      intro key value stands
      rcases standing key value stands with rfl | rfl
      · rfl
      · rfl
    -- Only the kernel can read the file in time, so that what it gives is told by a test.
    have gives : Setting.runs.effectOfLayer settingsFolder ⟨.ofString "a", true⟩ =
        .gives (.integer 3) := Setting.Effect.eq_of_givesInteger (by decide +kernel)
    have split : mixedCalls.flatMap LoaderCall.layers =
        [⟨.ofString "b", false⟩] ++ ⟨.ofString "a", true⟩ :: [] := rfl
    exact .file alone split gives (List.forall_mem_nil _)
  exact ⟨_, _, made, told, rfl, (counts _ rfl .jobs).1 _ last, (counts _ rfl .runs).1 _ layered⟩

/-- The settings that calls lead to where there are no files. -/
def settingsAfter (order : LayingOrder) (calls : List LoaderCall) :
    Except SettingsFault Settings :=
  (Loader.callAll calls {}).bind fun loader => loader.settingsOn order {}

/--
A setting may be changed at a key that is not its own: a list in the place of a table gives the
settings of the table in their order, whether it is set as a whole or item by item, and an item of a
list may be set by itself. What is set last does not always count either: a table and one of its
members are laid in any order, and a table that was set is gone with all it held when its key is set
again.
-/
theorem settings_changed_at_other_keys :
    (∀ setting : Setting, ∀ key ∈ ["batch[0]", "batch", "render", "render.heading_levels[0]"],
        Key.ofText? key ≠ some setting.key) ∧
      settingsAfter {} [.override "batch[0]" (.integer 7)] =
        .ok { standardSettings with jobs := 7 } ∧
      settingsAfter {} [.override "batch" (.list [.text "7"])] =
        .ok { standardSettings with jobs := 7 } ∧
      settingsAfter {} [.override "render.heading_levels[0]" (.text "chapter")] =
        .ok { standardSettings with
          headingLevels :=
            ["chapter", "subsection", "subsubsection", "paragraph", "subparagraph"] } ∧
      settingsAfter {} [.override "batch.jobs" (.integer 7),
          .override "batch" (.table [("jobs", .integer 8)])] =
        .ok { standardSettings with jobs := 8 } ∧
      settingsAfter backwards [.override "batch.jobs" (.integer 7),
          .override "batch" (.table [("jobs", .integer 8)])] =
        .ok { standardSettings with jobs := 7 } ∧
      settingsAfter {} [.override "render" (.table [("config", .text "academic")]),
          .override "render" (.table [("template", .text "plain")])] =
        .ok { standardSettings with template := "plain" } ∧
      ¬∀ (key : String) (value : Value) (settings : Settings),
        (∀ setting : Setting, Key.ofText? key ≠ some setting.key) →
          settingsAfter {} [.override key value] = .ok settings →
            ∀ setting : Setting, setting.Reads setting.standard? settings := by
  -- None of the four keys is the own key of a setting.
  have item : Key.ofText? "batch[0]" = some (.item (.name "batch") 0) := by decide +kernel
  have level : Key.ofText? "render.heading_levels[0]" =
      some (.item (.member (.name "render") "heading_levels") 0) := by decide +kernel
  have whole : Key.ofText? "batch" = some (.name "batch") := Setting.jobs.ofText?_table
  have render : Key.ofText? "render" = some (.name "render") := Setting.config.ofText?_table
  -- Yet the first item of a table's place changes a setting in that table.
  have set : settingsAfter {} [.override "batch[0]" (.integer 7)] =
      .ok { standardSettings with jobs := 7 } := by decide +kernel
  refine ⟨fun setting key member => ?_, set, by decide +kernel, by decide +kernel,
    by decide +kernel, by decide +kernel, by decide +kernel, fun claim => ?_⟩
  · simp only [List.mem_cons, List.not_mem_nil, or_false] at member
    rcases member with rfl | rfl | rfl | rfl
    · simp [item, Setting.key]
    · simp [whole, Setting.key]
    · simp [render, Setting.key]
    · simp [level, Setting.key]
  · -- The number of jobs would have to be the standard one.
    have reads := claim _ _ _ (fun setting => by simp [item, Setting.key]) set .jobs
    have jobs : (.ok 4 : Except SettingsFault Nat) = .ok 7 := Option.some.inj reads
    exact absurd jobs (by decide)

end Manuscript
