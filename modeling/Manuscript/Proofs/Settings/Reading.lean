import Manuscript.Proofs.Files.Walk
import Manuscript.Proofs.Settings.Effect

/-! What settings are read from: each one from the value that the configuration has for it. -/

namespace Manuscript

open Config

namespace Setting

/-- What a setting is, read from the value that is given for it. -/
def Reads (setting : Setting) (given : Option Value) (settings : Settings) : Prop :=
  match setting with
  | .config => given.map Value.string = some (.ok settings.config)
  | .template => given.map Value.string = some (.ok settings.template)
  | .escape => given.map Value.truth = some (.ok settings.escape)
  | .headingLevels =>
    (given.map fun value => do (← value.items).mapM Value.string) =
      some (.ok settings.headingLevels)
  | .imageRules =>
    -- There need be no rules.
    (given.elim (.ok []) fun value => do (← value.items).mapM Settings.imageRule) =
      .ok settings.imageRules
  | .jobs => given.map Value.count = some (.ok settings.jobs)
  | .engine => given.map Value.engine = some (.ok settings.engine)
  | .runs => given.map Value.count = some (.ok settings.runs)
  | .passSeconds => given.map Value.count = some (.ok settings.passSeconds)
  | .imageSeconds => given.map Value.count = some (.ok settings.imageSeconds)

/-- A field that is read is there. -/
theorem map_lookup_of_field {α : Type} {read : Value → Except SettingsFault α} {fields : Members}
    {name : String} {result : α} (done : Settings.field read fields name = .ok result) :
    (fields.lookup name).map read = some (.ok result) := by
  unfold Settings.field at done
  -- A field that is missing would have been a fault.
  cases found : fields.lookup name with
  | none => simp [found] at done
  | some value =>
    rw [found] at done
    exact congrArg some done

/-- The fields of a table are its members. -/
theorem eq_of_field_fields {names : List String} {parts members fields : Members} {name : String}
    (done : Settings.field (Value.fields names) parts name = .ok fields)
    (table : (parts.lookup name).getD (.table []) = .table members) : fields = members := by
  obtain ⟨value, found, read⟩ := Option.map_eq_some_iff.mp (map_lookup_of_field done)
  rw [found, Option.getD_some] at table
  subst table
  -- A table is read as its members.
  cases read
  rfl

/-- Settings are read from a configuration value by value. -/
theorem reads_of_ofValue {root : Value} {settings : Settings}
    (read : Settings.ofValue root = .ok settings) {setting : Setting} {given : Option Value}
    (holds : setting.Holds given root) : setting.Reads given settings := by
  unfold Settings.ofValue at read
  -- All fields were read without a fault, one after another.
  obtain ⟨parts, top, read⟩ := bind_eq_ok_iff.mp read
  obtain ⟨render, inRender, read⟩ := bind_eq_ok_iff.mp read
  obtain ⟨config, isConfig, read⟩ := bind_eq_ok_iff.mp read
  obtain ⟨template, isTemplate, read⟩ := bind_eq_ok_iff.mp read
  obtain ⟨escape, isEscape, read⟩ := bind_eq_ok_iff.mp read
  obtain ⟨levels, isLevels, read⟩ := bind_eq_ok_iff.mp read
  obtain ⟨headingLevels, areLevels, read⟩ := bind_eq_ok_iff.mp read
  obtain ⟨imageRules, areRules, read⟩ := bind_eq_ok_iff.mp read
  obtain ⟨batch, inBatch, read⟩ := bind_eq_ok_iff.mp read
  obtain ⟨jobs, isJobs, read⟩ := bind_eq_ok_iff.mp read
  obtain ⟨compile, inCompile, read⟩ := bind_eq_ok_iff.mp read
  obtain ⟨engine, isEngine, read⟩ := bind_eq_ok_iff.mp read
  obtain ⟨runs, isRuns, read⟩ := bind_eq_ok_iff.mp read
  obtain ⟨passSeconds, isPass, read⟩ := bind_eq_ok_iff.mp read
  obtain ⟨images, inImages, read⟩ := bind_eq_ok_iff.mp read
  obtain ⟨imageSeconds, isImage, read⟩ := bind_eq_ok_iff.mp read
  cases read
  obtain ⟨held, members, rfl, table, found⟩ := holds
  -- The fields of a table are its members.
  obtain rfl : parts = held := (Except.ok.inj top).symm
  -- Each setting is read from its own field, in the order of the fields above.
  cases setting with
  | config =>
    obtain rfl := eq_of_field_fields inRender table
    exact found ▸ map_lookup_of_field isConfig
  | template =>
    obtain rfl := eq_of_field_fields inRender table
    exact found ▸ map_lookup_of_field isTemplate
  | escape =>
    obtain rfl := eq_of_field_fields inRender table
    exact found ▸ map_lookup_of_field isEscape
  -- The levels are a list that is read item by item before it is checked.
  | headingLevels =>
    obtain rfl := eq_of_field_fields inRender table
    obtain ⟨value, rfl, items⟩ := Option.map_eq_some_iff.mp (found ▸ map_lookup_of_field isLevels)
    exact congrArg some (bind_eq_ok_iff.mpr ⟨levels, items, areLevels⟩)
  -- The rules may be missing, and have a value of their own then.
  | imageRules =>
    obtain rfl := eq_of_field_fields inRender table
    have rules : render.lookup "image_rewrites" = given := found
    rw [Settings.imageRulesOf, rules] at areRules
    cases given <;> exact areRules
  | jobs =>
    obtain rfl := eq_of_field_fields inBatch table
    exact found ▸ map_lookup_of_field isJobs
  | engine =>
    obtain rfl := eq_of_field_fields inCompile table
    exact found ▸ map_lookup_of_field isEngine
  | runs =>
    obtain rfl := eq_of_field_fields inCompile table
    exact found ▸ map_lookup_of_field isRuns
  | passSeconds =>
    obtain rfl := eq_of_field_fields inCompile table
    exact found ▸ map_lookup_of_field isPass
  | imageSeconds =>
    obtain rfl := eq_of_field_fields inImages table
    exact found ▸ map_lookup_of_field isImage

end Setting

end Manuscript
