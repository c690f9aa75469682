import Mathlib.Data.List.Sort
import TemplateCompiler.Config.Reading
import TemplateCompiler.Proofs.ByteOrder
import TemplateCompiler.Proofs.DistinctKeys

namespace TemplateCompiler

open Text (bytes)

namespace Toml

/-- How a value that is no truth value is shown in a report. -/
inductive Item.IsShown : Item → String → Prop
  | string (text : String) : IsShown (.string text) ("string " ++ Text.quoted text)
  | integer (value : Int) : IsShown (.integer value) ("integer `" ++ toString value ++ "`")
  | float (value : Float) :
      IsShown (.float value) ("floating point `" ++ ConfigError.floatLayout.write value ++ "`")
  | datetime : IsShown .datetime "map"
  | array (items : List Item) : IsShown (.array items) "sequence"
  | table (origin : Origin) (entries : Entries) : IsShown (.table origin entries) "map"
  | tables (elements : List Entries) : IsShown (.tables elements) "sequence"

theorem Item.IsShown.unique {item : Item} {shown shown' : String} (first : item.IsShown shown)
    (second : item.IsShown shown') : shown = shown' := by
  cases first <;> cases second <;> rfl

end Toml

/-- The spellings of a setting's name. -/
def Setting.names : Setting → List String
  | arraySizeHelper => ["arraySize", "arraySizeHelper", "array_size_helper"]
  | undefinedOutput => ["undefinedOutput", "undefined_output"]

/-- What is said of a name that no setting has. -/
def Setting.strangeName (name : String) : String :=
  "unknown field `" ++ name ++
    "`, expected one of `arraySize`, `arraySizeHelper`, `array_size_helper`, `undefinedOutput`, `undefined_output`"

/-- What is said of a setting that is set a second time. -/
def Setting.repetition : Setting → String
  | arraySizeHelper => "duplicate field `array_size_helper`"
  | undefinedOutput => "duplicate field `undefined_output`"

theorem Setting.ofName?_eq_some_iff {name : String} {setting : Setting} :
    ofName? name = some setting ↔ name ∈ setting.names := by
  constructor
  · intro known
    obtain ⟨before, after, split, _⟩ := List.lookup_eq_some_iff.mp known
    have member : (name, setting) ∈ spellings := by simp [split]
    cases setting <;> simpa [spellings, names] using member
  · intro member
    cases setting <;> simp only [names, List.mem_cons, List.not_mem_nil, or_false] at member
    · rcases member with rfl | rfl | rfl <;> decide
    · rcases member with rfl | rfl <;> decide

theorem Setting.eq_of_mem_names {name : String} {setting setting' : Setting} (named : name ∈ setting.names)
    (named' : name ∈ setting'.names) : setting = setting' :=
  Option.some.inj ((ofName?_eq_some_iff.mpr named).symm.trans (ofName?_eq_some_iff.mpr named'))

namespace Config

/-- What is wrong with an entry that is read after others. Its name is looked at first, then whether
its setting is new, and then its value. -/
inductive Offence (earlier : Toml.Entries) : String × Toml.Item → String → Prop
  | unknown {name : String} {item : Toml.Item} : (∀ setting : Setting, name ∉ setting.names) →
      Offence earlier (name, item) (Setting.strangeName name)
  | repeated {name : String} {item : Toml.Item} {setting : Setting} {other : String × Toml.Item} :
      name ∈ setting.names → other ∈ earlier → other.1 ∈ setting.names →
      Offence earlier (name, item) setting.repetition
  | noBoolean {name : String} {item : Toml.Item} {setting : Setting} {shown : String} :
      name ∈ setting.names → (∀ other ∈ earlier, other.1 ∉ setting.names) → item.IsShown shown →
      Offence earlier (name, item) ("invalid type: " ++ shown ++ ", expected a boolean")

theorem readBool_eq_ok_iff {item : Toml.Item} {value : Bool} : readBool item = .ok value ↔ item = .bool value := by
  cases item <;> simp [readBool]

namespace Settings

theorem get?_insert (settings : Settings) (inserted asked : Setting) (value : Bool) :
    (settings.insert inserted value).get? asked =
      if asked = inserted then some value else settings.get? asked := by
  cases inserted <;> cases asked <;> rfl

/-- The settings are what the entries say, each of which is a truth value. -/
structure ReadFrom (settings : Settings) (entries : Toml.Entries) : Prop where
  value : ∀ setting value, settings.get? setting = some value ↔
    ∃ name ∈ setting.names, (name, Toml.Item.bool value) ∈ entries
  boolean : ∀ entry ∈ entries, ∃ value, entry.2 = .bool value

theorem ReadFrom.get?_eq_none_iff {settings : Settings} {entries : Toml.Entries} (read : settings.ReadFrom entries)
    {setting : Setting} : settings.get? setting = none ↔ ∀ entry ∈ entries, entry.1 ∉ setting.names := by
  constructor
  · intro absent entry member named
    obtain ⟨value, shown⟩ := read.boolean entry member
    have found := (read.value setting value).mpr ⟨entry.1, named, shown ▸ member⟩
    cases found.symm.trans absent
  · intro absent
    refine Option.eq_none_iff_forall_ne_some.mpr fun value found => ?_
    obtain ⟨name, named, member⟩ := (read.value setting value).mp found
    exact absent _ member named

end Settings

theorem readEntry_eq_ok {settings next : Settings} {entry : String × Toml.Item}
    (run : readEntry settings entry = .ok next) :
    ∃ setting value, entry.1 ∈ setting.names ∧ settings.get? setting = none ∧ entry.2 = .bool value ∧
      next = settings.insert setting value := by
  unfold readEntry at run
  split at run
  · cases run
  · rename_i setting known
    split at run
    · cases run
    · rename_i fresh
      cases shown : readBool entry.2 with
      | error mismatch => rw [shown] at run; cases run
      | ok value =>
        rw [shown] at run
        cases run
        exact ⟨setting, value, Setting.ofName?_eq_some_iff.mp known, fresh, readBool_eq_ok_iff.mp shown, rfl⟩

theorem Settings.ReadFrom.step {settings next : Settings} {earlier : Toml.Entries}
    (read : settings.ReadFrom earlier) {entry : String × Toml.Item} (run : readEntry settings entry = .ok next) :
    next.ReadFrom (earlier ++ [entry]) := by
  obtain ⟨setting, value, named, fresh, shown, rfl⟩ := readEntry_eq_ok run
  have absent := read.get?_eq_none_iff.mp fresh
  constructor
  · intro asked value'
    rw [get?_insert]
    split
    · rename_i same
      subst same
      constructor
      · intro found
        cases found
        exact ⟨entry.1, named, by simp [← shown]⟩
      · rintro ⟨name, named', member⟩
        rcases List.mem_append.mp member with before | last
        · exact absurd named' (absent _ before)
        · have item : (name, Toml.Item.bool value') = entry := List.mem_singleton.mp last
          rw [← item] at shown
          cases shown
          rfl
    · rename_i other
      rw [read.value]
      constructor
      · rintro ⟨name, named', member⟩
        exact ⟨name, named', List.mem_append_left _ member⟩
      · rintro ⟨name, named', member⟩
        rcases List.mem_append.mp member with before | last
        · exact ⟨name, named', before⟩
        · have item : (name, Toml.Item.bool value') = entry := List.mem_singleton.mp last
          rw [← item] at named
          exact absurd (Setting.eq_of_mem_names named' named) other
  · intro other member
    rcases List.mem_append.mp member with before | last
    · exact read.boolean other before
    · exact ⟨value, List.mem_singleton.mp last ▸ shown⟩

/-- The settings after a run over some more entries. -/
theorem Settings.ReadFrom.run {settings last : Settings} {earlier entries : Toml.Entries}
    (read : settings.ReadFrom earlier) (run : entries.foldlM readEntry settings = .ok last) :
    last.ReadFrom (earlier ++ entries) := by
  induction entries generalizing settings earlier with
  | nil =>
    cases run
    simpa using read
  | cons entry entries ih =>
    rw [List.foldlM_cons] at run
    cases here : readEntry settings entry with
    | error mismatch => rw [here] at run; cases run
    | ok next =>
      rw [here] at run
      simpa using ih (read.step here) run

/-- The entries whose keys have smaller bytes than a name. -/
def before (entries : Toml.Entries) (name : String) : Toml.Entries :=
  entries.filter fun entry => bytes entry.1 < bytes name

theorem mem_before {entries : Toml.Entries} {name : String} {entry : String × Toml.Item} :
    entry ∈ before entries name ↔ entry ∈ entries ∧ bytes entry.1 < bytes name := by
  simp [before]

theorem Offence.congr {earlier earlier' : Toml.Entries} (same : ∀ other, other ∈ earlier ↔ other ∈ earlier')
    {entry : String × Toml.Item} {description : String} (offence : Offence earlier entry description) :
    Offence earlier' entry description := by
  cases offence with
  | unknown unknown => exact .unknown unknown
  | repeated named member again => exact .repeated named ((same _).mp member) again
  | noBoolean named fresh shown =>
    exact .noBoolean named (fun other member => fresh other ((same other).mpr member)) shown

/-- No more than one thing is said to be wrong with an entry. -/
theorem Offence.unique {earlier : Toml.Entries} {entry : String × Toml.Item} {first second : String}
    (offence : Offence earlier entry first) (again : Offence earlier entry second) : first = second := by
  cases offence with
  | unknown unknown =>
    cases again with
    | unknown => rfl
    | repeated named => exact absurd named (unknown _)
    | noBoolean named => exact absurd named (unknown _)
  | repeated named member present =>
    cases again with
    | unknown unknown => exact absurd named (unknown _)
    | repeated named' => rw [Setting.eq_of_mem_names named named']
    | noBoolean named' fresh => exact absurd (Setting.eq_of_mem_names named named' ▸ present) (fresh _ member)
  | noBoolean named fresh shown =>
    cases again with
    | unknown unknown => exact absurd named (unknown _)
    | repeated named' member present =>
      exact absurd (Setting.eq_of_mem_names named' named ▸ present) (fresh _ member)
    | noBoolean _ _ shown' => rw [shown.unique shown']

/-- What is wrong with an entry of a table, if the entries are read in the order of their keys. -/
def Offends (entries : Toml.Entries) (entry : String × Toml.Item) (description : String) : Prop :=
  entry ∈ entries ∧ Offence (before entries entry.1) entry description

/-- The entry with the smallest key of those with which something is wrong. -/
structure FirstOffence (entries : Toml.Entries) (entry : String × Toml.Item) (description : String) : Prop where
  offends : Offends entries entry description
  first : ∀ other ∈ before entries entry.1, ∀ wrong, ¬ Offends entries other wrong

theorem Offends.congr {entries entries' : Toml.Entries} (same : ∀ other, other ∈ entries ↔ other ∈ entries')
    {entry : String × Toml.Item} {description : String} (offends : Offends entries entry description) :
    Offends entries' entry description := by
  refine ⟨(same entry).mp offends.1, offends.2.congr fun other => ?_⟩
  rw [mem_before, mem_before, same]

theorem FirstOffence.congr {entries entries' : Toml.Entries} (same : ∀ other, other ∈ entries ↔ other ∈ entries')
    {entry : String × Toml.Item} {description : String} (offence : FirstOffence entries entry description) :
    FirstOffence entries' entry description := by
  refine ⟨offence.offends.congr same, fun other earlier wrong offends => ?_⟩
  have earlier' : other ∈ before entries entry.1 := by
    rw [mem_before, same]
    exact mem_before.mp earlier
  exact offence.first other earlier' wrong (offends.congr fun other => (same other).symm)

theorem FirstOffence.unique {entries : Toml.Entries} (distinct : entries.Distinct)
    {entry entry' : String × Toml.Item} {description description' : String}
    (first : FirstOffence entries entry description) (second : FirstOffence entries entry' description') :
    entry = entry' ∧ description = description' := by
  obtain ⟨member, offence⟩ := first.offends
  obtain ⟨member', offence'⟩ := second.offends
  have same : entry = entry' := by
    refine List.inj_on_of_nodup_map distinct member member' ?_
    rcases lt_trichotomy entry.1 entry'.1 with less | equal | greater
    · exact absurd first.offends (second.first entry (mem_before.mpr ⟨member, Text.bytes_lt_iff.mpr less⟩) _)
    · exact equal
    · exact absurd second.offends (first.first entry' (mem_before.mpr ⟨member', Text.bytes_lt_iff.mpr greater⟩) _)
  subst same
  exact ⟨rfl, offence.unique offence'⟩

/-- The value of a setting in a configuration. -/
def flag (config : Config) : Setting → Bool
  | .arraySizeHelper => config.arraySizeHelper
  | .undefinedOutput => config.undefinedOutput

theorem Settings.flag_toConfig (settings : Settings) (setting : Setting) :
    settings.toConfig.flag setting = (settings.get? setting).getD false := by
  cases setting <;> rfl

/-- Every setting has the value that the entries give it, and is off if they give it none. -/
def Follows (config : Config) (entries : Toml.Entries) : Prop :=
  ∀ setting : Setting,
    (∃ name ∈ setting.names, (name, Toml.Item.bool (config.flag setting)) ∈ entries) ∨
      (∀ entry ∈ entries, entry.1 ∉ setting.names) ∧ config.flag setting = false

theorem Settings.ReadFrom.follows {settings : Settings} {entries : Toml.Entries}
    (read : settings.ReadFrom entries) : settings.toConfig.Follows entries := by
  intro setting
  rw [flag_toConfig]
  cases found : settings.get? setting with
  | none => exact .inr ⟨read.get?_eq_none_iff.mp found, rfl⟩
  | some value => exact .inl ((read.value setting value).mp found)

section

variable {words : String → Toml.Wording} {text : String} {entries : Toml.Entries}

end

end Config

end TemplateCompiler
