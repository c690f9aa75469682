import Mathlib.Data.List.Nodup
import TemplateCompiler.Toml.Document

namespace TemplateCompiler

namespace Toml.Entries

/-- No key stands in the table twice. -/
def Distinct (entries : Entries) : Prop :=
  (entries.map Prod.fst).Nodup

theorem Distinct.add {entries : Entries} (distinct : entries.Distinct) {name : String}
    (absent : entries.lookup name = none) (item : Item) : Distinct (entries ++ [(name, item)]) := by
  have fresh : name ∉ entries.map Prod.fst := by
    intro member
    obtain ⟨entry, found, rfl⟩ := List.mem_map.mp member
    simpa using List.lookup_eq_none_iff.mp absent entry found
  rw [Distinct, List.map_append, List.map_singleton, ← List.concat_eq_append]
  exact List.Nodup.concat fresh distinct

theorem Distinct.replace {entries : Entries} (distinct : entries.Distinct) (name : String) (item : Item) :
    (entries.replace name item).Distinct := by
  have keys : (entries.replace name item).map Prod.fst = entries.map Prod.fst := by
    rw [Entries.replace, List.map_map]
    rfl
  rwa [Distinct, keys]

/-- On the way to a table inside of it a table gets at most one key, and one that it does not have. -/
theorem Distinct.descend? {dotted : Bool} {edit : Origin → Entries → Option Entries} {path : List String}
    {origin : Origin} {entries result : Entries} (distinct : entries.Distinct)
    (edits : ∀ {edited}, edit origin entries = some edited → edited.Distinct)
    (run : Entries.descend? dotted edit path origin entries = some result) : result.Distinct := by
  cases path with
  | nil => exact edits run
  | cons name path =>
    rw [Entries.descend?] at run
    split at run
    · rename_i absent
      obtain ⟨inner, _, rfl⟩ := Option.map_eq_some_iff.mp run
      exact distinct.add absent _
    · split at run
      · cases run
      · obtain ⟨inner, _, rfl⟩ := Option.map_eq_some_iff.mp run
        exact distinct.replace name _
    · split at run
      · cases run
      · obtain ⟨inner, _, rfl⟩ := Option.map_eq_some_iff.mp run
        exact distinct.replace name _
    · cases run

theorem Distinct.insert? {entries result : Entries} (distinct : entries.Distinct) {key : Key} {item : Item}
    (run : entries.insert? key item = some result) : result.Distinct := by
  refine distinct.descend? (fun {edited} run => ?_) run
  split at run
  · cases run
  · split at run
    · cases run
    · rename_i absent
      cases run
      exact distinct.add (Option.not_isSome_iff_eq_none.mp absent) item

theorem Distinct.insertAll? {entries result : Entries} (distinct : entries.Distinct)
    {added : List (Key × Item)} (run : entries.insertAll? added = some result) : result.Distinct := by
  induction added generalizing entries with
  | nil =>
    cases run
    exact distinct
  | cons first added ih =>
    obtain ⟨between, here, later⟩ := Option.bind_eq_some_iff.mp run
    exact ih (distinct.insert? here) later

theorem Distinct.insertTable? {entries result : Entries} (distinct : entries.Distinct) {key : Key}
    {added : List (Key × Item)} (run : entries.insertTable? key added = some result) : result.Distinct := by
  refine distinct.descend? (fun {edited} run => ?_) run
  split at run
  · rename_i absent
    obtain ⟨inner, _, rfl⟩ := Option.map_eq_some_iff.mp run
    exact distinct.add absent _
  · obtain ⟨inner, _, rfl⟩ := Option.map_eq_some_iff.mp run
    exact distinct.replace key.name _
  · cases run

theorem Distinct.appendTable? {entries result : Entries} (distinct : entries.Distinct) {key : Key}
    {added : List (Key × Item)} (run : entries.appendTable? key added = some result) : result.Distinct := by
  refine distinct.descend? (fun {edited} run => ?_) run
  split at run
  · rename_i absent
    obtain ⟨inner, _, rfl⟩ := Option.map_eq_some_iff.mp run
    exact distinct.add absent _
  · obtain ⟨inner, _, rfl⟩ := Option.map_eq_some_iff.mp run
    exact distinct.replace key.name _
  · cases run

end Toml.Entries

namespace Toml

end Toml

end TemplateCompiler
