import TagSearch.Proofs.Toml.Documents
import TagSearch.Settings.Basic

/-!
# Settings in documents

Settings are read back from the document that they are written as. What the document leaves out is
the default: every path is matched as a whole, and there is no limit.

* `Settings.read_toText`: the document is read as the tables of its sections.
* `Settings.ofTable_sections`: the settings of these tables are those that were written.
-/

namespace TagSearch.Settings

variable {s base : Settings}

/-! ## The document -/

/-- No key about searches is written twice. -/
theorem searchEntries_keys (s : Settings) :
    (s.searchEntries.map (·.1)).Sublist ["path_match", "default_limit"] := by
  rw [searchEntries, List.map_append, show ["path_match", "default_limit"] =
    ["path_match"] ++ ["default_limit"] from rfl]
  refine List.Sublist.append ?_ ?_
  · split <;> simp
  · cases s.limit <;> simp

/-- The values that are written about searches. -/
theorem searchEntries_values (short : ∀ n ∈ s.limit, Toml.IsShort n) :
    ∀ entry ∈ s.searchEntries, entry.2.IsReadable := by
  intro entry mem
  rw [searchEntries, List.mem_append] at mem
  rcases mem with mem | mem
  · split at mem
    · cases mem
    · obtain rfl := List.mem_singleton.1 mem
      trivial
  · rw [Option.mem_toList] at mem
    obtain ⟨n, limit, rfl⟩ := Option.map_eq_some_iff.1 mem
    exact short n limit

/-- Every section of settings can be read back if the limit has no more digits than are read. -/
theorem isReadable_of_mem_sections (short : ∀ n ∈ s.limit, Toml.IsShort n) :
    ∀ part ∈ s.sections, part.IsReadable := by
  have bare : ∀ key ∈ ["paths", "root", "display", "colored_output", "search", "path_match",
      "default_limit"], Toml.IsBare key := by decide
  have keys := searchEntries_keys s
  have search : Toml.Section.IsReadable ⟨"search", s.searchEntries⟩ := by
    refine ⟨bare _ (by simp), fun entry mem => bare _ ?_, keys.nodup (by decide),
      searchEntries_values short⟩
    exact List.mem_append_right ["paths", "root", "display", "colored_output", "search"]
      (keys.subset (List.mem_map_of_mem mem))
  have single {name key : String} {v : Toml.Scalar} (named : Toml.IsBare name)
      (keyed : Toml.IsBare key) (readable : v.IsReadable) :
      Toml.Section.IsReadable ⟨name, [(key, v)]⟩ :=
    ⟨named, List.forall_mem_singleton.2 keyed, List.nodup_singleton key,
      List.forall_mem_singleton.2 readable⟩
  rw [sections, List.forall_mem_append, List.forall_mem_cons, List.forall_mem_singleton]
  refine ⟨⟨single (bare _ (by simp)) (bare _ (by simp)) trivial,
    single (bare _ (by simp)) (bare _ (by simp)) trivial⟩, ?_⟩
  split
  · exact List.forall_mem_nil _
  · exact List.forall_mem_singleton.2 search

/-- **The document of settings is read** as the tables of its sections. -/
theorem read_toText (short : ∀ n ∈ s.limit, Toml.IsShort n) :
    Toml.Document.read s.toText = .ok (Toml.ofTables (s.sections.map Toml.Section.named)) := by
  refine Toml.read_writeDocument (isReadable_of_mem_sections short) ?_
  have names : (s.sections.map (·.name)).Sublist ["paths", "display", "search"] := by
    rw [sections, List.map_append, show ["paths", "display", "search"] =
      ["paths", "display"] ++ ["search"] from rfl]
    refine List.Sublist.append (List.Sublist.refl _) ?_
    split <;> simp
  exact names.nodup (by decide)

/-! ## The settings -/

theorem setting_of_none {α : Type} {name key requirement : String} {read : Toml.Value → Option α}
    {default : α} {t : Toml.Table} (h : entry? t name key = .ok none) :
    setting name key requirement read default t = .ok default := by
  rw [setting, h]
  rfl

theorem setting_of_some {α : Type} {name key requirement : String} {read : Toml.Value → Option α}
    {default a : α} {t : Toml.Table} {v : Toml.Value} (h : entry? t name key = .ok (some v))
    (value : read v = some a) : setting name key requirement read default t = .ok a := by
  rw [setting, h]
  simp only [bind, Except.bind, value]
  rfl

/-- The table of the entries about searches. -/
theorem entry?_search (s : Settings) (key : String) :
    entry? (Toml.ofTables (s.sections.map Toml.Section.named)) "search" key =
      .ok ((s.searchEntries.map fun (k, v) => (k, v.toValue)).lookup key) := by
  rw [ entry?, sections]
  by_cases empty : s.searchEntries = []
  · simp [empty, Toml.ofTables, Toml.Section.named, List.lookup_cons, sectionEntry?]
  · simp [empty, Toml.ofTables, Toml.Section.named, Toml.Section.toTable, List.lookup_cons,
      sectionEntry?]

/-- The value of the mode, which is left out if it is the default. -/
theorem entry?_pathMatch (s : Settings) :
    entry? (Toml.ofTables (s.sections.map Toml.Section.named)) "search" "path_match" =
      .ok (if s.pathMatch = .whole then none else some (.string s.pathMatch.name)) := by
  rw [entry?_search, searchEntries]
  split <;> cases s.limit <;> rfl

/-- The value of the limit, which is left out if there is none. -/
theorem entry?_limit (s : Settings) :
    entry? (Toml.ofTables (s.sections.map Toml.Section.named)) "search" "default_limit" =
      .ok (s.limit.map .integer) := by
  rw [entry?_search, searchEntries]
  split <;> cases s.limit <;> rfl

/-- **Settings are read back from the tables that are written**, if their root is the path of its
text and the base has the defaults of a search. -/
theorem ofTable_sections (root : PathText.ofText s.root.toText = s.root)
    (mode : base.pathMatch = .whole) (limit : base.limit = none) :
    ofTable base (Toml.ofTables (s.sections.map Toml.Section.named)) =
      .ok { s with source := base.source } := by
  have rootEntry : entry? (Toml.ofTables (s.sections.map Toml.Section.named)) "paths" "root" =
      .ok (some (.string s.root.toText)) := rfl
  have coloredEntry : entry? (Toml.ofTables (s.sections.map Toml.Section.named)) "display"
      "colored_output" = .ok (some (.boolean s.colored)) := rfl
  have modeEntry := entry?_pathMatch s
  have limitEntry := entry?_limit s
  generalize Toml.ofTables (s.sections.map Toml.Section.named) = t at *
  have readRoot : setting "paths" "root" "must be a string path"
      (fun v => v.string?.map .ofText) base.root t = .ok s.root :=
    setting_of_some rootEntry (congrArg some root)
  have readColored : setting "display" "colored_output" "must be a boolean"
      Toml.Value.boolean? base.colored t = .ok s.colored := setting_of_some coloredEntry rfl
  have readMode : setting "search" "path_match" ("must be one of " ++ pathMatchNames)
      (fun v => v.string?.bind PathMatch.ofName?) base.pathMatch t = .ok s.pathMatch := by
    split at modeEntry
    · rename_i whole
      rw [setting_of_none modeEntry, mode, whole]
    · exact setting_of_some modeEntry (PathMatch.ofName?_name _)
  have readLimit : setting "search" "default_limit" "must be an integer"
      (fun v => v.integer?.map some) base.limit t = .ok s.limit := by
    cases given : s.limit with
    | none =>
      rw [given] at limitEntry
      rw [setting_of_none limitEntry, limit]
    | some n =>
      rw [given] at limitEntry
      exact setting_of_some limitEntry rfl
  simp only [ofTable, bind, Except.bind, readRoot, readColored, readMode, readLimit]
  rfl

end TagSearch.Settings
