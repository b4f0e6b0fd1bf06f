import TagSearch.Proofs.Settings.Saved

/-!
# What is required of a settings document

Four keys of a document are settings, and each requires values of a kind. The values are looked at
in a fixed order, and the first one that is not as required is reported. The sections of the keys
are supposed to be tables, but that is not looked at: some other sections cannot be searched for a
key, and the rest are passed over.

* `requirements` lists the keys; `Toml.Table.IsMistyped` says that a document is not as required.
* `Requirement.Raises` is the error that a key raises, `FirstRaised` the first one of several.
* `ofTable_eq_error_iff`: the error of a document is the first one that a key raises.
* `wrong_types_are_reported`: wrong values are reported where the sections are tables, and what
  becomes of all other documents.
-/

namespace TagSearch

/-! ## Documents as they are required to be -/

/-- A document gives a key of a section, which is a table, a value. -/
def Toml.Table.Gives (t : Toml.Table) (name key : String) (v : Toml.Value) : Prop :=
  ∃ entries, t.lookup name = some (.table entries) ∧ entries.lookup key = some v

/-- A section of a document is a table, unless it is absent. -/
def Toml.Table.IsTableAt (t : Toml.Table) (name : String) : Prop :=
  ∀ v, t.lookup name = some v → ∃ entries, v = .table entries

/-- A key that is a setting, and the values that it may have. -/
structure Requirement where
  /-- The section of the key. -/
  name : String
  key : String
  /-- What is said about another value. -/
  text : String
  Admits : Toml.Value → Prop

namespace Requirement

/-- The directory is a text. -/
def root : Requirement := ⟨"paths", "root", "must be a string path", fun v => ∃ s, v = .string s⟩

/-- Whether output is coloured is a truth value. -/
def colored : Requirement :=
  ⟨"display", "colored_output", "must be a boolean", fun v => ∃ b, v = .boolean b⟩

/-- How patterns match is the name of a mode. -/
def pathMatch : Requirement :=
  ⟨"search", "path_match", "must be one of exact, prefix, contains",
    fun v => ∃ m : PathMatch, v = .string m.name⟩

/-- The limit is a whole number. -/
def limit : Requirement :=
  ⟨"search", "default_limit", "must be an integer", fun v => ∃ n, v = .integer n⟩

end Requirement

/-- The keys that are settings, in the order in which they are looked at. -/
def requirements : List Requirement := [.root, .colored, .pathMatch, .limit]

/-- A document is not as required: a section with settings is no table, or a key has a value that it
may not have. -/
inductive Toml.Table.IsMistyped (t : Toml.Table) : Prop where
  | noTable {r : Requirement} (mem : r ∈ requirements) (wrong : ¬ t.IsTableAt r.name)
  | value {r : Requirement} {v : Toml.Value} (mem : r ∈ requirements)
      (given : t.Gives r.name r.key v) (wrong : ¬ r.Admits v)

/-! ## Errors -/

/-- A value that is no table cannot be searched for a key. -/
inductive Obstructs (key : String) : Toml.Value → SectionFault → Prop where
  /-- A text in which the key occurs. -/
  | text {s : String} (inside : key.toList <:+: s.toList) : Obstructs key (.string s) .text
  /-- An array with the key for an item. -/
  | array {items : List Toml.Value} (inside : .string key ∈ items) :
    Obstructs key (.array items) .array
  /-- A value without parts. -/
  | noParts {v : Toml.Value} (text : ∀ s, v ≠ .string s) (array : ∀ items, v ≠ .array items)
      (table : ∀ entries, v ≠ .table entries) : Obstructs key v (.noParts v.sort)

/-- The error that a key raises. -/
inductive Requirement.Raises (r : Requirement) (t : Toml.Table) : SettingsError → Prop where
  /-- Its section is no table, and cannot be searched for it. -/
  | noTable {v : Toml.Value} {fault : SectionFault} (found : t.lookup r.name = some v)
      (obstructs : Obstructs r.key v fault) : r.Raises t (.notTable fault)
  /-- It has a value that it may not have. -/
  | invalid {v : Toml.Value} (given : t.Gives r.name r.key v) (wrong : ¬ r.Admits v) :
    r.Raises t (.invalid (r.name ++ "." ++ r.key) r.text)

/-- The first error that is raised by some keys. -/
inductive FirstRaised (t : Toml.Table) (e : SettingsError) : List Requirement → Prop where
  | here {r : Requirement} {rs : List Requirement} (raises : r.Raises t e) : FirstRaised t e (r :: rs)
  | later {r : Requirement} {rs : List Requirement} (quiet : ∀ e', ¬ r.Raises t e')
      (rest : FirstRaised t e rs) : FirstRaised t e (r :: rs)

/-! ## Keys -/

section Keys

variable {key name : String} {t : Toml.Table} {v : Toml.Value} {fault : SectionFault}
  {e : SettingsError}

theorem isInfix_iff {part s : List Char} : isInfix part s = true ↔ part <:+: s := by
  induction s with
  | nil => simp [isInfix]
  | cons c s ih => rw [isInfix, Bool.or_eq_true, ih, List.isPrefixOf_iff_prefix, List.infix_cons_iff]

theorem Obstructs.ne_table (obstructs : Obstructs key v fault) (entries : Toml.Table) :
    v ≠ .table entries := by
  cases obstructs with
  | text | array =>
    intro same
    cases same
  | noParts _ _ table => exact table entries

/-- **What cannot be searched for a key.** -/
theorem sectionEntry?_eq_error_iff :
    sectionEntry? key v = .error e ↔ ∃ fault, Obstructs key v fault ∧ e = .notTable fault := by
  constructor
  · intro failed
    cases v with
    | table entries => cases failed
    | string s =>
      rw [ sectionEntry?] at failed
      split at failed
      · rename_i inside
        exact ⟨.text, .text (isInfix_iff.1 inside), (Except.error.inj failed).symm⟩
      · cases failed
    | array items =>
      rw [ sectionEntry?] at failed
      split at failed
      · rename_i inside
        obtain ⟨item, mem, same⟩ := List.any_eq_true.1 inside
        split at same
        · obtain rfl := beq_iff_eq.1 same
          exact ⟨.array, .array mem, (Except.error.inj failed).symm⟩
        · cases same
      · cases failed
    | integer | real | boolean | moment =>
      exact ⟨_, .noParts (by simp) (by simp) (by simp), (Except.error.inj failed).symm⟩
  · rintro ⟨fault, obstructs, rfl⟩
    cases obstructs with
    | text inside => exact if_pos (isInfix_iff.2 inside)
    | array inside => exact if_pos (List.any_eq_true.2 ⟨_, inside, beq_self_eq_true key⟩)
    | noParts text array table =>
      cases v with
      | string s => exact absurd rfl (text s)
      | array items => exact absurd rfl (array items)
      | table entries => exact absurd rfl (table entries)
      | integer | real | boolean | moment => rfl

/-- Only a table has values. -/
theorem sectionEntry?_eq_some_iff {w : Toml.Value} :
    sectionEntry? key v = .ok (some w) ↔
      ∃ entries, v = .table entries ∧ entries.lookup key = some w := by
  constructor
  · intro found
    cases v with
    | table entries => exact ⟨entries, rfl, Except.ok.inj found⟩
    | string | array =>
      rw [ sectionEntry?] at found
      split at found <;> cases found
    | integer | real | boolean | moment => cases found
  · rintro ⟨entries, rfl, found⟩
    exact congrArg Except.ok found

theorem entry?_eq_error_iff :
    entry? t name key = .error e ↔
      ∃ v fault, t.lookup name = some v ∧ Obstructs key v fault ∧ e = .notTable fault := by
  rw [ entry?, sectionEntry?_eq_error_iff]
  cases t.lookup name with
  | none =>
    simp only [Option.getD_none, reduceCtorEq, false_and, exists_false, iff_false]
    rintro ⟨fault, obstructs, -⟩
    exact obstructs.ne_table [] rfl
  | some v => simp

theorem entry?_eq_some_iff : entry? t name key = .ok (some v) ↔ t.Gives name key v := by
  rw [ entry?, sectionEntry?_eq_some_iff, Toml.Table.Gives]
  cases t.lookup name with
  | none => simp
  | some => simp

end Keys

/-! ## Settings of a document -/

section Documents

variable {α β : Type} {t : Toml.Table} {r : Requirement} {rs : List Requirement} {e : SettingsError}
  {read : Toml.Value → Option α} {default a : α}

/-- The value of a setting is read where the document gives one. -/
theorem setting_eq_ok_iff {name key text : String} :
    setting name key text read default t = .ok a ↔
      (∃ v, t.Gives name key v ∧ read v = some a) ∨
        entry? t name key = .ok none ∧ default = a := by
  rw [setting, bind_eq_ok_iff]
  constructor
  · rintro ⟨entry, found, value⟩
    cases entry with
    | none => exact Or.inr ⟨found, Except.ok.inj value⟩
    | some v =>
      cases known : read v with
      | none => simp [known] at value
      | some b =>
        simp only [known] at value
        exact Or.inl ⟨v, entry?_eq_some_iff.1 found, known.trans (congrArg some (Except.ok.inj value))⟩
  · rintro (⟨v, given, value⟩ | ⟨found, rfl⟩)
    · refine ⟨some v, entry?_eq_some_iff.2 given, ?_⟩
      simp only [value]
      rfl
    · exact ⟨none, found, rfl⟩

/-- **A setting fails as its key does**, if the values that are read are those that the key may
have. -/
theorem setting_eq_error_iff (reads : ∀ v, (read v).isSome ↔ r.Admits v) :
    setting r.name r.key r.text read default t = .error e ↔ r.Raises t e := by
  rw [setting, bind_eq_error_iff, entry?_eq_error_iff]
  constructor
  · rintro (⟨v, fault, found, obstructs, rfl⟩ | ⟨entry, found, value⟩)
    · exact .noTable found obstructs
    · cases entry with
      | none => cases value
      | some v =>
        cases known : read v with
        | some a => simp [known, pure, Except.pure] at value
        | none =>
          simp only [known] at value
          obtain rfl := Except.error.inj value
          refine .invalid (entry?_eq_some_iff.1 found) fun admits => ?_
          simpa [known] using (reads v).2 admits
  · intro raises
    cases raises with
    | noTable found obstructs => exact Or.inl ⟨_, _, found, obstructs, rfl⟩
    | @invalid v given wrong =>
      have unread : read v = none := by
        rw [← Option.not_isSome_iff_eq_none, reads]
        exact wrong
      refine Or.inr ⟨some v, entry?_eq_some_iff.2 given, ?_⟩
      simp only [unread]

theorem firstRaised_cons_iff :
    FirstRaised t e (r :: rs) ↔ r.Raises t e ∨ (∀ e', ¬ r.Raises t e') ∧ FirstRaised t e rs := by
  constructor
  · intro first
    cases first with
    | here raises => exact Or.inl raises
    | later quiet rest => exact Or.inr ⟨quiet, rest⟩
  · rintro (raises | ⟨quiet, rest⟩)
    · exact .here raises
    · exact .later quiet rest

theorem FirstRaised.exists_raises (first : FirstRaised t e rs) : ∃ r ∈ rs, r.Raises t e := by
  induction first with
  | here raises => exact ⟨_, List.mem_cons_self, raises⟩
  | later _ _ ih =>
    obtain ⟨r, mem, raises⟩ := ih
    exact ⟨r, List.mem_cons_of_mem _ mem, raises⟩

/-- Where some key raises an error, there is a first one. -/
theorem exists_firstRaised (mem : r ∈ rs) (raises : r.Raises t e) : ∃ e', FirstRaised t e' rs := by
  induction rs with
  | nil => cases mem
  | cons r' rs ih =>
    by_cases first : ∃ e', r'.Raises t e'
    · obtain ⟨e', raises'⟩ := first
      exact ⟨e', .here raises'⟩
    · rcases List.mem_cons.1 mem with rfl | mem
      · exact absurd ⟨e, raises⟩ first
      · obtain ⟨e', rest⟩ := ih mem
        exact ⟨e', .later (not_exists.1 first) rest⟩

/-- One more setting is read, before others whose errors do not depend on it. -/
theorem bind_eq_error_iff_firstRaised {x : Except SettingsError α}
    {f : α → Except SettingsError β} (here : ∀ e, x = .error e ↔ r.Raises t e)
    (later : ∀ a, f a = .error e ↔ FirstRaised t e rs) :
    x >>= f = .error e ↔ FirstRaised t e (r :: rs) := by
  rw [bind_eq_error_iff, firstRaised_cons_iff, here]
  refine or_congr_right ?_
  cases x with
  | error e' =>
    have raises := (here e').1 rfl
    simpa using fun quiet => absurd raises (quiet e')
  | ok a =>
    have quiet (e') : ¬ r.Raises t e' := by
      intro raises
      cases (here e').2 raises
    simp [later a, quiet]

end Documents

/-- A key raises an error only on a document that is not as required. -/
theorem Requirement.Raises.isMistyped {t : Toml.Table} {r : Requirement} {e : SettingsError}
    (mem : r ∈ requirements) (raises : r.Raises t e) : t.IsMistyped := by
  cases raises with
  | noTable found obstructs =>
    refine .noTable mem fun table => ?_
    obtain ⟨entries, same⟩ := table _ found
    exact obstructs.ne_table entries same
  | invalid given wrong => exact .value mem given wrong

/-- Where the sections are tables, a key raises an error only about its value. -/
theorem Requirement.Raises.invalid_of_isTableAt {t : Toml.Table} {r : Requirement}
    {e : SettingsError} (raises : r.Raises t e) (table : t.IsTableAt r.name) :
    ∃ v, t.Gives r.name r.key v ∧ ¬ r.Admits v ∧ e = .invalid (r.name ++ "." ++ r.key) r.text := by
  cases raises with
  | noTable found obstructs =>
    obtain ⟨entries, same⟩ := table _ found
    exact absurd same (obstructs.ne_table entries)
  | invalid given wrong => exact ⟨_, given, wrong, rfl⟩

/-- A key of a document that is not as required raises an error, if the sections are tables. -/
theorem Toml.Table.IsMistyped.exists_firstRaised {t : Toml.Table} (mistyped : t.IsMistyped)
    (tables : ∀ r ∈ requirements, t.IsTableAt r.name) : ∃ e, FirstRaised t e requirements := by
  cases mistyped with
  | noTable mem wrong => exact absurd (tables _ mem) wrong
  | value mem given wrong => exact TagSearch.exists_firstRaised mem (.invalid given wrong)

/-! ## The settings -/

namespace Settings

variable {h : Host} {file : Option PathText} {path : PathText} {text : String} {base s : Settings}
  {t : Toml.Table} {e : SettingsError}

theorem text_pathMatch : Requirement.pathMatch.text = "must be one of " ++ pathMatchNames := rfl

theorem string?_eq_some_iff {v : Toml.Value} {s : String} :
    v.string? = some s ↔ v = .string s := by
  cases v <;> simp [Toml.Value.string?]

theorem boolean?_eq_some_iff {v : Toml.Value} {b : Bool} :
    v.boolean? = some b ↔ v = .boolean b := by
  cases v <;> simp [Toml.Value.boolean?]

theorem integer?_eq_some_iff {v : Toml.Value} {n : Int} :
    v.integer? = some n ↔ v = .integer n := by
  cases v <;> simp [Toml.Value.integer?]

theorem ofName?_eq_some_iff {word : String} {m : PathMatch} :
    PathMatch.ofName? word = some m ↔ word = m.name := by
  constructor
  · intro found
    exact (beq_iff_eq.1 (List.find?_some found :)).symm
  · rintro rfl
    exact PathMatch.ofName?_name m

theorem reads_root (v : Toml.Value) :
    (v.string?.map PathText.ofText).isSome ↔ Requirement.root.Admits v := by
  simp [Option.isSome_iff_exists, string?_eq_some_iff, Requirement.root]

theorem reads_colored (v : Toml.Value) : v.boolean?.isSome ↔ Requirement.colored.Admits v := by
  simp [Option.isSome_iff_exists, boolean?_eq_some_iff, Requirement.colored]

theorem reads_pathMatch (v : Toml.Value) :
    (v.string?.bind PathMatch.ofName?).isSome ↔ Requirement.pathMatch.Admits v := by
  simp only [Option.isSome_iff_exists, Option.bind_eq_some_iff, string?_eq_some_iff,
    ofName?_eq_some_iff, Requirement.pathMatch]
  constructor
  · rintro ⟨m, word, rfl, rfl⟩
    exact ⟨m, rfl⟩
  · rintro ⟨m, rfl⟩
    exact ⟨m, _, rfl, rfl⟩

theorem reads_limit (v : Toml.Value) :
    (v.integer?.map some).isSome ↔ Requirement.limit.Admits v := by
  simp [Option.isSome_iff_exists, integer?_eq_some_iff, Requirement.limit]

/-- **The error of a document** is the first one that a key raises. -/
theorem ofTable_eq_error_iff : ofTable base t = .error e ↔ FirstRaised t e requirements := by
  rw [ofTable, ← text_pathMatch]
  refine bind_eq_error_iff_firstRaised (fun e => setting_eq_error_iff reads_root) fun _ => ?_
  refine bind_eq_error_iff_firstRaised (fun e => setting_eq_error_iff reads_colored) fun _ => ?_
  refine bind_eq_error_iff_firstRaised (fun e => setting_eq_error_iff reads_pathMatch) fun _ => ?_
  refine bind_eq_error_iff_firstRaised (fun e => setting_eq_error_iff reads_limit) fun _ => ?_
  constructor <;> intro failed <;> cases failed

/-- **The limit of settings that are read**, where there is none by default. -/
theorem limit_of_ofTable (fromTable : ofTable base t = .ok s) (unlimited : base.limit = none)
    (n : Int) : s.limit = some n ↔ t.Gives "search" "default_limit" (.integer n) := by
  rw [ofTable] at fromTable
  obtain ⟨root, -, fromTable⟩ := bind_eq_ok_iff.1 fromTable
  obtain ⟨colored, -, fromTable⟩ := bind_eq_ok_iff.1 fromTable
  obtain ⟨pathMatch, -, fromTable⟩ := bind_eq_ok_iff.1 fromTable
  obtain ⟨limit, limitRead, fromTable⟩ := bind_eq_ok_iff.1 fromTable
  obtain rfl := Except.ok.inj fromTable
  show limit = some n ↔ _
  rcases setting_eq_ok_iff.1 limitRead with ⟨v, given, value⟩ | ⟨absent, rfl⟩
  · obtain ⟨m, whole, rfl⟩ := Option.map_eq_some_iff.1 value
    obtain rfl := integer?_eq_some_iff.1 whole
    constructor
    · rintro ⟨⟩
      exact given
    · intro given'
      have same := (entry?_eq_some_iff.2 given).symm.trans (entry?_eq_some_iff.2 given')
      cases same
      rfl
  · rw [unlimited]
    constructor
    · rintro ⟨⟩
    · intro given
      cases absent.symm.trans (entry?_eq_some_iff.2 given)

/-! ## Files -/

/-- The file that settings are loaded from, with its text. -/
structure FileHolds (h : Host) (file : Option PathText) (path : PathText) (text : String) :
    Prop where
  resolved : h.resolve (file.getD (defaultFile h)) = .ok path
  found : h.disk.find? h.cwd path = .ok (some (.file (.text text)))

section Loading

variable (holds : FileHolds h file path text)
include holds

/-- A text that cannot be read as a document. -/
theorem load_of_read_error {fault : Toml.Error} (unread : Toml.Document.read text = .error fault) :
    load h file = .error (match fault with
      | .malformed => .malformed path
      | .tooManyDigits count => .tooManyDigits count
      | .tooDeep => .tooDeep) := by
  rw [load, Settings.read, holds.resolved]
  simp only [bind, Except.bind, Except.mapError, holds.found, readFile, unread]
  cases fault <;> rfl

/-- The settings of a document are read and checked. -/
theorem load_of_read (read : Toml.Document.read text = .ok t) :
    load h file =
      ofTable { default h.cwd with source := some path } t >>= fun s => s.check h := by
  rw [load, Settings.read, holds.resolved]
  simp only [bind, Except.bind, Except.mapError, holds.found, readFile, read]
  cases ofTable { default h.cwd with source := some path } t with
  | error e => rfl
  | ok s =>
    dsimp only [pure, Except.pure]
    cases s.check h <;> rfl

/-- **The first error that a key raises is reported.** -/
theorem load_of_firstRaised (read : Toml.Document.read text = .ok t)
    (first : FirstRaised t e requirements) : load h file = .error e := by
  rw [load_of_read holds read, bind_eq_error_iff]
  exact Or.inl (ofTable_eq_error_iff.2 first)

/-- **Settings are read where no key raises an error.** -/
theorem load_of_quiet (read : Toml.Document.read text = .ok t)
    (quiet : ∀ e, ¬ FirstRaised t e requirements) :
    ∃ s, ofTable { default h.cwd with source := some path } t = .ok s ∧
      load h file = s.check h := by
  cases settings : ofTable { default h.cwd with source := some path } t with
  | error e => exact absurd (ofTable_eq_error_iff.1 settings) (quiet e)
  | ok s =>
    refine ⟨s, rfl, ?_⟩
    rw [load_of_read holds read, settings]
    rfl

end Loading

/-- A check fails about the path of the root only. -/
theorem check_eq_error (failed : s.check h = .error e) :
    (∃ fault, e = .path fault) ∨ ∃ fault, e = .file fault := by
  rw [check, bind_eq_error_iff] at failed
  rcases failed with failed | ⟨root, -, failed⟩
  · obtain ⟨fault, -, rfl⟩ := mapError_eq_error_iff.1 failed
    exact Or.inl ⟨fault, rfl⟩
  · rcases bind_eq_error_iff.1 failed with failed | ⟨warnings, -, failed⟩
    · obtain ⟨fault, -, rfl⟩ := mapError_eq_error_iff.1 failed
      exact Or.inr ⟨fault, rfl⟩
    · cases failed

/-- A check keeps a limit that is positive. -/
theorem limit_of_check {c : Settings} {w : List SettingsWarning} (checked : s.check h = .ok (c, w))
    (n : Int) : c.limit = some n ↔ s.limit = some n ∧ 0 < n := by
  obtain ⟨root, doubts, -, -, rfl, -⟩ := check_eq_ok_iff.1 checked
  exact Option.filter_eq_some_iff.trans (and_congr_right' decide_eq_true_iff)

/-- **Wrong types are reported** where the sections with settings are tables. Let the file that
settings are loaded from hold a text.

* A text that is no document, or is one that is too long or too deep to be read, is reported as
  that. All else is about a document `t` that is read.
* If the sections are tables and the document is not as required, then the error names a key with a
  value that it may not have, and says what is required of it.
* If the document is as required, then no key raises an error.
* If some keys raise an error, whatever the sections are, then the first one is reported.
* If no key raises one, the settings are read and checked. Their limit is that of the document if it
  is positive, and there is none otherwise. Only the path of the root can still be in the way. -/
theorem wrong_types_are_reported (holds : FileHolds h file path text) :
    (Toml.Document.read text = .error .malformed → load h file = .error (.malformed path)) ∧
    (∀ count, Toml.Document.read text = .error (.tooManyDigits count) →
      load h file = .error (.tooManyDigits count)) ∧
    (Toml.Document.read text = .error .tooDeep → load h file = .error .tooDeep) ∧
    ∀ t, Toml.Document.read text = .ok t →
      ((∀ r ∈ requirements, t.IsTableAt r.name) → t.IsMistyped →
        ∃ r ∈ requirements, ∃ v, t.Gives r.name r.key v ∧ ¬ r.Admits v ∧
          load h file = .error (.invalid (r.name ++ "." ++ r.key) r.text)) ∧
      (¬ t.IsMistyped → ∀ e, ¬ FirstRaised t e requirements) ∧
      (∀ e, FirstRaised t e requirements → load h file = .error e) ∧
      ((∀ e, ¬ FirstRaised t e requirements) →
        ∃ s, ofTable { default h.cwd with source := some path } t = .ok s ∧
          load h file = s.check h ∧
          (∀ c w, load h file = .ok (c, w) → ∀ n, c.limit = some n ↔
            t.Gives "search" "default_limit" (.integer n) ∧ 0 < n) ∧
          ∀ e, load h file = .error e → (∃ fault, e = .path fault) ∨ ∃ fault, e = .file fault) := by
  refine ⟨load_of_read_error holds, fun _ => load_of_read_error holds, load_of_read_error holds,
    fun t read => ⟨fun tables mistyped => ?_, fun typed e first => ?_,
      fun e => load_of_firstRaised holds read, fun quiet => ?_⟩⟩
  · obtain ⟨e, first⟩ := mistyped.exists_firstRaised tables
    obtain ⟨r, mem, raises⟩ := first.exists_raises
    obtain ⟨v, given, wrong, rfl⟩ := raises.invalid_of_isTableAt (tables r mem)
    exact ⟨r, mem, v, given, wrong, load_of_firstRaised holds read first⟩
  · obtain ⟨r, mem, raises⟩ := first.exists_raises
    exact typed (raises.isMistyped mem)
  · obtain ⟨s, fromTable, loaded⟩ := load_of_quiet holds read quiet
    refine ⟨s, fromTable, loaded, fun c w result n => ?_, fun e result => ?_⟩
    · rw [limit_of_check (loaded.symm.trans result), limit_of_ofTable fromTable rfl]
    · exact check_eq_error (loaded.symm.trans result)

/-- The root is a number. -/
theorem wrong_types_are_reported_root :
    let text := "[paths]\nroot = 42\n"
    FileHolds (fileHost text) (some (.ofText "/a")) ⟨.top, ["a"]⟩ text ∧
      load (fileHost text) (some (.ofText "/a")) =
        .error (.invalid "paths.root" "must be a string path") := by
  intro text
  have holds : FileHolds (fileHost text) (some (.ofText "/a")) ⟨.top, ["a"]⟩ text :=
    ⟨by cbv, by cbv⟩
  have read : Toml.Document.read text = .ok [("paths", .table [("root", .integer 42)])] := by cbv
  obtain ⟨-, -, -, documents⟩ := wrong_types_are_reported holds
  obtain ⟨-, -, first, -⟩ := documents _ read
  have wrong : ¬ Requirement.root.Admits (.integer 42) := by simp [Requirement.root]
  exact ⟨holds, first _ (.here (.invalid ⟨_, rfl, rfl⟩ wrong))⟩

/-- **Other sections are not reported as wrong**: a number for a section ends in another error, and an
empty text is accepted. -/
theorem untabled_sections_are_not_reported :
    (∃ t, Toml.Document.read "paths = 5\n" = .ok t ∧ t.IsMistyped ∧
      load (fileHost "paths = 5\n") (some (.ofText "/a")) = .error (.notTable (.noParts "int"))) ∧
    ∃ t, Toml.Document.read "paths = \"\"\n" = .ok t ∧ t.IsMistyped ∧
      load (fileHost "paths = \"\"\n") (some (.ofText "/a")) =
        .ok ({ default [] with source := some ⟨.top, ["a"]⟩ }, []) := by
  have noTable {v : Toml.Value} (other : ∀ entries, v ≠ .table entries) :
      Toml.Table.IsMistyped [("paths", v)] := by
    refine .noTable (r := .root) List.mem_cons_self fun table => ?_
    obtain ⟨entries, same⟩ := table v rfl
    exact other entries same
  exact ⟨⟨[("paths", .integer 5)], by cbv, noTable (by simp), by cbv⟩,
    ⟨[("paths", .string "")], by cbv, noTable (by simp), by cbv⟩⟩

end Settings

end TagSearch
