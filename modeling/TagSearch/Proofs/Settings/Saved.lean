import TagSearch.Proofs.Disk.Resolve
import TagSearch.Proofs.Settings.Documents
import TagSearch.Settings.File

/-!
# Saved settings

Settings that were loaded are saved and loaded again. Their root was resolved, so it resolves to
itself as long as it passes through no link, and only links in a cycle can leave one on the way.
Saving makes directories and a file, so that links and resolved paths stay what they were.

* `Host.Sound`: a host whose disk and current directory can be those of one.
* `Settings.Settled`: settings that a check leaves as they are.
* `Settings.load_of_saved`: what is loaded from the file that settled settings are saved to.
* `Settings.loaded_survives_save`: loaded settings survive being saved.
* `Settings.not_all_settings_survive_save`: what can become of the others.
-/

namespace TagSearch

/-! ## Hosts -/

/-- A host as it can be: its disk is one that can be, and its current directory is on it. -/
structure Host.Sound (h : Host) : Prop where
  disk : h.disk.Sound
  cwd : h.disk.kind? h.cwd = some true

namespace Host

variable {h h' : Host} {p q : PathText}

theorem expandHome_of_isAbsolute (absolute : p.isAbsolute = true) : h.expandHome p = .ok p := by
  obtain ⟨anchor, parts⟩ := p
  cases anchor with
  | none => cases absolute
  | top | doubleTop => rfl

/-- A home directory is a path of a text, so that its names are those of one. -/
theorem isPart_of_expandHome (expanded : h.expandHome p = .ok q)
    (written : ∀ name ∈ p.parts, IsPart name) : ∀ name ∈ q.parts, IsPart name := by
  rw [expandHome] at expanded
  split at expanded
  · rename_i first rest _ parts
    rw [parts] at written
    split at expanded
    · split at expanded
      · rename_i dir home
        obtain rfl := Except.ok.inj expanded
        have dirParts : ∀ name ∈ dir.parts, IsPart name := by
          rw [homeOf] at home
          split at home
          · obtain rfl := Option.some.inj home
            exact fun name mem => PathText.isPart_of_mem_ofText mem
          · obtain ⟨text, -, rfl⟩ := Option.map_eq_some_iff.1 home
            exact fun name mem => PathText.isPart_of_mem_ofText mem
        exact List.forall_mem_append.2 ⟨dirParts, (List.forall_mem_cons.1 written).2⟩
      · cases expanded
    · obtain rfl := Except.ok.inj expanded
      rwa [parts]
  · obtain rfl := Except.ok.inj expanded
    exact written

theorem resolve_eq_ok_iff :
    h.resolve p = .ok q ↔ ∃ e, h.expandHome p = .ok e ∧ h.disk.resolve h.cwd e = .ok q := by
  rw [resolve, bind_eq_ok_iff]
  simp only [mapError_eq_ok_iff]

theorem write_eq_ok_iff {content : Content} :
    h.write p content = .ok h' ↔
      ∃ disk, h.disk.writeAt h.cwd p content false = .ok disk ∧ h' = { h with disk } := by
  rw [write]
  cases h.disk.writeAt h.cwd p content false <;> simp [eq_comm]

/-- **A resolved path** starts at a top, and its names can be names of entries. -/
theorem Sound.isName_of_resolve (sound : h.Sound) (written : ∀ name ∈ p.parts, IsPart name)
    (resolved : h.resolve p = .ok q) :
    q.isAbsolute = true ∧ ∀ name ∈ q.parts, Node.IsName name := by
  obtain ⟨e, expanded, resolved⟩ := resolve_eq_ok_iff.1 resolved
  exact Node.isName_of_resolve sound.disk sound.cwd (isPart_of_expandHome expanded written) resolved

/-- A path that passes through no link resolves to itself. -/
theorem resolve_of_isDirect (direct : h.disk.IsDirect p)
    (named : ∀ name ∈ p.parts, Node.IsName name) : h.resolve p = .ok p := by
  have absolute : p.isAbsolute = true := by rw [PathText.isAbsolute, direct.top]; rfl
  exact resolve_eq_ok_iff.2
    ⟨p, expandHome_of_isAbsolute absolute, Node.resolve_of_isDirect direct named⟩

end Host

/-! ## Loading -/

namespace Settings

variable {h h' : Host} {s c : Settings} {file : Option PathText} {path : PathText}
  {w : List SettingsWarning}

theorem root_of_ofTable {base : Settings} {t : Toml.Table} (read : ofTable base t = .ok s) :
    s.root = base.root ∨ ∃ text, s.root = .ofText text := by
  rw [ofTable] at read
  obtain ⟨root, rootRead, read⟩ := bind_eq_ok_iff.1 read
  obtain ⟨colored, -, read⟩ := bind_eq_ok_iff.1 read
  obtain ⟨pathMatch, -, read⟩ := bind_eq_ok_iff.1 read
  obtain ⟨limit, -, read⟩ := bind_eq_ok_iff.1 read
  obtain rfl := Except.ok.inj read
  obtain ⟨entry, -, rootRead⟩ := bind_eq_ok_iff.1 rootRead
  split at rootRead
  · exact Or.inl (Except.ok.inj rootRead).symm
  · split at rootRead
    · rename_i value
      obtain ⟨text, -, rfl⟩ := Option.map_eq_some_iff.1 value
      exact Or.inr ⟨text, (Except.ok.inj rootRead).symm⟩
    · cases rootRead

/-- The names of a root as it is written. -/
theorem isPart_of_read (sound : h.Sound) (read : Settings.read h file = .ok (s, w)) :
    ∀ name ∈ s.root.parts, IsPart name := by
  have current : ∀ name ∈ h.cwd, IsPart name := fun name mem =>
    (sound.disk.proper.isName sound.cwd name mem).isPart
  rw [Settings.read] at read
  obtain ⟨path, -, read⟩ := bind_eq_ok_iff.1 read
  obtain ⟨found, -, read⟩ := bind_eq_ok_iff.1 read
  split at read
  · obtain ⟨t, -, read⟩ := bind_eq_ok_iff.1 read
    obtain ⟨s', fromTable, read⟩ := bind_eq_ok_iff.1 read
    obtain ⟨rfl, -⟩ := Prod.mk.inj (Except.ok.inj read)
    rcases root_of_ofTable fromTable with same | ⟨text, same⟩
    · rw [same]
      exact current
    · rw [same]
      exact fun name mem => PathText.isPart_of_mem_ofText mem
  · obtain ⟨rfl, -⟩ := Prod.mk.inj (Except.ok.inj read)
    exact current

theorem check_eq_ok_iff :
    s.check h = .ok (c, w) ↔ ∃ root doubts, h.resolve s.root = .ok root ∧
      rootWarnings h root = .ok doubts ∧ c = { s with root, limit := positiveLimit s.limit } ∧
      w = doubts ++ limitWarnings s.limit := by
  rw [check]
  simp only [bind_eq_ok_iff, mapError_eq_ok_iff]
  constructor
  · rintro ⟨root, resolved, doubts, warned, done⟩
    obtain ⟨rfl, rfl⟩ := Prod.mk.inj (Except.ok.inj done)
    exact ⟨root, doubts, resolved, warned, rfl, rfl⟩
  · rintro ⟨root, doubts, resolved, warned, rfl, rfl⟩
    exact ⟨root, resolved, doubts, warned, rfl⟩

theorem load_eq_ok_iff :
    load h file = .ok (c, w) ↔ ∃ s doubts w', Settings.read h file = .ok (s, doubts) ∧
      s.check h = .ok (c, w') ∧ w = doubts ++ w' := by
  rw [load]
  constructor
  · intro loaded
    obtain ⟨⟨s, doubts⟩, read, loaded⟩ := bind_eq_ok_iff.1 loaded
    obtain ⟨⟨c', w'⟩, checked, done⟩ := bind_eq_ok_iff.1 loaded
    obtain ⟨rfl, rfl⟩ := Prod.mk.inj (Except.ok.inj done)
    exact ⟨s, doubts, w', read, checked, rfl⟩
  · rintro ⟨s, doubts, w', read, checked, rfl⟩
    rw [read]
    simp only [bind, Except.bind, checked]
    rfl

/-- The root can be looked up, or there are no warnings about it. -/
theorem rootWarnings_eq_ok {root : PathText} {doubts : List SettingsWarning}
    (warned : rootWarnings h root = .ok doubts) :
    (∃ n, h.disk.find? h.cwd root = .ok n) ∧ ∀ n, SettingsWarning.limitIgnored n ∉ doubts := by
  rw [rootWarnings] at warned
  obtain ⟨found, lookup, warned⟩ := bind_eq_ok_iff.1 warned
  refine ⟨⟨found, lookup⟩, fun n mem => ?_⟩
  cases found with
  | none =>
    obtain rfl := Except.ok.inj warned
    simp at mem
  | some node =>
    obtain rfl := Except.ok.inj warned
    split at mem <;> simp at mem

theorem exists_rootWarnings {root : PathText} (lookup : ∃ n, h.disk.find? h.cwd root = .ok n) :
    ∃ doubts, rootWarnings h root = .ok doubts := by
  obtain ⟨found, lookup⟩ := lookup
  rw [rootWarnings, lookup]
  cases found <;> exact ⟨_, rfl⟩

theorem pos_of_mem_positiveLimit {limit : Option Int} : ∀ n ∈ positiveLimit limit, 0 < n :=
  fun _ mem => of_decide_eq_true (Option.filter_eq_some_iff.1 mem).2

/-- A positive limit is kept, without a warning. -/
theorem limit_of_pos {limit : Option Int} (positive : ∀ n ∈ limit, 0 < n) :
    positiveLimit limit = limit ∧ limitWarnings limit = [] := by
  cases limit with
  | none => exact ⟨rfl, rfl⟩
  | some n =>
    have pos := positive n rfl
    exact ⟨Option.filter_eq_some_iff.2 ⟨rfl, decide_eq_true pos⟩, if_pos pos⟩

/-! ## Settings that a check leaves as they are -/

/-- Settings whose root passes through no link and has names that entries can have, and whose limit
is positive. -/
structure Settled (h : Host) (c : Settings) : Prop where
  direct : h.disk.IsDirect c.root
  named : ∀ name ∈ c.root.parts, Node.IsName name
  positive : ∀ n ∈ c.limit, 0 < n

/-- **A check leaves settled settings as they are** and does not warn about their limit, if their
root can be looked up. -/
theorem Settled.check (settled : Settled h c)
    (lookup : ∃ n, h.disk.find? h.cwd c.root = .ok n) :
    ∃ w, c.check h = .ok (c, w) ∧ ∀ n, SettingsWarning.limitIgnored n ∉ w := by
  obtain ⟨doubts, warned⟩ := exists_rootWarnings lookup
  obtain ⟨limit, quiet⟩ := limit_of_pos settled.positive
  refine ⟨doubts, check_eq_ok_iff.2 ⟨c.root, doubts,
    Host.resolve_of_isDirect settled.direct settled.named, warned, ?_, ?_⟩,
    (rootWarnings_eq_ok warned).2⟩
  · rw [limit]
  · rw [quiet, List.append_nil]

/-- Settled settings stay so on a disk with the same links, whatever their source. -/
theorem Settled.of_sameLinks (settled : Settled h c) (same : h.disk.SameLinks h'.disk)
    (source : Option PathText) : Settled h' { c with source } :=
  ⟨⟨settled.direct.top, settled.direct.linkless.congr same⟩, settled.named, settled.positive⟩

/-- The root of settled settings is the path of its text. -/
theorem Settled.ofText_root (settled : Settled h c) : PathText.ofText c.root.toText = c.root :=
  PathText.ofText_toText fun name mem => (settled.named name mem).isPart

/-- Loaded settings are settled if their root passes through no link. -/
theorem Settled.of_load (sound : h.Sound) (loaded : load h file = .ok (c, w))
    (direct : h.disk.IsDirect c.root) : Settled h c := by
  obtain ⟨s, doubts, w', read, checked, -⟩ := load_eq_ok_iff.1 loaded
  obtain ⟨root, doubts', resolved, -, rfl, -⟩ := check_eq_ok_iff.1 checked
  have named := (sound.isName_of_resolve (isPart_of_read sound read) resolved).2
  exact ⟨direct, named, pos_of_mem_positiveLimit⟩

/-! ## Saving -/

theorem save_eq_ok_iff {target : PathText} :
    save h s (some target) = .ok (h', path) ↔
      h.resolve target = .ok path ∧ h.write path (.text s.toText) = .ok h' := by
  rw [save, bind_eq_ok_iff]
  simp only [mapError_eq_ok_iff, Option.orElse_some, Option.getD_some]
  constructor
  · rintro ⟨path', resolved, saved⟩
    obtain ⟨h'', written, done⟩ := bind_eq_ok_iff.1 saved
    obtain ⟨rfl, rfl⟩ := Prod.mk.inj (Except.ok.inj done)
    exact ⟨resolved, mapError_eq_ok_iff.1 written⟩
  · rintro ⟨resolved, written⟩
    refine ⟨path, resolved, ?_⟩
    rw [written]
    rfl

/-- **Saving adds to the disk**, and the file is found where the settings were saved to. -/
theorem of_save (sound : h.Sound) {target : String}
    (saved : save h s (some (.ofText target)) = .ok (h', path)) :
    ∃ disk', h' = { h with disk := disk' } ∧ h.disk.Grows disk' ∧
      h'.resolve (.ofText target) = .ok path ∧
      disk'.find? h.cwd path = .ok (some (.file (.text s.toText))) := by
  obtain ⟨resolved, written⟩ := save_eq_ok_iff.1 saved
  obtain ⟨disk', write, rfl⟩ := Host.write_eq_ok_iff.1 written
  obtain ⟨absolute, named⟩ :=
    sound.isName_of_resolve (fun name mem => PathText.isPart_of_mem_ofText mem) resolved
  obtain ⟨grown, place, led, there⟩ := Node.writeAt_eq_ok sound.disk sound.cwd named write
  refine ⟨disk', rfl, grown, ?_, by simp [Node.find?, Node.stat, led, there, bind, Except.bind]⟩
  obtain ⟨e, expanded, resolved⟩ := Host.resolve_eq_ok_iff.1 resolved
  exact Host.resolve_eq_ok_iff.2 ⟨e, expanded,
    Node.resolve_of_grows sound.disk grown resolved absolute led (by rw [there]; rfl)⟩

/-- **Settings are read from a file that they are written in**, with the file as their source. -/
theorem read_of_found {target : PathText} (resolved : h.resolve target = .ok path)
    (found : h.disk.find? h.cwd path = .ok (some (.file (.text s.toText))))
    (root : PathText.ofText s.root.toText = s.root) (short : ∀ n ∈ s.limit, Toml.IsShort n) :
    Settings.read h (some target) = .ok ({ s with source := some path }, []) := by
  have content : readFile path (.file (.text s.toText)) =
      .ok (Toml.ofTables (s.sections.map Toml.Section.named)) := by
    rw [readFile, read_toText short]
    rfl
  have same : ofTable { default h.cwd with source := some path }
      (Toml.ofTables (s.sections.map Toml.Section.named)) =
      .ok { s with source := some path } := ofTable_sections root rfl rfl
  rw [Settings.read, Option.getD_some, resolved]
  simp only [bind, Except.bind, Except.mapError, found, content, same]
  rfl

/-- **What is loaded from the file that settled settings are saved to**: the settings, with the file
as their source. -/
theorem load_of_saved (sound : h.Sound) (settled : Settled h c) {target : String}
    (saved : save h c (some (.ofText target)) = .ok (h', path))
    (lookup : ∃ n, h'.disk.find? h'.cwd c.root = .ok n) (short : ∀ n ∈ c.limit, Toml.IsShort n) :
    ∃ w, load h' (some (.ofText target)) = .ok ({ c with source := some path }, w) ∧
      ∀ n, SettingsWarning.limitIgnored n ∉ w := by
  obtain ⟨disk', rfl, grown, resolved, found⟩ := of_save sound saved
  have settled' : Settled { h with disk := disk' } { c with source := some path } :=
    settled.of_sameLinks grown.links _
  have read := read_of_found resolved found settled.ofText_root short
  obtain ⟨w, checked, quiet⟩ := settled'.check lookup
  exact ⟨w, load_eq_ok_iff.2 ⟨_, [], w, read, checked, rfl⟩, quiet⟩

/-- Settled settings are not loaded from the file that they are saved to if their root cannot be
looked up any more. -/
theorem load_of_saved_error (sound : h.Sound) (settled : Settled h c) {target : String}
    (saved : save h c (some (.ofText target)) = .ok (h', path)) {fault : FileFault}
    (lookup : h'.disk.find? h'.cwd c.root = .error fault) (short : ∀ n ∈ c.limit, Toml.IsShort n) :
    load h' (some (.ofText target)) = .error (.file fault) := by
  obtain ⟨disk', rfl, grown, resolved, found⟩ := of_save sound saved
  have settled' : Settled { h with disk := disk' } { c with source := some path } :=
    settled.of_sameLinks grown.links _
  have read := read_of_found resolved found settled.ofText_root short
  have root := Host.resolve_of_isDirect settled'.direct settled'.named
  have refused : rootWarnings { h with disk := disk' } c.root = .error fault := by
    rw [rootWarnings, lookup]
    rfl
  rw [load, read]
  simp only [bind, Except.bind, check, root, refused, Except.mapError]

/-- Resolving the root of settings as they are written runs into links in a cycle. -/
def RootMeetsCycle (h : Host) (s : Settings) : Prop :=
  ∃ root, h.expandHome s.root = .ok root ∧ h.disk.MeetsCycle h.cwd root

/-- **Loaded settings survive being saved.** Their root passes through no link, unless resolving it
ran into links in a cycle; and if it passes through none, then what is loaded from the file that the
settings were saved to are the same settings, without a warning about their limit. For this it must
be possible to look the root up after the save, which is so if no name in it is too long, and the
limit must have no more digits than are read. -/
theorem loaded_survives_save (sound : h.Sound) (loaded : load h file = .ok (c, w)) :
    (∀ s doubts, Settings.read h file = .ok (s, doubts) → ¬ s.RootMeetsCycle h →
      h.disk.IsDirect c.root) ∧
    ∀ target h' path, save h c (some (.ofText target)) = .ok (h', path) → h.disk.IsDirect c.root →
      ((∀ name ∈ c.root.parts, isNameTooLong name = false) →
        ∃ n, h'.disk.find? h'.cwd c.root = .ok n) ∧
      ((∃ n, h'.disk.find? h'.cwd c.root = .ok n) → (∀ n ∈ c.limit, Toml.IsShort n) →
        ∃ w', load h' (some (.ofText target)) = .ok ({ c with source := some path }, w') ∧
          ∀ n, SettingsWarning.limitIgnored n ∉ w') := by
  obtain ⟨s, doubts, w', read, checked, -⟩ := load_eq_ok_iff.1 loaded
  obtain ⟨root, doubts', resolved, warned, same, -⟩ := check_eq_ok_iff.1 checked
  constructor
  · intro s' _ read' straight
    obtain ⟨rfl, -⟩ := Prod.mk.inj (Except.ok.inj (read.symm.trans read'))
    obtain ⟨e, expanded, resolved⟩ := Host.resolve_eq_ok_iff.1 resolved
    have written := Host.isPart_of_expandHome expanded (isPart_of_read sound read)
    rw [same]
    exact Node.isDirect_of_resolve sound.disk sound.cwd written resolved
      fun cycle => straight ⟨e, expanded, cycle⟩
  · intro target h' path saved direct
    have settled := Settled.of_load sound loaded direct
    refine ⟨fun names => ?_, fun lookup short => load_of_saved sound settled saved lookup short⟩
    obtain ⟨n, lookup⟩ := (rootWarnings_eq_ok warned).1
    obtain ⟨disk', rfl, grown, -, -⟩ := of_save sound saved
    have fits : isPathTooLong c.root.toText = false := by
      rw [same]
      exact Node.isPathTooLong_of_find? lookup
    have top := Node.kind?_of_isPrefix (grown.dirs _ sound.cwd) List.nil_prefix
    exact Node.exists_find?_of_isDirect top ⟨direct.top, direct.linkless.congr grown.links⟩
      settled.named names fits h.cwd

/-! ### Particular settings -/

/-- A host whose current directory is the top. -/
def topHost (entries : List (String × Node Content)) : Host := ⟨.dir entries, [], "/", []⟩

/-- A host with settings in a file. -/
def fileHost (text : String) : Host := topHost [("a", .file (.text text))]

theorem links_fileHost (text : String) : (fileHost text).disk.links = [] := by cbv

theorem sound_fileHost (text : String) : (fileHost text).Sound := by
  have proper : (fileHost text).disk.Proper := by
    simp [fileHost, topHost, Node.proper_dir_iff, Node.IsName]
  exact ⟨Node.sound_of_links_eq_nil proper (links_fileHost text), by cbv⟩

theorem isDirect_fileHost (text : String) {root : PathText} (top : root.anchor = .top) :
    (fileHost text).disk.IsDirect root := by
  refine ⟨top, Node.linkless_of_links (sound_fileHost text).disk.proper ?_⟩
  intro p mem
  exact absurd mem (links_fileHost text ▸ List.not_mem_nil)

/-- Settings with a quote and a backslash in their root, as a user writes them. -/
def quotedText : String :=
  "[paths]\nroot = '/\"\\'\n[search]\npath_match = \"prefix\"\ndefault_limit = 7\n"

/-- The settings that are loaded from them. -/
def quotedSettings : Settings := ⟨⟨.top, ["\"\\"]⟩, true, .start, some 7, some ⟨.top, ["a"]⟩⟩

theorem quotedSettings_survive_save : (fileHost quotedText).Sound ∧
    load (fileHost quotedText) (some (.ofText "/a")) =
      .ok (quotedSettings, [.rootMissing quotedSettings.root]) ∧
    ∃ h' path w', save (fileHost quotedText) quotedSettings (some (.ofText "/d/b")) =
        .ok (h', path) ∧
      load h' (some (.ofText "/d/b")) = .ok ({ quotedSettings with source := some path }, w') ∧
      ∀ n, SettingsWarning.limitIgnored n ∉ w' := by
  have sound := sound_fileHost quotedText
  have loaded : load (fileHost quotedText) (some (.ofText "/a")) =
      .ok (quotedSettings, [.rootMissing quotedSettings.root]) := by cbv
  have saves : (save (fileHost quotedText) quotedSettings (some (.ofText "/d/b"))).map (·.2) =
      .ok ⟨.top, ["d", "b"]⟩ := by cbv
  obtain ⟨⟨h', path⟩, saved, -⟩ := map_eq_ok_iff.1 saves
  have direct : (fileHost quotedText).disk.IsDirect quotedSettings.root := isDirect_fileHost _ rfl
  obtain ⟨lookup, same⟩ := (loaded_survives_save sound loaded).2 "/d/b" h' path saved direct
  have short : ∀ n ∈ quotedSettings.limit, Toml.IsShort n := by
    rintro _ ⟨⟩
    cbv
  obtain ⟨w', reloaded, quiet⟩ := same (lookup (List.forall_mem_singleton.2 (by cbv))) short
  exact ⟨sound, loaded, h', path, w', saved, reloaded, quiet⟩

/-- A host with a link to itself, a link to a directory, and files. -/
def loopHost (files : List (String × Node Content)) : Host :=
  topHost (("loop", .link "loop") :: ("x", .link "y") :: ("y", .dir []) :: files)

/-- Settings whose root is reached through the link to itself, as a user writes them. -/
def loopText : String := "[paths]\nroot = '/loop/../x'\n"

/-- The settings that are loaded from them. -/
def loopSettings : Settings := ⟨⟨.top, ["x"]⟩, true, .whole, none, some ⟨.top, ["a"]⟩⟩

theorem sound_loopHost : (loopHost [("a", .file (.text loopText))]).Sound := by
  have links : (loopHost [("a", .file (.text loopText))]).disk.links = [["loop"], ["x"]] := by cbv
  refine ⟨Node.sound_of_links (by simp [Node.proper_dir_iff, Node.IsName]) ?_, by cbv⟩
  intro p mem t link
  have target : (loopHost [("a", .file (.text loopText))]).disk.get? p = some (.link t) := link
  have place : p ∈ [["loop"], ["x"]] := links ▸ mem
  rcases List.mem_cons.1 place with rfl | place
  · cases target
    decide
  · obtain rfl := List.mem_singleton.1 place
    cases target
    decide

/-- The host with a directory that has the settings in a second file. -/
def filesHost (text : String) : Host :=
  topHost [("a", .file (.text text)), ("d", .dir [("b", .file (.text text))])]

theorem write_fileHost (text : String) :
    (fileHost text).write ⟨.top, ["d", "b"]⟩ (.text text) = .ok (filesHost text) := by cbv

/-- A name that is too long for an entry. -/
def longName : String := String.ofList (List.replicate 64 '𝄞')

/-- Settings with such a name in their root, below the directory. -/
def longSettings : Settings := ⟨⟨.top, ["d", longName]⟩, true, .whole, none, some ⟨.top, ["a"]⟩⟩

theorem isName_longName : Node.IsName longName := by
  have chars : longName.toList = List.replicate 64 '𝄞' := String.toList_ofList
  have other {name : String} (h : '𝄞' ∉ name.toList) : longName ≠ name := by
    rintro rfl
    exact h (by rw [chars]; decide)
  refine ⟨other (by decide), other (by decide), other (by decide), ?_, ?_⟩ <;> rw [chars] <;> decide

theorem named_longSettings : ∀ name ∈ longSettings.root.parts, Node.IsName name :=
  List.forall_mem_cons.2 ⟨by simp [Node.IsName], List.forall_mem_singleton.2 isName_longName⟩

theorem ofText_longSettings : PathText.ofText longSettings.root.toText = longSettings.root :=
  PathText.ofText_toText fun name mem => (named_longSettings name mem).isPart

theorem short_longSettings : ∀ n ∈ longSettings.limit, Toml.IsShort n := by rintro _ ⟨⟩

/-- The name is too long, but the path of the root is not. -/
theorem lengths_longSettings :
    isPathTooLong longSettings.root.toText = false ∧ isNameTooLong longName = true := by
  decide +kernel

/-- How the root of these settings is looked up. -/
theorem find?_longSettings {h : Host} (top : h.disk.kind? [] = some true) {fault : DiskFault}
    (led : h.disk.followFrom Node.linkBudget [] ["d", longName] = .error fault) :
    h.disk.find? h.cwd longSettings.root =
      if fault = .nameTooLong then .error ⟨.nameTooLong, longSettings.root⟩ else .ok none := by
  have fits := lengths_longSettings.1
  have followed : h.disk.follow h.cwd longSettings.root.toText = .error fault :=
    (Node.follow_toText_top top named_longSettings fits h.cwd).trans led
  have stat : h.disk.stat h.cwd longSettings.root.toText = .error fault := by
    rw [Node.stat, followed]
    rfl
  rw [Node.find?, stat]
  cases fault <;> rfl

/-- The root is looked up without a fault until the directory is there. -/
theorem find?_hosts (text : String) :
    (fileHost text).disk.find? [] longSettings.root = .ok none ∧
      (filesHost text).disk.find? [] longSettings.root =
        .error ⟨.nameTooLong, longSettings.root⟩ := by
  have short : isNameTooLong "d" = false := by decide
  have long := lengths_longSettings.2
  obtain ⟨full, single, double, -⟩ := isName_longName
  have missing : (fileHost text).disk.followFrom Node.linkBudget [] ["d", longName] =
      .error .notFound := by
    simp [fileHost, topHost, Node.linkBudget, Node.followFrom, Node.get?, List.lookup_cons, short]
  have tooLong : (filesHost text).disk.followFrom Node.linkBudget [] ["d", longName] =
      .error .nameTooLong := by
    simp [filesHost, topHost, Node.linkBudget, Node.followFrom, Node.get?, List.lookup_cons, short,
      long, full, single, double]
  exact ⟨find?_longSettings (h := fileHost text) rfl missing,
    find?_longSettings (h := filesHost text) rfl tooLong⟩

theorem load_fileHost : load (fileHost longSettings.toText) (some (.ofText "/a")) =
    .ok (longSettings, [.rootMissing longSettings.root]) := by
  have resolved (text : String) : (fileHost text).resolve (.ofText "/a") = .ok ⟨.top, ["a"]⟩ := by
    cbv
  have found (text : String) : (fileHost text).disk.find? [] ⟨.top, ["a"]⟩ =
      .ok (some (.file (.text text))) := by cbv
  have read := read_of_found (s := longSettings) (resolved _) (found _) ofText_longSettings
    short_longSettings
  have root : (fileHost longSettings.toText).resolve longSettings.root = .ok longSettings.root :=
    Host.resolve_of_isDirect (isDirect_fileHost _ rfl) named_longSettings
  have warned : rootWarnings (fileHost longSettings.toText) longSettings.root =
      .ok [.rootMissing longSettings.root] := by
    have lookup : (fileHost longSettings.toText).disk.find? (fileHost longSettings.toText).cwd
        longSettings.root = .ok none := (find?_hosts _).1
    rw [rootWarnings, lookup]
    rfl
  have checked := check_eq_ok_iff.2 ⟨_, _, root, warned, rfl, rfl⟩
  exact load_eq_ok_iff.2 ⟨_, _, _, read, checked, rfl⟩

/-- **Not all loaded settings survive being saved**: their root can become another one if links in a
cycle were met on the way to it, and they cannot be loaded any more if saving them makes a directory
in which a name of the root is too long. -/
theorem not_all_settings_survive_save :
    (∃ h c h' path c', Host.Sound h ∧ load h (some (.ofText "/a")) = .ok (c, []) ∧
      save h c (some (.ofText "/b")) = .ok (h', path) ∧
      load h' (some (.ofText "/b")) = .ok (c', []) ∧ c'.root ≠ c.root) ∧
    ∃ h c w h' path, Host.Sound h ∧ load h (some (.ofText "/a")) = .ok (c, w) ∧
      save h c (some (.ofText "/d/b")) = .ok (h', path) ∧
      load h' (some (.ofText "/d/b")) = .error (.file ⟨.nameTooLong, c.root⟩) := by
  constructor
  · refine ⟨loopHost [("a", .file (.text loopText))], loopSettings,
      loopHost [("a", .file (.text loopText)), ("b", .file (.text loopSettings.toText))],
      ⟨.top, ["b"]⟩, { loopSettings with root := ⟨.top, ["y"]⟩, source := some ⟨.top, ["b"]⟩ },
      sound_loopHost, ?_, ?_, ?_, by decide⟩
    · cbv
    · cbv
    · cbv
  · have sound := sound_fileHost longSettings.toText
    have settled : Settled (fileHost longSettings.toText) longSettings :=
      .of_load sound load_fileHost (isDirect_fileHost _ rfl)
    have target (text : String) :
        (fileHost text).resolve (.ofText "/d/b") = .ok ⟨.top, ["d", "b"]⟩ := by cbv
    have saved : save (fileHost longSettings.toText) longSettings (some (.ofText "/d/b")) =
        .ok (filesHost longSettings.toText, ⟨.top, ["d", "b"]⟩) :=
      save_eq_ok_iff.2 ⟨target _, write_fileHost _⟩
    exact ⟨_, _, _, _, _, sound, load_fileHost, saved,
      load_of_saved_error sound settled saved (find?_hosts _).2 short_longSettings⟩

end Settings

end TagSearch
