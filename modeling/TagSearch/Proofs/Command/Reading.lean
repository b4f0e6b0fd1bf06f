import TagSearch.Command.Run
import TagSearch.Proofs.Lists

/-!
# How a command line is read

A command line that is read calls a command that leads no further, under the settings that are
loaded for it. Every other command line is answered at once, and changes nothing.

* `CommandSpec.refuse?_of_accept`: the values of accepted options are not refused.
* `CommandPath.Reads`: arguments behind the name of a command are read.
* `CommandCall` is what a command line calls, and `Host.Reads` tells that it does.
* `Host.run_of_reads`: the call is carried out.
* `Host.run_of_not_reads`: a command line that calls nothing leaves the host as it is.
-/

namespace TagSearch

variable {h : Host} {arguments operands : List String} {uses : List OptionUse}
  {ticks : List (List DiskEvent)} {capacity : Nat}

/-! ## The arguments of a command -/

/-- Arguments of a command call it, or one that it leads to, with options and operands. -/
inductive CommandPath.Reads (h : Host) :
    CommandPath → List String → CommandPath → List OptionUse → List String → Prop
  | plain {c : CommandPath} {arguments operands : List String} {uses : List OptionUse} :
    c.leads = false → c.spec.accept h arguments = .ok (uses, operands) →
      Reads h c arguments c uses operands
  | further {c d : CommandPath} {arguments rest operands : List String} {name : String}
      {before uses : List OptionUse} :
    c.leads = true → c.spec.accept h arguments = .ok (before, name :: rest) →
      c.find? name = some d → d.spec.accept h rest = .ok (uses, operands) →
      Reads h c arguments d uses operands

/-- Arguments are accepted if they can be read, do not ask for help or the version, and pass all
checks. -/
theorem CommandSpec.accept_eq_ok_iff {c : CommandSpec} :
    c.accept h arguments = .ok (uses, operands) ↔
      c.readArguments arguments = .ok (uses, operands) ∧
      (uses.find? fun u => u.name == helpName || u.name == versionName) = none ∧
      c.check h uses operands = .ok () := by
  rw [accept]
  cases c.readArguments arguments with
  | error e => exact iff_of_false (fun h => nomatch h) fun h => nomatch h.1
  | ok read =>
    obtain ⟨uses', operands'⟩ := read
    dsimp only
    cases asked : uses'.find? fun u => u.name == helpName || u.name == versionName with
    | some u =>
      refine iff_of_false (fun h => nomatch h) ?_
      rintro ⟨same, none, _⟩
      obtain ⟨rfl, _⟩ := Prod.mk.inj (Except.ok.inj same)
      rw [asked] at none
      cases none
    | none =>
      rw [map_eq_ok_iff]
      constructor
      · rintro ⟨_, checked, same⟩
        obtain ⟨rfl, rfl⟩ := Prod.mk.inj same
        exact ⟨rfl, asked, checked⟩
      · rintro ⟨same, _, checked⟩
        obtain ⟨rfl, rfl⟩ := Prod.mk.inj (Except.ok.inj same)
        exact ⟨(), checked, rfl⟩

/-- Operands are read from some arguments. -/
theorem CommandSpec.ne_nil_of_accept {c : CommandSpec} {name : String} {rest : List String}
    (accepted : c.accept h arguments = .ok (uses, name :: rest)) : arguments ≠ [] := by
  rintro rfl
  have read := (accept_eq_ok_iff.1 accepted).1
  rw [readArguments] at read
  cases read

/-- **The value of an option that was accepted** is not refused. -/
theorem CommandSpec.refuse?_of_accept {c : CommandSpec}
    (accepted : c.accept h arguments = .ok (uses, operands)) {o : OptionSpec}
    (declared : c.options.find? (·.name == o.name) = some o) {value : String}
    (given : OptionUse.value? uses o.name = some value) : o.kind.refuse? h value = none := by
  obtain ⟨use, last, rfl⟩ := Option.map_eq_some_iff.1 given
  obtain ⟨mem, named⟩ := List.mem_filter.1 (List.mem_of_getLast? last)
  have used : o ∈ c.usedOptions uses := by
    refine List.mem_filterMap.2 ⟨o.name, ?_, declared⟩
    rw [List.mem_eraseDups, ← eq_of_beq named]
    exact List.mem_map_of_mem mem
  obtain ⟨_, options, _⟩ := bind_eq_ok_iff.1 (accept_eq_ok_iff.1 accepted).2.2
  have passed := forM_eq_ok_iff.1 options o used
  rw [checkOption, last] at passed
  dsimp only at passed
  split at passed
  · cases passed
  · split at passed
    · cases passed
    · assumption

namespace CommandPath

variable {c : CommandPath} {r : Report}

theorem interrupt_leaves (i : Interruption) : (c.interrupt h r i).host = h := by
  cases i <;> rfl

/-- Arguments are accepted, or nothing is done. -/
theorem accepting_cases (c : CommandPath) (h : Host) (r : Report) (arguments : List String)
    (go : List OptionUse → List String → Outcome) :
    (c.accepting h r arguments go).host = h ∨
    ∃ uses operands, c.spec.accept h arguments = .ok (uses, operands) ∧
      c.accepting h r arguments go = go uses operands := by
  rw [accepting]
  cases accepted : c.spec.accept h arguments with
  | error i => exact Or.inl (interrupt_leaves i)
  | ok read => exact Or.inr ⟨_, _, rfl, rfl⟩

/-- A further command is found, or nothing is done. -/
theorem next_cases (c : CommandPath) (h : Host) (r : Report) (operands : List String)
    (go : CommandPath → List String → Outcome) :
    (c.next h r operands go).host = h ∨
    ∃ name rest d, operands = name :: rest ∧ c.find? name = some d ∧
      c.next h r operands go = go d rest := by
  cases operands with
  | nil => exact Or.inl rfl
  | cons name rest =>
    rw [next]
    cases found : c.find? name with
    | some d => exact Or.inr ⟨name, rest, d, rfl, found, rfl⟩
    | none =>
      refine Or.inl ?_
      dsimp only
      split
      · split
        · exact interrupt_leaves _
        · rfl
      · rfl

end CommandPath

/-! ## Command lines -/

/-- What a command line calls. -/
structure CommandCall where
  /-- The options in front of the command. -/
  globals : List OptionUse
  settings : Settings
  warnings : List SettingsWarning
  command : CommandPath
  uses : List OptionUse
  operands : List String

namespace CommandCall

/-- Whether the progress of a scan is reported. -/
def isVerbose (q : CommandCall) : Bool :=
  OptionUse.isOn q.globals "verbose" || OptionUse.isOn q.globals "debug"

/-- Whether only results and errors are reported. -/
def isQuiet (q : CommandCall) : Bool := OptionUse.isOn q.globals "quiet"

/-- What the command is carried out with. -/
def context (q : CommandCall) (h : Host) (capacity : Nat) : CommandContext where
  host := h
  settings := q.settings
  capacity
  verbose := q.isVerbose
  debug := OptionUse.isOn q.globals "debug"
  quiet := q.isQuiet

/-- The report before the command is carried out: the warnings about the settings. -/
def preface (q : CommandCall) : Report :=
  if q.isQuiet then .empty else Report.empty.addAll (fun r w => r.warn w.message) q.warnings

/-- The operands of a call and the warnings that it reports are free of brackets. -/
structure IsBracketFree (q : CommandCall) : Prop where
  operands : ∀ text ∈ q.operands, isBracketFree text = true
  warnings : q.isQuiet = false → ∀ w ∈ q.warnings, isBracketFree w.message = true

end CommandCall

/-- A command line makes a call. -/
structure Host.Reads (h : Host) (arguments : List String) (q : CommandCall) : Prop where
  settings : h.settingsFor q.globals = .ok (q.settings, q.warnings)
  named : ∃ name rest d,
    CommandPath.program.spec.accept h arguments = .ok (q.globals, name :: rest) ∧
    CommandPath.program.find? name = some d ∧ d.Reads h rest q.command q.uses q.operands

namespace CommandContext

variable {c : CommandContext} {d command : CommandPath}

theorem dispatch_of_reads (read : d.Reads c.host arguments command uses operands) (r : Report) :
    c.dispatch d arguments ticks r = c.perform command uses operands ticks r := by
  cases read with
  | plain leads accepted =>
    rw [dispatch, leads, CommandPath.accepting, accepted]
    rfl
  | further leads accepted found last =>
    have some : arguments.isEmpty = false :=
      List.isEmpty_eq_false_iff.2 (CommandSpec.ne_nil_of_accept accepted)
    rw [dispatch, leads, some, CommandPath.accepting, accepted]
    dsimp only
    rw [if_neg (by decide), if_pos rfl, CommandPath.next, found]
    dsimp only
    rw [CommandPath.accepting, last]

/-- Arguments of a command are read, or nothing is done. -/
theorem dispatch_cases (c : CommandContext) (d : CommandPath) (arguments : List String)
    (ticks : List (List DiskEvent)) (r : Report) :
    (c.dispatch d arguments ticks r).host = c.host ∨
    ∃ command uses operands, d.Reads c.host arguments command uses operands := by
  rw [dispatch]
  split
  · exact Or.inl rfl
  · rcases d.accepting_cases c.host r arguments _ with same | ⟨before, operands, accepted, e⟩
    · exact Or.inl same
    · rw [e]
      split
      · rename_i leads
        rcases d.next_cases c.host r operands _ with same | ⟨name, rest, d', rfl, found, e⟩
        · exact Or.inl same
        · rw [e]
          rcases d'.accepting_cases c.host r rest _ with same | ⟨uses, operands, last, _⟩
          · exact Or.inl same
          · exact Or.inr ⟨_, _, _, .further leads accepted found last⟩
      · rename_i plain
        exact Or.inr ⟨_, _, _, .plain (eq_false_of_ne_true plain) accepted⟩

end CommandContext

namespace Host

theorem withSettings_eq {q : CommandCall}
    (settings : h.settingsFor q.globals = .ok (q.settings, q.warnings))
    (go : CommandContext → Report → Outcome) :
    h.withSettings q.globals capacity go = go (q.context h capacity) q.preface := by
  rw [withSettings, settings]
  rfl

/-- **A call is carried out.** -/
theorem run_of_reads {q : CommandCall} (read : h.Reads arguments q) :
    h.run arguments ticks capacity =
      (q.context h capacity).perform q.command q.uses q.operands ticks q.preface := by
  obtain ⟨settings, name, rest, d, accepted, found, further⟩ := read
  have some : arguments.isEmpty = false :=
    List.isEmpty_eq_false_iff.2 (CommandSpec.ne_nil_of_accept accepted)
  rw [run, some, if_neg Bool.false_ne_true, CommandPath.accepting, accepted]
  dsimp only
  rw [CommandPath.next, found]
  dsimp only
  rw [withSettings_eq settings, CommandContext.dispatch_of_reads further]

/-- **A command line that makes no call** leaves the host as it is. -/
theorem run_of_not_reads (unread : ∀ q, ¬ h.Reads arguments q) :
    (h.run arguments ticks capacity).host = h := by
  rw [run]
  split
  · rfl
  · rcases CommandPath.program.accepting_cases h .empty arguments _ with
      same | ⟨globals, operands, accepted, e⟩
    · exact same
    · rw [e]
      rcases CommandPath.program.next_cases h .empty operands _ with
        same | ⟨name, rest, d, rfl, found, e⟩
      · exact same
      · rw [e]
        cases loaded : h.settingsFor globals with
        | error e =>
          rw [withSettings, loaded]
        | ok settings =>
          let q : CommandCall := ⟨globals, settings.1, settings.2, .program, [], []⟩
          rw [show globals = q.globals from rfl, withSettings_eq (q := q) loaded]
          rcases (q.context h capacity).dispatch_cases d rest ticks q.preface with
            same | ⟨command, uses, operands, further⟩
          · exact same
          · exact (unread { q with command, uses, operands }
              ⟨loaded, name, rest, d, accepted, found, further⟩).elim

end Host

end TagSearch
