import DebugAdapter.Proofs.Settings.Defaults
import DebugAdapter.Settings.Merge

/-! # Who has the last word on a setting

What a command line gives holds whatever a file says, and a file is asked only about the rest. The
settings in effect are said here one at a time, and so is what is wrong if there are none. -/

namespace DebugAdapter.Settings

open Evaluation (Program)
open Transport (Address AddressError)

/-! ## Values from several places -/

section Taken

variable {α : Type} {given inFile : Option α} {usual a b : α}

/-- A value is taken from the first place that gives one, and is the usual one if none does. -/
inductive Taken (given inFile : Option α) (usual : α) : α → Prop where
  | commandLine {a : α} (h : given = some a) : Taken given inFile usual a
  | file {a : α} (hgiven : given = none) (h : inFile = some a) : Taken given inFile usual a
  | usual (hgiven : given = none) (hfile : inFile = none) : Taken given inFile usual usual

theorem taken_iff : Taken given inFile usual a ↔ (given.or inFile).getD usual = a := by
  constructor
  · rintro (rfl | ⟨rfl, rfl⟩ | ⟨rfl, rfl⟩) <;> rfl
  · rintro rfl
    cases given with
    | some a => exact .commandLine rfl
    | none =>
      cases inFile with
      | some a => exact .file rfl rfl
      | none => exact .usual rfl rfl

theorem Taken.unique (ha : Taken given inFile usual a) (hb : Taken given inFile usual b) : a = b :=
  (taken_iff.mp ha).symm.trans (taken_iff.mp hb)

theorem Taken.eq_some (h : Taken given inFile usual a) (hgiven : given ≠ none) : given = some a := by
  cases h with
  | commandLine h => exact h
  | file hnone | usual hnone => exact absurd hnone hgiven

end Taken

section Program

variable {source path : Option String} {p q : Program}
  {both neither : Except SettingsError Program}

/-- One program is named, by its text or by a path. -/
inductive Names : Option String → Option String → Program → Prop where
  | source (text : String) : Names (some text) none (.source text)
  | path (path : String) : Names none (some path) (.path path)

theorem Names.unique (hp : Names source path p) (hq : Names source path q) : p = q := by
  cases hp <;> cases hq <;> rfl

/-- One program is named, or two, or none. -/
theorem names_or (source path : Option String) :
    (∃ p, Names source path p) ∨ (source ≠ none ∧ path ≠ none) ∨ source = none ∧ path = none := by
  cases source with
  | none =>
    cases path with
    | none => exact .inr (.inr ⟨rfl, rfl⟩)
    | some path => exact .inl ⟨_, .path path⟩
  | some text =>
    cases path with
    | none => exact .inl ⟨_, .source text⟩
    | some path => exact .inr (.inl ⟨nofun, nofun⟩)

theorem Names.chooseProgram_eq (h : Names source path p) :
    chooseProgram both neither source path = .ok p := by
  cases h <;> rfl

theorem chooseProgram_both (hsource : source ≠ none) (hpath : path ≠ none) :
    chooseProgram both neither source path = both := by
  obtain ⟨text, rfl⟩ := Option.ne_none_iff_exists'.mp hsource
  obtain ⟨path, rfl⟩ := Option.ne_none_iff_exists'.mp hpath
  rfl

end Program

/-! ## All settings -/

/-- What is said about where to listen is this text, which is read with this result. -/
def Listens (args : Arguments) (file : FileSettings) (text : String)
    (result : Except AddressError Address) : Prop :=
  Taken args.listen file.listen usualAddress text ∧ Address.parse text = result

/-- What is to be evaluated. A file is asked only if the command line names nothing. -/
inductive Chosen (args : Arguments) (file : FileSettings) :
    Except SettingsError Program → Prop where
  | commandLine {p : Program} (h : Names args.source args.path p) : Chosen args file (.ok p)
  | twoPrograms (hsource : args.source ≠ none) (hpath : args.path ≠ none) :
      Chosen args file (.error .twoPrograms)
  | file {p : Program} (hgiven : args.source = none ∧ args.path = none)
      (h : Names file.source file.path p) : Chosen args file (.ok p)
  | twoProgramsInFile (hgiven : args.source = none ∧ args.path = none)
      (hsource : file.source ≠ none) (hpath : file.path ≠ none) :
      Chosen args file (.error .twoProgramsInFile)
  | noProgram (hgiven : args.source = none ∧ args.path = none)
      (hfile : file.source = none ∧ file.path = none) : Chosen args file (.error .noProgram)

/-- The settings that a command line and a file come to. -/
structure InEffect (args : Arguments) (file : FileSettings) (s : Settings) : Prop where
  listen : ∃ text, Listens args file text (.ok s.listen)
  program : Chosen args file (.ok s.program)
  logFile : Taken (args.logFile.map some) (file.logFile.map some) none s.logFile
  command : Taken args.interpreter (some file.interpreter.command) "sh" s.interpreter.command
  sourceFlag : Taken args.sourceFlag (some file.interpreter.sourceFlag) "-c"
    s.interpreter.sourceFlag
  arguments : s.interpreter.arguments = file.interpreter.arguments
  oneshot : s.oneshot = true ↔ args.oneshot = true ∨ file.oneshot = true
  traceTraffic : s.traceTraffic = true ↔ args.traceTraffic = true ∨ file.traceTraffic = true

/-- What is wrong with a command line and a file. Where to listen is looked at first. -/
inductive Fault (args : Arguments) (file : FileSettings) : SettingsError → Prop where
  | address {text : String} {e : AddressError} (h : Listens args file text (.error e)) :
      Fault args file (.address text e)
  | program {text : String} {a : Address} {e : SettingsError}
      (hlisten : Listens args file text (.ok a)) (h : Chosen args file (.error e)) :
      Fault args file e

/-! ## Merging -/

variable {args : Arguments} {file other : FileSettings} {s t : Settings} {e : SettingsError}

/-- The text that says where to listen. -/
def listenText (args : Arguments) (file : FileSettings) : String :=
  (args.listen.or file.listen).getD usualAddress

/-- The program of a command line and a file, or why there is none. -/
def programOf (args : Arguments) (file : FileSettings) : Except SettingsError Program :=
  chooseProgram (.error .twoPrograms)
    (chooseProgram (.error .twoProgramsInFile) (.error .noProgram) file.source file.path)
    args.source args.path

/-- The settings with a place to listen at and a program. -/
def combined (args : Arguments) (file : FileSettings) (listen : Address) (program : Program) :
    Settings where
  listen := listen
  program := program
  interpreter := {
    command := args.interpreter.getD file.interpreter.command
    sourceFlag := args.sourceFlag.getD file.interpreter.sourceFlag
    arguments := file.interpreter.arguments }
  oneshot := args.oneshot || file.oneshot
  logFile := args.logFile.or file.logFile
  traceTraffic := args.traceTraffic || file.traceTraffic

theorem merge_eq (args : Arguments) (file : FileSettings) :
    merge args file =
      match Address.parse (listenText args file), programOf args file with
      | .error e, _ => .error (.address (listenText args file) e)
      | .ok _, .error e => .error e
      | .ok listen, .ok program => .ok (combined args file listen program) := by
  change ((Address.parse (listenText args file)).mapError (.address (listenText args file)) >>=
    fun listen => programOf args file >>= fun program =>
      .ok (combined args file listen program)) = _
  cases Address.parse (listenText args file) with
  | error e => rfl
  | ok listen => cases programOf args file <;> rfl

theorem listens_iff {text : String} {result : Except AddressError Address} :
    Listens args file text result ↔
      listenText args file = text ∧ Address.parse (listenText args file) = result := by
  rw [Listens, taken_iff]
  constructor <;> rintro ⟨rfl, h⟩ <;> exact ⟨rfl, h⟩

theorem exists_chosen (args : Arguments) (file : FileSettings) :
    ∃ result, Chosen args file result := by
  rcases names_or args.source args.path with ⟨p, hp⟩ | ⟨hsource, hpath⟩ | hgiven
  · exact ⟨_, .commandLine hp⟩
  · exact ⟨_, .twoPrograms hsource hpath⟩
  rcases names_or file.source file.path with ⟨p, hp⟩ | ⟨hsource, hpath⟩ | hfile
  · exact ⟨_, .file hgiven hp⟩
  · exact ⟨_, .twoProgramsInFile hgiven hsource hpath⟩
  · exact ⟨_, .noProgram hgiven hfile⟩

theorem Chosen.programOf_eq {result : Except SettingsError Program} (h : Chosen args file result) :
    programOf args file = result := by
  unfold programOf
  cases h with
  | commandLine h => exact h.chooseProgram_eq
  | twoPrograms hsource hpath => exact chooseProgram_both hsource hpath
  | file hgiven h =>
    rw [hgiven.1, hgiven.2]
    exact h.chooseProgram_eq
  | twoProgramsInFile hgiven hsource hpath =>
    rw [hgiven.1, hgiven.2]
    exact chooseProgram_both hsource hpath
  | noProgram hgiven hfile =>
    rw [hgiven.1, hgiven.2, hfile.1, hfile.2]
    rfl

theorem chosen_iff {result : Except SettingsError Program} :
    Chosen args file result ↔ programOf args file = result := by
  refine ⟨Chosen.programOf_eq, ?_⟩
  rintro rfl
  obtain ⟨result, h⟩ := exists_chosen args file
  exact h.programOf_eq ▸ h

theorem inEffect_combined {listen : Address} {program : Program}
    (hlisten : Address.parse (listenText args file) = .ok listen)
    (hprogram : programOf args file = .ok program) :
    InEffect args file (combined args file listen program) where
  listen := ⟨_, listens_iff.mpr ⟨rfl, hlisten⟩⟩
  program := chosen_iff.mpr hprogram
  logFile := by
    rw [taken_iff, combined]
    cases args.logFile <;> cases file.logFile <;> rfl
  command := by
    rw [taken_iff, combined]
    cases args.interpreter <;> rfl
  sourceFlag := by
    rw [taken_iff, combined]
    cases args.sourceFlag <;> rfl
  arguments := rfl
  oneshot := Bool.or_eq_true_iff
  traceTraffic := Bool.or_eq_true_iff

/-- Each of the settings in effect is determined, so all of them are. -/
theorem InEffect.unique (hs : InEffect args file s) (ht : InEffect args file t) : s = t := by
  obtain ⟨stext, hslisten⟩ := hs.listen
  obtain ⟨ttext, htlisten⟩ := ht.listen
  have hlisten : s.listen = t.listen :=
    Except.ok.inj ((listens_iff.mp hslisten).2.symm.trans (listens_iff.mp htlisten).2)
  have hprogram : s.program = t.program :=
    Except.ok.inj (hs.program.programOf_eq.symm.trans ht.program.programOf_eq)
  have hinterpreter : s.interpreter = t.interpreter := by
    rw [Interpreter.mk.injEq]
    exact ⟨hs.command.unique ht.command, hs.sourceFlag.unique ht.sourceFlag,
      hs.arguments.trans ht.arguments.symm⟩
  have honeshot : s.oneshot = t.oneshot := Bool.eq_iff_iff.mpr (hs.oneshot.trans ht.oneshot.symm)
  have htrace : s.traceTraffic = t.traceTraffic :=
    Bool.eq_iff_iff.mpr (hs.traceTraffic.trans ht.traceTraffic.symm)
  rw [Settings.mk.injEq]
  exact ⟨hlisten, honeshot, hs.logFile.unique ht.logFile, htrace, hprogram, hinterpreter⟩

theorem merge_eq_ok_iff : merge args file = .ok s ↔ InEffect args file s := by
  rw [merge_eq]
  constructor
  · intro h
    split at h
    · exact nomatch h
    · exact nomatch h
    · rename_i listen program hlisten hprogram
      exact Except.ok.inj h ▸ inEffect_combined hlisten hprogram
  · intro h
    obtain ⟨text, hlisten⟩ := h.listen
    have hlisten' := (listens_iff.mp hlisten).2
    have hprogram := h.program.programOf_eq
    rw [hlisten', hprogram]
    exact congrArg Except.ok ((inEffect_combined hlisten' hprogram).unique h)

theorem merge_eq_error_iff : merge args file = .error e ↔ Fault args file e := by
  rw [merge_eq]
  constructor
  · intro h
    split at h
    · rename_i fault _ hlisten
      exact Except.error.inj h ▸ .address (listens_iff.mpr ⟨rfl, hlisten⟩)
    · rename_i listen fault hlisten hprogram
      obtain rfl := Except.error.inj h
      exact .program (listens_iff.mpr ⟨rfl, hlisten⟩) (chosen_iff.mpr hprogram)
    · exact nomatch h
  · intro h
    cases h with
    | address h =>
      obtain ⟨rfl, hlisten⟩ := listens_iff.mp h
      rw [hlisten]
    | program h hprogram =>
      rw [(listens_iff.mp h).2, hprogram.programOf_eq]

/-- There is something wrong if it cannot be said where to listen, or if the command line names
two programs, or if it names none and the file does not name one. -/
theorem exists_fault_iff : (∃ e, Fault args file e) ↔
    (∃ text e, Listens args file text (.error e)) ∨ (args.source ≠ none ∧ args.path ≠ none) ∨
      (args.source = none ∧ args.path = none) ∧ (file.source = none ↔ file.path = none) := by
  constructor
  · rintro ⟨e, h⟩
    cases h with
    | address h => exact .inl ⟨_, _, h⟩
    | program _ h =>
      cases h with
      | twoPrograms hsource hpath => exact .inr (.inl ⟨hsource, hpath⟩)
      | twoProgramsInFile hgiven hsource hpath =>
        exact .inr (.inr ⟨hgiven, iff_of_false hsource hpath⟩)
      | noProgram hgiven hfile => exact .inr (.inr ⟨hgiven, iff_of_true hfile.1 hfile.2⟩)
  · intro h
    cases hlisten : Address.parse (listenText args file) with
    | error e => exact ⟨_, .address (listens_iff.mpr ⟨rfl, hlisten⟩)⟩
    | ok listen =>
      have hlisten' : Listens args file _ (.ok listen) := listens_iff.mpr ⟨rfl, hlisten⟩
      rcases h with ⟨text, e, h⟩ | ⟨hsource, hpath⟩ | ⟨hgiven, hfile⟩
      · exact nomatch hlisten.symm.trans (listens_iff.mp h).2
      · exact ⟨_, .program hlisten' (.twoPrograms hsource hpath)⟩
      · by_cases hsource : file.source = none
        · exact ⟨_, .program hlisten' (.noProgram hgiven ⟨hsource, hfile.mp hsource⟩)⟩
        · exact ⟨_, .program hlisten'
            (.twoProgramsInFile hgiven hsource (hsource ∘ hfile.mpr))⟩

/-! ## One setting at a time -/

/-- A setting that the command line may take out of the hands of a file. -/
inductive Setting where
  | listen
  | logFile
  | command
  | sourceFlag
  | program
  deriving DecidableEq

namespace Setting

abbrev Value : Setting → Type
  | listen => Address
  | logFile => Option String
  | command | sourceFlag => String
  | program => Program

/-- The setting among those in effect. -/
def value : (k : Setting) → Settings → k.Value
  | listen, s => s.listen
  | logFile, s => s.logFile
  | command, s => s.interpreter.command
  | sourceFlag, s => s.interpreter.sourceFlag
  | program, s => s.program

/-- The command line gives the setting. A program may be given in two ways. -/
def Given (args : Arguments) : Setting → Prop
  | listen => args.listen ≠ none
  | logFile => args.logFile ≠ none
  | command => args.interpreter ≠ none
  | sourceFlag => args.sourceFlag ≠ none
  | program => args.source ≠ none ∨ args.path ≠ none

/-- A file that says about the setting what another file says about it. -/
def replaced (file other : FileSettings) : Setting → FileSettings
  | listen => { file with listen := other.listen }
  | logFile => { file with logFile := other.logFile }
  | command =>
    { file with interpreter := { file.interpreter with command := other.interpreter.command } }
  | sourceFlag =>
    { file with
      interpreter := { file.interpreter with sourceFlag := other.interpreter.sourceFlag } }
  | program => { file with source := other.source, path := other.path }

/-- A file leaves the setting as it is without a file. -/
def Unset (file : FileSettings) : Setting → Prop
  | listen => file.listen = none
  | logFile => file.logFile = none
  | command => file.interpreter.command = ({} : Interpreter).command
  | sourceFlag => file.interpreter.sourceFlag = ({} : Interpreter).sourceFlag
  | program => file.source = none ∧ file.path = none

/-- The entries of a document say nothing about the setting. -/
def Unsaid (entries : Toml.Entries) : Setting → Prop
  | listen => ∀ v, ("listen", v) ∉ entries
  | logFile => ∀ v, ("log-file", v) ∉ entries
  | command => ∀ v, ("engine", v) ∈ entries → ∀ w, ("interpreter", w) ∉ interpreterEntries v
  | sourceFlag => ∀ v, ("engine", v) ∈ entries → ∀ w, ("source-flag", w) ∉ interpreterEntries v
  | program => ∀ v, ("eval", v) ∉ entries ∧ ("path", v) ∉ entries

/-- What the setting is if nobody says anything about it. There is no usual program. -/
def usual : (k : Setting) → Option k.Value
  | listen => some (Address.tcp "127.0.0.1:4711")
  | logFile => some none
  | command => some "sh"
  | sourceFlag => some "-c"
  | program => none

end Setting

variable {k : Setting}

theorem merge_replaced (h : k.Given args) (file other : FileSettings) :
    merge args (k.replaced file other) = merge args file := by
  cases k with
  | listen | logFile | command | sourceFlag =>
    obtain ⟨given, hgiven⟩ := Option.ne_none_iff_exists'.mp h
    unfold merge
    rw [hgiven]
    rfl
  | program =>
    unfold merge
    cases hsource : args.source with
    | some text => cases args.path <;> rfl
    | none =>
      cases hpath : args.path with
      | some path => rfl
      | none => exact absurd h (by simp [Setting.Given, hsource, hpath])

theorem Chosen.names {p : Program} (h : Chosen args file (.ok p))
    (hgiven : args.source ≠ none ∨ args.path ≠ none) : Names args.source args.path p := by
  cases h with
  | commandLine h => exact h
  | file hnone => exact (hgiven.elim (· hnone.1) (· hnone.2)).elim

/-- What the command line gives is in effect with every file. -/
theorem value_eq_of_given (h : k.Given args) (hs : InEffect args file s)
    (ht : InEffect args other t) : k.value s = k.value t := by
  cases k with
  | listen =>
    obtain ⟨text, htext, hparse⟩ := hs.listen
    obtain ⟨text', htext', hparse'⟩ := ht.listen
    obtain rfl := Option.some.inj ((htext.eq_some h).symm.trans (htext'.eq_some h))
    exact Except.ok.inj (hparse.symm.trans hparse')
  | logFile =>
    have hgiven : args.logFile.map some ≠ none := by simpa [Setting.Given] using h
    exact Option.some.inj ((hs.logFile.eq_some hgiven).symm.trans (ht.logFile.eq_some hgiven))
  | command => exact Option.some.inj ((hs.command.eq_some h).symm.trans (ht.command.eq_some h))
  | sourceFlag =>
    exact Option.some.inj ((hs.sourceFlag.eq_some h).symm.trans (ht.sourceFlag.eq_some h))
  | program => exact (hs.program.names h).unique (ht.program.names h)

/-- What neither the command line nor the file sets is as usual. -/
theorem usual_of_unset (hgiven : ¬ k.Given args) (hunset : k.Unset file)
    (hs : InEffect args file s) : k.usual = some (k.value s) := by
  cases k with
  | listen =>
    obtain ⟨text, htext, hparse⟩ := hs.listen
    rw [taken_iff, hunset, Classical.not_not.mp hgiven] at htext
    obtain rfl : usualAddress = text := htext
    exact congrArg some (Except.ok.inj hparse)
  | logFile =>
    have htaken := taken_iff.mp hs.logFile
    rw [hunset, Classical.not_not.mp hgiven] at htaken
    exact congrArg some htaken
  | command =>
    have htaken := taken_iff.mp hs.command
    rw [hunset, Classical.not_not.mp hgiven] at htaken
    exact congrArg some htaken
  | sourceFlag =>
    have htaken := taken_iff.mp hs.sourceFlag
    rw [hunset, Classical.not_not.mp hgiven] at htaken
    exact congrArg some htaken
  | program =>
    have hnone : args.source = none ∧ args.path = none := by simpa [Setting.Given] using hgiven
    have hfault := (Chosen.noProgram hnone hunset).programOf_eq
    exact nomatch hfault.symm.trans hs.program.programOf_eq

/-- A file whose text says nothing about a setting leaves it as it is without a file. -/
theorem unset_of_unsaid {text : String} {form : Toml.Form} {entries : Toml.Entries}
    (hfile : FileSettings.parse text = some file)
    (hdocument : Toml.parse text = some (.table form entries)) (hunsaid : k.Unsaid entries) :
    k.Unset file := by
  cases k with
  | listen =>
    exact FileSettings.parse_usual (·.listen) (fun h => (FileSettings.set_kept h).1) hfile hdocument
      hunsaid
  | logFile =>
    exact FileSettings.parse_usual (·.logFile) (fun h => (FileSettings.set_kept h).2.1) hfile
      hdocument hunsaid
  | command =>
    exact FileSettings.parse_interpreter_usual (·.command) (fun h => (setInterpreter_kept h).1) hfile
      hdocument hunsaid
  | sourceFlag =>
    exact FileSettings.parse_interpreter_usual (·.sourceFlag) (fun h => (setInterpreter_kept h).2)
      hfile hdocument hunsaid
  | program =>
    constructor
    · exact FileSettings.parse_usual (·.source) (fun h => (FileSettings.set_kept h).2.2.1) hfile
        hdocument fun v => (hunsaid v).1
    · exact FileSettings.parse_usual (·.path) (fun h => (FileSettings.set_kept h).2.2.2.1) hfile
        hdocument fun v => (hunsaid v).2

/-- What the command line gives is in effect whatever a file says about it, and the rest of what the
file says counts as if it said nothing about it. A setting that is not given is taken from the file,
else it is the usual one. There are no settings if and only if the place to listen at or the program
is not well said, the place being looked at first. -/
theorem merge_precedence (args : Arguments) :
    (∀ (k : Setting) (file other : FileSettings), k.Given args →
      merge args (k.replaced file other) = merge args file ∧
        ∀ s t, merge args file = .ok s → merge args other = .ok t → k.value s = k.value t) ∧
    (∀ file s, merge args file = .ok s ↔ InEffect args file s) ∧
    (∀ (k : Setting) file s, ¬ k.Given args → k.Unset file → merge args file = .ok s →
      k.usual = some (k.value s)) ∧
    (∀ file e, merge args file = .error e ↔ Fault args file e) ∧
    ∀ file, (∃ e, merge args file = .error e) ↔
      (∃ text e, Listens args file text (.error e)) ∨ (args.source ≠ none ∧ args.path ≠ none) ∨
        (args.source = none ∧ args.path = none) ∧ (file.source = none ↔ file.path = none) := by
  refine ⟨fun k file other h => ⟨merge_replaced h file other, fun s t hs ht => ?_⟩,
    fun _ _ => merge_eq_ok_iff, fun k file s hgiven hunset hs => ?_,
    fun _ _ => merge_eq_error_iff, fun file => ?_⟩
  · exact value_eq_of_given h (merge_eq_ok_iff.mp hs) (merge_eq_ok_iff.mp ht)
  · exact usual_of_unset hgiven hunset (merge_eq_ok_iff.mp hs)
  · simp only [merge_eq_error_iff]
    exact exists_fault_iff

/-- A command line that says where to listen, what to evaluate and what precedes it. -/
def scriptArguments : Arguments :=
  { listen := some "stdio", source := some "print(1)", sourceFlag := some "-e" }

/-- What a file says that cannot be used without a command line. -/
def unusable : FileSettings :=
  { listen := some "udp://localhost:1", source := some "x", path := some "y" }

/-- A file may have a table for the interpreter and say nothing in it. -/
theorem merge_precedence_script :
    ∃ file s, FileSettings.parse "# sh\n[engine]\n" = some file ∧
      merge scriptArguments file = .ok s ∧
      merge scriptArguments (Setting.program.replaced file unusable) = .ok s ∧
      (∃ t, merge scriptArguments unusable = .ok t ∧ s.listen = t.listen ∧ s.program = t.program) ∧
      s.interpreter.command = "sh" ∧ ∃ e, merge {} unusable = .error e := by
  obtain ⟨hgiven, -, husual, -, -⟩ := merge_precedence scriptArguments
  obtain ⟨-, -, -, -, hfails⟩ := merge_precedence {}
  have hdocument : Toml.parse "# sh\n[engine]\n" =
      some (.table .declared [("engine", .table .declared [])]) := rfl
  have hfile : FileSettings.parse "# sh\n[engine]\n" = some {} := rfl
  have hunsaid : Setting.command.Unsaid [("engine", .table .declared [])] := by
    intro v hv w
    obtain rfl : v = .table .declared [] := by simpa using hv
    exact List.not_mem_nil
  have hs : merge scriptArguments {} =
      .ok ⟨.stdio, false, none, false, .source "print(1)", ⟨"sh", "-e", []⟩⟩ := rfl
  have ht : merge scriptArguments unusable =
      .ok ⟨.stdio, false, none, false, .source "print(1)", ⟨"sh", "-e", []⟩⟩ := rfl
  have hlisten := hgiven .listen {} unusable nofun
  have hprogram := hgiven .program {} unusable (.inl nofun)
  have hunset : Setting.command.Unset {} := unset_of_unsaid hfile hdocument hunsaid
  have hcommand := husual .command _ _ (· rfl) hunset hs
  refine ⟨{}, _, hfile, hs, hprogram.1.trans hs,
    ⟨_, ht, hlisten.2 _ _ hs ht, hprogram.2 _ _ hs ht⟩, (Option.some.inj hcommand).symm, ?_⟩
  exact (hfails unusable).mpr (.inl ⟨_, _, .file rfl rfl, rfl⟩)

end DebugAdapter.Settings
