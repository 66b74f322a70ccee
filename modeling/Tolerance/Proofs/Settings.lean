import Tolerance.Proofs.Outcome
import Tolerance.Settings

namespace Tolerance.Settings

/-!
# What a table of settings says

Every setting is described by itself: it has its default where its key is
missing, and else it is what the value says.  A table is read exactly if none of
the values it has for known keys says nothing, and then to the settings that it
describes.
-/

open Outcome

variable {Value : Type} {table : Toml.Table} {key : Text}

/-- A setting has its default where its key is missing, and else what the value says. -/
def Reads
    (Says : Toml → Value → Prop)
    (default : Value)
    (table : Toml.Table)
    (key : Text)
    (setting : Value) :
    Prop :=
  match Toml.field? key table with
  | none => setting = default
  | some value => Says value setting

/-- A key is missing, or its value says something. -/
def Proper
    (Says : Toml → Value → Prop)
    (table : Toml.Table)
    (key : Text) :
    Prop :=
  ∀ value, Toml.field? key table = some value → ∃ setting, Says value setting

theorem exists_reads_iff
    {Says : Toml → Value → Prop}
    {default : Value} :
    (∃ setting, Reads Says default table key setting) ↔ Proper Says table key := by
  unfold Reads Proper
  cases Toml.field? key table with
  | none => simp
  | some value => simp

/-! ## What a value says -/

def SaysText (value : Toml) (text : Text) : Prop :=
  value = .string text

def SaysBoolean (value : Toml) (holds : Bool) : Prop :=
  value = .boolean holds

def SaysInteger (value : Toml) (number : Int) : Prop :=
  value = .integer number

/-- A number of diagnostics is a whole number that is not negative. -/
def SaysCount (value : Toml) (count : Int) : Prop :=
  SaysInteger value count ∧ 0 ≤ count

/-- A form is named in capital or small letters. -/
def SaysFormat (value : Toml) (format : ReportFormat) : Prop :=
  ∃ name, SaysText value name ∧ name.toLowerAscii = format.name

def SaysTable (value : Toml) (table : Toml.Table) : Prop :=
  value = .table table

/-- An array of texts is an array of nothing else. -/
def SaysTexts (value : Toml) (texts : List Text) : Prop :=
  value = .array (texts.map .string)

/-- A command has at least one word. -/
def SaysCommand (value : Toml) (command : Option (List Text)) : Prop :=
  ∃ words, SaysTexts value words ∧ words ≠ [] ∧ command = some words

/-- Settings are described by the table of the file at a path. -/
inductive Describes
    (source : Path)
    (table : Toml.Table)
    (settings : Settings) :
    Prop where
  | fields (linter : Toml.Table)
      (linterTable : Reads SaysTable [] table "linter" linter)
      (showCode : Reads SaysCount 3 table "show_code" settings.showCode)
      (format : Reads SaysFormat .human table "format" settings.format)
      (command : Reads SaysCommand none linter "command" settings.command)
      (baseline :
        Reads SaysText Baseline.defaultPath table "baseline" settings.baseline)
      (failOnExcess :
        Reads SaysBoolean true table "fail_on_excess" settings.failOnExcess)
      (arguments : Reads SaysTexts [] linter "args" settings.arguments)
      (found : settings.source = some source) :
      Describes source table settings

/-- Every known key of a table is missing or has a value that says something. -/
structure Valid (table : Toml.Table) : Prop where
  linter : Proper SaysTable table "linter"
  showCode : Proper SaysCount table "show_code"
  format : Proper SaysFormat table "format"
  command :
    ∀ linter, Reads SaysTable [] table "linter" linter →
      Proper SaysCommand linter "command"
  baseline : Proper SaysText table "baseline"
  failOnExcess : Proper SaysBoolean table "fail_on_excess"
  arguments :
    ∀ linter, Reads SaysTable [] table "linter" linter →
      Proper SaysTexts linter "args"

/-! ## Each setting is read as it is described -/

theorem textSetting_eq_ok_iff
    {default text : Text} :
    textSetting table key default = .ok text ↔
      Reads SaysText default table key text := by
  unfold textSetting Reads SaysText
  cases Toml.field? key table with
  | none => simp [eq_comm]
  | some value => cases value <;> simp

theorem integerSetting_eq_ok_iff
    {default number : Int} :
    integerSetting table key default = .ok number ↔
      Reads SaysInteger default table key number := by
  unfold integerSetting Reads SaysInteger
  cases Toml.field? key table with
  | none => simp [eq_comm]
  | some value => cases value <;> simp

theorem booleanSetting_eq_ok_iff
    {default holds : Bool} :
    booleanSetting table key default = .ok holds ↔
      Reads SaysBoolean default table key holds := by
  unfold booleanSetting Reads SaysBoolean
  cases Toml.field? key table with
  | none => simp [eq_comm]
  | some value => cases value <;> simp

theorem linterTable_eq_ok_iff
    {linter : Toml.Table} :
    linterTable table = .ok linter ↔ Reads SaysTable [] table "linter" linter := by
  unfold linterTable Reads SaysTable
  cases Toml.field? "linter" table with
  | none => simp [eq_comm]
  | some value => cases value <;> simp

theorem texts?_eq_some_iff
    {items : List Toml}
    {texts : List Text} :
    texts? items = some texts ↔ items = texts.map .string := by
  induction items generalizing texts with
  | nil =>
      cases texts <;> simp [texts?]
  | cons item rest inductionHypothesis =>
      cases item with
      | string text =>
          cases texts with
          | nil => simp [texts?]
          | cons first others =>
              rw [texts?, Option.map_eq_some_iff]
              constructor
              · rintro ⟨_, found, same⟩
                cases same
                rw [inductionHypothesis.mp found]
                rfl
              · intro same
                cases same
                exact ⟨others, inductionHypothesis.mpr rfl, rfl⟩
      | _ =>
          cases texts <;> simp [texts?]

theorem textList_eq_ok_iff
    {value : Toml}
    {texts : List Text} :
    textList key value = .ok texts ↔ SaysTexts value texts := by
  unfold textList SaysTexts
  cases value with
  | array items =>
      rw [Toml.array.injEq, ← texts?_eq_some_iff]
      dsimp only
      cases texts? items <;> simp
  | _ => simp

/-- A setting that was read goes through one more step, and its default does too. -/
private theorem exists_reads_and_iff
    {Result : Type}
    {Says : Toml → Value → Prop}
    {SaysThen : Toml → Result → Prop}
    {default : Value}
    {defaultThen result : Result}
    {next : Value → Except Fault Result}
    (ofDefault : next default = .ok defaultThen)
    (ofValue :
      ∀ value,
        (∃ setting, Says value setting ∧ next setting = .ok result) ↔
          SaysThen value result) :
    (∃ setting, Reads Says default table key setting ∧ next setting = .ok result) ↔
      Reads SaysThen defaultThen table key result := by
  unfold Reads
  cases Toml.field? key table with
  | none => simp [ofDefault, eq_comm]
  | some value => exact ofValue value

theorem showCodeSetting_eq_ok_iff
    {count : Int} :
    showCodeSetting table = .ok count ↔
      Reads SaysCount 3 table "show_code" count := by
  rw [showCodeSetting, bind_eq_ok_iff]
  simp only [integerSetting_eq_ok_iff]
  refine exists_reads_and_iff rfl fun value => ?_
  constructor
  · rintro ⟨number, isNumber, checked⟩
    split at checked
    · cases checked
    · next notNegative =>
        cases checked
        exact ⟨isNumber, by omega⟩
  · rintro ⟨isNumber, notNegative⟩
    refine ⟨count, isNumber, ?_⟩
    rw [if_neg (by omega)]
    rfl

theorem ofName?_eq_some_iff
    {name : Text}
    {format : ReportFormat} :
    ReportFormat.ofName? name = some format ↔ name.toLowerAscii = format.name := by
  have apart : ReportFormat.human.name ≠ ReportFormat.json.name := by
    decide +kernel
  unfold ReportFormat.ofName?
  dsimp only
  split
  · next isHuman =>
      rw [isHuman]
      cases format with
      | human => exact iff_of_true rfl rfl
      | json => exact iff_of_false (by simp) apart
  · next notHuman =>
      split
      · next isJson =>
          rw [isJson]
          cases format with
          | human => exact iff_of_false (by simp) apart.symm
          | json => exact iff_of_true rfl rfl
      · next notJson =>
          cases format with
          | human => exact iff_of_false (by simp) notHuman
          | json => exact iff_of_false (by simp) notJson

theorem formatSetting_eq_ok_iff
    {format : ReportFormat} :
    formatSetting table = .ok format ↔
      Reads SaysFormat .human table "format" format := by
  have readsDefault : ReportFormat.ofName? "human" = some .human := by
    decide +kernel
  rw [formatSetting, bind_eq_ok_iff]
  simp only [textSetting_eq_ok_iff]
  refine exists_reads_and_iff (by rw [readsDefault]; rfl) fun value => ?_
  refine exists_congr fun name => and_congr_right fun _ => ?_
  rw [← ofName?_eq_some_iff]
  cases ReportFormat.ofName? name with
  | none => exact iff_of_false nofun nofun
  | some found => simp [pure, Except.pure]

theorem commandSetting_eq_ok_iff
    {linter : Toml.Table}
    {command : Option (List Text)} :
    commandSetting linter = .ok command ↔
      Reads SaysCommand none linter "command" command := by
  unfold commandSetting Reads
  cases Toml.field? "command" linter with
  | none => simp [eq_comm]
  | some value =>
      dsimp only
      rw [bind_eq_ok_iff]
      simp only [textList_eq_ok_iff]
      refine exists_congr fun words => and_congr_right fun _ => ?_
      cases words with
      | nil => exact iff_of_false nofun fun some => some.1 rfl
      | cons first others =>
          constructor
          · intro same
            cases same
            exact ⟨List.cons_ne_nil _ _, rfl⟩
          · rintro ⟨_, rfl⟩
            rfl

theorem argumentsSetting_eq_ok_iff
    {linter : Toml.Table}
    {arguments : List Text} :
    argumentsSetting linter = .ok arguments ↔
      Reads SaysTexts [] linter "args" arguments := by
  unfold argumentsSetting Reads
  cases Toml.field? "args" linter with
  | none => simp [eq_comm]
  | some value => exact textList_eq_ok_iff

/-- A table is read to the settings that it describes. -/
theorem ofTable_eq_ok_iff
    {source : Path}
    {settings : Settings} :
    ofTable source table = .ok settings ↔ Describes source table settings := by
  simp only [ofTable, bind_eq_ok_iff, linterTable_eq_ok_iff, showCodeSetting_eq_ok_iff,
    formatSetting_eq_ok_iff, commandSetting_eq_ok_iff, textSetting_eq_ok_iff,
    booleanSetting_eq_ok_iff, argumentsSetting_eq_ok_iff]
  constructor
  · rintro ⟨linter, linterTable, showCode, isShowCode, format, isFormat, command,
      isCommand, baseline, isBaseline, failOnExcess, isFailOnExcess, arguments,
      isArguments, same⟩
    cases same
    exact .fields linter linterTable isShowCode isFormat isCommand isBaseline
      isFailOnExcess isArguments rfl
  · rintro ⟨linter, linterTable, showCode, format, command, baseline, failOnExcess,
      arguments, found⟩
    refine ⟨linter, linterTable, _, showCode, _, format, _, command, _, baseline, _,
      failOnExcess, _, arguments, ?_⟩
    cases settings
    cases found
    rfl

/-- A table describes settings exactly if none of its values says nothing. -/
theorem exists_describes_iff
    {source : Path} :
    (∃ settings, Describes source table settings) ↔ Valid table := by
  constructor
  · rintro ⟨settings, linter, linterTable, showCode, format, command, baseline,
      failOnExcess, arguments, _⟩
    have sameLinter :
        ∀ other, Reads SaysTable [] table "linter" other → other = linter := by
      intro other isOther
      exact
        Except.ok.inj
          ((linterTable_eq_ok_iff.mpr isOther).symm.trans
            (linterTable_eq_ok_iff.mpr linterTable))
    exact {
      linter := exists_reads_iff.mp ⟨linter, linterTable⟩
      showCode := exists_reads_iff.mp ⟨_, showCode⟩
      format := exists_reads_iff.mp ⟨_, format⟩
      command := fun other isOther =>
        sameLinter other isOther ▸ exists_reads_iff.mp ⟨_, command⟩
      baseline := exists_reads_iff.mp ⟨_, baseline⟩
      failOnExcess := exists_reads_iff.mp ⟨_, failOnExcess⟩
      arguments := fun other isOther =>
        sameLinter other isOther ▸ exists_reads_iff.mp ⟨_, arguments⟩
    }
  · intro valid
    obtain ⟨linter, linterTable⟩ := exists_reads_iff.mpr valid.linter
    obtain ⟨showCode, isShowCode⟩ := exists_reads_iff.mpr valid.showCode
    obtain ⟨format, isFormat⟩ := exists_reads_iff.mpr valid.format
    obtain ⟨command, isCommand⟩ := exists_reads_iff.mpr (valid.command linter linterTable)
    obtain ⟨baseline, isBaseline⟩ := exists_reads_iff.mpr valid.baseline
    obtain ⟨failOnExcess, isFailOnExcess⟩ := exists_reads_iff.mpr valid.failOnExcess
    obtain ⟨arguments, isArguments⟩ :=
      exists_reads_iff.mpr (valid.arguments linter linterTable)
    exact
      ⟨⟨baseline, failOnExcess, showCode, format, command, arguments, some source⟩,
        .fields linter linterTable isShowCode isFormat isCommand isBaseline
          isFailOnExcess isArguments rfl⟩

/-- A file that sets nothing leaves every setting at its default. -/
theorem describes_default (source : Path) :
    Describes source [] { source := some source } :=
  .fields [] rfl rfl rfl rfl rfl rfl rfl rfl

/-- A table is refused exactly if one of its values says nothing. -/
theorem exists_ofTable_eq_error_iff
    {source : Path} :
    (∃ fault, ofTable source table = .error fault) ↔ ¬Valid table := by
  have read : (∃ settings, ofTable source table = .ok settings) ↔ Valid table := by
    simp only [ofTable_eq_ok_iff]
    exact exists_describes_iff
  rw [← read]
  cases ofTable source table with
  | error fault => simp
  | ok settings => simp

/-! ## What is wrong with a table that is refused -/

/-- A fault names a key of which the value is not what it has to be. -/
inductive Blames (table : Toml.Table) : Fault → Prop where
  | linter
      (improper : ¬Proper SaysTable table "linter") :
      Blames table .linterNotATable
  | noInteger
      (improper : ¬Proper SaysInteger table "show_code") :
      Blames table (.wrongKind "show_code" "an integer")
  | negative
      (improper : ¬Proper SaysCount table "show_code") :
      Blames table .negativeShowCode
  | noText (key : Text)
      (isKey : key = "format" ∨ key = "baseline")
      (improper : ¬Proper SaysText table key) :
      Blames table (.wrongKind key "a string")
  | unknownFormat
      (improper : ¬Proper SaysFormat table "format") :
      Blames table .unknownFormat
  | noBoolean
      (improper : ¬Proper SaysBoolean table "fail_on_excess") :
      Blames table (.wrongKind "fail_on_excess" "a boolean")
  | noCommand (linter : Toml.Table)
      (linterTable : Reads SaysTable [] table "linter" linter)
      (improper : ¬Proper SaysTexts linter "command") :
      Blames table (.notStrings "linter.command")
  | emptyCommand (linter : Toml.Table)
      (linterTable : Reads SaysTable [] table "linter" linter)
      (improper : ¬Proper SaysCommand linter "command") :
      Blames table .emptyCommand
  | noArguments (linter : Toml.Table)
      (linterTable : Reads SaysTable [] table "linter" linter)
      (improper : ¬Proper SaysTexts linter "args") :
      Blames table (.notStrings "linter.args")

section Blames

variable {fault : Fault}

/-- A setting that is not read has an improper value. -/
private theorem not_proper_of_eq_error
    {Says : Toml → Value → Prop}
    {default : Value}
    {answer : Except Fault Value}
    (reads : ∀ {setting}, answer = .ok setting ↔ Reads Says default table key setting)
    (failed : answer = .error fault) :
    ¬Proper Says table key := by
  intro proper
  obtain ⟨setting, isSetting⟩ : ∃ setting, Reads Says default table key setting :=
    exists_reads_iff.mpr proper
  rw [reads.mpr isSetting] at failed
  cases failed

private theorem blames_of_linterTable
    (failed : linterTable table = .error fault) :
    Blames table fault := by
  have improper := not_proper_of_eq_error linterTable_eq_ok_iff failed
  unfold linterTable at failed
  split at failed
  · cases failed
  · cases failed
  · cases failed
    exact .linter improper

private theorem blames_of_textSetting
    {default : Text}
    (isKey : key = "format" ∨ key = "baseline")
    (failed : textSetting table key default = .error fault) :
    Blames table fault := by
  have improper := not_proper_of_eq_error textSetting_eq_ok_iff failed
  unfold textSetting at failed
  split at failed
  · cases failed
  · cases failed
  · cases failed
    exact .noText key isKey improper

private theorem blames_of_booleanSetting
    {default : Bool}
    (failed : booleanSetting table "fail_on_excess" default = .error fault) :
    Blames table fault := by
  have improper := not_proper_of_eq_error booleanSetting_eq_ok_iff failed
  unfold booleanSetting at failed
  split at failed
  · cases failed
  · cases failed
  · cases failed
    exact .noBoolean improper

private theorem blames_of_showCodeSetting
    (failed : showCodeSetting table = .error fault) :
    Blames table fault := by
  have improper := not_proper_of_eq_error showCodeSetting_eq_ok_iff failed
  rw [showCodeSetting] at failed
  rcases bind_eq_error_iff.mp failed with notRead | ⟨number, _, negative⟩
  · have noInteger := not_proper_of_eq_error integerSetting_eq_ok_iff notRead
    unfold integerSetting at notRead
    split at notRead
    · cases notRead
    · cases notRead
    · cases notRead
      exact .noInteger noInteger
  · split at negative
    · cases negative
      exact .negative improper
    · cases negative

private theorem blames_of_formatSetting
    (failed : formatSetting table = .error fault) :
    Blames table fault := by
  have improper := not_proper_of_eq_error formatSetting_eq_ok_iff failed
  rw [formatSetting] at failed
  rcases bind_eq_error_iff.mp failed with notRead | ⟨name, _, unknown⟩
  · exact blames_of_textSetting (Or.inl rfl) notRead
  · split at unknown
    · cases unknown
    · cases unknown
      exact .unknownFormat improper

/-- A value that is no array of texts is refused under the name of its setting. -/
private theorem eq_notStrings_of_textList
    {value : Toml}
    (failed : textList key value = .error fault) :
    fault = .notStrings key := by
  unfold textList at failed
  split at failed
  · split at failed
    · cases failed
    · cases failed
      rfl
  · cases failed
    rfl

private theorem not_proper_of_textList
    {name : Text}
    {value : Toml}
    (found : Toml.field? name table = some value)
    (failed : textList key value = .error fault) :
    ¬Proper SaysTexts table name := by
  intro proper
  obtain ⟨texts, isTexts⟩ := proper value found
  rw [textList_eq_ok_iff.mpr isTexts] at failed
  cases failed

variable {linter : Toml.Table}
  (isLinter : Reads SaysTable [] table "linter" linter)
include isLinter

private theorem blames_of_commandSetting
    (failed : commandSetting linter = .error fault) :
    Blames table fault := by
  have improper := not_proper_of_eq_error commandSetting_eq_ok_iff failed
  unfold commandSetting at failed
  split at failed
  · cases failed
  · next value found =>
      rcases bind_eq_error_iff.mp failed with notRead | ⟨words, _, empty⟩
      · rw [eq_notStrings_of_textList notRead]
        exact .noCommand linter isLinter (not_proper_of_textList found notRead)
      · split at empty
        · cases empty
          exact .emptyCommand linter isLinter improper
        · cases empty

private theorem blames_of_argumentsSetting
    (failed : argumentsSetting linter = .error fault) :
    Blames table fault := by
  unfold argumentsSetting at failed
  split at failed
  · cases failed
  · next value found =>
      rw [eq_notStrings_of_textList failed]
      exact .noArguments linter isLinter (not_proper_of_textList found failed)

end Blames

/-- A table that is refused is refused for a key of which the value is at fault. -/
theorem blames_of_ofTable
    {source : Path}
    {fault : Fault}
    (failed : ofTable source table = .error fault) :
    Blames table fault := by
  unfold ofTable at failed
  rcases bind_eq_error_iff.mp failed with failed | ⟨linter, readLinter, failed⟩
  · exact blames_of_linterTable failed
  have isLinter := linterTable_eq_ok_iff.mp readLinter
  rcases bind_eq_error_iff.mp failed with failed | ⟨_, _, failed⟩
  · exact blames_of_showCodeSetting failed
  rcases bind_eq_error_iff.mp failed with failed | ⟨_, _, failed⟩
  · exact blames_of_formatSetting failed
  rcases bind_eq_error_iff.mp failed with failed | ⟨_, _, failed⟩
  · exact blames_of_commandSetting isLinter failed
  rcases bind_eq_error_iff.mp failed with failed | ⟨_, _, failed⟩
  · exact blames_of_textSetting (Or.inr rfl) failed
  rcases bind_eq_error_iff.mp failed with failed | ⟨_, _, failed⟩
  · exact blames_of_booleanSetting failed
  rcases bind_eq_error_iff.mp failed with failed | ⟨_, _, failed⟩
  · exact blames_of_argumentsSetting isLinter failed
  cases failed

end Tolerance.Settings
