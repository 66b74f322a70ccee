import Tolerance.Text.Numeral
import Tolerance.Text.Quoted

namespace Tolerance

/-!
# Options

Options and arguments may be mixed.  What is no option of this program is kept
for the linter, in the order given: positional arguments, options that begin
with two dashes, and the unknown letters of a group of short options, which
stay together.  Two dashes alone end the options.

`--help` is left out.  It is no option of the program: the library that reads the
words answers it with a page of its own and ends the run.
-/

namespace CommandLine

/-- One use of an option. -/
inductive Occurrence where
  | baseline (path : Text)
  | update
  | tighten
  | failOnExcess (wanted : Bool)
  | showCode (written : Text)
  | format (name : Text)
  | inputFile (path : Text)
  | stdin (wanted : Bool)
  | config (path : Text)
  | verbose
  | version
  | configTemplate
  deriving Repr, DecidableEq

/-- Whether an option stands alone or takes a value. -/
inductive OptionKind where
  | flag (occurrence : Occurrence)
  | valued (occurrence : Text → Occurrence)

/-- The options with a long name. -/
def longOptions : List (Text × OptionKind) := [
  ("--baseline", .valued .baseline),
  ("--suppressions", .valued .baseline),
  ("--update", .flag .update),
  ("--tighten", .flag .tighten),
  ("--fail-on-excess", .flag (.failOnExcess true)),
  ("--no-fail-on-excess", .flag (.failOnExcess false)),
  ("--show-code", .valued .showCode),
  ("--format", .valued .format),
  ("--input-file", .valued .inputFile),
  ("--stdin", .flag (.stdin true)),
  ("--no-stdin", .flag (.stdin false)),
  ("--config", .valued .config),
  ("--verbose", .flag .verbose),
  ("--version", .flag .version),
  ("--config-template", .flag .configTemplate)]

/-- The options with a letter of their own. -/
def shortOptions : List (CodePoint × OptionKind) := [
  (0x73, .valued .baseline),
  (0x75, .flag .update),
  (0x76, .flag .verbose)]

/-- The long option of a name. -/
def longOption? (name : Text) : Option OptionKind :=
  (longOptions.find? fun entry => entry.1 = name).map Prod.snd

/-- The short option of a letter. -/
def shortOption? (letter : CodePoint) : Option OptionKind :=
  (shortOptions.find? fun entry => entry.1 = letter).map Prod.snd

/-- How a command line is misused. -/
inductive OptionFault where
  | missingValue (option : Text)
  | unexpectedValue (option : Text)
  deriving Repr, DecidableEq

namespace OptionFault

/-- The wording of a misuse. -/
def message : OptionFault → Text
  | .missingValue option => "Option " ++ option.quoted ++ " requires an argument."
  | .unexpectedValue option => "Option " ++ option.quoted ++ " does not take a value."

end OptionFault

/-- What one word of a command line holds. -/
structure Word where
  occurrences : List Occurrence := []
  /-- An option whose value is the next word, with the name that it goes by. -/
  awaiting : Option (Text × (Text → Occurrence)) := none
  /-- What is left for the linter. -/
  passedOn : List Text := []

/-- The part of a word before an equals sign, and the part behind it if there is one. -/
def splitAtEquals (word : Text) : Text × Option Text :=
  match word.dropWhile (· != 0x3d) with
  | _ :: value => (word.takeWhile (· != 0x3d), some value)
  | [] => (word, none)

/-- The option of a letter as it is named in messages. -/
def letterName (letter : CodePoint) : Text :=
  [0x2d, letter]

/-- Read the letters of a group of short options; the unknown ones are collected. -/
def readLetters (unknown : Text) : Text → Word
  | [] =>
      { passedOn := if unknown.isEmpty then [] else [0x2d :: unknown] }
  | letter :: rest =>
      match shortOption? letter with
      | none => readLetters (unknown ++ [letter]) rest
      | some (.flag occurrence) =>
          let word := readLetters unknown rest
          { word with occurrences := occurrence :: word.occurrences }
      | some (.valued occurrence) =>
          let passedOn := if unknown.isEmpty then [] else [0x2d :: unknown]
          if rest.isEmpty then
            { awaiting := some (letterName letter, occurrence), passedOn := passedOn }
          else
            { occurrences := [occurrence rest], passedOn := passedOn }

/-- Read a word that begins with a dash and is longer. -/
def readDashed (word : Text) : Except OptionFault Word :=
  let (name, value?) := splitAtEquals word
  match longOption? name, value? with
  | some (.flag occurrence), none => .ok { occurrences := [occurrence] }
  | some (.flag _), some _ => .error (.unexpectedValue name)
  | some (.valued occurrence), none => .ok { awaiting := some (name, occurrence) }
  | some (.valued occurrence), some value => .ok { occurrences := [occurrence value] }
  | none, _ =>
      match word with
      | 0x2d :: 0x2d :: _ => .ok { passedOn := [word] }
      | _ => .ok (readLetters [] (word.drop 1))

/-- Read a word. -/
def readWord (word : Text) : Except OptionFault Word :=
  match word with
  | 0x2d :: _ :: _ => readDashed word
  | _ => .ok { passedOn := [word] }

/-- A command line: the uses of options in order, and the arguments for the linter. -/
structure Parsed where
  occurrences : List Occurrence := []
  linterArguments : List Text := []
  deriving Repr, DecidableEq

namespace Parsed

/-- The command line with a word in front. -/
def behind (parsed : Parsed) (word : Word) : Parsed where
  occurrences := word.occurrences ++ parsed.occurrences
  linterArguments := word.passedOn ++ parsed.linterArguments

end Parsed

/-- Read the words of a command line. -/
def parse : List Text → Except OptionFault Parsed
  | [] => .ok {}
  | word :: rest =>
      if word = [0x2d, 0x2d] then
        .ok { linterArguments := rest }
      else
        match readWord word with
        | .error fault => .error fault
        | .ok read =>
            match read.awaiting with
            | none => (parse rest).map fun parsed => parsed.behind read
            | some (name, occurrence) =>
                match rest with
                | [] => .error (.missingValue name)
                | value :: later =>
                    (parse later).map fun parsed =>
                      parsed.behind
                        { read with occurrences := read.occurrences ++ [occurrence value] }

end CommandLine

end Tolerance
