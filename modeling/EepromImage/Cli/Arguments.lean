/-
Reading command lines.

A command line has two levels: the options before the word that names the task, and the
options and words behind it.  Some options may stand on either level; the deeper one counts.

* **readAddress?** — an address: hexadecimal behind `0x`, or decimal, with underscores
  anywhere among the digits;
* **scan** — the options and words of one level, in order, up to the first that is refused or
  answers by itself;
* **parse** — what the command line asks for.
-/
import EepromImage.Cli.Task

namespace EepromImage

/-! ### Addresses -/

namespace Cli

/-- The digits of an address with the base they are in. -/
def splitBase : List Char → Nat × List Char
  | '0' :: 'x' :: digits => (16, digits)
  | '0' :: 'X' :: digits => (16, digits)
  | digits => (10, digits)

/-- The address of 32 bits that is written, white space at the ends aside. -/
def readAddress? (text : String) : Option UInt32 :=
  let (base, digits) := splitBase (Text.trim text.toList)
  (Numeral.readBelow? UInt32.size base (digits.filter (· ≠ '_'))).map UInt32.ofNat

/-! ### Options -/

/-- What an option settles. -/
inductive Setting
  | format (f : Report.Format)
  | logFormat (f : Log.Format)
  | logLevel (l : Log.Level)
  | output (path : String)
  | emit (kind : ArtifactKind)
  | eofRecord
  | baseAddress (address : UInt32)
  | frameSize (n : Nat)
  | slots (n : Nat)
  | binary
  | extended
deriving DecidableEq, Repr

/-- What an option does. -/
inductive Effect
  /-- It settles something by being there. -/
  | flag (setting : Setting)
  /-- It settles something by its value, which may be refused. -/
  | valued (read : String → Option Setting)
  /-- It prints the help and ends the program. -/
  | help
  /-- It prints the version and ends the program. -/
  | version

/-- An option. -/
structure OptionSpec where
  /-- The name behind two dashes. -/
  name : String
  /-- The letter behind one dash. -/
  letter : Option Char := none
  effect : Effect

/-- The value of an enumeration with this name. -/
def named? {α : Type} (all : List α) (name : α → String) (word : String) : Option α :=
  all.find? fun a => name a = word

/-- A path may not be empty. -/
def path? (text : String) : Option String :=
  if text.isEmpty then none else some text

/-- A count of 64 bits. -/
def count? (text : String) : Option Nat :=
  Numeral.readBelow? UInt64.size 10 text.toList

def logLevel? (text : String) : Option Log.Level :=
  named? Log.Level.all Log.Level.name text

/-- The options of both levels. -/
def sharedOptions : List OptionSpec := [
  ⟨"format", none, .valued fun v =>
    (named? Report.Format.all Report.Format.name v).map .format⟩,
  ⟨"log-format", none, .valued fun v =>
    (named? Log.Format.all Log.Format.name v).map .logFormat⟩,
  ⟨"log-level", none, .valued fun v => (logLevel? v).map .logLevel⟩,
  ⟨"help", some 'h', .help⟩]

/-- The options in front of the task. -/
def topOptions : List OptionSpec :=
  sharedOptions ++ [⟨"version", some 'V', .version⟩]

/-- The tasks by name. -/
inductive TaskName
  | compile
  | check
  | inspect
  | catalog
  | version
deriving DecidableEq, Repr

def TaskName.all : List TaskName :=
  [.compile, .check, .inspect, .catalog, .version]

def TaskName.text : TaskName → String
  | .compile => "compile"
  | .check => "check"
  | .inspect => "inspect"
  | .catalog => "catalog"
  | .version => "version"

/-- The options behind a task. -/
def TaskName.options (task : TaskName) : List OptionSpec :=
  sharedOptions ++ match task with
    | .compile => [
      ⟨"output", some 'o', .valued fun v => (path? v).map .output⟩,
      ⟨"emit", none, .valued fun v =>
        (named? ArtifactKind.all ArtifactKind.name v).map .emit⟩,
      ⟨"eof-record", none, .flag .eofRecord⟩,
      ⟨"base-address", none, .valued fun v => (readAddress? v).map .baseAddress⟩]
    | .inspect => [
      ⟨"frame-size", none, .valued fun v => (count? v).map .frameSize⟩,
      ⟨"slots", none, .valued fun v => (count? v).map .slots⟩,
      ⟨"binary", none, .flag .binary⟩]
    | .version => [⟨"extended", none, .flag .extended⟩]
    | .check | .catalog => []

/-- How many files a task is about. -/
def TaskName.files : TaskName → Nat
  | .compile | .check | .inspect => 1
  | .catalog | .version => 0

/-! ### Refusals -/

/-- Why a command line is refused. -/
inductive Refusal
  | unknownOption (arg : String)
  /-- The option takes no value. -/
  | needlessValue (name : String)
  | missingValue (name : String)
  | badValue (name value : String)
  /-- The option is given twice on one level. -/
  | repeated (name : String)
  | unknownTask (word : String)
  | missingTask
  | surplusWord (word : String)
  | missingFile
  | badEnvironment (value : String)
deriving DecidableEq, Repr

/-- What ends the reading of a command line early. -/
inductive Stop
  | refused (why : Refusal)
  | help
  | version

/-! ### One level -/

/-- The options and words of a level. -/
structure Given where
  settings : List Setting := []
  /-- The names of the options met so far. -/
  names : List String := []
  words : List String := []

/-- The setting of a kind, if it was given. -/
def Given.find? {α : Type} (g : Given) (pick : Setting → Option α) : Option α :=
  g.settings.findSome? pick

/-- The level with one more option. -/
def Given.add (g : Given) (name : String) (setting : Setting) : Except Stop Given :=
  if g.names.contains name then .error (.refused (.repeated name))
  else .ok { g with settings := g.settings ++ [setting], names := name :: g.names }

/-- The level with one more value of an option. -/
def Given.addValue (g : Given) (name : String) (read : String → Option Setting)
    (value : String) : Except Stop Given :=
  match read value with
  | some setting => g.add name setting
  | none => .error (.refused (.badValue name value))

/-- The level with one more word, of which a level takes only so many. -/
def Given.addWord (capacity : Nat) (g : Given) (word : String) : Except Stop Given :=
  if capacity ≤ g.words.length then .error (.refused (.surplusWord word))
  else if word.isEmpty then .error (.refused .missingFile)
  else .ok { g with words := g.words ++ [word] }

/-- How an option is called. -/
inductive Call
  | name (name : String)
  | letter (letter : Char)
deriving DecidableEq, Repr

/-- Whether an option is called so. -/
def OptionSpec.answersTo (o : OptionSpec) : Call → Bool
  | .name name => o.name = name
  | .letter letter => o.letter = some letter

/-- An argument taken apart. -/
inductive Shape
  /-- Two dashes alone: only words follow. -/
  | escape
  /-- An option, with the value attached to it. -/
  | option (call : Call) (value : Option String)
  | word
deriving DecidableEq, Repr

/-- The text in front of the first equals sign, and the text behind it. -/
def splitAtEquals (cs : List Char) : String × Option String :=
  let name := String.ofList (cs.takeWhile (· ≠ '='))
  match cs.dropWhile (· ≠ '=') with
  | _ :: value => (name, some (String.ofList value))
  | [] => (name, none)

/-- What stands behind the letter of an option: nothing, or its value, where an equals sign
does not count. -/
def splitAtLetter : List Char → Option String
  | [] => none
  | '=' :: value => some (String.ofList value)
  | value => some (String.ofList value)

/-- The shape of an argument; a single dash is a word. -/
def Shape.of (arg : String) : Shape :=
  match arg.toList with
  | ['-', '-'] => .escape
  | '-' :: '-' :: cs =>
    let (name, value) := splitAtEquals cs
    .option (.name name) value
  | '-' :: letter :: rest => .option (.letter letter) (splitAtLetter rest)
  | _ => .word

/-- What an option does when it is met: it adds to the level, or it waits for a value in the
next argument. -/
inductive Met
  | done (g : Given)
  | waiting (read : String → Option Setting)

/-- An option that answers by itself; only behind its letter may something stand. -/
def stopBy (stop : Stop) (name : String) : Call → Option String → Stop
  | .name _, some _ => .refused (.needlessValue name)
  | _, _ => stop

/-- The effect of an option with the value attached to it. -/
def Given.meet (g : Given) (spec : OptionSpec) (call : Call) (value : Option String) :
    Except Stop Met :=
  match spec.effect, value with
  | .flag _, some _ => .error (.refused (.needlessValue spec.name))
  | .flag setting, none => (g.add spec.name setting).map .done
  | .valued read, some v => (g.addValue spec.name read v).map .done
  | .valued read, none => .ok (.waiting read)
  | .help, value => .error (stopBy .help spec.name call value)
  | .version, value => .error (stopBy .version spec.name call value)

/-- Which words a level takes. -/
inductive WordRule
  /-- One, which ends the level. -/
  | task
  /-- So many files. -/
  | files (capacity : Nat)

/-- The options and words of a level, and the arguments that belong to the next one. -/
def scan (options : List OptionSpec) (rule : WordRule) :
    Given → List String → Except Stop (Given × List String)
  | g, [] => .ok (g, [])
  | g, arg :: rest =>
    match Shape.of arg with
    | .escape =>
      match rule, rest with
      | .task, [] => .ok (g, [])
      | .task, word :: _ => .error (.refused (.surplusWord word))
      | .files capacity, words =>
        (words.foldlM (Given.addWord capacity) g).map fun g => (g, [])
    | .word =>
      match rule with
      | .task => .ok ({ g with words := [arg] }, rest)
      | .files capacity =>
        match g.addWord capacity arg with
        | .error stop => .error stop
        | .ok g => scan options rule g rest
    | .option call value =>
      match options.find? fun o => o.answersTo call with
      | none => .error (.refused (.unknownOption arg))
      | some spec =>
        match g.meet spec call value, rest with
        | .error stop, _ => .error stop
        | .ok (.done g), rest => scan options rule g rest
        | .ok (.waiting _), [] => .error (.refused (.missingValue spec.name))
        | .ok (.waiting read), next :: rest =>
          if Shape.of next ≠ .word then .error (.refused (.missingValue spec.name))
          else
            match g.addValue spec.name read next with
            | .error stop => .error stop
            | .ok g => scan options rule g rest

/-! ### Command lines -/

def Setting.format? : Setting → Option Report.Format
  | .format f => some f
  | _ => none

def Setting.logFormat? : Setting → Option Log.Format
  | .logFormat f => some f
  | _ => none

def Setting.logLevel? : Setting → Option Log.Level
  | .logLevel l => some l
  | _ => none

/-- What is given on a level or, failing that, on the one above it. -/
def deeper {α : Type} (top sub : Given) (pick : Setting → Option α) : Option α :=
  (sub.find? pick).or (top.find? pick)

/-- The log level of the environment, which is looked at unless both levels give one. -/
def environmentLevel (environment : Option String) (top sub : Given) :
    Except Stop (Option Log.Level) :=
  match environment with
  | none => .ok none
  | some value =>
    match logLevel? value with
    | some level => .ok (some level)
    | none =>
      if (top.find? Setting.logLevel?).isSome && (sub.find? Setting.logLevel?).isSome then
        .ok none
      else .error (.refused (.badEnvironment value))

/-- How to print and log. -/
def settingsOf (standard : Report.Format) (environment : Option String) (top sub : Given) :
    Except Stop Settings := do
  let level ← environmentLevel environment top sub
  return {
    format := (deeper top sub Setting.format?).getD standard
    logFormat := (deeper top sub Setting.logFormat?).getD .text
    logLevel := ((deeper top sub Setting.logLevel?).or level).getD .info }

/-- The file that a task is about. -/
def Given.file (g : Given) : Except Stop String :=
  match g.words with
  | [] => .error (.refused .missingFile)
  | file :: _ => .ok file

/-- The task with its options. -/
def taskOf (name : TaskName) (g : Given) : Except Stop Task :=
  match name with
  | .compile => do
    return .compile {
      table := ← g.file
      output := g.find? fun | .output p => some p | _ => none
      emit := g.find? fun | .emit k => some k | _ => none
      eofRecord := g.settings.contains .eofRecord
      baseAddress := g.find? fun | .baseAddress a => some a | _ => none }
  | .check => g.file.map .check
  | .inspect => do
    return .inspect {
      image := ← g.file
      frameSize := (g.find? fun | .frameSize n => some n | _ => none).getD defaultFrameSize
      slots := g.find? fun | .slots n => some n | _ => none
      binary := g.settings.contains .binary }
  | .catalog => .ok .catalog
  | .version => .ok (.version (g.settings.contains .extended))

/-- The word that asks for help on the program or on a task. -/
def helpWord : String := "help"

/-- Help on the tasks named by the words. -/
def helpOn (words : List String) : Stop :=
  match words with
  | [] => .help
  | [word] =>
    if word = helpWord || (named? TaskName.all TaskName.text word).isSome then .help
    else .refused (.unknownTask word)
  | word :: _ => .refused (.unknownTask word)

/-- What the command line asks for.  `standard` is the form of reports where none is asked
for, `environment` the log level that the environment gives. -/
def parse (standard : Report.Format) (environment : Option String) (args : List String) :
    Except Stop (Settings × Task) := do
  let (top, rest) ← scan topOptions .task {} args
  match top.words with
  | [] => .error (.refused .missingTask)
  | word :: _ =>
    if word = helpWord then .error (helpOn rest)
    else
      match named? TaskName.all TaskName.text word with
      | none => .error (.refused (.unknownTask word))
      | some name =>
        let (sub, _) ← scan name.options (.files name.files) {} rest
        let task ← taskOf name sub
        return (← settingsOf standard environment top sub, task)

end Cli

end EepromImage
