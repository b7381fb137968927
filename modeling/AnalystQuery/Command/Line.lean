import AnalystQuery.Command.Basic
import AnalystQuery.Settings.Loading

/-! Reading the command line. Options may stand anywhere, with their values attached or in the
next argument; an argument that begins with a hyphen is never taken for a value of its own. -/

namespace AnalystQuery.Command

inductive Name where
  | config
  | jsonLogs
  | index
  | context
  | timezone
  | execute
  | metrics
  | feedback
  | query
  | help
  | version
  deriving DecidableEq, Repr

structure Spelling where
  name : Name
  long : String
  short : Option Char
  takesValue : Bool
  emptyAllowed : Bool
  deriving DecidableEq, Repr

inductive Verb where
  | compile
  | refine
  | validate
  | resolveTime
  | examples
  | help
  deriving DecidableEq, Repr

private def valued (name : Name) (long : String) (short : Option Char) : Spelling :=
  ⟨name, long, short, true, true⟩

private def flag (name : Name) (long : String) (short : Option Char) : Spelling :=
  ⟨name, long, short, false, true⟩

def commonSpellings : List Spelling :=
  [valued .config "config" (some 'c'), flag .jsonLogs "json-logs" none,
    flag .help "help" (some 'h')]

private def indexSpelling : Spelling := valued .index "index" (some 'i')

private def timezoneSpelling : Spelling := valued .timezone "timezone" (some 't')

namespace Verb

def all : List Verb := [compile, refine, validate, resolveTime, examples, help]

def name : Verb → String
  | compile => "compile"
  | refine => "refine"
  | validate => "validate"
  | resolveTime => "resolve-time"
  | examples => "examples"
  | help => "help"

def spellings : Verb → List Spelling
  | compile => [indexSpelling, valued .context "context" none, timezoneSpelling,
      flag .execute "execute" (some 'e'), flag .metrics "metrics" none]
  | refine => [indexSpelling, valued .feedback "feedback" (some 'f'),
      ⟨.query, "dsl", some 'd', true, false⟩]
  | validate => [indexSpelling]
  | resolveTime => [timezoneSpelling]
  | examples => [indexSpelling]
  | help => []

def arity : Verb → Nat
  | compile => 1
  | refine => 1
  | validate => 1
  | resolveTime => 1
  | examples => 0
  | help => 0

end Verb

inductive LineEnd where
  | help
  | version
  | misuse
  deriving DecidableEq, Repr

structure Given where
  values : List (Name × String)
  arguments : List String
  deriving DecidableEq, Repr

namespace Given

def none : Given := ⟨[], []⟩

def has (given : Given) (name : Name) : Bool := given.values.any (·.1 == name)

def value? (given : Given) (name : Name) : Option String :=
  (given.values.find? (·.1 == name)).map (·.2)

/-- Takes a value; no name may be given twice. -/
def take (given : Given) (spelling : Spelling) (value : String) : Except LineEnd Given :=
  match spelling.name with
  | .help => .error .help
  | .version => .error .version
  | name =>
    if given.has name || (value = "" && !spelling.emptyAllowed) then .error .misuse
    else .ok { given with values := given.values ++ [(name, value)] }

end Given

inductive Pending where
  | nothing
  | value (spelling : Spelling)
  deriving DecidableEq, Repr

/-- Reads the letters of an argument such as `-ei`, up to one that takes a value. -/
def readLetters (spellings : List Spelling) (given : Given) :
    List Char → Except LineEnd (Given × Pending)
  | [] => .ok (given, .nothing)
  | letter :: rest =>
    match spellings.find? (·.short == some letter) with
    | none => .error .misuse
    | some spelling =>
      if spelling.takesValue then
        match rest with
        | [] => .ok (given, .value spelling)
        | '=' :: value => do pure (← given.take spelling (String.ofList value), .nothing)
        | value => do pure (← given.take spelling (String.ofList value), .nothing)
      else do readLetters spellings (← given.take spelling "") rest

/-- Reads an argument such as `--index=social` behind its hyphens. -/
def readWord (spellings : List Spelling) (given : Given) (word : List Char) :
    Except LineEnd (Given × Pending) :=
  let long := String.ofList (word.takeWhile (· != '='))
  match spellings.find? (·.long == long), word.dropWhile (· != '=') with
  | none, _ => .error .misuse
  | some spelling, '=' :: value =>
    if spelling.takesValue then do
      pure (← given.take spelling (String.ofList value), .nothing)
    else .error .misuse
  | some spelling, _ =>
    if spelling.takesValue then .ok (given, .value spelling)
    else do pure (← given.take spelling "", .nothing)

/-- A part of the command line: what may be given in it by name, how many arguments it has
without a name, and whether it ends with a verb. -/
structure Level where
  spellings : List Spelling
  arity : Nat
  emptyAllowed : Bool
  endsWithVerb : Bool
  deriving DecidableEq, Repr

/-- Reads the arguments of a level. Behind a double hyphen everything stands for itself. -/
def readLevel (level : Level) (given : Given) (pending : Pending) (arguments : List String) :
    Except LineEnd (Given × Option (Verb × List String)) :=
  match arguments with
  | [] => if pending = .nothing then .ok (given, none) else .error .misuse
  | argument :: rest =>
    match argument.toList with
    | ['-', '-'] =>
      if pending = .nothing then
        .ok ({ given with arguments := given.arguments ++ rest }, none)
      else .error .misuse
    | '-' :: '-' :: word =>
      if pending = .nothing then do
        let (given, pending) ← readWord level.spellings given word
        readLevel level given pending rest
      else .error .misuse
    | '-' :: letter :: letters =>
      if pending = .nothing then do
        let (given, pending) ← readLetters level.spellings given (letter :: letters)
        readLevel level given pending rest
      else .error .misuse
    | _ =>
      match pending with
      | .value spelling => do
        readLevel level (← given.take spelling argument) .nothing rest
      | .nothing =>
        match if level.endsWithVerb then Verb.all.find? (·.name == argument) else none with
        | some verb => .ok (given, some (verb, rest))
        | none =>
          if given.arguments.length < level.arity && (argument != "" || level.emptyAllowed) then
            readLevel level { given with arguments := given.arguments ++ [argument] } .nothing
              rest
          else .error .misuse

structure Invocation where
  config : Option String
  command : Command
  deriving DecidableEq, Repr

def defaultIndex : String := "communications"

private def index (given : Given) : String := (given.value? .index).getD defaultIndex

def ofGiven (verb : Verb) (given : Given) : Except LineEnd Command :=
  match verb, given.arguments with
  | .compile, [question] =>
    .ok (.compile question (index given) (given.value? .context) (given.value? .timezone)
      (given.has .execute) (given.has .metrics))
  | .refine, [question] =>
    match given.value? .feedback, given.value? .query with
    | some feedback, some file => .ok (.refine question (index given) feedback file)
    | _, _ => .error .misuse
  | .validate, [file] =>
    if file = "" then .error .misuse else .ok (.validate file (given.value? .index))
  | .resolveTime, [phrase] => .ok (.resolveTime phrase (given.value? .timezone))
  | .examples, [] => .ok (.examples (index given))
  | _, _ => .error .misuse

/-- What the arguments behind `help` come to. They name a verb, and no verb has verbs of its
own; nothing else may stand there. -/
def helpEnd : List String → LineEnd
  | [] => .help
  | [verb] => if Verb.all.any (·.name == verb) then .help else .misuse
  | _ => .misuse

def readLine (arguments : List String) : Except LineEnd Invocation := do
  let top := flag .version "version" (some 'V') :: commonSpellings
  let (outer, found) ← readLevel ⟨top, 0, true, true⟩ .none .nothing arguments
  match found with
  | none => .error .misuse
  | some (.help, rest) => .error (helpEnd rest)
  | some (verb, rest) =>
    let level : Level :=
      ⟨verb.spellings ++ commonSpellings, verb.arity, verb != .validate, false⟩
    let (inner, _) ← readLevel level .none .nothing rest
    let command ← ofGiven verb inner
    pure ⟨(inner.value? .config).or (outer.value? .config), command⟩

def versionLine : String := "querysmith 0.1.0\n"

def helpText : String :=
  "Usage: querysmith [OPTIONS] <COMMAND>\n\n" ++
  "Commands:\n" ++
  "  compile       Compile a question into a search DSL\n" ++
  "  refine        Refine a generated DSL with analyst feedback\n" ++
  "  validate      Run the security validator on a DSL file\n" ++
  "  resolve-time  Resolve a relative time phrase\n" ++
  "  examples      List example questions for an index\n"

structure Ending where
  printed : String
  metrics : Option String
  message : Option String
  exitCode : Nat
  deriving DecidableEq, Repr

def LineEnd.ending : LineEnd → Ending
  | help => ⟨helpText, none, none, 0⟩
  | version => ⟨versionLine, none, none, 0⟩
  | misuse => ⟨"", none, none, 2⟩

def Output.ending (output : Output) : Ending :=
  ⟨output.printed, output.metrics, output.failure.map Failure.message,
    if output.failure.isSome then 1 else 0⟩

def Invocation.settings (invocation : Invocation) (fileText : String → Except FileError String)
    (usualFileText : Settings.Place → String → Except FileError String) :
    Except SettingsError Settings :=
  match invocation.config with
  | some file => Settings.ofFile (fileText file)
  | none => Settings.load usualFileText

def settingsEnding (cause : SettingsError) : Ending :=
  ⟨"", none, some (Error.settings cause).message, 1⟩

end AnalystQuery.Command
