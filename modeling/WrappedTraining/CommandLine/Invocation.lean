import WrappedTraining.CommandLine.SubmitOptions

/-!
# Invocations

An `Invocation` is a command line that was understood: a command, where to look for jobs, and in
which form to answer. `Invocation.read` reads it. Global options are given before or after the name
of the command, and the later level wins; the namespace has a default that the environment can
replace.
-/

namespace WrappedTraining.CommandLine

/-- The form of an answer. -/
inductive OutputFormat where
  | human
  | json
  | yaml
deriving DecidableEq, Inhabited

namespace OutputFormat

/-- The name of a form. -/
def name : OutputFormat → String
  | .human => "human"
  | .json => "json"
  | .yaml => "yaml"

/-- The form of a name. -/
def ofName? (s : String) : Option OutputFormat := [human, json, yaml].find? fun f => f.name = s

end OutputFormat

/-- A command with its own options and words. -/
inductive Command where
  | submit (options : SubmitOptions) (words : List String)
  | toleration (inputs : List String)
  | get (name : String)
  | list (allNamespaces : Bool)
deriving DecidableEq

/-- A command line that was understood. -/
structure Invocation where
  output : OutputFormat
  namespaceName : String
  command : Command
deriving DecidableEq

/-! ### Global options -/

/-- The global options of one level. -/
structure Globals where
  output? : Option OutputFormat
  namespaceName? : Option String
deriving DecidableEq

namespace Globals

/-- No global option is given. -/
def none : Globals := ⟨.none, .none⟩

/-- The options of two levels, those of the inner level first. -/
def orElse (inner outer : Globals) : Globals :=
  ⟨inner.output?.or outer.output?, inner.namespaceName?.or outer.namespaceName?⟩

end Globals

/-- What was read on one level: global options and the settings `σ` of the command. -/
structure Level (σ : Type) where
  globals : Globals
  settings : σ
  words : List String
deriving DecidableEq

namespace Level

variable {σ : Type}

/-- Nothing is given. -/
def start (settings : σ) : Level σ := ⟨.none, settings, []⟩

/-- Add a positional word. -/
def addWord (w : String) (l : Level σ) : Level σ := { l with words := l.words ++ [w] }

/-- The options of every level. -/
def globalOptions : List (OptionSpec (Level σ)) :=
  [⟨"output", some 'o', .value fun v l =>
     match OutputFormat.ofName? v with
     | some f => .ok { l with globals := { l.globals with output? := some f } }
     | none => .error .invalidValue, false, false⟩,
   ⟨"ns", none, .value fun v l =>
     .ok { l with globals := { l.globals with namespaceName? := some v } }, false, false⟩,
   ⟨"help", some 'h', .stop .displayHelp, false, false⟩]

/-- An option of the command on a level. -/
def lift (o : OptionSpec σ) : OptionSpec (Level σ) :=
  { long := o.long
    short? := o.short?
    repeats := o.repeats
    anyWord := o.anyWord
    action :=
      match o.action with
      | .switch set => .switch fun l => { l with settings := set l.settings }
      | .value store => .value fun v l => do return { l with settings := ← store v l.settings }
      | .stop reason => .stop reason }

end Level

/-! ### The commands -/

/-- The level before the name of a command. -/
def topSpec : CommandSpec (Level Unit) :=
  ⟨Level.globalOptions ++ [⟨"version", some 'V', .stop .displayVersion, false, false⟩], .nothing⟩

/-- `submit` takes the options of a submission and the words of the command to run. -/
def submitSpec : CommandSpec (Level SubmitOptions) :=
  ⟨Level.globalOptions ++ SubmitOptions.table.map Level.lift, .command Level.addWord⟩

/-- `toleration` takes texts to read. -/
def tolerationSpec : CommandSpec (Level Unit) := ⟨Level.globalOptions, .many Level.addWord⟩

/-- `get` takes the name of a job. -/
def getSpec : CommandSpec (Level Unit) := ⟨Level.globalOptions, .one Level.addWord⟩

/-- `list` takes a switch for all namespaces. -/
def listSpec : CommandSpec (Level Bool) :=
  ⟨Level.globalOptions ++
    [⟨"all-namespaces", some 'A', .switch fun l => { l with settings := true }, false, false⟩],
   .nothing⟩

/-- The names of the commands. -/
inductive CommandName where
  | submit
  | toleration
  | get
  | list
  | help
deriving DecidableEq

/-- The command of a name. -/
def CommandName.ofWord? (w : String) : Option CommandName :=
  if w = "submit" then some .submit
  else if w = "toleration" then some .toleration
  else if w = "get" then some .get
  else if w = "list" then some .list
  else if w = "help" then some .help
  else none

/-- The answer to a request for help with a list of words: at most one, the name of a command. -/
def helpFor : List String → UsageError
  | [] => .displayHelp
  | [w] => if (CommandName.ofWord? w).isSome then .displayHelp else .invalidSubcommand
  | _ => .invalidSubcommand

/-- Read the words after the name of a command. -/
def CommandName.read (args : List String) : CommandName → Except UsageError (Globals × Command)
  | .submit => do
    let l ← submitSpec.read (.start (.start .initial)) args
    return (l.settings.globals, .submit l.settings.settings l.settings.words)
  | .toleration => do
    let l ← tolerationSpec.read (.start (.start ())) args
    if l.settings.words = [] then .error .missingArgument
    return (l.settings.globals, .toleration l.settings.words)
  | .get => do
    let l ← getSpec.read (.start (.start ())) args
    match l.settings.words with
    | name :: _ => return (l.settings.globals, .get name)
    | [] => .error .missingArgument
  | .list => do
    let l ← listSpec.read (.start (.start false)) args
    return (l.settings.globals, .list l.settings.settings)
  | .help => .error (helpFor args)

namespace Invocation

/-- What was given when there is no command. -/
def withoutCommand (top : Globals) (fromEnvironment? : Option String) : UsageError :=
  if top = .none ∧ fromEnvironment? = none then .helpForNothing else .missingSubcommand

/-- The fault of a word that is no command: after `--` a command is not looked for. -/
def strayWord (w : String) : UsageError :=
  if (CommandName.ofWord? w).isSome then .unknownArgument else .invalidSubcommand

/-- The namespace when none is given. -/
def defaultNamespace : String := "default"

/-- Put the levels of a command line together. -/
def ofLevels (top inner : Globals) (fromEnvironment? : Option String) (c : Command) : Invocation :=
  let globals := inner.orElse top
  ⟨globals.output?.getD .human,
   (globals.namespaceName?.or fromEnvironment?).getD defaultNamespace, c⟩

/-- Read words before and after the name of a command. The global options before the name are
judged last. -/
def readFrom (fromEnvironment? : Option String) (p : Progress (Level Unit)) :
    List String → Except UsageError Invocation
  | [] => do
    let p ← p.resolve
    .error (withoutCommand p.settings.globals fromEnvironment?)
  | w :: ws =>
    let name? := if p.literal || p.isWaiting then none else CommandName.ofWord? w
    match name? with
    | some name => do
      let (inner, command) ← name.read ws
      let p ← p.resolve
      return ofLevels p.settings.globals inner fromEnvironment? command
    | none =>
      if p.literal || (!p.isWaiting && Shape.ofWord w = .plain) then .error (strayWord w)
      else do readFrom fromEnvironment? (← topSpec.step p w) ws

/-- Read a command line, given the namespace that the environment sets. -/
def read (fromEnvironment? : Option String) (args : List String) : Except UsageError Invocation :=
  readFrom fromEnvironment? (.start (.start ())) args

end Invocation

/-- The job that `submit` describes. -/
def compose (o : SubmitOptions) (namespaceName : String) (words : List String) :
    Except Submission.Error TrainingJob :=
  TrainingJob.ofBuilder (o.toBuilder namespaceName words)

end WrappedTraining.CommandLine
