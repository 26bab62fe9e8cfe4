import WrappedTraining.Text.Cut

/-!
# Options and words of a command line

A command is described by a table of options and by the words that it takes. Words are read from
left to right. An option that needs a value waits for it as a *pending* option; its value is
judged when the next option, positional word or the end is reached.

* `Shape.ofWord` tells long options, groups of short options and plain words apart;
* `CommandSpec.step` takes one word into account, and `CommandSpec.read` a whole list;
* `UsageError` names the faults of a command line.
-/

namespace WrappedTraining.CommandLine

/-- Why a command line is not carried out. -/
inductive UsageError where
  | displayHelp
  | displayVersion
  | helpForNothing
  | missingSubcommand
  | invalidSubcommand
  | argumentConflict
  | invalidValue
  | valueValidation
  | tooManyValues
  | missingArgument
  | unknownArgument
deriving DecidableEq

/-! ### Descriptions -/

/-- What an option does to the settings `σ` of its command. -/
inductive OptionAction (σ : Type) where
  /-- It stands alone. -/
  | switch (set : σ → σ)
  /-- It takes a value. -/
  | value (store : String → σ → Except UsageError σ)
  /-- It ends the reading. -/
  | stop (reason : UsageError)

/-- An option of a command. -/
structure OptionSpec (σ : Type) where
  /-- The name after two hyphens. -/
  long : String
  /-- The letter after one hyphen. -/
  short? : Option Char
  action : OptionAction σ
  /-- It can be given more than once. -/
  repeats : Bool
  /-- Its value is the next word, whatever it looks like. -/
  anyWord : Bool

/-- The words that a command takes besides its options. -/
inductive Positional (σ : Type) where
  | nothing
  | one (store : String → σ → σ)
  | many (store : String → σ → σ)
  /-- A command of its own: words that look like unknown options belong to it, and from its first
  word on everything does. -/
  | command (store : String → σ → σ)

/-- The options and words of a command. -/
structure CommandSpec (σ : Type) where
  options : List (OptionSpec σ)
  positional : Positional σ

namespace Positional

variable {σ : Type}

/-- Words that look like unknown options are let through. -/
def takesHyphens : Positional σ → Bool
  | .command _ => true
  | _ => false

end Positional

/-! ### Words -/

/-- What a word looks like. -/
inductive Shape where
  /-- Two hyphens alone. -/
  | escape
  /-- A long option, with the text after `=` if there is one. -/
  | long (name : String) (value? : Option String)
  /-- A group of short options, possibly with a value at the end. -/
  | shorts (letters : List Char)
  | plain
deriving DecidableEq

/-- The shape of a word; a single hyphen is a plain word. -/
def Shape.ofWord (w : String) : Shape :=
  match w.toList with
  | ['-', '-'] => .escape
  | '-' :: '-' :: cs =>
    match Text.cutList? '=' cs with
    | some (name, value) => .long (String.ofList name) (some (String.ofList value))
    | none => .long (String.ofList cs) none
  | '-' :: c :: cs => .shorts (c :: cs)
  | _ => .plain

/-! ### Progress -/

/-- How far a command line was read. -/
structure Progress (σ : Type) where
  /-- The settings so far. -/
  settings : σ
  /-- The long names of the options that were stored. -/
  seen : List String
  /-- The option that was read last, with its value if that was read too. -/
  pending : Option (OptionSpec σ × Option String)
  /-- How many positional words were read. -/
  words : Nat
  /-- Only positional words follow. -/
  literal : Bool

namespace Progress

variable {σ : Type}

/-- Nothing was read yet. -/
def start (settings : σ) : Progress σ := ⟨settings, [], none, 0, false⟩

/-- An option waits for its value. -/
def isWaiting (p : Progress σ) : Bool :=
  match p.pending with
  | some (_, none) => true
  | _ => false

/-- An option waits for a value that can be any word. -/
def takesAnyWord (p : Progress σ) : Bool :=
  match p.pending with
  | some (o, none) => o.anyWord
  | _ => false

/-- Note that an option is given; only an option that repeats is given twice. -/
def note (p : Progress σ) (o : OptionSpec σ) : Except UsageError (Progress σ) :=
  if !o.repeats && p.seen.contains o.long then .error .argumentConflict
  else .ok { p with seen := o.long :: p.seen }

/-- Store the value of an option. -/
def store (p : Progress σ) (o : OptionSpec σ) (v : String) : Except UsageError (Progress σ) :=
  match o.action with
  | .value f => do
    let p ← p.note o
    return { p with settings := ← f v p.settings }
  | .switch f => do
    let p ← p.note o
    return { p with settings := f p.settings }
  | .stop reason => .error reason

/-- Judge the pending option: it needs a value, and the value is stored. -/
def resolve (p : Progress σ) : Except UsageError (Progress σ) :=
  match p.pending with
  | none => .ok p
  | some (_, none) => .error .invalidValue
  | some (o, some v) => { p with pending := none }.store o v

/-- An option with the value that is attached to it. -/
def attached (p : Progress σ) (o : OptionSpec σ) (v : String) : Except UsageError (Progress σ) := do
  (← p.resolve).store o v

/-- An option whose value is the next word. -/
def await (p : Progress σ) (o : OptionSpec σ) : Except UsageError (Progress σ) := do
  return { ← p.resolve with pending := some (o, none) }

/-- An option that stands alone. -/
def alone (p : Progress σ) (o : OptionSpec σ) : Except UsageError (Progress σ) := do
  (← p.resolve).store o ""

end Progress

/-! ### Reading -/

namespace CommandSpec

variable {σ : Type} (c : CommandSpec σ)

/-- The option with a long name. -/
def long? (name : String) : Option (OptionSpec σ) := c.options.find? fun o => o.long = name

/-- The option with a letter. -/
def short? (letter : Char) : Option (OptionSpec σ) :=
  c.options.find? fun o => o.short? = some letter

/-- Read a positional word. -/
def readWord (p : Progress σ) (w : String) : Except UsageError (Progress σ) :=
  match c.positional with
  | .nothing => .error .unknownArgument
  | .one f =>
    if p.words = 0 then do
      let p ← p.resolve
      return { p with settings := f w p.settings, words := 1 }
    else .error .unknownArgument
  | .many f => do
    let p ← p.resolve
    return { p with settings := f w p.settings, words := p.words + 1 }
  | .command f => do
    let p ← p.resolve
    return { p with settings := f w p.settings, words := p.words + 1, literal := true }

/-- Read a plain word: the value of the option that waits, or else a positional word. -/
def readPlain (p : Progress σ) (w : String) : Except UsageError (Progress σ) :=
  match p.pending with
  | some (o, none) => .ok { p with pending := some (o, some w) }
  | _ => c.readWord p w

/-- Read a long option. -/
def readLong (p : Progress σ) (o : OptionSpec σ) (value? : Option String) :
    Except UsageError (Progress σ) :=
  match o.action, value? with
  | .value _, some v => p.attached o v
  | .value _, none => p.await o
  | _, some _ => .error .tooManyValues
  | _, none => p.alone o

/-- The value attached to a letter: an `=` in front of it does not count. -/
def attachedValue : List Char → String
  | '=' :: cs => String.ofList cs
  | cs => String.ofList cs

/-- Read a group of short options; the first that takes a value takes what follows it. -/
def readShorts (p : Progress σ) : List Char → Except UsageError (Progress σ)
  | [] => .ok p
  | letter :: rest =>
    match c.short? letter with
    | none => .error .unknownArgument
    | some o =>
      match o.action with
      | .value _ => if rest = [] then p.await o else p.attached o (attachedValue rest)
      | _ => do readShorts (← p.alone o) rest

/-- Read the next word. -/
def step (p : Progress σ) (w : String) : Except UsageError (Progress σ) :=
  if p.literal then c.readWord p w
  else match Shape.ofWord w with
    | .escape => if p.takesAnyWord then c.readPlain p w else .ok { p with literal := true }
    | .plain => c.readPlain p w
    | .long name value? =>
      if p.takesAnyWord then c.readPlain p w
      else match c.long? name with
        | some o => readLong p o value?
        | none => if c.positional.takesHyphens then c.readPlain p w else .error .unknownArgument
    | .shorts letters =>
      if p.takesAnyWord then c.readPlain p w
      else if c.positional.takesHyphens && letters.any fun l => (c.short? l).isNone then
        c.readPlain p w
      else c.readShorts p letters

/-- Read words from left to right, and judge the last option at the end. -/
def read (p : Progress σ) : List String → Except UsageError (Progress σ)
  | [] => p.resolve
  | w :: ws => do read (← c.step p w) ws

end CommandSpec

end WrappedTraining.CommandLine
