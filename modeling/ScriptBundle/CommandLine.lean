import ScriptBundle.Command

/-! # The command line

Words are read one after the other. Options may stand before and behind the name of the command; behind
it they win. An option with a value is taken up only when the next option comes or the words end, so the
first fault in this order is the one that counts.
-/

namespace ScriptBundle

/-- Why words make no request. Being asked for help or for the version is among it. -/
inductive UsageFault where
  | unknownArgument
  | invalidValue
  | missingRequiredArgument
  | invalidSubcommand
  | argumentConflict
  | tooManyValues
  | missingSubcommand
  | displayHelp
  | displayVersion
  | displayHelpOnMissingArgumentOrSubcommand
  deriving DecidableEq, Repr, Inhabited

namespace UsageFault

def exitCode : UsageFault → Nat
  | displayHelp | displayVersion => 0
  | _ => 2

def message : UsageFault → String
  | unknownArgument => "unexpected argument"
  | invalidValue => "missing or invalid value"
  | missingRequiredArgument => "a required argument is missing"
  | invalidSubcommand => "unknown command"
  | argumentConflict => "an option is given more than once"
  | tooManyValues => "an option takes no value"
  | missingSubcommand | displayHelpOnMissingArgumentOrSubcommand => "a command is missing"
  | displayHelp => "help"
  | displayVersion => "version"

end UsageFault

inductive CommandName where
  | build
  | deps
  | resolve
  | index
  deriving DecidableEq, Repr, Inhabited

def CommandName.ofWord? : String → Option CommandName
  | "build" => some build
  | "deps" => some deps
  | "resolve" => some resolve
  | "index" => some index
  | _ => none

inductive Parameter where
  | root
  | config
  | searchPath
  | stripComments
  | format
  | pretty
  | noColor
  | quiet
  | verbose
  | output
  | hash
  | requiring
  | entry
  | name
  | help
  | version
  deriving DecidableEq, Repr, Inhabited

namespace Parameter

def long? : Parameter → Option String
  | root => some "root"
  | config => some "config"
  | searchPath => some "search-path"
  | stripComments => some "strip-comments"
  | format => some "format"
  | pretty => some "pretty"
  | noColor => some "no-color"
  | quiet => some "quiet"
  | verbose => some "verbose"
  | output => some "output"
  | hash => some "hash"
  | requiring => some "from"
  | help => some "help"
  | version => some "version"
  | entry | name => none

def short? : Parameter → Option Char
  | quiet => some 'q'
  | verbose => some 'v'
  | output => some 'o'
  | help => some 'h'
  | version => some 'V'
  | _ => none

def takesValue : Parameter → Bool
  | root | config | searchPath | format | output | hash | requiring | entry | name => true
  | stripComments | pretty | noColor | quiet | verbose | help | version => false

def isRepeatable (p : Parameter) : Bool := p == searchPath

def accepts (value : String) : Parameter → Bool
  | root | config | output | requiring | entry => value != ""
  | hash => HashAlgorithm.all.any (·.label == value)
  | _ => true

def everywhere : List Parameter :=
  [root, config, searchPath, stripComments, format, pretty, noColor, quiet, verbose, help]

end Parameter

inductive Level where
  | top
  | inside (command : CommandName)
  deriving DecidableEq, Repr, Inhabited

namespace Level

def options : Level → List Parameter
  | top => .version :: Parameter.everywhere
  | inside .build => .output :: Parameter.everywhere
  | inside .deps => .hash :: Parameter.everywhere
  | inside .resolve => .requiring :: Parameter.everywhere
  | inside .index => Parameter.everywhere

def operand? : Level → Option Parameter
  | inside .build | inside .deps => some .entry
  | inside .resolve => some .name
  | top | inside .index => none

def ofLong? (level : Level) (name : String) : Option Parameter :=
  level.options.find? fun p => p.long? == some name

def ofShort? (level : Level) (c : Char) : Option Parameter :=
  level.options.find? fun p => p.short? == some c

end Level

inductive Word where
  /-- Two dashes: all words behind them are operands. -/
  | dashes
  | long (name : String) (value : Option String)
  | short (options : List Char)
  | plain (text : String)
  deriving DecidableEq, Repr, Inhabited

def cutAtEquals : List Char → List Char × Option (List Char)
  | [] => ([], none)
  | '=' :: rest => ([], some rest)
  | c :: rest => (c :: (cutAtEquals rest).1, (cutAtEquals rest).2)

/-- How a word is meant. A single dash is a plain word. -/
def Word.ofText (text : String) : Word :=
  match text.toList with
  | ['-', '-'] => dashes
  | '-' :: '-' :: rest =>
    let (name, value) := cutAtEquals rest
    long (String.ofList name) (value.map String.ofList)
  | '-' :: c :: rest => short (c :: rest)
  | _ => plain text

/-- What has been read at a level: the values taken up, in order, and an option or operand that waits to
be taken up, with its value if that has come. -/
structure Progress where
  given : List (Parameter × String) := []
  pending : Option (Parameter × Option String) := none
  trailing : Bool := false
  deriving DecidableEq, Repr, Inhabited

namespace Progress

def has (g : Progress) (p : Parameter) : Bool := g.given.any (·.1 == p)

def values (g : Progress) (p : Parameter) : List String := (g.given.filter (·.1 == p)).map (·.2)

def expectsValue (g : Progress) : Bool :=
  !g.trailing && match g.pending with
    | some (_, none) => true
    | _ => false

def mentions (g : Progress) (p : Parameter) : Bool := g.has p || g.pending.any (·.1 == p)

def accept (g : Progress) (p : Parameter) (value : Option String) : Except UsageFault Progress :=
  if p.takesValue && value.isNone then .error .invalidValue
  else if !p.isRepeatable && g.has p then .error .argumentConflict
  else if !p.accepts (value.getD "") then .error .invalidValue
  else .ok { g with given := g.given ++ [(p, value.getD "")] }

def settle (g : Progress) : Except UsageFault Progress :=
  match g.pending with
  | none => .ok g
  | some (p, value) => accept { g with pending := none } p value

def take (g : Progress) (p : Parameter) (value : Option String) : Except UsageFault Progress := do
  let g ← g.settle
  match p with
  | .help => throw .displayHelp
  | .version => throw .displayVersion
  | p => g.accept p value

def readOption (g : Progress) (p : Parameter) (attached : Option String) :
    Except UsageFault Progress :=
  if p.takesValue then
    match attached with
    | some value => g.take p (some value)
    | none => g.settle.map fun g => { g with pending := some (p, none) }
  else if attached.isSome then .error .tooManyValues
  else g.take p none

def readShort (level : Level) (g : Progress) : List Char → Except UsageFault Progress
  | [] => .ok g
  | c :: rest =>
    match level.ofShort? c with
    | none => .error .unknownArgument
    | some p =>
      if p.takesValue then
        g.readOption p <| match rest with
          | [] => none
          | '=' :: value => some (String.ofList value)
          | value => some (String.ofList value)
      else do readShort level (← g.readOption p none) rest

def surplus (level : Level) (g : Progress) (text : String) : UsageFault :=
  match level with
  | .top =>
    if g.trailing && ((CommandName.ofWord? text).isSome || text == "help") then .unknownArgument
    else .invalidSubcommand
  | .inside _ => .unknownArgument

def readOperand (level : Level) (g : Progress) (text : String) : Except UsageFault Progress :=
  match level.operand? with
  | none => .error (surplus level g text)
  | some p =>
    if g.mentions p then .error (surplus level g text)
    else g.settle.map fun g => { g with pending := some (p, some text) }

def readPlain (level : Level) (g : Progress) (text : String) : Except UsageFault Progress :=
  match g.expectsValue, g.pending with
  | true, some (p, _) => .ok { g with pending := some (p, some text) }
  | _, _ => readOperand level g text

def read (level : Level) (g : Progress) (text : String) : Except UsageFault Progress :=
  if g.trailing then readOperand level g text
  else
    match Word.ofText text with
    | .dashes => .ok { g with trailing := true }
    | .long name value =>
      match level.ofLong? name with
      | some p => g.readOption p value
      | none => .error .unknownArgument
    | .short options => readShort level g options
    | .plain text => readPlain level g text

def finish (g : Progress) (configInEnvironment : Option String) : Except UsageFault Progress := do
  let g ← g.settle
  if let some value := configInEnvironment then
    if !g.has .config && !Parameter.config.accepts value then throw .invalidValue
  return g

def readInside (command : CommandName) (configInEnvironment : Option String) (words : List String) :
    Except UsageFault Progress := do
  let level := Level.inside command
  let g ← words.foldlM (read level) {}
  let g ← g.finish configInEnvironment
  if let some p := level.operand? then
    if !g.has p then throw .missingRequiredArgument
  return g

end Progress

structure Reading where
  command : CommandName
  before : Progress
  behind : Progress
  configInEnvironment : Option String

namespace Reading

def values (r : Reading) (p : Parameter) : List String :=
  if r.behind.has p then r.behind.values p else r.before.values p

def value? (r : Reading) (p : Parameter) : Option String := (r.values p).head?

def path? (r : Reading) (p : Parameter) : Option Path := (r.value? p).map fun word => ⟨word⟩

def asks (r : Reading) (p : Parameter) : Bool := !(r.values p).isEmpty

def commandAsked (r : Reading) : Command :=
  let entry := (r.path? .entry).getD ⟨""⟩
  match r.command with
  | .build => .build entry (r.path? .output)
  | .deps => .deps entry ((r.value? .hash).bind HashAlgorithm.ofName?)
  | .resolve => .resolve ((r.value? .name).getD "") (r.path? .requiring)
  | .index => .index

def request (r : Reading) : Request where
  root := (r.path? .root).getD ⟨"."⟩
  config := (r.path? .config).or (r.configInEnvironment.map fun word => ⟨word⟩)
  overrides := { searchPaths := r.values .searchPath, stripComments := r.asks .stripComments }
  format := ((r.value? .format).bind ReportFormat.ofName?).getD .jsonl
  layout := if r.asks .pretty then .pretty else .compact
  command := r.commandAsked

end Reading

namespace CommandLine

def help : List String → UsageFault
  | [] => .displayHelp
  | [word] =>
    if (CommandName.ofWord? word).isSome || word == "help" then .displayHelp else .invalidSubcommand
  | _ => .invalidSubcommand

def withoutCommand (configInEnvironment : Option String) (g : Progress) : UsageFault :=
  match g.finish configInEnvironment with
  | .error fault => fault
  | .ok g =>
    if g.given.isEmpty && configInEnvironment.isNone then .displayHelpOnMissingArgumentOrSubcommand
    else .missingSubcommand

def readFrom (configInEnvironment : Option String) : Progress → List String →
    Except UsageFault Reading
  | g, [] => .error (withoutCommand configInEnvironment g)
  | g, word :: rest =>
    let isName := !g.trailing && !g.expectsValue
    match isName && word == "help", if isName then CommandName.ofWord? word else none with
    | true, _ => .error (help rest)
    | false, some command => do
      let behind ← Progress.readInside command configInEnvironment rest
      let before ← g.finish configInEnvironment
      return { command, before, behind, configInEnvironment }
    | false, none => do readFrom configInEnvironment (← g.read .top word) rest

/-- The request that words make. A settings file named by the environment counts where the words name
none. -/
def ofWords (words : List String) (configInEnvironment : Option String) :
    Except UsageFault Request :=
  (readFrom configInEnvironment {} words).map Reading.request

end CommandLine

end ScriptBundle
