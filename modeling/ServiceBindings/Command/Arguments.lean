import ServiceBindings.Text.Segments

/-!
# Command line arguments

A command line is a sequence of words: flags, and after the name of a command the command's
own words.  Flags may stand before or after the name of the command.  Two dashes by
themselves end the flags of a level.
-/

namespace ServiceBindings.Command

/-- What the program is asked to do. -/
inductive Job where
  /-- Answers a request from standard input. -/
  | respond
  /-- Generates code for everything in a directory. -/
  | scan (source output : String) (options : List String)
  /-- Reports on a set of descriptors. -/
  | inspect (path : String)
  /-- Prints a completion script for a shell. -/
  | completions (shell : String)
deriving DecidableEq, Repr

/-- A job with the word for the format of its summary, if there is one. -/
structure Invocation where
  job : Job
  formatWord? : Option String
deriving DecidableEq, Repr

/-- Why reading a command line stops. -/
inductive Interruption where
  | usageError
  | helpWanted
  | versionWanted
deriving DecidableEq, Repr

/-- The names of the commands, apart from `help`. -/
inductive CommandName where
  | scan
  | inspect
  | completions
deriving DecidableEq, Repr

/-- The command with a name. -/
def CommandName.ofWord? : String → Option CommandName
  | "scan" => some scan
  | "inspect" => some inspect
  | "completions" => some completions
  | _ => none

/-- The shells that completions can be printed for. -/
def shells : List String := ["bash", "elvish", "fish", "powershell", "zsh"]

/-- The form of a word. -/
inductive Word where
  /-- Two dashes. -/
  | separator
  /-- Two dashes and a name, perhaps with an equals sign and a value. -/
  | long (name : String) (value? : Option String)
  /-- A dash and letters. -/
  | short (letters : List Char)
  | plain
deriving DecidableEq, Repr

/-- The form that a word has. -/
def Word.ofText (text : String) : Word :=
  match text.toList with
  | ['-', '-'] => separator
  | '-' :: '-' :: rest =>
    match Text.cutFirst? '=' (String.ofList rest) with
    | some (name, value) => long name (some value)
    | none => long (String.ofList rest) none
  | '-' :: letter :: rest => short (letter :: rest)
  | _ => plain

/-- The words before or after the name of a command, as far as they are read. -/
structure Level where
  /-- The command of the words after its name. -/
  command? : Option CommandName
  /-- The command's own words, the last one first. -/
  reversedWords : List String
  verbose : Bool
  /-- The format that was asked for. -/
  format? : Option String
  /-- A format given as a word of its own, which counts when the next flag is read. -/
  pendingFormat? : Option String
  /-- Whether the flags have ended. -/
  flagsEnded : Bool
deriving DecidableEq, Repr

namespace Level

/-- The level of a command, or of the words before any command, with nothing read. -/
def start (command? : Option CommandName) : Level :=
  ⟨command?, [], false, none, none, false⟩

/-- The command's own words in order. -/
def words (level : Level) : List String := level.reversedWords.reverse

/-- Gives the format, which is possible once. -/
def setFormat (level : Level) (format : String) : Except Interruption Level :=
  if level.format?.isSome then .error .usageError
  else .ok { level with format? := some format }

/-- The level with no format pending. -/
def settle (level : Level) : Except Interruption Level :=
  match level.pendingFormat? with
  | none => .ok level
  | some format => ({ level with pendingFormat? := none }).setFormat format

/-- Asks for a detailed log, which is possible once. -/
def setVerbose (level : Level) : Except Interruption Level := do
  let level ← level.settle
  if level.verbose then .error .usageError else .ok { level with verbose := true }

/-- Stops for help or the version. -/
def stop (level : Level) (interruption : Interruption) : Except Interruption Level := do
  let _ ← level.settle
  .error interruption

/-- The letters of the flags of a level. -/
def letters (level : Level) : List Char :=
  if level.command?.isNone then ['v', 'h', 'V'] else ['v', 'h']

/-- The long names of the flags of a level. -/
def names (level : Level) : List String :=
  if level.command?.isNone then ["verbose", "format", "help", "version"]
  else ["verbose", "format", "help"]

/-- Whether the next of the command's own words may look like a flag. -/
def expectsOptions (level : Level) : Bool :=
  level.command? = some .scan && level.reversedWords.length == 2

/-- Whether a word is read as a flag of the level. -/
def isFlag (level : Level) : Word → Bool
  | .plain => false
  | .separator => true
  | .long name _ => level.names.contains name || !level.expectsOptions
  | .short letters => letters.all level.letters.contains || !level.expectsOptions

/-- Reads the flags of a word of letters. -/
def readLetters (level : Level) : List Char → Except Interruption Level
  | [] => .ok level
  | letter :: rest => do
    let level ←
      if !level.letters.contains letter then .error .usageError
      else if letter = 'v' then level.setVerbose
      else if letter = 'h' then level.stop .helpWanted
      else level.stop .versionWanted
    level.readLetters rest

/-- Reads a flag that is a word of its own. -/
def readName (level : Level) (name : String) : Except Interruption Level :=
  if !level.names.contains name then .error .usageError
  else if name = "verbose" then level.setVerbose
  else if name = "help" then level.stop .helpWanted
  else level.stop .versionWanted

/-- Reads a flag with a value after an equals sign. -/
def readAssignment (level : Level) (name value : String) : Except Interruption Level := do
  if name = "format" then
    let level ← level.settle
    level.setFormat value
  else .error .usageError

/-- Takes one of the command's own words. -/
def take (level : Level) (word : String) : Except Interruption Level := do
  let level ← level.settle
  let taken := { level with reversedWords := word :: level.reversedWords }
  match level.command?, level.reversedWords.length with
  | some .scan, 0 | some .scan, 1 | some .inspect, 0 =>
    if word.isEmpty then .error .usageError else .ok taken
  | some .scan, _ => .ok { taken with flagsEnded := true }
  | some .completions, 0 => if shells.contains word then .ok taken else .error .usageError
  | _, _ => .error .usageError

/-- Whether a word is the name of a command at a level that has no command yet. -/
def isCommand (level : Level) (word : String) : Bool :=
  level.command?.isNone && !level.flagsEnded &&
    (word == "help" || (CommandName.ofWord? word).isSome)

/-- Reads words up to the name of a command or the end, and returns the words from the name
on. -/
def read (level : Level) : List String → Except Interruption (Level × List String)
  | [] => .ok (level, [])
  | word :: rest =>
    if level.isCommand word then .ok (level, word :: rest)
    else if level.flagsEnded || !level.isFlag (Word.ofText word) then
      match level.take word with
      | .error interruption => .error interruption
      | .ok level => level.read rest
    else
      match Word.ofText word with
      | .separator => ({ level with flagsEnded := true }).read rest
      | .long "format" none =>
        match level.settle, rest with
        | .ok level, value :: rest =>
          if level.isFlag (Word.ofText value) then .error .usageError
          else ({ level with pendingFormat? := some value }).read rest
        | _, _ => .error .usageError
      | .long name none => (level.readName name).bind (·.read rest)
      | .long name (some value) => (level.readAssignment name value).bind (·.read rest)
      | .short letters => (level.readLetters letters).bind (·.read rest)
      | .plain => .error .usageError

/-- The job of a level, if all words that its command needs are there. -/
def job? (level : Level) : Option Job :=
  match level.command?, level.words with
  | none, _ => some .respond
  | some .scan, source :: output :: options => some (.scan source output options)
  | some .inspect, [path] => some (.inspect path)
  | some .completions, [shell] => some (.completions shell)
  | _, _ => none

end Level

/-- Reads the words after the name of a command. -/
def readCommand (command : CommandName) (words : List String) : Except Interruption Invocation := do
  let (level, _) ← (Level.start (some command)).read words
  let level ← level.settle
  match level.job? with
  | some job => .ok ⟨job, level.format?⟩
  | none => .error .usageError

/-- What follows `help`: nothing, or one command. -/
def readHelp : List String → Interruption
  | [] => .helpWanted
  | [topic] =>
    if topic = "help" || (CommandName.ofWord? topic).isSome then .helpWanted else .usageError
  | _ => .usageError

/-- Reads a command line.  A format after the name of the command takes the place of one
before it. -/
def Invocation.ofArguments (arguments : List String) : Except Interruption Invocation := do
  let (root, remaining) ← (Level.start none).read arguments
  match remaining with
  | [] =>
    let root ← root.settle
    .ok ⟨.respond, root.format?⟩
  | name :: words =>
    match CommandName.ofWord? name with
    | none => .error (readHelp words)
    | some command =>
      let invocation ← readCommand command words
      let root ← root.settle
      .ok { invocation with formatWord? := invocation.formatWord?.or root.format? }

end ServiceBindings.Command
