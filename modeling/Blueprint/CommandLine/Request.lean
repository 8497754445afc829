import Blueprint.Settings

/-
  Requests: what the arguments of a command line ask for.

  The flags `--output` and `--quiet` may stand before and
  after the name of the command, once in each place. After
  `--` every argument stands for itself. A request for help
  or for the version is met as soon as it is read.

  The wording of a misuse is chosen here. What has to stay
  is when it is told, and the exit code that comes with it.

  Main definitions:
    * `Command`, `Invocation`, `Request`
    * `Misuse`
    * `Scan`, `Scan.read`
    * `Request.ofArguments`
-/

------------------------------------------------------------
-- Requests
------------------------------------------------------------

namespace Blueprint

/- What is done with a document. -/
inductive Command where
| check (strict : Bool)
| parse
deriving DecidableEq, Repr

/- A command for a document, and how to answer it. -/
structure Invocation where
  command : Command
  file : String
  format : Option Format
  quiet : Bool
deriving DecidableEq, Repr

/- What a command line asks for. -/
inductive Request where
| help
| version
| run (invocation : Invocation)
deriving DecidableEq, Repr

/- Why a command line asks for nothing. -/
inductive Misuse where
| unknownCommand (word : String)
| unknownFlag (flag : String)
| repeatedFlag (flag : String)
| unexpected (argument : String)
| badFormat (word : String)
| missingFormat
| missingCommand
| missingFile
deriving DecidableEq, Repr

namespace Misuse

/- What is told about a misuse. -/
def message : Misuse → String
| .unknownCommand word => "unknown command '" ++ word ++ "'"
| .unknownFlag flag => "unknown flag '" ++ flag ++ "'"
| .repeatedFlag flag =>
    "the flag '" ++ flag ++ "' is given twice"
| .unexpected argument =>
    "unexpected argument '" ++ argument ++ "'"
| .badFormat word =>
    "'" ++ word ++ "' is no output format: use text or json"
| .missingFormat => "'--output' needs a format: text or json"
| .missingCommand => "a command is needed: check or parse"
| .missingFile => "the path of a document is needed"

end Misuse

end Blueprint

------------------------------------------------------------
-- Scans
------------------------------------------------------------

namespace Blueprint

/- The flags that every command takes. -/
structure Flags where
  format : Option Format
  quiet : Bool
deriving DecidableEq, Repr

/- What is known after a part of the arguments. -/
structure Scan where
  outer : Flags
  command : Option Command
  inner : Flags
  file : Option String
deriving DecidableEq, Repr

/- Read on, or answer at once. -/
inductive Step where
| more (scan : Scan)
| done (request : Request)
deriving DecidableEq, Repr

namespace Scan

/- Nothing is known yet. -/
def start : Scan where
  outer := ⟨none, false⟩
  command := none
  inner := ⟨none, false⟩
  file := none

/- The flags of the place that has been reached. -/
def flags (s : Scan) : Flags :=
  if s.command.isNone then s.outer else s.inner

/- The scan with other flags for the place reached. -/
def withFlags
    (s : Scan)
    (flags : Flags) : Scan :=
  if s.command.isNone then
    { s with outer := flags }
  else
    { s with inner := flags }

def setQuiet (s : Scan) : Except Misuse Scan :=
  if s.flags.quiet then
    .error (.repeatedFlag "--quiet")
  else
    .ok (s.withFlags { s.flags with quiet := true })

/- The flag `--output` with the name of a format. -/
def setFormat
    (s : Scan)
    (word : String) : Except Misuse Scan :=
  match Format.ofWord? word with
  | none => .error (.badFormat word)
  | some format =>
      if s.flags.format.isSome then
        .error (.repeatedFlag "--output")
      else
        .ok (s.withFlags { s.flags with format := some format })

/- The flag `--strict`, which only a check takes. -/
def setStrict (s : Scan) : Except Misuse Scan :=
  match s.command with
  | some (.check false) =>
      .ok { s with command := some (.check true) }
  | some (.check true) => .error (.repeatedFlag "--strict")
  | _ => .error (.unknownFlag "--strict")

/- The path of the document. -/
def setFile
    (s : Scan)
    (path : String) : Except Misuse Scan :=
  if s.file.isSome then
    .error (.unexpected path)
  else if path.isEmpty then
    .error .missingFile
  else
    .ok { s with file := some path }

/- A request of the version, before any command. -/
def askVersion
    (s : Scan)
    (flag : String) : Except Misuse Step :=
  if s.command.isNone then
    .ok (.done .version)
  else
    .error (.unknownFlag flag)

/- An argument that starts with a dash. -/
def readFlag
    (s : Scan)
    (flag : String) : Except Misuse Step :=
  if flag = "--quiet" then
    s.setQuiet.map .more
  else if flag = "--strict" then
    s.setStrict.map .more
  else if flag.startsWith "--output=" then
    (s.setFormat (flag.drop 9).toString).map .more
  else if flag = "--help" || flag.startsWith "-h" then
    .ok (.done .help)
  else if flag = "--version" || flag.startsWith "-V" then
    s.askVersion flag
  else
    .error (.unknownFlag flag)

/- An argument that stands for itself. -/
def readPlain
    (s : Scan)
    (argument : String) : Except Misuse Scan :=
  match s.command, argument with
  | some _, path => s.setFile path
  | none, "check" =>
      .ok { s with command := some (.check false) }
  | none, "parse" => .ok { s with command := some .parse }
  | none, word => .error (.unknownCommand word)

/- The request of the arguments that were read. -/
def finish (s : Scan) : Except Misuse Request :=
  match s.command, s.file with
  | none, _ => .error .missingCommand
  | some _, none => .error .missingFile
  | some command, some file =>
      .ok (.run
        { command := command
          file := file
          format := s.inner.format.or s.outer.format
          quiet := s.inner.quiet || s.outer.quiet })

/- The arguments after `--`, which name no command. -/
def readRest
    (s : Scan)
    (rest : List String) : Except Misuse Request := do
  if s.command.isNone then
    .error .missingCommand
  else
    let last ← rest.foldlM setFile s
    last.finish

/- The commands that help is given for. -/
def isHelpTopic : List String → Bool
| [] => true
| [word] => ["check", "parse", "help"].contains word
| _ => false

/- The request of the arguments that remain. -/
def read (s : Scan) : List String → Except Misuse Request
| [] => s.finish
| ["--output"] => .error .missingFormat
| "--output" :: word :: rest =>
    match s.setFormat word with
    | .error misuse => .error misuse
    | .ok next => next.read rest
| argument :: rest =>
    if argument = "--" then
      s.readRest rest
    else if argument.startsWith "-" && argument != "-" then
      match s.readFlag argument with
      | .error misuse => .error misuse
      | .ok (.done request) => .ok request
      | .ok (.more next) => next.read rest
    else if s.command.isNone && argument = "help" then
      if isHelpTopic rest then
        .ok .help
      else
        .error (.unexpected argument)
    else
      match s.readPlain argument with
      | .error misuse => .error misuse
      | .ok next => next.read rest

end Scan

/- What the arguments of a command line ask for. -/
def Request.ofArguments
    (arguments : List String) : Except Misuse Request :=
  Scan.start.read arguments

end Blueprint
