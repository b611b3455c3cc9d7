import AgentConvert.SourceConfig

/-!
# Command-line options

What a run is asked for, read from its arguments. Arguments are taken from left to right; the first
one that is wrong is reported. What has to be there is looked for at the end.
-/

namespace AgentConvert.CommandLine

/-- How findings are shown. -/
inductive FindingsFormat where
  | text
  | json
  deriving DecidableEq, Inhabited

namespace FindingsFormat

def name : FindingsFormat → String
  | text => "text"
  | json => "json"

/-- The format with this name. -/
def ofName? (s : String) : Option FindingsFormat := [text, json].find? (·.name == s)

end FindingsFormat

/-- What a conversion is asked to do. -/
structure Options where
  /-- The path of the configuration. -/
  file : String
  format : SourceFormat
  /-- Where the document goes; without a path it is printed. -/
  output : Option String := none
  /-- Where the report goes. -/
  report : Option String := none
  /-- Whether the document is delivered in spite of errors. -/
  bypassErrors : Bool := false
  /-- Whether references to the environment are expanded. -/
  expandsEnvironment : Bool := false
  findings : FindingsFormat := .text
  /-- Whether only errors are shown. -/
  isQuiet : Bool := false

/-- What a run is asked for. -/
inductive Request where
  | convert (options : Options)
  | version
  | help

/-! ## Options by name -/

/-- The options. -/
inductive Name where
  | sourceFormat
  | output
  | report
  | bypassErrors
  | expandEnv
  | diagnostics
  | quiet
  | version
  | help
  deriving DecidableEq

namespace Name

/-- The options in order. -/
def all : List Name := [
  sourceFormat, output, report, bypassErrors, expandEnv, diagnostics, quiet, version, help]

/-- The name behind two dashes. -/
def long : Name → String
  | sourceFormat => "source-format"
  | output => "output"
  | report => "report"
  | bypassErrors => "bypass-errors"
  | expandEnv => "config.expand-env"
  | diagnostics => "diagnostics"
  | quiet => "quiet"
  | version => "version"
  | help => "help"

/-- The name behind one dash. -/
def short? : Name → Option Char
  | sourceFormat => some 'f'
  | output => some 'o'
  | report => some 'r'
  | bypassErrors => some 'b'
  | version => some 'V'
  | help => some 'h'
  | _ => none

/-- What the value of the option is called, if it has one. -/
def value? : Name → Option String
  | sourceFormat => some "SOURCE_FORMAT"
  | output => some "OUTPUT"
  | report => some "REPORT"
  | diagnostics => some "DIAGNOSTICS"
  | _ => none

/-- Whether the option has a value. -/
def takesValue (n : Name) : Bool := n.value?.isSome

/-- The option as it is written, with what its value is called. -/
def shown (n : Name) : String :=
  "--" ++ n.long ++ (n.value?.map fun v => " <" ++ v ++ ">").getD ""

end Name

/-! ## Faults -/

/-- What is wrong with arguments. -/
inductive UsageFault where
  | unknownFormat (value : String)
  | unknownFindingsFormat (value : String)
  | unexpected (argument : String)
  | unexpectedValue (option : Name) (value : String)
  | missingValue (option : Name)
  | missingFile
  | repeated (option : Name)
  /-- These have to be there and are not. -/
  | missing (arguments : List String)

namespace UsageFault

/-- The name of the program. -/
def program : String := "telescope-convert"

/-- How the program is used. -/
def usage : String :=
  "Usage: " ++ program ++ " [OPTIONS] " ++ Name.sourceFormat.shown ++ " <FILE>"

/-- How the program is used at the least. -/
def leastUsage : String := "Usage: " ++ program ++ " " ++ Name.sourceFormat.shown ++ " <FILE>"

/-- The values of the option for the format of findings. -/
def findingsFormats : String :=
  "  [possible values: " ++ FindingsFormat.text.name ++ ", " ++ FindingsFormat.json.name ++ "]"

/-- The paragraphs of what is said. -/
def paragraphs : UsageFault → List String
  | unknownFormat value =>
    ["invalid value '" ++ value ++ "' for '" ++ Name.sourceFormat.shown ++ "': " ++
      SourceFormat.unknownMessage value]
  | unknownFindingsFormat value =>
    ["invalid value '" ++ value ++ "' for '" ++ Name.diagnostics.shown ++ "'\n" ++ findingsFormats]
  | unexpected argument => ["unexpected argument '" ++ argument ++ "' found", usage]
  | unexpectedValue option value =>
    ["unexpected value '" ++ value ++ "' for '" ++ option.shown ++
      "' found; no more were expected", usage]
  | missingValue option =>
    ["a value is required for '" ++ option.shown ++ "' but none was supplied" ++
      if option = .diagnostics then "\n" ++ findingsFormats else ""]
  | missingFile => ["a value is required for '<FILE>' but none was supplied"]
  | repeated option =>
    ["the argument '" ++ option.shown ++ "' cannot be used multiple times", usage]
  | missing arguments =>
    ["the following required arguments were not provided:" ++
      String.join (arguments.map ("\n  " ++ ·)), leastUsage]

/-- What is said, with a hint to the help. -/
def message (fault : UsageFault) : String :=
  "error: " ++ "\n\n".intercalate (fault.paragraphs ++ ["For more information, try '--help'.\n"])

end UsageFault

/-! ## Reading arguments -/

/-- What the arguments that were read say. -/
structure Gathered where
  file : Option String := none
  /-- The options with their values; a flag has none. -/
  options : List (Name × String) := []

/-- Why reading ends before all arguments are read. -/
inductive Stop where
  | fault (fault : UsageFault)
  | request (request : Request)

namespace Gathered

/-- The value of an option. -/
def get? (g : Gathered) (n : Name) : Option String := (g.options.find? (·.1 == n)).map Prod.snd

/-- Whether an option was given. -/
def has (g : Gathered) (n : Name) : Bool := (g.get? n).isSome

/-- What is wrong with the value of an option. -/
def valueFault? (n : Name) (value : String) : Option UsageFault :=
  match n with
  | .sourceFormat =>
    if (SourceFormat.ofName? value).isSome then none else some (.unknownFormat value)
  | .diagnostics =>
    if (FindingsFormat.ofName? value).isSome then none
    else if value == "" then some (.missingValue n)
    else some (.unknownFindingsFormat value)
  | n => if n.takesValue && value == "" then some (.missingValue n) else none

/-- Takes an option in. -/
def add (g : Gathered) (n : Name) (value : String) : Except Stop Gathered :=
  match n with
  | .version => .error (.request .version)
  | .help => .error (.request .help)
  | n =>
    if g.has n then .error (.fault (.repeated n))
    else match valueFault? n value with
      | some fault => .error (.fault fault)
      | none => .ok { g with options := (n, value) :: g.options }

/-- Takes in an argument that is no option. -/
def addFile (g : Gathered) (argument : String) : Except Stop Gathered :=
  if g.file.isSome then .error (.fault (.unexpected argument))
  else if argument == "" then .error (.fault .missingFile)
  else .ok { g with file := some argument }

/-- What all arguments together ask for. -/
def request (g : Gathered) : Except UsageFault Request :=
  match g.file, (g.get? .sourceFormat).bind SourceFormat.ofName? with
  | some file, some format => .ok (.convert {
      file, format
      output := g.get? .output
      report := g.get? .report
      bypassErrors := g.has .bypassErrors
      expandsEnvironment := g.has .expandEnv
      findings := ((g.get? .diagnostics).bind FindingsFormat.ofName?).getD .text
      isQuiet := g.has .quiet })
  | file, format =>
    .error (.missing ((if format.isNone then [Name.sourceFormat.shown] else []) ++
      if file.isNone then ["<FILE>"] else []))

end Gathered

/-- What an argument is. -/
inductive Argument where
  /-- Only files follow. -/
  | separator
  | file
  /-- An option behind two dashes, with the value behind an equals sign. -/
  | long (name : String) (value : Option String)
  /-- Options of one letter each behind a dash. -/
  | short (letters : List Char)

/-- What an argument is, by its dashes. -/
def Argument.ofText (argument : String) : Argument :=
  match argument.toList with
  | ['-', '-'] => separator
  | '-' :: '-' :: rest =>
    let name := rest.takeWhile (· != '=')
    long (String.ofList name) ((rest.drop name.length).tail?.map String.ofList)
  | ['-'] => file
  | '-' :: letters => short letters
  | _ => file

/-- Reads the letters of an argument; an option that has a value takes what follows it. The result
names an option whose value is the next argument. -/
def readLetters (g : Gathered) : List Char → Except Stop (Gathered × Option Name)
  | [] => .ok (g, none)
  | c :: rest =>
    match Name.all.find? (·.short? == some c) with
    | none => .error (.fault (.unexpected (String.ofList ['-', c])))
    | some n =>
      if n.takesValue then
        if rest.isEmpty then .ok (g, some n)
        else do
          let value := if rest.head? == some '=' then rest.tail else rest
          return (← g.add n (String.ofList value), none)
      else do readLetters (← g.add n "") rest

/-- Reads an option behind two dashes; the result is as for letters. -/
def readLong (g : Gathered) (name : String) (value : Option String) :
    Except Stop (Gathered × Option Name) :=
  match Name.all.find? (·.long == name) with
  | none => .error (.fault (.unexpected ("--" ++ name)))
  | some n =>
    match value with
    | some value =>
      if n.takesValue then do return (← g.add n value, none)
      else .error (.fault (.unexpectedValue n value))
    | none => if n.takesValue then .ok (g, some n) else do return (← g.add n "", none)

/-- Reads arguments; the value of the option `pending` comes next, if there is one. -/
def readFrom (g : Gathered) (pending : Option Name) : List String → Except Stop Gathered
  | [] =>
    match pending with
    | some n => .error (.fault (.missingValue n))
    | none => .ok g
  | argument :: rest => do
    match pending, Argument.ofText argument with
    | some n, .file => readFrom (← g.add n argument) none rest
    | some n, _ => .error (.fault (.missingValue n))
    | none, .file => readFrom (← g.addFile argument) none rest
    | none, .separator => rest.foldlM Gathered.addFile g
    | none, .long name value =>
      let (g, pending) ← readLong g name value
      readFrom g pending rest
    | none, .short letters =>
      let (g, pending) ← readLetters g letters
      readFrom g pending rest

/-- What the arguments of a run ask for. -/
def Request.ofArguments (arguments : List String) : Except UsageFault Request :=
  match readFrom {} none arguments with
  | .ok g => g.request
  | .error (.request r) => .ok r
  | .error (.fault f) => .error f

end AgentConvert.CommandLine
