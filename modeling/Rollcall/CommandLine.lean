/-!
# The command line

A run is told where its configuration is, whether to log more, and in which form. An option with a
value takes it from the same argument, `--config=FILE` or `-cFILE`, or else from the next one; short
options may share an argument, as in `-vc FILE`. No option may be given twice. Help and version are
shown as soon as they are asked for, whatever follows.
-/
namespace Rollcall

structure RunOptions where
  /-- The file that holds the configuration; the environment describes it otherwise. -/
  configFile : Option String := none
  isVerbose : Bool := false
  logFormat : Option String := none
  deriving DecidableEq, Repr

inductive Invocation where
  | run (o : RunOptions)
  | help
  | version
  deriving DecidableEq, Repr

namespace CommandLine

inductive Setting where
  | config
  | logFormat
  deriving DecidableEq, Repr

inductive Misuse where
  | unexpected (argument : String)
  | repeated (option : String)
  | noValue (s : Setting)
  | superfluousValue (option value : String)
  deriving DecidableEq, Repr

inductive Flag where
  | verbose
  | help
  | version
  /-- A setting, with its value if that stands in the same argument. -/
  | setting (s : Setting) (attached : Option String)
  | faulty (f : Misuse)
  deriving DecidableEq, Repr

def Setting.usage : Setting → String
  | config => "--config <CONFIG>"
  | logFormat => "--log-format <LOG_FORMAT>"

/-- The value behind a short option, with or without an equals sign in between. -/
def attachedValue : List Char → Option String
  | [] => none
  | '=' :: value => some (String.ofList value)
  | value => some (String.ofList value)

def shortFlags : List Char → List Flag
  | [] => []
  | 'v' :: rest => .verbose :: shortFlags rest
  | 'h' :: _ => [.help]
  | 'V' :: _ => [.version]
  | 'c' :: rest => [.setting .config (attachedValue rest)]
  | c :: _ => [.faulty (.unexpected (String.ofList ['-', c]))]

def longFlag (name : String) (value : Option String) : Flag :=
  let plain (f : Flag) : Flag :=
    match value with
    | none => f
    | some v => .faulty (.superfluousValue ("--" ++ name) v)
  match name with
  | "verbose" => plain .verbose
  | "help" => plain .help
  | "version" => plain .version
  | "config" => .setting .config value
  | "log-format" => .setting .logFormat value
  | _ => .faulty (.unexpected ("--" ++ name))

def flags (argument : String) : List Flag :=
  match argument.toList with
  | '-' :: '-' :: c :: rest =>
    let name := (c :: rest).takeWhile (· ≠ '=')
    match (c :: rest).dropWhile (· ≠ '=') with
    | [] => [longFlag (String.ofList name) none]
    | _ :: value => [longFlag (String.ofList name) (some (String.ofList value))]
  | '-' :: c :: rest =>
    if c = '-' then [.faulty (.unexpected argument)] else shortFlags (c :: rest)
  | _ => [.faulty (.unexpected argument)]

def isValue (argument : String) : Bool :=
  match argument.toList with
  | '-' :: _ :: _ => false
  | _ => true

def assign (o : RunOptions) (s : Setting) (value : String) : Except Misuse RunOptions :=
  match s with
  | .config =>
    if o.configFile.isSome then .error (.repeated s.usage)
    else .ok { o with configFile := some value }
  | .logFormat =>
    if o.logFormat.isSome then .error (.repeated s.usage)
    else .ok { o with logFormat := some value }

inductive Reached where
  | run (o : RunOptions)
  /-- The next argument is the value of a setting. -/
  | waiting (s : Setting) (o : RunOptions)
  | shown (i : Invocation)

/-- Apply the options of one argument; only the last of them can wait for a value. -/
def apply (o : RunOptions) : List Flag → Except Misuse Reached
  | [] => .ok (.run o)
  | .help :: _ => .ok (.shown .help)
  | .version :: _ => .ok (.shown .version)
  | .verbose :: rest =>
    if o.isVerbose then .error (.repeated "--verbose")
    else apply { o with isVerbose := true } rest
  | .setting s none :: _ => .ok (.waiting s o)
  | .setting s (some value) :: rest => do apply (← assign o s value) rest
  | .faulty f :: _ => .error f

def readFrom (o : RunOptions) : List String → Except Misuse Invocation
  | [] => .ok (.run o)
  | argument :: rest =>
    match apply o (flags argument) with
    | .error f => .error f
    | .ok (.shown i) => .ok i
    | .ok (.run o) => readFrom o rest
    | .ok (.waiting s o) =>
      match rest with
      | [] => .error (.noValue s)
      | value :: rest =>
        if isValue value then
          match assign o s value with
          | .error f => .error f
          | .ok o => readFrom o rest
        else .error (.noValue s)

def read (arguments : List String) : Except Misuse Invocation := readFrom {} arguments

def usage : String := "Usage: meshkeeper [OPTIONS]"

def helpText : String :=
  String.intercalate "\n"
    ["Service registration, discovery and singleton job coordination",
      "",
      usage,
      "",
      "Options:",
      "  -c, --config <CONFIG>          TOML config file; environment variables are used when " ++
        "omitted",
      "  -v, --verbose                  Enable verbose logging",
      "      --log-format <LOG_FORMAT>  Log format (text, json); overrides the config file",
      "  -h, --help                     Print help",
      "  -V, --version                  Print version"]

def versionText : String := "meshkeeper 0.1.0"

def Misuse.message : Misuse → String
  | unexpected a => s!"unexpected argument '{a}' found"
  | repeated o => s!"the argument '{o}' cannot be used multiple times"
  | noValue s => s!"a value is required for '{s.usage}' but none was supplied"
  | superfluousValue o v => s!"unexpected value '{v}' for '{o}' found; no more were expected"

def Misuse.report (f : Misuse) : String :=
  s!"error: {f.message}\n\n{usage}\n\nFor more information, try '--help'."

/-- A failure with its causes, as a run that ends early reports it. -/
def failureReport (message : String) : List String → String
  | [] => s!"Error: {message}"
  | [cause] => s!"Error: {message}\n\nCaused by:\n    {cause}"
  | causes =>
    let lines := causes.zipIdx.map fun (cause, n) => s!"\n    {n}: {cause}"
    s!"Error: {message}\n\nCaused by:" ++ String.join lines

end CommandLine

end Rollcall
