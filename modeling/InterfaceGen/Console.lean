import InterfaceGen.Diagnostic

/-!
# Console — the lines a run prints, and on which stream

A level decides whether a message is printed, with which sign, and where: errors and warnings go to
the error stream. Stages are announced only in a verbose run; a stage that fails is always reported.
-/

namespace InterfaceGen

/-! ## Levels and lines -/

/-- How important a message is. -/
inductive Level where
  | error
  | warning
  | info
  | debug
  | verbose
  deriving Repr, DecidableEq

namespace Level

def all : List Level := [.error, .warning, .info, .debug, .verbose]

/-- The name of a level. -/
def name : Level → String
  | .error => "ERROR"
  | .warning => "WARN"
  | .info => "INFO"
  | .debug => "DEBUG"
  | .verbose => "VERBOSE"

/-- The sign before a message. -/
def sign : Level → String
  | .error => "❌ "
  | .warning => "⚠️ "
  | .info => ""
  | .debug => "🔍 "
  | .verbose => "💬 "

end Level

/-- The two streams of a program. -/
inductive Stream where
  | output
  | errors
  deriving Repr, DecidableEq

/-- The stream for messages of a level. -/
def Level.stream : Level → Stream
  | .error => .errors
  | .warning => .errors
  | _ => .output

/-- A printed text, its line break included. -/
structure Line where
  stream : Stream
  text : String
  deriving Repr, DecidableEq

/-- What a run prints, in order. -/
abbrev Log := List Line

namespace Log

/-- What is printed on a stream. -/
def on (s : Stream) (log : Log) : String :=
  "".intercalate ((log.filter (·.stream = s)).map (·.text))

end Log

/-! ## Loggers -/

/-- Which levels are printed. -/
structure Logger where
  verbose : Bool
  debug : Bool
  deriving Repr, DecidableEq

namespace Logger

/-- Whether messages of a level are printed. -/
def allows (l : Logger) : Level → Bool
  | .error => true
  | .warning => true
  | .info => true
  | .debug => l.debug || l.verbose
  | .verbose => l.verbose

/-- What is printed for a message. -/
def log (l : Logger) (level : Level) (message : String) : Log :=
  if l.allows level then [⟨level.stream, level.sign ++ message ++ "\n"⟩] else []

/-- What is printed for diagnostics: an error line for each. -/
def diagnostics (l : Logger) (ds : List Diagnostic) : Log :=
  ds.flatMap fun d => l.log .error d.message

end Logger

/-! ## Stages -/

/-- How far a run is through its stages. -/
structure Progress where
  logger : Logger
  total : Nat
  step : Nat
  name : String
  deriving Repr

namespace Progress

/-- Before the first stage. -/
def ofTotal (l : Logger) (total : Nat) : Progress := ⟨l, total, 0, ""⟩

/-- The next stage, with its announcement. -/
def start (p : Progress) (name : String) : Progress × Log :=
  let step := p.step + 1
  let place := if p.total = 0 then ""
    else " (" ++ toString step ++ "/" ++ toString p.total ++ ")"
  ({ p with step := step, name := name },
    if p.logger.verbose then p.logger.log .info ("🚀 " ++ name ++ place) else [])

/-- What is printed when the stage is done. -/
def complete (p : Progress) (message : Option String) : Log :=
  if p.logger.verbose then
    p.logger.log .info
      (match message with
        | some m => "✅ " ++ p.name ++ " - " ++ m
        | none => "✅ " ++ p.name)
  else []

/-- What is printed when the stage failed. -/
def fail (p : Progress) (message : String) : Log :=
  p.logger.log .error ("Failed " ++ p.name ++ ": " ++ message)

/-- What is printed for news of the stage. -/
def update (p : Progress) (message : String) : Log := p.logger.log .verbose message

end Progress

end InterfaceGen
