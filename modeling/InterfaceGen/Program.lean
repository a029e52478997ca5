import InterfaceGen.CommandLine
import InterfaceGen.Run

/-!
# Program — what a command line does to the files, and what it prints

The program ends with 0 if all went well, with 1 if anything was wrong, and with 2 if the command
line makes no sense.
-/

namespace InterfaceGen

/-- How the program ends. -/
structure Outcome where
  code : Nat
  log : Log
  files : FileSystem

namespace Program

/-- The settings of a request: those of its file, if it names one, under its own. -/
def settingsOf (fs : FileSystem) (r : CommandLine.Request) : Except StartFault Settings := do
  let base ← match r.settingsFile with
    | some path => fs.readSettings path
    | none => .ok Settings.default
  return base.merge r.settings

/-- The outcome of a run that cannot begin. -/
def refused (fs : FileSystem) (fault : StartFault) : Outcome :=
  ⟨1, [⟨.errors, "Error: " ++ fault.message ++ "\n"⟩], fs⟩

/-- The code for a list of faults. -/
def codeOf (ds : List Diagnostic) : Nat := if ds.isEmpty then 0 else 1

/-- Answers for keys. -/
def runIntrospection (fs : FileSystem) (s : Settings) : Outcome :=
  match introspect fs s with
  | .error fault => refused fs fault
  | .ok run =>
    let logger : Logger := ⟨s.isVerbose, false⟩
    ⟨codeOf run.reported,
      run.warnings.flatMap (logger.log .warning ·) ++ [⟨.output, run.answers.text⟩] ++
        logger.diagnostics run.reported, fs⟩

/-- Generates. -/
def runGeneration (fs : FileSystem) (s : Settings) : Outcome :=
  match generate fs s with
  | .error fault => refused fs fault
  | .ok run =>
    let logger : Logger := ⟨s.isVerbose, false⟩
    let listed : Log :=
      if s.listFiles then run.report.written.map fun path => ⟨.output, path ++ "\n"⟩ else []
    let verdict := if run.report.isClean then "Generation success\n" else "Generation failed\n"
    ⟨codeOf run.report.reported,
      run.log ++ listed ++ [⟨.output, verdict⟩] ++ logger.diagnostics run.report.reported,
      run.files⟩

/-- The text that tells the version. -/
def versionText : String :=
  Generator.current.name ++ " " ++ Generator.current.version ++ "\n"

/-- The text that tells how the program is used. -/
def usageText : String :=
  "Generate code from interface description documents\n\nUsage: " ++ Generator.current.name ++
    " [OPTIONS]\n"

/-- The outcome of a command line that is not followed. -/
def unfollowed (fs : FileSystem) : CommandLine.Fault → Outcome
  | .displayHelp => ⟨0, [⟨.output, usageText⟩], fs⟩
  | .displayVersion => ⟨0, [⟨.output, versionText⟩], fs⟩
  | _ => ⟨2, [⟨.errors, usageText⟩], fs⟩

/-- Does what settings ask for. -/
def runSettings (fs : FileSystem) (s : Settings) : Outcome :=
  match s.validate fs with
  | .error fault => refused fs fault
  | .ok _ => if s.isIntrospection then runIntrospection fs s else runGeneration fs s

/-- Does what a command line asks for. -/
def run (fs : FileSystem) (args : List String) : Outcome :=
  match CommandLine.parse args with
  | .error fault => unfollowed fs fault
  | .ok request =>
    match settingsOf fs request with
    | .error fault => refused fs fault
    | .ok s => runSettings fs s

end Program

end InterfaceGen
