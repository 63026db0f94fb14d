import PlanCode.CommandLine.Console
import PlanCode.CommandLine.Help
import PlanCode.CommandLine.StageOption
import PlanCode.File.Load
import PlanCode.Tools.Call

/-!
# The commands

`convert` turns a plan file into a test class, `thread-group` shows the call for
some stages, and `mcp` serves the tools. Without a path, the plan file in the
working directory is converted, and of several the one that is chosen.

* `isPlanName_ofText`: a plan file is known by the end of its name.
-/
namespace PlanCode.CommandLine

def version : String := "1.0.0"

def helpOption : OptionKind := { spellings := ["--help"], takesValue := false }

inductive Action where
  | convert
  | serve
  | threadGroup
deriving DecidableEq, Repr

structure Command where
  name : String
  usage : String
  help : List String
  options : List OptionKind
  action : Action

def outputOption : OptionKind := { spellings := ["--output", "-o"] }

def classNameOption : OptionKind := { spellings := ["--class-name"] }

def configOption : OptionKind := { spellings := ["--config"] }

def verboseOption : OptionKind := { spellings := ["--verbose", "-v"], takesValue := false }

def stageOption : OptionKind := { spellings := ["--stage"] }

def nameOption : OptionKind := { spellings := ["--name"] }

def convertCommand : Command where
  name := "convert"
  usage := "[OPTIONS] [JMX_PATH]"
  help := Help.convert
  options := [outputOption, classNameOption, configOption, verboseOption, helpOption]
  action := .convert

def serveCommand : Command where
  name := "mcp"
  usage := "[OPTIONS]"
  help := Help.serve
  options := [helpOption]
  action := .serve

def threadGroupCommand : Command where
  name := "thread-group"
  usage := "[OPTIONS]"
  help := Help.threadGroup
  options := [stageOption, nameOption, helpOption]
  action := .threadGroup

def commands : List Command := [convertCommand, serveCommand, threadGroupCommand]

def versionOption : OptionKind := { spellings := ["--version"], takesValue := false }

def groupUsage : String := "[OPTIONS] COMMAND [ARGS]..."
def groupOptions : List OptionKind := [versionOption, helpOption]

def helpText (command usage : String) (help : List String) : String :=
  "\n".intercalate (("Usage: " ++ command ++ " " ++ usage) :: help)

/-- How messages refer to an option. -/
def place (k : OptionKind) : String := " / ".intercalate (k.spellings.map Text.quoted)

def planPlace : String := "'[JMX_PATH]'"

def isPlanName (name : String) : Bool := ".jmx".toList.isSuffixOf name.toList

theorem isPlanName_ofText : isPlanName "load-test.jmx" = true ∧ isPlanName "PLAN.JMX" = false := by
  decide +kernel

section

variable {m : Type → Type} [Monad m] [FileAccess m] [Console m]

/-- Refuses a directory, and a path where nothing stands if there has to be something. -/
def checkFile (refuse : UsageError → Run m Unit) (place path : String) (needed : Bool) :
    Run m Unit := do
  let p := Path.ofText path
  if p.hasNul then throw (.failed (.file .badName))
  let kind? ← ExceptT.lift (FileAccess.kind? p)
  let isNowhere := path = "" || p.hasLongName || (Path.endsInside path && kind? == some .file)
  match if isNowhere then none else kind? with
  | some .directory =>
    refuse (.badValue (some place) ("File " ++ Text.quoted path ++ " is a directory."))
  | some .file => return
  | none =>
    if needed then
      refuse (.badValue (some place) ("File " ++ Text.quoted path ++ " does not exist."))

/-- The plan file of the working directory. -/
def selectPlan : Run m String := do
  let names ← ExceptT.lift (FileAccess.names (m := m) {})
  let plans := (names.filter isPlanName).mergeSort fun a b => decide (a ≤ b)
  match plans with
  | [] =>
    printMarked "\n[bold red]Error:[/bold red] No JMX file found in current directory."
    printMarked "Please specify a JMX file path."
    throw (.code 1)
  | [plan] =>
    printMarked ("[green]Using JMX file: " ++ plan ++ "[/green]")
    return plan
  | plans =>
    match ← ExceptT.lift (Console.choose "Multiple JMX files found. Select one:" plans) with
    | some plan =>
      if plan != "" then return plan
      cancel
    | none => cancel
where
  cancel : Run m String := do
    printMarked "[yellow]Cancelled.[/yellow]"
    throw (.code 0)

/-- Writes the class to a file and tells so. -/
def writeClass (output : String) (settings : Settings) (result : TestClass) : Run m Unit := do
  let p := Path.ofText output
  let written : Except FileFault Unit ← ExceptT.lift (FileAccess.writeMaking p result.code)
  succeed (written.mapError .file)
  let lines ← shownLines frameWidth (
    "[bold green]DSL code generated successfully![/bold green]\n\n" ++
    "[cyan]File:[/cyan] " ++ p.text ++ "\n" ++
    "[cyan]Class:[/cyan] " ++ settings.className ++ "\n" ++
    "[cyan]Elements converted:[/cyan] " ++ toString result.elementsConverted ++ "\n" ++
    "[cyan]Warnings:[/cyan] " ++ toString result.warnings.length)
  ExceptT.lift (Console.panel "Success" lines)

def convert (parsed : Parsed) : Run m Unit := do
  let found : Except Failure Settings ←
    ExceptT.lift (Settings.load (parsed.value? configOption.name))
  let className : Datum := match parsed.value? classNameOption.name with
    | some s => .text s
    | none => .null
  let settings ← succeed (found.bind fun s =>
    (s.withOverrides [(.text Settings.classNameKey, className)]).mapError .settings)
  let plan ← match parsed.arguments.head? with
    | some plan => pure plan
    | none => selectPlan
  printMarked ("[bold]Converting JMX file:[/bold] " ++ plan)
  let generator : Generator := { settings }
  let result ← succeed (← ExceptT.lift (generator.ofFile plan))
  for warning in result.warnings do
    printMarked ("[yellow]Warning:[/yellow] " ++ warning)
  match parsed.value? outputOption.name with
  | none | some "" => printCode result.code
  | some output => writeClass output settings result

/-- Checks the files that the words of `convert` name, in their order, and that there is at most one
plan. -/
def checkConvert (refuse : UsageError → Run m Unit) (parsed : Parsed) : Run m Unit := do
  for name in parsed.names do
    match parsed.value? name with
    | some value =>
      if name == outputOption.name then checkFile refuse (place outputOption) value false
      else if name == configOption.name then checkFile refuse (place configOption) value true
    | none => pure ()
  match parsed.arguments with
  | [] => return
  | plan :: more =>
    checkFile refuse planPlace plan true
    if !more.isEmpty then refuse (.extraArguments more)

/-- Refuses arguments where none are expected. -/
def checkNoArguments (refuse : UsageError → Run m Unit) (parsed : Parsed) : Run m Unit := do
  if !parsed.arguments.isEmpty then refuse (.extraArguments parsed.arguments)

def threadGroup (refuse : UsageError → Run m Unit) (parsed : Parsed) : Run m Unit := do
  let mut stages : List Stage := []
  for value in parsed.values stageOption.name do
    match StageOption.read value with
    | .ok stage => stages := stages ++ [stage]
    | .error (.badStage _ .durationOverflow) => throw (.failed .overflow)
    | .error e => refuse (.badValue none e.message)
  let call ← succeed (Tool.threadGroupOf stages (parsed.value? nameOption.name))
  printCode (call.toNode.code "")

/-- Runs a command on the words that follow its name. -/
def runCommand (program : String) (command : Command) (words : List String) : Run m Unit := do
  let full := program ++ " " ++ command.name
  let refuse (e : UsageError) : Run m Unit := misused full command.usage e
  match parse command.options true words with
  | .error e => refuse e
  | .ok parsed =>
    if parsed.has helpOption.name then
      print (helpText full command.usage command.help)
    else match command.action with
      | .convert =>
        checkConvert refuse parsed
        convert parsed
      | .serve =>
        checkNoArguments refuse parsed
        throw .serving
      | .threadGroup =>
        checkNoArguments refuse parsed
        threadGroup refuse parsed

/-- Obeys the options in front of a command, and gives the words after them. -/
def readGroup (program : String) (words : List String) : Run m (List String) := do
  match parse groupOptions false words with
  | .error e => misused program groupUsage e
  | .ok parsed =>
    match parsed.names with
    | [] => return parsed.arguments
    | name :: _ =>
      print (if name == versionOption.name then "jmeter-codegen, version " ++ version
        else helpText program groupUsage Help.program)
      throw (.code 0)

/-- Runs the command that some words name. A word that names none and looks like an option is tried
as one before it is refused. -/
def runWords (program : String) (words : List String) : Run m Unit := do
  if words.isEmpty then
    ExceptT.lift (Console.printError (helpText program groupUsage Help.program))
    throw (.code 2)
  match ← readGroup program words with
  | [] => misused program groupUsage .missingCommand
  | word :: more =>
    match commands.find? (·.name == word) with
    | some command => runCommand program command more
    | none =>
      if isOption word then
        let _ ← readGroup program (word :: more)
      misused program groupUsage
        (.noSuchCommand word (Text.similarTo word (commands.map (·.name))))

/-- Runs the program, whose name is given, on the words of a command line. -/
def run (program : String) (words : List String) : m Ending := do
  match ← (runWords program words).run with
  | .ok () => return .code 0
  | .error ending => return ending

end
end PlanCode.CommandLine
