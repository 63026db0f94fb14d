import PlanCode.CommandLine.Program

/-!
# The program

Runs the commands on the files and the console of the machine.
-/
namespace PlanCode.Main

open CommandLine (Console Ending)

/-- Why the system refuses a file. -/
def faultOf (e : IO.Error) : FileFault :=
  match e with
  | .noFileOrDirectory .. => .missing
  | .alreadyExists .. => .taken
  | .inappropriateType .. => .notADirectory
  | _ => .refused

/-- A step on a file, whose failure is a fault. -/
def attempt {α : Type} (step : IO α) : IO (Except FileFault α) := do
  try return .ok (← step)
  catch e => return .error (faultOf e)

/-- A path as the system knows it, from the working directory. -/
def located (p : Path) := (do return (← IO.currentDir) / p.text : IO _)

instance : FileAccess IO where
  kind? p := do
    let place ← located p
    if ← place.isDir then return some .directory
    else if ← place.pathExists then return some .file
    else return none
  read p := do
    if ← (← located p).isDir then return .error .isDirectory
    else attempt (IO.FS.readBinFile p.text)
  write p content := do
    if ← (← located p).isDir then return .error .isDirectory
    else attempt (IO.FS.writeFile p.text content)
  makeDirectory p := attempt (IO.FS.createDir p.text)
  names p := do
    match ← attempt (← located p).readDir with
    | .ok found => return (found.map (·.fileName)).toList
    | .error _ => return []
  absolute p := do
    let here := Path.ofText (toString (← IO.currentDir))
    return if p.isAbsolute then p else { here with names := here.names ++ p.names }

/-- A line of a frame, filled up to a width. -/
def framed (width : Nat) (line : String) : String :=
  "│ " ++ line ++ String.ofList (List.replicate (width - line.length) ' ') ++ " │"

def rule (n : Nat) : String := String.ofList (List.replicate n '─')

instance : Console IO where
  print s := IO.println s
  printError s := IO.eprintln s
  panel title shown := do
    let width := (title :: shown).foldl (fun w line => max w line.length) 0
    IO.println ("╭─ " ++ title ++ " " ++ rule (width - title.length - 1) ++ "╮")
    for line in shown do
      IO.println (framed width line)
    IO.println ("╰" ++ rule (width + 2) ++ "╯")
  choose question choices := do
    IO.println question
    for (choice, n) in choices.zip (List.range choices.length) do
      IO.println ("  " ++ toString (n + 1) ++ ") " ++ choice)
    let line ← (← IO.getStdin).getLine
    match line.trimAscii.toNat? with
    | some (n + 1) => return choices[n]?
    | _ => return none

end PlanCode.Main

open PlanCode in
/-- Runs a command, and ends with its code. -/
def main (words : List String) : IO UInt32 := do
  match ← CommandLine.run (m := IO) "jmeter-codegen" words with
  | .code n => return UInt32.ofNat n
  | .failed f =>
    IO.eprintln f.message
    return 1
  | .serving =>
    IO.eprintln "This program does not serve tools."
    return 1
