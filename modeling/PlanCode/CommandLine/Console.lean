import PlanCode.CommandLine.Markup
import PlanCode.CommandLine.Options
import PlanCode.CommandLine.Screen
import PlanCode.Failure

/-!
# The console of a command

A command writes lines, frames a result and asks which of several things is
meant. It ends with a code, or with a failure that it does not deal with.
-/
namespace PlanCode.CommandLine

class Console (m : Type → Type) where
  /-- Writes a text and ends the line. -/
  print : String → m Unit
  /-- Writes a line for what is wrong with the command line. -/
  printError : String → m Unit
  /-- Writes a titled text in a frame. -/
  panel (title : String) (lines : List String) : m Unit
  /-- Asks for one of several choices; none when the question is not answered. -/
  choose (question : String) (choices : List String) : m (Option String)

inductive Ending where
  | code (n : Nat)
  | failed (f : Failure)
  /-- The tools are to be served from here on. -/
  | serving

/-- What a command does until it ends. -/
abbrev Run (m : Type → Type) := ExceptT Ending m

section

variable {m : Type → Type} [Monad m] [Console m]

def print (s : String) : Run m Unit := ExceptT.lift (Console.print s)

/-- The cells of a line, and those of a line in a frame. -/
def consoleWidth : Nat := 1000
def frameWidth : Nat := consoleWidth - 4

/-- The lines of a marked-up text, or the end of the command. -/
def shownLines (width : Nat) (s : String) : Run m (List String) :=
  match plain s with
  | .ok t => return textLines width t
  | .error e => throw (.failed (.markup e))

def printMarked (s : String) : Run m Unit := do
  print ("\n".intercalate (← shownLines consoleWidth s))

def printCode (s : String) : Run m Unit := print ("\n".intercalate (codeLines consoleWidth s))

/-- The value of a step, or the end that its failure means: what is expected is told. -/
def succeed {α : Type} (x : Except Failure α) : Run m α := do
  match x with
  | .ok a => return a
  | .error e =>
    if e.isExpected then
      printMarked ("\n[bold red]Error:[/bold red] " ++ e.message)
      throw (.code 1)
    else throw (.failed e)

/-- Tells what is wrong with the words of a command, whose usage is known. -/
def misused {α : Type} (command usage : String) (e : UsageError) : Run m α := do
  let hint := ["Usage: " ++ command ++ " " ++ usage, "Try '" ++ command ++ " --help' for help.", ""]
  for line in (if e.showsUsage then hint else []) ++ ["Error: " ++ e.message] do
    ExceptT.lift (Console.printError line)
  throw (.code 2)

end
end PlanCode.CommandLine
