import OrderDesk.Service.Start
import OrderDesk.Settings.Load

/-!
# The order desk at the console

Settings come from the directory `configs` and from the variables of the process. Every line of the
input is a request: a method, a target and, after a blank, a body. The answer is one line with the
status and the body.
-/

namespace OrderDesk.Console

/-- the text of a file, if it can be read -/
def fileText (name : String) : IO (Option String) := do
  try
    return some (← IO.FS.readFile name)
  catch _ => return none

def variableName (l : Settings.Leaf) : String :=
  "ORDERAPI_" ++ l.heading.toUpper ++ "__" ++ l.key.toUpper

/-- the variables of the process that set a leaf -/
def processVariables : IO (List (String × String)) :=
  Settings.leaves.filterMapM fun l => do
    return (← IO.getEnv (variableName l)).map (variableName l, ·)

def settings : IO (Except Failure Settings) := do
  let env := ((← IO.getEnv "APP_ENV").filter (· ≠ "")).getD "dev"
  return Settings.load "configs" (← fileText "configs/base.yaml")
    (← fileText ("configs/" ++ env ++ ".yaml")) (← processVariables)

def requestOf? (line : String) : Option Http.Request :=
  match line.trimAscii.toString.splitOn " " with
  | method :: target :: rest =>
    Http.Request.ofTarget? method target [("Content-Type", "application/json")]
      (Octets.ofText (" ".intercalate rest))
  | _ => none

def answerLine : Outcome Http.Response → String
  | .ok r => toString r.status ++ " " ++ Octets.lossyText r.body
  | .failed f => f.message
  | .panicked t => t

partial def serveLines (front : Http.Front) (input output : IO.FS.Stream) (desk : Desk) :
    IO Unit := do
  let line ← input.getLine
  if line.isEmpty then return
  match requestOf? line with
  | none => serveLines front input output desk
  | some r =>
    let (answer, desk) := Http.serve front r desk
    output.putStrLn (answerLine answer)
    output.flush
    serveLines front input output desk

end OrderDesk.Console

open OrderDesk in
/-- Starts the service and answers the requests of the input; a failed start is told and ends with
code 1. -/
def main : IO UInt32 := do
  match (← Console.settings).bind fun s => Service.start s { clock := .zero } with
  | .error f =>
    (← IO.getStderr).putStrLn f.message
    return 1
  | .ok service =>
    Console.serveLines service.front (← IO.getStdin) (← IO.getStdout) service.desk
    return 0
