import OrderDesk.Settings.Leaf

/-!
# Loading settings

Three layers, each over the one before: the base file, the file of the environment, and the
variables of the process whose names start with `ORDERAPI_`.

* `variablePath?`    the path that a variable sets;
* `layers`           the three layers laid over each other;
* `load`             the settings that result, checked.
-/

namespace OrderDesk.Settings

/-- what the names of variables start with -/
def variableMark : List Char := "ORDERAPI_".toList

/-- what follows `mark` in a list that starts with it -/
def after? : List Char → List Char → Option (List Char)
  | [], cs => some cs
  | m :: ms, c :: cs => if m = c then after? ms cs else none
  | _ :: _, [] => none

/-- two underscores become a point -/
def dotted : List Char → List Char
  | '_' :: '_' :: rest => '.' :: dotted rest
  | c :: rest => c :: dotted rest
  | [] => []

/-- the path that a variable sets, none for a variable of another program -/
def variablePath? (name : String) : Option (List String) :=
  match after? variableMark name.toList with
  | none | some [] => none
  | some cs => some ((((dotted cs).map Text.lowerChar).splitOn '.').map String.ofList)

def variableLayer (vars : List (String × String)) : List (String × Tree) :=
  vars.foldl (fun ms (name, value) =>
    match variablePath? name with
    | none => ms
    | some path => putText value path ms) []

/-- the three layers laid over each other; a broken file of the environment counts as empty -/
def layers (base : List (String × Tree)) (overlay : Option String) (vars : List (String × String)) :
    List (String × Tree) :=
  let ms := match overlay.bind Yaml.parse? with
    | some us => mergeChildren us base
    | none => base
  mergeChildren (variableLayer vars) ms

/-- The settings of the base file of a directory, the file of the environment and the variables of
the process. -/
def load (dir : String) (base overlay : Option String) (vars : List (String × String)) :
    Except Failure Settings :=
  match base with
  | none => .error (.plain ("load base: open " ++ dir ++ "/base.yaml: no such file or directory"))
  | some text =>
    match Yaml.parse? text with
    | none => .error (.plain "load base: yaml")
    | some ms =>
      match fill? (layers ms overlay vars) {} with
      | none => .error (.plain "unmarshal")
      | some c => c.validate.map fun _ => c

end OrderDesk.Settings
