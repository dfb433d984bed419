import Fleet.Config.Check
import Fleet.Config.Read
import Fleet.Config.Variable

/-!
# Descriptions from a document and variables

A description is read from a document, a tree of tables, over which environment variables are laid.
A variable whose name begins with `FLOTILLA_`, in letters of either case, sets the value at the path
that the rest of its name writes in small letters, with two underscores between the steps. The
variables make a tree of their own before it is laid over the document. Tables merge, everything
else is replaced.
-/

namespace Fleet.Config

/-- What the names of the variables begin with. -/
def variableStem : String := "flotilla_"

/-- Cuts at every pair of underscores; `step` is what stands before the text, in reverse. -/
def pathSteps (step : List Char) : List Char → List (List Char)
  | [] => [step.reverse]
  | '_' :: '_' :: rest => step.reverse :: pathSteps [] rest
  | c :: rest => pathSteps (c :: step) rest

/-- The path that a variable sets, if its name is one of ours and no step is empty. -/
def variablePath? (name : String) : Option (List String) :=
  let cs := (Text.lowerAscii (Text.trim name)).toList
  if variableStem.toList.isPrefixOf cs then
    let steps := pathSteps [] (cs.drop variableStem.length)
    let steps := steps.flatMap fun step => Text.splitAtChars (· == '.') step
    if steps.any List.isEmpty then none else some (steps.map String.ofList)
  else none

/-- The tree that holds one value at a path. -/
def nest (value : Json) : List String → Json
  | [] => value
  | step :: rest => .object [(step, nest value rest)]

mutual

/-- Lays a tree over another: tables merge member by member, anything else takes the place of what
was there. -/
def laid (below : Json) : Json → Json
  | .object members =>
    match below with
    | .object others => .object (laidMembers others members)
    | _ => .object members
  | above => above

/-- Lays members over others. -/
def laidMembers (below : List (String × Json)) : List (String × Json) → List (String × Json)
  | [] => below
  | (name, above) :: rest =>
    let value := match Json.lastMember name below with
      | some old => laid old above
      | none => above
    laidMembers (setMember name value below) rest

end

/-- The tree that variables write, each laid over those before it. -/
def variableTree (assigned : List (String × String)) : Json :=
  assigned.foldl (fun tree entry =>
    match variablePath? entry.1 with
    | some path => laid tree (nest (variableValue entry.2) path)
    | none => tree) (.object [])

/-- Lays the tree of variables over a document. -/
def overlay (document : Json) (assigned : List (String × String)) : Json :=
  laid document (variableTree assigned)

/-- The description of a document and variables, if it can be read and is consistent. -/
def load (document : Json) (assigned : List (String × String)) : Outcome Config :=
  match read? (overlay document assigned) with
  | none => .error (.config .unreadable)
  | some c =>
    match c.check with
    | .ok () => .ok c
    | .error e => .error e

end Fleet.Config
