import ScriptedRobot.Setup.Setting

/-! # Trees of tables

A document is built as a tree to which keys and headers are added one after the other. The tree
remembers how each table came about, since that decides what may still be added to it: a table is
written under one header, or with dotted keys, and never in both ways or twice. -/

namespace ScriptedRobot.Toml

open Setup (Setting Settings)

/-- A node of a document. -/
inductive Node where
  | value (setting : Setting)
  /-- A table. It is implicit while only the path to something below it has named it, and dotted
  if dotted keys made it. -/
  | table (implicit dotted : Bool) (entries : List (String × Node))
  /-- A list of tables with a header each. -/
  | tables (elements : List Node)

namespace Node

/-- The tree of an empty document. -/
def empty : Node := .table false false []

/-- Change the node that a path leads to. Tables that are missing on the way are made. Of a list
of tables the path follows the last one. Dotted keys do not lead into a table that has a header of
its own. -/
def descend (dotted : Bool) (change : Node → Option Node) : List String → Node → Option Node
  | [], node => change node
  | key :: rest, .table implicit ownDotted entries => do
    let child ←
      match (entries.lookup key).getD (.table true dotted []) with
      | .value _ => none
      | .tables elements => do
        let last ← elements.getLast?
        some (.tables (elements.dropLast ++ [← descend dotted change rest last]))
      | .table childImplicit childDotted childEntries =>
        if dotted && !childImplicit then none
        else descend dotted change rest (.table childImplicit childDotted childEntries)
    return .table implicit ownDotted (Text.insertSorted key child entries)
  | _ :: _, _ => none

/-- Give a value to a key of a table that does not have the key. A dotted key ends in a table that
dotted keys made, and a plain one does not. -/
def give (isDotted : Bool) (key : String) (setting : Setting) : Node → Option Node
  | .table implicit dotted entries =>
    if dotted ≠ isDotted ∨ (entries.lookup key).isSome then none
    else some (.table implicit dotted (Text.insertSorted key (.value setting) entries))
  | _ => none

/-- Give a value to a dotted key. -/
def assign (path : List String) (setting : Setting) (node : Node) : Option Node := do
  let key ← path.getLast?
  descend true (give (1 < path.length) key setting) path.dropLast node

/-- Open the table of a header. A table that was implicit so far is explicit from now on; any
other one must be new. -/
def openTable (key : String) : Node → Option Node
  | .table implicit dotted entries =>
    match entries.lookup key with
    | none => some (.table implicit dotted (Text.insertSorted key empty entries))
    | some (.table true false child) =>
      some (.table implicit dotted (Text.insertSorted key (.table false false child) entries))
    | some _ => none
  | _ => none

/-- Open one more table of a list of tables. -/
def openElement (key : String) : Node → Option Node
  | .table implicit dotted entries =>
    match entries.lookup key with
    | none => some (.table implicit dotted (Text.insertSorted key (.tables [empty]) entries))
    | some (.tables elements) =>
      some (.table implicit dotted
        (Text.insertSorted key (.tables (elements ++ [empty])) entries))
    | some _ => none
  | _ => none

/-- Open the table at the path of a header, or one more table of the list there. -/
def openAt (isElement : Bool) (path : List String) (node : Node) : Option Node := do
  let key ← path.getLast?
  descend false (if isElement then openElement key else openTable key) path.dropLast node

/-- Give a value to a key below the table whose header came last. -/
def assignBelow (header path : List String) (setting : Setting) : Node → Option Node :=
  descend false (assign path setting) header

mutual

/-- The setting that a node stands for. -/
def setting : Node → Setting
  | .value setting => setting
  | .table _ _ entries => .table (settings entries)
  | .tables elements => .list (settingsOf elements)

/-- The settings of named nodes. -/
def settings : List (String × Node) → Settings
  | [] => []
  | (key, node) :: rest => (key, node.setting) :: settings rest

/-- The settings of nodes. -/
def settingsOf : List Node → List Setting
  | [] => []
  | node :: rest => node.setting :: settingsOf rest

end

end Node

/-- The setting of an inline table, which holds what its keys are given. -/
def inlineTable? (pairs : List (List String × Setting)) : Option Setting :=
  (pairs.foldlM (fun node (path, setting) => Node.assign path setting node) Node.empty).map
    Node.setting

end ScriptedRobot.Toml
