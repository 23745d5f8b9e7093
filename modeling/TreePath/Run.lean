import TreePath.Grammar.Command

/-! # Running commands

A command visits the places its path selects, in order, and does its operation at each of them.
The first failure ends the run; what was done before it stays done. -/

namespace TreePath

/-- A run so far: the tree it leaves, what it found or what its operations reported, in order, and
the failure that ended it, if one did. -/
structure Run where
  tree : Value
  hits : List Value
  failure : Option Error

namespace Run

/-- A run that leaves the tree as it is and found some values. -/
def found (tree : Value) (hits : List Value) : Run := ⟨tree, hits, none⟩

/-- A run that failed at once. -/
def failed (tree : Value) (e : Error) : Run := ⟨tree, [], some e⟩

/-- A run on the child under a key, seen as a run on the container. -/
def within (container : Value) (key : Key) (r : Run) : Run :=
  { r with tree := container.replaceChild key r.tree }

/-- A run and, unless it failed, another one on the tree it leaves. -/
def andThen (r : Run) (next : Value → Run) : Run :=
  match r.failure with
  | some _ => r
  | none =>
    let s := next r.tree
    ⟨s.tree, r.hits ++ s.hits, s.failure⟩

/-- A run that needs a result first, and fails where that fails. -/
def needing {α : Type} (tree : Value) (result : Except Error α) (next : α → Run) : Run :=
  match result with
  | .ok a => next a
  | .error e => failed tree e

/-- A run of one operation: what it leaves of the tree, and its result, if it gave one. -/
def operated : Value × Except Error (Option Value) → Run
  | (tree, .ok result) => found tree result.toList
  | (tree, .error e) => failed tree e

/-- One run after the other for the keys of a container. -/
def overKeys (visit : Key → Value → Run) : List Key → Value → Run
  | [], tree => found tree []
  | key :: rest, tree => (visit key tree).andThen (overKeys visit rest)

/-- The tree and the outcome of a run: what was found, or the failure. -/
def outcome (r : Run) : Value × Except Error (List Value) :=
  (r.tree,
    match r.failure with
    | some e => .error e
    | none => .ok r.hits)

end Run

/-- A leaf has no children to go to. -/
def Value.ensureContainer (v : Value) : Except Error Unit :=
  if v.isLeaf then .error (.run (.leafTraversal v)) else .ok ()

namespace Registry

variable (r : Registry)

/-- Whether a child is kept by a segment's predicate. -/
def accepts (predicate : Option Directive) (child : Value) : Except Error Bool :=
  match predicate with
  | none => .ok true
  | some d => (r.predicateFor d).bind fun p => p.accepts d child

/-- The keys a segment selects in a container. -/
def keysOf (d : Directive) (container : Value) : Except Error (List Key) :=
  container.ensureContainer.bind fun _ => (r.selectFor d).bind fun s => s.keys d container

/-- Goes through the children that the segments of a path select one inside the other, and does
`visit` where the path ends. Names that are absent are passed over. -/
def walk (visit : Value → Run) : List Segment → Value → Run
  | [], tree => visit tree
  | segment :: rest, tree =>
    Run.needing tree (r.keysOf segment.select tree) fun keys =>
      Run.overKeys (fun key container =>
        Run.needing container (container.child? key) fun
          | none => .found container []
          | some child =>
            Run.needing container (r.accepts segment.predicate child) fun kept =>
              if kept then (walk visit rest child).within container key
              else .found container [])
        keys tree

/-- Visits one key of the last segment. A child that is there has to be kept by the predicate; the
operation is done also where there is no child. -/
def visitLast (predicate : Option Directive) (operation : Option (Operation × Directive))
    (key : Key) (container : Value) : Run :=
  Run.needing container (container.child? key) fun child =>
    let kept := match child with
      | some child => r.accepts predicate child
      | none => .ok true
    Run.needing container kept fun kept =>
      if !kept then .found container []
      else
        match operation with
        | none => .found container child.toList
        | some (o, d) => Run.operated (o.act d container key)

/-- Visits the keys that the last segment selects in a container. -/
def applyLast (select : Select) (last : Segment) (operation : Option (Operation × Directive))
    (container : Value) : Run :=
  Run.needing container container.ensureContainer fun _ =>
    Run.needing container (select.keys last.select container) fun keys =>
      Run.overKeys (r.visitLast last.predicate operation) keys container

/-- The operation of a command with its handler. -/
def operationOf (operation : Option Directive) : Except Error (Option (Operation × Directive)) :=
  match operation with
  | none => .ok none
  | some d => (r.operationFor d).map fun o => some (o, d)

/-- Runs a command on a tree. The handlers of the last select and of the operation are looked up
first. -/
def run (command : Command) (tree : Value) : Run :=
  match command.path.getLast? with
  | none => .failed tree (.grammar .emptyPath command.text)
  | some last =>
    Run.needing tree (r.selectFor last.select) fun select =>
      Run.needing tree (r.operationOf command.operation) fun operation =>
        r.walk (r.applyLast select last operation) command.path.dropLast tree

/-- The tree after a command and how many places it affected. -/
def executeCount (command : Command) (tree : Value) : Value × Except Error Nat :=
  let (tree, result) := (r.run command tree).outcome
  (tree, result.map List.length)

/-- The tree after a command and what it found or its operations reported. -/
def executeResult (command : Command) (tree : Value) : Value × Except Error (List Value) :=
  (r.run command tree).outcome

/-- Something done with the command of a text; a text that is no command leaves the tree. -/
def onCommand {α : Type} (text : String) (act : Command → Value → Value × Except Error α)
    (tree : Value) : Value × Except Error α :=
  match r.parseCommand text with
  | .ok command => act command tree
  | .error e => (tree, .error e)

/-! ## Queries -/

/-- Values found under each of some keys, in order. -/
def collect (visit : Key → Except Error (List Value)) : List Key → Except Error (List Value)
  | [] => .ok []
  | key :: rest =>
    (visit key).bind fun here => (collect visit rest).map fun others => here ++ others

/-- The values where a path ends, from a value on. -/
def valuesAt : List Segment → Value → Except Error (List Value)
  | [], v => .ok [v]
  | segment :: rest, v =>
    (r.keysOf segment.select v).bind fun keys =>
      collect (fun key =>
        (v.child? key).bind fun
          | none => .ok []
          | some child =>
            (r.accepts segment.predicate child).bind fun kept =>
              if kept then valuesAt rest child else .ok [])
        keys

/-- The values a path selects. -/
def selectValues (path : List Segment) (v : Value) : Except Error (List Value) :=
  if path.isEmpty then .error (.grammar .emptyPath "//") else r.valuesAt path v

/-- The values the path of a text selects. -/
def getValues (path : String) (v : Value) : Except Error (List Value) :=
  (r.parsePath path).bind fun segments => r.selectValues segments v

/-- The one value a path selects. -/
def getValue (path : String) (v : Value) : Except Error Value :=
  (r.getValues path v).bind fun
    | [found] => .ok found
    | values => .error (.run (.cardinality .exactlyOne values.length path))

/-- The value a path selects, if it selects any. -/
def getValueOpt (path : String) (v : Value) : Except Error (Option Value) :=
  (r.getValues path v).bind fun
    | [] => .ok none
    | [found] => .ok (some found)
    | values => .error (.run (.cardinality .atMostOne values.length path))

/-! ## Direct changes -/

/-- Runs a built-in operation, given by name and operand, where a path leads. The operand is
checked before the path is read. -/
def executeWith (operation : String) (operand : Option Value) (path : String) (tree : Value) :
    Value × Except Error Nat :=
  let payload : Except Error Payload := match operand with
    | some v => v.validate.map fun _ => .value v
    | none => .ok .none
  let command : Except Error Command :=
    payload.bind fun payload =>
      (r.parsePath path).map fun segments =>
        ⟨segments, some ⟨operation, some operation, payload⟩⟩
  match command with
  | .ok command => r.executeCount command tree
  | .error e => (tree, .error e)

def setValues (path : String) (v : Value) := r.executeWith "set" (some v) path

def setValuesIfAbsent (path : String) (v : Value) := r.executeWith "setIfAbsent" (some v) path

def appendValues (path : String) (v : Value) := r.executeWith "append" (some v) path

def appendValuesIfAbsent (path : String) (v : Value) :=
  r.executeWith "appendIfAbsent" (some v) path

def unsetValues (path : String) := r.executeWith "unset" none path

def clearContainers (path : String) := r.executeWith "clear" none path

end Registry

end TreePath
