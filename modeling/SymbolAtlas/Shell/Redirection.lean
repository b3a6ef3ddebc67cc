/-
# SymbolAtlas.Shell.Redirection — where descriptors are led to

A redirection opens a file, or takes over what another descriptor leads to. The words of all
redirections of a command are expanded before the first of them is carried out; one that cannot be
carried out is reported, and the command is not run.
-/
import SymbolAtlas.Shell.Expansion

namespace SymbolAtlas.Shell

/-! ## Opening -/

/-- The descriptor that a path names. -/
def descriptorAt? (path : Text) : Option Nat :=
  match String.ofList path with
  | "/dev/stdin" => some 0
  | "/dev/stdout" => some 1
  | "/dev/stderr" => some 2
  | _ =>
    let number := path.drop "/dev/fd/".length
    if "/dev/fd/".toList.isPrefixOf path && Octets.isNumber number then
      some (Octets.numberOf number)
    else none

/-- Reports that a file cannot be opened. -/
def cannot {α : Type} (action : String) (path : Text) (reason : String) : Run α :=
  fail (s!"cannot {action} ".toList ++ path ++ ": ".toList ++ reason.toList)

/-- Why a lookup fails, in the words of an attempt that has words of its own for a missing file. -/
def LookupError.reasonOr (missing : String) : LookupError → String
  | .noEntry | .notDirectory => missing
  | other => other.reason

/-- Whether a path names something that can be created: its directory exists. -/
def isCreatable (ws : Workspace) (path : Text) : Bool :=
  ws.node? (ws.ownPlace (Octets.toText path)).dropLast matches some .directory

/-- Opens a file for reading. -/
def openToRead (path : Text) : Run Channel := do
  match (← get).workspace.stat (Octets.toText path) with
  | .ok (.file content _) => newInput (Octets.ofBytes content.bytes)
  | .ok _ => return .nowhere
  | .error e => cannot "open" path (LookupError.reasonOr "No such file" e)

/-- Opens a file for writing. Unless `kind` says that bytes are appended, those that it holds are
dropped. -/
def openToWrite (kind : RedirectKind) (path : Text) : Run Channel := do
  let state ← get
  let ws := state.workspace
  let name := Octets.toText path
  let place := Channel.file (ws.placeOf name)
  match ws.stat name with
  | .ok .directory => cannot "create" path "Is a directory"
  | .ok (.file _ executable) =>
    if kind == .write || kind == .replace then
      if state.has .noClobber && kind == .write then cannot "create" path "File exists"
      set { state with workspace := ws.write name (.file (Content.ofBytes []) executable) }
    return place
  | .ok _ => return .nowhere
  | .error .noEntry =>
    if !isCreatable ws path then cannot "create" path "Directory nonexistent"
    if path.getLast? == some '/' then cannot "create" path "Is a directory"
    set { state with workspace := ws.write name (.file (Content.ofBytes []) false) }
    return place
  | .error e => cannot "create" path (LookupError.reasonOr "Directory nonexistent" e)

/-- Opens a file for reading and writing. -/
def openForBoth (path : Text) : Run Channel := do
  let channel ← openToWrite .append path
  match channel with
  | .file _ => openToRead path
  | other => return other

/-! ## Redirections -/

/-- Carries out a redirection to what its word has been expanded to. -/
def Redirect.carryOut (r : Redirect) (text : Text) : Run Unit := do
  let state ← get
  let opened (openFile : Text → Run Channel) : Run Unit := do
    match (descriptorAt? text).bind fun descriptor => state.channels.lookup descriptor with
    | some channel => point r.descriptor channel
    | none => point r.descriptor (← openFile text)
  match r.kind with
  | .document => point r.descriptor (← newInput text)
  | .read => opened openToRead
  | .write | .replace | .append => opened (openToWrite r.kind)
  | .readWrite => opened openForBoth
  | .duplicate =>
    if text == ['-'] then close r.descriptor
    else match state.channels.lookup (Octets.numberOf text) with
      | some channel => point r.descriptor channel
      | none => fail (text ++ ": Bad file descriptor".toList)

/-- Expands the words of redirections. -/
def expandTargets (interpret : Nat → Text → Run Unit) (redirects : List Redirect) :
    Run (List (Redirect × Text)) :=
  redirects.mapM fun r => do
    let text ← r.target.text interpret
    if r.kind == .duplicate && text != ['-'] && !Octets.isNumber text then
      fail "Syntax error: Bad fd number".toList
    return (r, text)

/-- Runs a step with redirections in force, or another one if they cannot be carried out. Where
`kept` is set they stay in force. -/
def redirected (interpret : Nat → Text → Run Unit) (redirects : List Redirect) (kept : Bool)
    (body failure : Run Unit) : Run Unit := do
  if redirects.isEmpty then body
  else
    let targets ← expandTargets interpret redirects
    let channels := (← get).channels
    let size := (← get).inputs.size
    let restore : Run Unit := modify fun state =>
      { state with channels := channels, inputs := state.inputs.shrink size }
    let opened ← try
        for (r, text) in targets do r.carryOut text
        pure true
      catch
        | .failed _ => pure false
        | escape => throw escape
    if !opened then
      restore
      failure
    else if kept then body
    else followedBy body restore

end SymbolAtlas.Shell
