/-
# SymbolAtlas.Workspace.Tree — a file tree held in memory

A workspace is a tree of directories, files and symbolic links with a working directory. A path is
looked up in two ways. `locate` follows it step by step and fails where a name is missing or is not
a directory, as every use of a file does. `resolve` makes it absolute and free of links without
asking that it exists: behind a missing name the rest of the path is taken literally.
-/
import SymbolAtlas.Binary.Content
import SymbolAtlas.Failure
import SymbolAtlas.Text.Utf8

namespace SymbolAtlas

/-- What lies at a place of the tree. -/
inductive Node
  | directory
  | file (content : Content) (executable : Bool)
  | symlink (target : Text)
  /-- A program of the system, which is run by its name. -/
  | program (name : Text)
  /-- Anything else, such as a device. -/
  | special

/-- A tree, as a list of places with their nodes, and the working directory. A place is the list of
the names that lead to it from the top. -/
structure Workspace where
  directory : List Text
  nodes : List (List Text × Node)

/-- Why a path leads nowhere. -/
inductive LookupError
  | noEntry
  | notDirectory
  | loop
  | nameTooLong
  deriving DecidableEq, Repr

/-- The wording of a failed lookup. -/
def LookupError.reason : LookupError → String
  | .noEntry => "No such file or directory"
  | .notDirectory => "Not a directory"
  | .loop => "Too many levels of symbolic links"
  | .nameTooLong => "File name too long"

namespace Workspace

/-! ## Places -/

/-- The names of a path. -/
def names (path : Text) : List Text := Text.pieces (· == '/') path

/-- Whether a path starts at the top of the tree. -/
def isAbsolute (path : Text) : Bool := path.head? = some '/'

/-- A place as an absolute path. -/
def pathOf (place : List Text) : Text :=
  if place.isEmpty then ['/'] else place.flatMap fun name => '/' :: name

/-- Where a path starts. -/
def origin (ws : Workspace) (path : Text) : List Text :=
  if isAbsolute path then [] else ws.directory

/-- The node at a place. The top of the tree is a directory. -/
def node? (ws : Workspace) (place : List Text) : Option Node :=
  if place.isEmpty then some .directory else ws.nodes.lookup place

/-- The name that stands for the directory itself. -/
def selfName : Text := ['.']

/-- The name that stands for the directory above. -/
def parentName : Text := ['.', '.']

/-! ## Lookup -/

/-- The greatest number of links that a lookup follows. -/
def maxLinks : Nat := 40

/-- The greatest length of a name in bytes. -/
def maxNameLength : Nat := 255

/-- The greatest length of a path in bytes. -/
def maxPathLength : Nat := 4095

/-- The names of a path as steps; a slash at the end asks for a directory. -/
def steps (path : Text) : List Text :=
  names path ++ if path.getLast? = some '/' then [selfName] else []

/-- Follows steps from a place, through at most `links` links. -/
def walk (ws : Workspace) (links : Nat) (place : List Text) :
    List Text → Except LookupError (List Text)
  | [] => .ok place
  | name :: rest =>
    match ws.node? place with
    | some .directory =>
      if name = selfName then walk ws links place rest
      else if name = parentName then walk ws links place.dropLast rest
      else if (Text.Utf8.encode name).length > maxNameLength then .error .nameTooLong
      else match ws.node? (place ++ [name]) with
        | none => .error .noEntry
        | some (.symlink target) =>
          if _h : links = 0 then .error .loop
          else walk ws (links - 1) (if isAbsolute target then [] else place) (steps target ++ rest)
        | some _ => walk ws links (place ++ [name]) rest
    | some _ => .error .notDirectory
    | none => .error .noEntry
termination_by rest => (links, rest.length)

/-- The place that a path leads to. -/
def locate (ws : Workspace) (path : Text) : Except LookupError (List Text) :=
  if path.isEmpty || Char.ofNat 0 ∈ path then .error .noEntry
  else if (Text.Utf8.encode path).length > maxPathLength then .error .nameTooLong
  else ws.walk maxLinks (ws.origin path) (steps path)

/-- The node that a path leads to. -/
def stat (ws : Workspace) (path : Text) : Except LookupError Node :=
  match ws.locate path with
  | .error e => .error e
  | .ok place =>
    match ws.node? place with
    | some node => .ok node
    | none => .error .noEntry

/-! ## Resolution -/

/-- A path without links as far as it has been followed: from the top, or from the working
directory, in which case it can begin with steps upwards. The name that was reached last comes
first. -/
structure Route where
  absolute : Bool
  trail : List Text
  deriving DecidableEq, Repr

/-- The names of a route from its start on. -/
def Route.names (r : Route) : List Text := r.trail.reverse

/-- The path that a route spells. -/
def Route.text (r : Route) : Text :=
  let joined := ['/'].intercalate r.names
  if r.absolute then '/' :: joined else joined

/-- The route to a name in the directory. -/
def Route.down (r : Route) (name : Text) : Route := { r with trail := name :: r.trail }

/-- The route to the directory above. -/
def Route.up (r : Route) : Route :=
  if !r.absolute && (r.trail.head?.all (· = parentName)) then r.down parentName
  else { r with trail := r.trail.drop 1 }

/-- The names without those that stand for the directory itself or the one above. -/
def normalize (names : List Text) : List Text :=
  let trail := names.foldl (fun trail name =>
    if name = selfName then trail
    else if name = parentName then trail.drop 1
    else name :: trail) []
  trail.reverse

/-- The place that names lead to from the top or from the working directory. -/
def placeFrom (ws : Workspace) (absolute : Bool) (names : List Text) : List Text :=
  normalize (if absolute then names else ws.directory ++ names)

/-- One path behind another; an absolute one stands alone. -/
def join (path behind : Text) : Text :=
  if isAbsolute behind then behind else path ++ '/' :: behind

/-- The greatest number of names of a path that can be looked up. -/
def maxNames : Nat := (maxPathLength + 1) / 2

/-- The node that a route leads to, if the route is short enough to be looked up. -/
def nodeOn? (ws : Workspace) (r : Route) : Option Node :=
  if (r.trail.drop maxNames).isEmpty then ws.node? (ws.placeFrom r.absolute r.names) else none

/-- Follows a path from a route without asking that its names exist. A link that is met while it is
being followed ends the resolution: the rest of the path stands behind it as it is. `depth` bounds
the links within links. -/
def follow (ws : Workspace) (depth : Nat) (active : List Route) (route : Route) (rest : Text) :
    Except Text Route :=
  match rest with
  | [] => .ok route
  | c :: rest =>
    if c = '/' then follow ws depth active route rest
    else
      let name := c :: rest.takeWhile (· != '/')
      let behind := (rest.dropWhile (· != '/')).drop 1
      have _shorter : (rest.dropWhile (· != '/')).length ≤ rest.length :=
        (List.dropWhile_sublist _).length_le
      if name = selfName then follow ws depth active route behind
      else if name = parentName then follow ws depth active route.up behind
      else
        let next := route.down name
        match ws.nodeOn? next with
        | some (.symlink target) =>
          if _h : depth = 0 ∨ next ∈ active then .error (join next.text behind)
          else
            let start := if isAbsolute target then ⟨true, []⟩ else route
            match follow ws (depth - 1) (next :: active) start target with
            | .ok reached => follow ws depth active reached behind
            | .error path => .error (join path behind)
        | _ => follow ws depth active next behind
termination_by (depth, rest.length)

/-- A depth that links within links do not reach, unless one of them is met again. -/
def maxDepth (ws : Workspace) : Nat := (ws.nodes.length + 1) * (ws.directory.length + 3)

/-- The place that a path stands for, whether or not anything lies there. -/
def placeOf (ws : Workspace) (path : Text) : List Text :=
  let plain := ['/'].intercalate (names path)
  let start : Route := ⟨isAbsolute path, []⟩
  match ws.follow ws.maxDepth [] start plain with
  | .ok route => ws.placeFrom route.absolute route.names
  | .error reached => ws.placeFrom (isAbsolute reached) (names reached)

/-- The absolute path without links that a path stands for. -/
def resolve (ws : Workspace) (path : Text) : Except FileError Text :=
  if Char.ofNat 0 ∈ path then .error .nullCharacter
  else
    let resolved := pathOf (ws.placeOf path)
    match ws.stat resolved with
    | .error .loop => .error (.symlinkLoop resolved)
    | _ => .ok resolved

/-! ## Changes -/

/-- Puts a node at a place, and directories above it where nothing lies. -/
def insert (ws : Workspace) (place : List Text) (node : Node) : Workspace :=
  let above := (List.range place.length).filterMap fun n =>
    let directory := place.take n
    if (ws.node? directory).isSome then none else some (directory, Node.directory)
  { ws with nodes := (ws.nodes.filter fun entry => entry.1 != place) ++ above ++ [(place, node)] }

/-- The place of a name itself, where a link is not followed. -/
def ownPlace (ws : Workspace) (path : Text) : List Text :=
  match (names path).getLast? with
  | some name =>
    let above := ['/'].intercalate (names path).dropLast
    normalize (ws.placeOf (if isAbsolute path then '/' :: above else above) ++ [name])
  | none => ws.placeOf path

/-- Writes a file, a directory or a link at a path. A file is written through a link. -/
def write (ws : Workspace) (path : Text) (node : Node) : Workspace :=
  match node with
  | .symlink _ => ws.insert (ws.ownPlace path) node
  | _ => ws.insert (ws.placeOf path) node

/-- Removes what lies at a path, and everything below it. -/
def remove (ws : Workspace) (path : Text) : Workspace :=
  let place := ws.ownPlace path
  { ws with nodes := ws.nodes.filter fun entry => !place.isPrefixOf entry.1 }

/-- The programs that every system has. -/
def systemPrograms : List String :=
  ["basename", "cat", "dash", "dirname", "echo", "env", "false", "printf", "pwd", "sleep", "true"]

/-- The directories that every system has. -/
def systemDirectories : List String :=
  ["/dev", "/etc", "/home", "/opt", "/root", "/tmp", "/usr", "/usr/bin", "/usr/lib", "/var"]

/-- A system with its programs; the shell has two names, and the programs two directories. -/
def system : Workspace :=
  let directories := systemDirectories.map fun path => (names path.toList, Node.directory)
  let bin := ["usr".toList, "bin".toList]
  let programs := systemPrograms.map fun name => (bin ++ [name.toList], Node.program name.toList)
  { directory := []
    nodes := directories ++ programs ++
      [(["bin".toList], .symlink "usr/bin".toList), (bin ++ ["sh".toList], .symlink "dash".toList),
        (["dev".toList, "null".toList], .special)] }

/-- A workspace with an empty working directory. -/
def empty (directory : Text) : Workspace :=
  { system with directory := names directory }.insert (names directory) .directory

end Workspace

end SymbolAtlas
