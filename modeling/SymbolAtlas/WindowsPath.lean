/-
# SymbolAtlas.WindowsPath — paths with drives, backslashes and slashes

Listings name files by Windows paths. A path has a drive (a letter and a colon, or a server with a
share) and a rest; both `\` and `/` separate the names of the rest. `join` lets a rooted part
restart the path and keeps the drive as far as the parts agree on it.
-/
import SymbolAtlas.Text.LowerCase

namespace SymbolAtlas.WindowsPath

/-- Whether a character separates names. -/
def isSeparator (c : Char) : Bool := c == '\\' || c == '/'

/-- The path with every slash turned into a backslash. -/
def backslashed (p : Text) : Text := p.map fun c => if c == '/' then '\\' else c

/-- The position of the next backslash from `start` on. -/
def nextBackslash? (p : Text) (start : Nat) : Option Nat :=
  ((p.drop start).findIdx? (· == '\\')).map (· + start)

/-- The number of characters that belong to the drive. -/
def driveLength (p : Text) : Nat :=
  let n := backslashed p
  if p.length < 2 then 0
  else if n.take 2 == ['\\', '\\'] then
    let start := if (n.take 8).map Char.toUpper == "\\\\?\\UNC\\".toList then 8 else 2
    match (nextBackslash? n start).bind fun i => nextBackslash? n (i + 1) with
    | some j => j
    | none => p.length
  else if (n.drop 1).take 1 == [':'] then 2
  else 0

/-- The drive of a path and the rest of it. -/
def splitDrive (p : Text) : Text × Text := p.splitAt (driveLength p)

/-- The last name of a path: what follows the last separator behind the drive. -/
def baseName (p : Text) : Text :=
  ((splitDrive p).2.reverse.takeWhile fun c => !isSeparator c).reverse

/-- Whether a text begins with a separator. -/
def isRooted : Text → Bool
  | c :: _ => isSeparator c
  | [] => false

/-- Whether a text ends with a separator. -/
def endsSeparated (p : Text) : Bool := isRooted p.reverse

/-- The rest `P` with the rest `r` behind it, a backslash between them if one is needed. -/
def appendRest (rest part : Text) : Text :=
  (if rest.isEmpty || endsSeparated rest then rest else rest ++ ['\\']) ++ part

/-- A path under construction, `drive` and `rest`, followed by one more part. -/
def joinStep (path : Text × Text) (part : Text) : Text × Text :=
  let (drive, rest) := path
  let (partDrive, partRest) := splitDrive part
  if isRooted partRest then
    (if !partDrive.isEmpty || drive.isEmpty then partDrive else drive, partRest)
  else if !partDrive.isEmpty && partDrive != drive then
    if partDrive.lower != drive.lower then (partDrive, partRest)
    else (partDrive, appendRest rest partRest)
  else (drive, appendRest rest partRest)

/-- A drive and a rest as one path; a share needs a backslash before a rest that is not rooted. -/
def unsplit (path : Text × Text) : Text :=
  let (drive, rest) := path
  if !rest.isEmpty && !isRooted rest && !drive.isEmpty && drive.getLast? != some ':' then
    drive ++ '\\' :: rest
  else drive ++ rest

/-- The parts joined into one path. -/
def join (first : Text) (parts : List Text) : Text :=
  unsplit (parts.foldl joinStep (splitDrive first))

end SymbolAtlas.WindowsPath
