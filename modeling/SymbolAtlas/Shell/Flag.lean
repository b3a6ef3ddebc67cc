/-
# SymbolAtlas.Shell.Flag — the options of a shell

An option is known by a letter, by a name, or by both. Some of them change what a script does; the
others are only remembered.
-/
import SymbolAtlas.Text.Basic

namespace SymbolAtlas.Shell

/-- An option of a shell. -/
inductive Flag
  /-- A command that fails ends the script, unless its failure is looked at. -/
  | exitOnError
  /-- Patterns are not replaced by the names of files. -/
  | noGlob
  | ignoreEnd
  | interactive
  | monitor
  /-- Commands are read and not run. -/
  | noRun
  /-- Commands are read from the standard input. -/
  | fromInput
  /-- Commands are reported before they are run. -/
  | trace
  | verbose
  | vi
  | emacs
  /-- Redirections do not replace files. -/
  | noClobber
  /-- Variables that are set are exported. -/
  | exportAll
  | notify
  /-- The use of a parameter that is not set is an error. -/
  | noUnset
  | privileged
  | noLog
  | debug
  deriving DecidableEq, Repr

namespace Flag

/-- The options with their names and letters, in the order in which they are listed. -/
def table : List (Flag × String × Option Char) :=
  [(.exitOnError, "errexit", some 'e'), (.noGlob, "noglob", some 'f'),
    (.ignoreEnd, "ignoreeof", some 'I'), (.interactive, "interactive", some 'i'),
    (.monitor, "monitor", some 'm'), (.noRun, "noexec", some 'n'),
    (.fromInput, "stdin", some 's'), (.trace, "xtrace", some 'x'),
    (.verbose, "verbose", some 'v'), (.vi, "vi", some 'V'), (.emacs, "emacs", some 'E'),
    (.noClobber, "noclobber", some 'C'), (.exportAll, "allexport", some 'a'),
    (.notify, "notify", some 'b'), (.noUnset, "nounset", some 'u'),
    (.privileged, "privileged", some 'p'), (.noLog, "nolog", none), (.debug, "debug", none)]

/-- The option of a letter. -/
def ofLetter? (letter : Char) : Option Flag :=
  (table.find? fun (_, _, other) => other == some letter).map (·.1)

/-- The option of a name. -/
def ofName? (name : Text) : Option Flag :=
  (table.find? fun (_, other, _) => other.toList == name).map (·.1)

/-- The letters of the options that are set, last option first. -/
def letters (flags : List Flag) : Text :=
  table.reverse.filterMap fun (flag, _, letter) => if flag ∈ flags then letter else none

/-- The list of all options that tells which of them are set. -/
def listing (flags : List Flag) : Text :=
  let lines := table.map fun (flag, name, _) =>
    name.toList ++ List.replicate (16 - name.length) ' ' ++
      (if flag ∈ flags then "on\n" else "off\n").toList
  "Current option settings\n".toList ++ lines.flatten

/-- The commands that set all options to what they are. -/
def commands (flags : List Flag) : Text :=
  table.flatMap fun (flag, name, _) =>
    let sign := if flag ∈ flags then "-" else "+"
    s!"set {sign}o {name}\n".toList

end Flag

end SymbolAtlas.Shell
