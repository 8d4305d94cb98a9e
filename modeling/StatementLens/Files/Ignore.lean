import StatementLens.Files.Disk
import StatementLens.Files.Glob
import StatementLens.Text.Blank

/-!
# Ignored files

Files can say which entries of their folder, and of the folders below it, are to be ignored. Each
line of such a file is a rule. The last rule that matches an entry decides, and a rule may also ask
to keep an entry. The user may have a file of such rules for all repositories.
-/

namespace StatementLens

/-- What is asked for an entry. -/
inductive Verdict where
  | ignore
  | keep
  deriving DecidableEq, Repr

/-- A rule: a pattern of paths below a folder, and what it asks for. -/
structure IgnoreRule where
  glob : Glob
  verdict : Verdict
  /-- Whether it is about folders only. -/
  onlyFolders : Bool
  deriving Repr

namespace IgnoreRule

/-- The pattern that a line writes, once its marks are taken off. A pattern without a slash fits in
any folder, and two stars at the end leave out the folder in front of them. -/
def pattern (anchored : Bool) (cs : List Char) : List Char :=
  let starred := ['*', '*', '/'].isPrefixOf cs || cs = ['*', '*']
  let cs := if anchored || cs.contains '/' || starred then cs else '*' :: '*' :: '/' :: cs
  if ['/', '*', '*'].isSuffixOf cs then cs ++ ['/', '*'] else cs

/-- The rule of a line with an escaped or no first mark. -/
def ofMarked (verdict : Verdict) (anchored : Bool) (cs : List Char) : Option IgnoreRule :=
  let onlyFolders := cs.getLast? = some '/'
  let cs := if onlyFolders then cs.dropLast else cs
  let cs := if onlyFolders && cs.getLast? = some '\\' then cs.dropLast else cs
  (Glob.ofChars? (pattern anchored cs)).map fun glob => ⟨glob, verdict, onlyFolders⟩

/-- The rule of a line. There is none in an empty line, in a comment, or if the pattern is not well
formed. -/
def ofLine? (line : List Char) : Option IgnoreRule :=
  if line.head? = some '#' then none
  else
    let line := if ['\\', ' '].isSuffixOf line then line else Text.trimEnd line
    match line with
    | [] => none
    | '\\' :: '!' :: _ => ofMarked .ignore false line.tail
    | '\\' :: '#' :: _ => ofMarked .ignore false line.tail
    | '!' :: '/' :: rest => ofMarked .keep true rest
    | '!' :: rest => ofMarked .keep false rest
    | '/' :: rest => ofMarked .ignore true rest
    | _ => ofMarked .ignore false line

/-- Whether a rule matches an entry, given its path below the folder of the rule. -/
def fits (rule : IgnoreRule) (path : List UInt8) (isFolder : Bool) : Bool :=
  (!rule.onlyFolders || isFolder) && rule.glob.matchesPath path

end IgnoreRule

namespace Ignore

/-- The lines of a file, up to the first one that is no text. -/
def linesOf (bytes : List UInt8) : List (List Char) :=
  ((Text.splitBytes 0x0A bytes).map Text.decodeUtf8).takeWhile Option.isSome
    |>.filterMap (Option.map String.toList)
    |>.map fun line => if line.getLast? = some '\r' then line.dropLast else line

/-- The rules in the bytes of a file. Byte order marks at its start do not count. -/
def rulesOf (bytes : List UInt8) : List IgnoreRule :=
  match linesOf bytes with
  | [] => []
  | first :: rest =>
    (first.dropWhile (· = Char.ofNat 0xFEFF) :: rest).filterMap IgnoreRule.ofLine?

/-- The rules in a file of a disk. A file that cannot be read has none. -/
def rulesIn (disk : Disk) (p : Path) : List IgnoreRule :=
  match disk.read p with
  | .ok bytes => rulesOf bytes
  | .error _ => []

/-- What some rules ask for an entry, given its path below their folder: what the last one asks that
matches. -/
def verdictOf (rules : List IgnoreRule) (path : List UInt8) (isFolder : Bool) : Option Verdict :=
  (rules.reverse.find? fun rule => rule.fits path isFolder).map IgnoreRule.verdict

/-- The rules that a folder holds. -/
structure Level where
  /-- The names that lead to the folder. -/
  folder : List FileName
  /-- The rules of its own. -/
  own : List IgnoreRule
  /-- The rules that hold in repositories. -/
  shared : List IgnoreRule
  /-- The rules that are kept with the repository. -/
  excluded : List IgnoreRule
  /-- Whether it is the top of a repository. -/
  isRepository : Bool

/-- The first line of a file. -/
def firstLine? (disk : Disk) (p : Path) : Option (List Char) := do
  let bytes ← (disk.read p).toOption
  if bytes.isEmpty then none else (linesOf bytes).head?

/-- Where the data of a repository are that a file points to. -/
def pointedData? (disk : Disk) (file : Path) : Option Path := do
  let mark := "gitdir: ".toList
  let line ← firstLine? disk file
  if mark.isPrefixOf line then
    let data := Path.ofString (String.ofList (line.drop mark.length))
    let common ← firstLine? disk (data.join (.ofString "commondir"))
    let commonPath := Path.ofString (String.ofList common)
    return if common.head? = some '.' then data.join commonPath else commonPath
  else none

/-- The rules that a folder of a disk holds. -/
def Level.ofFolder (disk : Disk) (names : List FileName) : Level :=
  let file (name : String) : Path := (Disk.pathOf names).join (.ofString name)
  let data := file ".git"
  let dataFolder := if disk.isFile data then pointedData? disk data else some data
  { folder := names
    own := rulesIn disk (file ".ignore")
    shared := rulesIn disk (file ".gitignore")
    excluded := (dataFolder.map fun p => rulesIn disk (p.join (.ofString "info/exclude"))).getD []
    isRepository := disk.has data }

/-- The path below a folder of the entry that names lead to. -/
def pathBelow (folder names : List FileName) : List UInt8 :=
  [Path.slash].intercalate (names.drop folder.length)

/-- The levels up to the innermost repository. -/
def inRepository : List Level → List Level
  | [] => []
  | level :: rest => if level.isRepository then [level] else level :: inRepository rest

/-- Some bytes without others in front of them. -/
def withoutFront (front bytes : List UInt8) : List UInt8 :=
  if front.isPrefixOf bytes then bytes.drop front.length else bytes

/-- The path of an entry as the rules of the user take it: without that of the current folder in
front of it. -/
def pathForUser (disk : Disk) (path : Path) : List UInt8 :=
  let bytes := withoutFront [Path.dot, Path.slash] path.bytes
  let front := (Disk.pathOf disk.current).bytes
  if bytes.contains Path.slash && front.isPrefixOf bytes then
    withoutFront [Path.slash] (bytes.drop front.length)
  else bytes

/-- What the rules of the user ask for an entry. -/
def userVerdict (disk : Disk) (path : Path) (isFolder : Bool) : Option Verdict :=
  verdictOf (rulesOf disk.userRules) (pathForUser disk path) isFolder

/-- What is asked for an entry, given the levels around it from the inside out. Inner levels win
over outer ones, but the rules of the folders themselves over those of repositories, and those over
the rules of the user. All but the first hold only inside of a repository. -/
def verdict (disk : Disk) (levels : List Level) (names : List FileName) (path : Path)
    (isFolder : Bool) : Option Verdict :=
  let ask (rules : Level → List IgnoreRule) (levels : List Level) : Option Verdict :=
    levels.findSome? fun level => verdictOf (rules level) (pathBelow level.folder names) isFolder
  let isInside := levels.any Level.isRepository
  let repository := if isInside then inRepository levels else []
  let user := if isInside then userVerdict disk path isFolder else none
  (ask Level.own levels).or
    ((ask Level.shared repository).or ((ask Level.excluded repository).or user))

/-! ## The file of the user -/

/-- The file that a line of a configuration names for the rules of the user. -/
def namedFile? (line : List Char) : Option (List Char) :=
  let key := "excludesfile".toList
  let line := Text.trim line
  if (line.take key.length).map Char.toLower ≠ key then none
  else
    match (line.drop key.length).dropWhile Text.isBlank with
    | '=' :: value =>
      let value := Text.trim value
      let value := if value.head? = some '"' then value.tail else value
      let value := if value.getLast? = some '"' then value.dropLast else value
      let file := Text.trim value
      if file.isEmpty || file.any Text.isBlank then none else some file
    | _ => none

/-- The file that a configuration names for the rules of the user. A tilde stands for the folder of
the user. -/
def namedRules? (home : List Char) (config : List UInt8) : Option Path :=
  ((linesOf config).findSome? namedFile?).map fun file =>
    .ofString (String.ofList (file.flatMap fun c => if c = '~' then home else [c]))

end Ignore

end StatementLens
