import Lookalike.Files.Disk
import Lookalike.Files.IgnoreRule

/-!
# Excludes of a user

A user may keep excludes for all repositories in a file. The configuration in the home directory
names it, or else the one in the directory of configurations. If neither does, the file is
`git/ignore` in the directory of configurations.

Excludes speak of paths from the working directory, and of absolute paths that do not start with
that of the working directory.

## Main definitions

* `Configuration.excludesFile?` — the file that a configuration names.
* `User.excludesPath?` — the path of the excludes of a user.
* `User.excludes` — what they are.
-/

namespace Lookalike

namespace Configuration

def isBlank (b : UInt8) : Bool := (9 ≤ b && b ≤ 13) || b == 32

def lower (b : UInt8) : UInt8 := if 65 ≤ b && b ≤ 90 then b + 32 else b

def excludesFile : List UInt8 := "excludesfile".toList.flatMap String.utf8EncodeChar

/-- Whether there are only blanks up to the end of the line. -/
def endsLine (bs : List UInt8) : Bool :=
  match bs.dropWhile fun b => b != 10 && isBlank b with
  | [] => true
  | b :: _ => b == 10

/-- Whether a value ends: a quotation mark may follow, on another line as well, and then the line
has to end. -/
def closes (bs : List UInt8) : Bool :=
  endsLine bs ||
    match bs.dropWhile isBlank with
    | 34 :: rest => endsLine rest
    | _ => false

/-- The shortest value without blanks that goes on behind what has been read. -/
def value? (read : List UInt8) : List UInt8 → Option (List UInt8)
  | [] => none
  | b :: bs =>
    if isBlank b then none
    else if closes bs then some (read ++ [b])
    else value? (read ++ [b]) bs

/-- The value of the setting if it stands at the beginning, behind blanks and line ends. A value
that is no value behind a quotation mark may be one with it. -/
def settingAt? (bs : List UInt8) : Option (List UInt8) :=
  let bs := bs.dropWhile isBlank
  if (bs.take excludesFile.length).map lower = excludesFile then
    match (bs.drop excludesFile.length).dropWhile isBlank with
    | 61 :: bs =>
      match bs.dropWhile isBlank with
      | 34 :: bs => value? [] (bs.dropWhile isBlank) <|> value? [] (34 :: bs)
      | bs => value? [] bs
    | _ => none
  else none

/-- The value of the setting on the first of the lines behind line feeds that has one. -/
def setting? : List UInt8 → Option (List UInt8)
  | [] => none
  | b :: bs => (if b = 10 then settingAt? bs else none) <|> setting? bs

/-- The file of excludes that a configuration names. -/
def excludesFile? (bytes : List UInt8) : Option String :=
  (setting? (10 :: bytes)).bind Utf8.decode?

end Configuration

/-- Excludes, with the directory from which the paths go that they speak of. -/
structure Excludes where
  directory : List String
  rules : List IgnoreRule

namespace Excludes

/-- The path of names as rules see it. The path of the directory is taken away as a text, so that
it may end within a name. -/
def shown (x : Excludes) (names : List String) : String :=
  let directory := (Path.ofNames x.directory).toList
  let path := (Path.ofNames names).toList
  if directory.isPrefixOf path then
    match path.drop directory.length with
    | '/' :: rest => String.ofList rest
    | rest => String.ofList rest
  else Path.ofNames names

def verdict? (x : Excludes) (names : List String) (isDirectory : Bool) : Option Verdict :=
  IgnoreRule.verdict? x.rules (x.shown names) isDirectory

end Excludes

/-- Where a user keeps files: the home directory and the directory of configurations. -/
structure User where
  home : Option String := none
  configurations : Option String := none

namespace User

def ofVariables (env : List (String × String)) : User :=
  ⟨env.lookup "HOME", env.lookup "XDG_CONFIG_HOME"⟩

/-- The directory of configurations. By default it lies in the home directory. -/
def configurationDirectory? (u : User) : Option String :=
  u.configurations.filter (!·.isEmpty) <|> u.home.map (Path.join · ".config")

/-- The paths of configurations. The first one with the setting decides. -/
def configurationFiles (u : User) : List String :=
  (u.home.map (Path.join · ".gitconfig")).toList ++
    (u.configurationDirectory?.map (Path.join · "git/config")).toList

def expand (u : User) (path : String) : String :=
  match u.home with
  | none => path
  | some home => String.ofList (path.toList.flatMap fun c => if c = '~' then home.toList else [c])

def excludesPath? (u : User) (d : Disk) : Option String :=
  let named (path : String) := (d.bytes? path).bind Configuration.excludesFile?
  (u.configurationFiles.findSome? named).map u.expand <|>
    u.configurationDirectory?.map (Path.join · "git/ignore")

def excludes (u : User) (d : Disk) : Excludes where
  directory := d.working
  rules :=
    match (u.excludesPath? d).bind d.bytes? with
    | none => []
    | some bytes => IgnoreRule.ofBytes bytes

end User

end Lookalike
