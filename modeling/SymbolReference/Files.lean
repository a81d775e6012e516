import SymbolReference.Mapping
import SymbolReference.Text.Lines
import SymbolReference.Text.Order
import SymbolReference.Text.Quoted

namespace SymbolReference

/-- The parts of a path, without empty parts and without those that name the directory itself. -/
def pathParts (path : String) : List String :=
  ((Text.fields '/' path.toList).map String.ofList).filter fun part => part != "" && part != "."

/-- The slashes that an absolute path starts with: two, or else one. -/
def pathRoot (path : String) : String :=
  if path.startsWith "/" then
    if path.startsWith "//" && !path.startsWith "///" then "//" else "/"
  else ""

/-- A path in its normal form: single slashes, and no parts that name the directory itself. Parts
that name the parent directory stay. -/
def normalPath (path : String) : String :=
  let normal := pathRoot path ++ String.intercalate "/" (pathParts path)
  if normal.isEmpty then "." else normal

/-- The path without its last part, for a path in its normal form. A root and the working directory
have no last part. -/
def parentPath (path : String) : String :=
  let parent := pathRoot path ++ String.intercalate "/" (pathParts path).dropLast
  if parent.isEmpty then "." else parent

/-- Why a file cannot be read or written. -/
inductive FileError where
  | missing (path : String)
  | exists (path : String)
  | notADirectory (path : String)
  | isADirectory (path : String)
  | nameTooLong (path : String)
  | nullCharacter
  | loneHalves (position : Nat) (halves : List Nat)
deriving Repr, DecidableEq

namespace FileError

/-- The number and the reason of an error that the file system reports, and the path. -/
def report? : FileError → Option (Nat × String × String)
  | missing path => some (2, "No such file or directory", path)
  | .exists path => some (17, "File exists", path)
  | notADirectory path => some (20, "Not a directory", path)
  | isADirectory path => some (21, "Is a directory", path)
  | nameTooLong path => some (36, "File name too long", path)
  | nullCharacter | loneHalves _ _ => none

/-- The place of halves of surrogate pairs in a text, as messages show it. -/
def placeOf (position : Nat) : List Nat → String
  | [half] =>
    "character '\\u" ++ String.ofList (Text.hexDigits 4 half) ++ "' in position " ++
      toString position
  | halves =>
    "characters in position " ++ toString position ++ "-" ++ toString (position + halves.length - 1)

/-- The message about a file that cannot be read or written. -/
def message : FileError → String
  | nullCharacter => "embedded null byte"
  | loneHalves position halves =>
    "'utf-8' codec can't encode " ++ placeOf position halves ++ ": surrogates not allowed"
  | e =>
    match e.report? with
    | some (code, reason, path) =>
      "[Errno " ++ String.ofList (Nat.toDigits 10 code) ++ "] " ++ reason ++ ": " ++ Text.quote path
    | none => ""

/-- Whether an error says that nothing is there. -/
def isAbsence : FileError → Bool
  | missing _ | notADirectory _ | nullCharacter => true
  | .exists _ | isADirectory _ | nameTooLong _ | loneHalves _ _ => false

end FileError

/-- A place in the tree of files: the names on the way from the root. -/
abbrev Place := List String

/-- Text files, and the directories that may hold none. -/
structure Files where
  texts : List (Place × String) := []
  directories : List Place := []

inductive PathTarget where
  | file (text : String)
  | directory

namespace Files

/-- The working directory. -/
def home : Place := [""]

def longestName : Nat := 255

def longestPath : Nat := 4095

/-- Whether a place is a directory: the root, the working directory, one that was made, or one that
holds a file. -/
def isDirectory (files : Files) (place : Place) : Bool :=
  place.isEmpty || place == home || files.directories.contains place ||
    files.texts.any fun entry => place.isPrefixOf entry.1 && entry.1 != place

def text? (files : Files) (place : Place) : Option String :=
  files.texts.lookup place

def target? (files : Files) (place : Place) : Option PathTarget :=
  match files.text? place with
  | some text => some (.file text)
  | none => if files.isDirectory place then some .directory else none

def follow (files : Files) (path : String) (place : Place) (part : String) :
    Except FileError Place :=
  match files.target? place with
  | none => .error (.missing path)
  | some (.file _) => .error (.notADirectory path)
  | some .directory =>
    if part = "" || part = "." then .ok place
    else if part = ".." then .ok place.dropLast
    else if part.utf8ByteSize > longestName then .error (.nameTooLong path)
    else .ok (place ++ [part])

/-- The place that a path leads to. Its last part need not be there. -/
def place (files : Files) (path : String) : Except FileError Place :=
  if path.toList.contains '\x00' then .error .nullCharacter
  else if path.isEmpty then .error (.missing path)
  else if path.utf8ByteSize > longestPath then .error (.nameTooLong path)
  else
    ((Text.fields '/' path.toList).map String.ofList).foldlM (files.follow path)
      (if path.startsWith "/" then [] else home)

def find (files : Files) (path : String) : Except FileError PathTarget := do
  match files.target? (← files.place path) with
  | some found => return found
  | none => .error (.missing path)

def hasDirectory (files : Files) (path : String) : Bool :=
  match files.find path with
  | .ok .directory => true
  | _ => false

def read (files : Files) (path : String) : Except FileError String := do
  match ← files.find path with
  | .file text => return text
  | .directory => .error (.isADirectory path)

/-- The files after writing one of them. A file that is present keeps its place. -/
def store (files : Files) (place : Place) (text : String) : Files :=
  if (files.text? place).isSome then
    { files with
      texts := files.texts.map fun entry => if entry.1 = place then (place, text) else entry }
  else { files with texts := files.texts ++ [(place, text)] }

def makeDirectory (files : Files) (path : String) : Except FileError Files := do
  let place ← files.place path
  match files.target? place with
  | some _ => .error (.exists path)
  | none => return { files with directories := place :: files.directories }

/-- Make a directory, unless it is there. -/
def ensureDirectory (files : Files) (path : String) : Except FileError Files :=
  match files.makeDirectory path with
  | .ok made => .ok made
  | .error (.missing path) => .error (.missing path)
  | .error e => if files.hasDirectory path then .ok files else .error e

/-- Make a directory and those it lies in, by at most `fuel` steps upwards. What was made before a
failure stays. -/
def ensureDirectories : Nat → Files → String → Files × Except FileError Unit
  | 0, files, path => (files, .error (.missing path))
  | fuel + 1, files, path =>
    match files.ensureDirectory path with
    | .ok made => (made, .ok ())
    | .error (.missing missing) =>
      if parentPath path = path then (files, .error (.missing missing))
      else
        match ensureDirectories fuel files (parentPath path) with
        | (files, .error e) => (files, .error e)
        | (files, .ok _) =>
          match files.ensureDirectory path with
          | .ok made => (made, .ok ())
          | .error e => (files, .error e)
    | .error e => (files, .error e)

/-- What is wrong with a text that no file can hold: the first halves of surrogate pairs in it. -/
def textError? (text : String) : Option FileError :=
  let before := text.toList.takeWhile fun c => !Text.isStandIn c
  match text.toList.drop before.length with
  | [] => none
  | rest => some (.loneHalves before.length ((rest.takeWhile Text.isStandIn).map Text.codeOfChar))

/-- Write a text to a path. The file is there, and empty, before the text is written. -/
def writeText (files : Files) (path text : String) : Files × Except FileError Unit :=
  match files.place path with
  | .error e => (files, .error e)
  | .ok place =>
    match files.target? place, textError? text with
    | some .directory, _ => (files, .error (.isADirectory path))
    | _, some e => (files.store place "", .error e)
    | _, none => (files.store place text, .ok ())

/-- Write the file at a path in its normal form, and make the directories it lies in. -/
def write (files : Files) (path text : String) : Files × Except FileError Unit :=
  match ensureDirectories (path.length + 1) files (parentPath path) with
  | (files, .error e) => (files, .error e)
  | (files, .ok _) => files.writeText path text

/-- The files in the working directory with the given paths and texts, later ones over earlier
ones. -/
def ofList (entries : List (String × String)) : Files :=
  entries.foldl (fun files entry => (files.write (normalPath entry.1) entry.2).1) {}

/-- The paths from the working directory and the texts of the files below it. -/
def toList (files : Files) : List (String × String) :=
  files.texts.filterMap fun entry =>
    if home.isPrefixOf entry.1 then
      some (String.intercalate "/" (entry.1.drop home.length), entry.2)
    else none

/-- The files that are new or have another text than before, in the order of their paths. -/
def changedSince (files before : Files) : List (String × String) :=
  let old := before.toList
  (files.toList.filter fun entry => !old.contains entry).mergeSort (nameLe Prod.fst)

/-- The names and texts of the files in a directory. -/
def filesIn (files : Files) (place : Place) : List (String × String) :=
  files.texts.filterMap fun entry =>
    match entry.1.getLast? with
    | some name => if entry.1.dropLast = place then some (name, entry.2) else none
    | none => none

end Files

end SymbolReference
