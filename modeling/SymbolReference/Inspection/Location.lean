import SymbolReference.Inspection.Description
import SymbolReference.Inspection.Import
import SymbolReference.Symbol.Basic
import SymbolReference.Value.Order

namespace SymbolReference

/-- Why the location of an object is not known: there is none for some reason, or looking for it
fails. -/
inductive Unlocated where
  | unavailable (reason : String)
  | broken (e : ObjectError)
deriving Repr, DecidableEq

/-- What is said when there is no source. -/
def noSource : String := "source code not available"

/-- What is said when a source should be there and is not. -/
def lostSource : String := "could not get source code"

def locationAt (file : String) (lines : Int × Int) : Location :=
  { file := some file, startLine := some lines.1, endLine := some lines.2 }

def compiledEnding : String := ".pyc"

def sourceEnding : String := ".py"

def libraryEnding : String := ".so"

/-- The name of a file without the given ending. What follows dots at the start of a name is no
ending. -/
def stem (ending file : String) : String :=
  let kept := file.toList.take (file.length - ending.length)
  if (kept.reverse.takeWhile (· ≠ '/')).all (· = '.') then file else String.ofList kept

def sourceName? (file : String) : Option String :=
  if file.endsWith compiledEnding then some (stem compiledEnding file ++ sourceEnding)
  else if file.endsWith libraryEnding then none
  else some file

/-- Whether a name stands in angle brackets. Such a name is no file. -/
def isBracketed (file : String) : Bool :=
  file.startsWith "<" && file.endsWith ">"

def ModuleObject.isLoaded (m : ModuleObject) : Bool :=
  match ownAttribute? m.attributes "__loader__" with
  | none | some (.value .none) => false
  | some _ => true

def Program.source? (p : Program) (file : String) : Option (List (String × Int × Int)) :=
  (p.modules ++ [p.host]).reverse.findSome? fun m =>
    if m.sourceFile = some file then m.source else none

/-- The module that something says it belongs to, which must be something that can be looked up. -/
def Program.moduleCalled (p : Program) (told : Value) : Except String (Option ModuleObject) :=
  match told.unhashable? with
  | some typeName => .error (ObjectError.unhashable typeName).message
  | none => .ok (told.text?.bind p.module?)

/-- The name and the source of a file, or why they are not known. The module of the object is
asked how it was loaded, unless the file has no source anyway. -/
def Program.sourceOf (p : Program) (module : Except String (Option ModuleObject)) (file : String) :
    Except String (String × List (String × Int × Int)) :=
  match sourceName? file with
  | none => .error noSource
  | some name => do
    let module ← module
    match p.source? name with
    | some source => return (name, source)
    | none =>
      throw (if module.any ModuleObject.isLoaded || isBracketed file then lostSource else noSource)

/-- The location of a function, or why it has none. Only functions that are written in the program
have a source. -/
def Program.functionLocation (p : Program) (f : FunctionObject) : Except String Location :=
  match f.make with
  | .program =>
    let module := p.moduleCalled f.module
    match f.file.filter fun name => !name.isEmpty, f.lines with
    | some file, some lines => (p.sourceOf module file).map fun found => locationAt found.1 lines
    | _, _ => do
      throw (if (← module).any ModuleObject.isLoaded then lostSource else noSource)
  | make =>
    .error ("module, class, method, function, traceback, frame, or code object was expected, got " ++
      make.typeName)

/-- A class as messages name it. -/
def ClassObject.display (c : ClassObject) : String :=
  match c.module.text? with
  | none => "<class '" ++ c.name ++ "'>"
  | some module =>
    if module = hostName then "<class '" ++ c.name ++ "'>"
    else "<class '" ++ module ++ "." ++ c.fullName ++ "'>"

/-- The owner of an attribute as messages name it. -/
def Program.owner (p : Program) : Object → String
  | .klass number => "type object '" ++ Classes.name p.classes number ++ "'"
  | o => "'" ++ o.typeName ++ "' object"

def Program.moduleOf (p : Program) (c : ClassObject) : Except String (Option ModuleObject) :=
  match c.module with
  | .value v => p.moduleCalled v
  | _ => .ok none

def Program.classFile (p : Program) (c : ClassObject) (module : Option ModuleObject) :
    Except Unlocated String :=
  let missing : Unlocated :=
    .unavailable (if c.module.text? = some "__main__" then noSource
      else c.display ++ " is a built-in class")
  match module.bind ModuleObject.file with
  | none => .error missing
  | some (.value v) =>
    if v.isFalsy then .error missing
    else
      match v with
      | .bytes _ =>
        .error (.unavailable "endswith first arg must be bytes or a tuple of bytes, not str")
      | v =>
        match v.text? with
        | some file => .ok file
        | none => .error (.broken (.noEnding (p.owner (.value v))))
  | some o => .error (.broken (.noEnding (p.owner o)))

def definition? (source : List (String × Int × Int)) (fullName : String) : Option (Int × Int) :=
  (source.mergeSort fun a b => decide (a.2.1 ≤ b.2.1)).lookup fullName

def Program.classLocation (p : Program) (c : ClassObject) : Except Unlocated Location := do
  let module ← (p.moduleOf c).mapError Unlocated.unavailable
  let file ← p.classFile c module
  let (name, source) ← (p.sourceOf (.ok module) file).mapError Unlocated.unavailable
  match definition? source c.fullName with
  | some lines => return locationAt name lines
  | none => throw (.unavailable "could not find class definition")

end SymbolReference
