import SymbolReference.Text.Order
import SymbolReference.Text.Quoted
import SymbolReference.Text.Similarity

namespace SymbolReference.Cli

inductive OptionName where
  | help
  | version
  | all
  | json
  | searchable
  | format
  | output
  | scriptSource
  | config
deriving Repr, DecidableEq

namespace OptionName

def long : OptionName → String
  | help => "--help"
  | version => "--version"
  | all => "--all"
  | json => "--json"
  | searchable => "--searchable"
  | format => "--format"
  | output => "--output"
  | scriptSource => "--script-src"
  | config => "--config"

def letter? : OptionName → Option Char
  | format => some 'f'
  | output => some 'o'
  | config => some 'c'
  | _ => none

def takesValue : OptionName → Bool
  | format | output | scriptSource | config => true
  | help | version | all | json | searchable => false

def label (o : OptionName) : String :=
  match o.letter? with
  | none => Text.quote o.long
  | some letter => Text.quote o.long ++ " / " ++ Text.quote ("-" ++ letter.toString)

end OptionName

/-- What is asked after an unknown name: whether a close one was meant. -/
def suggestion (close : List String) : String :=
  match close with
  | [] => ""
  | [name] => " Did you mean " ++ Text.quote name ++ "?"
  | names =>
    " (Did you mean one of: " ++
      String.intercalate ", " ((names.mergeSort (nameLe id)).map Text.quote) ++ "?)"

/-- What can be wrong with the options of a command line. An unknown option comes with the options
that are close to it. -/
inductive ArgumentError where
  | noSuchOption (name : String) (close : List String)
  | needsValue (name : String)
  | takesNoValue (name : String)
deriving Repr, DecidableEq

/-- The message about a wrong option. -/
def ArgumentError.message : ArgumentError → String
  | noSuchOption name close => "No such option " ++ Text.quote name ++ "." ++ suggestion close
  | needsValue name => "Option " ++ Text.quote name ++ " requires an argument."
  | takesNoValue name => "Option " ++ Text.quote name ++ " does not take a value."

/-- The options of a command line in order, with their values, and the other arguments. -/
structure Arguments where
  given : List (OptionName × Option String) := []
  rest : List String := []
deriving Repr, DecidableEq

/-- What one argument says: options that are complete, or options of which the last one, under the
given name, still needs a value. -/
inductive Reading where
  | complete (given : List (OptionName × Option String))
  | awaiting (given : List (OptionName × Option String)) (option : OptionName) (name : String)

def findLong? (known : List OptionName) (name : String) : Option OptionName :=
  known.find? fun o => o.long = name

def findLetter? (known : List OptionName) (letter : Char) : Option OptionName :=
  known.find? fun o => o.letter? = some letter

/-- Read the letters after a single dash. What follows the letter of an option with a value is that
value. -/
def readLetters (known : List OptionName) :
    List (OptionName × Option String) → List Char → Except ArgumentError Reading
  | given, [] => .ok (.complete given)
  | given, letter :: others =>
    let name := "-" ++ letter.toString
    match findLetter? known letter with
    | none => .error (.noSuchOption name [])
    | some o =>
      if o.takesValue then
        if others.isEmpty then .ok (.awaiting given o name)
        else .ok (.complete (given ++ [(o, some (String.ofList others))]))
      else readLetters known (given ++ [(o, none)]) others

/-- A text up to its first equals sign, and what follows the sign. -/
def splitValue (s : List Char) : List Char × Option (List Char) :=
  let name := s.takeWhile (· ≠ '=')
  match s.drop name.length with
  | [] => (name, none)
  | _ :: value => (name, some value)

def readOption (known : List OptionName) (arg : String) : Except ArgumentError Reading :=
  let (chars, value) := splitValue arg.toList
  let name := String.ofList chars
  match findLong? known name with
  | some o =>
    if o.takesValue then
      match value with
      | some v => .ok (.complete [(o, some (String.ofList v))])
      | none => .ok (.awaiting [] o name)
    else if value.isSome then .error (.takesNoValue name)
    else .ok (.complete [(o, none)])
  | none =>
    if arg.startsWith "--" then
      .error (.noSuchOption name (Text.closeNames name (known.map OptionName.long)))
    else readLetters known [] (arg.toList.drop 1)

/-- Whether an argument names options. A dash alone does not. -/
def namesOptions (arg : String) : Bool :=
  arg.startsWith "-" && arg.length > 1

/-- Read a command line. When options and other arguments may not be mixed, the first other
argument ends the options. -/
def Arguments.read (known : List OptionName) (mixed : Bool) :
    List String → Except ArgumentError Arguments
  | [] => .ok {}
  | arg :: others =>
    if arg = "--" then .ok { rest := others }
    else if namesOptions arg then
      match readOption known arg with
      | .error e => .error e
      | .ok (.complete given) =>
        match Arguments.read known mixed others with
        | .error e => .error e
        | .ok read => .ok { read with given := given ++ read.given }
      | .ok (.awaiting given o name) =>
        match others with
        | [] => .error (.needsValue name)
        -- The value may look like an option, or be two dashes.
        | value :: others =>
          match Arguments.read known mixed others with
          | .error e => .error e
          | .ok read => .ok { read with given := given ++ (o, some value) :: read.given }
    else if mixed then
      match Arguments.read known mixed others with
      | .error e => .error e
      | .ok read => .ok { read with rest := arg :: read.rest }
    else .ok { rest := arg :: others }

namespace Arguments

def has (a : Arguments) (o : OptionName) : Bool :=
  a.given.any fun entry => entry.1 = o

/-- The value of an option; the last one counts. -/
def value? (a : Arguments) (o : OptionName) : Option String :=
  (a.given.reverse.lookup o).bind id

/-- The options that are given, in the order of their first use. -/
def order (a : Arguments) : List OptionName :=
  (a.given.map Prod.fst).eraseDups

end Arguments

end SymbolReference.Cli
