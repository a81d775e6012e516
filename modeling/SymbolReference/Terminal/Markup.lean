import SymbolReference.Terminal.Handler
import SymbolReference.Terminal.Style
import SymbolReference.Text.Quoted

namespace SymbolReference.Terminal

def beginsTag (c : Char) : Bool :=
  ('a' ≤ c && c ≤ 'z') || c = '#' || c = '/' || c = '@'

/-- The content of the tag at the front of a text, and what follows the tag. -/
def tagAt? : List Char → Option (List Char × List Char)
  | '[' :: c :: rest =>
    if beginsTag c then
      let inner := rest.takeWhile fun d => d ≠ ']' && d ≠ '['
      match rest.drop inner.length with
      | ']' :: following => some (c :: inner, following)
      | _ => none
    else none
  | _ => none

/-- A part of a marked-up text: plain text, or a tag and its position. -/
inductive Segment where
  | text (s : List Char)
  | tag (position : Nat) (content : List Char)
deriving Repr, DecidableEq

/-- The plain text collected so far, which is kept in reverse, as a segment. -/
def collected (text : List Char) : List Segment :=
  if text.isEmpty then [] else [.text text.reverse]

/-- The segments of the rest of a text, by at most `fuel` characters. -/
def segmentsFrom : Nat → Nat → List Char → List Char → List Segment
  | 0, _, text, _ => collected text
  | _ + 1, _, text, [] => collected text
  | fuel + 1, position, text, c :: rest =>
    let slashes := ((c :: rest).takeWhile (· = '\\')).length
    match tagAt? ((c :: rest).drop slashes) with
    | none => segmentsFrom fuel (position + 1) (c :: text) rest
    | some (content, following) =>
      let literal := slashes / 2
      let here :=
        if slashes % 2 = 1 then Segment.text ('[' :: content ++ [']'])
        else .tag (position + 2 * literal) content
      collected text ++ collected (List.replicate literal '\\') ++
        here :: segmentsFrom fuel (position + slashes + content.length + 2) [] following

/-- The segments of a marked-up text. -/
def segments (s : List Char) : List Segment :=
  segmentsFrom (s.length + 1) 0 [] s

/-- A text in which every backslash directly before an opening bracket is dropped. -/
def unescapeBrackets : List Char → List Char
  | [] => []
  | '\\' :: '[' :: rest => '[' :: unescapeBrackets rest
  | c :: rest => c :: unescapeBrackets rest

def Segment.shown : Segment → List Char
  | text s => unescapeBrackets s
  | tag _ _ => []

/-- The plain parts of a marked-up text. A text without brackets is plain as it stands. -/
def plainParts (s : List Char) : List (List Char) :=
  if s.contains '[' then (segments s).map Segment.shown else [s]

/-- A text written so that none of it is taken for a tag, by at most `fuel` characters. -/
def escapeFrom : Nat → List Char → List Char
  | 0, s => s
  | _ + 1, [] => []
  | fuel + 1, c :: rest =>
    let slashes := (c :: rest).takeWhile (· = '\\')
    match tagAt? ((c :: rest).drop slashes.length) with
    | none => c :: escapeFrom fuel rest
    | some (content, following) =>
      slashes ++ slashes ++ '\\' :: '[' :: content ++ ']' :: escapeFrom fuel following

/-- A text written so that none of it is taken for a tag. A single backslash at the end is doubled,
so that it cannot join a tag that follows. -/
def escape (s : List Char) : List Char :=
  let escaped := escapeFrom (s.length + 1) s
  match escaped.reverse with
  | '\\' :: '\\' :: _ => escaped
  | '\\' :: _ => escaped ++ ['\\']
  | _ => escaped

/-- What can be wrong with markup: a closing tag closes nothing, the handler of a closed tag cannot
be read, or a number of a colour cannot be read. -/
inductive MarkupError where
  | unmatched (tag : String) (position : Nat)
  | nothingOpen (position : Nat)
  | handler (arguments text : String) (fault : Expression.LiteralFault)
  | number (e : Decimal.NumberError)
deriving Repr, DecidableEq

def MarkupError.message : MarkupError → String
  | unmatched tag position =>
    "closing tag '[" ++ tag ++ "]' at position " ++ toString position ++
      " doesn't match any open tag"
  | nothingOpen position =>
    "closing tag '[/]' at position " ++ toString position ++ " has nothing to close"
  | handler arguments text fault => handlerMessage arguments text fault
  | number e => e.message

/-- What is said before wrong markup is reported. -/
def MarkupError.warnings : MarkupError → List String
  | handler arguments _ _ => handlerWarnings arguments
  | unmatched _ _ | nothingOpen _ | number _ => []

/-- A tag that is open: the normal form of its name, and what follows its equals sign. -/
structure OpenTag where
  name : List Char
  parameters : Option (List Char) := none

/-- The name of a tag and what follows its equals sign. -/
def splitTag (content : List Char) : List Char × Option (List Char) :=
  let name := content.takeWhile (· ≠ '=')
  match content.drop name.length with
  | [] => (name, none)
  | _ :: parameters => (name, some parameters)

def tagName (name : List Char) : Except MarkupError (List Char) :=
  match normalName name with
  | .ok normal => .ok normal
  | .error e => .error (.number e)

/-- Close a tag. One whose name begins with an at sign has a handler. -/
def OpenTag.close (t : OpenTag) : Except MarkupError Unit :=
  match t.name, t.parameters with
  | '@' :: _, some parameters =>
    if parameters.isEmpty then .ok ()
    else
      let arguments := handlerArguments (Text.trim parameters)
      match Expression.checkLiteral arguments with
      | .ok _ => .ok ()
      | .error e => .error (.handler (String.ofList arguments) (String.ofList parameters) e)
  | _, _ => .ok ()

/-- Check the closing tags of some segments against the tags that are open, innermost first. -/
def checkTags : List OpenTag → List Segment → Except MarkupError Unit
  | _, [] => .ok ()
  | openTags, .text _ :: others => checkTags openTags others
  | openTags, .tag position content :: others =>
    match splitTag content with
    | ('/' :: closed, _) =>
      if (Text.trim closed).isEmpty then
        match openTags with
        | [] => .error (.nothingOpen position)
        | innermost :: outer => do
          innermost.close
          checkTags outer others
      else do
        let name ← tagName closed
        match openTags.find? fun t => t.name == name with
        | none => .error (.unmatched (String.ofList content) position)
        | some found =>
          found.close
          checkTags (openTags.eraseP fun t => t.name == name) others
    | (name, parameters) => do
      checkTags ({ name := ← tagName name, parameters } :: openTags) others

/-- Check the tags of a marked-up text. -/
def checkMarkup (s : List Char) : Except MarkupError Unit :=
  checkTags [] (segments s)

end SymbolReference.Terminal
