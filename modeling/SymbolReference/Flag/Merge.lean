import SymbolReference.Decimal.Reader
import SymbolReference.Text.Words

namespace SymbolReference.Flag

/-- Why a list cannot be merged. -/
inductive MergeError where
  | missingEnd (delimiter : Char)
  | mismatchedQuotes
deriving Repr, DecidableEq

/-- The message about a list that cannot be merged. -/
def MergeError.message : MergeError → String
  | missingEnd delimiter => "Missing end delimiter \"" ++ String.singleton delimiter ++ "\""
  | mismatchedQuotes => "Mismatched quotes"

/-- The length of an object or array, after the characters at its front that were passed. `depth` is
the number of those that are open, `quoted` says whether a string is, and `previous` is the last
character. -/
def nestedLength? (delimiter : Char) (depth : Nat) (quoted : Bool) (previous : Char) :
    List Char → Option Nat
  | [] => none
  | c :: rest =>
    let next := fun depth quoted => (nestedLength? delimiter depth quoted c rest).map (· + 1)
    if c = '"' && previous ≠ '\\' then next depth !quoted
    else if quoted then next depth quoted
    else if c = '\x7b' || c = '[' then next (depth + 1) quoted
    else if c = '\x7d' || c = ']' then
      if c = delimiter && depth = 1 then some 1 else next (depth - 1) quoted
    else next depth quoted

/-- The length of a plain item: up to a comma outside of double quotes. -/
def plainLength (quoted : Bool) (previous : Option Char) : List Char → Except MergeError Nat
  | [] => if quoted then .error .mismatchedQuotes else .ok 0
  | c :: rest =>
    let quoted := if c = '"' && previous ≠ some '\\' then !quoted else quoted
    if !quoted && c = ',' then .ok 0
    else (plainLength quoted (some c) rest).map (· + 1)

def plainItem (noneText : Option String) (s : List Char) : List Char :=
  match Decimal.readDecimal s with
  | .ok _ => s
  | .error _ =>
    let text := String.ofList s
    let text := if noneText = some text then "null" else text
    if ["true", "false", "null"].contains text || text.startsWith "\"" then text.toList
    else '"' :: text.toList ++ ['"']

/-- The items of a piece of a list, by at most `fuel` of them. `afterItem` says whether an item has
just been read. -/
def pieceItems (noneText : Option String) :
    Nat → Bool → List Char → Except MergeError (List (List Char))
  | 0, _, _ => .ok []
  | fuel + 1, afterItem, s =>
    match Text.trim s with
    | [] => .ok (if afterItem then [] else ["\"\"".toList])
    | ',' :: rest => do
      let others ← pieceItems noneText fuel false rest
      return if afterItem then others else "\"\"".toList :: others
    | c :: rest => do
      let length ←
        if c = '\x7b' || c = '[' then
          let delimiter := if c = '\x7b' then '\x7d' else ']'
          match nestedLength? delimiter 1 false c rest with
          | some length => .ok (length + 1)
          | none => .error (.missingEnd delimiter)
        else plainLength false none (c :: rest)
      let taken := (c :: rest).take length
      let item := if c = '\x7b' || c = '[' then taken else plainItem noneText (Text.trim taken)
      return item :: (← pieceItems noneText fuel true ((c :: rest).drop length))

/-- A text without brackets around it. -/
def unbracketed (text : List Char) : List Char :=
  match Text.trim text with
  | '[' :: rest => if rest.getLast? = some ']' then Text.trim rest.dropLast else '[' :: rest
  | s => s

/-- The items of texts. `afterItem` says whether an item has just been read. -/
def textItems (noneText : Option String) :
    Bool → List (List Char) → Except MergeError (List (List Char))
  | _, [] => .ok []
  | afterItem, text :: others => do
    let s := unbracketed text
    if s.isEmpty && afterItem then textItems noneText afterItem others
    else
      let items ← pieceItems noneText (s.length + 1) afterItem s
      let afterItem := !s.isEmpty && s.getLast? ≠ some ','
      return items ++ (← textItems noneText afterItem others)

def mergedList (noneText : Option String) (texts : List (List Char)) :
    Except MergeError (List Char) := do
  return '[' :: Text.joined [','] (← textItems noneText false texts) ++ [']']

end SymbolReference.Flag
