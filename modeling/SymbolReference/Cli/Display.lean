import SymbolReference.Comment.Basic
import SymbolReference.Json.Writer
import SymbolReference.Report.Basic
import SymbolReference.Terminal.Table

namespace SymbolReference.Cli

open Terminal

/-- Digits in groups of three from the right, given in reverse. -/
def groupedReverse : List Char → List Char
  | a :: b :: c :: d :: others => a :: b :: c :: ',' :: groupedReverse (d :: others)
  | digits => digits

/-- A number with commas between groups of three digits. -/
def grouped (n : Nat) : List Char :=
  (groupedReverse (Decimal.natDigits n).reverse).reverse

/-- The notice about a failure. -/
def failureText (message : String) : List Char :=
  "[bold red]❌ ".toList ++ escape message.toList ++ "[/bold red]".toList

/-- The notice about a file that was written. -/
def successText (path text : String) : List Char :=
  "✅ ".toList ++ path.toList ++ " (".toList ++ grouped text.utf8ByteSize ++ " bytes)".toList

def tagTable (c : Comment) : Table where
  title := "Tags (".toList ++ Decimal.natDigits c.tags.length ++ [')']
  columns := [{ header := "Tag".toList }, { header := "Body".toList }]
  rows := c.tags.map fun tag =>
    [shown (escape ('@' :: tag.name.toList)), shown (escape tag.body.toList)]

/-- A comment as it is printed: its description and a table of its tags. -/
def commentText (width : Nat) (c : Comment) : Printout :=
  let description :=
    if c.description.isEmpty then "(none)".toList else escape c.description.toList
  (print width "Description:".toList).andThen <| (print width description).andThen <|
    (print width []).andThen ((tagTable c).print width)

/-- The counts in the order in which they are shown. -/
def countRows (c : Counts) : List (String × Nat) :=
  [("functions", c.functions), ("classes", c.classes), ("methods", c.methods),
    ("constants", c.constants)]

def countTable (c : Counts) : Table where
  title := "Symbols".toList
  columns := [{ header := "Kind".toList }, { header := "Count".toList, alignment := .right }]
  rows := (countRows c).map fun row => [row.1.toList, Decimal.natDigits row.2]

/-- Counts as they are printed. -/
def statsText (width : Nat) (s : Stats) : Printout :=
  ((countTable s.counts).print width).andThen
    (print width ("[bold]Total symbols:[/bold] ".toList ++ Decimal.natDigits s.total))

/-- Counts as a JSON object. -/
def statsJson (s : Stats) : JsonValue :=
  .object (("include_all", .bool s.includeAll) :: ("total_symbols", .int s.total) ::
    (countRows s.counts).map fun row => (row.1, .int row.2))

end SymbolReference.Cli
