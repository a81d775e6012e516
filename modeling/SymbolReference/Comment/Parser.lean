import SymbolReference.Comment.Content

/-!
Reading a documentation comment.

The content lines before the first one that starts with `@` form the description; each line that
starts with `@` opens a tag, and the lines up to the next such line belong to its body. Reading
never fails: whatever description and tags there are, are kept.
-/

namespace SymbolReference.Comment

open Text

def opensTag (line : List Char) : Bool :=
  line.head? == some '@'

/-- The name of the tag and the beginning of its body, from the text after the `@` of a line. The
name ends at the first space or tab; a line that goes on with white space has an empty name. -/
def splitTag (rest : List Char) : List Char × List Char :=
  match rest with
  | [] => ([], [])
  | c :: _ =>
    if isBlank c then ([], trim rest)
    else
      let separates := fun d : Char => d = ' ' || d = '\t'
      (rest.takeWhile fun d => !separates d, trim (rest.dropWhile fun d => !separates d))

/-- The words of several lines with single spaces between them. -/
def flow (parts : List (List Char)) : String :=
  String.ofList (collapse (joined [' '] (parts.filter fun part => !part.isEmpty)))

def tagOf (opening : List Char) (following : List (List Char)) : Tag :=
  let (name, body) := splitTag opening.tail
  { name := String.ofList name, body := flow (body :: following) }

/-- The tags of content lines of which the first opens a tag. Lines before the first tag are
skipped. -/
def tagsOf : List (List Char) → List Tag
  | [] => []
  | line :: others =>
    if opensTag line then tagOf line (others.takeWhile fun l => !opensTag l) :: tagsOf others
    else tagsOf others

def ofContentLines (content : List (List Char)) : Comment where
  description := flow (content.takeWhile fun line => !opensTag line)
  tags := tagsOf content

def parse (raw : String) : Comment :=
  ofContentLines (contentLines raw.toList)

/-- Read a raw comment that may be absent or empty. -/
def parse? (raw : Option String) : Comment :=
  match raw with
  | none => empty
  | some text => if text.isEmpty then empty else parse text

end SymbolReference.Comment
