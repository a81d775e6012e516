import SymbolReference.Text.Words

namespace SymbolReference

/-- One entry `@name body` of a documentation comment. -/
structure Tag where
  name : String
  body : String
deriving Repr, DecidableEq

/-- A documentation comment: the text before the first tag and the tags in source order. Tag names
may repeat. -/
structure Comment where
  description : String := ""
  tags : List Tag := []
deriving Repr, DecidableEq

namespace Comment

/-- The comment without description and tags. -/
def empty : Comment := {}

/-- Whether a comment has neither description nor tags. -/
def isEmpty (c : Comment) : Bool :=
  c.description.isEmpty && c.tags.isEmpty

def bodiesOf (c : Comment) (name : String) : List String :=
  (c.tags.filter fun tag => tag.name = name).map Tag.body

end Comment

end SymbolReference
