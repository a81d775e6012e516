namespace SymbolReference

/-- A piece of markup: escaped text, an element with its content, or an element without content and
closing mark. -/
inductive Markup where
  | text (data : List Char)
  | element (name : String) (attributes : List (String × List Char)) (content : List Markup)
  | void (name : String) (attributes : List (String × List Char))

namespace Markup

/-- One character of text or of an attribute value. -/
def escapeChar (c : Char) : List Char :=
  if c = '&' then "&amp;".toList
  else if c = '<' then "&lt;".toList
  else if c = '>' then "&gt;".toList
  else if c = '\'' then "&#39;".toList
  else if c = '"' then "&#34;".toList
  else [c]

/-- Text or an attribute value with its special characters written as references. -/
def escape (data : List Char) : List Char :=
  data.flatMap escapeChar

def writeAttributes (attributes : List (String × List Char)) : List Char :=
  attributes.flatMap fun pair =>
    ' ' :: pair.1.toList ++ '=' :: '"' :: escape pair.2 ++ ['"']

/-- The opening mark of an element. -/
def opening (name : String) (attributes : List (String × List Char)) : List Char :=
  '<' :: name.toList ++ writeAttributes attributes ++ ['>']

/-- The closing mark of an element. -/
def closing (name : String) : List Char :=
  '<' :: '/' :: name.toList ++ ['>']

mutual

/-- The written form of a piece of markup. -/
def write : Markup → List Char
  | text data => escape data
  | element name attributes content =>
    opening name attributes ++ writeAll content ++ closing name
  | void name attributes => opening name attributes

/-- The written form of consecutive pieces of markup. -/
def writeAll : List Markup → List Char
  | [] => []
  | piece :: others => write piece ++ writeAll others

end

/-- A line break between elements. -/
def newline : Markup := text ['\n']

def onLine (piece : Markup) : List Markup := [piece, newline]

end Markup

end SymbolReference
