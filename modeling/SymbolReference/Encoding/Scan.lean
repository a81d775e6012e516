import SymbolReference.Encoding.Error

namespace SymbolReference.Encoding

/-- Why a step cannot be taken: the bytes end too early, some at their start mean nothing, or the set
of characters in use is for something else. -/
inductive Misreading where
  | incomplete
  | internal
  | illegal (count : Nat)
deriving Repr, DecidableEq

/-- What a step reads: characters, the number of bytes that they took beyond the first one, and the
state to go on in. -/
structure Reading (σ : Type) where
  chars : List Char
  more : Nat := 0
  state : σ

/-- A step of reading, from a state, the first byte and the bytes after it. -/
abbrev Step (σ : Type) := σ → Nat → List Nat → Except Misreading (Reading σ)

/-- Read all bytes from a place on. -/
def readSteps {σ : Type} (encoding : String) (step : Step σ) :
    σ → Nat → List Nat → Except EncodingError (List Char)
  | _, _, [] => .ok []
  | state, place, first :: rest =>
    match step state first rest with
    | .error .incomplete =>
      .error (.unreadable encoding place (first :: rest) "incomplete multibyte sequence")
    | .error .internal => .error .internal
    | .error (.illegal count) =>
      .error (.unreadable encoding place ((first :: rest).take count) "illegal multibyte sequence")
    | .ok found => do
      let chars ← readSteps encoding step found.state (place + 1 + found.more)
        (rest.drop found.more)
      return found.chars ++ chars
termination_by _ _ bytes => bytes.length
decreasing_by
  simp only [List.length_drop, List.length_cons]
  omega

end SymbolReference.Encoding
