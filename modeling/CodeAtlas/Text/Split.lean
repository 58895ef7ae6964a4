/-
CodeAtlas.Text.Split — texts cut at a character.
-/
namespace CodeAtlas.Text

/-- The pieces of a text between occurrences of a character. -/
def splitOn (sep : Char) : List Char → List (List Char)
  | [] => [[]]
  | c :: cs =>
      if c = sep then [] :: splitOn sep cs
      else
        match splitOn sep cs with
        | [] => [[c]]
        | piece :: pieces => (c :: piece) :: pieces

/-- Pieces put together with a character between them. -/
def joinWith (sep : Char) : List (List Char) → List Char
  | [] => []
  | [piece] => piece
  | piece :: pieces => piece ++ sep :: joinWith sep pieces

/-- A piece that stands for the place itself. -/
def isDot (piece : List Char) : Bool := piece == ['.']

/-- A piece that stands for the place above. -/
def isDotDot (piece : List Char) : Bool := piece == ['.', '.']

end CodeAtlas.Text
