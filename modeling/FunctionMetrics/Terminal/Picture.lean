import FunctionMetrics.Text.Blank
import FunctionMetrics.Text.Case
import FunctionMetrics.Terminal.PictureTable

/-! # Names that stand for pictures

A known name between two colons is replaced by its picture. The name may end in a wish for the form of the picture,
as text or in color. -/

namespace FunctionMetrics.Terminal

open Text

def picture? (name : String) : Option String :=
  pictureTable.findSome? fun piece =>
    (piece.splitOn "\n").findSome? fun line =>
      match line.splitOn " " with
      | [known, shown] => if known = name then some shown else none
      | _ => none

/-- How a picture is asked for, and the sign that says so. -/
def forms : List (String × String) := [("-emoji:", "\uFE0F"), ("-text:", "\uFE0E")]

/-- The end of a name: the sign of its form, and the text behind it. -/
def nameEnd? (cs : List Char) : Option (String × List Char) :=
  match forms.find? fun (mark, _) => mark.toList.isPrefixOf cs with
  | some (mark, sign) => some (sign, cs.drop mark.length)
  | none =>
    match cs with
    | ':' :: rest => some ("", rest)
    | _ => none

/-- A name, the sign of its form, and the text behind it; no blank may stand in a name. -/
def readName? : List Char → Option (List Char × String × List Char)
  | [] => none
  | c :: rest =>
    match nameEnd? (c :: rest) with
    | some (sign, after) => some ([], sign, after)
    | none => if isBlank c then none else (readName? rest).map fun (name, found) => (c :: name, found)

/-- Puts pictures in the place of names; a text between colons that names none is kept. -/
def withPictures (fuel : Nat) (cs : List Char) : List Char :=
  match fuel, cs with
  | 0, _ => cs
  | _, [] => []
  | fuel + 1, c :: rest =>
    if c ≠ ':' then c :: withPictures fuel rest
    else match readName? rest with
      | none => c :: withPictures fuel rest
      | some (name, sign, after) =>
        let shown := match picture? (lowerText (String.ofList name)) with
          | some p => p.toList ++ sign.toList
          | none => (c :: rest).take (rest.length + 1 - after.length)
        shown ++ withPictures fuel after

end FunctionMetrics.Terminal
