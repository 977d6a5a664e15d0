import StorageKey.Decimal.Integer
import StorageKey.Data.Literal
import StorageKey.Markup.Layout
import StorageKey.Markup.Marked

/-!
# Marked text on a terminal

A marked text is laid out in lines of a width. A plain terminal shows the characters only; one with
16 colours gets the codes of each stretch before it and a reset after it.

* `plainLines`, `colouredLines`: the text as the terminal gets it.
-/

namespace StorageKey.Markup

open StorageKey.Text

/-- The columns of a terminal. -/
def terminalWidth : Nat := 80

/-- A line in stretches without boundary. -/
def stretches : List (Char × Marked.Label) → List (List (Char × Marked.Label))
  | [] => []
  | c :: r =>
    match stretches r with
    | (d :: s) :: rest => if d.2.boundary then [c] :: (d :: s) :: rest else (c :: d :: s) :: rest
    | rest => [c] :: rest

/-- A stretch with the codes of its style. -/
def coloured (s : List (Char × Marked.Label)) : List Char :=
  match s with
  | [] => []
  | c :: _ =>
    match c.2.style.codes with
    | [] => chars s
    | codes =>
      '\x1b' :: '[' :: joinWith [';'] (codes.map natText) ++ 'm' :: chars s ++ "\x1b[0m".toList

/-- The lines of a marked text for a plain terminal. -/
def plainLines (m : Marked) : List Char :=
  (layOut terminalWidth (m.text.map fun c => (c, ()))).flatMap fun l => chars l ++ ['\n']

/-- The lines of a marked text for a terminal with 16 colours. -/
def colouredLines (m : Marked) : List Char :=
  (layOut terminalWidth m.withBoldBrackets.labelled).flatMap fun l =>
    (stretches l).flatMap coloured ++ ['\n']

end StorageKey.Markup
