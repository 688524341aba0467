import SqlRunner.Fault
import SqlRunner.Fields
import SqlRunner.Text.Search

/-!
# Markers — parameters in the spelling of a driver

Rendered SQL marks its parameters by `?`. Drivers spell markers in one of five styles, and only a
marker outside of literals is respelled. A literal is a text between two like quotes, in which a
doubled quote stands for the quote itself. Where a quote is never closed, the last doubled quote
behind it closes it, and without one the quote is an ordinary character (`literalLength?`).

In the two styles that use the percent sign, a percent sign in the text is doubled, inside of
literals too, so that the driver's own interpolation gives the text back.
-/

set_option autoImplicit false

namespace SqlRunner

/-- How a driver spells markers. -/
inductive MarkerStyle where
  | question
  | format
  | extendedFormat
  | numeric
  | named
  /-- A style this library does not know. -/
  | other (name : String)
deriving DecidableEq, Repr

namespace MarkerStyle

/-- The name of a style. -/
def name : MarkerStyle → String
  | question => "qmark"
  | format => "format"
  | extendedFormat => "pyformat"
  | numeric => "numeric"
  | named => "named"
  | other n => n

/-- The style of a name. -/
def ofName (written : String) : MarkerStyle :=
  if written == "qmark" then question
  else if written == "format" then format
  else if written == "pyformat" then extendedFormat
  else if written == "numeric" then numeric
  else if written == "named" then named
  else other written

/-- Whether the style uses the percent sign. -/
def isPercent : MarkerStyle → Bool
  | format | extendedFormat => true
  | _ => false

/-- The `k`-th marker. -/
def marker (style : MarkerStyle) (k : Nat) : Except Fault (List Char) :=
  match style with
  | question => .ok ['?']
  | format | extendedFormat => .ok ['%', 's']
  | numeric => .ok (':' :: (toString k).toList)
  | named => .ok (':' :: 'p' :: (toString k).toList)
  | other n => .error (.unsupportedMarkers n)

end MarkerStyle

namespace Marker

/-- How far a literal reaches whose opening quote has just been passed, the closing quote included.
    A lone quote closes it; where there is none, the first quote of the last pair does. -/
def literalLength? (quote : Char) : List Char → Option Nat
  | [] => none
  | [c] => if c == quote then some 1 else none
  | c :: d :: rest =>
    if c == quote then
      if d == quote then
        match literalLength? quote rest with
        | some n => some (n + 2)
        | none => some 1
      else some 1
    else (literalLength? quote (d :: rest)).map (· + 1)

/-- A part of SQL, as far as markers are concerned. -/
inductive Piece where
  /-- A literal with its quotes. -/
  | literal (text : List Char)
  | marker
  | percent
  | plain (c : Char)
deriving DecidableEq, Repr

/-- What a character outside of literals is. -/
def pieceOf (c : Char) : Piece :=
  if c == '?' then .marker else if c == '%' then .percent else .plain c

/-- The pieces of a text; `skip` characters still belong to the last literal. -/
def piecesFrom : Nat → List Char → List Piece
  | _, [] => []
  | skip + 1, _ :: rest => piecesFrom skip rest
  | 0, c :: rest =>
    if c == '\'' || c == '"' then
      match literalLength? c rest with
      | some n => .literal (c :: rest.take n) :: piecesFrom n rest
      | none => .plain c :: piecesFrom 0 rest
    else pieceOf c :: piecesFrom 0 rest

/-- The pieces of SQL. -/
def pieces (sql : List Char) : List Piece := piecesFrom 0 sql

/-- A text with its percent signs doubled. -/
def doublePercents (text : List Char) : List Char :=
  text.flatMap fun c => if c == '%' then ['%', '%'] else [c]

/-- Pieces in a style; `k` markers came before. -/
def writeFrom (style : MarkerStyle) : Nat → List Piece → Except Fault (List Char)
  | _, [] => .ok []
  | k, .literal text :: rest => do
    let here := if style.isPercent then doublePercents text else text
    return here ++ (← writeFrom style k rest)
  | k, .percent :: rest => do
    let here := if style.isPercent then ['%', '%'] else ['%']
    return here ++ (← writeFrom style k rest)
  | k, .plain c :: rest => return c :: (← writeFrom style k rest)
  | k, .marker :: rest => do
    let here ← style.marker (k + 1)
    return here ++ (← writeFrom style (k + 1) rest)

/-- The SQL with its markers in a style. -/
def respell (sql : String) (style : MarkerStyle) : Except Fault String :=
  if style == .question then .ok sql
  else (writeFrom style 0 (pieces sql.toList)).map String.ofList

/-- Parameters as they are handed to a driver. -/
inductive Arguments where
  | positional (values : List Datum)
  | named (values : Fields)

/-- The parameters for the markers of a style: under the names `p1`, `p2`, … where markers are
    named, and by position everywhere else. -/
def bind (parameters : List Datum) (style : MarkerStyle) : Arguments :=
  match style with
  | .named =>
    .named ((parameters.zipIdx 1).map fun (value, k) => ("p" ++ toString k, value))
  | _ => .positional parameters

end Marker

end SqlRunner
