/-
CodeAtlas.Host.Page — the page that shows a view.

The page is fixed text around the name of the resource, a line on the outcome
and the drawing. Name and line are escaped, the drawing is not.

A resource is named as in messages, but for a floating-point number that needs
an exponent there: the page writes it out if that takes at most 200 places.

In the program this is the template of `index`.
-/
import CodeAtlas.Text.Markup
import CodeAtlas.Value.Display

namespace CodeAtlas.Host

open Number (Binary64 Decimal)

namespace Page

/-- Before the title. -/
def opening : String :=
  "<!DOCTYPE html>\n"
    ++ "<html lang=\"en\">\n"
    ++ "<head>\n"
    ++ "  <meta charset=\"utf-8\">\n"
    ++ "  <title>Code graph: "

/-- Between title and heading. -/
def heading : String :=
  "</title>\n"
    ++ "  <script src=\"https://d3js.org/d3.v7.min.js\"></script>\n"
    ++ "</head>\n"
    ++ "<body>\n"
    ++ "  <header>\n"
    ++ "    <h1>"

/-- Between heading and line on the outcome. -/
def status (success : Bool) : String :=
  "</h1>\n"
    ++ "    \n"
    ++ (if success then "      <p class=\"status\">"
        else "      <p class=\"status error\">Graph unavailable: ")

/-- Between line on the outcome and drawing. -/
def body : String :=
  "</p>\n"
    ++ "    \n"
    ++ "  </header>\n"
    ++ "  "

/-- After the drawing. -/
def closing : String :=
  "\n"
    ++ "</body>\n"
    ++ "</html>\n"

end Page

/-- The most digits and places of a number that is written out. -/
def Page.longest : Nat := 200

/-- A numeral that needs an exponent is short enough to be written out. -/
def Page.isWrittenOut (d : Decimal) : Bool :=
  !Number.isPositional Number.floatLayout d
    && d.exponent.natAbs + (Number.digits d.digits).length ≤ Page.longest

/-- A floating-point number on a page. -/
def Page.number (x : Binary64) : List Char :=
  match x with
  | .finite negative m e =>
      let d := Number.shortest m e
      if m ≠ 0 && Page.isWrittenOut d then
        (if negative then ['-'] else []) ++ Number.writtenOut d
      else Value.literal (.float x)
  | _ => Value.literal (.float x)

/-- The name of a resource on a page. -/
def Page.name : Value → List Char
  | .float x => Page.number x
  | v => v.text

/-- The page of a resource, with the outcome and the drawing. -/
def page (resource : List Char) (success : Bool) (message drawing : List Char) :
    List Char :=
  Page.opening.toList ++ Text.escape resource ++ Page.heading.toList
    ++ Text.escape resource ++ (Page.status success).toList
    ++ Text.escape message ++ Page.body.toList ++ drawing ++ Page.closing.toList

end CodeAtlas.Host
