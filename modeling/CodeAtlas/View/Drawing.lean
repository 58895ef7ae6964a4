/-
CodeAtlas.View.Drawing — a view as a fragment of a page.

The fragment is a container element and a script that draws the view into it.
The script holds the view as JSON text, made safe by `Text.scriptSafe`, and the
name of the container, in which every character other than a letter, a digit,
an underscore or a hyphen is replaced by a hyphen. All else is fixed text; the
fixed pieces are `Drawing.opening` to `Drawing.closing`.

The host page is expected to bring the drawing library.

In the program this is `visualize` of `HtmlVisualizer`.
-/
import CodeAtlas.View.Basic
import CodeAtlas.Json.Writer
import CodeAtlas.Text.Markup

namespace CodeAtlas

open CodeAtlas.Graph (Relation)
open Json (WriteError)

/-- Why a view cannot be drawn. -/
inductive DrawingError where
  | nameNotText (kind : String)
  | unwritable (cause : WriteError)
  | heightTooLong

def DrawingError.message : DrawingError → String
  | .nameNotText kind => "expected string or bytes-like object, got '" ++ kind ++ "'"
  | .unwritable cause => cause.message
  | .heightTooLong => Number.tooLongToWrite

namespace Drawing

/-! ## Parts -/

/-- A character that may stand in the name of a container. -/
def isNameChar (c : Char) : Bool := c.isAlphanum || c = '_' || c = '-'

/-- The name of the container of a view. -/
def containerName (id : List Char) : List Char :=
  "codegraph-".toList ++ id.map fun c => if isNameChar c then c else '-'

/-- A value as JSON text inside the script. -/
def scriptData (v : Value) : List Char := Text.scriptSafe (Json.render .inline 0 v)

/-- Relations of structure are drawn dashed, the others solid. -/
def dashed : Value :=
  .list [.str Relation.inheritance.label, .str Relation.implementation.label]

/-- Before the name of the container element. -/
def opening : String := "<div id=\""

/-- Between the name and the height of the container element. -/
def styling : String := "\" class=\"codegraph-view\" style=\"width:100%;height:"

/-- Between the height of the container element and the data. -/
def scripting : String :=
  "px\"></div>\n"
    ++ "<script>\n"
    ++ "(function () \x7b\n"
    ++ "  const data = "

/-- Between the data and the dashed relations. -/
def dashing : String :=
  ";\n"
    ++ "  const DASHED = "

/-- Between the dashed relations and the name of the container. -/
def finding : String :=
  ";\n"
    ++ "  const container = document.getElementById(\""

/-- Between the name of the container and the height of the drawing. -/
def sizing : String :=
  "\");\n"
    ++ "  const width = container.clientWidth || 960;\n"
    ++ "  const height = "

/-- After the height of the drawing. -/
def closing : String :=
  ";\n"
    ++ "  const svg = d3.select(container).append(\"svg\")\n"
    ++ "      .attr(\"width\", width).attr(\"height\", height);\n"
    ++ "\n"
    ++ "  const simulation = d3.forceSimulation(data.nodes)\n"
    ++ "      .force(\"link\", d3.forceLink(data.edges).id(d => d.id).distance(60))\n"
    ++ "      .force(\"charge\", d3.forceManyBody().strength(-120))\n"
    ++ "      .force(\"center\", d3.forceCenter(width / 2, height / 2));\n"
    ++ "\n"
    ++ "  const link = svg.append(\"g\").attr(\"stroke\", \"#999\")"
    ++ ".attr(\"stroke-opacity\", 0.6)\n"
    ++ "    .selectAll(\"line\").data(data.edges).join(\"line\")\n"
    ++ "      .attr(\"stroke-dasharray\", "
    ++ "d => DASHED.includes(d.type) ? \"4 3\" : null);\n"
    ++ "\n"
    ++ "  const node = svg.append(\"g\")\n"
    ++ "    .selectAll(\"circle\").data(data.nodes).join(\"circle\")\n"
    ++ "      .attr(\"r\", d => d.size)\n"
    ++ "      .attr(\"fill\", d => d.color);\n"
    ++ "  node.append(\"title\").text("
    ++ "d => d.severity ? d.label + \" (\" + d.severity + \")\" : d.label);\n"
    ++ "\n"
    ++ "  simulation.on(\"tick\", () => \x7b\n"
    ++ "    link.attr(\"x1\", d => d.source.x).attr(\"y1\", d => d.source.y)\n"
    ++ "        .attr(\"x2\", d => d.target.x).attr(\"y2\", d => d.target.y);\n"
    ++ "    node.attr(\"cx\", d => d.x).attr(\"cy\", d => d.y);\n"
    ++ "  \x7d);\n"
    ++ "\x7d)();\n"
    ++ "</script>"

/-! ## The fragment -/

/-- The fragment with given name, height and data. -/
def fragment (name height data : List Char) : List Char :=
  opening.toList ++ name ++ styling.toList ++ height ++ scripting.toList ++ data
    ++ dashing.toList ++ scriptData dashed ++ finding.toList ++ name
    ++ sizing.toList ++ height ++ closing.toList

/-- The height of a drawing if none is given. -/
def defaultHeight : Value := .int 600

/-- Draw a view, whose document nests at most `levels` deep, with a given height. -/
def draw (levels : Nat) (height : Value) (v : View) : Except DrawingError (List Char) :=
  match v.id with
  | .str id =>
      match Json.obstacle? levels v.document with
      | some cause => .error (.unwritable cause)
      | none =>
          if height.isWritable then
            .ok (fragment (containerName id.toList) height.text
              (scriptData v.document))
          else .error .heightTooLong
  | other => .error (.nameNotText other.kind)

end Drawing

end CodeAtlas
