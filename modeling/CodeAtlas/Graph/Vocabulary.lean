/-
CodeAtlas.Graph.Vocabulary — the fixed words of a code graph.

A node has a level, an edge stands for a relation, and a cost falls into one of
six severities, each with a code and a colour. The six rows of `Severity` are
the only place where costs are tied to labels and colours.

`Member` is a word of any of the three vocabularies. Documents hold members
next to plain data, so a member has a full name, such as `NodeLevel.CLASS`.

In the program these are `NodeLevel`, `EdgeType` and `CostLevel`.
-/
namespace CodeAtlas.Graph

/-- What a node of the graph is. -/
inductive Level where
  | method | cls | interface | package
  deriving DecidableEq

/-- What an edge of the graph stands for. -/
inductive Relation where
  | invocation | inheritance | implementation | dependency
  deriving DecidableEq

/-- The bucket of a cost. -/
inductive Severity where
  | lowest | low | medium | high | critical | unknown
  deriving DecidableEq

/-- The word for a level. -/
def Level.label : Level → String
  | .method => "METHOD"
  | .cls => "CLASS"
  | .interface => "INTERFACE"
  | .package => "PACKAGE"

def Level.all : List Level := [.method, .cls, .interface, .package]

/-- The word for a relation. -/
def Relation.label : Relation → String
  | .invocation => "INVOCATION"
  | .inheritance => "INHERITANCE"
  | .implementation => "IMPLEMENTATION"
  | .dependency => "DEPENDENCY"

def Relation.all : List Relation :=
  [.invocation, .inheritance, .implementation, .dependency]

/-- The word for a severity. -/
def Severity.label : Severity → String
  | .lowest => "LOWEST"
  | .low => "LOW"
  | .medium => "MEDIUM"
  | .high => "HIGH"
  | .critical => "CRITICAL"
  | .unknown => "UNKNOWN"

/-- The code of a severity; the highest is the most severe. -/
def Severity.code : Severity → Int
  | .lowest => 0
  | .low => 1
  | .medium => 2
  | .high => 3
  | .critical => 4
  | .unknown => -1

/-- The colour in which a severity is drawn. -/
def Severity.color : Severity → String
  | .lowest => "#90caf9"
  | .low => "#64b5f6"
  | .medium => "#ffab00"
  | .high => "#ff6d00"
  | .critical => "#d50000"
  | .unknown => "#bdbdbd"

/-- The severities that a cost can name; `unknown` is what is left. -/
def Severity.known : List Severity := [.lowest, .low, .medium, .high, .critical]

/-- The severity of a code. -/
def Severity.ofCode (n : Int) : Severity :=
  (known.find? fun s => s.code == n).getD .unknown

/-- A word of one of the three vocabularies. -/
inductive Member where
  | level (l : Level)
  | relation (r : Relation)
  | severity (s : Severity)
  deriving DecidableEq

/-- The name of a member's vocabulary. -/
def Member.vocabulary : Member → String
  | .level _ => "NodeLevel"
  | .relation _ => "EdgeType"
  | .severity _ => "CostLevel"

/-- The word itself. -/
def Member.label : Member → String
  | .level l => l.label
  | .relation r => r.label
  | .severity s => s.label

/-- Vocabulary and word. -/
def Member.fullName (m : Member) : String := m.vocabulary ++ "." ++ m.label

end CodeAtlas.Graph
