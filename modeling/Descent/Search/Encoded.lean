import Descent.Json
import Descent.Search.Verdict

/-!
# Verdicts as JSON

The form in which verdicts are handed to other programs: the kind of the verdict, and under it the
nodes of the tree or the parts of the rejection.
-/

namespace Descent

/-- A node with its links. -/
def Node.toJson (node : Node) : Json :=
  .object [
    ("symbol", .text node.symbol),
    ("parent", .ofOption .number node.parent),
    ("previous_sibling", .ofOption .number node.previousSibling)]

/-- The nodes of a tree. -/
def DerivationTree.toJson (tree : DerivationTree) : Json :=
  .object [("nodes", .array (tree.nodes.toList.map Node.toJson))]

namespace Search

/-- What is known of a rejection. -/
def Rejection.fields (rejection : Rejection) : List (String × Json) := [
  ("first_exhausted", .ofOption .text rejection.firstExhausted),
  ("furthest", .number rejection.furthest),
  ("found", .ofOption .text rejection.found),
  ("expected", .array (rejection.expected.map .text)),
  ("steps", .number rejection.steps)]

/-- A verdict, under the name of its kind. -/
def Verdict.toJson : Verdict → Json
  | .accepted tree steps =>
    .object [("outcome", .text "accepted"), ("tree", tree.toJson), ("steps", .number steps)]
  | .rejected rejection => .object (("outcome", .text "rejected") :: rejection.fields)

end Search

end Descent
