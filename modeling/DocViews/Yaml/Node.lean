import DocViews.Yaml.Scalar

/-!
# YAML nodes

The tree that a YAML document amounts to.  Anchors are numbers: the name of an anchor is worth
nothing once the aliases are tied to it.

`Node.anchored?` finds the node behind a number.  Where two nodes carry the same number the one
that starts later in the text counts, so a search from the root takes the last one it meets.
-/

set_option autoImplicit false

namespace DocViews
namespace Yaml

inductive Node where
  | alias (anchor : Nat)
  | scalar (anchor : Option Nat) (tag : Option Text) (style : Style) (text : Text)
  | sequence (anchor : Option Nat) (items : List Node)
  | mapping (anchor : Option Nat) (entries : List (Node × Node))

namespace Node

/-- The node that an empty place in the text stands for. -/
def empty : Node :=
  .scalar none none .plain []

def anchor? : Node → Option Nat
  | .alias _ => none
  | .scalar anchor .. => anchor
  | .sequence anchor _ => anchor
  | .mapping anchor _ => anchor

mutual

/-- The last of the nodes of a tree, in the order in which they start, that carries an anchor. -/
def anchored? (anchor : Nat) (node : Node) : Option Node :=
  let inside :=
    match node with
    | .sequence _ items => anchoredInItems? anchor items
    | .mapping _ entries => anchoredInEntries? anchor entries
    | _ => none
  inside <|> if node.anchor? = some anchor then some node else none

def anchoredInItems? (anchor : Nat) : List Node → Option Node
  | [] => none
  | item :: more => anchoredInItems? anchor more <|> anchored? anchor item

def anchoredInEntries? (anchor : Nat) : List (Node × Node) → Option Node
  | [] => none
  | (key, value) :: more =>
    anchoredInEntries? anchor more <|> anchored? anchor value <|> anchored? anchor key

end

end Node
end Yaml
end DocViews
