import TreeShapes.Text.Quoted
import TreeShapes.TypeExpr.Basic

namespace TreeShapes

/-!
# Outlines of type expressions

An expression is written as the nesting of its constructors, either on one line
or with one item on every line.  Both layouts write the same words; they differ
in what stands after an opening bracket, between two items, and before a
closing bracket.  A text is given as a list of pieces in front of the pieces
that follow it, so that no text is copied while the nesting is unwound.
-/

/-- How an outline is spread over lines. -/
inductive Layout where
  /-- Everything on one line. -/
  | compact
  /-- Every item on a line of its own, indented by its depth. -/
  | indented
deriving DecidableEq

namespace Layout

/-- Four blanks for every level. -/
def indentation (depth : Nat) : String :=
  String.ofList (List.replicate (4 * depth) ' ')

/-- What follows a bracket opened at the given depth. -/
def opening (depth : Nat) : Layout -> String
  | compact => ""
  | indented => "\n" ++ indentation (depth + 1)

/-- What stands between two items inside a bracket opened at the given depth. -/
def between (depth : Nat) : Layout -> String
  | compact => ", "
  | indented => ",\n" ++ indentation (depth + 1)

/-- What precedes the closing of a bracket opened at the given depth. -/
def closing (depth : Nat) : Layout -> String
  | compact => ""
  | indented => ",\n" ++ indentation depth

/-- What sets braces apart from their contents on one line. -/
def margin : Layout -> String
  | compact => " "
  | indented => ""

end Layout

/-- The outline of a literal, in front of the pieces that follow it. -/
def Literal.outline (layout : Layout) (depth : Nat) :
    Literal -> List String -> List String
  | name text, rest =>
      "Name(" :: layout.opening depth :: Text.quote text :: layout.closing depth :: ")" :: rest
  | int value, rest =>
      "Int(" :: layout.opening depth :: value.toNat.repr :: layout.closing depth :: ")" :: rest

namespace TypeExpr

mutual

/-- The outline of an expression, in front of the pieces that follow it. -/
def outline (layout : Layout) (depth : Nat) : TypeExpr -> List String -> List String
  | choice [], rest =>
      "Choice(" :: layout.opening depth :: "[]" :: layout.closing depth :: ")" :: rest
  | choice (member :: members), rest =>
      "Choice(" :: layout.opening depth :: "[" :: layout.opening (depth + 1) ::
        outlineAlternative layout (depth + 2) member
          (outlineMembers layout (depth + 1) members
            (layout.closing (depth + 1) :: "]" :: layout.closing depth :: ")" :: rest))
  | list element, rest =>
      "List(" :: layout.opening depth ::
        outline layout (depth + 1) element (layout.closing depth :: ")" :: rest)
  | tree left right, rest =>
      "Tree \x7b" :: layout.opening depth :: layout.margin :: "left: " ::
        outline layout (depth + 1) left
          (layout.between depth :: "right: " ::
            outline layout (depth + 1) right
              (layout.closing depth :: layout.margin :: "\x7d" :: rest))

def outlineAlternative (layout : Layout) (depth : Nat) :
    Alternative -> List String -> List String
  | .leaf literal, rest =>
      "Leaf(" :: layout.opening depth ::
        literal.outline layout (depth + 1) (layout.closing depth :: ")" :: rest)
  | .node expr, rest =>
      "Node(" :: layout.opening depth ::
        outline layout (depth + 1) expr (layout.closing depth :: ")" :: rest)

/-- The outlines of the members after the first, inside a bracket opened at the given depth. -/
def outlineMembers (layout : Layout) (depth : Nat) :
    List Alternative -> List String -> List String
  | [], rest => rest
  | member :: members, rest =>
      layout.between depth ::
        outlineAlternative layout (depth + 1) member (outlineMembers layout depth members rest)

end

def text (layout : Layout) (expr : TypeExpr) : String :=
  String.join (expr.outline layout 0 [])

end TypeExpr

end TreeShapes
