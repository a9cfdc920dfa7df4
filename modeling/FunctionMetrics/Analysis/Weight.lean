import FunctionMetrics.Number.Basic

/-! # Weights of constructs

Branches, loops and logical operators weigh one each. A binary expression weighs a half: where a grammar does not
tell logical operators apart, most binary expressions are arithmetic. Any other kind of node weighs nothing. -/

namespace FunctionMetrics

inductive Construct
  | ifStatement
  | elifClause
  | elseClause
  | forStatement
  | foreachStatement
  | caseStatement
  | booleanOperator
  | binaryExpression
deriving DecidableEq, Repr

namespace Construct

def all : List Construct :=
  [.ifStatement, .elifClause, .elseClause, .forStatement, .foreachStatement, .caseStatement, .booleanOperator,
   .binaryExpression]

def kind : Construct → String
  | .ifStatement => "if_statement"
  | .elifClause => "elif_clause"
  | .elseClause => "else_clause"
  | .forStatement => "for_statement"
  | .foreachStatement => "foreach_statement"
  | .caseStatement => "case_statement"
  | .booleanOperator => "boolean_operator"
  | .binaryExpression => "binary_expression"

def weight : Construct → Binary64
  | .binaryExpression => .half
  | _ => .one

def ofKind? (kind : String) : Option Construct := all.find? fun c => c.kind = kind

end Construct

/-- What a node of a kind adds to the complexity of the functions around it. -/
def weightOf (kind : String) : Binary64 :=
  match Construct.ofKind? kind with
  | some c => c.weight
  | none => .zero

end FunctionMetrics
