/-!
# Scripts

The program tree that relations are read from. It keeps the shapes in which
functions, calls and variables stand and lets go of everything else; what has
no shape of its own is kept as `unsupported`, with the kind of the construct.
-/

namespace ScriptGraph

mutual

inductive Expr where
  | object (properties : List (Expr × Expr))
  | ident (name : String)
  | call (callee : Expr) (args : List Expr)
  /-- A member named by an identifier. -/
  | access (base : Expr) (member : String)
  | null
  | string (text : String)
  | number (value : Float)
  | boolean (value : Bool)
  /-- A parenthesised expression. -/
  | paren (inner : Expr)
  | array (items : List Expr)
  | regex (pattern flags : String)
  | function (func : Func)
  | binary (op : String) (lhs rhs : Expr)
  | unary (op : String) (operand : Expr)
  /-- A member given by an expression. -/
  | index (base key : Expr)
  | ternary (test yes no : Expr)
  | unsupported (kind : String)

inductive Stmt where
  | var (name : String) (init : Option Expr)
  | ret (value : Option Expr)
  | branch (test : Expr) (pass : List Stmt) (fail : Option (List Stmt))
  | forLoop (init test step : Option Expr) (body : List Stmt)
  | whileLoop (test : Expr) (body : List Stmt)
  | eval (expr : Expr)
  | block (body : List Stmt)
  | tryCatch (body : List Stmt) (handlers : List (List Stmt)) (final : Option (List Stmt))
  | handler (exception : Option String) (condition : Option Expr) (body : List Stmt)
  | breakTo (label : Option String)
  | continueTo (label : Option String)
  | raise (value : Expr)
  | switchOn (subject : Expr) (cases : List Stmt)
  | caseOf (test : Option Expr) (body : List Stmt)
  | unsupported (kind : String)

/-- A function with its parameters' names and its body. -/
inductive Func where
  | mk (name : Option String) (params : List String) (body : List Stmt)

end

instance : Inhabited Expr := ⟨.null⟩

instance : Inhabited Stmt := ⟨.block []⟩

instance : Inhabited Func := ⟨.mk none [] []⟩

abbrev Block := List Stmt

namespace Func

def wrapperName : String := "runScript"

/-- The character that names made up for nameless functions hold, and that no identifier holds. -/
def anonymousMark : Char := ':'

def wrapper (body : Block) : Func := .mk (some wrapperName) [] body

def name? : Func → Option String
  | .mk name _ _ => name

def params : Func → List String
  | .mk _ params _ => params

def body : Func → Block
  | .mk _ _ body => body

end Func

/-- The expression within any number of parentheses. -/
def Expr.bare : Expr → Expr
  | .paren inner => inner.bare
  | expr => expr

/-- The kind under which a construct is left out because it is nested too deeply. -/
def nestingKind : String := "nesting too deep"

/-- The nesting bound in force where none is set. -/
def standardDepth : Nat := 1024

end ScriptGraph
