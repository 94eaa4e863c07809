import Mathlib.Data.List.Forall2
import TreeScribe.Proofs.Doc.Lines
import TreeScribe.Proofs.Literal.Spelling
import TreeScribe.Translate

/-!
# Statements and their lines

A small language of statements, apart from the trees that hold them: how a statement is written in
lines (`Statement.linesAll`), and which nodes of a syntax tree it stands for (`Statement.IsAt`).  The
pieces of source text in it have no line break.  A string is given by what its literal denotes, and
an import by the specifier of its module (`Specifies`).
-/

namespace TreeScribe.Python

/-- A piece of source text without a line break. -/
structure Piece where
  chars : List Char
  unbroken : Unbroken chars

/-! ## Module specifiers -/

/-- The marks that can stand in front of a module specifier and behind it. -/
def specifierMarks : List Char := ['"', '\'']

/-- The specifier that a text gives: what stands between two marks, which may differ, or else all of
it. -/
inductive Specifies : List Char → List Char → Prop
  | marked {opening closing : Char} (hopening : opening ∈ specifierMarks)
      (hclosing : closing ∈ specifierMarks) (specifier : List Char) :
      Specifies (opening :: (specifier ++ [closing])) specifier
  | bare {raw : List Char}
      (hraw : ∀ opening ∈ specifierMarks, ∀ closing ∈ specifierMarks, ∀ specifier,
        raw ≠ opening :: (specifier ++ [closing])) : Specifies raw raw

/-- A text without its marks. -/
theorem unquoted_of_mem {opening closing : Char} (hopening : opening ∈ specifierMarks)
    (hclosing : closing ∈ specifierMarks) (specifier : List Char) :
    Node.unquoted (opening :: (specifier ++ [closing])) = specifier := by
  have hmark : ∀ c ∈ specifierMarks, (c == '"' || c == '\'') = true := by simp [specifierMarks]
  simp [Node.unquoted, hmark opening hopening, hmark closing hclosing]

/-- A text that does not stand between two marks stays whole. -/
theorem unquoted_eq_self {raw : List Char}
    (hraw : ∀ opening ∈ specifierMarks, ∀ closing ∈ specifierMarks, ∀ specifier,
      raw ≠ opening :: (specifier ++ [closing])) : Node.unquoted raw = raw := by
  have hmark : ∀ c : Char, (c == '"' || c == '\'') = true → c ∈ specifierMarks := by
    simp [specifierMarks]
  cases raw with
  | nil => rfl
  | cons opening rest =>
    refine if_neg ?_
    rintro ⟨hopening, hclosing⟩
    cases hlast : rest.getLast? with
    | none => simp [hlast] at hclosing
    | some closing =>
      rw [hlast, Option.map_some, Option.getD_some] at hclosing
      refine hraw opening (hmark _ hopening) closing (hmark _ hclosing) rest.dropLast ?_
      rw [List.dropLast_append_getLast? closing hlast]

/-- Every text gives one specifier. -/
theorem specifies_iff {raw specifier : List Char} :
    Specifies raw specifier ↔ Node.unquoted raw = specifier := by
  constructor
  · rintro (⟨hopening, hclosing, -⟩ | hraw)
    · exact unquoted_of_mem hopening hclosing specifier
    · exact unquoted_eq_self hraw
  · rintro rfl
    by_cases hmarked : ∃ opening ∈ specifierMarks, ∃ closing ∈ specifierMarks, ∃ specifier,
        raw = opening :: (specifier ++ [closing])
    · obtain ⟨opening, hopening, closing, hclosing, specifier, rfl⟩ := hmarked
      rw [unquoted_of_mem hopening hclosing]
      exact .marked hopening hclosing specifier
    · have hraw : ∀ opening ∈ specifierMarks, ∀ closing ∈ specifierMarks, ∀ specifier,
          raw ≠ opening :: (specifier ++ [closing]) := fun opening hopening closing hclosing _ h =>
        hmarked ⟨opening, hopening, closing, hclosing, _, h⟩
      rw [unquoted_eq_self hraw]
      exact .bare hraw

/-! ## The language -/

/-- An expression. -/
inductive Expression
  | name (raw : Piece)
  | token (raw : Piece)
  | string (value : List Char)
  | binary (left : Expression) (operator : Piece) (right : Expression)
  | access (object property : Expression)
  | call (callee : Expression) (arguments : List Expression)

mutual

/-- A statement. -/
inductive Statement
  | expression (e : Expression)
  | returned (e? : Option Expression)
  | imported (specifier : Piece)
  | function (name : Piece) (parameters : List Piece) (body : List Statement)
  | ifThen (condition : Expression) (consequence : Branch)
  | ifElse (condition : Expression) (consequence alternative : Branch)

/-- What a condition decides on: the statements of a block, or one statement without a block. -/
inductive Branch
  | block (statements : List Statement)
  | single (statement : Statement)

end

/-! ## How they are written -/

namespace Expression

mutual

/-- The text of an expression. -/
def text : Expression → List Char
  | name raw => snakeCase raw.chars
  | token raw => raw.chars
  | string value => Json.quote value
  | binary left operator right => left.text ++ ' ' :: operator.chars ++ ' ' :: right.text
  | access object property => object.text ++ '.' :: property.text
  | call callee arguments =>
    callee.text ++ '(' :: [',', ' '].intercalate (textAll arguments) ++ [')']

/-- The texts of several expressions. -/
def textAll : List Expression → List (List Char)
  | [] => []
  | e :: es => e.text :: textAll es

end

end Expression

namespace Statement

/-- The first line of a statement. -/
def header : Statement → List Char
  | expression e => e.text
  | returned none => "return".toList
  | returned (some e) => "return ".toList ++ e.text
  | imported specifier => "import ".toList ++ specifier.chars
  | function name parameters _ =>
    "def ".toList ++
      (snakeCase name.chars ++
        '(' :: ([',', ' '].intercalate (parameters.map fun p => snakeCase p.chars) ++ [')'])) ++ [':']
  | ifThen condition _ | ifElse condition _ _ => "if ".toList ++ (condition.text ++ [':'])

/-- Whether a statement is an `if`. -/
def isConditional : Statement → Bool
  | ifThen .. | ifElse .. => true
  | _ => false

end Statement

/-- The lines of a block: `pass`, if it has none. -/
def orPass (k : Nat) (lines : List (List Char)) : List (List Char) :=
  if lines = [] then [lineAt k "pass".toList] else lines

mutual

/-- The lines of a statement in `k` blocks, its first line apart. -/
def Statement.inner (k : Nat) : Statement → List (List Char)
  | .function _ _ body => orPass (k + 1) (Statement.linesAll (k + 1) body)
  | .ifThen _ consequence => consequence.lines (k + 1)
  | .ifElse _ consequence alternative => consequence.lines (k + 1) ++ alternative.elseLines k
  | .expression _ | .returned _ | .imported _ => []

/-- The lines of a branch in `k` blocks. -/
def Branch.lines (k : Nat) : Branch → List (List Char)
  | .block statements => orPass k (Statement.linesAll k statements)
  | .single statement => lineAt k statement.header :: statement.inner k

/-- The lines of an alternative in `k` blocks: an `elif` for another `if`, and else an `else`. -/
def Branch.elseLines (k : Nat) : Branch → List (List Char)
  | .block statements =>
    lineAt k "else:".toList :: orPass (k + 1) (Statement.linesAll (k + 1) statements)
  | .single statement =>
    if statement.isConditional then
      lineAt k ("el".toList ++ statement.header) :: statement.inner k
    else
      lineAt k "else:".toList :: lineAt (k + 1) statement.header :: statement.inner (k + 1)

/-- The lines of several statements in `k` blocks. -/
def Statement.linesAll (k : Nat) : List Statement → List (List Char)
  | [] => []
  | s :: ss => lineAt k s.header :: s.inner k ++ Statement.linesAll k ss

end

/-! ## How deep they are -/

mutual

/-- How many blocks a statement has inside each other. -/
def Statement.depth : Statement → Nat
  | .function _ _ body => Statement.depthAll body + 1
  | .ifThen _ consequence => consequence.depth + 1
  | .ifElse _ consequence alternative => max (consequence.depth + 1) alternative.elseDepth
  | .expression _ | .returned _ | .imported _ => 0

/-- How many blocks a branch has inside each other, its own apart. -/
def Branch.depth : Branch → Nat
  | .block statements => Statement.depthAll statements
  | .single statement => statement.depth

/-- How many blocks an alternative has inside each other; another `if` is not a block deeper. -/
def Branch.elseDepth : Branch → Nat
  | .block statements => Statement.depthAll statements + 1
  | .single statement =>
    if statement.isConditional then statement.depth else statement.depth + 1

/-- How many blocks several statements have inside each other. -/
def Statement.depthAll : List Statement → Nat
  | [] => 0
  | s :: ss => max s.depth (Statement.depthAll ss)

end

/-! ## Where they stand -/

section

variable (source : List Char)

mutual

/-- A node that holds an expression. -/
def Expression.IsAt : Expression → Node → Prop
  | .name raw, n => n.kind = .role .identifier ∧ n.text source = raw.chars
  | .token raw, n => n.kind = .role .token ∧ n.text source = raw.chars
  | .string value, n => n.kind = .role .stringLiteral ∧ Literal.Denotes (n.text source) value
  | .binary left operator right, n =>
    n.kind = .role .binaryExpression ∧
      (∃ m, n.child? "left" = some m ∧ left.IsAt m) ∧
      (∃ m, n.operator? = some m ∧ m.text source = operator.chars) ∧
      ∃ m, n.child? "right" = some m ∧ right.IsAt m
  | .access object property, n =>
    n.kind = .role .propertyAccess ∧
      (∃ m, n.child? "object" = some m ∧ object.IsAt m) ∧
      ∃ m, n.child? "property" = some m ∧ property.IsAt m
  | .call callee arguments, n =>
    n.kind = .role .callExpression ∧
      (∃ m, n.child? "function" = some m ∧ callee.IsAt m) ∧
      ∃ m, n.child? "arguments" = some m ∧ Expression.AreAt arguments m.namedChildren

/-- Nodes that hold expressions, in order. -/
def Expression.AreAt : List Expression → List Node → Prop
  | [], ns => ns = []
  | e :: es, ns => ∃ n rest, ns = n :: rest ∧ e.IsAt n ∧ Expression.AreAt es rest

end

/-- A parameter that binds a name. -/
def IsParameterAt (raw : Piece) (n : Node) : Prop :=
  n.kind = .role .parameter ∧
    ∃ m, n.child? "pattern" = some m ∧ (Expression.name raw).IsAt source m

/-- A block whose list holds the given nodes. -/
def IsBlockOf (ns : List Node) (n : Node) : Prop :=
  n.kind = .role .block ∧
    ∃ list, n.childOfKind? (.role .syntaxList) = some list ∧ list.children = ns

mutual

/-- A node that holds a statement. -/
def Statement.IsAt : Statement → Node → Prop
  | .expression e, n =>
    n.kind = .role .expressionStatement ∧ ∃ m, n.firstNamed? = some m ∧ e.IsAt source m
  | .returned none, n => n.kind = .role .returnStatement ∧ n.firstNamed? = none
  | .returned (some e), n =>
    n.kind = .role .returnStatement ∧ ∃ m, n.firstNamed? = some m ∧ e.IsAt source m
  | .imported specifier, n =>
    n.kind = .role .importDeclaration ∧
      ∃ m, n.child? "source" = some m ∧ Specifies (m.text source) specifier.chars
  | .function name parameters body, n =>
    n.kind = .role .functionDeclaration ∧
      (∃ m, n.child? "name" = some m ∧ (Expression.name name).IsAt source m) ∧
      (∃ m, n.child? "parameters" = some m ∧
        List.Forall₂ (IsParameterAt source) parameters m.namedChildren) ∧
      ∃ m, n.child? "body" = some m ∧ ∃ ns, IsBlockOf ns m ∧ Statement.AreAt body ns
  | .ifThen condition consequence, n =>
    n.kind = .role .ifStatement ∧
      (∃ m, n.child? "condition" = some m ∧ condition.IsAt source m) ∧
      (∃ m, n.child? "consequence" = some m ∧ consequence.IsAt m) ∧
      n.child? "alternative" = none
  | .ifElse condition consequence alternative, n =>
    n.kind = .role .ifStatement ∧
      (∃ m, n.child? "condition" = some m ∧ condition.IsAt source m) ∧
      (∃ m, n.child? "consequence" = some m ∧ consequence.IsAt m) ∧
      ∃ clause, n.child? "alternative" = some clause ∧
        ∃ m, clause.firstNamed? = some m ∧ alternative.IsAt m

/-- A node that holds a branch. -/
def Branch.IsAt : Branch → Node → Prop
  | .block statements, n => ∃ ns, IsBlockOf ns n ∧ Statement.AreAt statements ns
  | .single statement, n => statement.IsAt n

/-- Nodes that hold statements, in order. -/
def Statement.AreAt : List Statement → List Node → Prop
  | [], ns => ns = []
  | s :: ss, ns => ∃ n rest, ns = n :: rest ∧ s.IsAt n ∧ Statement.AreAt ss rest

end

/-- A file whose list holds statements, in order. -/
def IsFileAt (ss : List Statement) (root : Node) : Prop :=
  root.kind = .sourceFile ∧
    ∃ list, root.children = [list] ∧ list.kind = .role .syntaxList ∧
      Statement.AreAt source ss list.children

end

end TreeScribe.Python
