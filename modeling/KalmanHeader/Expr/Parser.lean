import KalmanHeader.Expr.Grammar

/-!
# Parsing expression text

A parser holds a list of tokens and the part of it that is still to be read. It
can be asked for one expression after another, also after a fault; each question
leaves the parser where reading stopped. `Expr.parse` reads a whole text as one
expression.
-/

namespace KalmanHeader

/-- Why tokens are no expression. -/
inductive ExprError (ν : Type) where
  | parse (error : ParseError ν)
  | unknownFunction (name : String)
  | wrongArity (name : String) (expected found : Nat)
  deriving DecidableEq, Repr

/-- The text of an expression error. -/
def ExprError.message : ExprError Float → String
  | .parse error => "Invalid expression: " ++ error.message
  | .unknownFunction name => "Unknown function '" ++ name ++ "'"
  | .wrongArity name expected found =>
    "Function '" ++ name ++ "' takes " ++ toString expected ++ " argument(s), got " ++
      toString found

/-- A list of tokens, and how far it has been read. -/
structure Parser (ν : Type) where
  tokens : List (Token ν)
  /-- The tokens still to be read. -/
  rest : List (Token ν)
  suffix : rest <:+ tokens

namespace Parser

variable {ν α : Type}

/-- At the start, all tokens are still to be read. -/
theorem suffix_start (tokens : List (Token ν)) : tokens <:+ tokens :=
  List.suffix_rfl

/-- A parser at the start of `tokens`. -/
def ofTokens (tokens : List (Token ν)) : Parser ν :=
  ⟨tokens, tokens, suffix_start tokens⟩

/-- How many tokens have been read. -/
def position (parser : Parser ν) : Nat :=
  parser.tokens.length - parser.rest.length

/-- The error for a fault at the place where the parser stands. -/
def errorOf (parser : Parser ν) : GrammarFault → ExprError ν
  | .expected descriptions => .parse ⟨parser.position, parser.rest.head?, descriptions⟩
  | .unknownFunction name => .unknownFunction name
  | .wrongArity name expected found => .wrongArity name expected found

/-- The result of a reading from where the parser stands, and the parser after
it. -/
def advance {least : Nat} (parser : Parser ν)
    (reading : Grammar.Reading ν α least parser.rest) : Except (ExprError ν) α × Parser ν :=
  let moved : Parser ν :=
    ⟨parser.tokens, reading.rest, reading.rest_suffix.trans parser.suffix⟩
  (reading.result.mapError moved.errorOf, moved)

/-- Reads one expression. -/
def parseExpr [Scalar ν] (parser : Parser ν) : Except (ExprError ν) (Expr ν) × Parser ν :=
  parser.advance (Grammar.readChain .sum parser.rest)

/-- Reads one expression that has to be all that is left. -/
def parseComplete [Scalar ν] (parser : Parser ν) : Except (ExprError ν) (Expr ν) × Parser ν :=
  parser.advance ((Grammar.readChain .sum parser.rest).andThen fun value rest _ =>
    match rest with
    | [] => .nothing value
    | _ => .fault (.expected ["operator", "<end>"]))

end Parser

namespace Expr

/-- The expression that a list of tokens is. -/
def ofTokens {ν : Type} [Scalar ν] (tokens : List (Token ν)) : Except (ExprError ν) (Expr ν) :=
  (Parser.ofTokens tokens).parseComplete.1

/-- The expression that a text is. -/
def parse (text : String) : Except (ExprError Float) (Expr Float) :=
  match tokenize text with
  | .error error => .error (.parse error)
  | .ok tokens => ofTokens tokens

end Expr

end KalmanHeader
