import AgentConvert.Text.Quoted

/-!
# Tokens and syntax errors

What a document's text is made of, each token with the line on which it starts; and why a text is
not a document, with the line to which the reason applies.
-/

namespace AgentConvert

/-! ## Tokens -/

/-- A token. Strings have their escapes resolved; numbers keep their spelling. The words `null`,
`true` and `false` are identifiers here. -/
inductive Token where
  | ident (name : String)
  | str (text : String)
  | number (spelling : String)
  | openBrace
  | closeBrace
  | openBracket
  | closeBracket
  | openParen
  | closeParen
  | comma
  | dot
  | assign
  | endOfText
  deriving DecidableEq, Inhabited

/-- A token and its line, the first line being 1. Lines are counted in 32 bits. -/
structure Located where
  line : UInt32
  token : Token
  deriving DecidableEq, Inhabited

/-- The name of a kind of token. -/
def Token.kind : Token → String
  | ident _ => "Ident"
  | str _ => "Str"
  | number _ => "Number"
  | openBrace => "LBrace"
  | closeBrace => "RBrace"
  | openBracket => "LBracket"
  | closeBracket => "RBracket"
  | openParen => "LParen"
  | closeParen => "RParen"
  | comma => "Comma"
  | dot => "Dot"
  | assign => "Assign"
  | endOfText => "Eof"

/-- The text that a token carries. -/
def Token.text? : Token → Option String
  | ident s | str s | number s => some s
  | _ => none

/-- How messages show a token. -/
def Token.shown (t : Token) : String :=
  match t.text? with
  | some s => t.kind ++ "(" ++ Text.quoted s ++ ")"
  | none => t.kind

/-! ## Syntax errors -/

/-- Why a text has no tokens. -/
inductive LexFault where
  | openComment
  | openString
  | openEscape
  | unknownEscape (c : Char)
  | unexpected (c : Char)
  deriving DecidableEq

/-- Why tokens are not a document or an expression; `got` is the first token that does not fit. -/
inductive ParseFault where
  | expected (mark : Char) (got : Token)
  | expectedIdentifier (got : Token)
  | expectedExpression (got : Token)
  | expectedKey (got : Token)
  | expectedSeparator (close : Char) (got : Token)
  | openBlock
  | strayBrace
  | afterExpression (got : Token)
  deriving DecidableEq

/-- A syntax error, and the stage at which it was found. -/
inductive SyntaxError where
  | lex (line : UInt32) (fault : LexFault)
  | parse (line : UInt32) (fault : ParseFault)
  deriving DecidableEq

def LexFault.message : LexFault → String
  | openComment => "unterminated block comment"
  | openString => "unterminated string literal"
  | openEscape => "unterminated escape in string"
  | unknownEscape c => "unknown escape sequence '\\" ++ String.singleton c ++ "'"
  | unexpected c => "unexpected character '" ++ String.singleton c ++ "'"

def ParseFault.message : ParseFault → String
  | expected mark got => "expected '" ++ String.singleton mark ++ "', got " ++ got.shown
  | expectedIdentifier got => "expected identifier, got " ++ got.shown
  | expectedExpression got => "expected expression, got " ++ got.shown
  | expectedKey got => "expected object key, got " ++ got.shown
  | expectedSeparator close got =>
    "expected ',' or '" ++ String.singleton close ++ "', got " ++ got.shown
  | openBlock => "expected '\x7d', got end of file"
  | strayBrace => "unexpected '\x7d'"
  | afterExpression got => "unexpected " ++ got.shown ++ " after expression"

/-- The line of an error. -/
def SyntaxError.line : SyntaxError → UInt32
  | lex line _ | parse line _ => line

/-- The message of an error, its line first. -/
def SyntaxError.message (e : SyntaxError) : String :=
  "line " ++ toString e.line ++ ": " ++
    match e with
    | lex _ fault => "lex error: " ++ fault.message
    | parse _ fault => "parse error: " ++ fault.message

end AgentConvert
