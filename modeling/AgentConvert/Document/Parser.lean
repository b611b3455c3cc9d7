import AgentConvert.Document.Basic
import AgentConvert.Document.Lexer
import AgentConvert.Parsed

/-!
# Parsing

Documents and expressions from tokens. Each reader returns what it read with the tokens behind it,
fewer than it was given, so reading ends on every list of tokens. Where a list ends, the end of the
text is taken to follow.
-/

namespace AgentConvert

/-- The token at the head. -/
def headToken : List Located → Token
  | [] => .endOfText
  | t :: _ => t.token

/-- The line of the token at the head. -/
def headLine : List Located → UInt32
  | [] => 0
  | t :: _ => t.line

/-- The error of a fault at the head of `ts`. -/
def faultAt (ts : List Located) (fault : Token → ParseFault) : SyntaxError :=
  .parse (headLine ts) (fault (headToken ts))

/-- Takes the token `t`, which messages show as `mark`. -/
def takeToken (t : Token) (mark : Char) (ts : List Located) :
    Except SyntaxError (Parsed Located Unit ts.length) :=
  match ts with
  | [] => .error (faultAt [] (.expected mark))
  | u :: rest =>
    if u.token = t then .ok ⟨(), rest, Nat.lt_succ_self _⟩
    else .error (faultAt (u :: rest) (.expected mark))

/-- Takes an identifier. -/
def takeIdent (ts : List Located) : Except SyntaxError (Parsed Located String ts.length) :=
  match ts with
  | ⟨_, .ident name⟩ :: rest => .ok ⟨name, rest, Nat.lt_succ_self _⟩
  | ts => .error (faultAt ts .expectedIdentifier)

/-- The further segments of a dotted name, each behind a dot. -/
def parseSegments (ts : List Located) :
    Except SyntaxError (Parsed Located (List String) (ts.length + 1)) :=
  match ts with
  | ⟨_, .dot⟩ :: rest =>
    match takeIdent rest with
    | .error e => .error e
    | .ok p =>
      match parseSegments p.rest with
      | .error e => .error e
      | .ok q => .ok ⟨p.value :: q.value, q.rest, by
          have := p.shorter; have := q.shorter; simp only [List.length_cons]; omega⟩
  | ts => .ok ⟨[], ts, Nat.lt_succ_self _⟩
  termination_by ts.length
  decreasing_by have := p.shorter; simp only [List.length_cons]; omega

/-! ## Expressions -/

mutual
/-- Reads an expression. `null`, `true` and `false` are literals where an expression starts. -/
def parseExpr (ts : List Located) : Except SyntaxError (Parsed Located Expr ts.length) :=
  match ts with
  | ⟨line, .ident word⟩ :: rest =>
    if word = "null" then .ok ⟨.null, rest, Nat.lt_succ_self _⟩
    else if word = "true" ∨ word = "false" then
      .ok ⟨.bool (word = "true"), rest, Nat.lt_succ_self _⟩
    else match parseSegments rest with
      | .error e => .error e
      | .ok p =>
        match _hr : p.rest with
        | ⟨_, .openParen⟩ :: inner =>
          match parseItems .closeParen ')' inner with
          | .error e => .error e
          | .ok q => .ok ⟨.call (word :: p.value) q.value, q.rest, by
              have := p.shorter
              have := q.shorter
              have := congrArg List.length _hr
              simp only [List.length_cons] at *
              omega⟩
        | _ => .ok ⟨.path (word :: p.value), p.rest, p.shorter⟩
  | ⟨_, .str s⟩ :: rest => .ok ⟨.str s, rest, Nat.lt_succ_self _⟩
  | ⟨_, .number n⟩ :: rest => .ok ⟨.number n, rest, Nat.lt_succ_self _⟩
  | ⟨_, .openBracket⟩ :: rest =>
    match parseItems .closeBracket ']' rest with
    | .error e => .error e
    | .ok p => .ok ((p.map .array).weaken (Nat.le_succ _))
  | ⟨_, .openBrace⟩ :: rest =>
    match parseFields rest with
    | .error e => .error e
    | .ok p => .ok ((p.map .object).weaken (Nat.le_succ _))
  | ts => .error (faultAt ts .expectedExpression)
  termination_by (ts.length, 0)
  decreasing_by
    · have := p.shorter
      have := congrArg List.length _hr
      simp only [List.length_cons] at *
      simp only [Prod.lex_def]
      omega
    · simp [Prod.lex_def]
    · simp [Prod.lex_def]

/-- Reads expressions with commas between them up to `close`; a comma may follow the last one. -/
def parseItems (close : Token) (mark : Char) (ts : List Located) :
    Except SyntaxError (Parsed Located (List Expr) ts.length) :=
  match ts with
  | [] => .error (faultAt [] .expectedExpression)
  | t :: rest =>
    if t.token = close then .ok ⟨[], rest, Nat.lt_succ_self _⟩
    else match parseExpr (t :: rest) with
      | .error e => .error e
      | .ok p =>
        match _hr : p.rest with
        | ⟨_, .comma⟩ :: after =>
          match parseItems close mark after with
          | .error e => .error e
          | .ok q => .ok ⟨p.value :: q.value, q.rest, by
              have := p.shorter
              have := q.shorter
              have := congrArg List.length _hr
              simp only [List.length_cons] at *
              omega⟩
        | after =>
          if headToken after = close then
            match parseItems close mark p.rest with
            | .error e => .error e
            | .ok q => .ok ⟨p.value :: q.value, q.rest, Nat.lt_trans q.shorter p.shorter⟩
          else .error (faultAt after (.expectedSeparator mark))
  termination_by (ts.length, 1)
  decreasing_by
    · simp [Prod.lex_def]
    · have := p.shorter
      have := congrArg List.length _hr
      simp only [List.length_cons] at *
      simp only [Prod.lex_def]
      omega
    · have := p.shorter
      simp only [Prod.lex_def]
      omega

/-- Reads the fields of an object up to its closing brace; a comma may follow the last one. -/
def parseFields (ts : List Located) :
    Except SyntaxError (Parsed Located (List (String × Expr)) ts.length) :=
  match ts with
  | ⟨_, .closeBrace⟩ :: rest => .ok ⟨[], rest, Nat.lt_succ_self _⟩
  | ⟨_, .ident key⟩ :: rest => parseField key rest
  | ⟨_, .str key⟩ :: rest => parseField key rest
  | ts => .error (faultAt ts .expectedKey)
  termination_by (ts.length, 0)
  decreasing_by
    · simp [Prod.lex_def]
    · simp [Prod.lex_def]

/-- Reads the field of `key` behind its key, and the fields after it. -/
def parseField (key : String) (ts : List Located) :
    Except SyntaxError (Parsed Located (List (String × Expr)) (ts.length + 1)) :=
  match takeToken .assign '=' ts with
  | .error e => .error e
  | .ok a =>
    match parseExpr a.rest with
    | .error e => .error e
    | .ok p =>
      match _hr : p.rest with
      | ⟨_, .comma⟩ :: after =>
        match parseFields after with
        | .error e => .error e
        | .ok q => .ok ⟨(key, p.value) :: q.value, q.rest, by
            have := a.shorter
            have := p.shorter
            have := q.shorter
            have := congrArg List.length _hr
            simp only [List.length_cons] at *
            omega⟩
      | ⟨_, .closeBrace⟩ :: _ =>
        match parseFields p.rest with
        | .error e => .error e
        | .ok q => .ok ⟨(key, p.value) :: q.value, q.rest, by
            have := a.shorter
            have := p.shorter
            have := q.shorter
            omega⟩
      | after => .error (faultAt after (.expectedSeparator '}'))
  termination_by (ts.length, 0)
  decreasing_by
    · have := a.shorter
      simp only [Prod.lex_def]
      omega
    · have := a.shorter
      have := p.shorter
      have := congrArg List.length _hr
      simp only [List.length_cons] at *
      simp only [Prod.lex_def]
      omega
    · have := a.shorter
      have := p.shorter
      simp only [Prod.lex_def]
      omega
end

/-! ## Statements -/

/-- The label of a block, if one stands at the head. -/
def takeLabel (ts : List Located) : Parsed Located (Option String) (ts.length + 1) :=
  match ts with
  | ⟨_, .str s⟩ :: rest => ⟨some s, rest, by simp only [List.length_cons]; omega⟩
  | ts => ⟨none, ts, Nat.lt_succ_self _⟩

mutual
/-- Reads statements up to the end of the text when `top`, and up to a closing brace otherwise,
which is left in front. -/
def parseBody (top : Bool) (ts : List Located) :
    Except SyntaxError (Parsed Located Body (ts.length + 1)) :=
  match headToken ts with
  | .endOfText =>
    if top then .ok ⟨[], ts, Nat.lt_succ_self _⟩ else .error (faultAt ts fun _ => .openBlock)
  | .closeBrace =>
    if top then .error (faultAt ts fun _ => .strayBrace) else .ok ⟨[], ts, Nat.lt_succ_self _⟩
  | _ =>
    match parseStatement ts with
    | .error e => .error e
    | .ok p =>
      match parseBody top p.rest with
      | .error e => .error e
      | .ok q => .ok ⟨p.value :: q.value, q.rest, by
          have := p.shorter; have := q.shorter; omega⟩
  termination_by (ts.length, 1)
  decreasing_by
    · simp [Prod.lex_def]
    · have := p.shorter
      simp only [Prod.lex_def]
      omega

/-- Reads an attribute or a block. -/
def parseStatement (ts : List Located) : Except SyntaxError (Parsed Located Statement ts.length) :=
  match takeIdent ts with
  | .error e => .error e
  | .ok first =>
    match _hr : first.rest with
    | ⟨_, .assign⟩ :: rest =>
      match parseExpr rest with
      | .error e => .error e
      | .ok p => .ok ⟨.attribute first.value p.value, p.rest, by
          have := first.shorter
          have := p.shorter
          have := congrArg List.length _hr
          simp only [List.length_cons] at *
          omega⟩
    | _ =>
      match parseSegments first.rest with
      | .error e => .error e
      | .ok segments =>
        let label := takeLabel segments.rest
        match takeToken .openBrace '{' label.rest with
        | .error e => .error e
        | .ok opened =>
          match parseBody false opened.rest with
          | .error e => .error e
          | .ok body =>
            match takeToken .closeBrace '}' body.rest with
            | .error e => .error e
            | .ok closed =>
              .ok ⟨.block (first.value :: segments.value) label.value body.value, closed.rest, by
                have := first.shorter
                have := segments.shorter
                have := label.shorter
                have := opened.shorter
                have := body.shorter
                have := closed.shorter
                omega⟩
  termination_by (ts.length, 0)
  decreasing_by
    have := first.shorter
    have := segments.shorter
    have := label.shorter
    have := opened.shorter
    simp only [Prod.lex_def]
    omega
end

/-! ## Texts -/

/-- The document that a text spells. -/
def parseDocument (text : String) : Except SyntaxError Body :=
  match lex text with
  | .error e => .error e
  | .ok ts => (parseBody true ts).map Parsed.value

/-- The expression that a text spells. -/
def parseExpression (text : String) : Except SyntaxError Expr :=
  match lex text with
  | .error e => .error e
  | .ok ts =>
    match parseExpr ts with
    | .error e => .error e
    | .ok p =>
      if headToken p.rest = .endOfText then .ok p.value
      else .error (faultAt p.rest .afterExpression)

end AgentConvert
