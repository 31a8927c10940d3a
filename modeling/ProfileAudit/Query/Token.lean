import ProfileAudit.Query.Fault

/-!
The tokens of a query. The text is read from left to right; inside braces and inside
brackets it is read by rules of their own, and parentheses must pair before the
grammar is looked at.
-/

namespace ProfileAudit.Query

/-- Binary operators. -/
inductive BinaryOp where
  | or | and | butNot
  | equal | notEqual | less | lessEqual | greater | greaterEqual
  | add | subtract
  | multiply | divide | modulo | atan2
  | power
  deriving DecidableEq, Inhabited

namespace BinaryOp

/-- How an operator is written. -/
def text : BinaryOp → String
  | or => "or" | and => "and" | butNot => "unless"
  | equal => "==" | notEqual => "!=" | less => "<" | lessEqual => "<="
  | greater => ">" | greaterEqual => ">="
  | add => "+" | subtract => "-"
  | multiply => "*" | divide => "/" | modulo => "%" | atan2 => "atan2"
  | power => "^"

/-- A higher operator binds tighter. -/
def precedence : BinaryOp → Nat
  | or => 1
  | and | butNot => 2
  | equal | notEqual | less | lessEqual | greater | greaterEqual => 3
  | add | subtract => 4
  | multiply | divide | modulo | atan2 => 5
  | power => 6

/-- The least precedence of an operator inside the right operand: only powers group to
the right. -/
def rightPrecedence (op : BinaryOp) : Nat :=
  match op with
  | power => 6
  | op => op.precedence + 1

def isComparison : BinaryOp → Bool
  | equal | notEqual | less | lessEqual | greater | greaterEqual => true
  | _ => false

def isSet : BinaryOp → Bool
  | or | and | butNot => true
  | _ => false

end BinaryOp

/-- Ways to sum up a vector. -/
inductive Aggregation where
  | sum | avg | count | min | max | group | stddev | stdvar
  | topk | bottomk | countValues | quantile
  deriving DecidableEq, Inhabited

namespace Aggregation

def text : Aggregation → String
  | sum => "sum" | avg => "avg" | count => "count" | min => "min" | max => "max"
  | group => "group" | stddev => "stddev" | stdvar => "stdvar" | topk => "topk"
  | bottomk => "bottomk" | countValues => "count_values" | quantile => "quantile"

/-- The type of the parameter before the body, for those that have one. -/
def parameter? : Aggregation → Option ValueType
  | topk | bottomk | quantile => some .scalar
  | countValues => some .string
  | _ => none

end Aggregation

/-- Words with a meaning of their own. -/
inductive Keyword where
  | operator (op : BinaryOp)
  | aggregation (a : Aggregation)
  | offset | by | without | on | ignoring | groupLeft | groupRight | bool | start | finish
  deriving DecidableEq, Inhabited

/-- The keywords by their lower-case text. -/
def Keyword.table : List (String × Keyword) := [
  ("and", .operator .and), ("or", .operator .or), ("unless", .operator .butNot),
  ("atan2", .operator .atan2),
  ("sum", .aggregation .sum), ("avg", .aggregation .avg), ("count", .aggregation .count),
  ("min", .aggregation .min), ("max", .aggregation .max), ("group", .aggregation .group),
  ("stddev", .aggregation .stddev), ("stdvar", .aggregation .stdvar),
  ("topk", .aggregation .topk), ("bottomk", .aggregation .bottomk),
  ("count_values", .aggregation .countValues), ("quantile", .aggregation .quantile),
  ("offset", .offset), ("by", .by), ("without", .without), ("on", .on),
  ("ignoring", .ignoring), ("group_left", .groupLeft), ("group_right", .groupRight),
  ("bool", .bool), ("start", .start), ("end", .finish)]

/-- Marks other than operators. -/
inductive Mark where
  | assign | matchPattern | noMatchPattern | at | comma | colon
  | openParen | closeParen | openBrace | closeBrace | openBracket | closeBracket
  deriving DecidableEq, Inhabited

/-- A token of a query. Words keep the case they were written in. -/
inductive Token where
  | word (text : String)
  /-- A name with a colon. -/
  | metric (text : String)
  | keyword (k : Keyword) (text : String)
  | operator (op : BinaryOp)
  | mark (m : Mark)
  | number (text : String)
  | duration (text : String)
  | string (value : String)
  | finish
  deriving DecidableEq, Inhabited

/-! ## Characters -/

/-- Plain letters and the underscore. -/
def isAlpha (c : Char) : Bool := c.isAlpha || c == '_'

def isAlphanumeric (c : Char) : Bool := isAlpha c || c.isDigit

def isSpace (c : Char) : Bool :=
  c == ' ' || c == '\t' || c == '\n' || c == '\x0c' || c == '\r'

/-- Characters of names outside braces. -/
def isNameStart (c : Char) : Bool := isAlpha c || c == ':'

def isNameChar (c : Char) : Bool := isAlphanumeric c || c == ':'

/-- The token of a name outside braces. -/
def Token.ofName (name : List Char) : Token :=
  let text := String.ofList name
  let lower := String.ofList (name.map Char.toLower)
  match Keyword.table.lookup lower with
  | some k => .keyword k text
  | none =>
    if lower = "inf" ∨ lower = "nan" then .number text
    else if name.contains ':' then .metric text
    else .word text

/-! ## Numbers and strings -/

/-- Takes one character if it is of the given kind. -/
def accept (p : Char → Bool) : List Char → Bool × List Char
  | c :: s => if p c then (true, s) else (false, c :: s)
  | [] => (false, [])

/-- What follows a number at the start of a text. -/
def afterNumber (s : List Char) : List Char :=
  let s := match s with
    | '0' :: c :: rest =>
      if c = 'x' ∨ c = 'X' then
        rest.dropWhile fun (c : Char) => c.isDigit || ('a' ≤ c ∧ c ≤ 'f') || ('A' ≤ c ∧ c ≤ 'F')
      else s
    | s => s
  let s := s.dropWhile Char.isDigit
  let s := match s with
    | '.' :: rest => rest.dropWhile Char.isDigit
    | s => s
  let (power, s) := accept (fun c => c == 'e' || c == 'E') s
  if power then (accept (fun c => c == '+' || c == '-') s).2.dropWhile Char.isDigit else s

/-- What follows further parts of a duration, or the text from the failing place on.
`fuel` is at least the length of the text. -/
def afterDurationParts : Nat → List Char → Except (List Char) (List Char)
  | 0, s => .error s
  | fuel + 1, s =>
    let digits := s.takeWhile Char.isDigit
    let rest := s.dropWhile Char.isDigit
    if digits.isEmpty then
      if rest.head?.any isAlphanumeric then .error rest else .ok rest
    else
      match accept (fun c => "smhdw".toList.contains c) rest with
      | (false, rest) => .error rest
      | (true, rest) => afterDurationParts fuel (accept (· == 's') rest).2

/-- What follows the unit of a duration's first number. -/
def afterDuration (s : List Char) : Except (List Char) (List Char) :=
  match accept (fun c => "smhdwy".toList.contains c) s with
  | (false, s) => .error s
  | (true, s) =>
    let s := (accept (· == 's') s).2
    afterDurationParts s.length.succ s

/-- The part of `s` before its end `rest`. -/
def upTo (s rest : List Char) : String := String.ofList (s.take (s.length - rest.length))

/-- Reads a number or a duration. The complaint shows the text up to the character that
fails. -/
def scanNumber (s : List Char) : Except Fault (Token × List Char) :=
  let rest := afterNumber s
  if !(rest.head?.any fun c => isAlpha c || c == '.') then .ok (.number (upTo s rest), rest)
  else
    match afterDuration rest with
    | .ok rest => .ok (.duration (upTo s rest), rest)
    | .error rest => .error (.badNumber (upTo s (rest.drop 1)))

/-- Characters that may follow a backslash inside a string, besides the quote. -/
def isEscape (c : Char) : Bool := "abfnrtv\\01234567xuU".toList.contains c

/-- Reads a string to its closing quote; escapes are checked and kept. -/
def scanString (quote : Char) : List Char → Except Fault (List Char × List Char)
  | [] => .error (.openString quote)
  | c :: s =>
    if c = quote then .ok ([], s)
    else if c = '\\' then
      match s with
      | [] => .error .openEscape
      | e :: rest =>
        if e = quote ∨ isEscape e = true then do
          let (cs, rest) ← scanString quote rest
          return (c :: e :: cs, rest)
        else .error (.unknownEscape e)
    else do
      let (cs, rest) ← scanString quote s
      return (c :: cs, rest)

/-! ## The three readings -/

/-- Where in a query its text is being read. -/
inductive Place where
  | outside
  | inBraces
  /-- In brackets: at their very start, and with a colon seen. -/
  | inBrackets (first colon : Bool)
  deriving DecidableEq, Inhabited

/-- The place and the number of parentheses that are open. -/
structure Scan where
  place : Place := .outside
  parens : Nat := 0
  deriving DecidableEq, Inhabited

/-- What one step of reading finds: a token or nothing, and the text that follows. -/
structure Found where
  token : Option Token
  scan : Scan
  rest : List Char

/-- The text after a comment. -/
def afterComment (s : List Char) : List Char := s.dropWhile fun c => c != '\n' && c != '\r'

/-- Reads at `c :: s` outside braces and brackets. -/
def scanOutside (st : Scan) (c : Char) (s : List Char) : Except Fault Found :=
  let found := fun (t : Token) (rest : List Char) => Except.ok ⟨some t, st, rest⟩
  let operator := fun (op : BinaryOp) (rest : List Char) => found (.operator op) rest
  match c, s with
  | '#', s => .ok ⟨none, st, afterComment s⟩
  | '@', s => found (.mark .at) s
  | ',', s => found (.mark .comma) s
  | '*', s => operator .multiply s
  | '/', s => operator .divide s
  | '%', s => operator .modulo s
  | '+', s => operator .add s
  | '-', s => operator .subtract s
  | '^', s => operator .power s
  | '=', '=' :: s => operator .equal s
  | '=', '~' :: _ => .error (.unexpectedAfter '=' '~')
  | '=', s => found (.mark .assign) s
  | '!', '=' :: s => operator .notEqual s
  | '!', d :: _ => .error (.unexpectedAfter '!' d)
  | '!', [] => .error .danglingBang
  | '<', '=' :: s => operator .lessEqual s
  | '<', s => operator .less s
  | '>', '=' :: s => operator .greaterEqual s
  | '>', s => operator .greater s
  | '(', s => .ok ⟨some (.mark .openParen), { st with parens := st.parens + 1 }, s⟩
  | ')', s =>
    if st.parens = 0 then .error .unexpectedParenthesis
    else .ok ⟨some (.mark .closeParen), { st with parens := st.parens - 1 }, s⟩
  | '\x7b', s => .ok ⟨some (.mark .openBrace), { st with place := .inBraces }, s⟩
  | '\x7d', _ => .error .unexpectedBrace
  | '[', s =>
    .ok ⟨some (.mark .openBracket), { st with place := .inBrackets true false }, s⟩
  | ']', _ => .error .unexpectedBracket
  | '.', d :: s =>
    if d.isDigit then
      (scanNumber ('.' :: d :: s)).map fun (t, rest) => ⟨some t, st, rest⟩
    else .error (.unexpectedAfter '.' d)
  | '.', [] => .error .danglingPoint
  | c, s =>
    if isSpace c then .ok ⟨none, st, s⟩
    else if c = '"' ∨ c = '\x27' ∨ c = '\x60' then
      (scanString c s).map fun (value, rest) => ⟨some (.string (String.ofList value)), st, rest⟩
    else if c.isDigit then
      (scanNumber (c :: s)).map fun (t, rest) => ⟨some t, st, rest⟩
    else if isNameStart c then
      found (.ofName (c :: s.takeWhile isNameChar)) (s.dropWhile isNameChar)
    else .error (.unexpected c)

/-- Reads at `c :: s` inside braces. -/
def scanInBraces (st : Scan) (c : Char) (s : List Char) : Except Fault Found :=
  let found := fun (t : Token) (rest : List Char) => Except.ok ⟨some t, st, rest⟩
  match c, s with
  | '#', s => .ok ⟨none, st, afterComment s⟩
  | ',', s => found (.mark .comma) s
  | '=', '~' :: s => found (.mark .matchPattern) s
  | '=', s => found (.mark .assign) s
  | '!', '=' :: s => found (.operator .notEqual) s
  | '!', '~' :: s => found (.mark .noMatchPattern) s
  | '!', d :: _ => .error (.unexpectedAfterBang d)
  | '!', [] => .error .danglingBang
  | '\x7b', _ => .error (.nested .braces)
  | '\x7d', s => .ok ⟨some (.mark .closeBrace), { st with place := .outside }, s⟩
  | c, s =>
    if isSpace c then .ok ⟨none, st, s⟩
    else if c = '"' ∨ c = '\x27' ∨ c = '\x60' then
      (scanString c s).map fun (value, rest) => ⟨some (.string (String.ofList value)), st, rest⟩
    else if isAlpha c then
      match c, s with
      | 'o', 'r' :: d :: rest | 'o', 'R' :: d :: rest
      | 'O', 'r' :: d :: rest | 'O', 'R' :: d :: rest =>
        if isSpace d then
          found (.keyword (.operator .or) (String.ofList (c :: s.take 1))) (d :: rest)
        else label c s
      | _, _ => label c s
    else .error (.unexpectedInside .braces c)
where
  /-- The name of a label, which is never a keyword. -/
  label (c : Char) (s : List Char) : Except Fault Found :=
    .ok ⟨some (.word (String.ofList (c :: s.takeWhile isAlphanumeric))), st,
      s.dropWhile isAlphanumeric⟩

/-- Reads at `c :: s` inside brackets. -/
def scanInBrackets (st : Scan) (first colon : Bool) (c : Char) (s : List Char) :
    Except Fault Found :=
  let place := fun (colon : Bool) => { st with place := .inBrackets false colon }
  if isSpace c then .ok ⟨none, place colon, s⟩
  else if c = ':' then
    if colon then .error .secondColon
    else if first then .error .leadingColon
    else .ok ⟨some (.mark .colon), place true, s⟩
  else if c.isDigit then
    (scanNumber (c :: s)).map fun (t, rest) => ⟨some t, place colon, rest⟩
  else if c = ']' then .ok ⟨some (.mark .closeBracket), { st with place := .outside }, s⟩
  else if c = '[' then .error (.nested .brackets)
  else .error (.unexpectedInside .brackets c)

/-- Reads at `c :: s`. -/
def scanAt (st : Scan) (c : Char) (s : List Char) : Except Fault Found :=
  match st.place with
  | .outside => scanOutside st c s
  | .inBraces => scanInBraces st c s
  | .inBrackets first colon => scanInBrackets st first colon c s

/-- What the end of the text means. -/
def Scan.finish (st : Scan) : Except Fault (List Token) :=
  match st.place with
  | .inBraces => .error (.endInside .braces)
  | .inBrackets _ _ => .error (.endInside .brackets)
  | .outside => if st.parens = 0 then .ok [.finish] else .error .unclosedParenthesis

/-- Reads the tokens of a text from some place on. -/
def scanFrom (st : Scan) (s : List Char) : Except Fault (List Token) :=
  match s with
  | [] => st.finish
  | c :: t =>
    match scanAt st c t with
    | .error e => .error e
    | .ok found =>
      if found.rest.length < t.length + 1 then
        match scanFrom found.scan found.rest with
        | .error e => .error e
        | .ok tokens => .ok (found.token.toList ++ tokens)
      else .error .malformed
termination_by s.length

/-- The tokens of a query, with a last one for its end. -/
def Token.ofText (text : String) : Except Fault (List Token) := scanFrom {} text.toList

end ProfileAudit.Query
