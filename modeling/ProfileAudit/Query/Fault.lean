import ProfileAudit.Text.Quoted

/-!
What can be wrong with a query, and the words for it. Faults of the text are found
before the tree is built; faults of meaning are found while it is built.
-/

namespace ProfileAudit.Query

/-- The types of the values that expressions have. -/
inductive ValueType where
  | vector | scalar | matrix | string
  deriving DecidableEq, Inhabited

def ValueType.name : ValueType → String
  | vector => "vector"
  | scalar => "scalar"
  | matrix => "matrix"
  | string => "string"

/-- The parts of a query with a reading of their own. -/
inductive Enclosure where
  | braces | brackets
  deriving DecidableEq

/-- What is wrong with a query. -/
inductive Fault where
  -- the text
  | unexpectedAfter (first c : Char)
  | unexpectedAfterBang (c : Char)
  | danglingBang
  | unexpected (c : Char)
  | danglingPoint
  | unexpectedInside (e : Enclosure) (c : Char)
  | endInside (e : Enclosure)
  | nested (e : Enclosure)
  | unexpectedParenthesis
  | unexpectedBrace
  | unexpectedBracket
  | unclosedParenthesis
  | secondColon
  | leadingColon
  | unknownEscape (c : Char)
  | openEscape
  | openString (quote : Char)
  | badNumber (text : String)
  -- the grammar
  | malformed
  | empty
  -- numbers and durations
  | integerRange (text : String)
  | floatSyntax (text : String)
  | badDuration (text : String)
  | zeroDuration
  | missingUnit
  | endInOffset
  | endInAt
  | timeOutOfBounds (text : String)
  -- label matchers
  | leadingComma
  | missingOperator (label : String)
  | unquoted (word : String)
  | repeatedOperator (op : String)
  | badPattern (value : String)
  | nameTwice (name value : String)
  | matchesAll
  -- operators
  | badGroupingLabel (label : String)
  | lonelyGrouping (side : String)
  | boolOnArithmetic
  | scalarComparison
  | labelClash (label : String)
  | setOperatorOnScalar (op : String)
  | groupingOnSetOperator (op : String)
  | operandType
  | matchingOnScalar
  | negatedLiteral (t : ValueType)
  | negated (t : ValueType)
  -- aggregations and calls
  | noArguments (op : String)
  | aggregationArity (expected actual : Nat)
  | aggregationType (expected actual : ValueType)
  | unknownFunction (name : String)
  | arity (name : String) (expected actual : Nat)
  | tooFew (name : String) (least actual : Nat)
  | tooMany (name : String) (most actual : Nat)
  | argumentType (name : String) (expected actual : ValueType)
  | trailingComma
  -- ranges, offsets and fixed times
  | rangeAfterOffset
  | rangeAfterAt
  | rangeOfOther
  | subqueryOfOther (t : ValueType)
  | offsetTwice
  | offsetOfOther
  | atTwice
  | atOfOther
  deriving Inhabited

def Enclosure.name : Enclosure → String
  | braces => "braces"
  | brackets => "brackets"

def Enclosure.opening : Enclosure → String
  | braces => "\x7b"
  | brackets => "["

/-- A character between single quotes, as it is. -/
def inQuotes (c : Char) : String := "'" ++ c.toString ++ "'"

/-- The words for a fault. -/
def Fault.message : Fault → String
  | unexpectedAfter first c => s!"unexpected character after {inQuotes first}: {inQuotes c}"
  | unexpectedAfterBang c => s!"unexpected character after '!' inside braces: {inQuotes c}"
  | danglingBang => "'!' can not be at the end"
  | unexpected c => s!"unexpected character: {Quoted.char c}"
  | danglingPoint => "unexpected character: '.'"
  | unexpectedInside e c => s!"unexpected character inside {e.name}: {inQuotes c}"
  | endInside e => s!"unexpected end of input inside {e.name}"
  | nested e => s!"unexpected left brace '{e.opening}' inside {e.name}"
  | unexpectedParenthesis => "unexpected right parenthesis ')'"
  | unexpectedBrace => "unexpected right brace '\x7d'"
  | unexpectedBracket => "unexpected right bracket ']'"
  | unclosedParenthesis => "unclosed left parenthesis"
  | secondColon => "unexpected second colon(:) in brackets"
  | leadingColon => "expect duration before first colon(:) in brackets"
  | unknownEscape c => s!"unknown escape sequence {inQuotes c}"
  | openEscape => "escape sequence not terminated"
  | openString quote => s!"unterminated quoted string {quote}"
  | badNumber text => s!"bad number or duration syntax: {text}"
  | malformed => "invalid promql query"
  | empty => "no expression found in input"
  | integerRange text => s!"ParseFloatError. {text} can't be parsed into i64"
  | floatSyntax text => s!"ParseFloatError. {text} can't be parsed into f64"
  | badDuration text => s!"not a valid duration string: {text}"
  | zeroDuration => "duration must be greater than 0"
  | missingUnit => "missing unit character in duration"
  | endInOffset => "unexpected end of input in offset, expected duration"
  | endInAt => "unexpected end of input in @, expected timestamp"
  | timeOutOfBounds text => s!"timestamp out of bounds for @ modifier: {text}"
  | leadingComma => "unexpected ',' in label matching, expected identifier or right_brace"
  | missingOperator label =>
    s!"invalid label matcher, expected label matching operator after '{label}'"
  | unquoted word => s!"unexpected identifier '{word}' in label matching, expected string"
  | repeatedOperator op => s!"unexpected '{op}' in label matching, expected string"
  | badPattern value => s!"illegal regex for {value}"
  | nameTwice name value => s!"metric name must not be set twice: '{name}' or '{value}'"
  | matchesAll => "vector selector must contain at least one non-empty matcher"
  | badGroupingLabel label => s!"{label} is not valid label in grouping opts"
  | lonelyGrouping side => s!"unexpected <{side}>"
  | boolOnArithmetic => "bool modifier can only be used on comparison operators"
  | scalarComparison => "comparisons between scalars must use BOOL modifier"
  | labelClash label => s!"label '{label}' must not occur in ON and GROUP clause at once"
  | setOperatorOnScalar op => s!"set operator '{op}' not allowed in binary scalar expression"
  | groupingOnSetOperator op => s!"no grouping allowed for '{op}' operation"
  | operandType => "binary expression must contain only scalar and instant vector types"
  | matchingOnScalar => "vector matching only allowed between vectors"
  | negatedLiteral t =>
    s!"unary expression only allowed on expressions of type scalar or vector, got: {t.name}"
  | negated t =>
    s!"unary expression only allowed on expressions of type scalar or vector, got {t.name}"
  | noArguments op => s!"no arguments for aggregate expression '{op}' provided"
  | aggregationArity expected actual =>
    s!"wrong number of arguments for aggregate expression provided, expected {expected}, got {actual}"
  | aggregationType expected actual =>
    s!"expected type {expected.name} in aggregation expression, got {actual.name}"
  | unknownFunction name => s!"unknown function with name '{name}'"
  | arity name expected actual =>
    s!"expected {expected} argument(s) in call to '{name}', got {actual}"
  | tooFew name least actual =>
    s!"expected at least {least} argument(s) in call to '{name}', got {actual}"
  | tooMany name most actual =>
    s!"expected at most {most} argument(s) in call to '{name}', got {actual}"
  | argumentType name expected actual =>
    s!"expected type {expected.name} in call to function '{name}', got {actual.name}"
  | trailingComma => "trailing commas not allowed in function call args"
  | rangeAfterOffset => "no offset modifiers allowed before range"
  | rangeAfterAt => "no @ modifiers allowed before range"
  | rangeOfOther => "ranges only allowed for vector selectors"
  | subqueryOfOther t => s!"subquery is only allowed on vector, got {t.name} instead"
  | offsetTwice => "offset may not be set multiple times"
  | offsetOfOther =>
    "offset modifier must be preceded by an vector selector or matrix selector or a subquery"
  | atTwice => "@ <timestamp> may not be set multiple times"
  | atOfOther =>
    "@ modifier must be preceded by an vector selector or matrix selector or a subquery"

end ProfileAudit.Query
