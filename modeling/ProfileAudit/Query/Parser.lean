import ProfileAudit.Query.Check

/-!
The grammar of queries. A text that fits the grammar has a tree or a fault of meaning,
the first one in the order in which the parts are built; a text that does not fit is
malformed, whatever else is wrong with it.
-/

namespace ProfileAudit.Query

/-- A part of a query that fits the grammar, and the tokens after it. -/
structure Parsed (α : Type) where
  value : Except Fault α
  rest : List Token

namespace Parsed

def map {α β : Type} (p : Parsed α) (f : α → β) : Parsed β := ⟨p.value.map f, p.rest⟩

end Parsed

/-! ## Labels and matchers -/

/-- The label that a token gives in a grouping. -/
def groupingLabel? : Token → Option (Except Fault String)
  | .word text => some (.ok text)
  | .metric text => some (.error (.badGroupingLabel text))
  | .keyword .without _ => none
  | .keyword _ text => some (.ok text)
  | _ => none

/-- Reads the labels of a grouping after its first one. -/
def moreLabels (labels : Except Fault (List String)) : List Token → Option (Parsed (List String))
  | .mark .closeParen :: ts => some ⟨labels, ts⟩
  | .mark .comma :: .mark .closeParen :: ts => some ⟨labels, ts⟩
  | .mark .comma :: t :: ts => do
    let label ← groupingLabel? t
    moreLabels (do return (← labels) ++ [← label]) ts
  | _ => none

/-- Reads the labels of a grouping with their parentheses. -/
def groupingLabels : List Token → Option (Parsed (List String))
  | .mark .openParen :: .mark .closeParen :: ts => some ⟨.ok [], ts⟩
  | .mark .openParen :: t :: ts => do
    let label ← groupingLabel? t
    moreLabels (label.map fun l => [l]) ts
  | _ => none

/-- The written form of a token that compares a label with a value. -/
def matchOpText? : Token → Option String
  | .mark .assign => some "="
  | .operator .notEqual => some "!="
  | .mark .matchPattern => some "=~"
  | .mark .noMatchPattern => some "!~"
  | _ => none

/-- The matcher of a label, a comparison and a value. -/
def mkMatcher (label op value : String) : Except Fault Matcher :=
  match op with
  | "!=" => .ok ⟨label, .notEqual, value⟩
  | "=~" => Matcher.ofPattern label value .pattern
  | "!~" => Matcher.ofPattern label value .notPattern
  | _ => .ok ⟨label, .equal, value⟩

/-- Reads one matcher. -/
def matcher : List Token → Option (Parsed Matcher)
  | .word label :: ts =>
    match ts with
    | t :: ts' =>
      match matchOpText? t with
      | none => some ⟨.error (.missingOperator label), ts⟩
      | some op =>
        match ts' with
        | .string value :: rest => some ⟨mkMatcher label op value, rest⟩
        | .word w :: rest => some ⟨.error (.unquoted w), rest⟩
        | t' :: rest =>
          match matchOpText? t' with
          | none => none
          | some op' =>
            match rest with
            | .string _ :: rest => some ⟨.error (.repeatedOperator op'), rest⟩
            | .word _ :: rest => some ⟨.error (.repeatedOperator op'), rest⟩
            | rest => some ⟨.error (.repeatedOperator op'), rest⟩
        | [] => none
    | [] => none
  | _ => none

/-- Reads the matchers after the first one, up to the closing brace. `fuel` is at least
the number of tokens. -/
def moreMatchers : Nat → Except Fault Matchers → List Token → Option (Parsed Matchers)
  | 0, _, _ => none
  | fuel + 1, ms, ts =>
    match ts with
    | .mark .closeBrace :: ts => some ⟨ms, ts⟩
    | .mark .comma :: .mark .closeBrace :: ts => some ⟨ms, ts⟩
    | .mark .comma :: ts => do
      let m ← matcher ts
      moreMatchers fuel (do return (← ms).append (← m.value)) m.rest
    | .keyword (.operator .or) _ :: ts => do
      let m ← matcher ts
      moreMatchers fuel (do return (← ms).appendOr (← m.value)) m.rest
    | _ => none

/-- Reads matchers after their opening brace. -/
def matchers (ts : List Token) : Option (Parsed Matchers) :=
  match ts with
  | .mark .closeBrace :: ts => some ⟨.ok {}, ts⟩
  | .mark .comma :: .mark .closeBrace :: ts => some ⟨.error .leadingComma, ts⟩
  | ts => do
    let m ← matcher ts
    moreMatchers ts.length.succ (m.value.map fun m => Matchers.append {} m) m.rest

/-! ## Modifiers -/

/-- Reads the side of a binary operation that may have several series. -/
def groupingSide (labels : List Token → Option (Parsed (List String)))
    (modifier : Except Fault BinaryModifier) (side : List String → Cardinality)
    (ts : List Token) : Option (Parsed BinaryModifier) :=
  match ts with
  | .mark .openParen :: _ => do
    let l ← labels ts
    return ⟨do return { ← modifier with cardinality := side (← l.value) }, l.rest⟩
  | ts => some ⟨modifier.map fun m => { m with cardinality := side [] }, ts⟩

/-- Reads what may follow the labels of a matching. -/
def afterMatching (modifier : Except Fault BinaryModifier) (ts : List Token) :
    Option (Parsed BinaryModifier) :=
  match ts with
  | .keyword .groupLeft _ :: ts => groupingSide groupingLabels modifier .manyToOne ts
  | .keyword .groupRight _ :: ts => groupingSide groupingLabels modifier .oneToMany ts
  | ts => some ⟨modifier, ts⟩

/-- Reads the labels of a matching. -/
def matching (bool ignoring : Bool) (ts : List Token) : Option (Parsed BinaryModifier) := do
  let l ← groupingLabels ts
  afterMatching (l.value.map fun labels => { bool, matching := some ⟨ignoring, labels⟩ }) l.rest

/-- Reads what stands between a binary operator and its right operand. -/
def binaryModifier (ts : List Token) : Option (Parsed BinaryModifier) :=
  match ts with
  | .keyword .bool _ :: .keyword .on _ :: ts => matching true false ts
  | .keyword .bool _ :: .keyword .ignoring _ :: ts => matching true true ts
  | .keyword .bool _ :: ts => some ⟨.ok { bool := true }, ts⟩
  | .keyword .on _ :: ts => matching false false ts
  | .keyword .ignoring _ :: ts => matching false true ts
  | .keyword .groupLeft _ :: ts => do
    let l ← groupingLabels ts
    return ⟨do let _ ← l.value; .error (.lonelyGrouping "group_left"), l.rest⟩
  | .keyword .groupRight _ :: ts => do
    let l ← groupingLabels ts
    return ⟨do let _ ← l.value; .error (.lonelyGrouping "group_right"), l.rest⟩
  | ts => some ⟨.ok {}, ts⟩

/-- Reads the labels of an aggregation, if they stand here. -/
def grouping? (ts : List Token) : Option (Option (Parsed Grouping)) :=
  match ts with
  | .keyword .by _ :: ts => (groupingLabels ts).map fun l => some (l.map (⟨false, ·⟩))
  | .keyword .without _ :: ts => (groupingLabels ts).map fun l => some (l.map (⟨true, ·⟩))
  | _ => some none

/-! ## Expressions -/

/-- The binary operator that a token is. -/
def Token.operator? : Token → Option BinaryOp
  | .operator op => some op
  | .keyword (.operator op) _ => some op
  | _ => none

/-- The name of a metric that a token is where an operand is expected. -/
def Token.metricName? : Token → Option String
  | .word text => some text
  | .metric text => some text
  | .keyword (.aggregation _) text => some text
  | .keyword (.operator .atan2) _ => none
  | .keyword (.operator _) text => some text
  | .keyword .by text => some text
  | .keyword .without text => some text
  | .keyword .offset text => some text
  | .keyword .start text => some text
  | .keyword .finish text => some text
  | _ => none

/-- Builds a selector. -/
def selector (name : Option String) (matchers : Parsed Matchers) : Parsed Expr :=
  ⟨do return .selector (← Selector.checked name (← matchers.value)), matchers.rest⟩

/-- Reads a sign before a number. -/
def signed : List Token → Bool × List Token
  | .operator .add :: ts => (false, ts)
  | .operator .subtract :: ts => (true, ts)
  | ts => (false, ts)

/-- Reads an offset after its keyword. -/
def offset (left : Except Fault Expr) (ts : List Token) : Option (Parsed Expr) :=
  match ts with
  | .finish :: ts => some ⟨.error .endInOffset, ts⟩
  | ts =>
    let (minus, ts) := signed ts
    match ts with
    | [] => none
    | t :: ts => do
      let extent ← t.extent?
      return ⟨do (← left).mkOffset ⟨!minus, ← extent⟩, ts⟩

/-- Reads a fixed time after its mark. -/
def fixedTime (left : Except Fault Expr) (ts : List Token) : Option (Parsed Expr) :=
  match ts with
  | .finish :: ts => some ⟨.error .endInAt, ts⟩
  | .keyword .start _ :: .mark .openParen :: .mark .closeParen :: ts =>
    some ⟨do (← left).mkAt .start, ts⟩
  | .keyword .finish _ :: .mark .openParen :: .mark .closeParen :: ts =>
    some ⟨do (← left).mkAt .finish, ts⟩
  | ts =>
    let (minus, ts) := signed ts
    match ts with
    | [] => none
    | t :: ts => do
      let x ← t.number?
      return ⟨do
        let e ← left
        let x ← x
        e.mkAt (← FixedTime.ofSeconds (if minus then -x else x)), ts⟩

/-- Reads a range or a subquery after its bracket. -/
def range (left : Except Fault Expr) (ts : List Token) : Option (Parsed Expr) :=
  match ts with
  | .mark .closeBracket :: ts => some ⟨.error .missingUnit, ts⟩
  | t :: ts => do
    let extent ← t.extent?
    match ts with
    | .mark .closeBracket :: ts => some ⟨do (← left).mkRange (← extent), ts⟩
    | .mark .colon :: .mark .closeBracket :: ts =>
      some ⟨do (← left).mkSubquery (← extent) none, ts⟩
    | .mark .colon :: t :: .mark .closeBracket :: ts => do
      let step ← t.extent?
      some ⟨do (← left).mkSubquery (← extent) (some (← step)), ts⟩
    | _ => none
  | [] => none

mutual

/-- Reads an expression whose operators bind at least as tight as `least`. -/
def expression : Nat → Nat → List Token → Option (Parsed Expr)
  | 0, _, _ => none
  | fuel + 1, least, ts => do
    let e ← operand fuel ts
    afterOperand fuel least e

/-- Reads what may follow an expression. -/
def afterOperand : Nat → Nat → Parsed Expr → Option (Parsed Expr)
  | 0, _, _ => none
  | fuel + 1, least, e =>
    match e.rest with
    | .keyword .offset _ :: ts => do afterOperand fuel least (← offset e.value ts)
    | .mark .at :: ts => do afterOperand fuel least (← fixedTime e.value ts)
    | .mark .openBracket :: ts => do afterOperand fuel least (← range e.value ts)
    | t :: ts =>
      match t.operator? with
      | none => some e
      | some op =>
        if op.precedence < least then some e
        else do
          let m ← binaryModifier ts
          let r ← expression fuel op.rightPrecedence m.rest
          afterOperand fuel least
            ⟨do
              let left ← e.value
              let modifier ← m.value
              Expr.mkBinary op modifier left (← r.value), r.rest⟩
    | [] => some e

/-- Reads an expression without operators after it. -/
def operand : Nat → List Token → Option (Parsed Expr)
  | 0, _ => none
  | fuel + 1, ts =>
    match ts with
    | .operator .add :: ts => expression fuel BinaryOp.power.precedence ts
    | .operator .subtract :: ts => do
      let e ← expression fuel BinaryOp.power.precedence ts
      return ⟨do (← e.value).mkNegated, e.rest⟩
    | .number text :: ts => some ⟨(number text).map .number, ts⟩
    | .duration text :: ts => some ⟨(duration text).map fun d => .number d.toSeconds, ts⟩
    | .string value :: ts => some ⟨.ok (.string value), ts⟩
    | .mark .openParen :: ts => do
      let e ← expression fuel 0 ts
      match e.rest with
      | .mark .closeParen :: ts => return ⟨e.value.map .paren, ts⟩
      | _ => none
    | .mark .openBrace :: ts => do return selector none (← matchers ts)
    | .word name :: .mark .openParen :: ts => do
      let args ← arguments fuel ts
      return ⟨match Function.find? name with
        | none => .error (.unknownFunction name)
        | some f => do Expr.mkCall f (← args.value), args.rest⟩
    | .keyword (.aggregation op) _ :: .mark .openParen :: ts => do
      let args ← arguments fuel ts
      match ← grouping? args.rest with
      | none => return ⟨do Expr.mkAggregation op none (← args.value), args.rest⟩
      | some g =>
        return ⟨do
          let grouping ← g.value
          Expr.mkAggregation op (some grouping) (← args.value), g.rest⟩
    | .keyword (.aggregation op) name :: ts => do
      match ← grouping? ts with
      | some g =>
        match g.rest with
        | .mark .openParen :: ts => do
          let args ← arguments fuel ts
          return ⟨do
            let grouping ← g.value
            Expr.mkAggregation op (some grouping) (← args.value), args.rest⟩
        | _ => none
      | none => named fuel name ts
    | t :: ts => do named fuel (← t.metricName?) ts
    | [] => none

/-- Reads what may follow the name of a metric. -/
def named : Nat → String → List Token → Option (Parsed Expr)
  | 0, _, _ => none
  | _ + 1, name, ts =>
    match ts with
    | .mark .openBrace :: ts => do return selector (some name) (← matchers ts)
    | .mark .openParen :: _ => none
    | ts => some (selector (some name) ⟨.ok {}, ts⟩)

/-- Reads arguments after their opening parenthesis. -/
def arguments : Nat → List Token → Option (Parsed (List Expr))
  | 0, _ => none
  | fuel + 1, ts =>
    match ts with
    | .mark .closeParen :: ts => some ⟨.ok [], ts⟩
    | ts => do
      let e ← expression fuel 0 ts
      moreArguments fuel (e.map fun e => [e])

/-- Reads the arguments after the first one. A comma with no argument after it hides
every fault before it. -/
def moreArguments : Nat → Parsed (List Expr) → Option (Parsed (List Expr))
  | 0, _ => none
  | fuel + 1, es =>
    match es.rest with
    | .mark .closeParen :: ts => some ⟨es.value, ts⟩
    | .mark .comma :: ts =>
      match ts with
      | .mark .comma :: _ => moreArguments fuel ⟨.error .trailingComma, ts⟩
      | .mark .closeParen :: _ => moreArguments fuel ⟨.error .trailingComma, ts⟩
      | ts => do
        let e ← expression fuel 0 ts
        moreArguments fuel ⟨do return (← es.value) ++ [← e.value], e.rest⟩
    | _ => none

end

/-- The tree of a list of tokens. No rule is entered more than three times before a
token is taken. -/
def Expr.ofTokens (ts : List Token) : Except Fault Expr :=
  match ts with
  | [.finish] => .error .empty
  | ts =>
    match expression (4 * ts.length + 4) 0 ts with
    | none => .error .malformed
    | some e =>
      match e.rest with
      | [] => e.value
      | [.finish] => e.value
      | _ => .error .malformed

/-- The tree of a query. -/
def Expr.ofText (query : String) : Except Fault Expr := do
  Expr.ofTokens (← Token.ofText query)

end ProfileAudit.Query
