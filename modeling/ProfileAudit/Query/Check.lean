import ProfileAudit.Query.Expr

/-!
Building the parts of a query's tree. Each part is checked when it is built from parts
that are already checked, so a tree that exists is well formed.
-/

namespace ProfileAudit.Query

/-- The label that holds the name of a metric. -/
def nameLabel : String := "__name__"

/-- A selector has one name at most, and without a name some condition that does not
hold of a missing label. -/
def Selector.checked (name : Option String) (matchers : Matchers) : Except Fault Selector :=
  match name with
  | some n =>
    match matchers.all.find? (·.label == nameLabel) with
    | some m => .error (.nameTwice n m.value)
    | none => .ok { name, matchers }
  | none =>
    if matchers.all.all (·.holds "") then .error .matchesAll else .ok { matchers }

namespace Expr

/-! ## Operators -/

def mkNegated (e : Expr) : Except Fault Expr :=
  match e with
  | .string _ => .error (.negatedLiteral .string)
  | .range _ _ => .error (.negatedLiteral .matrix)
  | .number x => .ok (.number (-x))
  | e =>
    match e.type with
    | .scalar | .vector => .ok (.negated e)
    | t => .error (.negated t)

/-- The labels of a side with several series. -/
def Cardinality.labels : Cardinality → List String
  | .oneToOne => []
  | .manyToOne labels => labels
  | .oneToMany labels => labels

/-- A label both matched on and brought over by grouping. -/
def clash? (m : BinaryModifier) : Option String :=
  match m.matching with
  | some ⟨false, labels⟩ => labels.find? (Cardinality.labels m.cardinality).contains
  | _ => none

def isGrouped (m : BinaryModifier) : Bool :=
  match m.cardinality with
  | .oneToOne => false
  | _ => true

def mkBinary (op : BinaryOp) (m : BinaryModifier) (left right : Expr) : Except Fault Expr :=
  let l := left.type
  let r := right.type
  let operand := fun (t : ValueType) => t == .scalar || t == .vector
  if m.bool && !op.isComparison then .error .boolOnArithmetic
  else if op.isComparison && l == .scalar && r == .scalar && !m.bool then
    .error .scalarComparison
  else
    match clash? m with
    | some label => .error (.labelClash label)
    | none =>
      if op.isSet && (l == .scalar || r == .scalar) then .error (.setOperatorOnScalar op.text)
      else if op.isSet && l == .vector && r == .vector && isGrouped m then
        .error (.groupingOnSetOperator op.text)
      else if !operand l || !operand r then .error .operandType
      else if (l != .vector || r != .vector) && m.matching.any (!·.labels.isEmpty) then
        .error .matchingOnScalar
      else .ok (.binary op m left right)

/-! ## Aggregations and calls -/

def mkAggregation (op : Aggregation) (grouping : Option Grouping) (arguments : List Expr) :
    Except Fault Expr :=
  let expected := if op.parameter?.isSome then 2 else 1
  match arguments with
  | [] => .error (.noArguments op.text)
  | first :: rest =>
    if arguments.length ≠ expected then .error (.aggregationArity expected arguments.length)
    else
      let body := rest.getLast?.getD first
      if body.type ≠ .vector then .error (.aggregationType .vector body.type)
      else
        match op.parameter? with
        | none => .ok (.aggregation op grouping none body)
        | some t =>
          if first.type ≠ t then .error (.aggregationType t first.type)
          else .ok (.aggregation op grouping (some first) body)

/-- Arguments that some functions take whatever their type. -/
def isExempt (name : String) (arguments : List Expr) : Bool :=
  match arguments with
  | .number x :: _ =>
    if name = "exp" then x.isNaN || x.isInf
    else if name = "ln" ∨ name = "log2" ∨ name = "log10" then
      x.isNaN || x.isInf || decide (x ≤ 0)
    else false
  | _ => false

/-- The first argument of a wrong type. Arguments beyond the parameters are of the type
of the last one. -/
def wrongArgument? (last : ValueType) : List ValueType → List Expr → Option (ValueType × ValueType)
  | _, [] => none
  | [], e :: es => if e.type = last then wrongArgument? last [] es else some (last, e.type)
  | t :: ts, e :: es => if e.type = t then wrongArgument? last ts es else some (t, e.type)

def mkCall (f : Function) (arguments : List Expr) : Except Fault Expr :=
  let expected := f.parameters.length
  let actual := arguments.length
  if !f.optional && actual ≠ expected then .error (.arity f.name expected actual)
  else if f.optional && actual < expected - 1 then
    .error (.tooFew f.name (expected - 1) actual)
  else if f.optional && !f.unbounded && actual > expected then
    .error (.tooMany f.name expected actual)
  else if isExempt f.name arguments then .ok (.call f arguments)
  else
    match wrongArgument? (f.parameters.getLast?.getD .vector) f.parameters arguments with
    | some (t, u) => .error (.argumentType f.name t u)
    | none => .ok (.call f arguments)

/-! ## Ranges, offsets and fixed times -/

def mkRange (e : Expr) (extent : Extent) : Except Fault Expr :=
  match e with
  | .selector s =>
    if s.timing.offset.isSome then .error .rangeAfterOffset
    else if s.timing.at?.isSome then .error .rangeAfterAt
    else .ok (.range s extent)
  | _ => .error .rangeOfOther

def mkSubquery (e : Expr) (extent : Extent) (step : Option Extent) : Except Fault Expr :=
  if e.type = .vector then .ok (.subquery e extent step {})
  else .error (.subqueryOfOther e.type)

/-- Changes the timing of a part that has one. -/
def withTiming (e : Expr) (other : Fault) (change : Timing → Except Fault Timing) :
    Except Fault Expr :=
  match e with
  | .selector s => (change s.timing).map fun timing => .selector { s with timing }
  | .range s extent => (change s.timing).map fun timing => .range { s with timing } extent
  | .subquery body extent step timing => (change timing).map (.subquery body extent step)
  | _ => .error other

def mkOffset (e : Expr) (offset : Offset) : Except Fault Expr :=
  e.withTiming .offsetOfOther fun t =>
    if t.offset.isSome then .error .offsetTwice else .ok { t with offset := some offset }

def mkAt (e : Expr) (time : FixedTime) : Except Fault Expr :=
  e.withTiming .atOfOther fun t =>
    if t.at?.isSome then .error .atTwice else .ok { t with at? := some time }

end Expr

/-- A fixed time is a finite number of seconds. -/
def FixedTime.ofSeconds (x : Float) : Except Fault FixedTime :=
  let largest : Float := Float.ofBits 0x7fefffffffffffff
  if x.isNaN || x.isInf || x ≥ largest || x ≤ -largest then
    .error (.timeOutOfBounds (Decimal.ofFloat x))
  else .ok (.seconds x)

end ProfileAudit.Query
