import ProfileAudit.Monitor.Basic

/-!
Label selectors, by which the monitors of a profile are picked. The terms of one
selector must all hold, so alternatives are selectors of their own.
-/

namespace ProfileAudit

/-- The selectors for a label with a value, or with any value if none is given, and for
monitors without the label if they are wanted too. -/
def labelSelectors (label : String) (value : Option String) (includeUnlabeled : Bool) :
    List String :=
  let wanted := match value with
    | some v => label ++ "=" ++ v
    | none => label
  if includeUnlabeled then [wanted, "!" ++ label] else [wanted]

/-- What a selector says of the value of its label. -/
inductive LabelCondition where
  | absent
  | present
  | equals (value : String)
  deriving DecidableEq, Inhabited

namespace LabelCondition

/-- The label and the condition of a selector. -/
def ofText (selector : String) : String × LabelCondition :=
  match selector.toList with
  | '!' :: label => (String.ofList label, absent)
  | s =>
    match s.dropWhile (· != '=') with
    | [] => (selector, present)
    | _ :: value =>
      (String.ofList (s.takeWhile (· != '=')), equals (String.ofList value))

def holds : LabelCondition → Option String → Bool
  | absent, value => value.isNone
  | present, value => value.isSome
  | equals v, value => value == some v

end LabelCondition

/-- The monitors of a kind that a selector picks, in their order. -/
def Monitor.selected (monitors : List Monitor) (kind : MonitorKind) (selector : String) :
    List Monitor :=
  monitors.filter fun m =>
    m.kind == kind && (LabelCondition.ofText selector).2.holds m.profile

end ProfileAudit
