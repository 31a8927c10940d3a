import ProfileAudit.Monitor.Selector

/-!
Collection profiles. A monitor opts into a profile by a label; the default profile keeps
every metric, and other profiles keep what their monitors admit.
-/

namespace ProfileAudit

/-- The label that opts a monitor into a profile. -/
def profileLabel : String := "monitoring.openshift.io/collection-profile"

/-- The profiles. -/
inductive CollectionProfile where
  | full | minimal
  deriving DecidableEq, Inhabited

namespace CollectionProfile

def all : List CollectionProfile := [full, minimal]

def name : CollectionProfile → String
  | full => "full"
  | minimal => "minimal"

/-- The profile of a monitor that names none. -/
def default : CollectionProfile := full

def isDefault (p : CollectionProfile) : Bool := p == default

/-- The profiles besides the default one. -/
def nonDefault : List CollectionProfile := all.filter (!·.isDefault)

/-- The profile's monitors can be checked against the rules. -/
def canValidate : CollectionProfile → Bool
  | full => false
  | minimal => true

/-- A set of metrics can be derived for the profile. -/
def canExtract : CollectionProfile → Bool
  | full => false
  | minimal => true

/-- The profile of that name. -/
def ofName? (name : String) (ignoreCase : Bool) : Option CollectionProfile :=
  all.find? fun p => if ignoreCase then LetterCase.eqPlain p.name name else p.name == name

/-- The selectors for the monitors of a profile. Monitors without the label count for the
default profile if `noisy` is set. -/
def selectors (p : CollectionProfile) (label : String) (noisy : Bool) : List String :=
  labelSelectors label (some p.name) (noisy && p.isDefault)

end CollectionProfile

/-- What the operations on a profile have in common. -/
structure ProfileSettings where
  label : String := profileLabel
  reportDir : String
  noisy : Bool := false
  deriving Inhabited

end ProfileAudit
