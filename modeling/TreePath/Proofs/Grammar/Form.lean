import TreePath.Proofs.Grammar.Call
import TreePath.Registry
import Mathlib.Data.List.Forall2

/-!
# The grammar of commands

Commands as they are written: what a command consists of, the text of each piece, and which
pieces are accepted. A name has to be that of a built-in handler of its role, and arguments have
to be balanced and such as the handler takes. Nothing here refers to how a text is read.
-/

namespace TreePath.Grammar

/-- Arguments that are absent or blank. -/
def Vacant (arguments : Option (List Char)) : Prop :=
  ∀ text ∈ arguments, Text.isBlank text

/-- The names of the built-in handlers by role, each with the arguments it takes. -/
inductive Takes : Role → String → Option (List Char) → Prop where
  | bareSelect {name arguments} (known : name ∈ ["last", "each", "eachr"])
      (vacant : Vacant arguments) : Takes .select name arguments
  | matching {text p} (present : ¬ Text.isBlank text)
      (compiles : Pattern.ofText (Pattern.anchoredText (String.ofList text)) = .ok p) :
      Takes .select "match" (some text)
  | isEmpty {arguments} (vacant : Vacant arguments) : Takes .predicate "isEmpty" arguments
  | textPredicate {name text} (known : name ∈ ["containsKey", "containsValue"])
      (present : ¬ Text.isBlank text) : Takes .predicate name (some text)
  | equalTo {text} (present : ¬ Text.isBlank text) (comma : ',' ∈ text) :
      Takes .predicate "eq" (some text)
  | bareOperation {name arguments} (known : name ∈ ["unset", "clear"])
      (vacant : Vacant arguments) : Takes .operation name arguments
  | valueOperation {name text v}
      (known : name ∈ ["set", "setIfAbsent", "append", "appendIfAbsent"])
      (present : ¬ Text.isBlank text) (decodes : Literal.decode (String.ofList text) = .ok v) :
      Takes .operation name (some text)
  | times {text} {x : Binary .double} (present : ¬ Text.isBlank text)
      (number : Decimal.read? (Text.trim text) = some x) : Takes .operation "times" (some text)

/-- A position: decimal digits, behind a plus sign or not, of a number below `2 ^ 64`. -/
def IsPosition (text : List Char) : Prop :=
  ∃ digits, (text = digits ∨ text = '+' :: digits) ∧ digits ≠ [] ∧ (∀ c ∈ digits, c.isDigit) ∧
    Nat.ofDigitChars 10 digits 0 < Nat.pow 2 64

/-- A name: a letter or an underscore, then letters, digits and underscores, all of them ASCII. -/
def IsName (text : List Char) : Prop :=
  ∃ c rest, text = c :: rest ∧ (c.isAlpha ∨ c = '_') ∧ ∀ d ∈ rest, d.isAlphanum ∨ d = '_'

/-- A call of a built-in handler with arguments it takes. -/
def Call.Accepted (role : Role) (c : Call) : Prop :=
  Takes role (String.ofList c.name) c.arguments ∧ ∀ arguments ∈ c.arguments, Balanced arguments

/-- A select as it is written: a bare key, or a call behind a colon. -/
inductive SelectForm where
  | bare (key : List Char)
  | named (call : Call)

namespace SelectForm

def text : SelectForm → List Char
  | bare key => key
  | named call => ':' :: call.text

def Accepted : SelectForm → Prop
  | bare key => IsPosition key ∨ IsName key
  | named call => call.Accepted .select

end SelectForm

/-- A predicate as it is written: a call, behind a tilde if it is negated. -/
structure PredicateForm where
  negated : Bool
  call : Call

namespace PredicateForm

/-- The name under which the predicate or its negation is known. -/
def name (p : PredicateForm) : List Char :=
  if p.negated then '~' :: p.call.name else p.call.name

def text (p : PredicateForm) : List Char :=
  if p.negated then '~' :: p.call.text else p.call.text

def Accepted (p : PredicateForm) : Prop := p.call.Accepted .predicate

end PredicateForm

/-- A segment as it is written. -/
structure SegmentForm where
  select : SelectForm
  predicate : Option PredicateForm

namespace SegmentForm

def text (s : SegmentForm) : List Char :=
  s.select.text ++
    match s.predicate with
    | none => []
    | some p => '#' :: p.text

def Accepted (s : SegmentForm) : Prop :=
  s.select.Accepted ∧ ∀ p ∈ s.predicate, p.Accepted

end SegmentForm

/-- A command as it is written. -/
structure CommandForm where
  segments : List SegmentForm
  operation : Option Call

namespace CommandForm

/-- The text of the path: two slashes, and the segments with slashes between them. -/
def pathText (c : CommandForm) : List Char :=
  '/' :: c.segments.flatMap fun s => '/' :: s.text

def text (c : CommandForm) : List Char :=
  c.pathText ++
    match c.operation with
    | none => []
    | some operation => '!' :: operation.text

structure Accepted (c : CommandForm) : Prop where
  nonempty : c.segments ≠ []
  segments : ∀ s ∈ c.segments, s.Accepted
  operation : ∀ o ∈ c.operation, o.Accepted .operation

end CommandForm

/-! ## What a form is read as

Each handler is handed the text of its call and the arguments between the brackets, both as they
stand. -/

def SelectForm.ReadAs (r : Registry) (form : SelectForm) (d : Directive) : Prop :=
  match form with
  | .bare key => r.defaultSelect.read (String.ofList key) none = .ok d
  | .named call => ∃ s, r.select? (String.ofList call.name) = some s ∧
      s.read (String.ofList form.text) (call.arguments.map String.ofList) = .ok d

def PredicateForm.ReadAs (r : Registry) (form : PredicateForm) (d : Directive) : Prop :=
  ∃ p, r.predicate? (String.ofList form.name) = some p ∧
    p.read (String.ofList form.text) (form.call.arguments.map String.ofList) = .ok d

def Call.ReadAsOperation (r : Registry) (call : Call) (d : Directive) : Prop :=
  ∃ o, r.operation? (String.ofList call.name) = some o ∧
    o.read (String.ofList call.text) (call.arguments.map String.ofList) = .ok d

structure SegmentForm.ReadAs (r : Registry) (form : SegmentForm) (s : Segment) : Prop where
  select : form.select.ReadAs r s.select
  predicate : Option.Rel (PredicateForm.ReadAs r) form.predicate s.predicate

structure CommandForm.ReadAs (r : Registry) (form : CommandForm) (c : Command) : Prop where
  path : List.Forall₂ (SegmentForm.ReadAs r) form.segments c.path
  operation : Option.Rel (Call.ReadAsOperation r) form.operation c.operation

end TreePath.Grammar
