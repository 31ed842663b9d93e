/-!
Log events, and results that carry them. A report keeps the events of its parts in order, also
those before a failure.
-/

namespace AxisGrid

/-- What the log says about a point that was read or numbered. -/
inductive Event
  /-- A text was read as a point with so many entries. -/
  | parsed (input : String) (entries : Nat)
  /-- A token of a text has no pair separator. -/
  | unpaired (input token : String)
  /-- The point with this identifier has this index. -/
  | indexed (identifier : String) (index : Nat)
  /-- The point with this identifier has no value for an axis. -/
  | missing (axis identifier : String)
  /-- An axis does not declare the value of a point. -/
  | undeclared (axis value : String)
  deriving DecidableEq, Repr

/-- How much an event matters: successes are traced, refusals are for debugging. -/
inductive Level
  | debug
  | trace
  deriving DecidableEq, Repr

namespace Event

def level : Event → Level
  | parsed .. | indexed .. => .trace
  | unpaired .. | missing .. | undeclared .. => .debug

def message : Event → String
  | parsed .. => "parsed combination"
  | unpaired .. => "combination entry has no pair separator"
  | indexed .. => "computed combination index"
  | missing .. => "axis has no value"
  | undeclared .. => "value not declared on axis"

/-- The named details of an event, ascending by name, its message among them. -/
def fields (e : Event) : List (String × String) :=
  match e with
  | parsed input entries =>
    [("entries", toString entries), ("input", input), ("message", e.message)]
  | unpaired input token => [("input", input), ("message", e.message), ("token", token)]
  | indexed identifier index =>
    [("combination", identifier), ("index", toString index), ("message", e.message)]
  | missing axis identifier =>
    [("axis", axis), ("combination", identifier), ("message", e.message)]
  | undeclared axis value => [("axis", axis), ("message", e.message), ("value", value)]

end Event

namespace Level

def name : Level → String
  | debug => "DEBUG"
  | trace => "TRACE"

end Level

/-- An outcome and the events on the way to it. -/
structure Report (ε α : Type) where
  outcome : Except ε α
  events : List Event := []

namespace Report

variable {ε ε' α β : Type}

def quiet (outcome : Except ε α) : Report ε α := ⟨outcome, []⟩

/-- Continues with the value, if there is one, and joins the events. -/
def bind (r : Report ε α) (next : α → Report ε β) : Report ε β :=
  match r.outcome with
  | .error e => ⟨.error e, r.events⟩
  | .ok a => ⟨(next a).outcome, r.events ++ (next a).events⟩

instance : Monad (Report ε) where
  pure a := quiet (.ok a)
  bind := bind

instance : MonadExcept ε (Report ε) where
  throw e := quiet (.error e)
  tryCatch r handle :=
    match r.outcome with
    | .error e => ⟨(handle e).outcome, r.events ++ (handle e).events⟩
    | .ok _ => r

/-- Puts the error into other words. -/
def mapError (f : ε → ε') (r : Report ε α) : Report ε' α := ⟨r.outcome.mapError f, r.events⟩

section Outcome

theorem outcome_pure (a : α) : (pure a : Report ε α).outcome = .ok a := rfl

/-- The outcome of a whole depends on the outcomes of its parts only. -/
theorem outcome_bind (r : Report ε α) (next : α → Report ε β) :
    (r >>= next).outcome = r.outcome >>= fun a => (next a).outcome := by
  change (r.bind next).outcome = _
  unfold bind
  cases found : r.outcome with
  | error e => rfl
  | ok a => rfl

theorem outcome_foldlM (f : β → α → Report ε β) (start : β) (xs : List α) :
    (xs.foldlM f start).outcome = xs.foldlM (fun b x => (f b x).outcome) start := by
  induction xs generalizing start with
  | nil => rfl
  | cons x xs ih => simp only [List.foldlM_cons, outcome_bind, ih]

end Outcome

end Report

end AxisGrid
