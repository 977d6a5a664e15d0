import StorageKey.State

/-!
# Loggers

A logger is obtained anew for a call, or it was bound to data before. Which calls it drops is settled
when it is bound, or obtained; whether its output is verbose, when it is called.

* `Method`, `LoggerCall`: the calls of loggers;
* `BoundLogger`, `LoggerState`: what stays of a logger that is bound;
* `LoggerCall.text`: what a call prints;
* `LoggingStep`, `LoggingStep.apply`, `performAll`: calls, bindings and changes of the logging, one
  after another.
-/

namespace StorageKey

/-- How a logger is called: by a method for a level, or by the one that takes the weight of a level. -/
inductive Method
  | named (name : String) (level : Level) (level_of_name : Level.ofString? name = some level)
  | log (weight : Int)

namespace Method

/-- The weight of the entries of a method. -/
def weight : Method → Int
  | named _ level _ => level.weight
  | log weight => weight

/-- The level of a weight. -/
def levelOf? (weight : Int) : Option Level :=
  [Level.debug, .info, .warning, .error, .critical].find? fun l => l.weight = weight

/-- The level of the entries of a method, if there is one. -/
def level? : Method → Option Level
  | named _ level _ => some level
  | log weight => levelOf? weight

end Method

/-- A call of a logger: a method, an event and data. -/
structure LoggerCall where
  method : Method
  event : Datum
  data : Context

/-- Why a call of a logger fails: its entry cannot be shown, or no level has the weight. -/
inductive CallFault
  | entry (fault : LogFault)
  | noLevel (weight : Int)
  deriving DecidableEq, Repr

/-- A logger: the threshold below which it drops calls, and the data that it is bound to. -/
structure BoundLogger where
  threshold : Nat
  data : Context

/-- A state with the loggers that have been bound. -/
structure LoggerState extends State where
  loggers : List BoundLogger

/-- The logger of a number. Without a number, or with one that none has, it is obtained from the
logging as it is. -/
def LoggerState.logger (s : LoggerState) (number : Option Nat) : BoundLogger :=
  (number.bind (s.loggers[·]?)).getD ⟨s.logging.threshold, []⟩

/-- Bind a logger to further data. What is bound is a logger of its own, the last one. -/
def LoggerState.bound (s : LoggerState) (number : Option Nat) (data : Context) : LoggerState :=
  let l := s.logger number
  { s with loggers := s.loggers ++ [{ l with data := l.data.update data }] }

/-- What a call of a logger prints. The data of the call replace or follow those that the logger is
bound to. -/
def LoggerCall.text (c : LoggerCall) (l : BoundLogger) (verbose : Bool) :
    Except CallFault (List Char) :=
  if c.method.weight < l.threshold then .ok []
  else
    match c.method.level? with
    | none => .error (.noLevel c.method.weight)
    | some level =>
      ((Entry.ofEvent level c.event (l.data.update c.data)).plainText verbose).mapError .entry

/-- A step of a sequence: a change of verbosity, a change of the base level by other code, a logger
that is bound to data, or a call of a logger. -/
inductive LoggingStep
  | configure (verbose : Bool)
  | setBase (level : Int)
  | bind (logger : Option Nat) (data : Context)
  | call (logger : Option Nat) (c : LoggerCall)

/-- Take a step. A call that fails prints nothing. -/
def LoggingStep.apply (s : LoggerState) : LoggingStep → Except CallFault LoggerState
  | .configure verbose => .ok { s with logging := .ofVerbose verbose }
  | .setBase level => .ok { s with logging := { s.logging with base := level } }
  | .bind logger data => .ok (s.bound logger data)
  | .call logger c =>
    (c.text (s.logger logger) s.logging.isVerbose).map fun text =>
      { s with err := s.err ++ String.ofList text }

/-- Take steps one after another. A fault ends them, unless the caller handles it. -/
def performAll (handled : Bool) : List LoggingStep → LoggerState → LoggerState × Option CallFault
  | [], s => (s, none)
  | x :: xs, s =>
    match x.apply s with
    | .ok t => performAll handled xs t
    | .error f => if handled then performAll handled xs s else (s, some f)

end StorageKey
