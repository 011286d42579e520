import EachSubject.World.Function

/-!
# Calls

A call gives positional and keyword arguments; a parameter list receives them or refuses the call.
Positional arguments go to the positional parameters in order, the ones left over to the starred
parameter. A keyword goes to the parameter of its name, unless that one takes arguments by place only;
the ones left over go to the doubly starred parameter. A parameter that gets nothing takes its
default. The call is refused if an argument finds no parameter, a parameter gets two arguments, or one
without default gets none.
-/

namespace EachSubject

/-- The arguments of a call. -/
structure Call where
  positional : List Value := []
  keywords : List (String × Value) := []

/-- What a parameter receives. -/
inductive Argument where
  | one (value : Value)
  /-- The positional arguments that were left over. -/
  | extra (values : List Value)
  /-- The keyword arguments that were left over. -/
  | extraKeywords (entries : List (String × Value))

/-- What the parameters of a function receive, in order. -/
abbrev Arguments := List (String × Argument)

namespace Call

/-- No keyword is given twice. -/
def keywordsDiffer (c : Call) : Bool := (c.keywords.map (·.1)).Pairwise (· ≠ ·)

/-- Some parameter takes the keyword by name. -/
def takes (parameters : List FunctionParameter) (keyword : String) : Bool :=
  parameters.any fun p => p.mode.isNamed && p.name == keyword

/-- The keyword arguments that no parameter takes by name. -/
def unclaimed (c : Call) (parameters : List FunctionParameter) : List (String × Value) :=
  c.keywords.filter fun k => !takes parameters k.1

/-- What a parameter receives that no positional argument is left for. -/
def fromKeyword (c : Call) (p : FunctionParameter) : Option Value :=
  if p.mode.isNamed then (c.keywords.lookup p.name).or p.default else p.default

/-- Hands out the arguments from one parameter on; `rest` are the positional arguments left. -/
def receive (c : Call) (unclaimed : List (String × Value)) :
    List FunctionParameter → List Value → Option Arguments
  | [], rest => if rest.isEmpty then some [] else none
  | p :: ps, rest =>
    match p.mode, rest with
    | .extraPositional, rest => do
      return (p.name, .extra rest) :: (← c.receive unclaimed ps [])
    | .extraKeyword, rest => do
      return (p.name, .extraKeywords unclaimed) :: (← c.receive unclaimed ps rest)
    | .keywordOnly, rest => do
      let value ← c.fromKeyword p
      return (p.name, .one value) :: (← c.receive unclaimed ps rest)
    | mode, value :: rest =>
      if mode.isNamed && (c.keywords.lookup p.name).isSome then none
      else do return (p.name, .one value) :: (← c.receive unclaimed ps rest)
    | _, [] => do
      let value ← c.fromKeyword p
      return (p.name, .one value) :: (← c.receive unclaimed ps [])

/-- Without a parameter left, no positional argument may be left either. -/
theorem receive_nil (c : Call) (unclaimed : List (String × Value)) (rest : List Value) :
    c.receive unclaimed [] rest = if rest.isEmpty then some [] else none := by
  rw [receive.eq_def]

/-- What the parameters receive, or nothing if the call is refused. -/
def bind? (c : Call) (parameters : List FunctionParameter) : Option Arguments :=
  let unclaimed := c.unclaimed parameters
  if !c.keywordsDiffer then none
  else if !unclaimed.isEmpty && !parameters.any (·.mode == .extraKeyword) then none
  else c.receive unclaimed parameters c.positional

end Call

namespace Forward

/-- Passes what a parameter received on to another call. -/
def pass? (arguments : Arguments) : Forward → Option Call
  | .positional name =>
    match arguments.lookup name with
    | some (.one value) => some { positional := [value] }
    | _ => none
  | .extraPositional name =>
    match arguments.lookup name with
    | some (.extra values) => some { positional := values }
    | _ => none
  | .keyword word name =>
    match arguments.lookup name with
    | some (.one value) => some { keywords := [(word, value)] }
    | _ => none
  | .extraKeyword name =>
    match arguments.lookup name with
    | some (.extraKeywords entries) => some { keywords := entries }
    | _ => none

/-- The call that a list of forwards makes: positional arguments and keywords, each in order. -/
def call? (arguments : Arguments) : List Forward → Option Call
  | [] => some {}
  | forward :: rest => do
    let first ← forward.pass? arguments
    let others ← call? arguments rest
    return { positional := first.positional ++ others.positional
             keywords := first.keywords ++ others.keywords }

end Forward

end EachSubject
