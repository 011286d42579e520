import EachSubject.Shape.Basic

/-!
# Which methods are wrapped

A method is re-applied to each element unless the wrapper inherits it anyway, or it cannot be
overridden, or calling it runs nothing.
-/

namespace EachSubject

/-- The name of the root of every class hierarchy. -/
def rootTypeName : String := "object"

/-- The name of the base class of all subjects. -/
def baseTypeName : String := "iterwrap.subject.base.Subject"

/-- The owners whose methods every wrapper inherits: the root and the base, each under both of its
    names. -/
def inheritedOwners : List String :=
  [rootTypeName, "builtins." ++ rootTypeName, baseTypeName, "iterwrap.subject.Subject"]

/-- The method is overridden by the wrapper. -/
def MethodShape.isEligible (m : MethodShape) : Bool :=
  !inheritedOwners.contains m.owner && !(m.isFinal || m.isPrivate || m.isStatic || m.isGenerator)

/-- The methods that the wrapper overrides, in order. -/
def SubjectShape.eligibleMethods (s : SubjectShape) : List MethodShape :=
  s.methods.filter MethodShape.isEligible

theorem MethodShape.isEligible_iff (m : MethodShape) :
    m.isEligible = true ↔ m.owner ∉ inheritedOwners ∧
      m.isFinal = false ∧ m.isPrivate = false ∧ m.isStatic = false ∧ m.isGenerator = false := by
  simp [isEligible, and_assoc]

theorem SubjectShape.mem_eligibleMethods {s : SubjectShape} {m : MethodShape} :
    m ∈ s.eligibleMethods ↔ m ∈ s.methods ∧ m.isEligible = true := by
  simp [eligibleMethods]

end EachSubject
