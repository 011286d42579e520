import EachSubject.Description.Error
import EachSubject.Shape.Basic
import EachSubject.Shape.Validation
import EachSubject.Value.Basic

/-!
# Faults

A fault ends a run before its end. Most faults are errors of the language, each of which belongs to a
class of errors; text that is run can raise errors of its own and handle errors by their classes.
-/

namespace EachSubject

/-- Why a run ends before its end. -/
inductive Fault where
  /-- A check failed, and failures are raised. -/
  | failedCheck (failure : Failure)
  /-- A failure cannot be recorded with such a name of its subject. -/
  | invalidFailure (problems : List Problem)
  /-- Something cannot be described. -/
  | notDescribed (error : DescriptionError)
  /-- A call does not fit its function, or an operation its operands. -/
  | mismatch
  | missingAttribute
  /-- An attribute of an immutable object is set. -/
  | frozen
  /-- A value that an operation does not take, though its kind is right; or a value without a text. -/
  | badValue (message : String)
  | unknownName
  /-- A name of the function has no value yet. -/
  | unboundName
  | missingKey
  | outOfRange
  | divisionByZero
  | overflow
  /-- There are no more items. -/
  | exhausted
  /-- Something changed while it was worked on, or a coroutine is awaited for the second time. -/
  | spent
  /-- Calls are nested too deeply. -/
  | tooDeep
  /-- A module that is imported does not exist. -/
  | missingModule
  /-- An imported module has no such name. -/
  | missingImport
  /-- A text does not make sense. -/
  | malformed
  | notAsserted
  /-- A text has no bytes in an encoding. -/
  | noEncoding
  /-- Bytes are no text in an encoding. -/
  | noDecoding
  /-- A name of an encoding or the like is not known. -/
  | unknownKey
  /-- An error that was raised as such. -/
  | raised (error : Value)

namespace Fault

/-- The class of errors that a fault belongs to. -/
def errorClass : Fault → ClassName
  | failedCheck _ => ⟨"iterwrap.subject.failure", "AssertionFailedError"⟩
  | invalidFailure _ => ⟨"pydantic_core", "ValidationError"⟩
  | notDescribed _ => ⟨"iterwrap.errors", "DescriptorError"⟩
  | mismatch => .builtin "TypeError"
  | missingAttribute => .builtin "AttributeError"
  | frozen => ⟨"dataclasses", "FrozenInstanceError"⟩
  | badValue _ => .builtin "ValueError"
  | unknownName => .builtin "NameError"
  | unboundName => .builtin "UnboundLocalError"
  | missingKey => .builtin "KeyError"
  | outOfRange => .builtin "IndexError"
  | divisionByZero => .builtin "ZeroDivisionError"
  | overflow => .builtin "OverflowError"
  | exhausted => .builtin "StopIteration"
  | spent => .builtin "RuntimeError"
  | tooDeep => .builtin "RecursionError"
  | missingModule => .builtin "ModuleNotFoundError"
  | missingImport => .builtin "ImportError"
  | malformed => .builtin "SyntaxError"
  | notAsserted => .builtin "AssertionError"
  | noEncoding => .builtin "UnicodeEncodeError"
  | noDecoding => .builtin "UnicodeDecodeError"
  | unknownKey => .builtin "LookupError"
  | raised error => error.classOf

/-- The text that goes with a fault. -/
def message : Fault → String
  | failedCheck failure => failure.message
  | notDescribed error => error.message
  | badValue message => message
  | raised (.error _ _ [.text _ message]) => message
  | _ => ""

/-- The refusal of what is called `subject`. -/
def refusal (subject : String) (cause : DescriptionCause) : Fault := .notDescribed ⟨subject, cause⟩

/-- A text that is to be read as source holds the NUL character. -/
def nulCharacter : Fault := .badValue "source code string cannot contain null bytes"

/-- The value, or a fault if there is none. -/
def orElse {α : Type} (fault : Fault) : Option α → Except Fault α
  | some a => .ok a
  | none => .error fault

end Fault

end EachSubject
