import ComponentGen.Extraction.Report
import ComponentGen.Proofs.Text.Pieces

/-!
# What is said about warnings and failures

Every message names what it is about: the class, and the member or the value that is at fault.  The
reasons of failures are told apart by their wording.
-/

namespace ComponentGen.Extraction

open Source Text

/-! ## Warnings -/

namespace Warning

/-- What a warning is about. -/
def marks : Warning → List String
  | .malformedVersion className field value => [className, field, value]
  | .malformedTagComment className member tag value => [className, member, tag, value]
  | .multipleFactoryMethods className used ignored => [className, used, ignored]
  | .unknownRequestStrategy className value => [className, value]

theorem isInfix_message (w : Warning) : ∀ mark ∈ w.marks, mark.toList <:+: w.message.toList := by
  cases w with
  | malformedVersion className field value =>
      exact isInfix_joined [field, _, className, _, value, _] (by simp [marks])
  | malformedTagComment className member tag value =>
      exact isInfix_joined [_, tag, _, value, _, className, _, member, _] (by simp [marks])
  | multipleFactoryMethods className used ignored =>
      exact isInfix_joined [_, className, _, used, _, ignored, _] (by simp [marks])
  | unknownRequestStrategy className value =>
      exact isInfix_joined [_, value, _, className, _] (by simp [marks])

end Warning

/-! ## Failures -/

theorem ineligibilityText_injective : Function.Injective Ineligibility.text := by
  intro first second same
  cases first <;> cases second <;> first | rfl | exact absurd same (by decide)

theorem factoryViolationText_injective : Function.Injective FactoryViolation.text := by
  intro first second same
  cases first <;> cases second <;> first | rfl | exact absurd same (by decide)

namespace Failure

/-- What a failure is about, and why. -/
def marks : Failure → List String
  | .ineligible className reason => [className, reason.text]
  | .ambiguousName method className => [method, className]
  | .invalidFactory method className reason => [method, className, reason.text]

theorem isInfix_message (failure : Failure) :
    ∀ mark ∈ failure.marks, mark.toList <:+: failure.message.toList := by
  cases failure with
  | ineligible className reason =>
      exact isInfix_joined [_, className, _, reason.text, _] (by simp [marks])
  | ambiguousName method className =>
      exact isInfix_joined [_, method, _, className, _] (by simp [marks])
  | invalidFactory method className reason =>
      exact isInfix_joined [_, method, _, className, _, reason.text] (by simp [marks])

end Failure

end ComponentGen.Extraction
