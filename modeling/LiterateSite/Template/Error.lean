/-!
# Failures of templates

* `TemplateError`: the ways in which a template fails.
-/

namespace LiterateSite.Template

/-- The ways in which a template fails. -/
inductive TemplateError where
  /-- The source of a template cannot be read as one. -/
  | badSource
  | badEscape
  | notFound
  | undefinedValue
  | unknownFilter
  | unknownTest
  | unknownFunction
  | unknownMethod
  | unknownBlock
  | invalidOperation
  | tooManyArguments
  | missingArgument
  | cannotUnpack
  /-- Something fails in an included template. -/
  | badInclude
  /-- Something fails in a block that another one overrides. -/
  | badBlock
  deriving DecidableEq, Repr, Inhabited

end LiterateSite.Template
