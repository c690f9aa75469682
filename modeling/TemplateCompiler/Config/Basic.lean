namespace TemplateCompiler

/-- The options of a compilation. -/
structure Config where
  /-- Give arrays a `size` method where the script's host lacks one. -/
  arraySizeHelper : Bool := false
  /-- Show a reference in the template's text that has no value as its own expression. -/
  undefinedOutput : Bool := false
  deriving DecidableEq, Repr

end TemplateCompiler
