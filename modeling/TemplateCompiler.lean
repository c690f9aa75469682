import TemplateCompiler.Compile
import TemplateCompiler.Config.Reading
import TemplateCompiler.Template.Interchange
import TemplateCompiler.Proofs.ArmOrder
import TemplateCompiler.Proofs.ClosedProgram
import TemplateCompiler.Proofs.ErrorLocation
import TemplateCompiler.Proofs.Essence
import TemplateCompiler.Proofs.Helpers
import TemplateCompiler.Proofs.InterchangeText
import TemplateCompiler.Proofs.NavigationMarks
import TemplateCompiler.Proofs.NavigationTwice
import TemplateCompiler.Proofs.Options
import TemplateCompiler.Proofs.AccessGrammar
import TemplateCompiler.Proofs.FragmentText
import TemplateCompiler.Proofs.LoopForm
import TemplateCompiler.Proofs.RenderedText
import TemplateCompiler.Proofs.StringOperands
import TemplateCompiler.Proofs.AssignmentText
import TemplateCompiler.Proofs.AssignmentGuards
import TemplateCompiler.Proofs.QuotedConditions
import TemplateCompiler.Proofs.MissingEnds
import TemplateCompiler.Proofs.LiteralCuts
import TemplateCompiler.Proofs.ConstructorCallees
import TemplateCompiler.Proofs.BareExpressions
import TemplateCompiler.Proofs.LineNumbers
import TemplateCompiler.Proofs.ConfigEntries
