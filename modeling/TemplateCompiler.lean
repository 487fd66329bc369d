import TemplateCompiler.Main
import TemplateCompiler.Proofs.Generate.Dependencies
import TemplateCompiler.Proofs.Generate.Formats
import TemplateCompiler.Proofs.Generate.Fragments
import TemplateCompiler.Proofs.Generate.Offences
import TemplateCompiler.Proofs.Load.Stability
import TemplateCompiler.Proofs.Render.Branches
import TemplateCompiler.Proofs.Render.Caching
import TemplateCompiler.Proofs.Render.Flatness
import TemplateCompiler.Proofs.Render.Handlers
import TemplateCompiler.Proofs.Scope.Flattening
import TemplateCompiler.Proofs.Scope.Histories
import TemplateCompiler.Proofs.Scope.Rewriting
import TemplateCompiler.Template.Expression
