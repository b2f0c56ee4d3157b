import MncsCompiler.Source.Decode
import MncsCompiler.Source.Locations
import MncsCompiler.Source.Windows
import MncsCompiler.Lexer.Budgets
import MncsCompiler.Kernel.Resume
import MncsCompiler.Parser.Grammar
import MncsCompiler.Flow.Preserve
import MncsCompiler.Flow.Facts
import MncsCompiler.Flow.Handover
import MncsCompiler.Ssa.Availability
import MncsCompiler.Ssa.Backedges
import MncsCompiler.Ssa.Jumps
import MncsCompiler.Ssa.Numbering
import MncsCompiler.Flow.Loops
import MncsCompiler.Decl.Sound
import MncsCompiler.Decl.Discipline
import MncsCompiler.Decl.Lexical
import MncsCompiler.Decl.Bounds
import MncsCompiler.Decl.Patterns
import MncsCompiler.Decl.CallSites
import MncsCompiler.Decl.Resolve
import MncsCompiler.Ssa.Agreement
import MncsCompiler.Project.Diagnostics
import MncsCompiler.Project.Locate
import MncsCompiler.Project.Markers
import MncsCompiler.Project.Transport
import MncsCompiler.Project.Imports
import MncsCompiler.Project.Descriptors
import MncsCompiler.Project.Target
