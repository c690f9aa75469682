import TemplateCompiler.Lowering.Walk

namespace TemplateCompiler

/-- A compiled template. -/
structure Compiled where
  /-- The program's text. -/
  source : String
  /-- The variables that it reads from the data, in the order in which they were first read. -/
  hoisted : List String
  deriving DecidableEq, Repr

/-- The program of a template, or the reason why it has none. -/
def programOf (config : Config) (nodes : List Node) : Except Rejection Script.Program :=
  match (Lowering.lowerSequence config 0 nodes).run {} with
  | .error failure _ => .error (.faulty failure)
  | .ok body emission =>
    match emission.blocks with
    | block :: _ => .error (.unclosed block)
    | [] => .ok ⟨emission.hoisted, emission.usesShow, emission.usesText, body⟩

/-- Compiles a template; `lines` tells the lines for the report of a problem. -/
def compile (config : Config) (lines : LineLookup) (nodes : List Node) :
    Except Diagnostic Compiled :=
  match programOf config nodes with
  | .error rejection => .error (rejection.diagnostic lines)
  | .ok program => .ok ⟨program.source config, program.hoisted⟩

/-- Compiles templates independently of each other, each with its own line lookup. -/
def compileAll (config : Config) (templates : List (List Node × LineLookup)) :
    List (Except Diagnostic Compiled) :=
  templates.map fun (nodes, lines) => compile config lines nodes

end TemplateCompiler
