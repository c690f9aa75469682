import TemplateCompiler.Proofs.BlockForest
import TemplateCompiler.Proofs.LoweredText

namespace TemplateCompiler

/-- The kind of a forest's first node; `after` is the kind of the node that follows the forest. -/
def Forest.firstKind? (after : Option Kind) : Forest → Option Kind
  | .nil => after
  | .leaf first _ => some first.1.kind
  | .conditional .. | .loop .. => some .directive

def Leaf.code? (config : Config) (before after : Option Kind) (leaf : Leaf) : Option String :=
  match leaf.1.command? with
  | some .stop => some Script.returnOutput
  | some .assign => (leaf.1.expression? config).map (· ++ ";")
  | _ => (Lowering.lowerNode config 0 before after leaf.1).text? []

def ArmHead.code? (config : Config) (head : ArmHead) : Option String :=
  if head.1.command? = some .elseIf then
    (head.1.expression? config).map fun condition => "\x7delse if(" ++ condition ++ ")\x7b"
  else some "\x7delse\x7b"

mutual

/-- The code of a forest between nodes of the given kinds, after literal text `run` that has not
been written yet. Each body is written on its own: literal text joins inside it only, and its
neighbours are the directives around it. -/
def Forest.code? (config : Config) (before : Option Kind) (run : String) (after : Option Kind) :
    Forest → Option String
  | .nil => some (Lowering.appendText run)
  | .leaf leaf rest =>
    if leaf.1.kind = .literal then rest.code? config (some .literal) (run ++ leaf.1.text) after
    else do
      let code ← leaf.code? config before (rest.firstKind? after)
      let later ← rest.code? config (some leaf.1.kind) "" after
      pure (Lowering.appendText run ++ code ++ later)
  | .conditional opener body arms rest => do
    let condition ← opener.1.expression? config
    let inside ← body.code? config (some .directive) "" (some .directive)
    let others ← arms.code? config
    let later ← rest.code? config (some .directive) "" after
    pure (Lowering.appendText run ++ ("if(" ++ condition ++ ")\x7b" ++ inside ++ others) ++ later)
  | .loop opener body _ rest => do
    let expression ← opener.1.expression? config
    let (key, collection) ← Lowering.loopParts? (Text.trim expression)
    let inside ← body.code? config (some .directive) "" (some .directive)
    let later ← rest.code? config (some .directive) "" after
    pure (Lowering.appendText run ++ (Script.openLoop key collection ++ inside ++ Script.closeLoop) ++
      later)

def Arms.code? (config : Config) : Arms → Option String
  | .close _ => some "\x7d"
  | .arm head body arms => do
    let code ← head.code? config
    let inside ← body.code? config (some .directive) "" (some .directive)
    let others ← arms.code? config
    pure (code ++ inside ++ others)

end

theorem Forest.head?_flatten (forest : Forest) (nodes : List Node) :
    (forest.flatten ++ nodes).head?.map Node.kind = forest.firstKind? (nodes.head?.map Node.kind) := by
  cases forest with
  | nil => rfl
  | leaf leaf rest => rfl
  | conditional opener body arms rest => exact congrArg some (Node.kind_of_command opener.2)
  | loop opener body closer rest => exact congrArg some (Node.kind_of_command opener.2)

theorem ArmHead.kind (head : ArmHead) : head.1.kind = .directive := by
  rcases head.2 with elseIf | orElse
  · exact Node.kind_of_command elseIf
  · exact Node.kind_of_command orElse

theorem Arms.head?_flatten (arms : Arms) (nodes : List Node) :
    (arms.flatten ++ nodes).head?.map Node.kind = some .directive := by
  cases arms with
  | close closer => exact congrArg some (Node.kind_of_command closer.2)
  | arm head body arms => exact congrArg some head.kind

theorem Lowering.appendText_empty : appendText "" = "" := rfl

/-- A node that is no literal is lowered after the literal text before it and before the rest. -/
theorem Lowering.lowerSiblings_cons {config : Config} {depth : Nat} {before : Option Kind}
    {run code : String} {node : Node} {nodes : List Node} {emission result : Emission}
    (text : node.kind ≠ .literal)
    (lowered : (lowerSiblings config depth before run (node :: nodes)).run emission = .ok code result) :
    ∃ own later between,
      (lowerNode config depth before (nodes.head?.map Node.kind) node).run emission = .ok own between ∧
      (lowerSiblings config depth (some node.kind) "" nodes).run between = .ok later result ∧
      code = appendText run ++ own ++ later := by
  rw [lowerSiblings, if_neg text] at lowered
  obtain ⟨own, between, start, lowered⟩ := run_bind_eq_ok lowered
  obtain ⟨later, final, rest, lowered⟩ := run_bind_eq_ok lowered
  cases lowered
  exact ⟨own, later, between, start, rest, rfl⟩

/-- Literal text that is followed by no further literal is written first. -/
theorem Lowering.lowerSiblings_flush {config : Config} {depth : Nat} {before : Option Kind}
    {run code : String} {nodes : List Node} {emission result : Emission}
    (text : nodes.head?.map Node.kind ≠ some .literal)
    (lowered : (lowerSiblings config depth before run nodes).run emission = .ok code result) :
    ∃ later, (lowerSiblings config depth before "" nodes).run emission = .ok later result ∧
      code = appendText run ++ later := by
  cases nodes with
  | nil =>
    cases lowered
    exact ⟨"", rfl, String.append_empty.symm⟩
  | cons node nodes =>
    have other : node.kind ≠ .literal := fun literal => text (congrArg some literal)
    obtain ⟨own, later, between, start, rest, rfl⟩ := lowerSiblings_cons other lowered
    refine ⟨own ++ later, ?_, String.append_assoc⟩
    rw [lowerSiblings, if_neg other, EStateM.run_bind, start]
    simp only [EStateM.run_bind, rest, appendText_empty, String.empty_append, EStateM.run_pure]

theorem Leaf.lower {config : Config} {before after : Option Kind} {code : String}
    {emission result : Emission} (leaf : Leaf) (flat : leaf.1.IsFlat)
    (run : (Lowering.lowerNode config 0 before after leaf.1).run emission = .ok code result) :
    leaf.code? config before after = some code ∧ result.blocks = emission.blocks := by
  by_cases kind : leaf.1.kind = .directive
  · obtain ⟨directive, expression, between, command, own, kept, performs⟩ :=
      flat.lowerNode_directive kind run
    rcases leaf.2 with ordinary | stop | assign
    · exact absurd kind ordinary
    · cases Option.some.inj (stop.symm.trans command)
      cases performs
      exact ⟨by rw [code?, stop], kept⟩
    · cases Option.some.inj (assign.symm.trans command)
      cases performs
      refine ⟨by rw [code?, assign, own rfl]; rfl, ?_⟩
      rw [Emission.hoistRoot_blocks, kept]
  · obtain ⟨text, kept⟩ := flat.lowerNode_ordinary kind run
    have unnamed : leaf.1.command? = none := if_neg kind
    exact ⟨by rw [code?, unnamed]; exact text, kept⟩

/-- A directive of a flat template performs on the open blocks and on its own expression. -/
theorem Command.lower {config : Config} {before after : Option Kind} {code : String}
    {emission result : Emission} {directive : Directive} (command : Command directive)
    (flat : command.1.IsFlat)
    (run : (Lowering.lowerNode config 0 before after command.1).run emission = .ok code result) :
    ∃ expression between,
      (directive.takesExpression = true → command.1.expression? config = some expression) ∧
      between.blocks = emission.blocks ∧
      Lowering.Performs expression command.1.position between directive code result := by
  obtain ⟨performed, expression, between, known, own, kept, performs⟩ :=
    flat.lowerNode_directive (Node.kind_of_command command.2) run
  cases Option.some.inj (command.2.symm.trans known)
  exact ⟨expression, between, own, kept, performs⟩

theorem Command.lower_end {config : Config} {before after : Option Kind} {code : String}
    {emission result : Emission} {block : OpenBlock} {outer : List OpenBlock}
    (closer : Command .endBlock) (flat : closer.1.IsFlat) (top : emission.blocks = block :: outer)
    (run : (Lowering.lowerNode config 0 before after closer.1).run emission = .ok code result) :
    code = Lowering.closingCode block.kind ∧ result.blocks = outer := by
  obtain ⟨_, between, _, kept, performs⟩ := closer.lower flat run
  cases performs with
  | endBlock innermost =>
    cases innermost.symm.trans (kept.trans top)
    exact ⟨rfl, rfl⟩

theorem ArmHead.lower {config : Config} {before after : Option Kind} {code : String}
    {emission result : Emission} (head : ArmHead) (flat : head.1.IsFlat)
    (run : (Lowering.lowerNode config 0 before after head.1).run emission = .ok code result) :
    head.code? config = some code ∧ result.blocks = emission.blocks := by
  obtain ⟨directive, expression, between, command, own, kept, performs⟩ :=
    flat.lowerNode_directive head.kind run
  rcases head.2 with elseIf | orElse
  · cases Option.some.inj (elseIf.symm.trans command)
    cases performs
    exact ⟨by rw [code?, if_pos elseIf, own rfl]; rfl, kept⟩
  · cases Option.some.inj (orElse.symm.trans command)
    cases performs
    exact ⟨by rw [code?, orElse]; rfl, kept⟩

theorem ClosesForest.head_ne_literal {nodes : List Node} (closes : ClosesForest nodes) :
    nodes.head?.map Node.kind ≠ some .literal := by
  intro literal
  obtain ⟨node, first, kind⟩ := Option.map_eq_some_iff.mp literal
  have still : node.blockMove? = none := Node.blockMove?_of_kind (by rw [kind]; decide)
  rcases closes node first with move | move <;> cases still.symm.trans move

mutual

/-- Lowering a forest inside a template writes the forest's code and then goes on with what
follows, with the same blocks open as before. -/
theorem Forest.lower (config : Config) : ∀ (forest : Forest) {before : Option Kind} {run code : String}
    {nodes : List Node} {emission result : Emission}, (∀ node ∈ forest.flatten, node.IsFlat) →
    ClosesForest nodes →
    (Lowering.lowerSiblings config 0 before run (forest.flatten ++ nodes)).run emission = .ok code result →
    ∃ own later previous between,
      forest.code? config before run (nodes.head?.map Node.kind) = some own ∧
      between.blocks = emission.blocks ∧
      (Lowering.lowerSiblings config 0 previous "" nodes).run between = .ok later result ∧
      code = own ++ later
  | .nil, before, run, _, _, emission, _, _, closes, lowered => by
    obtain ⟨later, rest, split⟩ := Lowering.lowerSiblings_flush closes.head_ne_literal lowered
    exact ⟨Lowering.appendText run, later, before, emission, rfl, rfl, rest, split⟩
  | .leaf leaf rest, before, run, code, nodes, emission, result, flat, closes, lowered => by
    have flatRest := fun node member => flat node (List.mem_cons_of_mem _ member)
    by_cases literal : leaf.1.kind = .literal
    · rw [Forest.flatten, List.cons_append, Lowering.lowerSiblings, if_pos literal] at lowered
      obtain ⟨own, later, previous, between, written, kept, tail, split⟩ :=
        Forest.lower config rest flatRest closes lowered
      exact ⟨own, later, previous, between, by rw [Forest.code?, if_pos literal, written], kept, tail, split⟩
    · rw [Forest.flatten, List.cons_append] at lowered
      obtain ⟨own, tail, middle, start, afterLeaf, rfl⟩ := Lowering.lowerSiblings_cons literal lowered
      obtain ⟨ownCode, kept⟩ := leaf.lower (flat _ List.mem_cons_self) start
      obtain ⟨inner, later, previous, between, written, keptRest, last, rfl⟩ :=
        Forest.lower config rest flatRest closes afterLeaf
      rw [rest.head?_flatten] at ownCode
      refine ⟨Lowering.appendText run ++ own ++ inner, later, previous, between, ?_,
        keptRest.trans kept, last, by simp only [String.append_assoc]⟩
      rw [Forest.code?, if_neg literal, ownCode, written]
      rfl
  | .conditional opener body arms rest, before, run, code, nodes, emission, result, flat, closes, lowered => by
    simp only [Forest.flatten, List.mem_cons, List.mem_append] at flat
    have opens : opener.1.kind = .directive := Node.kind_of_command opener.2
    simp only [Forest.flatten, List.cons_append, List.append_assoc] at lowered
    obtain ⟨own, tail, opened, start, afterOpener, rfl⟩ :=
      Lowering.lowerSiblings_cons (by rw [opens]; decide) lowered
    obtain ⟨condition, middle, expression, kept, performs⟩ := opener.lower (flat _ (.inl rfl)) start
    rw [opens] at afterOpener
    obtain ⟨inside, tail, _, inBody, bodyCode, keptBody, afterBody, rfl⟩ :=
      Forest.lower config body (fun node member => flat node (.inr (.inl member)))
        (arms.closesForest _) afterOpener
    cases performs
    obtain ⟨others, tail, closed, armsCode, keptArms, afterArms, rfl⟩ :=
      Arms.lower config arms (fun node member => flat node (.inr (.inr (.inl member)))) keptBody afterBody
    obtain ⟨inner, later, previous, between, written, keptRest, last, rfl⟩ :=
      Forest.lower config rest (fun node member => flat node (.inr (.inr (.inr member)))) closes afterArms
    rw [arms.head?_flatten] at bodyCode
    refine ⟨Lowering.appendText run ++ ("if(" ++ condition ++ ")\x7b" ++ inside ++ others) ++ inner, later,
      previous, between, ?_, keptRest.trans (keptArms.trans kept), last, ?_⟩
    · rw [Forest.code?, expression rfl, bodyCode, armsCode, written]
      rfl
    · simp only [String.append_assoc]
  | .loop opener body closer rest, before, run, code, nodes, emission, result, flat, closes, lowered => by
    simp only [Forest.flatten, List.mem_cons, List.mem_append] at flat
    have opens : opener.1.kind = .directive := Node.kind_of_command opener.2
    have ends : closer.1.kind = .directive := Node.kind_of_command closer.2
    simp only [Forest.flatten, List.cons_append, List.append_assoc] at lowered
    obtain ⟨own, tail, opened, start, afterOpener, rfl⟩ :=
      Lowering.lowerSiblings_cons (by rw [opens]; decide) lowered
    obtain ⟨text, middle, expression, kept, performs⟩ := opener.lower (flat _ (.inl rfl)) start
    rw [opens] at afterOpener
    obtain ⟨inside, tail, _, inBody, bodyCode, keptBody, afterBody, rfl⟩ :=
      Forest.lower config body (fun node member => flat node (.inr (.inl member)))
        (closer.closesForest _) afterOpener
    obtain ⟨closing, tail, closed, finish, afterCloser, rfl⟩ :=
      Lowering.lowerSiblings_cons (by rw [ends]; decide) afterBody
    rw [ends] at afterCloser
    have bodyAfter : (closer.1 :: (rest.flatten ++ nodes)).head?.map Node.kind = some .directive :=
      congrArg some ends
    rw [bodyAfter] at bodyCode
    cases performs with
    | @forEach key collection parts =>
      obtain ⟨rfl, keptEnd⟩ := closer.lower_end (flat _ (.inr (.inr (.inl rfl)))) keptBody finish
      obtain ⟨inner, later, previous, between, written, keptRest, last, rfl⟩ :=
        Forest.lower config rest (fun node member => flat node (.inr (.inr (.inr member)))) closes afterCloser
      refine ⟨Lowering.appendText run ++ (Script.openLoop key collection ++ inside ++ Script.closeLoop) ++ inner,
        later, previous, between, ?_, keptRest.trans (keptEnd.trans kept), last, ?_⟩
      · rw [Forest.code?, expression rfl, bodyCode, written]
        simp only [Option.bind_eq_bind, Option.bind_some, parts]
        rfl
      · rw [Lowering.appendText_empty]
        simp only [String.empty_append, String.append_assoc, Lowering.closingCode]

theorem Arms.lower (config : Config) : ∀ (arms : Arms) {before : Option Kind} {code : String}
    {nodes : List Node} {emission result : Emission} {position : Nat} {outer : List OpenBlock},
    (∀ node ∈ arms.flatten, node.IsFlat) → emission.blocks = ⟨.conditional, position⟩ :: outer →
    (Lowering.lowerSiblings config 0 before "" (arms.flatten ++ nodes)).run emission = .ok code result →
    ∃ own later between, arms.code? config = some own ∧ between.blocks = outer ∧
      (Lowering.lowerSiblings config 0 (some .directive) "" nodes).run between = .ok later result ∧
      code = own ++ later
  | .close closer, before, code, nodes, emission, result, position, outer, flat, top, lowered => by
    have ends : closer.1.kind = .directive := Node.kind_of_command closer.2
    rw [Arms.flatten, List.singleton_append] at lowered
    obtain ⟨closing, later, closed, finish, last, rfl⟩ :=
      Lowering.lowerSiblings_cons (by rw [ends]; decide) lowered
    obtain ⟨rfl, kept⟩ := closer.lower_end (flat _ List.mem_cons_self) top finish
    rw [ends] at last
    refine ⟨"\x7d", later, closed, rfl, kept, last, ?_⟩
    rw [Lowering.appendText_empty, String.empty_append, Lowering.closingCode]
  | .arm head body arms, before, code, nodes, emission, result, position, outer, flat, top, lowered => by
    simp only [Arms.flatten, List.mem_cons, List.mem_append] at flat
    simp only [Arms.flatten, List.cons_append, List.append_assoc] at lowered
    obtain ⟨own, tail, opened, start, afterHead, rfl⟩ :=
      Lowering.lowerSiblings_cons (by rw [head.kind]; decide) lowered
    obtain ⟨headCode, kept⟩ := head.lower (flat _ (.inl rfl)) start
    rw [head.kind] at afterHead
    obtain ⟨inside, tail, _, inBody, bodyCode, keptBody, afterBody, rfl⟩ :=
      Forest.lower config body (fun node member => flat node (.inr (.inl member)))
        (arms.closesForest _) afterHead
    obtain ⟨others, later, between, armsCode, keptArms, last, rfl⟩ :=
      Arms.lower config arms (fun node member => flat node (.inr (.inr member)))
        (keptBody.trans (kept.trans top)) afterBody
    rw [arms.head?_flatten] at bodyCode
    refine ⟨own ++ inside ++ others, later, between, ?_, keptArms, last, ?_⟩
    · rw [Arms.code?, headCode, bodyCode, armsCode]
      rfl
    · rw [Lowering.appendText_empty]
      simp only [String.empty_append, String.append_assoc]

end

theorem Node.IsFlat.blockTrace_visits {node : Node} (flat : node.IsFlat) (before : Option Kind) :
    blockTrace (node.visits 0 before) = node.blockEvent?.toList := by
  by_cases kind : node.kind = .directive
  · obtain ⟨kind', text, children, position⟩ := node
    cases kind
    have free := blockTrace_eq_nil (flat.childVisits_free 1)
    rw [Node.visits, blockTrace_append, blockTrace_singleton, Node.blockEvent?]
    split
    · rw [free, List.nil_append]
    · exact List.nil_append _
  · rw [blockTrace_eq_nil (flat.visits_free kind 0 before), Node.blockEvent?,
      Node.blockMove?_of_kind kind]
    rfl

/-- The trace of a flat template is made of its own directives only. -/
theorem blockTrace_flat {nodes : List Node} (flat : ∀ node ∈ nodes, node.IsFlat) (before : Option Kind) :
    blockTrace (siblingVisits 0 before nodes) = siblingTrace nodes := by
  induction nodes generalizing before with
  | nil => rfl
  | cons node nodes ih =>
    have rest := ih (fun other member => flat other (List.mem_cons_of_mem _ member)) (some node.kind)
    rw [siblingVisits, blockTrace_append, (flat node List.mem_cons_self).blockTrace_visits before, rest]
    rw [siblingTrace, siblingTrace, List.filterMap_cons]
    cases node.blockEvent? <;> rfl

theorem Lowering.lowerSiblings_known {config : Config} {nodes : List Node} {before : Option Kind}
    {run code : String} {emission result : Emission} (flat : ∀ node ∈ nodes, node.IsFlat)
    (lowered : (lowerSiblings config 0 before run nodes).run emission = .ok code result) :
    ∀ node ∈ nodes, node.kind = .directive → node.command? ≠ none := by
  induction nodes generalizing before run emission code with
  | nil => exact fun _ member => nomatch member
  | cons first nodes ih =>
    have flatRest := fun other member => flat other (List.mem_cons_of_mem _ member)
    intro node member kind
    by_cases literal : first.kind = .literal
    · rw [lowerSiblings, if_pos literal] at lowered
      rcases List.mem_cons.mp member with rfl | later
      · rw [literal] at kind
        cases kind
      · exact ih flatRest lowered node later kind
    · obtain ⟨_, _, _, start, rest, _⟩ := lowerSiblings_cons literal lowered
      rcases List.mem_cons.mp member with rfl | later
      · obtain ⟨directive, _, _, command, _⟩ := (flat _ List.mem_cons_self).lowerNode_directive kind start
        rw [command]
        exact Option.some_ne_none directive
      · exact ih flatRest rest node later kind

/-- A flat template that lowers with no block left open is the flattening of a forest, and its body
is the forest's code. -/
theorem exists_forest_of_lowered {config : Config} {nodes : List Node} {body : String}
    {emission : Emission} (flat : ∀ node ∈ nodes, node.IsFlat)
    (lowered : (Lowering.lowerSequence config 0 nodes).run {} = .ok body emission)
    (closed : emission.blocks = []) :
    ∃ forest : Forest, forest.flatten = nodes ∧ forest.code? config none "" none = some body := by
  have balanced := (followsBlocks_template config nodes).moves lowered
  rw [templateVisits, blockTrace_flat flat, closed] at balanced
  obtain ⟨forest, rfl⟩ := exists_forest (Lowering.lowerSiblings_known flat lowered) balanced
  have whole : (Lowering.lowerSiblings config 0 none "" (forest.flatten ++ [])).run {} =
      .ok body emission := by
    rw [List.append_nil]
    exact lowered
  obtain ⟨own, later, _, _, written, _, rest, split⟩ :=
    forest.lower config flat (by rintro node ⟨⟩) whole
  cases rest
  refine ⟨forest, rfl, ?_⟩
  rw [split, Lowering.appendText_empty, String.append_empty]
  exact written

/-- Compilation implements structured code generation. A flat template that is accepted is the
flattening of exactly one forest, and the body of its program, which stands between the declarations and
the returned output, is the code of that forest. -/
theorem compile_emits_forest {config : Config} {lines : LineLookup} {nodes : List Node}
    {compiled : Compiled} (flat : ∀ node ∈ nodes, node.IsFlat)
    (accepted : compile config lines nodes = .ok compiled) :
    ∃ (forest : Forest) (program : Script.Program), forest.flatten = nodes ∧
      (∀ other : Forest, other.flatten = nodes → other = forest) ∧
      programOf config nodes = .ok program ∧
      compiled.source = program.prologue config ++ program.body ++ "return $out;" ∧
      forest.code? config none "" none = some program.body := by
  obtain ⟨body, emission, lowered, closed, program, _, source⟩ := compile_eq_ok accepted
  obtain ⟨forest, split, written⟩ := exists_forest_of_lowered flat lowered closed
  exact ⟨forest, _, split, fun other same => Forest.flatten_injective (same.trans split.symm), program,
    source.trans (Script.Program.source_layout ..), written⟩

/-- A loop around a conditional with two arms, with literal text before, inside and after them. -/
def nestedBlocks : List Node :=
  [.literal "a", .directive "foreach" (some [.verbatim "x in xs"]), .literal "b", .literal "c",
    .directive "if" (some [.verbatim "x"]), .reference [.verbatim "x.y"], .directive "else" none,
    .directive "break" none, .directive " end " none, .literal "d", .directive "end" none,
    .directive "set" (some [.verbatim "n = 1"])]

def nestedProgram : Script.Program where
  hoisted := ["x", "n"]
  usesShow := false
  usesText := true
  body :=
    "$out+='a';" ++ Script.openLoop "x" "xs" ++ "$out+='bc';if(x)\x7b$out+=$text(x.y);\x7delse\x7b" ++
      "return $out;\x7d$out+='d';" ++ Script.closeLoop ++ "n = 1;"

theorem compile_emits_forest_nested :
    (∀ node ∈ nestedBlocks, node.IsFlat) ∧
    compile {} (fun _ => 1) nestedBlocks = .ok ⟨nestedProgram.source {}, ["x", "n"]⟩ ∧
    ∃ (forest : Forest) (program : Script.Program), forest.flatten = nestedBlocks ∧
      (∀ other : Forest, other.flatten = nestedBlocks → other = forest) ∧
      programOf {} nestedBlocks = .ok program ∧
      nestedProgram.source {} = program.prologue {} ++ program.body ++ "return $out;" ∧
      forest.code? {} none "" none = some program.body := by
  have flat : ∀ node ∈ nestedBlocks, node.IsFlat := by decide +kernel
  have accepted : compile {} (fun _ => 1) nestedBlocks = .ok ⟨nestedProgram.source {}, ["x", "n"]⟩ := by
    decide +kernel
  exact ⟨flat, accepted, compile_emits_forest flat accepted⟩

end TemplateCompiler
