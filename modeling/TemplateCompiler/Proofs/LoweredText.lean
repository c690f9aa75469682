import TemplateCompiler.Proofs.BlockTrace

namespace TemplateCompiler

/-- The text that an action gives depends on the emission only through the open blocks, and not
even on those where no directive is visited. -/
def SameText (visits : List Visit) (action : Lowering String) : Prop :=
  ∀ {emission result : Emission} {code : String} (other : Emission),
    (emission.blocks = other.blocks ∨ ∀ visit ∈ visits, visit.node.kind ≠ .directive) →
    action.run emission = .ok code result →
    ∃ result', action.run other = .ok code result' ∧
      (emission.blocks = other.blocks → result.blocks = result'.blocks)

theorem Lowering.referenceCode_text (mode : ReferenceMode) (depth : Nat) (expression : String)
    (emission other : Emission) :
    (referenceCode mode depth expression emission).1 =
      (referenceCode mode depth expression other).1 := by
  unfold referenceCode
  cases mode with
  | plain => by_cases top : depth = 0 <;> simp [top]
  | quiet => rfl
  | visible => rfl

theorem sameText_closed : WalkClosed SameText where
  text code := by
    intro emission result written other _ run
    cases run
    exact ⟨other, rfl, id⟩
  sequence := by
    intro first second action next holds later emission result code other alike run
    obtain ⟨middle, between, start, rest⟩ := Lowering.run_bind_eq_ok run
    obtain ⟨between', start', kept⟩ := holds other (alike.imp_right fun free visit member =>
      free visit (List.mem_append_left second member)) start
    have alikeLater : between.blocks = between'.blocks ∨
        ∀ visit ∈ second, visit.node.kind ≠ .directive :=
      alike.imp kept fun free visit member => free visit (List.mem_append_right first member)
    obtain ⟨result', rest', keptLater⟩ := later middle between' alikeLater rest
    refine ⟨result', ?_, fun same => keptLater (kept same)⟩
    rw [EStateM.run_bind, start']
    exact rest'
  reference := by
    intro config visit expression kind emission result code other _ run
    rw [Lowering.lowerReference_run] at run
    split at run
    · cases run
    · rename_i present
      cases run
      have again := Lowering.lowerReference_run (Lowering.referenceMode config visit.depth visit.before
        visit.node.kind) visit.depth expression visit.node.position other
      rw [if_neg present, Lowering.referenceCode_text _ _ _ other emission] at again
      refine ⟨_, again, fun same => ?_⟩
      rw [Lowering.referenceCode_blocks, Lowering.referenceCode_blocks, same]
  directive := by
    intro visit directive expression command emission result code other alike run
    have same : emission.blocks = other.blocks := by
      rcases alike with same | free
      · exact same
      · exact absurd (Node.kind_of_command command) (free visit List.mem_cons_self)
    obtain ⟨result', performs, kept⟩ := (Lowering.lowerDirective_performs run).transfer same
    exact ⟨result', performs.run (Lowering.lowerDirective_present run), fun _ => kept⟩
  unknown := by
    intro visit _ _ emission result code other _ run
    cases run

/-- The text that an action gives with the given blocks open. -/
def Lowering.text? (blocks : List OpenBlock) (action : Lowering String) : Option String :=
  match action.run { blocks := blocks } with
  | .ok code _ => some code
  | .error _ _ => none

theorem Lowering.exists_run_of_text? {blocks : List OpenBlock} {action : Lowering String} {code : String}
    (text : action.text? blocks = some code) :
    ∃ result, action.run { blocks := blocks } = .ok code result := by
  unfold text? at text
  split at text <;> cases text
  exact ⟨_, ‹_›⟩

theorem SameText.text?_eq_some {visits : List Visit} {action : Lowering String}
    {emission result : Emission} {code : String} {blocks : List OpenBlock} (same : SameText visits action)
    (alike : emission.blocks = blocks ∨ ∀ visit ∈ visits, visit.node.kind ≠ .directive)
    (run : action.run emission = .ok code result) : action.text? blocks = some code := by
  obtain ⟨alone, again, _⟩ := same { blocks := blocks } alike run
  rw [Lowering.text?, again]

theorem blockTrace_eq_nil {visits : List Visit}
    (free : ∀ visit ∈ visits, visit.node.kind ≠ .directive) : blockTrace visits = [] := by
  refine List.filterMap_eq_nil_iff.mpr fun visit member => ?_
  rw [Node.blockEvent?, Node.blockMove?_of_kind (free visit member), Option.map_none]

theorem FollowsBlocks.kept {visits : List Visit} {action : Lowering String} {emission result : Emission}
    {code : String} (follows : FollowsBlocks visits action)
    (free : ∀ visit ∈ visits, visit.node.kind ≠ .directive)
    (run : action.run emission = .ok code result) : result.blocks = emission.blocks := by
  have kept := follows.moves run
  rw [blockTrace_eq_nil free, runBlocks_nil] at kept
  exact (Except.ok.inj kept).symm

mutual

/-- The node and all nodes below it. -/
def Node.subtree : Node → List Node
  | ⟨kind, text, children, position⟩ => ⟨kind, text, children, position⟩ :: childSubtrees children

def childSubtrees : Option (List Node) → List Node
  | none => []
  | some nodes => subtrees nodes

def subtrees : List Node → List Node
  | [] => []
  | node :: nodes => node.subtree ++ subtrees nodes

end

mutual

theorem Node.visits_subset (depth : Nat) (before : Option Kind) :
    ∀ (node : Node) {visit : Visit}, visit ∈ node.visits depth before → visit.node ∈ node.subtree
  | ⟨.literal, _, _, _⟩, _, member => nomatch member
  | ⟨.verbatim, _, _, _⟩, _, member => nomatch member
  | ⟨.fragment, _, _, _⟩, _, member => nomatch member
  | ⟨.string, _, children, _⟩, _, member =>
    List.mem_cons_of_mem _ (stringVisits_subset depth children member)
  | ⟨.reference, text, children, position⟩, visit, member => by
    simp only [Node.visits, List.mem_append, List.mem_singleton] at member
    rcases member with inner | rfl
    · exact List.mem_cons_of_mem _ (childVisits_subset (depth + 1) children inner)
    · exact List.mem_cons_self
  | ⟨.quietReference, text, children, position⟩, visit, member => by
    simp only [Node.visits, List.mem_append, List.mem_singleton] at member
    rcases member with inner | rfl
    · exact List.mem_cons_of_mem _ (childVisits_subset (depth + 1) children inner)
    · exact List.mem_cons_self
  | ⟨.directive, text, children, position⟩, visit, member => by
    simp only [Node.visits, List.mem_append, List.mem_singleton] at member
    rcases member with inner | rfl
    · split at inner
      · exact List.mem_cons_of_mem _ (childVisits_subset (depth + 1) children inner)
      · cases inner
    · exact List.mem_cons_self

theorem siblingVisits_subset (depth : Nat) (before : Option Kind) :
    ∀ (nodes : List Node) {visit : Visit},
      visit ∈ siblingVisits depth before nodes → visit.node ∈ subtrees nodes
  | [], _, member => nomatch member
  | node :: nodes, visit, member => by
    rcases List.mem_append.mp member with here | later
    · exact List.mem_append_left _ (Node.visits_subset depth before node here)
    · exact List.mem_append_right _ (siblingVisits_subset depth (some node.kind) nodes later)

theorem childVisits_subset (depth : Nat) :
    ∀ (children : Option (List Node)) {visit : Visit},
      visit ∈ childVisits depth children → visit.node ∈ childSubtrees children
  | none, _, member => nomatch member
  | some nodes, _, member => siblingVisits_subset depth none nodes member

theorem partVisits_subset (depth : Nat) :
    ∀ (nodes : List Node) {visit : Visit},
      visit ∈ partVisits depth nodes → visit.node ∈ subtrees nodes
  | [], _, member => nomatch member
  | node :: nodes, visit, member => by
    rcases List.mem_append.mp member with here | later
    · exact List.mem_append_left _ (Node.visits_subset (depth + 1) none node here)
    · exact List.mem_append_right _ (partVisits_subset depth nodes later)

theorem stringVisits_subset (depth : Nat) :
    ∀ (children : Option (List Node)) {visit : Visit},
      visit ∈ stringVisits depth children → visit.node ∈ childSubtrees children
  | none, _, member => nomatch member
  | some nodes, _, member => partVisits_subset depth nodes member

end

/-- No directive stands inside the node. -/
def Node.IsFlat (node : Node) : Prop :=
  ∀ inner ∈ childSubtrees node.children, inner.kind ≠ .directive

instance (node : Node) : Decidable node.IsFlat :=
  inferInstanceAs (Decidable (∀ inner ∈ childSubtrees node.children, inner.kind ≠ .directive))

/-- The text of a node's children, as the expression of a directive in the template's own text. -/
def Node.expression? (config : Config) (node : Node) : Option String :=
  (Lowering.lowerChildren config 1 node.children).text? []

theorem Node.IsFlat.childVisits_free {node : Node} (flat : node.IsFlat) (depth : Nat) :
    ∀ visit ∈ childVisits depth node.children, visit.node.kind ≠ .directive :=
  fun _ member => flat _ (childVisits_subset depth node.children member)

theorem Node.IsFlat.expression?_eq_some {config : Config} {node : Node} {expression : String}
    {emission result : Emission} (flat : node.IsFlat)
    (run : (Lowering.lowerChildren config 1 node.children).run emission = .ok expression result) :
    node.expression? config = some expression ∧ result.blocks = emission.blocks :=
  ⟨SameText.text?_eq_some (sameText_closed.childNodes config 1 node.children)
      (.inr (flat.childVisits_free 1)) run,
    (followsBlocks_closed.childNodes config 1 node.children).kept (flat.childVisits_free 1) run⟩

theorem Node.IsFlat.visits_free {node : Node} (flat : node.IsFlat) (ordinary : node.kind ≠ .directive)
    (depth : Nat) (before : Option Kind) :
    ∀ visit ∈ node.visits depth before, visit.node.kind ≠ .directive := by
  intro visit member
  have inside := Node.visits_subset depth before node member
  obtain ⟨kind, text, children, position⟩ := node
  rcases List.mem_cons.mp inside with same | inner
  · rw [same]
    exact ordinary
  · exact flat _ inner

/-- A flat node that is no directive gives its own text and leaves the open blocks alone. -/
theorem Node.IsFlat.lowerNode_ordinary {config : Config} {node : Node} {before after : Option Kind}
    {code : String} {emission result : Emission} (flat : node.IsFlat) (ordinary : node.kind ≠ .directive)
    (run : (Lowering.lowerNode config 0 before after node).run emission = .ok code result) :
    (Lowering.lowerNode config 0 before after node).text? [] = some code ∧
      result.blocks = emission.blocks :=
  ⟨SameText.text?_eq_some (sameText_closed.node config 0 before after node)
      (.inr (flat.visits_free ordinary 0 before)) run,
    (followsBlocks_closed.node config 0 before after node).kept (flat.visits_free ordinary 0 before) run⟩

/-- A flat node that is a directive lowers its children to its expression, if it takes one, and
then performs. -/
theorem Node.IsFlat.lowerNode_directive {config : Config} {node : Node} {before after : Option Kind}
    {code : String} {emission result : Emission} (flat : node.IsFlat) (kind : node.kind = .directive)
    (run : (Lowering.lowerNode config 0 before after node).run emission = .ok code result) :
    ∃ directive expression between, node.command? = some directive ∧
      (directive.takesExpression = true → node.expression? config = some expression) ∧
      between.blocks = emission.blocks ∧
      Lowering.Performs expression node.position between directive code result := by
  obtain ⟨kind', text, children, position⟩ := node
  cases kind
  have named := Node.command?_directive text children position
  simp only [Lowering.lowerNode] at run
  cases command : Directive.ofName? (Text.trim text) with
  | none => simp only [command] at run; cases run
  | some directive =>
    simp only [command] at run
    split at run
    · obtain ⟨expression, between, start, rest⟩ := Lowering.run_bind_eq_ok run
      obtain ⟨own, kept⟩ := flat.expression?_eq_some start
      exact ⟨directive, expression, between, named.trans command, fun _ => own, kept,
        Lowering.lowerDirective_performs rest⟩
    · rename_i silent
      exact ⟨directive, "", emission, named.trans command, fun takes => absurd takes silent, rfl,
        Lowering.lowerDirective_performs run⟩

end TemplateCompiler
