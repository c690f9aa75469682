import TemplateCompiler.Proofs.BlockTrace

namespace TemplateCompiler

/-- Not a directive, or one that neither opens nor continues nor closes a block. -/
def Node.IsLeaf (node : Node) : Prop :=
  node.kind ≠ .directive ∨ node.command? = some .stop ∨ node.command? = some .assign

abbrev Leaf := { node : Node // node.IsLeaf }

/-- A node that is the given directive. -/
abbrev Command (directive : Directive) := { node : Node // node.command? = some directive }

/-- The directive at the head of a later arm of a conditional. -/
abbrev ArmHead := { node : Node // node.command? = some .elseIf ∨ node.command? = some .orElse }

mutual

/-- A sequence of leaves and blocks, with all the nodes that it is made of. -/
inductive Forest where
  | nil
  | leaf (leaf : Leaf) (rest : Forest)
  | conditional (opener : Command .ifThen) (body : Forest) (arms : Arms) (rest : Forest)
  | loop (opener : Command .forEach) (body : Forest) (closer : Command .endBlock) (rest : Forest)

/-- The later arms of a conditional and the node that closes it. -/
inductive Arms where
  | close (closer : Command .endBlock)
  | arm (head : ArmHead) (body : Forest) (arms : Arms)

end

mutual

/-- The nodes of a forest in the order of the template. -/
def Forest.flatten : Forest → List Node
  | .nil => []
  | .leaf leaf rest => leaf.1 :: rest.flatten
  | .conditional opener body arms rest =>
    opener.1 :: (body.flatten ++ (arms.flatten ++ rest.flatten))
  | .loop opener body closer rest => opener.1 :: (body.flatten ++ closer.1 :: rest.flatten)

def Arms.flatten : Arms → List Node
  | .close closer => [closer.1]
  | .arm head body arms => head.1 :: (body.flatten ++ arms.flatten)

end

theorem Command.blockMove? {directive : Directive} (command : Command directive) :
    command.1.blockMove? = directive.blockMove? :=
  Node.blockMove?_of_command command.2

theorem Leaf.blockMove? (leaf : Leaf) : leaf.1.blockMove? = none := by
  rcases leaf.2 with ordinary | stop | assign
  · exact Node.blockMove?_of_kind ordinary
  · exact Node.blockMove?_of_command stop
  · exact Node.blockMove?_of_command assign

theorem ArmHead.blockMove? (head : ArmHead) : head.1.blockMove? = some .continues := by
  rcases head.2 with elseIf | orElse
  · exact Node.blockMove?_of_command elseIf
  · exact Node.blockMove?_of_command orElse

/-- A list that a forest cannot go on with: it is empty or starts with the next arm or the end of
the block around the forest. -/
def ClosesForest (nodes : List Node) : Prop :=
  ∀ node ∈ nodes.head?, node.blockMove? = some .continues ∨ node.blockMove? = some .closes

theorem Arms.closesForest (arms : Arms) (nodes : List Node) : ClosesForest (arms.flatten ++ nodes) := by
  cases arms with
  | close closer =>
    rintro node ⟨⟩
    exact .inr closer.blockMove?
  | arm head body arms =>
    rintro node ⟨⟩
    exact .inl head.blockMove?

theorem Command.closesForest (closer : Command .endBlock) (nodes : List Node) :
    ClosesForest (closer.1 :: nodes) :=
  (Arms.close closer).closesForest nodes

/-- A node that starts a tree of a forest does not close the forest. -/
theorem ClosesForest.head_ne {node : Node} {nodes : List Node} (closes : ClosesForest (node :: nodes))
    (start : node.blockMove? = none ∨ ∃ kind, node.blockMove? = some (.opens kind)) : False := by
  have head := closes node rfl
  rcases start with none | ⟨kind, opens⟩
  · rw [none] at head
    rcases head with head | head <;> cases head
  · rw [opens] at head
    rcases head with head | head <;> cases head

/-- Two lists of nodes differ if their first nodes do different things to the blocks. -/
theorem cons_ne_of_blockMove? {first second : Node} {nodes others : List Node}
    {move other : Option BlockMove} (atFirst : first.blockMove? = move)
    (atSecond : second.blockMove? = other) (differ : move ≠ other) :
    first :: nodes ≠ second :: others := by
  intro same
  rw [(List.cons.inj same).1, atSecond] at atFirst
  exact differ atFirst.symm

mutual

/-- The nodes of a forest determine it, also when the rest of a block follows them. -/
theorem Forest.flatten_append_inj : ∀ (first second : Forest) {after later : List Node},
    ClosesForest after → ClosesForest later →
    first.flatten ++ after = second.flatten ++ later → first = second ∧ after = later
  | .nil, second, after, later, closes, _, same => by
    rw [Forest.flatten, List.nil_append] at same
    cases second with
    | nil => exact ⟨rfl, same⟩
    | leaf leaf rest =>
      rw [same] at closes
      exact (closes.head_ne (.inl leaf.blockMove?)).elim
    | conditional opener body arms rest =>
      rw [same] at closes
      exact (closes.head_ne (.inr ⟨_, opener.blockMove?⟩)).elim
    | loop opener body closer rest =>
      rw [same] at closes
      exact (closes.head_ne (.inr ⟨_, opener.blockMove?⟩)).elim
  | .leaf leaf rest, second, after, later, closes, closed, same => by
    cases second with
    | nil =>
      rw [Forest.flatten, Forest.flatten, List.nil_append] at same
      rw [← same] at closed
      exact (closed.head_ne (.inl leaf.blockMove?)).elim
    | leaf other rest' =>
      simp only [Forest.flatten, List.cons_append, List.cons.injEq] at same
      obtain ⟨rfl, rfl⟩ := Forest.flatten_append_inj rest rest' closes closed same.2
      exact ⟨by rw [Subtype.ext same.1], rfl⟩
    | conditional opener body arms rest' =>
      exact absurd same (cons_ne_of_blockMove? leaf.blockMove? opener.blockMove? (by decide))
    | loop opener body closer rest' =>
      exact absurd same (cons_ne_of_blockMove? leaf.blockMove? opener.blockMove? (by decide))
  | .conditional opener body arms rest, second, after, later, closes, closed, same => by
    cases second with
    | nil =>
      rw [Forest.flatten, Forest.flatten, List.nil_append] at same
      rw [← same] at closed
      exact (closed.head_ne (.inr ⟨_, opener.blockMove?⟩)).elim
    | leaf leaf rest' =>
      exact absurd same (cons_ne_of_blockMove? opener.blockMove? leaf.blockMove? (by decide))
    | conditional opener' body' arms' rest' =>
      simp only [Forest.flatten, List.cons_append, List.append_assoc, List.cons.injEq] at same
      obtain ⟨rfl, afterBody⟩ := Forest.flatten_append_inj body body' (arms.closesForest _)
        (arms'.closesForest _) same.2
      obtain ⟨rfl, afterArms⟩ := Arms.flatten_append_inj arms arms' afterBody
      obtain ⟨rfl, rfl⟩ := Forest.flatten_append_inj rest rest' closes closed afterArms
      exact ⟨by rw [Subtype.ext same.1], rfl⟩
    | loop opener' body' closer rest' =>
      exact absurd same (cons_ne_of_blockMove? opener.blockMove? opener'.blockMove? (by decide))
  | .loop opener body closer rest, second, after, later, closes, closed, same => by
    cases second with
    | nil =>
      rw [Forest.flatten, Forest.flatten, List.nil_append] at same
      rw [← same] at closed
      exact (closed.head_ne (.inr ⟨_, opener.blockMove?⟩)).elim
    | leaf leaf rest' =>
      exact absurd same (cons_ne_of_blockMove? opener.blockMove? leaf.blockMove? (by decide))
    | conditional opener' body' arms rest' =>
      exact absurd same (cons_ne_of_blockMove? opener.blockMove? opener'.blockMove? (by decide))
    | loop opener' body' closer' rest' =>
      simp only [Forest.flatten, List.cons_append, List.append_assoc, List.cons.injEq] at same
      obtain ⟨rfl, tail⟩ := Forest.flatten_append_inj body body' (closer.closesForest _)
        (closer'.closesForest _) same.2
      rw [List.cons.injEq] at tail
      obtain ⟨rfl, rfl⟩ := Forest.flatten_append_inj rest rest' closes closed tail.2
      exact ⟨by rw [Subtype.ext same.1, Subtype.ext tail.1], rfl⟩

theorem Arms.flatten_append_inj : ∀ (first second : Arms) {after later : List Node},
    first.flatten ++ after = second.flatten ++ later → first = second ∧ after = later
  | .close closer, .close other, _, _, same => by
    simp only [Arms.flatten, List.singleton_append, List.cons.injEq] at same
    exact ⟨by rw [Subtype.ext same.1], same.2⟩
  | .close closer, .arm head body arms, _, _, same =>
    absurd same (cons_ne_of_blockMove? closer.blockMove? head.blockMove? (by decide))
  | .arm head body arms, .close closer, _, _, same =>
    absurd same (cons_ne_of_blockMove? head.blockMove? closer.blockMove? (by decide))
  | .arm head body arms, .arm head' body' arms', _, _, same => by
    simp only [Arms.flatten, List.cons_append, List.append_assoc, List.cons.injEq] at same
    obtain ⟨rfl, tail⟩ := Forest.flatten_append_inj body body' (arms.closesForest _)
      (arms'.closesForest _) same.2
    obtain ⟨rfl, rfl⟩ := Arms.flatten_append_inj arms arms' tail
    exact ⟨by rw [Subtype.ext same.1], rfl⟩

end

theorem Forest.flatten_injective {first second : Forest} (same : first.flatten = second.flatten) :
    first = second := by
  have empty : ClosesForest [] := by rintro node ⟨⟩
  have whole : first.flatten ++ [] = second.flatten ++ [] := by rw [same]
  exact (Forest.flatten_append_inj first second empty empty whole).1

/-- The directives of a list of siblings that open, continue or close a block. -/
def siblingTrace (nodes : List Node) : List BlockEvent :=
  nodes.filterMap Node.blockEvent?

theorem siblingTrace_cons_of_command {node : Node} {directive : Directive} {nodes : List Node}
    (command : node.command? = some directive) :
    siblingTrace (node :: nodes) =
      (directive.blockMove?.map (BlockEvent.mk · node.position)).toList ++ siblingTrace nodes := by
  rw [siblingTrace, List.filterMap_cons, Node.blockEvent?, Node.blockMove?_of_command command]
  cases directive.blockMove? <;> rfl

theorem siblingTrace_cons_of_kind {node : Node} {nodes : List Node} (other : node.kind ≠ .directive) :
    siblingTrace (node :: nodes) = siblingTrace nodes := by
  rw [siblingTrace, List.filterMap_cons, Node.blockEvent?, Node.blockMove?_of_kind other]
  rfl

/-- The nodes close the open blocks, the innermost first: each block with what is left of it and
with the forest that follows it inside the next one. -/
inductive ClosesBlocks : List OpenBlock → List Node → Prop
  | nil : ClosesBlocks [] []
  | conditional {position blocks nodes} (arms : Arms) (rest : Forest) : ClosesBlocks blocks nodes →
      ClosesBlocks (⟨.conditional, position⟩ :: blocks) (arms.flatten ++ (rest.flatten ++ nodes))
  | loop {position blocks nodes} (closer : Command .endBlock) (rest : Forest) :
      ClosesBlocks blocks nodes →
      ClosesBlocks (⟨.loop, position⟩ :: blocks) (closer.1 :: (rest.flatten ++ nodes))

theorem ClosesBlocks.arm {position : Nat} {blocks : List OpenBlock} {nodes : List Node} (head : ArmHead)
    (body : Forest) (closes : ClosesBlocks (⟨.conditional, position⟩ :: blocks) nodes) :
    ClosesBlocks (⟨.conditional, position⟩ :: blocks) (head.1 :: (body.flatten ++ nodes)) := by
  cases closes with
  | conditional arms rest outer =>
    have longer : ClosesBlocks (⟨.conditional, position⟩ :: blocks) _ :=
      .conditional (.arm head body arms) rest outer
    rwa [Arms.flatten, List.cons_append, List.append_assoc] at longer

theorem ClosesBlocks.finish {block : OpenBlock} {blocks : List OpenBlock} {nodes : List Node}
    (closer : Command .endBlock) (rest : Forest) (closes : ClosesBlocks blocks nodes) :
    ClosesBlocks (block :: blocks) (closer.1 :: (rest.flatten ++ nodes)) := by
  obtain ⟨kind, position⟩ := block
  cases kind with
  | conditional => exact .conditional (.close closer) rest closes
  | loop => exact .loop closer rest closes

/-- A directive that goes on with a conditional is only reached inside one. -/
theorem runBlocks_continues {blocks last : List OpenBlock} {position : Nat} {events : List BlockEvent}
    (run : runBlocks blocks (⟨.continues, position⟩ :: events) = .ok last) :
    ∃ opened outer, blocks = ⟨.conditional, opened⟩ :: outer ∧ runBlocks blocks events = .ok last := by
  rw [runBlocks_cons] at run
  cases blocks with
  | nil => cases run
  | cons block outer =>
    obtain ⟨kind, opened⟩ := block
    cases kind with
    | conditional => exact ⟨opened, outer, rfl, run⟩
    | loop => cases run

/-- If the directives of a list of siblings close all open blocks, then the list is a forest
followed by nodes that close the blocks. -/
theorem exists_forest_closing {nodes : List Node} {blocks : List OpenBlock}
    (known : ∀ node ∈ nodes, node.kind = .directive → node.command? ≠ none)
    (balanced : runBlocks blocks (siblingTrace nodes) = .ok []) :
    ∃ (body : Forest) (rest : List Node), body.flatten ++ rest = nodes ∧ ClosesBlocks blocks rest := by
  induction nodes generalizing blocks with
  | nil =>
    cases balanced
    exact ⟨.nil, [], rfl, .nil⟩
  | cons node nodes ih =>
    have knownRest := fun other member => known other (List.mem_cons_of_mem _ member)
    cases command : node.command? with
    | none =>
      have ordinary : node.kind ≠ .directive := fun kind => known node List.mem_cons_self kind command
      rw [siblingTrace_cons_of_kind ordinary] at balanced
      obtain ⟨body, rest, split, closes⟩ := ih knownRest balanced
      exact ⟨.leaf ⟨node, .inl ordinary⟩ body, rest, congrArg (node :: ·) split, closes⟩
    | some directive =>
      rw [siblingTrace_cons_of_command command] at balanced
      cases directive with
      | stop =>
        obtain ⟨body, rest, split, closes⟩ := ih knownRest balanced
        exact ⟨.leaf ⟨node, .inr (.inl command)⟩ body, rest, congrArg (node :: ·) split, closes⟩
      | assign =>
        obtain ⟨body, rest, split, closes⟩ := ih knownRest balanced
        exact ⟨.leaf ⟨node, .inr (.inr command)⟩ body, rest, congrArg (node :: ·) split, closes⟩
      | ifThen =>
        obtain ⟨body, rest, split, closes⟩ := ih knownRest balanced
        cases closes with
        | conditional arms later outer =>
          refine ⟨.conditional ⟨node, command⟩ body arms later, _, ?_, outer⟩
          simp only [Forest.flatten, List.cons_append, List.append_assoc, split]
      | forEach =>
        obtain ⟨body, rest, split, closes⟩ := ih knownRest balanced
        cases closes with
        | loop closer later outer =>
          refine ⟨.loop ⟨node, command⟩ body closer later, _, ?_, outer⟩
          simp only [Forest.flatten, List.cons_append, List.append_assoc, split]
      | elseIf =>
        obtain ⟨opened, outer, rfl, run⟩ := runBlocks_continues balanced
        obtain ⟨body, rest, split, closes⟩ := ih knownRest run
        exact ⟨.nil, _, by rw [← split]; rfl, closes.arm ⟨node, .inl command⟩ body⟩
      | orElse =>
        obtain ⟨opened, outer, rfl, run⟩ := runBlocks_continues balanced
        obtain ⟨body, rest, split, closes⟩ := ih knownRest run
        exact ⟨.nil, _, by rw [← split]; rfl, closes.arm ⟨node, .inr command⟩ body⟩
      | endBlock =>
        cases blocks with
        | nil => cases balanced
        | cons block outer =>
          obtain ⟨body, rest, split, closes⟩ := ih knownRest balanced
          exact ⟨.nil, _, by rw [← split]; rfl, closes.finish ⟨node, command⟩ body⟩

theorem exists_forest {nodes : List Node}
    (known : ∀ node ∈ nodes, node.kind = .directive → node.command? ≠ none)
    (balanced : runBlocks [] (siblingTrace nodes) = .ok []) :
    ∃ forest : Forest, forest.flatten = nodes := by
  obtain ⟨forest, rest, split, closes⟩ := exists_forest_closing known balanced
  cases closes
  exact ⟨forest, by rwa [List.append_nil] at split⟩

end TemplateCompiler
