import TemplateCompiler.Proofs.ErrorLocation

namespace TemplateCompiler

/-- Whether the walk goes on with the children of a node that it comes to. -/
def Node.PassesWalk (node : Node) : Prop :=
  node.kind ∉ [.literal, .verbatim, .fragment] ∧
    node.command? ∉ [some .orElse, some .endBlock, some .stop]

instance (node : Node) : Decidable node.PassesWalk :=
  inferInstanceAs (Decidable (_ ∧ _))

/-- The walk over the siblings comes to the node: it is one of them or it stands below one, and all
nodes above it let the walk pass. -/
inductive Reached : List Node → Node → Prop
  | here {nodes node} : node ∈ nodes → Reached nodes node
  | under {nodes parent children node} : parent ∈ nodes → parent.PassesWalk →
      parent.children = some children → Reached children node → Reached nodes node

theorem Reached.of_subset {nodes others : List Node} {node : Node} (reached : Reached nodes node)
    (subset : nodes ⊆ others) : Reached others node := by
  cases reached with
  | here member => exact .here (subset member)
  | under member passes children inner => exact .under (subset member) passes children inner

/-- The kind of the node before a node of a template that has the given nodes before it. -/
def kindBefore (before : Option Kind) (earlier : List Node) : Option Kind :=
  (earlier.getLast?.map Node.kind).or before

theorem kindBefore_cons (before : Option Kind) (node : Node) (earlier : List Node) :
    kindBefore before (node :: earlier) = kindBefore (some node.kind) earlier := by
  cases earlier with
  | nil => rfl
  | cons next earlier =>
    obtain ⟨last, found⟩ : ∃ last, (next :: earlier).getLast? = some last :=
      ⟨_, List.getLast?_eq_some_getLast (List.cons_ne_nil next earlier)⟩
    rw [kindBefore, kindBefore, List.getLast?_cons_cons, found]
    rfl

/-- A visit to siblings is a visit to one of them, with the kind of the one before it. -/
theorem mem_siblingVisits {depth : Nat} {before : Option Kind} {nodes : List Node} {visit : Visit} :
    visit ∈ siblingVisits depth before nodes ↔ ∃ earlier node later,
      nodes = earlier ++ node :: later ∧ visit ∈ node.visits depth (kindBefore before earlier) := by
  induction nodes generalizing before with
  | nil => simp [siblingVisits]
  | cons first nodes ih =>
    rw [siblingVisits, List.mem_append, ih]
    constructor
    · rintro (here | ⟨earlier, node, later, rfl, inside⟩)
      · exact ⟨[], first, nodes, rfl, here⟩
      · exact ⟨first :: earlier, node, later, rfl, by rwa [kindBefore_cons]⟩
    · rintro ⟨earlier, node, later, split, inside⟩
      cases earlier with
      | nil =>
        cases split
        exact .inl inside
      | cons other earlier =>
        cases split
        exact .inr ⟨earlier, node, later, rfl, by rwa [kindBefore_cons] at inside⟩

theorem mem_partVisits {depth : Nat} {nodes : List Node} {visit : Visit} :
    visit ∈ partVisits depth nodes ↔ ∃ node ∈ nodes, visit ∈ node.visits (depth + 1) none := by
  induction nodes with
  | nil => simp [partVisits]
  | cons first nodes ih => simp [partVisits, ih]

mutual

/-- A visit to a node is the node's own, or it is deeper and the walk reaches it below the node. -/
theorem Node.visits_cases (depth : Nat) (before : Option Kind) :
    ∀ (node : Node) {visit : Visit}, visit ∈ node.visits depth before →
      visit = ⟨depth, before, node⟩ ∨ node.PassesWalk ∧ depth < visit.depth ∧
        ∃ children, node.children = some children ∧ Reached children visit.node
  | ⟨.literal, _, _, _⟩, _, member => nomatch member
  | ⟨.verbatim, _, _, _⟩, _, member => nomatch member
  | ⟨.fragment, _, _, _⟩, _, member => nomatch member
  | ⟨.string, _, children, _⟩, _, member =>
    .inr ⟨⟨by simp, by simp [Node.command?]⟩, stringVisits_cases depth children member⟩
  | ⟨.reference, text, children, position⟩, visit, member => by
    simp only [Node.visits, List.mem_append, List.mem_singleton] at member
    rcases member with inner | own
    · exact .inr ⟨⟨by simp, by simp [Node.command?]⟩, childVisits_cases (depth + 1) children inner⟩
    · exact .inl own
  | ⟨.quietReference, text, children, position⟩, visit, member => by
    simp only [Node.visits, List.mem_append, List.mem_singleton] at member
    rcases member with inner | own
    · exact .inr ⟨⟨by simp, by simp [Node.command?]⟩, childVisits_cases (depth + 1) children inner⟩
    · exact .inl own
  | ⟨.directive, text, children, position⟩, visit, member => by
    simp only [Node.visits, List.mem_append, List.mem_singleton] at member
    rcases member with inner | own
    · split at inner
      · rename_i takes
        have passes : (⟨.directive, text, children, position⟩ : Node).PassesWalk := by
          refine ⟨by simp, ?_⟩
          rw [Node.command?_directive]
          intro silent
          simp only [List.mem_cons, List.not_mem_nil, or_false] at silent
          rcases silent with silent | silent | silent <;> rw [silent] at takes <;> cases takes
        exact .inr ⟨passes, childVisits_cases (depth + 1) children inner⟩
      · cases inner
    · exact .inl own

theorem siblingVisits_reached (depth : Nat) (before : Option Kind) :
    ∀ (nodes : List Node) {visit : Visit}, visit ∈ siblingVisits depth before nodes →
      depth ≤ visit.depth ∧ Reached nodes visit.node
  | [], _, member => nomatch member
  | node :: nodes, visit, member => by
    rcases List.mem_append.mp member with here | later
    · rcases Node.visits_cases depth before node here with rfl | ⟨passes, deeper, children, inside, reached⟩
      · exact ⟨Nat.le_refl depth, .here List.mem_cons_self⟩
      · exact ⟨Nat.le_of_lt deeper, .under List.mem_cons_self passes inside reached⟩
    · obtain ⟨deep, reached⟩ := siblingVisits_reached depth (some node.kind) nodes later
      exact ⟨deep, reached.of_subset (List.subset_cons_self node nodes)⟩

theorem childVisits_cases (depth : Nat) :
    ∀ (children : Option (List Node)) {visit : Visit}, visit ∈ childVisits depth children →
      depth ≤ visit.depth ∧ ∃ nodes, children = some nodes ∧ Reached nodes visit.node
  | none, _, member => nomatch member
  | some nodes, _, member => by
    obtain ⟨deep, reached⟩ := siblingVisits_reached depth none nodes member
    exact ⟨deep, nodes, rfl, reached⟩

theorem partVisits_reached (depth : Nat) :
    ∀ (nodes : List Node) {visit : Visit}, visit ∈ partVisits depth nodes →
      depth < visit.depth ∧ Reached nodes visit.node
  | [], _, member => nomatch member
  | node :: nodes, visit, member => by
    rcases List.mem_append.mp member with here | later
    · rcases Node.visits_cases (depth + 1) none node here with rfl | ⟨passes, deeper, children, inside, reached⟩
      · exact ⟨Nat.lt_succ_self depth, .here List.mem_cons_self⟩
      · exact ⟨Nat.lt_of_succ_lt deeper, .under List.mem_cons_self passes inside reached⟩
    · obtain ⟨deep, reached⟩ := partVisits_reached depth nodes later
      exact ⟨deep, reached.of_subset (List.subset_cons_self node nodes)⟩

theorem stringVisits_cases (depth : Nat) :
    ∀ (children : Option (List Node)) {visit : Visit}, visit ∈ stringVisits depth children →
      depth < visit.depth ∧ ∃ nodes, children = some nodes ∧ Reached nodes visit.node
  | none, _, member => nomatch member
  | some nodes, _, member => by
    obtain ⟨deep, reached⟩ := partVisits_reached depth nodes member
    exact ⟨deep, nodes, rfl, reached⟩

end

/-- The directives among the visits have known names. -/
def KnownVisits (visits : List Visit) : Prop :=
  ∀ visit ∈ visits, visit.node.kind = .directive → visit.node.command? ≠ none

theorem knownVisits_closed : WalkClosed fun visits action =>
    ∀ emission code result, action.run emission = .ok code result → KnownVisits visits where
  text _ := fun _ _ _ _ _ member => nomatch member
  sequence := by
    intro first second action next holds later emission code result run visit member
    obtain ⟨middle, between, start, rest⟩ := Lowering.run_bind_eq_ok run
    rcases List.mem_append.mp member with here | after
    · exact holds _ _ _ start visit here
    · exact later middle _ _ _ rest visit after
  reference := by
    intro config visit expression kind emission code result _ other member directive
    rw [List.mem_singleton.mp member] at directive
    rcases kind with kind | kind <;> cases kind.symm.trans directive
  directive := by
    intro visit directive expression command emission code result _ other member _
    rw [List.mem_singleton.mp member, command]
    exact Option.some_ne_none directive
  unknown := by
    intro visit _ _ emission code result run
    cases run

/-- The visits to a child are among the visits to a node that lets the walk pass. -/
theorem Node.PassesWalk.visits_child {parent child : Node} {children : List Node}
    (passes : parent.PassesWalk) (known : parent.kind = .directive → parent.command? ≠ none)
    (inside : parent.children = some children) (member : child ∈ children) (depth : Nat) :
    ∃ inner, ∀ before, child.visits (depth + 1) inner ⊆ parent.visits depth before := by
  obtain ⟨earlier, later, split⟩ := List.append_of_mem member
  have sibling : child.visits (depth + 1) (kindBefore none earlier) ⊆ childVisits (depth + 1) (some children) :=
    fun visit here => mem_siblingVisits.mpr ⟨earlier, child, later, split, here⟩
  obtain ⟨kind, text, own, position⟩ := parent
  cases inside
  cases kind with
  | literal => exact absurd passes.1 (by simp)
  | verbatim => exact absurd passes.1 (by simp)
  | fragment => exact absurd passes.1 (by simp)
  | string => exact ⟨none, fun before visit here => mem_partVisits.mpr ⟨child, member, here⟩⟩
  | reference => exact ⟨_, fun before visit here => List.mem_append_left _ (sibling here)⟩
  | quietReference => exact ⟨_, fun before visit here => List.mem_append_left _ (sibling here)⟩
  | directive =>
    have silent := passes.2
    have named := known rfl
    rw [Node.command?_directive] at silent named
    obtain ⟨directive, command⟩ := Option.ne_none_iff_exists'.mp named
    have takes : directive.takesExpression = true := by
      rw [command] at silent
      revert silent
      cases directive <;> decide
    refine ⟨kindBefore none earlier, fun before visit here => ?_⟩
    rw [Node.visits, command, Option.any_some, if_pos takes]
    exact List.mem_append_left _ (sibling here)

theorem Node.own_visit {node : Node} (visited : node.CanFail) (depth : Nat) (before : Option Kind) :
    ⟨depth, before, node⟩ ∈ node.visits depth before := by
  obtain ⟨kind, text, children, position⟩ := node
  rcases visited with kind | kind | kind <;> cases kind <;> exact List.mem_append_right _ List.mem_cons_self

/-- Where all directives have known names, every reference that the walk reaches is visited. -/
theorem Reached.visited {nodes : List Node} {node : Node} (reached : Reached nodes node)
    (visited : node.CanFail) {depth : Nat}
    (known : ∀ top ∈ nodes, ∃ before, KnownVisits (top.visits depth before)) :
    ∃ top ∈ nodes, ∀ before, ∃ visit ∈ top.visits depth before, visit.node = node := by
  induction reached generalizing depth with
  | @here nodes node member => exact ⟨node, member, fun before => ⟨_, node.own_visit visited depth before, rfl⟩⟩
  | @under nodes parent children node member passes inside _ ih =>
    obtain ⟨outer, knownParent⟩ := known parent member
    have knownOwn : parent.kind = .directive → parent.command? ≠ none := fun kind =>
      knownParent _ (parent.own_visit (.inl kind) depth outer) kind
    have knownInner : ∀ child ∈ children, ∃ before, KnownVisits (child.visits (depth + 1) before) := by
      intro child among
      obtain ⟨inner, subset⟩ := passes.visits_child knownOwn inside among depth
      exact ⟨inner, fun visit here => knownParent visit (subset outer here)⟩
    obtain ⟨child, among, found⟩ := ih visited knownInner
    obtain ⟨inner, subset⟩ := passes.visits_child knownOwn inside among depth
    obtain ⟨visit, here, same⟩ := found inner
    exact ⟨parent, member, fun before => ⟨visit, subset before here, same⟩⟩

end TemplateCompiler
