import TemplateCompiler.Proofs.ForestEmission
import TemplateCompiler.Proofs.Hoisting
import TemplateCompiler.Proofs.Reached

namespace TemplateCompiler

/-- The mode in which a visited reference is lowered. -/
def Visit.mode (config : Config) (visit : Visit) : Lowering.ReferenceMode :=
  Lowering.referenceMode config visit.depth visit.before visit.node.kind

def Visit.isReference (visit : Visit) : Bool :=
  visit.node.kind == .reference || visit.node.kind == .quietReference

/-- Whether the code of a visit calls the helper that shows a value or a fallback. -/
def Visit.callsShow (config : Config) (visit : Visit) : Bool :=
  visit.isReference && visit.mode config != .plain

/-- Whether the code of a visit calls the helper that writes a missing value as an empty text. -/
def Visit.callsText (config : Config) (visit : Visit) : Bool :=
  visit.isReference && visit.mode config == .plain && visit.depth == 0

/-- A run has brought the helpers into use that the visits call, and no others. -/
structure UsesHelpers (config : Config) (visits : List Visit) (emission result : Emission) : Prop where
  ofShow : result.usesShow = (emission.usesShow || visits.any (Visit.callsShow config))
  ofText : result.usesText = (emission.usesText || visits.any (Visit.callsText config))

namespace UsesHelpers

variable {config : Config} {emission between result : Emission}

theorem refl (emission : Emission) : UsesHelpers config [] emission emission where
  ofShow := (Bool.or_false _).symm
  ofText := (Bool.or_false _).symm

theorem trans {first second : List Visit} (here : UsesHelpers config first emission between)
    (rest : UsesHelpers config second between result) :
    UsesHelpers config (first ++ second) emission result where
  ofShow := by rw [rest.ofShow, here.ofShow, List.any_append, Bool.or_assoc]
  ofText := by rw [rest.ofText, here.ofText, List.any_append, Bool.or_assoc]

/-- A visit to a node that is no reference calls no helper. -/
theorem of_kept {visit : Visit} (other : visit.isReference = false)
    (sameShow : result.usesShow = emission.usesShow) (sameText : result.usesText = emission.usesText) :
    UsesHelpers config [visit] emission result where
  ofShow := by simp [Visit.callsShow, other, sameShow]
  ofText := by simp [Visit.callsText, other, sameText]

end UsesHelpers

@[simp] theorem Emission.hoistRoot_usesShow (emission : Emission) (expression : String) :
    (emission.hoistRoot expression).usesShow = emission.usesShow := by
  unfold Emission.hoistRoot
  split
  · rfl
  · split <;> rfl

@[simp] theorem Emission.hoistRoot_usesText (emission : Emission) (expression : String) :
    (emission.hoistRoot expression).usesText = emission.usesText := by
  unfold Emission.hoistRoot
  split
  · rfl
  · split <;> rfl

theorem Lowering.lowerReference_helpers {config : Config} {visit : Visit} {expression code : String}
    {emission result : Emission} (kind : visit.isReference = true)
    (run : (lowerReference (visit.mode config) visit.depth expression visit.node.position).run emission =
      .ok code result) : UsesHelpers config [visit] emission result := by
  rw [lowerReference_run] at run
  split at run <;> cases run
  constructor
  · rw [referenceCode_emission]
    cases mode : visit.mode config with
    | plain => by_cases top : visit.depth = 0 <;> simp [Visit.callsShow, mode, top]
    | quiet => simp [Visit.callsShow, kind, mode]
    | visible => simp [Visit.callsShow, kind, mode]
  · rw [referenceCode_emission]
    cases mode : visit.mode config with
    | plain => by_cases top : visit.depth = 0 <;> simp [Visit.callsText, kind, mode, top]
    | quiet => simp [Visit.callsText, mode]
    | visible => simp [Visit.callsText, mode]

theorem Lowering.Performs.helpers {config : Config} {visit : Visit} {directive : Directive}
    {expression code : String} {position : Nat} {emission result : Emission}
    (kind : visit.node.kind = .directive)
    (performs : Performs expression position emission directive code result) :
    UsesHelpers config [visit] emission result := by
  have other : visit.isReference = false := by rw [Visit.isReference, kind]; decide
  cases performs with
  | assign => exact .of_kept other (by simp) (by simp)
  | _ => exact .of_kept other rfl rfl

/-- Below the top level the mode of a reference does not depend on the options. -/
theorem Visit.mode_of_depth {visit : Visit} (deep : visit.depth ≠ 0) (config other : Config) :
    visit.mode config = visit.mode other := by
  simp [Visit.mode, Lowering.referenceMode, deep]

theorem usesHelpers_closed (config : Config) : WalkClosed fun visits action =>
    (∀ visit ∈ visits, visit.depth ≠ 0) → ∀ emission code result,
      action.run emission = .ok code result → UsesHelpers config visits emission result where
  text _ := by
    intro _ emission code result run
    cases run
    exact .refl _
  sequence := by
    intro first second action next holds later deep emission code result run
    obtain ⟨middle, between, start, rest⟩ := Lowering.run_bind_eq_ok run
    exact (holds (fun visit member => deep visit (List.mem_append_left _ member)) _ _ _ start).trans
      (later middle (fun visit member => deep visit (List.mem_append_right _ member)) _ _ _ rest)
  reference := by
    intro other visit expression kind deep emission code result run
    have same := Visit.mode_of_depth (deep visit List.mem_cons_self) other config
    rw [Visit.mode] at same
    rw [same] at run
    refine Lowering.lowerReference_helpers ?_ run
    rcases kind with kind | kind <;> rw [Visit.isReference, kind] <;> decide
  directive := by
    intro visit directive expression command _ emission code result run
    exact (Lowering.lowerDirective_performs run).helpers (Node.kind_of_command command)
  unknown := by
    intro visit _ _ _ emission code result run
    cases run

theorem Lowering.lowerChildren_helpers {config : Config} {children : Option (List Node)} {code : String}
    {emission result : Emission} (run : (lowerChildren config 1 children).run emission = .ok code result) :
    UsesHelpers config (childVisits 1 children) emission result := by
  refine (usesHelpers_closed config).childNodes config 1 children (fun visit member => ?_) _ _ _ run
  obtain ⟨deep, _⟩ := childVisits_cases 1 children member
  omega

theorem Lowering.lowerNode_helpers {config : Config} {before after : Option Kind} {node : Node}
    {code : String} {emission result : Emission}
    (run : (lowerNode config 0 before after node).run emission = .ok code result) :
    UsesHelpers config (node.visits 0 before) emission result := by
  obtain ⟨kind, text, children, position⟩ := node
  cases kind with
  | literal | verbatim | fragment =>
    cases run
    exact .refl _
  | string =>
    refine (usesHelpers_closed config).string config 0 children (fun visit member => ?_) _ _ _ run
    obtain ⟨deep, _⟩ := stringVisits_cases 0 children member
    omega
  | reference =>
    obtain ⟨expression, between, start, rest⟩ := run_bind_eq_ok run
    exact (lowerChildren_helpers start).trans (lowerReference_helpers rfl rest)
  | quietReference =>
    obtain ⟨expression, between, start, rest⟩ := run_bind_eq_ok run
    exact (lowerChildren_helpers start).trans (lowerReference_helpers rfl rest)
  | directive =>
    simp only [lowerNode] at run
    simp only [Node.visits]
    cases command : Directive.ofName? (Text.trim text) with
    | none => simp only [command] at run; cases run
    | some directive =>
      simp only [command, Option.any_some] at run ⊢
      split at run
      · rename_i takes
        obtain ⟨expression, between, start, rest⟩ := run_bind_eq_ok run
        rw [if_pos takes]
        exact (lowerChildren_helpers start).trans ((lowerDirective_performs rest).helpers rfl)
      · rename_i silent
        rw [if_neg silent]
        exact (lowerDirective_performs run).helpers rfl

theorem Lowering.lowerSiblings_helpers {config : Config} {before : Option Kind} {text code : String}
    {nodes : List Node} {emission result : Emission}
    (run : (lowerSiblings config 0 before text nodes).run emission = .ok code result) :
    UsesHelpers config (siblingVisits 0 before nodes) emission result := by
  induction nodes generalizing before text code emission with
  | nil =>
    cases run
    exact .refl _
  | cons node nodes ih =>
    by_cases literal : node.kind = .literal
    · rw [lowerSiblings, if_pos literal] at run
      obtain ⟨kind, content, children, position⟩ := node
      cases literal
      exact ih run
    · obtain ⟨own, later, between, start, rest, _⟩ := lowerSiblings_cons literal run
      exact (lowerNode_helpers start).trans (ih rest)

/-- A reference with the given nodes before it begins the template or comes right after a literal. -/
def FollowsText (earlier : List Node) : Prop :=
  earlier = [] ∨ ∃ front literal, earlier = front ++ [literal] ∧ literal.kind = .literal

/-- A template needs the helper that shows a value or a fallback: the walk reaches a quiet reference,
or missing values are to be seen and a reference stands in the template's text. -/
def NeedsShow (config : Config) (nodes : List Node) : Prop :=
  (∃ node, Reached nodes node ∧ node.kind = .quietReference) ∨
    config.undefinedOutput = true ∧ ∃ earlier node later, nodes = earlier ++ node :: later ∧
      node.kind = .reference ∧ FollowsText earlier

/-- A template needs the helper that writes a missing value as an empty text: it has a reference of
its own that does not show missing values. -/
def NeedsText (config : Config) (nodes : List Node) : Prop :=
  config.undefinedOutput = false ∧ (∃ node ∈ nodes, node.kind = .reference) ∨
    config.undefinedOutput = true ∧ ∃ earlier node later, nodes = earlier ++ node :: later ∧
      node.kind = .reference ∧ ¬ FollowsText earlier

theorem followsText_iff {earlier : List Node} :
    FollowsText earlier ↔ kindBefore none earlier = none ∨ kindBefore none earlier = some .literal := by
  rcases List.eq_nil_or_concat earlier with rfl | ⟨front, last, rfl⟩
  · exact ⟨fun _ => .inl rfl, fun _ => .inl rfl⟩
  · have before : kindBefore none (front.concat last) = some last.kind := by simp [kindBefore]
    rw [before]
    constructor
    · rintro (empty | ⟨others, literal, split, kind⟩)
      · simp at empty
      · rw [List.concat_eq_append] at split
        rw [(List.append_inj' split rfl).2 |> List.cons.inj |>.1, kind]
        exact .inr rfl
    · rintro (empty | kind)
      · cases empty
      · exact .inr ⟨front, last, List.concat_eq_append, Option.some.inj kind⟩

theorem Visit.mode_reference {config : Config} {visit : Visit} (kind : visit.node.kind = .reference) :
    visit.mode config =
      if config.undefinedOutput = true ∧ visit.depth = 0 ∧
        (visit.before = none ∨ visit.before = some .literal) then .visible else .plain := by
  simp [Visit.mode, Lowering.referenceMode, kind, and_assoc]

theorem Visit.mode_quiet {config : Config} {visit : Visit} (kind : visit.node.kind = .quietReference) :
    visit.mode config = .quiet := by
  simp [Visit.mode, Lowering.referenceMode, kind]

theorem Visit.callsShow_iff {config : Config} {visit : Visit} : visit.callsShow config = true ↔
    visit.node.kind = .quietReference ∨ visit.node.kind = .reference ∧ config.undefinedOutput = true ∧
      visit.depth = 0 ∧ (visit.before = none ∨ visit.before = some .literal) := by
  by_cases quiet : visit.node.kind = .quietReference
  · simp [Visit.callsShow, Visit.isReference, Visit.mode_quiet quiet, quiet]
  · by_cases reference : visit.node.kind = .reference
    · simp only [Visit.callsShow, Visit.isReference, Visit.mode_reference reference, reference]
      split <;> simp [*]
    · simp [Visit.callsShow, Visit.isReference, quiet, reference]

theorem Visit.callsText_iff {config : Config} {visit : Visit} : visit.callsText config = true ↔
    visit.node.kind = .reference ∧ visit.depth = 0 ∧
      ¬ (config.undefinedOutput = true ∧ (visit.before = none ∨ visit.before = some .literal)) := by
  by_cases reference : visit.node.kind = .reference
  · by_cases top : visit.depth = 0
    · simp only [Visit.callsText, Visit.isReference, Visit.mode_reference reference, reference, top]
      split <;> simp_all
    · simp [Visit.callsText, top]
  · by_cases quiet : visit.node.kind = .quietReference
    · simp [Visit.callsText, Visit.mode_quiet quiet, quiet]
    · simp [Visit.callsText, Visit.isReference, quiet, reference]

/-- The visits at depth 0 to references are those to the template's own references. -/
theorem exists_top_visit_iff (nodes : List Node) (holds : Option Kind → Prop) :
    (∃ visit ∈ templateVisits nodes, visit.node.kind = .reference ∧ visit.depth = 0 ∧ holds visit.before) ↔
      ∃ earlier node later, nodes = earlier ++ node :: later ∧ node.kind = .reference ∧
        holds (kindBefore none earlier) := by
  constructor
  · rintro ⟨visit, member, kind, top, before⟩
    obtain ⟨earlier, node, later, split, inside⟩ := mem_siblingVisits.mp member
    rcases Node.visits_cases 0 _ node inside with rfl | ⟨_, deeper, _⟩
    · exact ⟨earlier, node, later, split, kind, before⟩
    · omega
  · rintro ⟨earlier, node, later, split, kind, before⟩
    have own := node.own_visit (.inr (.inl kind)) 0 (kindBefore none earlier)
    exact ⟨_, mem_siblingVisits.mpr ⟨earlier, node, later, split, own⟩, kind, rfl, before⟩

theorem KnownVisits.callsShow_iff {config : Config} {nodes : List Node}
    (known : KnownVisits (templateVisits nodes)) :
    (templateVisits nodes).any (Visit.callsShow config) = true ↔ NeedsShow config nodes := by
  have quiet : (∃ visit ∈ templateVisits nodes, visit.node.kind = .quietReference) ↔
      ∃ node, Reached nodes node ∧ node.kind = .quietReference := by
    constructor
    · rintro ⟨visit, member, kind⟩
      exact ⟨visit.node, (siblingVisits_reached 0 none nodes member).2, kind⟩
    · rintro ⟨node, reached, kind⟩
      have knownTop : ∀ top ∈ nodes, ∃ before, KnownVisits (top.visits 0 before) := by
        intro top member
        obtain ⟨earlier, later, split⟩ := List.append_of_mem member
        exact ⟨kindBefore none earlier, fun visit inside =>
          known visit (mem_siblingVisits.mpr ⟨earlier, top, later, split, inside⟩)⟩
      obtain ⟨top, member, found⟩ := reached.visited (.inr (.inr kind)) knownTop
      obtain ⟨earlier, later, split⟩ := List.append_of_mem member
      obtain ⟨visit, inside, same⟩ := found (kindBefore none earlier)
      exact ⟨visit, mem_siblingVisits.mpr ⟨earlier, top, later, split, inside⟩, by rw [same, kind]⟩
  have text := exists_top_visit_iff nodes fun before => before = none ∨ before = some .literal
  simp only [← followsText_iff] at text
  rw [List.any_eq_true, NeedsShow, ← quiet, ← text]
  simp only [Visit.callsShow_iff]
  constructor
  · rintro ⟨visit, member, kind | ⟨kind, visible, top, before⟩⟩
    · exact .inl ⟨visit, member, kind⟩
    · exact .inr ⟨visible, visit, member, kind, top, before⟩
  · rintro (⟨visit, member, kind⟩ | ⟨visible, visit, member, kind, top, before⟩)
    · exact ⟨visit, member, .inl kind⟩
    · exact ⟨visit, member, .inr ⟨kind, visible, top, before⟩⟩

theorem callsText_templateVisits_iff {config : Config} {nodes : List Node} :
    (templateVisits nodes).any (Visit.callsText config) = true ↔ NeedsText config nodes := by
  have own := exists_top_visit_iff nodes fun before =>
    ¬ (config.undefinedOutput = true ∧ (before = none ∨ before = some .literal))
  simp only [← followsText_iff] at own
  simp only [List.any_eq_true, Visit.callsText_iff, own, NeedsText]
  cases config.undefinedOutput with
  | true => simp
  | false =>
    simp only [Bool.false_eq_true, false_and, not_false_eq_true, and_true, true_and, or_false]
    constructor
    · rintro ⟨earlier, node, later, rfl, kind⟩
      exact ⟨node, by simp, kind⟩
    · rintro ⟨node, member, kind⟩
      obtain ⟨earlier, later, split⟩ := List.append_of_mem member
      exact ⟨earlier, node, later, split, kind⟩

/-- The number of places at which a word begins in a text. -/
def occurrences (word : List Char) : List Char → Nat
  | [] => 0
  | c :: cs => (if word.isPrefixOf (c :: cs) then 1 else 0) + occurrences word cs

/-- The number of declarations of a variable in a text. -/
def declarations (name text : String) : Nat :=
  occurrences ("var " ++ name ++ "=").toList text.toList

theorem isPrefixOf_append_cons {word : List Char} {c : Char} (absent : c ∉ word) (cs rest : List Char) :
    word.isPrefixOf (cs ++ c :: rest) = word.isPrefixOf cs := by
  induction word generalizing cs with
  | nil => simp
  | cons first word ih =>
    rw [List.mem_cons, not_or] at absent
    cases cs with
    | nil => simp [List.isPrefixOf, Ne.symm absent.1]
    | cons d cs => simp [List.isPrefixOf, ih absent.2]

/-- A character that does not stand in the word parts a text into two that can be counted apart. -/
theorem occurrences_append_cons {word : List Char} {c : Char} (present : word ≠ []) (absent : c ∉ word)
    (cs rest : List Char) :
    occurrences word (cs ++ c :: rest) = occurrences word cs + occurrences word rest := by
  induction cs with
  | nil =>
    have here := isPrefixOf_append_cons absent [] rest
    rw [List.nil_append] at here
    cases word with
    | nil => exact absurd rfl present
    | cons first word => simp [occurrences, here]
  | cons d cs ih =>
    rw [List.cons_append, occurrences, occurrences, ih, ← List.cons_append, isPrefixOf_append_cons absent]
    omega

theorem occurrences_append {word cs : List Char} (present : word ≠ [])
    (parted : ∀ c ∈ cs.getLast?, c ∉ word) (rest : List Char) :
    occurrences word (cs ++ rest) = occurrences word cs + occurrences word rest := by
  rcases List.eq_nil_or_concat cs with rfl | ⟨front, last, rfl⟩
  · simp [occurrences]
  · have absent : last ∉ word := parted last (by simp)
    have whole := occurrences_append_cons present absent front rest
    have own := occurrences_append_cons present absent front []
    rw [List.concat_eq_append, List.append_assoc, List.singleton_append, whole, own]
    rfl

/-- A text in which the first character of a word does not occur does not hold the word. -/
theorem occurrences_append_of_not_mem {first : Char} {word cs : List Char} (absent : first ∉ cs)
    (rest : List Char) : occurrences (first :: word) (cs ++ rest) = occurrences (first :: word) rest := by
  induction cs with
  | nil => rfl
  | cons c cs ih =>
    rw [List.mem_cons, not_or] at absent
    rw [List.cons_append, occurrences, ih absent.2]
    simp [List.isPrefixOf, absent.1]

theorem occurrences_cons_le {c : Char} {word : List Char} (present : word ≠ []) (cs : List Char) :
    occurrences (c :: word) cs ≤ occurrences word cs.tail := by
  induction cs with
  | nil => exact Nat.le_refl 0
  | cons d cs ih =>
    have here : (c :: word).isPrefixOf (d :: cs) = true → word.isPrefixOf cs = true := by
      simp only [List.isPrefixOf, Bool.and_eq_true]
      exact And.right
    rw [occurrences, List.tail_cons]
    cases cs with
    | nil =>
      have missing : ¬ word.isPrefixOf [] = true := by simpa using present
      rw [if_neg (mt here missing)]
      exact Nat.le_refl 0
    | cons e cs =>
      have whole : occurrences word (e :: cs) =
        (if word.isPrefixOf (e :: cs) then 1 else 0) + occurrences word cs := rfl
      rw [List.tail_cons] at ih
      rw [whole]
      split
      · rename_i longer
        rw [if_pos (here longer)]
        omega
      · omega

theorem occurrences_tail_le (word cs : List Char) : occurrences word cs.tail ≤ occurrences word cs := by
  cases cs with
  | nil => exact Nat.le_refl 0
  | cons c cs => exact Nat.le_add_left _ _

/-- A word occurs no more often than its end. -/
theorem occurrences_append_le {word : List Char} (present : word ≠ []) (front cs : List Char) :
    occurrences (front ++ word) cs ≤ occurrences word cs := by
  induction front with
  | nil => exact Nat.le_refl _
  | cons c front ih =>
    have first : occurrences (c :: (front ++ word)) cs ≤ _ :=
      occurrences_cons_le (List.append_ne_nil_of_right_ne_nil front present) cs
    have second := occurrences_tail_le (front ++ word) cs
    rw [List.cons_append]
    omega

/-- The names of the helpers. -/
def helperNames : List String :=
  [Script.showName, Script.textName]

/-- A text that ends with a statement or a block, or an empty one. -/
def EndsStatement (text : String) : Prop :=
  ∀ c ∈ text.toList.getLast?, c = ';' ∨ c = '\x7d'

theorem endsStatement_iff (text : String) :
    text.toList.getLast?.all (fun c => c == ';' || c == '\x7d') = true ↔ EndsStatement text := by
  unfold EndsStatement
  cases text.toList.getLast? <;> simp

instance (text : String) : Decidable (EndsStatement text) :=
  decidable_of_iff _ (endsStatement_iff text)

theorem declarations_append {own first : String} (helper : own ∈ helperNames)
    (ended : EndsStatement first) (second : String) :
    declarations own (first ++ second) = declarations own first + declarations own second := by
  have plain : ("var " ++ own ++ "=").toList ≠ [] ∧ ∀ c, c = ';' ∨ c = '\x7d' →
      c ∉ ("var " ++ own ++ "=").toList := by
    simp only [helperNames, List.mem_cons, List.not_mem_nil, or_false] at helper
    rcases helper with rfl | rfl
    · exact ⟨by decide, by rintro c (rfl | rfl) <;> decide⟩
    · exact ⟨by decide, by rintro c (rfl | rfl) <;> decide⟩
  have parted := occurrences_append plain.1 (fun c last => plain.2 c (ended c last)) second.toList
  rwa [← String.toList_append] at parted

theorem exists_chars_of_helper {own : String} (helper : own ∈ helperNames) :
    ∃ c rest, (own ++ "=").toList = '$' :: c :: rest ∧ c ≠ 'd' := by
  simp only [helperNames, List.mem_cons, List.not_mem_nil, or_false] at helper
  rcases helper with rfl | rfl
  · exact ⟨'s', ['h', 'o', 'w', '='], by decide, by decide⟩
  · exact ⟨'t', ['e', 'x', 't', '='], by decide, by decide⟩

theorem declarations_le {own : String} (helper : own ∈ helperNames) (text : String) :
    declarations own text ≤ occurrences (own ++ "=").toList text.toList := by
  obtain ⟨c, rest, chars, _⟩ := exists_chars_of_helper helper
  rw [declarations, String.append_assoc, String.toList_append]
  exact occurrences_append_le (by rw [chars]; exact List.cons_ne_nil _ _) _ _

theorem declarations_of_no_dollar {own text : String} (helper : own ∈ helperNames)
    (free : '$' ∉ text.toList) : declarations own text = 0 := by
  obtain ⟨c, rest, chars, _⟩ := exists_chars_of_helper helper
  have none : occurrences ('$' :: c :: rest) (text.toList ++ []) = 0 := occurrences_append_of_not_mem free []
  have bound := declarations_le helper text
  rw [List.append_nil] at none
  rw [chars, none] at bound
  omega

/-- The declaration of a variable that is read from the data has one dollar sign, that of the data. -/
theorem declarations_declaration {own name : String} (helper : own ∈ helperNames)
    (word : '$' ∉ name.toList) : declarations own (Script.declaration name) = 0 := by
  obtain ⟨c, rest, chars, other⟩ := exists_chars_of_helper helper
  have split : (Script.declaration name).toList =
      ("var " ++ name ++ "=").toList ++ '$' :: ("data." ++ name ++ ";").toList := by
    rw [Script.declaration_eq]
    simp [String.toList_append]
  have before : '$' ∉ ("var " ++ name ++ "=").toList := by simp [String.toList_append, word]
  have after : '$' ∉ ("data." ++ name ++ ";").toList := by simp [String.toList_append, word]
  have later : occurrences ('$' :: c :: rest) (("data." ++ name ++ ";").toList ++ []) = 0 :=
    occurrences_append_of_not_mem after []
  have bound := declarations_le helper (Script.declaration name)
  rw [List.append_nil] at later
  rw [chars, split, occurrences_append_of_not_mem before, occurrences, later] at bound
  have here : ¬ ('$' :: c :: rest).isPrefixOf ('$' :: ("data." ++ name ++ ";").toList) = true := by
    simp [List.isPrefixOf, String.toList_append, other]
  rw [if_neg here] at bound
  omega

theorem EndsStatement.append {first second : String} (here : EndsStatement first)
    (rest : EndsStatement second) : EndsStatement (first ++ second) := by
  intro c last
  rw [String.toList_append, List.getLast?_append, Option.mem_def, Option.or_eq_some_iff] at last
  rcases last with last | ⟨_, last⟩
  · exact rest c last
  · exact here c last

theorem endsStatement_semicolon (text : String) : EndsStatement (text ++ ";") := by
  intro c last
  have semicolon : ";".toList = [';'] := rfl
  rw [String.toList_append, semicolon, List.getLast?_concat] at last
  exact .inl (Option.some.inj last).symm

theorem endsStatement_declaration (name : String) : EndsStatement (Script.declaration name) :=
  endsStatement_semicolon _

theorem endsStatement_join (names : List String) :
    EndsStatement (String.join (names.map Script.declaration)) := by
  induction names with
  | nil => exact nofun
  | cons name names ih =>
    rw [List.map_cons, String.join_cons]
    exact (endsStatement_declaration name).append ih

theorem declarations_join {own : String} (helper : own ∈ helperNames) {names : List String}
    (words : ∀ name ∈ names, '$' ∉ name.toList) :
    declarations own (String.join (names.map Script.declaration)) = 0 := by
  induction names with
  | nil => rfl
  | cons name names ih =>
    rw [List.map_cons, String.join_cons, declarations_append helper (endsStatement_declaration name),
      declarations_declaration helper (words name List.mem_cons_self),
      ih fun other member => words other (List.mem_cons_of_mem _ member)]

theorem endsStatement_polyfill (polyfill : Bool) :
    EndsStatement (if polyfill then Script.arraySizePolyfill else "") := by
  cases polyfill <;> decide +kernel

theorem declarations_polyfill {own : String} (helper : own ∈ helperNames) (polyfill : Bool) :
    declarations own (if polyfill then Script.arraySizePolyfill else "") = 0 :=
  declarations_of_no_dollar helper (by cases polyfill <;> decide +kernel)

/-- The part of a program before its body declares a helper only where it defines one. -/
theorem declarations_prologue {own : String} (helper : own ∈ helperNames) {program : Script.Program}
    (words : ∀ name ∈ program.hoisted, '$' ∉ name.toList) (config : Config) :
    declarations own (program.prologue config) =
      declarations own (if program.usesShow then Script.showHelper else "") +
      declarations own (if program.usesText then Script.textHelper else "") := by
  have parts : program.prologue config = "'use strict';" ++
      ((if config.arraySizeHelper then Script.arraySizePolyfill else "") ++
      (("var " ++ Script.dataName ++ "=arguments[0]||\x7b\x7d," ++ Script.outputName ++ "='';") ++
      (String.join (program.hoisted.map Script.declaration) ++
      ((if program.usesShow then Script.showHelper else "") ++
      (if program.usesText then Script.textHelper else ""))))) := by
    delta Script.Program.prologue
    simp only [String.append_assoc]
  have strict : EndsStatement "'use strict';" ∧ '$' ∉ "'use strict';".toList := by decide +kernel
  have buffers : EndsStatement
      ("var " ++ Script.dataName ++ "=arguments[0]||\x7b\x7d," ++ Script.outputName ++ "='';") := by
    decide +kernel
  have noBuffer : declarations own
      ("var " ++ Script.dataName ++ "=arguments[0]||\x7b\x7d," ++ Script.outputName ++ "='';") = 0 := by
    simp only [helperNames, List.mem_cons, List.not_mem_nil, or_false] at helper
    rcases helper with rfl | rfl <;> decide +kernel
  have shown : EndsStatement (if program.usesShow then Script.showHelper else "") := by
    cases program.usesShow <;> decide +kernel
  rw [parts, declarations_append helper strict.1, declarations_of_no_dollar helper strict.2,
    declarations_append helper (endsStatement_polyfill _), declarations_polyfill helper,
    declarations_append helper buffers, noBuffer, declarations_append helper (endsStatement_join _),
    declarations_join helper words, declarations_append helper shown]
  omega

/-- Each helper declares itself. -/
theorem declarations_helper :
    (declarations "$show" Script.showHelper = 1 ∧ declarations "$show" Script.textHelper = 0) ∧
      declarations "$text" Script.showHelper = 0 ∧ declarations "$text" Script.textHelper = 1 := by
  decide +kernel

theorem declarations_empty (name : String) : declarations name "" = 0 := rfl

theorem declarations_show {program : Script.Program} (words : ∀ name ∈ program.hoisted, '$' ∉ name.toList)
    (config : Config) :
    declarations "$show" (program.prologue config) = if program.usesShow then 1 else 0 := by
  obtain ⟨⟨own, other⟩, _⟩ := declarations_helper
  rw [declarations_prologue (by decide) words]
  cases program.usesShow <;> cases program.usesText <;> simp [own, other, declarations_empty]

theorem declarations_text {program : Script.Program} (words : ∀ name ∈ program.hoisted, '$' ∉ name.toList)
    (config : Config) :
    declarations "$text" (program.prologue config) = if program.usesText then 1 else 0 := by
  obtain ⟨_, other, own⟩ := declarations_helper
  rw [declarations_prologue (by decide) words]
  cases program.usesShow <;> cases program.usesText <;> simp [own, other, declarations_empty]

/-- Helpers are declared exactly when they are needed. The part of a program before its body declares
each of the two helpers once if the template needs it and not at all if it does not. -/
theorem compile_declares_helpers {config : Config} {lines : LineLookup} {nodes : List Node}
    {compiled : Compiled} (accepted : compile config lines nodes = .ok compiled) :
    ∃ program, programOf config nodes = .ok program ∧
      compiled.source = program.prologue config ++ program.body ++ "return $out;" ∧
      (NeedsShow config nodes → declarations "$show" (program.prologue config) = 1) ∧
      (¬ NeedsShow config nodes → declarations "$show" (program.prologue config) = 0) ∧
      (NeedsText config nodes → declarations "$text" (program.prologue config) = 1) ∧
      (¬ NeedsText config nodes → declarations "$text" (program.prologue config) = 0) := by
  obtain ⟨body, emission, lowered, _, program, _, source⟩ := compile_eq_ok accepted
  have words : ∀ name ∈ emission.hoisted, '$' ∉ name.toList := fun name member =>
    (Lowering.variableName_of_hoisted lowered member).no_dollar
  have helpers := Lowering.lowerSiblings_helpers lowered
  have known := knownVisits_closed.siblings config 0 none "" nodes _ _ _ lowered
  have shown : emission.usesShow = true ↔ NeedsShow config nodes := by
    rw [helpers.ofShow, Bool.false_or]
    exact known.callsShow_iff
  have texted : emission.usesText = true ↔ NeedsText config nodes := by
    rw [helpers.ofText, Bool.false_or]
    exact callsText_templateVisits_iff
  refine ⟨_, program, source.trans (Script.Program.source_layout ..), ?_⟩
  rw [declarations_show words, declarations_text words, ← shown, ← texted]
  exact ⟨fun used => if_pos used, fun unused => if_neg unused, fun used => if_pos used,
    fun unused => if_neg unused⟩

/-- A reference in the text, one after another reference, and a quiet one inside a string. -/
def helperReferences : List Node :=
  [.literal "x", .reference [.verbatim "a"], .reference [.verbatim "b"],
    .directive "set" (some [.verbatim "t = ", .string [.fragment "k", .quietReference [.verbatim "q"]]])]

theorem compile_declares_helpers_mixed :
    ∃ compiled, compile ⟨false, true⟩ (fun _ => 1) helperReferences = .ok compiled ∧
      NeedsShow ⟨false, true⟩ helperReferences ∧ NeedsText ⟨false, true⟩ helperReferences ∧
      ∃ program, programOf ⟨false, true⟩ helperReferences = .ok program ∧
        compiled.source = program.prologue ⟨false, true⟩ ++ program.body ++ "return $out;" ∧
        declarations "$show" (program.prologue ⟨false, true⟩) = 1 ∧
        declarations "$text" (program.prologue ⟨false, true⟩) = 1 := by
  have part : Reached [.fragment "k", .quietReference [.verbatim "q"]] (.quietReference [.verbatim "q"]) :=
    .here (.tail _ (.head _))
  have value : Reached [.verbatim "t = ", .string [.fragment "k", .quietReference [.verbatim "q"]]]
      (.quietReference [.verbatim "q"]) := .under (.tail _ (.head _)) (by decide +kernel) rfl part
  have quiet : Reached helperReferences (.quietReference [.verbatim "q"]) :=
    .under (.tail _ (.tail _ (.tail _ (.head _)))) (by decide +kernel) rfl value
  have needsShow : NeedsShow ⟨false, true⟩ helperReferences := .inl ⟨_, quiet, rfl⟩
  have needsText : NeedsText ⟨false, true⟩ helperReferences := by
    refine .inr ⟨rfl, [.literal "x", .reference [.verbatim "a"]], .reference [.verbatim "b"], _, rfl, rfl, ?_⟩
    rw [followsText_iff]
    decide +kernel
  have accepted : compile ⟨false, true⟩ (fun _ => 1) helperReferences =
      .ok ⟨Script.Program.source ⟨false, true⟩ ⟨["a", "b", "q", "t"], true, true,
        "$out+='x';$out+=$show(()=>(a),'$a');$out+=$text(b);t = 'k'+$show(()=>(q),'');"⟩,
        ["a", "b", "q", "t"]⟩ := by
    decide +kernel
  obtain ⟨program, lowered, source, shown, _, texted, _⟩ := compile_declares_helpers accepted
  exact ⟨_, accepted, needsShow, needsText, program, lowered, source, shown needsShow, texted needsText⟩

end TemplateCompiler
