import TemplateCompiler.Proofs.LoweredText

namespace TemplateCompiler

namespace Text

/-- Trimming takes white space only. -/
theorem exists_space_around_trim (s : String) :
    ∃ leading trailing, s.toList = leading ++ ((trim s).toList ++ trailing) ∧
      (∀ c ∈ leading, isWhiteSpace c = true) ∧ ∀ c ∈ trailing, isWhiteSpace c = true := by
  let rest := dropLeadingSpace s.toList
  refine ⟨s.toList.takeWhile isWhiteSpace, (rest.reverse.takeWhile isWhiteSpace).reverse, ?_,
    List.all_eq_true.mp List.all_takeWhile, fun c member => ?_⟩
  · have trailing : dropTrailingSpace rest ++ (rest.reverse.takeWhile isWhiteSpace).reverse = rest := by
      rw [dropTrailingSpace, ← List.reverse_append, List.takeWhile_append_dropWhile, List.reverse_reverse]
    rw [trim, String.toList_ofList, trailing]
    exact List.takeWhile_append_dropWhile.symm
  · exact List.all_eq_true.mp List.all_takeWhile c (List.mem_reverse.mp member)

theorem isWhiteSpace_iff {c : Char} : isWhiteSpace c = true ↔
    ∃ range ∈ whiteSpaceRanges, range.1 ≤ c.toNat ∧ c.toNat ≤ range.2 :=
  Ranges.contains_iff

end Text

namespace Script

theorem isWordChar_toNat {c : Char} (word : isWordChar c = true) :
    (48 ≤ c.toNat ∧ c.toNat ≤ 57) ∨ (65 ≤ c.toNat ∧ c.toNat ≤ 90) ∨ c.toNat = 95 ∨
      (97 ≤ c.toNat ∧ c.toNat ≤ 122) := by
  rw [isWordChar, Bool.or_eq_true, beq_iff_eq] at word
  rcases word with alphanumeric | rfl
  · delta Char.isAlphanum Char.isAlpha Char.isUpper Char.isLower Char.isDigit at alphanumeric
    simp only [Bool.or_eq_true, Bool.and_eq_true, decide_eq_true_eq, ge_iff_le,
      UInt32.le_iff_toNat_le] at alphanumeric
    change ((65 ≤ c.toNat ∧ c.toNat ≤ 90) ∨ (97 ≤ c.toNat ∧ c.toNat ≤ 122)) ∨
      (48 ≤ c.toNat ∧ c.toNat ≤ 57) at alphanumeric
    omega
  · decide

theorem isWordChar_eq_false_of_space {c : Char} (space : Text.isWhiteSpace c = true) :
    isWordChar c = false := by
  refine Bool.eq_false_iff.mpr fun word => ?_
  have bounds := isWordChar_toNat word
  obtain ⟨range, member, low, high⟩ := Text.isWhiteSpace_iff.mp space
  simp only [Text.whiteSpaceRanges, List.mem_cons, List.not_mem_nil, or_false] at member
  rcases member with rfl | rfl | rfl | rfl | rfl | rfl | rfl | rfl | rfl | rfl <;>
    simp only at low high <;> omega

theorem takeWhile_isWordChar_of_space {cs : List Char} (space : ∀ c ∈ cs, Text.isWhiteSpace c = true) :
    cs.takeWhile isWordChar = [] := by
  cases cs with
  | nil => rfl
  | cons c cs =>
    have other := isWordChar_eq_false_of_space (space c List.mem_cons_self)
    rw [List.takeWhile_cons, other]
    rfl

/-- White space around an expression does not change its root. -/
theorem hoistableRoot?_trim (expression : String) :
    hoistableRoot? (Text.trim expression) = hoistableRoot? expression := by
  obtain ⟨leading, trailing, split, before, after⟩ := Text.exists_space_around_trim expression
  have root : rootName (Text.trimStart (Text.trim expression)) = rootName (Text.trimStart expression) := by
    simp only [rootName, Text.trimStart, Text.dropLeadingSpace, String.toList_ofList]
    rw [split, List.dropWhile_append_of_pos before, List.dropWhile_append]
    split
    · rename_i blank
      have gone : trailing.dropWhile Text.isWhiteSpace = [] :=
        Text.dropLeadingSpace_eq_nil_iff.mpr (List.all_eq_true.mpr after)
      rw [List.isEmpty_iff.mp blank, gone]
    · rw [List.takeWhile_append, takeWhile_isWordChar_of_space after, List.append_nil]
      split
      · rename_i whole
        rw [(List.takeWhile_prefix isWordChar).eq_of_length whole]
      · rfl
  rw [hoistableRoot?, hoistableRoot?, root]

end Script

/-- A name that can be declared: a run of letters, digits and underscores that does not start with a
digit and has no other meaning in a script. -/
structure VariableName (name : String) : Prop where
  nonempty : name ≠ ""
  word : ∀ c ∈ name.toList, Script.isWordChar c = true
  start : ∀ c ∈ name.toList.head?, c.isDigit = false
  free : Script.isReserved name = false

theorem VariableName.no_dollar {name : String} (valid : VariableName name) : '$' ∉ name.toList := by
  intro member
  exact absurd (valid.word '$' member) (by decide)

theorem variableName_of_root {expression name : String}
    (root : Script.hoistableRoot? expression = some name) : VariableName name := by
  simp only [Script.hoistableRoot?, Option.ite_none_right_eq_some, Option.some.injEq] at root
  obtain ⟨hoistable, same⟩ := root
  rw [same] at hoistable
  simp only [Script.isHoistable, Bool.and_eq_true, Bool.not_eq_true'] at hoistable
  obtain ⟨⟨nonempty, start⟩, free⟩ := hoistable
  refine ⟨fun empty => ?_, fun c member => ?_, fun c first => ?_, free⟩
  · rw [empty] at nonempty
    cases nonempty
  · rw [← same, Script.rootName, String.toList_ofList] at member
    exact List.all_eq_true.mp List.all_takeWhile c member
  · rw [Option.mem_def.mp first] at start
    exact start

/-- The roots of a sequence of expressions, as far as these are known. -/
def rootsOf (reads : List (Option String)) : List String :=
  reads.filterMap (·.bind Script.hoistableRoot?)

theorem rootsOf_append (first second : List (Option String)) :
    rootsOf (first ++ second) = rootsOf first ++ rootsOf second :=
  List.filterMap_append

theorem rootsOf_singleton (expression : String) :
    rootsOf [some expression] = (Script.hoistableRoot? expression).toList := by
  simp only [rootsOf, List.filterMap_cons, Option.bind_some]
  cases Script.hoistableRoot? expression <;> rfl

/-- Hoisting the given expressions in turn, which are all known, leads from one list of variables to
the other: the roots that are new are added in the order of their first occurrences. -/
structure Hoists (reads : List (Option String)) (earlier later : List String) : Prop where
  known : ∀ read ∈ reads, read.isSome = true
  distinct : earlier.Nodup → later.Nodup
  roots : ∀ names : List String, earlier = names.eraseDups → later = (names ++ rootsOf reads).eraseDups

namespace Hoists

theorem refl (names : List String) : Hoists [] names names where
  known _ member := nomatch member
  distinct := id
  roots names start := by rw [start, rootsOf, List.filterMap_nil, List.append_nil]

theorem trans {first second : List (Option String)} {earlier between later : List String}
    (start : Hoists first earlier between) (rest : Hoists second between later) :
    Hoists (first ++ second) earlier later where
  known read member := (List.mem_append.mp member).elim (start.known read) (rest.known read)
  distinct nodup := rest.distinct (start.distinct nodup)
  roots names same := by
    rw [rest.roots _ (start.roots names same), rootsOf_append, List.append_assoc]

end Hoists

theorem Emission.hoistRoot_hoists (emission : Emission) (expression : String) :
    Hoists [some expression] emission.hoisted (emission.hoistRoot expression).hoisted := by
  have known : ∀ read ∈ [some expression], read.isSome = true := by
    intro read member
    rw [List.mem_singleton.mp member]
    rfl
  unfold Emission.hoistRoot
  cases root : Script.hoistableRoot? expression with
  | none =>
    refine ⟨known, id, fun names start => ?_⟩
    rw [rootsOf_singleton, root, start, Option.toList_none, List.append_nil]
  | some name =>
    dsimp only
    split
    · rename_i present
      refine ⟨known, id, fun names start => ?_⟩
      have member : name ∈ names := by
        rw [start] at present
        exact List.mem_eraseDups.mp (List.contains_iff_mem.mp present)
      rw [rootsOf_singleton, root, start]
      simp [List.eraseDups_append, List.removeAll, member]
    · rename_i absent
      have new : name ∉ emission.hoisted := fun member => absent (List.contains_iff_mem.mpr member)
      refine ⟨known, fun nodup => ?_, fun names start => ?_⟩
      · refine List.nodup_append.mpr ⟨nodup, List.nodup_cons.mpr ⟨List.not_mem_nil, List.nodup_nil⟩, ?_⟩
        intro other member name' last same
        rw [same, List.mem_singleton.mp last] at member
        exact new member
      · have missing : name ∉ names := by
          rw [start] at new
          exact fun member => new (List.mem_eraseDups.mpr member)
        rw [rootsOf_singleton, root, start]
        simp [List.eraseDups_append, List.removeAll, missing, List.eraseDups_cons]

theorem Lowering.referenceCode_hoisted (mode : ReferenceMode) (depth : Nat) (expression : String)
    (emission : Emission) :
    (referenceCode mode depth expression emission).2.hoisted = (emission.hoistRoot expression).hoisted := by
  rw [referenceCode_emission]
  cases mode with
  | plain => by_cases top : depth = 0 <;> simp only [top, if_true, if_false]
  | quiet => dsimp only
  | visible => dsimp only

theorem Lowering.lowerReference_hoists {mode : ReferenceMode} {depth position : Nat}
    {expression code : String} {emission result : Emission}
    (run : (lowerReference mode depth expression position).run emission = .ok code result) :
    Hoists [some (Text.trim expression)] emission.hoisted result.hoisted := by
  rw [lowerReference_run] at run
  split at run <;> cases run
  rw [referenceCode_hoisted]
  exact emission.hoistRoot_hoists (Text.trim expression)

/-- An assignment is the only directive that hoists. -/
theorem Lowering.Performs.hoists {directive : Directive} {expression code : String} {position : Nat}
    {emission result : Emission} (performs : Performs expression position emission directive code result) :
    Hoists (if directive = .assign then [some (Text.trim expression)] else []) emission.hoisted result.hoisted := by
  cases performs with
  | assign =>
    obtain ⟨_, distinct, roots⟩ := emission.hoistRoot_hoists expression
    refine ⟨fun read member => ?_, distinct, fun names start => ?_⟩
    · rw [if_pos rfl, List.mem_singleton] at member
      rw [member]
      rfl
    · rw [roots names start, if_pos rfl, rootsOf_singleton, rootsOf_singleton, Script.hoistableRoot?_trim]
  | ifThen => exact Hoists.refl _
  | elseIf => exact Hoists.refl _
  | orElse => exact Hoists.refl _
  | endBlock => exact Hoists.refl _
  | forEach => exact Hoists.refl _
  | stop => exact Hoists.refl _

/-- The blocks that are open after the visits. -/
def blocksAfter (blocks : List OpenBlock) (visits : List Visit) : List OpenBlock :=
  (runBlocks blocks (blockTrace visits)).toOption.getD []

/-- What a reference or an assignment with the given children reads: the text of the children, if
they have one, without the white space around it. -/
def ownRead? (config : Config) (depth : Nat) (blocks : List OpenBlock)
    (children : Option (List Node)) : Option String :=
  ((Lowering.lowerChildren config depth children).text? blocks).map Text.trim

mutual

/-- The expressions of the references and assignments that are visited at a node and inside it, in
the order of the walk, if the walk comes to the node with the given blocks open. -/
def Node.reads (config : Config) (depth : Nat) (blocks : List OpenBlock) : Node → List (Option String)
  | ⟨kind, text, children, _⟩ =>
    match kind with
    | .literal | .verbatim | .fragment => []
    | .string => stringReads config depth blocks children
    | .reference | .quietReference =>
      childReads config (depth + 1) blocks children ++ [ownRead? config (depth + 1) blocks children]
    | .directive =>
      match Directive.ofName? (Text.trim text) with
      | none => []
      | some directive =>
        if directive.takesExpression then
          childReads config (depth + 1) blocks children ++
            if directive = .assign then [ownRead? config (depth + 1) blocks children] else []
        else []

def siblingReads (config : Config) (depth : Nat) (before : Option Kind) (blocks : List OpenBlock) :
    List Node → List (Option String)
  | [] => []
  | node :: nodes =>
    node.reads config depth blocks ++
      siblingReads config depth (some node.kind) (blocksAfter blocks (node.visits depth before)) nodes

def childReads (config : Config) (depth : Nat) (blocks : List OpenBlock) :
    Option (List Node) → List (Option String)
  | none => []
  | some nodes => siblingReads config depth none blocks nodes

def partReads (config : Config) (depth : Nat) (blocks : List OpenBlock) : List Node → List (Option String)
  | [] => []
  | node :: nodes =>
    node.reads config (depth + 1) blocks ++
      partReads config depth (blocksAfter blocks (node.visits (depth + 1) none)) nodes

def stringReads (config : Config) (depth : Nat) (blocks : List OpenBlock) :
    Option (List Node) → List (Option String)
  | none => []
  | some nodes => partReads config depth blocks nodes

end

/-- An action that succeeds hoists the given reads, which depend on the blocks that are open. -/
def HoistsReads (reads : List OpenBlock → List (Option String)) (action : Lowering String) : Prop :=
  ∀ emission code result, action.run emission = .ok code result →
    Hoists (reads emission.blocks) emission.hoisted result.hoisted

theorem FollowsBlocks.blocksAfter_eq {visits : List Visit} {action : Lowering String}
    {emission result : Emission} {code : String} (follows : FollowsBlocks visits action)
    (run : action.run emission = .ok code result) : blocksAfter emission.blocks visits = result.blocks := by
  rw [blocksAfter, follows.moves run]
  rfl

theorem HoistsReads.of_pure (code : String) : HoistsReads (fun _ => []) (pure code) := by
  intro emission code result run
  cases run
  exact Hoists.refl _

/-- The children of a reference or an assignment, and then the node itself. -/
theorem HoistsReads.expression {config : Config} {depth : Nat} {children : Option (List Node)}
    {emission between result : Emission} {expression : String}
    (inner : HoistsReads (childReads config depth · children) (Lowering.lowerChildren config depth children))
    (start : (Lowering.lowerChildren config depth children).run emission = .ok expression between)
    (own : Hoists [some (Text.trim expression)] between.hoisted result.hoisted) :
    Hoists (childReads config depth emission.blocks children ++
      [ownRead? config depth emission.blocks children]) emission.hoisted result.hoisted := by
  have text := SameText.text?_eq_some (sameText_closed.childNodes config depth children) (.inl rfl) start
  rw [ownRead?, text]
  exact (inner _ _ _ start).trans own

mutual

theorem Node.hoists (config : Config) (depth : Nat) (before after : Option Kind) :
    ∀ node : Node, HoistsReads (node.reads config depth)
      (Lowering.lowerNode config depth before after node)
  | ⟨.literal, text, _, _⟩ => .of_pure (Lowering.appendText text)
  | ⟨.verbatim, text, _, _⟩ => .of_pure text
  | ⟨.fragment, text, _, _⟩ => .of_pure (Lowering.fragmentCode before after text)
  | ⟨.string, _, children, _⟩ => hoists_string config depth children
  | ⟨.reference, _, children, _⟩ => by
    intro emission code result run
    obtain ⟨expression, between, start, own⟩ := Lowering.run_bind_eq_ok run
    exact (hoists_children config (depth + 1) children).expression start (Lowering.lowerReference_hoists own)
  | ⟨.quietReference, _, children, _⟩ => by
    intro emission code result run
    obtain ⟨expression, between, start, own⟩ := Lowering.run_bind_eq_ok run
    exact (hoists_children config (depth + 1) children).expression start (Lowering.lowerReference_hoists own)
  | ⟨.directive, text, children, position⟩ => by
    intro emission code result run
    simp only [Lowering.lowerNode] at run
    simp only [Node.reads]
    cases command : Directive.ofName? (Text.trim text) with
    | none => simp only [command] at run; cases run
    | some directive =>
      simp only [command] at run ⊢
      split at run
      · rename_i takes
        obtain ⟨expression, between, start, rest⟩ := Lowering.run_bind_eq_ok run
        have own := (Lowering.lowerDirective_performs rest).hoists
        rw [if_pos takes]
        split
        · rename_i assign
          rw [if_pos assign] at own
          exact (hoists_children config (depth + 1) children).expression start own
        · rename_i other
          rw [if_neg other] at own
          exact (hoists_children config (depth + 1) children _ _ _ start).trans own
      · rename_i silent
        have own := (Lowering.lowerDirective_performs run).hoists
        rw [if_neg silent]
        rwa [if_neg (by rintro rfl; exact silent rfl)] at own

theorem hoists_siblings (config : Config) (depth : Nat) (before : Option Kind) (text : String) :
    ∀ nodes : List Node, HoistsReads (siblingReads config depth before · nodes)
      (Lowering.lowerSiblings config depth before text nodes)
  | [] => .of_pure (Lowering.appendText text)
  | node :: nodes => by
    intro emission code result run
    have visits := followsBlocks_closed.node config depth before (nodes.head?.map Node.kind) node
    have here := Node.hoists config depth before (nodes.head?.map Node.kind) node
    rw [Lowering.lowerSiblings] at run
    split at run
    · rename_i literal
      obtain ⟨kind, content, children, position⟩ := node
      cases literal
      exact hoists_siblings config depth (some .literal) (text ++ content) nodes _ _ _ run
    · obtain ⟨own, between, start, rest⟩ := Lowering.run_bind_eq_ok run
      obtain ⟨later, final, rest, last⟩ := Lowering.run_bind_eq_ok rest
      cases last
      -- The reads of the later siblings are stated at the blocks that the trace leaves open.
      have tail := hoists_siblings config depth (some node.kind) "" nodes _ _ _ rest
      rw [← visits.blocksAfter_eq start] at tail
      exact (here _ _ _ start).trans tail

theorem hoists_children (config : Config) (depth : Nat) :
    ∀ children : Option (List Node), HoistsReads (childReads config depth · children)
      (Lowering.lowerChildren config depth children)
  | none => .of_pure ""
  | some nodes => hoists_siblings config depth none "" nodes

theorem hoists_parts (config : Config) (depth : Nat) (before : Option Kind) :
    ∀ nodes : List Node, HoistsReads (partReads config depth · nodes)
      (Lowering.lowerParts config depth before nodes)
  | [] => .of_pure ""
  | node :: nodes => by
    intro emission code result run
    rw [Lowering.lowerParts] at run
    split at run
    · rename_i fragment
      obtain ⟨kind, text, children, position⟩ := node
      cases fragment
      rw [Lowering.lowerNode, pure_bind] at run
      obtain ⟨later, final, rest, last⟩ := Lowering.run_bind_eq_ok run
      cases last
      exact hoists_parts config depth (some .fragment) nodes _ _ _ rest
    · obtain ⟨own, between, start, rest⟩ := Lowering.run_bind_eq_ok run
      obtain ⟨joined, _, unchanged, rest⟩ := Lowering.run_bind_eq_ok rest
      obtain ⟨later, final, rest, last⟩ := Lowering.run_bind_eq_ok rest
      cases unchanged
      cases last
      have visits := followsBlocks_closed.node config (depth + 1) none none node
      have tail := hoists_parts config depth (some node.kind) nodes _ _ _ rest
      rw [← visits.blocksAfter_eq start] at tail
      exact (Node.hoists config (depth + 1) none none node _ _ _ start).trans tail

theorem hoists_string (config : Config) (depth : Nat) :
    ∀ children : Option (List Node), HoistsReads (stringReads config depth · children)
      (Lowering.lowerString config depth children)
  | none => .of_pure "''"
  | some [] => .of_pure "''"
  | some (node :: nodes) => hoists_parts config depth none (node :: nodes)

end

/-- The expressions of all references and assignments that are visited in a template. -/
def templateReads (config : Config) (nodes : List Node) : List (Option String) :=
  siblingReads config 0 none [] nodes

theorem Lowering.lowerSequence_hoists {config : Config} {nodes : List Node} {body : String}
    {emission : Emission} (lowered : (lowerSequence config 0 nodes).run {} = .ok body emission) :
    Hoists (templateReads config nodes) [] emission.hoisted :=
  hoists_siblings config 0 none "" nodes _ _ _ lowered

theorem Lowering.variableName_of_hoisted {config : Config} {nodes : List Node} {body name : String}
    {emission : Emission} (lowered : (lowerSequence config 0 nodes).run {} = .ok body emission)
    (member : name ∈ emission.hoisted) : VariableName name := by
  rw [(lowerSequence_hoists lowered).roots [] rfl, List.mem_eraseDups, List.nil_append] at member
  obtain ⟨read, _, root⟩ := List.mem_filterMap.mp member
  obtain ⟨expression, _, root⟩ := Option.bind_eq_some_iff.mp root
  exact variableName_of_root root

theorem Script.declaration_eq (name : String) :
    declaration name = "var " ++ name ++ "=$data." ++ name ++ ";" := by
  have access : "=$data." = "=" ++ dataName ++ "." := by decide
  rw [access, declaration]
  simp only [String.append_assoc]

/-- The layout of a program. -/
theorem Script.Program.source_eq (config : Config) (program : Program) :
    program.source config =
      "'use strict';" ++ (if config.arraySizeHelper then arraySizePolyfill else "") ++
      "var $data=arguments[0]||\x7b\x7d,$out='';" ++
      String.join (program.hoisted.map fun name => "var " ++ name ++ "=$data." ++ name ++ ";") ++
      (if program.usesShow then showHelper else "") ++
      (if program.usesText then textHelper else "") ++ program.body ++ "return $out;" := by
  have buffers : "var $data=arguments[0]||\x7b\x7d,$out='';" =
      "var " ++ dataName ++ "=arguments[0]||\x7b\x7d," ++ outputName ++ "='';" := by decide +kernel
  have ending : "return $out;" = returnOutput := by decide +kernel
  rw [← funext declaration_eq, buffers, ending]
  -- Rewriting with the equation of a long string term evaluates the string.
  delta source prologue
  simp only [String.append_assoc]

/-- Hoisting is exact. The variables of a compiled template are distinct names that can be declared,
they are the roots of everything that the template reads in the order of first occurrence, and the
program declares each of them once and in this order, right after its output and before its helpers
and its body. -/
theorem compile_hoists_roots {config : Config} {lines : LineLookup} {nodes : List Node}
    {compiled : Compiled} (accepted : compile config lines nodes = .ok compiled) :
    compiled.hoisted.Nodup ∧
    (∀ name ∈ compiled.hoisted, VariableName name ∧ '$' ∉ name.toList) ∧
    (∀ read ∈ templateReads config nodes, read.isSome = true) ∧
    compiled.hoisted = (rootsOf (templateReads config nodes)).eraseDups ∧
    ∃ program, programOf config nodes = .ok program ∧
      compiled.source =
        "'use strict';" ++ (if config.arraySizeHelper then Script.arraySizePolyfill else "") ++
        "var $data=arguments[0]||\x7b\x7d,$out='';" ++
        String.join (compiled.hoisted.map fun name => "var " ++ name ++ "=$data." ++ name ++ ";") ++
        (if program.usesShow then Script.showHelper else "") ++
        (if program.usesText then Script.textHelper else "") ++ program.body ++ "return $out;" := by
  obtain ⟨body, emission, lowered, _, program, names, source⟩ := compile_eq_ok accepted
  obtain ⟨known, distinct, roots⟩ := Lowering.lowerSequence_hoists lowered
  rw [names, source]
  refine ⟨distinct List.nodup_nil, fun name member => ?_, known, roots [] rfl, _, program, ?_⟩
  · have valid := Lowering.variableName_of_hoisted lowered member
    exact ⟨valid, valid.no_dollar⟩
  · exact Script.Program.source_eq ..

/-- References inside a string, inside another reference and inside an assignment, names that come
again, and expressions that have no root to declare. -/
def nestedReads : List Node :=
  [.reference [.verbatim "m[", .string [.fragment "k", .reference [.verbatim "a.b"]], .verbatim "]"],
    .directive "if" (some [.verbatim "c"]),
    .reference [.quietReference [.verbatim "x.y"], .verbatim ".z"],
    .directive "set" (some [.verbatim " total = ", .reference [.verbatim "a"]]),
    .directive "end" none, .reference [.verbatim "this.m"]]

theorem compile_hoists_roots_nested :
    templateReads {} nestedReads = [some "a.b", some "m['k'+a.b]", some "x.y",
      some "$show(()=>(x?.y),'').z", some "a", some "total = a", some "this.m"] ∧
    ∃ compiled, compile {} (fun _ => 1) nestedReads = .ok compiled ∧
      compiled.hoisted = ["a", "m", "x", "total"] ∧ compiled.hoisted.Nodup ∧
      (∀ name ∈ compiled.hoisted, VariableName name ∧ '$' ∉ name.toList) ∧
      compiled.hoisted = (rootsOf (templateReads {} nestedReads)).eraseDups ∧
      ∃ program, programOf {} nestedReads = .ok program ∧
        compiled.source =
          "'use strict';" ++ "" ++ "var $data=arguments[0]||\x7b\x7d,$out='';" ++
          String.join (["a", "m", "x", "total"].map fun name => "var " ++ name ++ "=$data." ++ name ++ ";") ++
          (if program.usesShow then Script.showHelper else "") ++
          (if program.usesText then Script.textHelper else "") ++ program.body ++ "return $out;" := by
  have accepted : compile {} (fun _ => 1) nestedReads =
      .ok ⟨Script.Program.source {} ⟨["a", "m", "x", "total"], true, true,
        "$out+=$text(m['k'+a.b]);if(c)\x7b$out+=$text($show(()=>(x?.y),'').z); total = a;\x7d" ++
          "$out+=$text(this.m);"⟩, ["a", "m", "x", "total"]⟩ := by
    decide +kernel
  obtain ⟨distinct, names, _, roots, source⟩ := compile_hoists_roots accepted
  exact ⟨by decide +kernel, _, accepted, rfl, distinct, names, roots, source⟩

end TemplateCompiler
