import TemplateCompiler.Proofs.ClosedText
import TemplateCompiler.Proofs.ForestEmission

namespace TemplateCompiler

theorem closed_outputName : Closed Script.outputName := .of_chars (by decide)

theorem closed_loopBodyName : Closed Script.loopBodyName := .of_chars (by decide)

theorem closed_semicolon : Closed ";" := .of_chars (by decide)

theorem closed_var : Closed "var " := .of_chars (by decide)

theorem scans_openParenthesis : Scans {} "(" ⟨.outside, [')']⟩ := .of_chars (by decide)

/-- From the end of a condition or of a list of parameters into the body. -/
theorem scans_openBody : Scans ⟨.outside, [')']⟩ ")\x7b" ⟨.outside, ['\x7d']⟩ := .of_chars (by decide)

theorem closed_optional (flag : Bool) {text : String} (closed : Closed text) :
    Closed (if flag then text else "") := by
  split
  · exact closed
  · exact Scans.empty {}

theorem closed_returnOutput : Closed Script.returnOutput := by
  have opening : Closed "return " := .of_chars (by decide)
  exact (opening.append closed_outputName).append closed_semicolon

theorem closed_appendText (text : String) : Closed (Lowering.appendText text) := by
  unfold Lowering.appendText
  split
  · exact Scans.empty {}
  · have opening : Scans {} "+='" ⟨.inside '\'', []⟩ := .of_chars (by decide)
    have closing : Scans ⟨.inside '\'', []⟩ "';" {} := .of_chars (by decide)
    have quoted := ((closed_outputName.scans []).append opening).append (scans_escapeLiteral text [])
    exact quoted.append closing

theorem closed_guarded {expression fallback : String} (closed : Closed expression)
    (quoted : ∀ due, Scans ⟨.inside '\'', due⟩ fallback ⟨.inside '\'', due⟩) :
    Closed (Lowering.guarded expression fallback) := by
  have name : Closed Script.showName := .of_chars (by decide)
  have opening : Scans {} "(()=>(" ⟨.outside, [')', ')']⟩ := .of_chars (by decide)
  have middle : Scans ⟨.outside, [')', ')']⟩ "),'" ⟨.inside '\'', [')']⟩ := .of_chars (by decide)
  have closing : Scans ⟨.inside '\'', [')']⟩ "')" {} := .of_chars (by decide)
  have value := ((name.scans []).append opening).append (closed.safeNavigation.scans [')', ')'])
  exact ((value.append middle).append (quoted [')'])).append closing

/-- A reference in the template's own text is closed in each of its modes. -/
theorem closed_referenceCode (mode : Lowering.ReferenceMode) {expression : String}
    (closed : Closed expression) (emission : Emission) :
    Closed (Lowering.referenceCode mode 0 expression emission).1 := by
  have adding : Closed "+=" := .of_chars (by decide)
  have appended : ∀ {value : String}, Closed value →
      Closed (Script.outputName ++ "+=" ++ value ++ ";") := fun value =>
    ((closed_outputName.append adding).append value).append closed_semicolon
  unfold Lowering.referenceCode
  cases mode with
  | plain =>
    have name : Closed Script.textName := .of_chars (by decide)
    have closing : Scans ⟨.outside, [')']⟩ ")" {} := .of_chars (by decide)
    have value := ((name.scans []).append scans_openParenthesis).append (closed.scans [')'])
    exact appended (value.append closing)
  | quiet => exact appended (closed_guarded closed fun due => Scans.empty _)
  | visible => exact appended (closed_guarded closed (scans_escapeLiteral _))

/-- The brackets that the start of a loop leaves open. -/
def loopDue : List Char :=
  ['\x7d', '\x7d', ')', ')']

theorem scans_openLoop {key collection : String} (closedKey : Closed key)
    (closedCollection : Closed collection) (due : List Char) :
    Scans ⟨.outside, due⟩ (Script.openLoop key collection) ⟨.outside, loopDue ++ due⟩ := by
  have opening : Scans {} "if((function()\x7bvar $c=" ⟨.outside, ['\x7d', ')', ')']⟩ :=
    .of_chars (by decide)
  have lengths : Closed ",$k=Array.isArray($c)?null:Object.keys($c==null?\x7b\x7d:$c),$len=$k?$k.length:$c.length;" :=
    .of_chars (by decide)
  have rounds : Scans {} "for(var $i=0;$i<$len;$i++)\x7bif(" ⟨.outside, [')', '\x7d']⟩ :=
    .of_chars (by decide)
  have call : Scans ⟨.outside, [')', '\x7d']⟩
      "($k?$c[$k[$i]]:$c[$i],\x7bcount:$i+1,index:$i,hasNext:$i<$len-1\x7d)!==undefined)return "
      ⟨.outside, ['\x7d']⟩ := .of_chars (by decide)
  have function : Scans ⟨.outside, ['\x7d']⟩ ";\x7dfunction " {} := .of_chars (by decide)
  have comma : Closed "," := .of_chars (by decide)
  have state : Closed Script.loopStateName := .of_chars (by decide)
  have header := ((opening.frame due).append (closedCollection.scans _)).append (lengths.scans _)
  have returning := (((header.append (rounds.frame _)).append (closed_loopBodyName.scans _)).append
    (call.frame _)).append (closed_outputName.scans _)
  have declared := ((returning.append (function.frame _)).append (closed_loopBodyName.scans _)).append
    (scans_openParenthesis.frame _)
  delta Script.openLoop
  exact (((declared.append (closedKey.scans _)).append (comma.scans _)).append (state.scans _)).append
    (scans_openBody.frame _)

theorem scans_closeLoop (due : List Char) :
    Scans ⟨.outside, loopDue ++ due⟩ Script.closeLoop ⟨.outside, due⟩ := by
  have closing : Scans ⟨.outside, loopDue⟩ "\x7d\x7d)()!==undefined)\x7breturn " ⟨.outside, ['\x7d']⟩ :=
    .of_chars (by decide)
  have ending : Scans ⟨.outside, ['\x7d']⟩ ";\x7d" {} := .of_chars (by decide)
  exact ((closing.append (closed_outputName.scans _)).append ending).frame due

/-- The expressions that go from a node of the template's own text into the program are closed. -/
structure Node.HasClosedParts (config : Config) (node : Node) : Prop where
  reference : node.kind = .reference ∨ node.kind = .quietReference →
    ∀ expression ∈ node.expression? config, Closed expression
  directive : node.command? = some .ifThen ∨ node.command? = some .elseIf ∨ node.command? = some .assign →
    ∀ expression ∈ node.expression? config, Closed expression
  loop : node.command? = some .forEach →
    ∀ expression ∈ node.expression? config, ∀ parts ∈ Lowering.loopParts? (Text.trim expression),
      Closed parts.1 ∧ Closed parts.2

instance (config : Config) (node : Node) : Decidable (node.HasClosedParts config) :=
  decidable_of_iff
    ((node.kind = .reference ∨ node.kind = .quietReference →
        ∀ expression ∈ node.expression? config, Closed expression) ∧
      (node.command? = some .ifThen ∨ node.command? = some .elseIf ∨ node.command? = some .assign →
        ∀ expression ∈ node.expression? config, Closed expression) ∧
      (node.command? = some .forEach →
        ∀ expression ∈ node.expression? config, ∀ parts ∈ Lowering.loopParts? (Text.trim expression),
          Closed parts.1 ∧ Closed parts.2))
    ⟨fun ⟨reference, directive, loop⟩ => ⟨reference, directive, loop⟩,
      fun ⟨reference, directive, loop⟩ => ⟨reference, directive, loop⟩⟩

/-- Literal text, a reference or a directive. -/
def Node.IsTextual (node : Node) : Prop :=
  node.kind = .literal ∨ node.kind = .reference ∨ node.kind = .quietReference ∨ node.kind = .directive

instance (node : Node) : Decidable node.IsTextual :=
  inferInstanceAs (Decidable (_ ∨ _ ∨ _ ∨ _))

/-- The text of a reference in the template's own text comes from its expression. -/
theorem Lowering.text?_reference {config : Config} {before after : Option Kind} {node : Node}
    {code : String} (kind : node.kind = .reference ∨ node.kind = .quietReference)
    (text : (lowerNode config 0 before after node).text? [] = some code) :
    ∃ expression emission, node.expression? config = some expression ∧
      code = (referenceCode (referenceMode config 0 before node.kind) 0 (Text.trim expression) emission).1 := by
  have lowered : lowerNode config 0 before after node = (do
      let expression ← lowerChildren config 1 node.children
      lowerReference (referenceMode config 0 before node.kind) 0 expression node.position) := by
    obtain ⟨kind', text, children, position⟩ := node
    rcases kind with rfl | rfl <;> rfl
  rw [lowered] at text
  obtain ⟨result, run⟩ := exists_run_of_text? text
  obtain ⟨expression, between, start, rest⟩ := run_bind_eq_ok run
  rw [lowerReference_run] at rest
  split at rest <;> cases rest
  refine ⟨expression, between, ?_, rfl⟩
  rw [Node.expression?, text?, start]

theorem Leaf.closed {config : Config} {before after : Option Kind} {leaf : Leaf} {code : String}
    (textual : leaf.1.IsTextual) (parts : leaf.1.HasClosedParts config) (text : leaf.1.kind ≠ .literal)
    (written : leaf.code? config before after = some code) : Closed code := by
  unfold code? at written
  rcases leaf.2 with ordinary | stop | assign
  · have reference : leaf.1.kind = .reference ∨ leaf.1.kind = .quietReference := by
      rcases textual with literal | reference | quiet | directive
      · exact absurd literal text
      · exact .inl reference
      · exact .inr quiet
      · exact absurd directive ordinary
    rw [Node.command?, if_neg ordinary] at written
    obtain ⟨expression, emission, own, rfl⟩ := Lowering.text?_reference reference written
    exact closed_referenceCode _ (parts.reference reference expression own).trim emission
  · rw [stop] at written
    cases written
    exact closed_returnOutput
  · rw [assign] at written
    obtain ⟨expression, own, rfl⟩ := Option.map_eq_some_iff.mp written
    exact (parts.directive (.inr (.inr assign)) expression own).append closed_semicolon

/-- The head of a later arm closes the block before it and opens its own. -/
theorem ArmHead.scans {config : Config} {head : ArmHead} {code : String}
    (parts : head.1.HasClosedParts config) (written : head.code? config = some code) :
    Scans ⟨.outside, ['\x7d']⟩ code ⟨.outside, ['\x7d']⟩ := by
  unfold code? at written
  split at written
  · rename_i elseIf
    obtain ⟨expression, own, rfl⟩ := Option.map_eq_some_iff.mp written
    have opening : Scans ⟨.outside, ['\x7d']⟩ "\x7delse if(" ⟨.outside, [')']⟩ := .of_chars (by decide)
    have condition := parts.directive (.inr (.inl elseIf)) expression own
    exact (opening.append (condition.scans _)).append scans_openBody
  · cases written
    exact .of_chars (by decide)

mutual

/-- The code of a forest is closed, whatever literal text it starts with. -/
theorem Forest.closed (config : Config) : ∀ (forest : Forest) {before after : Option Kind}
    {run code : String}, (∀ node ∈ forest.flatten, node.IsTextual ∧ node.HasClosedParts config) →
    forest.code? config before run after = some code → Closed code
  | .nil, _, _, run, _, _, written => by
    cases written
    exact closed_appendText run
  | .leaf leaf rest, before, after, run, code, parts, written => by
    have restParts := fun node member => parts node (List.mem_cons_of_mem _ member)
    rw [Forest.code?] at written
    split at written
    · exact Forest.closed config rest restParts written
    · rename_i text
      obtain ⟨own, ownCode, written⟩ := Option.bind_eq_some_iff.mp written
      obtain ⟨later, restCode, written⟩ := Option.bind_eq_some_iff.mp written
      obtain ⟨textual, ownParts⟩ := parts leaf.1 List.mem_cons_self
      cases written
      exact ((closed_appendText run).append (Leaf.closed textual ownParts text ownCode)).append
        (Forest.closed config rest restParts restCode)
  | .conditional opener body arms rest, before, after, run, code, parts, written => by
    simp only [Forest.flatten, List.mem_cons, List.mem_append] at parts
    obtain ⟨condition, expression, written⟩ := Option.bind_eq_some_iff.mp written
    obtain ⟨inside, bodyCode, written⟩ := Option.bind_eq_some_iff.mp written
    obtain ⟨others, armsCode, written⟩ := Option.bind_eq_some_iff.mp written
    obtain ⟨later, restCode, written⟩ := Option.bind_eq_some_iff.mp written
    cases written
    have opening : Scans {} "if(" ⟨.outside, [')']⟩ := .of_chars (by decide)
    have closedCondition : Closed condition :=
      (parts opener.1 (.inl rfl)).2.directive (.inl opener.2) condition expression
    have closedBody : Closed inside :=
      Forest.closed config body (fun node member => parts node (.inr (.inl member))) bodyCode
    have closedArms : Scans ⟨.outside, ['\x7d']⟩ others {} :=
      Arms.scans config arms (fun node member => parts node (.inr (.inr (.inl member)))) armsCode
    have closedRest : Closed later :=
      Forest.closed config rest (fun node member => parts node (.inr (.inr (.inr member)))) restCode
    have block : Closed ("if(" ++ condition ++ ")\x7b" ++ inside ++ others) :=
      (((opening.append (closedCondition.scans _)).append scans_openBody).append
        (closedBody.scans _)).append closedArms
    exact ((closed_appendText run).append block).append closedRest
  | .loop opener body closer rest, before, after, run, code, parts, written => by
    simp only [Forest.flatten, List.mem_cons, List.mem_append] at parts
    obtain ⟨text, expression, written⟩ := Option.bind_eq_some_iff.mp written
    obtain ⟨⟨key, collection⟩, split, written⟩ := Option.bind_eq_some_iff.mp written
    obtain ⟨inside, bodyCode, written⟩ := Option.bind_eq_some_iff.mp written
    obtain ⟨later, restCode, written⟩ := Option.bind_eq_some_iff.mp written
    cases written
    obtain ⟨closedKey, closedCollection⟩ :=
      (parts opener.1 (.inl rfl)).2.loop opener.2 text expression (key, collection) split
    have closedBody : Closed inside :=
      Forest.closed config body (fun node member => parts node (.inr (.inl member))) bodyCode
    have closedRest : Closed later :=
      Forest.closed config rest (fun node member => parts node (.inr (.inr (.inr member)))) restCode
    have block : Closed (Script.openLoop key collection ++ inside ++ Script.closeLoop) :=
      ((scans_openLoop closedKey closedCollection []).append (closedBody.scans _)).append
        (scans_closeLoop [])
    exact ((closed_appendText run).append block).append closedRest

/-- The later arms of a conditional close the block that is open before them. -/
theorem Arms.scans (config : Config) : ∀ (arms : Arms) {code : String},
    (∀ node ∈ arms.flatten, node.IsTextual ∧ node.HasClosedParts config) →
    arms.code? config = some code → Scans ⟨.outside, ['\x7d']⟩ code {}
  | .close closer, code, _, written => by
    cases written
    exact .of_chars (by decide)
  | .arm head body arms, code, parts, written => by
    simp only [Arms.flatten, List.mem_cons, List.mem_append] at parts
    obtain ⟨own, headCode, written⟩ := Option.bind_eq_some_iff.mp written
    obtain ⟨inside, bodyCode, written⟩ := Option.bind_eq_some_iff.mp written
    obtain ⟨others, armsCode, written⟩ := Option.bind_eq_some_iff.mp written
    cases written
    have closedBody : Closed inside :=
      Forest.closed config body (fun node member => parts node (.inr (.inl member))) bodyCode
    have closedArms := Arms.scans config arms (fun node member => parts node (.inr (.inr member))) armsCode
    exact ((ArmHead.scans (parts head.1 (.inl rfl)).2 headCode).append (closedBody.scans _)).append
      closedArms

end

theorem closed_join {texts : List String} (closed : ∀ text ∈ texts, Closed text) :
    Closed (String.join texts) := by
  induction texts with
  | nil => exact Scans.empty {}
  | cons text texts ih =>
    rw [String.join_cons]
    exact (closed text List.mem_cons_self).append
      (ih fun other member => closed other (List.mem_cons_of_mem text member))

theorem VariableName.closed_declaration {name : String} (valid : VariableName name) :
    Closed ("var " ++ name ++ "=$data." ++ name ++ ";") := by
  have access : Closed "=$data." := .of_chars (by decide)
  exact (((closed_var.append valid.closed).append access).append valid.closed).append closed_semicolon

theorem closed_showHelper : Closed Script.showHelper := by
  have name : Closed Script.showName := .of_chars (by decide)
  have guard : Scans {} "=function(g,f)\x7bvar v;try\x7bv=g();\x7dcatch(e)\x7breturn f;\x7d" ⟨.outside, ['\x7d']⟩ :=
    .of_chars (by decide)
  have choice : Scans ⟨.outside, ['\x7d']⟩ "return v||v===0?v:f;\x7d;" {} := .of_chars (by decide)
  exact (((closed_var.append name).scans []).append guard).append choice

theorem closed_textHelper : Closed Script.textHelper := by
  have name : Closed Script.textName := .of_chars (by decide)
  have body : Closed "=function(v)\x7breturn v==null?'':v;\x7d;" := .of_chars (by decide)
  exact (closed_var.append name).append body

/-- A program is closed if its body is. -/
theorem Script.Program.closed_source (config : Config) {program : Program}
    (names : ∀ name ∈ program.hoisted, VariableName name) (body : Closed program.body) :
    Closed (program.source config) := by
  have strict : Closed "'use strict';" := .of_chars (by decide)
  have polyfill : Closed arraySizePolyfill := .of_chars (by decide)
  have buffers : Closed "var $data=arguments[0]||\x7b\x7d,$out='';" := .of_chars (by decide)
  have declarations : Closed (String.join
      (program.hoisted.map fun name => "var " ++ name ++ "=$data." ++ name ++ ";")) := by
    refine closed_join fun text member => ?_
    obtain ⟨name, hoisted, rfl⟩ := List.mem_map.mp member
    exact (names name hoisted).closed_declaration
  have ending : Closed "return $out;" := .of_chars (by decide)
  rw [source_eq]
  have prologue := ((strict.append (closed_optional config.arraySizeHelper polyfill)).append
    buffers).append declarations
  have helpers := (prologue.append (closed_optional program.usesShow closed_showHelper)).append
    (closed_optional program.usesText closed_textHelper)
  exact (helpers.append body).append ending

/-- The whole program is lexically closed. For an accepted template of literal text, references and
directives without directives further down, it is enough that the expressions which go into the
program are closed, whatever the literal text and the nesting of the blocks. -/
theorem compile_closed {config : Config} {lines : LineLookup} {nodes : List Node} {compiled : Compiled}
    (textual : ∀ node ∈ nodes, node.IsTextual) (flat : ∀ node ∈ nodes, node.IsFlat)
    (closed : ∀ node ∈ nodes, node.HasClosedParts config)
    (accepted : compile config lines nodes = .ok compiled) : Closed compiled.source := by
  obtain ⟨body, emission, lowered, ended, _, _, source⟩ := compile_eq_ok accepted
  obtain ⟨forest, rfl, written⟩ := exists_forest_of_lowered flat lowered ended
  rw [source]
  refine Script.Program.closed_source config (fun name => Lowering.variableName_of_hoisted lowered) ?_
  exact forest.closed config (fun node member => ⟨textual node member, closed node member⟩) written

/-- Literal text, a fallback text and expressions that hold quotes, backslashes and brackets. -/
def quotedBlocks : List Node :=
  [.literal "it's \x7b", .reference [.verbatim " m['\\'('].n "],
    .directive "foreach" (some [.verbatim "x in f('[')"]), .quietReference [.verbatim "x['a'](1)"],
    .directive "if" (some [.verbatim "x"]), .literal "\\", .directive "elseif" (some [.verbatim "(y)"]),
    .literal ")", .directive "else" none, .directive "break" none, .directive "end" none,
    .directive "end" none, .directive "set" (some [.verbatim "n = [1]"])]

theorem compile_closed_quoted :
    (∀ node ∈ quotedBlocks, node.IsTextual) ∧ (∀ node ∈ quotedBlocks, node.IsFlat) ∧
    (∀ node ∈ quotedBlocks, node.HasClosedParts ⟨true, true⟩) ∧
    ∃ compiled, compile ⟨true, true⟩ (fun _ => 1) quotedBlocks = .ok compiled ∧ Closed compiled.source := by
  have textual : ∀ node ∈ quotedBlocks, node.IsTextual := by decide +kernel
  have flat : ∀ node ∈ quotedBlocks, node.IsFlat := by decide +kernel
  have closed : ∀ node ∈ quotedBlocks, node.HasClosedParts ⟨true, true⟩ := by decide +kernel
  have present : (compile ⟨true, true⟩ (fun _ => 1) quotedBlocks).toOption.isSome = true := by
    decide +kernel
  refine ⟨textual, flat, closed, ?_⟩
  cases accepted : compile ⟨true, true⟩ (fun _ => 1) quotedBlocks with
  | error diagnostic =>
    rw [accepted] at present
    cases present
  | ok compiled => exact ⟨compiled, rfl, compile_closed textual flat closed accepted⟩

end TemplateCompiler
