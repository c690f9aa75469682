import TemplateCompiler.Json.Token
import TemplateCompiler.Proofs.Hoisting

namespace TemplateCompiler

namespace Script

/-- Splits the text after an opening single quote at the quote that ends the string. A backslash
hides the character after it. -/
def splitQuoted? : List Char → Option (List Char × List Char)
  | [] => none
  | '\'' :: cs => some ([], cs)
  | '\\' :: c :: cs => (splitQuoted? cs).map fun (inside, rest) => ('\\' :: c :: inside, rest)
  | c :: cs => (splitQuoted? cs).map fun (inside, rest) => (c :: inside, rest)

def lineEnds : List Char :=
  ['\n', '\r', '\u2028', '\u2029']

def shortEscape? : Char → Option Char
  | '\\' => some '\\'
  | '\'' => some '\''
  | 'n' => some '\n'
  | 'r' => some '\r'
  | _ => none

/-- The character that a backslash, a `u` and four digits stand for. -/
def longEscape? (a b c d : Char) : Option Char := do
  let code ← Json.Token.hexCode? a b c d
  if code.isValidChar then some (Char.ofNat code) else none

/-- The text that the inside of a single-quoted string denotes. A quote or a line break that is not
escaped does not belong there. -/
def denoted? : List Char → Option (List Char)
  | [] => some []
  | '\\' :: 'u' :: a :: b :: c :: d :: cs =>
    (longEscape? a b c d).bind fun char => (denoted? cs).map (char :: ·)
  | '\\' :: c :: cs => (shortEscape? c).bind fun char => (denoted? cs).map (char :: ·)
  | c :: cs => if c = '\\' ∨ c = '\'' ∨ c ∈ lineEnds then none else (denoted? cs).map (c :: ·)

def hasBareQuote : List Char → Bool
  | [] => false
  | '\\' :: _ :: cs => hasBareQuote cs
  | c :: cs => c == '\'' || hasBareQuote cs

/-- The statements of a program that writes nothing but text. -/
inductive Statement where
  /-- Appends a string to the output; this is its inside as written. -/
  | append (quoted : List Char)
  | giveBack
  deriving DecidableEq, Repr

def readStatement? : List Char → Option (Statement × List Char)
  | '$' :: 'o' :: 'u' :: 't' :: '+' :: '=' :: '\'' :: cs =>
    match splitQuoted? cs with
    | some (quoted, ';' :: rest) => some (.append quoted, rest)
    | _ => none
  | 'r' :: 'e' :: 't' :: 'u' :: 'r' :: 'n' :: ' ' :: '$' :: 'o' :: 'u' :: 't' :: ';' :: rest =>
    some (.giveBack, rest)
  | _ => none

theorem splitQuoted?_length_lt {cs inside rest : List Char}
    (found : splitQuoted? cs = some (inside, rest)) : rest.length < cs.length := by
  fun_induction splitQuoted? cs generalizing inside with
  | case1 => cases found
  | case2 cs =>
    cases found
    exact Nat.lt_succ_self _
  | case3 c cs ih =>
    obtain ⟨⟨inner, later⟩, found, same⟩ := Option.map_eq_some_iff.mp found
    cases same
    have shorter := ih found
    simp only [List.length_cons]
    omega
  | case4 c cs _ _ ih =>
    obtain ⟨⟨inner, later⟩, found, same⟩ := Option.map_eq_some_iff.mp found
    cases same
    have shorter := ih found
    simp only [List.length_cons]
    omega

theorem readStatement?_length_lt {cs rest : List Char} {statement : Statement}
    (read : readStatement? cs = some (statement, rest)) : rest.length < cs.length := by
  unfold readStatement? at read
  split at read
  · split at read
    · rename_i found
      cases read
      have shorter := splitQuoted?_length_lt found
      simp only [List.length_cons] at shorter ⊢
      omega
    · cases read
  · cases read
    simp only [List.length_cons]
    omega
  · cases read

def readStatements? (cs : List Char) : Option (List Statement) :=
  if cs.isEmpty then some []
  else
    match _read : readStatement? cs with
    | none => none
    | some (statement, rest) => (readStatements? rest).map (statement :: ·)
termination_by cs.length
decreasing_by exact readStatement?_length_lt _read

/-- The result of a program from the given output on; there is none if it does not end with its
output or if a string has no meaning. -/
def execute (output : String) : List Statement → Option String
  | [] => none
  | .append quoted :: statements => do
    let text ← denoted? quoted
    execute (output ++ String.ofList text) statements
  | .giveBack :: _ => some output

theorem readStatements?_nil : readStatements? [] = some [] := by
  rw [readStatements?]
  rfl

theorem readStatements?_of_read {cs rest : List Char} {statement : Statement}
    (read : readStatement? cs = some (statement, rest)) :
    readStatements? cs = (readStatements? rest).map (statement :: ·) := by
  have present : ¬ cs.isEmpty = true := by
    intro empty
    rw [List.isEmpty_iff.mp empty] at read
    cases read
  rw [readStatements?, if_neg present]
  split
  · rename_i missing
    cases missing.symm.trans read
  · rename_i found
    cases Option.some.inj (found.symm.trans read)
    rfl

theorem splitQuoted?_escapeLiteralChar (c : Char) (cs : List Char) :
    splitQuoted? (escapeLiteralChar c ++ cs) =
      (splitQuoted? cs).map fun (inside, rest) => (escapeLiteralChar c ++ inside, rest) := by
  have form := escapeLiteralChar_form c
  generalize escapeLiteralChar c = written at form ⊢
  cases form with
  | plain other =>
    simp only [List.mem_cons, not_or] at other
    rw [List.singleton_append, splitQuoted?]
    · rfl
    · exact other.2.1
    · exact fun _ _ backslash _ => other.1 backslash
  | _ => simp [splitQuoted?, Function.comp_def]

theorem splitQuoted?_escapeLiteral (text : String) (rest : List Char) :
    splitQuoted? ((escapeLiteral text).toList ++ '\'' :: rest) = some ((escapeLiteral text).toList, rest) := by
  rw [escapeLiteral, String.toList_ofList]
  induction text.toList with
  | nil => rfl
  | cons c cs ih => rw [List.flatMap_cons, List.append_assoc, splitQuoted?_escapeLiteralChar, ih, Option.map_some]

theorem denoted?_escapeLiteralChar (c : Char) (cs : List Char) :
    denoted? (escapeLiteralChar c ++ cs) = (denoted? cs).map (c :: ·) := by
  have form := escapeLiteralChar_form c
  generalize escapeLiteralChar c = written at form ⊢
  cases form with
  | plain other =>
    have allowed : ¬ (c = '\\' ∨ c = '\'' ∨ c ∈ lineEnds) := by rwa [← List.mem_cons, ← List.mem_cons]
    rw [List.singleton_append, denoted?, if_neg allowed]
    · exact fun _ _ _ _ _ backslash _ => allowed (.inl backslash)
    · exact fun _ _ backslash _ => allowed (.inl backslash)
  | _ => rfl

theorem denoted?_escapeLiteral (text : String) :
    denoted? (escapeLiteral text).toList = some text.toList := by
  rw [escapeLiteral, String.toList_ofList]
  induction text.toList with
  | nil => rfl
  | cons c cs ih => rw [List.flatMap_cons, denoted?_escapeLiteralChar, ih, Option.map_some]

theorem hasBareQuote_escapeLiteralChar (c : Char) (cs : List Char) :
    hasBareQuote (escapeLiteralChar c ++ cs) = hasBareQuote cs := by
  have form := escapeLiteralChar_form c
  generalize escapeLiteralChar c = written at form ⊢
  cases form with
  | plain other =>
    simp only [List.mem_cons, not_or] at other
    rw [List.singleton_append, hasBareQuote]
    · rw [beq_false_of_ne other.2.1, Bool.false_or]
    · exact fun _ _ backslash _ => other.1 backslash
  | _ => rfl

theorem hasBareQuote_escapeLiteral (text : String) : hasBareQuote (escapeLiteral text).toList = false := by
  rw [escapeLiteral, String.toList_ofList]
  induction text.toList with
  | nil => rfl
  | cons c cs ih => rw [List.flatMap_cons, hasBareQuote_escapeLiteralChar, ih]

theorem escapeLiteralChar_no_lineEnd (c : Char) : ∀ d ∈ escapeLiteralChar c, d ∉ lineEnds := by
  have form := escapeLiteralChar_form c
  generalize escapeLiteralChar c = written at form ⊢
  cases form with
  | plain other =>
    intro d member lineEnd
    rw [List.mem_singleton.mp member] at lineEnd
    exact other (List.mem_cons_of_mem _ (List.mem_cons_of_mem _ lineEnd))
  | _ => simp [lineEnds]

theorem escapeLiteral_no_lineEnd (text : String) : ∀ c ∈ (escapeLiteral text).toList, c ∉ lineEnds := by
  intro c member
  rw [escapeLiteral, String.toList_ofList] at member
  obtain ⟨original, _, written⟩ := List.mem_flatMap.mp member
  exact escapeLiteralChar_no_lineEnd original c written

/-- The statements that append a run of literal text: one, or none for an empty text. -/
def appending (text : String) : List Statement :=
  if text.isEmpty then [] else [.append (escapeLiteral text).toList]

theorem readStatements?_appendText (text : String) (cs : List Char) :
    readStatements? ((Lowering.appendText text).toList ++ cs) =
      (readStatements? cs).map (appending text ++ ·) := by
  unfold Lowering.appendText appending
  split
  · exact Option.map_id'.symm
  · have chars : (outputName ++ "+='" ++ escapeLiteral text ++ "';").toList ++ cs =
        '$' :: 'o' :: 'u' :: 't' :: '+' :: '=' :: '\'' ::
          ((escapeLiteral text).toList ++ '\'' :: ';' :: cs) := by
      have opening : (outputName ++ "+='").toList = ['$', 'o', 'u', 't', '+', '=', '\''] := by decide
      rw [String.toList_append, String.toList_append, opening, List.append_assoc, List.append_assoc]
      rfl
    have read : readStatement? ((outputName ++ "+='" ++ escapeLiteral text ++ "';").toList ++ cs) =
        some (.append (escapeLiteral text).toList, cs) := by
      rw [chars, readStatement?, splitQuoted?_escapeLiteral]
      rfl
    exact readStatements?_of_read read

theorem readStatements?_returnOutput (cs : List Char) :
    readStatements? (returnOutput.toList ++ cs) = (readStatements? cs).map (.giveBack :: ·) := by
  have chars : returnOutput.toList = "return $out;".toList := by decide +kernel
  have read : readStatement? (returnOutput.toList ++ cs) = some (.giveBack, cs) := by
    rw [chars]
    rfl
  exact readStatements?_of_read read

theorem readStatements?_join (texts : List String) :
    readStatements? (String.join (texts.map fun text => Lowering.appendText text ++ returnOutput)).toList =
      some (texts.flatMap fun text => appending text ++ [.giveBack]) := by
  induction texts with
  | nil => exact readStatements?_nil
  | cons text texts ih =>
    rw [List.map_cons, String.join_cons, String.toList_append, String.toList_append, List.append_assoc,
      readStatements?_appendText, readStatements?_returnOutput, ih, List.flatMap_cons]
    simp only [Option.map_some, List.append_assoc, List.singleton_append]

theorem execute_appending (output text : String) (statements : List Statement) :
    execute output (appending text ++ statements) = execute (output ++ text) statements := by
  unfold appending
  split
  · rename_i empty
    rw [String.isEmpty_iff.mp empty, String.append_empty, List.nil_append]
  · rw [List.singleton_append, execute, denoted?_escapeLiteral]
    simp only [Option.bind_eq_bind, Option.bind_some, String.ofList_toList]

/-- The first return ends a program, so that it gives back its first text. -/
theorem execute_runs {texts : List String} {first : String} (start : texts.head? = some first) :
    execute "" (texts.flatMap fun text => appending text ++ [.giveBack]) = some first := by
  cases texts with
  | nil => cases start
  | cons text texts =>
    cases start
    rw [List.flatMap_cons, List.append_assoc, execute_appending, String.empty_append]
    rfl

theorem eq_escapeLiteral_of_mem_appending {text : String} {quoted : List Char}
    (member : .append quoted ∈ appending text ++ [.giveBack]) : quoted = (escapeLiteral text).toList := by
  unfold appending at member
  split at member
  · simp at member
  · simpa using member

end Script

def Node.IsTextOrBreak (node : Node) : Prop :=
  node.kind = .literal ∨ node.kind = .directive ∧ Text.trim node.text = "break"

instance (node : Node) : Decidable node.IsTextOrBreak :=
  inferInstanceAs (Decidable (_ ∨ _ ∧ _))

/-- The texts of the maximal runs of literals, in order: one before, between and after all other
nodes, which is empty where no literal stands. -/
def literalRuns (nodes : List Node) : List String :=
  (nodes.splitOnP (·.kind != .literal)).map fun run => String.join (run.map Node.text)

theorem literalRuns_cons_literal {node : Node} (literal : node.kind = .literal) (nodes : List Node) :
    literalRuns (node :: nodes) = (literalRuns nodes).modifyHead (node.text ++ ·) := by
  have kept : ¬ (node.kind != .literal) = true := by rw [literal]; decide
  rw [literalRuns, List.splitOnP_cons_eq_if_modifyHead, if_neg kept, literalRuns]
  cases nodes.splitOnP (·.kind != .literal) with
  | nil => rfl
  | cons first rest => simp only [List.modifyHead_cons, List.map_cons, String.join_cons]

theorem literalRuns_cons_other {node : Node} (other : node.kind ≠ .literal) (nodes : List Node) :
    literalRuns (node :: nodes) = "" :: literalRuns nodes := by
  have splits : (node.kind != .literal) = true := bne_iff_ne.mpr other
  rw [literalRuns, List.splitOnP_cons_eq_if_modifyHead, if_pos splits]
  rfl

theorem modifyHead_empty_append (texts : List String) : texts.modifyHead ("" ++ ·) = texts := by
  cases texts with
  | nil => rfl
  | cons text texts => rw [List.modifyHead_cons, String.empty_append]

theorem head?_literalRuns (nodes : List Node) :
    (literalRuns nodes).head? =
      some (String.join ((nodes.takeWhile (·.kind == .literal)).map Node.text)) := by
  induction nodes with
  | nil => rfl
  | cons node nodes ih =>
    rw [List.takeWhile_cons]
    by_cases literal : node.kind = .literal
    · rw [literalRuns_cons_literal literal, List.head?_modifyHead, ih, if_pos (beq_iff_eq.mpr literal),
        List.map_cons, String.join_cons]
      rfl
    · have stops : ¬ (node.kind == .literal) = true := fun same => literal (beq_iff_eq.mp same)
      rw [literalRuns_cons_other literal, if_neg stops]
      rfl

theorem Lowering.lowerNode_break {node : Node} (kind : node.kind = .directive)
    (name : Text.trim node.text = "break") (config : Config) (before after : Option Kind) :
    lowerNode config 0 before after node = pure Script.returnOutput := by
  obtain ⟨kind', text, children, position⟩ := node
  cases kind
  have command : Directive.ofName? (Text.trim text) = some .stop := by
    rw [name]
    rfl
  simp only [lowerNode, command]
  rfl

/-- Literal text and breaks are lowered to the runs of the text, each followed by a return; the last
return is that of the program itself. -/
theorem Lowering.lowerSiblings_text (config : Config) {nodes : List Node}
    (plain : ∀ node ∈ nodes, node.IsTextOrBreak) (before : Option Kind) (run : String) :
    ∃ body, lowerSiblings config 0 before run nodes = pure body ∧
      body ++ Script.returnOutput = String.join (((literalRuns nodes).modifyHead (run ++ ·)).map
        fun text => appendText text ++ Script.returnOutput) := by
  induction nodes generalizing before run with
  | nil =>
    refine ⟨appendText run, rfl, ?_⟩
    rw [literalRuns]
    simp [String.join]
  | cons node nodes ih =>
    -- A literal joins the run that is not written yet, and a break writes it and starts an empty one.
    have plainRest := fun other member => plain other (List.mem_cons_of_mem _ member)
    rcases plain node List.mem_cons_self with literal | ⟨kind, name⟩
    · obtain ⟨body, lowered, written⟩ := ih plainRest (some .literal) (run ++ node.text)
      refine ⟨body, by rw [lowerSiblings, if_pos literal, lowered], ?_⟩
      rw [written, literalRuns_cons_literal literal, List.modifyHead_modifyHead]
      simp only [Function.comp_def, String.append_assoc]
    · have other : node.kind ≠ .literal := by rw [kind]; decide
      obtain ⟨body, lowered, written⟩ := ih plainRest (some node.kind) ""
      refine ⟨appendText run ++ Script.returnOutput ++ body, ?_, ?_⟩
      · rw [lowerSiblings, if_neg other, lowerNode_break kind name, lowered]
        rfl
      · rw [literalRuns_cons_other other, List.modifyHead_cons, String.append_empty, List.map_cons,
          String.join_cons, String.append_assoc, written, modifyHead_empty_append]

theorem compile_eq_ok_of_body {config : Config} {nodes : List Node} {body : String} (lines : LineLookup)
    (lowered : Lowering.lowerSequence config 0 nodes = pure body) :
    compile config lines nodes = .ok ⟨Script.Program.source config ⟨[], false, false, body⟩, []⟩ := by
  rw [compile, programOf, lowered]
  rfl

/-- Text and breaks render as written. A template of literal text and breaks always compiles, without
variables or helpers. Its body reads as the statements of its runs of literals, one append for each
run that is not empty, and the program returns the literal text before the first break. Each string
in it is free of bare quotes and line breaks. The text that stands in for a missing value is read in
the same way. -/
theorem compile_renders_text (config : Config) (lines : LineLookup) {nodes : List Node}
    (plain : ∀ node ∈ nodes, node.IsTextOrBreak) :
    (∃ body statements,
      compile config lines nodes = .ok
        ⟨"'use strict';" ++ (if config.arraySizeHelper then Script.arraySizePolyfill else "") ++
          "var $data=arguments[0]||\x7b\x7d,$out='';" ++ body ++ "return $out;", []⟩ ∧
      Script.readStatements? (body ++ "return $out;").toList = some statements ∧
      Script.execute "" statements =
        some (String.join ((nodes.takeWhile (·.kind == .literal)).map Node.text)) ∧
      statements = (literalRuns nodes).flatMap (fun run => Script.appending run ++ [.giveBack]) ∧
      ∀ quoted, .append quoted ∈ statements →
        Script.hasBareQuote quoted = false ∧ ∀ c ∈ quoted, c ∉ Script.lineEnds) ∧
    ∀ (expression : String) (rest : List Char),
      Script.splitQuoted? ((Script.escapeLiteral ("$" ++ expression)).toList ++ '\'' :: rest) =
        some ((Script.escapeLiteral ("$" ++ expression)).toList, rest) ∧
      Script.denoted? (Script.escapeLiteral ("$" ++ expression)).toList = some ("$" ++ expression).toList := by
  refine ⟨?_, fun expression rest => ⟨Script.splitQuoted?_escapeLiteral _ rest,
    Script.denoted?_escapeLiteral _⟩⟩
  obtain ⟨body, lowered, written⟩ := Lowering.lowerSiblings_text config plain none ""
  have ending : Script.returnOutput = "return $out;" := by decide +kernel
  rw [modifyHead_empty_append, ending] at written
  refine ⟨body, _, ?_, by rw [written]; exact Script.readStatements?_join _, ?_, rfl, ?_⟩
  · rw [compile_eq_ok_of_body lines lowered, Script.Program.source_eq]
    simp [String.join]
  · exact Script.execute_runs (head?_literalRuns nodes)
  · intro quoted member
    obtain ⟨run, _, member⟩ := List.mem_flatMap.mp member
    rw [Script.eq_escapeLiteral_of_mem_appending member]
    exact ⟨Script.hasBareQuote_escapeLiteral run, Script.escapeLiteral_no_lineEnd run⟩

/-- Literal text that looks like code, ends inside its string or holds line breaks, before, between
and after breaks. -/
def deceptiveText : List Node :=
  [.literal "it's ';return $out;\n", .literal "\u2028\\", .directive " break " none, .literal "",
    .directive "break" (some [.reference []]), .literal "'"]

theorem compile_renders_text_deceptive :
    (∀ node ∈ deceptiveText, node.IsTextOrBreak) ∧
    ∃ body statements,
      compile ⟨true, true⟩ (fun _ => 1) deceptiveText = .ok
        ⟨"'use strict';" ++ Script.arraySizePolyfill ++ "var $data=arguments[0]||\x7b\x7d,$out='';" ++
          body ++ "return $out;", []⟩ ∧
      Script.readStatements? (body ++ "return $out;").toList = some statements ∧
      Script.execute "" statements = some "it's ';return $out;\n\u2028\\" ∧ statements.length = 5 := by
  have plain : ∀ node ∈ deceptiveText, node.IsTextOrBreak := by decide +kernel
  obtain ⟨⟨body, statements, compiled, read, result, runs, _⟩, _⟩ :=
    compile_renders_text ⟨true, true⟩ (fun _ => 1) plain
  have rendered : String.join ((deceptiveText.takeWhile (·.kind == .literal)).map Node.text) =
      "it's ';return $out;\n\u2028\\" := by decide +kernel
  have count : ((literalRuns deceptiveText).flatMap
      fun run => Script.appending run ++ [.giveBack]).length = 5 := by decide +kernel
  exact ⟨plain, body, statements, compiled, read, result.trans (congrArg some rendered), by rw [runs, count]⟩

end TemplateCompiler
