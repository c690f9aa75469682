import TemplateCompiler.Proofs.QuotedPieces
import TemplateCompiler.Proofs.StringOperands

namespace TemplateCompiler

open Script (StringState QuotedPiece quotedPieces StaysQuoted skipString? safeNavigation)

/-- What stands between the quotes of a run of fragments. -/
def runContent (run : List Node) : List Char :=
  run.flatMap fun node => Script.escapeFragmentChars node.text.toList

theorem toList_quotedRun (run : List Node) :
    (Lowering.quotedRun run).toList = '\'' :: runContent run ++ ['\''] := by
  have inside : (String.join (run.map fun node => Script.escapeFragment node.text)).toList =
      runContent run := by
    induction run with
    | nil => rfl
    | cons node run ih =>
      rw [List.map_cons, String.join_cons, String.toList_append, ih, Script.escapeFragment,
        String.toList_ofList]
      rfl
  rw [Lowering.quotedRun, String.toList_append, String.toList_append, inside]
  rfl

/-- The pieces of the content are those of the fragments, each in the form in which it can stand in a
string. -/
theorem quotedPieces_runContent (run : List Node) :
    quotedPieces (runContent run) =
      run.flatMap fun node => (quotedPieces node.text.toList).map QuotedPiece.escaped := by
  induction run with
  | nil => rfl
  | cons node run ih =>
    rw [runContent, List.flatMap_cons, List.flatMap_cons, Script.quotedPieces_escapeFragmentChars]
    exact congrArg _ ih

theorem Script.QuotedPiece.escaped_stays (piece : QuotedPiece) :
    piece.escaped ≠ .lone ∧ piece.escaped ≠ .bare '\'' := by
  unfold QuotedPiece.escaped
  split <;> simp_all

theorem staysQuoted_runContent (run : List Node) : StaysQuoted '\'' (runContent run) := by
  intro piece member
  rw [quotedPieces_runContent] at member
  obtain ⟨node, _, inside⟩ := List.mem_flatMap.mp member
  obtain ⟨source, _, rfl⟩ := List.mem_map.mp inside
  exact source.escaped_stays

/-- Every string of the text ends in it. -/
def StringsEnd (text : String) : Prop :=
  text.toList.foldl StringState.next .outside = .outside

instance (text : String) : Decidable (StringsEnd text) :=
  inferInstanceAs (Decidable (_ = _))

namespace Script.Reader

/-- What a text is rewritten to depends on the text after it only through its first character. -/
theorem exists_navigate_append (reader : Reader) (cs : List Char) (next : Option Char) :
    ∃ (written : List Char) (finish : Reader),
      finish.strings = cs.foldl StringState.next reader.strings ∧
      ∀ rest : List Char, rest.head? = next →
        reader.navigate (cs ++ rest) = written ++ finish.navigate rest := by
  induction cs generalizing reader with
  | nil => exact ⟨[], reader, rfl, fun rest _ => rfl⟩
  | cons c cs ih =>
    obtain ⟨written, finish, strings, later⟩ := ih (reader.advance c (cs.head?.or next))
    refine ⟨reader.mark c (cs.head?.or next) ++ c :: written, finish, ?_, fun rest head => ?_⟩
    · rw [strings, advance_strings]
      rfl
    · rw [List.cons_append, navigate_cons, List.head?_append, head, later rest head]
      simp

end Script.Reader

/-- Around a string an expression is rewritten in the same way whatever the string holds. -/
theorem exists_safeNavigation_around {before : String} (ends : StringsEnd before) (after : String) :
    ∃ first second : String, ∀ (literal : String) (content : List Char),
      literal.toList = '\'' :: content ++ ['\''] → StaysQuoted '\'' content →
      safeNavigation (before ++ literal ++ after) = first ++ literal ++ second := by
  obtain ⟨written, reader, strings, around⟩ :=
    Script.Reader.exists_navigate_append {} before.toList (some '\'')
  have outside : reader.strings = .outside := strings.trans ends
  refine ⟨String.ofList written, String.ofList ((reader.afterString '\'').navigate after.toList), ?_⟩
  intro literal content text stays
  apply String.toList_inj.mp
  rw [safeNavigation, String.toList_ofList]
  simp only [String.toList_append, String.toList_ofList, List.append_assoc]
  rw [around _ (by simp [text]), text, Script.Reader.navigate_string outside stays]

/-- The code of a string of fragments is one string, which ends where it seems to whatever follows. Its
content has the pieces of the fragments, except that each bare quote or line break and each lone
backslash has become a pair. So no fragment changes how the code around the string is rewritten. -/
theorem fragments_stay_quoted :
    (∀ run : List Node, Lowering.IsRun run →
      (∀ (config : Config) (depth : Nat) (before after : Option Kind) (text : String) (position : Nat),
        Lowering.lowerNode config depth before after ⟨.string, text, some run, position⟩ =
          pure (Lowering.quotedRun run)) ∧
      (∀ before after : List Char,
        skipString? (before ++ (Lowering.quotedRun run).toList ++ after) before.length =
          some (before.length + (Lowering.quotedRun run).toList.length)) ∧
      ∃ content : List Char, (Lowering.quotedRun run).toList = '\'' :: content ++ ['\''] ∧
        quotedPieces content =
          run.flatMap fun node => (quotedPieces node.text.toList).map QuotedPiece.escaped) ∧
    ∀ before after : String, StringsEnd before → ∃ first second : String, ∀ run : List Node,
      Lowering.IsRun run →
      safeNavigation (before ++ Lowering.quotedRun run ++ after) =
        first ++ Lowering.quotedRun run ++ second := by
  constructor
  · intro run fragments
    refine ⟨?_, ?_, runContent run, toList_quotedRun run, quotedPieces_runContent run⟩
    · intro config depth before after text position
      rw [Lowering.lowerNode]
      exact Lowering.lowerString_run fragments config depth
    · intro before after
      rw [toList_quotedRun]
      exact Script.skipString?_of_staysQuoted (by decide) (staysQuoted_runContent run) before after
  · intro before after ends
    obtain ⟨first, second, around⟩ := exists_safeNavigation_around ends after
    refine ⟨first, second, fun run _ => ?_⟩
    exact around _ (runContent run) (toList_quotedRun run) (staysQuoted_runContent run)

/-- A fragment with a quote and a backslash at its end, and one with a line break. -/
def looseFragments : List Node :=
  [.fragment "it's\\", .fragment "\n"]

theorem fragments_stay_quoted_loose :
    Lowering.IsRun looseFragments ∧ StringsEnd "f('[', " ∧
    Lowering.lowerNode {} 1 none none (.string looseFragments) = pure "'it\\'s\\\\\\n'" ∧
    skipString? ("(".toList ++ "'it\\'s\\\\\\n'".toList ++ "'".toList) 1 = some 12 ∧
    ∃ first second : String,
      safeNavigation ("f('[', " ++ "'it\\'s\\\\\\n'" ++ ")[k]") = first ++ "'it\\'s\\\\\\n'" ++ second ∧
      safeNavigation ("f('[', " ++ "'b'" ++ ")[k]") = first ++ "'b'" ++ second := by
  have isRun : Lowering.IsRun looseFragments := ⟨by simp [looseFragments], by decide⟩
  have isRun' : Lowering.IsRun [.fragment "b"] := ⟨by simp, by decide⟩
  have ends : StringsEnd "f('[', " := by decide +kernel
  have code : Lowering.quotedRun looseFragments = "'it\\'s\\\\\\n'" := by decide +kernel
  have code' : Lowering.quotedRun [.fragment "b"] = "'b'" := by decide +kernel
  obtain ⟨lowered, skipped, _⟩ := fragments_stay_quoted.1 _ isRun
  obtain ⟨first, second, around⟩ := fragments_stay_quoted.2 "f('[', " ")[k]" ends
  refine ⟨isRun, ends, ?_, ?_, first, second, ?_, ?_⟩
  · rw [← code]
    exact lowered ..
  · rw [← code]
    exact skipped "(".toList "'".toList
  · rw [← code]
    exact around _ isRun
  · rw [← code']
    exact around _ isRun'

end TemplateCompiler
