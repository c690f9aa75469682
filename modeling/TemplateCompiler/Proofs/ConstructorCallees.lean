import TemplateCompiler.Proofs.PropertyNames

namespace TemplateCompiler.Script

/-- A name or a number. -/
inductive Atom where
  | name (name : AccessName)
  | number (numeral : Numeral)

namespace Atom

def expression : Atom → Expression
  | .name word => .chain (.name word)
  | .number numeral => .number numeral

def chars : Atom → List Char
  | .name word => word.chars
  | .number numeral => numeral.chars

theorem spell_expression (style : LinkStyle) (atom : Atom) : atom.expression.spell style = atom.chars := by
  cases atom with
  | name name => rw [expression, Expression.spell, AccessChain.spell, chars]
  | number numeral => rw [expression, Expression.spell, chars]

end Atom

/-- A link of what a `new` constructs. -/
inductive CalleeLink where
  | member (name : AccessName)
  | index (inner : Atom)

namespace CalleeLink

def link : CalleeLink → Link
  | member name => .member name.property
  | index inner => .index inner.expression

def isIndex : CalleeLink → Bool
  | member _ => false
  | index _ => true

theorem denotes_link (link : CalleeLink) : link.link.denotes = true := by
  cases link with
  | member name => exact name.denotes_property
  | index inner => rfl

end CalleeLink

/-- A `new`, what it constructs and the arguments. -/
structure Construction where
  root : AccessName
  callee : List CalleeLink
  arguments : List Atom

namespace Construction

/-- The links of the callee, and the argument list after them. -/
def links (construction : Construction) : List Link :=
  construction.callee.map CalleeLink.link ++ [.call (construction.arguments.map Atom.expression)]

/-- The text up to the first link. -/
def start (construction : Construction) : List Char :=
  "new ".toList ++ construction.root.chars

/-- Of the links of the callee and the argument list those with the optional style are the ones that
are made optional. -/
def Marks (construction : Construction) (styles : List LinkStyle) : Prop :=
  styles.length = construction.links.length ∧
    safeNavigation (String.ofList (construction.start ++ construction.links.flatMap (Link.spell .direct .direct))) =
      String.ofList (construction.start ++ spellLinks styles construction.links)

end Construction

/-- The styles in which the links of a callee and the argument list after them are written, where
`released` tells that an index has been passed. -/
def calleeStyles (released : Bool) : List CalleeLink → List LinkStyle
  | [] => [.after released]
  | link :: callee => .after released :: calleeStyles (released || link.isIndex) callee

namespace Reader

/-- The reader stands after a `new` and a space. -/
structure AfterNew (reader : Reader) : Prop where
  outside : reader.strings = .outside
  word : reader.word = ['n', 'e', 'w']
  separate : reader.continuesWord = false

/-- The reader takes what it reads for the callee of a `new`. -/
structure Constructing (reader : Reader) : Prop where
  outside : reader.strings = .outside
  held : reader.constructing = true

/-- The reader stands between two links of a callee. It takes what follows for an ordinary chain once
it is released. -/
def InCallee : Bool → Reader → Prop
  | false => Constructing
  | true => OnTarget

end Reader

theorem rewrites_new : Rewrites Reader.Ready "new ".toList "new ".toList Reader.AfterNew := by
  have first : isIdentifierChar 'n' = true := by decide
  have others : ∀ c ∈ ['e', 'w'], isIdentifierChar c = true := List.all_eq_true.mp (by decide)
  have word := (rewrites_wordStart first).append (rewrites_word others ['n'])
  have space : Rewrites (Reader.InWord ['n', 'e', 'w']) [' '] [' '] Reader.AfterNew := by
    refine .plainChar (by decide) fun reader inWord => ?_
    have blank : isQuote ' ' = false ∧ Text.isWhiteSpace ' ' = true ∧ isIdentifierChar ' ' = false := by decide
    have advanced : reader.advance ' ' none = { reader with last := some ' ' } := by
      simp [Reader.advance, inWord.outside, Reader.advanceOutside, blank]
    rw [advanced]
    exact ⟨inWord.outside, inWord.same, by simp [Reader.continuesWord, blank]⟩
  exact word.append space

/-- The word after a `new` starts the callee. -/
theorem rewrites_calleeStart {c : Char} (identifier : isIdentifierChar c = true) :
    Rewrites Reader.AfterNew [c] [c] Reader.Constructing := by
  refine .plainChar (identifier_plain identifier).2 fun reader after => ?_
  rw [Reader.advance_identifier after.outside identifier, after.separate, after.word]
  exact ⟨after.outside, by simp⟩

/-- Words, dots and the start of an index stay in the callee and get no mark. -/
theorem Reader.Constructing.char {reader : Reader} (constructing : reader.Constructing) {c : Char}
    (kept : isIdentifierChar c = true ∨ c = '.' ∨ c = '[') (next : Option Char) :
    reader.mark c next = [] ∧ (reader.advance c next).Constructing := by
  have unmarked : reader.mark c next = [] := by simp [mark, guards, constructing.held]
  refine ⟨unmarked, ?_⟩
  rcases kept with identifier | rfl | rfl
  · rw [advance_identifier constructing.outside identifier]
    split
    · exact ⟨constructing.outside, constructing.held⟩
    · exact ⟨constructing.outside, by simp [constructing.held]⟩
  all_goals
    have unquoted : isQuote '.' = false ∧ isQuote '[' = false := by decide
    rw [advance, constructing.outside]
    exact ⟨by simp [advanceOutside, unquoted, constructing.outside],
      by simp [advanceOutside, unquoted, constructing.held]⟩

theorem rewrites_constructing {cs : List Char}
    (kept : ∀ c ∈ cs, isIdentifierChar c = true ∨ c = '.' ∨ c = '[') (closed : ∀ c ∈ cs.getLast?, c ≠ '.') :
    Rewrites Reader.Constructing cs cs Reader.Constructing := by
  induction cs with
  | nil => exact .empty fun _ constructing => constructing
  | cons c cs ih =>
    obtain ⟨keptHere, keptLater⟩ := List.forall_mem_cons.mp kept
    cases cs with
    | nil =>
      have silent : ∀ reader : Reader, reader.Constructing → reader.mark c none = [] :=
        fun reader constructing => (constructing.char keptHere none).1
      exact .char (closed c rfl) silent fun reader constructing => (constructing.char keptHere none).2
    -- A dot is judged by the character after it, which is one of the text.
    | cons d cs =>
      intro reader constructing
      obtain ⟨unmarked, after⟩ := constructing.char keptHere (some d)
      obtain ⟨later, holds, read⟩ := ih keptLater closed _ after
      refine ⟨later, holds, fun rest => ?_⟩
      have head : (d :: cs ++ rest).head? = some d := rfl
      rw [List.cons_append, Reader.navigate_cons, head, unmarked, read]
      rfl

theorem AccessName.identifiers (name : AccessName) : ∀ c ∈ name.chars, isIdentifierChar c = true := by
  rw [chars, List.forall_mem_cons]
  exact ⟨name.property.first_identifier, name.continues⟩

/-- A word stays in the callee, and so does a dot with a word after it. -/
theorem rewrites_calleeWord {cs : List Char} (identifiers : ∀ c ∈ cs, isIdentifierChar c = true) :
    Rewrites Reader.Constructing cs cs Reader.Constructing := by
  refine rewrites_constructing (fun c member => .inl (identifiers c member)) fun c last => ?_
  exact (identifier_plain (identifiers c (List.mem_of_getLast? last))).2.1

theorem rewrites_calleeDot {c : Char} {cs : List Char} (identifiers : ∀ d ∈ c :: cs, isIdentifierChar d = true) :
    Rewrites Reader.Constructing ('.' :: c :: cs) ('.' :: c :: cs) Reader.Constructing := by
  refine rewrites_constructing (List.forall_mem_cons.mpr ⟨.inr (.inl rfl), ?_⟩) fun d last => ?_
  · exact fun d member => .inl (identifiers d member)
  · rw [List.getLast?_cons_cons] at last
    exact (identifier_plain (identifiers d (List.mem_of_getLast? last))).2.1

theorem Atom.rewrites_callee (atom : Atom) :
    Rewrites Reader.Constructing atom.chars atom.chars Reader.Constructing := by
  cases atom with
  | name word => exact rewrites_calleeWord word.identifiers
  | number numeral =>
    have whole := rewrites_calleeWord numeral.whole.identifiers
    rw [chars, Numeral.chars]
    split
    · exact whole
    · rename_i fraction _
      exact whole.append (rewrites_calleeDot fraction.identifiers)

/-- One link of a callee: it is optional if an index stands before it, and the bracket that closes an
index ends what the reader takes for the callee. -/
theorem CalleeLink.rewrites (released : Bool) (link : CalleeLink) :
    Rewrites (Reader.InCallee released) (link.link.spell .direct .direct)
      (link.link.spell (.after released) .optional) (Reader.InCallee (released || link.isIndex)) := by
  cases released with
  | true =>
    have linked := link.link.rewrites true
    rw [link.denotes_link] at linked
    exact linked.weaken (fun _ target => target.afterLink) fun _ after => after.onTarget
  | false =>
    cases link with
    | member name => exact rewrites_calleeDot name.identifiers
    | index inner =>
      have bracket : Rewrites Reader.Constructing ['['] ['['] Reader.Constructing :=
        rewrites_constructing (by simp) (by simp)
      have opened := bracket.append inner.rewrites_callee
      have closing : Rewrites Reader.Constructing [']'] [']'] Reader.OnTarget :=
        (rewrites_closing (.inr rfl)).weaken (fun _ constructing => constructing.outside) fun _ target => target
      have written := opened.append closing
      rw [link, Link.spell, Link.spell, inner.spell_expression, inner.spell_expression]
      exact written

/-- The parenthesis before the arguments, which ends the callee if no index has done so. -/
theorem rewrites_argumentStart (released : Bool) :
    Rewrites (Reader.InCallee released) ['('] ((LinkStyle.after released).start '(') Reader.Ready := by
  cases released with
  | true => exact rewrites_bracket (.inr rfl)
  | false =>
    have silent : ∀ reader : Reader, reader.Constructing → reader.mark '(' none = [] := by
      intro reader constructing
      simp [Reader.mark, Reader.guards, constructing.held]
    refine .char (by decide) silent fun reader constructing => ?_
    rw [Reader.advance_punctuation constructing.outside (by decide) none (by simp) (by simp)]
    exact Reader.ready_fresh (by decide) (by decide)

theorem rewrites_callee (released : Bool) (callee : List CalleeLink) (arguments : List Expression) :
    Rewrites (Reader.InCallee released)
      ((callee.map CalleeLink.link ++ [Link.call arguments]).flatMap (Link.spell .direct .direct))
      (spellLinks (calleeStyles released callee) (callee.map CalleeLink.link ++ [Link.call arguments]))
      Reader.IsOutside := by
  -- On the links of the callee; whether an index has been passed is all that one link tells the next.
  induction callee generalizing released with
  | nil =>
    have opened := (rewrites_argumentStart released).append (rewrites_arguments arguments)
    have call : Rewrites (Reader.InCallee released) ((Link.call arguments).spell .direct .direct)
        ((Link.call arguments).spell (.after released) .optional) Reader.IsOutside :=
      (opened.append (rewrites_closing (.inl rfl))).weaken (fun _ inside => inside) fun _ target => target.outside
    exact call.append (.empty fun _ outside => outside)
  | cons link callee ih => exact (link.rewrites released).append (ih (released || link.isIndex))

namespace Construction

variable (construction : Construction)

theorem rewrites_start :
    Rewrites Reader.Ready construction.start construction.start (Reader.InCallee false) := by
  obtain ⟨first, rest⟩ := List.forall_mem_cons.mp construction.root.identifiers
  have root := (rewrites_calleeStart first).append (rewrites_calleeWord rest)
  exact rewrites_new.append root

theorem length_styles (released : Bool) (callee : List CalleeLink) :
    (calleeStyles released callee).length = callee.length + 1 := by
  induction callee generalizing released with
  | nil => rfl
  | cons link callee ih => rw [calleeStyles, List.length_cons, ih, List.length_cons]

theorem length_links : construction.links.length = construction.callee.length + 1 := by
  rw [links, List.length_append, List.length_map, List.length_singleton]

theorem marks_calleeStyles : construction.Marks (calleeStyles false construction.callee) := by
  refine ⟨(length_styles ..).trans construction.length_links.symm, ?_⟩
  obtain ⟨after, _, read⟩ := (construction.rewrites_start.append
    (rewrites_callee false construction.callee (construction.arguments.map Atom.expression)))
    {} Reader.ready_initial
  have whole := read []
  rw [List.append_nil, Reader.navigate, List.append_nil] at whole
  rw [safeNavigation, String.toList_ofList]
  exact congrArg String.ofList whole

theorem marks_iff_calleeStyles {styles : List LinkStyle} :
    construction.Marks styles ↔ styles = calleeStyles false construction.callee := by
  have marked := construction.marks_calleeStyles
  constructor
  · rintro ⟨length, written⟩
    have same := List.append_cancel_left (String.ofList_injective (written.symm.trans marked.2))
    exact eq_of_spellLinks length marked.1 same
  · rintro rfl
    exact marked

end Construction

theorem LinkStyle.after_eq_direct_iff {value : Bool} : LinkStyle.direct = .after value ↔ value = false := by
  cases value <;> simp [LinkStyle.after]

theorem calleeStyles_direct_iff (released : Bool) (callee : List CalleeLink) :
    List.replicate (callee.length + 1) .direct = calleeStyles released callee ↔
      released = false ∧ ∀ link ∈ callee, link.isIndex = false := by
  induction callee generalizing released with
  | nil => simp [calleeStyles, LinkStyle.after_eq_direct_iff]
  | cons link callee ih =>
    rw [List.length_cons, List.replicate_succ, calleeStyles, List.cons.injEq, ih, LinkStyle.after_eq_direct_iff,
      List.forall_mem_cons, Bool.or_eq_false_iff]
    tauto

/-- The links of a callee are left alone up to its first index, and all that follows it is made
optional, the argument list included. So a callee is left alone exactly if it has no index. -/
theorem safeNavigation_leaves_callees (construction : Construction) :
    (∀ styles, construction.Marks styles ↔ styles = calleeStyles false construction.callee) ∧
    (construction.Marks (List.replicate construction.links.length .direct) ↔
      ∀ link ∈ construction.callee, link.isIndex = false) := by
  refine ⟨fun styles => construction.marks_iff_calleeStyles, ?_⟩
  rw [construction.marks_iff_calleeStyles, construction.length_links, calleeStyles_direct_iff,
    and_iff_right rfl]

example : safeNavigation "new a.name.a(1,a)" = "new a.name.a(1,a)" := by
  decide +kernel

/-- The bracket that closes an index ends the callee too early, and the argument list after it is
made optional. -/
theorem safeNavigation_marks_indexed_callee :
    (¬ (Construction.mk variableName [.index (.name variableName)] [.name variableName]).Marks [.direct, .direct]) ∧
    safeNavigation "new a[a](a)" = "new a[a]?.(a)" ∧
    safeNavigation "new a[0].name(a)" = "new a[0]?.name?.(a)" := by
  refine ⟨fun marked => ?_, by decide +kernel, by decide +kernel⟩
  have styles := (Construction.marks_iff_calleeStyles _).mp marked
  simp [calleeStyles, CalleeLink.isIndex, LinkStyle.after] at styles

end TemplateCompiler.Script
