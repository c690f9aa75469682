import Mathlib.Data.List.Forall2
import TemplateCompiler.Proofs.JsonGrammar
import TemplateCompiler.Template.Interchange

namespace TemplateCompiler

namespace Interchange

open Json (Tree Piece Phrase Numeral Spells)

/-- The names and values of an object's members, in the order of the text. -/
abbrev Fields := List (String × Tree)

/-- The members of an object, each with a spelling of its name. -/
def Members (fields : Fields) (members : List (List Piece × Tree)) : Prop :=
  List.Forall₂ (fun field member => Spells field.1.toList member.1 ∧ field.2 = member.2) fields members

/-- The values that an object has under a name. -/
def valuesOf (name : String) (fields : Fields) : List Tree :=
  (fields.filter fun field => field.1 = name).map Prod.snd

inductive NaturalForm : Nat → Tree → Prop
  | digits (digits : List Nat) : NaturalForm (Numeral.ofDigits digits) (.number ⟨false, digits, [], none⟩)

/-- Empty text may be left out. -/
inductive TextForm : String → List Tree → Prop
  | omitted : TextForm "" []
  | string {text : String} {pieces : List Piece} : Spells text.toList pieces → TextForm text [.string pieces]

/-- A position has 64 bits. Zero may be left out. -/
inductive PositionForm : Nat → List Tree → Prop
  | omitted : PositionForm 0 []
  | number {position : Nat} {tree : Tree} : position < Json.wordCount → NaturalForm position tree →
      PositionForm position [tree]

mutual

/-- A node is written as an object. Its fields have any order, and any other fields may stand
between them. -/
inductive NodeForm : Node → Tree → Prop
  | object {kind : Kind} {text : String} {children : Option (List Node)} {position : Nat} {tag : Tree}
      {fields : Fields} {members : List (List Piece × Tree)} :
      Members fields members → valuesOf "type" fields = [tag] → NaturalForm kind.tag tag →
      TextForm text (valuesOf "val" fields) → ChildrenForm children (valuesOf "sublayer" fields) →
      PositionForm position (valuesOf "begin" fields) →
      NodeForm ⟨kind, text, children, position⟩ (.object members true)

/-- Children that a node does not have are left out or null. -/
inductive ChildrenForm : Option (List Node) → List Tree → Prop
  | omitted : ChildrenForm none []
  | null : ChildrenForm none [.null]
  | array {nodes : List Node} {items : List Tree} : NodesForm nodes items →
      ChildrenForm (some nodes) [.array items true]

inductive NodesForm : List Node → List Tree → Prop
  | nil : NodesForm [] []
  | cons {node : Node} {nodes : List Node} {tree : Tree} {trees : List Tree} : NodeForm node tree →
      NodesForm nodes trees → NodesForm (node :: nodes) (tree :: trees)

end

/-- A template without tables is written as an object. Any other fields may stand around its nodes. -/
inductive DocumentForm : List Node → Tree → Prop
  | object {nodes : List Node} {items : List Tree} {fields : Fields}
      {members : List (List Piece × Tree)} :
      Members fields members → valuesOf "parseStack" fields = [.array items true] →
      valuesOf "symbols" fields = [] → valuesOf "words" fields = [] → NodesForm nodes items →
      DocumentForm nodes (.object members true)

mutual

/-- How deep the object of a node nests arrays and objects, itself included and fields that are not
the node's own left aside. -/
def nodeNesting : Node → Nat
  | ⟨_, _, children, _⟩ => 1 + childrenNesting children

def childrenNesting : Option (List Node) → Nat
  | none => 0
  | some nodes => 1 + listNesting nodes

def listNesting : List Node → Nat
  | [] => 0
  | node :: nodes => max (nodeNesting node) (listNesting nodes)

end

/-- How deep the object of a template nests arrays and objects, itself included. -/
def documentNesting (nodes : List Node) : Nat :=
  1 + childrenNesting (some nodes)

/-- Reads the value of a node's `sublayer`. -/
def readChildren (depth : Nat) : Tree → Reading (Option (List Node))
  | .null => .ok none
  | .array items closed =>
    match depth with
    | 0 => .error .notJson
    | depth + 1 => do
      let nodes ← readNodes depth items
      if closed then .ok (some nodes) else .error .notJson
  | tree => wrongType tree "a sequence"

theorem bind_ok_eq_map {α β : Type} (reading : Reading α) (f : α → β) :
    (reading >>= fun value => .ok (f value)) = reading.map f := by
  cases reading <;> rfl

theorem onlyOnce_bind {α β : Type} (name : String) (next : Reading β) :
    (onlyOnce name (none : Option α) >>= fun _ => next) = next := rfl

section readField

variable {depth : Nat} {fields : NodeFields} {tree : Tree}

theorem readField_kind {kind : Kind} (unread : fields.kind = none) (read : readKind tree = .ok kind) :
    readField depth fields "type" tree = .ok { fields with kind := some kind } := by
  rw [readField, if_pos rfl, unread, onlyOnce_bind, read]
  rfl

theorem readField_text {text : String} (unread : fields.text = none) (read : readText tree = .ok text) :
    readField depth fields "val" tree = .ok { fields with text := some text } := by
  rw [readField, if_neg (by decide), if_pos rfl, unread, onlyOnce_bind, read]
  rfl

theorem readField_position {position : Nat} (unread : fields.position = none)
    (read : readPosition tree = .ok position) :
    readField depth fields "begin" tree = .ok { fields with position := some position } := by
  rw [readField, if_neg (by decide), if_neg (by decide), if_neg (by decide), if_pos rfl, unread,
    onlyOnce_bind, read]
  rfl

theorem readField_children (unread : fields.children = none) :
    readField depth fields "sublayer" tree =
      (readChildren depth tree).map fun children => { fields with children := some children } := by
  rw [readField, if_neg (by decide), if_neg (by decide), if_pos rfl, unread, onlyOnce_bind]
  unfold readChildren
  cases tree with
  | array items closed =>
    cases depth with
    | zero => rfl
    | succ depth =>
      dsimp only
      cases readNodes depth items with
      | error _ => rfl
      | ok nodes => cases closed <;> rfl
  | _ => exact bind_ok_eq_map _ _

theorem readField_other {name : String} (other : name ∉ nodeFieldNames) (whole : tree.isWhole = true) :
    readField depth fields name tree = .ok fields := by
  simp only [nodeFieldNames, List.mem_cons, List.not_mem_nil, or_false, not_or] at other
  rw [readField, if_neg other.1, if_neg other.2.1, if_neg other.2.2.1, if_neg other.2.2.2, skip,
    if_pos whole]
  rfl

end readField

/-- The outcome of a field, of which some value has been read or the values are still to be read. A
field without a default has to be there. -/
inductive Due {α : Type} (read : Tree → Reading α) (default : Option α) :
    Option α → List Tree → Reading α → Prop
  | done (value : α) : Due read default (some value) [] (.ok value)
  | ahead (tree : Tree) : Due read default none [tree] (read tree)
  | omitted {value : α} : default = some value → Due read default none [] (.ok value)

theorem Due.of_cons {α : Type} {read : Tree → Reading α} {default current : Option α} {tree : Tree}
    {values : List Tree} {outcome : Reading α} (due : Due read default current (tree :: values) outcome) :
    current = none ∧ outcome = read tree ∧
      ∀ value, outcome = .ok value → Due read default (some value) values outcome := by
  cases due
  refine ⟨rfl, rfl, ?_⟩
  intro value read
  rw [read]
  exact .done value

theorem Due.of_nil {α : Type} {read : Tree → Reading α} {default current : Option α} {outcome : Reading α}
    (due : Due read default current [] outcome) :
    ∃ value, current.or default = some value ∧ outcome = .ok value := by
  cases due with
  | done value => exact ⟨value, rfl, rfl⟩
  | omitted default => exact ⟨_, default, rfl⟩

@[simp] theorem valuesOf_cons_self (name : String) (tree : Tree) (fields : Fields) :
    valuesOf name ((name, tree) :: fields) = tree :: valuesOf name fields := by
  simp [valuesOf]

theorem valuesOf_cons_of_ne {name other : String} (distinct : other ≠ name) (tree : Tree)
    (fields : Fields) : valuesOf name ((other, tree) :: fields) = valuesOf name fields := by
  simp [valuesOf, distinct]

/-- The reading of a node in the middle of its fields: of each of its own fields it is known what
comes out. Only the children can turn out wrong. -/
structure NodeDue (depth : Nat) (read : NodeFields) (fields : Fields) (kind : Kind) (text : String)
    (position : Nat) (children : Reading (Option (List Node))) : Prop where
  kind : Due readKind none read.kind (valuesOf "type" fields) (.ok kind)
  text : Due readText (some "") read.text (valuesOf "val" fields) (.ok text)
  children : Due (readChildren depth) (some none) read.children (valuesOf "sublayer" fields) children
  position : Due readPosition (some 0) read.position (valuesOf "begin" fields) (.ok position)

/-- One more field is read, or the children turn out wrong. -/
theorem NodeDue.step {depth : Nat} {read : NodeFields} {name : String} {tree : Tree} {fields : Fields}
    {kind : Kind} {text : String} {position : Nat} {children : Reading (Option (List Node))}
    (due : NodeDue depth read ((name, tree) :: fields) kind text position children)
    (whole : tree.isWhole = true) :
    (∃ next, readField depth read name tree = .ok next ∧
      NodeDue depth next fields kind text position children) ∨
    ∃ error, readField depth read name tree = .error error ∧ children = .error error := by
  obtain ⟨dueKind, dueText, dueChildren, duePosition⟩ := due
  by_cases own : name ∈ nodeFieldNames
  · simp only [nodeFieldNames, List.mem_cons, List.not_mem_nil, or_false] at own
    rcases own with rfl | rfl | rfl | rfl
    · rw [valuesOf_cons_self] at dueKind
      rw [valuesOf_cons_of_ne (by decide)] at dueText dueChildren duePosition
      obtain ⟨unread, result, after⟩ := dueKind.of_cons
      exact .inl ⟨_, readField_kind unread result.symm, after kind rfl, dueText, dueChildren, duePosition⟩
    · rw [valuesOf_cons_self] at dueText
      rw [valuesOf_cons_of_ne (by decide)] at dueKind dueChildren duePosition
      obtain ⟨unread, result, after⟩ := dueText.of_cons
      exact .inl ⟨_, readField_text unread result.symm, dueKind, after text rfl, dueChildren, duePosition⟩
    · rw [valuesOf_cons_self] at dueChildren
      rw [valuesOf_cons_of_ne (by decide)] at dueKind dueText duePosition
      obtain ⟨unread, result, after⟩ := dueChildren.of_cons
      rw [readField_children unread, ← result]
      cases children with
      | ok nodes => exact .inl ⟨_, rfl, dueKind, dueText, after nodes rfl, duePosition⟩
      | error error => exact .inr ⟨error, rfl, rfl⟩
    · rw [valuesOf_cons_self] at duePosition
      rw [valuesOf_cons_of_ne (by decide)] at dueKind dueText dueChildren
      obtain ⟨unread, result, after⟩ := duePosition.of_cons
      exact .inl ⟨_, readField_position unread result.symm, dueKind, dueText, dueChildren,
        after position rfl⟩
  · have distinct : ∀ known ∈ nodeFieldNames, name ≠ known := by
      rintro known member rfl
      exact own member
    rw [valuesOf_cons_of_ne (distinct _ (by decide))] at dueKind dueText dueChildren duePosition
    exact .inl ⟨read, readField_other own whole, dueKind, dueText, dueChildren, duePosition⟩

theorem readMembers_cons {pieces : List Piece} {name : String} (spells : Spells name.toList pieces)
    (depth : Nat) (read : NodeFields) (tree : Tree) (members : List (List Piece × Tree)) :
    readMembers depth read ((pieces, tree) :: members) =
      readField depth read name tree >>= fun next => readMembers depth next members := by
  rw [readMembers, spells.toString?]
  rfl

/-- All fields of a node are read, in whatever order they stand. -/
theorem NodeDue.run {depth : Nat} {read : NodeFields} {fields : Fields}
    {members : List (List Piece × Tree)} {kind : Kind} {text : String} {position : Nat}
    {children : Reading (Option (List Node))}
    (due : NodeDue depth read fields kind text position children) (named : Members fields members)
    (whole : Tree.membersAreWhole members = true) :
    (readMembers depth read members).map NodeFields.toNode? =
      children.map fun children => some ⟨kind, text, children, position⟩ := by
  induction named generalizing read with
  | nil =>
    obtain ⟨_, kindRead, sameKind⟩ := due.kind.of_nil
    obtain ⟨_, textRead, sameText⟩ := due.text.of_nil
    obtain ⟨value, childrenRead, sameChildren⟩ := due.children.of_nil
    obtain ⟨_, positionRead, samePosition⟩ := due.position.of_nil
    cases sameKind
    cases sameText
    cases samePosition
    rw [Option.or_none] at kindRead
    rw [Option.or_some, Option.some.injEq] at textRead childrenRead positionRead
    rw [sameChildren, readMembers, Except.map, Except.map, NodeFields.toNode?, kindRead, textRead,
      childrenRead, positionRead]
    rfl
  | @cons field member fields members spelled _ ih =>
    obtain ⟨name, tree⟩ := field
    obtain ⟨pieces, value⟩ := member
    obtain ⟨spells, rfl⟩ := spelled
    simp only [Tree.membersAreWhole, Bool.and_eq_true] at whole
    rw [readMembers_cons spells]
    obtain ⟨next, found, dueNext⟩ | ⟨error, found, failed⟩ := due.step whole.1
    · rw [found]
      exact ih dueNext whole.2
    · rw [found, failed]
      rfl

theorem readNatural_form {number : Nat} {tree : Tree} (form : NaturalForm number tree) {limit : Nat}
    (small : number < limit) (bounded : limit ≤ Json.wordCount) (wanted : String) :
    readNatural limit wanted tree = .ok number := by
  obtain ⟨digits⟩ := form
  have fits : Numeral.ofDigits digits < Json.wordCount := Nat.lt_of_lt_of_le small bounded
  have value : (⟨false, digits, [], none⟩ : Numeral).toNumber? =
      some (.integer (Numeral.ofDigits digits)) := by
    simp [Numeral.toNumber?, fits]
  rw [readNatural, value]
  exact if_pos (by simpa using small)

theorem readKind_form {kind : Kind} {tree : Tree} (form : NaturalForm kind.tag tree) :
    readKind tree = .ok kind := by
  have small : kind.tag < 256 := by cases kind <;> decide
  rw [readKind, readNatural_form form small (by decide)]
  cases kind <;> rfl

theorem due_text {text : String} {values : List Tree} (form : TextForm text values) :
    Due readText (some "") none values (.ok text) := by
  cases form with
  | omitted => exact .omitted rfl
  | @string _ pieces spells =>
    have read : readText (.string pieces) = .ok text := by
      rw [readText, spells.toString?]
      rfl
    exact read ▸ .ahead _

theorem due_position {position : Nat} {values : List Tree} (form : PositionForm position values) :
    Due readPosition (some 0) none values (.ok position) := by
  cases form with
  | omitted => exact .omitted rfl
  | @number _ tree small number =>
    have read : readPosition tree = .ok position := readNatural_form number small (Nat.le_refl _) _
    exact read ▸ .ahead tree

theorem Members.isWhole {fields : Fields} {members : List (List Piece × Tree)}
    (named : Members fields members) (whole : Tree.membersAreWhole members = true) :
    ∀ field ∈ fields, field.2.isWhole = true := by
  induction named with
  | nil => simp
  | @cons field member _ _ spelled _ ih =>
    obtain ⟨pieces, tree⟩ := member
    simp only [Tree.membersAreWhole, Bool.and_eq_true] at whole
    intro other found
    rcases List.mem_cons.mp found with rfl | later
    · rw [spelled.2]
      exact whole.1
    · exact ih whole.2 other later

theorem Members.isWhole_value {fields : Fields} {members : List (List Piece × Tree)}
    (named : Members fields members) (whole : Tree.membersAreWhole members = true) (name : String) :
    ∀ value ∈ valuesOf name fields, value.isWhole = true := by
  intro value member
  obtain ⟨field, found, rfl⟩ := List.mem_map.mp member
  exact named.isWhole whole field (List.mem_of_mem_filter found)

theorem readNode_object (depth : Nat) (members : List (List Piece × Tree)) :
    readNode (depth + 1) (.object members true) =
      (readMembers depth {} members).map NodeFields.toNode? >>= fun node =>
        match node with
        | some node => .ok node
        | none => .error (.mismatch (.missingField "type")) := by
  rw [readNode]
  cases readMembers depth {} members with
  | error _ => rfl
  | ok _ => rfl

/-- A result that needs some depth. -/
def limited {α : Type} (needed depth : Nat) (value : α) : Reading α :=
  if needed ≤ depth then .ok value else .error .notJson

section limited

variable {α β : Type} {needed depth : Nat} {value : α} {result : β} {next : α → Reading β}

theorem limited_map (f : α → β) : (limited needed depth value).map f = limited needed depth (f value) := by
  unfold limited
  split <;> rfl

theorem limited_succ : limited (1 + needed) (depth + 1) value = limited needed depth value := by
  have enough : 1 + needed ≤ depth + 1 ↔ needed ≤ depth := by omega
  simp only [limited, enough]

theorem limited_bind (after : next value = .ok result) :
    limited needed depth value >>= next = limited needed depth result := by
  unfold limited
  split
  · exact after
  · rfl

theorem limited_bind_limited {more : Nat} (after : next value = limited more depth result) :
    limited needed depth value >>= next = limited (max needed more) depth result := by
  by_cases first : needed ≤ depth
  · have start : limited needed depth value = .ok value := if_pos first
    have same : limited (max needed more) depth result = limited more depth result := by
      have enough : max needed more ≤ depth ↔ more ≤ depth := by omega
      simp only [limited, enough]
    rw [start, same]
    exact after
  · have start : limited needed depth value = .error .notJson := if_neg first
    have failed : limited (max needed more) depth result = .error .notJson := if_neg (by omega)
    rw [start, failed]
    rfl

end limited

mutual

/-- A node is read from its object if the depth allows it. -/
theorem readNode_form : ∀ (node : Node) {tree : Tree}, NodeForm node tree → tree.isWhole = true →
    ∀ depth, readNode depth tree = limited (nodeNesting node) depth node
  | ⟨kind, text, children, position⟩, _, form, whole, depth => by
    obtain ⟨named, tagged, tagForm, textForm, childrenForm, positionForm⟩ := form
    rename_i tag fields members
    cases depth with
    | zero => simp [readNode, limited, nodeNesting]
    | succ depth =>
      have membersWhole : Tree.membersAreWhole members = true := whole
      have kindDue : Due readKind none none (valuesOf "type" fields) (.ok kind) := by
        rw [tagged, ← readKind_form tagForm]
        exact .ahead tag
      have childrenDue := readChildren_form children childrenForm
        (named.isWhole_value membersWhole "sublayer") depth
      have due : NodeDue depth {} fields kind text position _ :=
        ⟨kindDue, due_text textForm, childrenDue, due_position positionForm⟩
      rw [readNode_object, due.run named membersWhole, limited_map, nodeNesting, limited_succ]
      exact limited_bind rfl

theorem readChildren_form : ∀ (children : Option (List Node)) {values : List Tree},
    ChildrenForm children values → (∀ value ∈ values, value.isWhole = true) → ∀ depth,
    Due (readChildren depth) (some none) none values (limited (childrenNesting children) depth children)
  | none, _, form, _, depth => by
    cases form with
    | omitted => exact .omitted rfl
    | null => exact .ahead .null
  | some nodes, _, form, whole, depth => by
    rcases form with _ | _ | @⟨_, items, nodesForm⟩
    have itemsWhole : Tree.itemsAreWhole items = true := whole (.array items true) (by simp)
    have read : readChildren depth (.array items true) =
        limited (childrenNesting (some nodes)) depth (some nodes) := by
      cases depth with
      | zero => simp [readChildren, limited, childrenNesting]
      | succ depth =>
        rw [readChildren, readNodes_form nodes nodesForm itemsWhole depth, childrenNesting, limited_succ]
        exact limited_bind rfl
    exact read ▸ .ahead _

theorem readNodes_form : ∀ (nodes : List Node) {trees : List Tree}, NodesForm nodes trees →
    Tree.itemsAreWhole trees = true → ∀ depth, readNodes depth trees = limited (listNesting nodes) depth nodes
  | [], _, form, _, depth => by
    cases form
    rfl
  | node :: nodes, _, form, whole, depth => by
    obtain ⟨⟩ | ⟨nodeForm, nodesForm⟩ := form
    simp only [Tree.itemsAreWhole, Bool.and_eq_true] at whole
    rw [readNodes, readNode_form node nodeForm whole.1, readNodes_form nodes nodesForm whole.2, listNesting]
    exact limited_bind_limited (limited_bind rfl)

end

theorem readNodeList_form {nodes : List Node} {items : List Tree} (form : NodesForm nodes items)
    (whole : Tree.itemsAreWhole items = true) (depth : Nat) :
    readNodeList depth (.array items true) = limited (childrenNesting (some nodes)) depth nodes := by
  cases depth with
  | zero => simp [readNodeList, limited, childrenNesting]
  | succ depth =>
    rw [readNodeList, readNodes_form nodes form whole depth, childrenNesting, limited_succ]
    exact limited_bind rfl

theorem readDocumentField_nodes {depth : Nat} {fields : DocumentFields} {tree : Tree}
    (unread : fields.nodes = none) :
    readDocumentField depth fields "parseStack" tree =
      (readNodeList depth tree).map fun nodes => { fields with nodes := some nodes } := by
  rw [readDocumentField, if_pos rfl, unread, onlyOnce_bind]
  exact bind_ok_eq_map _ _

theorem readDocumentField_other {depth : Nat} {fields : DocumentFields} {name : String} {tree : Tree}
    (other : name ∉ documentFieldNames) (whole : tree.isWhole = true) :
    readDocumentField depth fields name tree = .ok fields := by
  simp only [documentFieldNames, List.mem_cons, List.not_mem_nil, or_false, not_or] at other
  rw [readDocumentField, if_neg other.1, if_neg other.2.1, if_neg other.2.2, skip, if_pos whole]
  rfl

theorem readDocumentMembers_cons {pieces : List Piece} {name : String} (spells : Spells name.toList pieces)
    (depth : Nat) (read : DocumentFields) (tree : Tree) (members : List (List Piece × Tree)) :
    readDocumentMembers depth read ((pieces, tree) :: members) =
      readDocumentField depth read name tree >>= fun next => readDocumentMembers depth next members := by
  rw [readDocumentMembers, spells.toString?]
  rfl

/-- The reading of a document without tables in the middle of its fields. -/
structure DocumentDue (depth : Nat) (read : DocumentFields) (fields : Fields) (nodes : Reading (List Node)) :
    Prop where
  nodes : Due (readNodeList depth) none read.nodes (valuesOf "parseStack" fields) nodes
  symbols : read.symbols = none ∧ valuesOf "symbols" fields = []
  words : read.words = none ∧ valuesOf "words" fields = []

theorem DocumentDue.step {depth : Nat} {read : DocumentFields} {name : String} {tree : Tree} {fields : Fields}
    {nodes : Reading (List Node)} (due : DocumentDue depth read ((name, tree) :: fields) nodes)
    (whole : tree.isWhole = true) :
    (∃ next, readDocumentField depth read name tree = .ok next ∧ DocumentDue depth next fields nodes) ∨
    ∃ error, readDocumentField depth read name tree = .error error ∧ nodes = .error error := by
  obtain ⟨dueNodes, ⟨unreadSymbols, noSymbols⟩, unreadWords, noWords⟩ := due
  by_cases own : name ∈ documentFieldNames
  · simp only [documentFieldNames, List.mem_cons, List.not_mem_nil, or_false] at own
    rcases own with rfl | rfl | rfl
    · rw [valuesOf_cons_self] at dueNodes
      rw [valuesOf_cons_of_ne (by decide)] at noSymbols noWords
      obtain ⟨unread, result, after⟩ := dueNodes.of_cons
      rw [readDocumentField_nodes unread, ← result]
      cases nodes with
      | ok nodes => exact .inl ⟨_, rfl, after nodes rfl, ⟨unreadSymbols, noSymbols⟩, unreadWords, noWords⟩
      | error error => exact .inr ⟨error, rfl, rfl⟩
    · rw [valuesOf_cons_self] at noSymbols
      cases noSymbols
    · rw [valuesOf_cons_self] at noWords
      cases noWords
  · have distinct : ∀ known ∈ documentFieldNames, name ≠ known := by
      rintro known member rfl
      exact own member
    rw [valuesOf_cons_of_ne (distinct _ (by decide))] at dueNodes noSymbols noWords
    exact .inl ⟨read, readDocumentField_other own whole, dueNodes, ⟨unreadSymbols, noSymbols⟩, unreadWords,
      noWords⟩

theorem DocumentDue.run {depth : Nat} {read : DocumentFields} {fields : Fields}
    {members : List (List Piece × Tree)} {nodes : Reading (List Node)}
    (due : DocumentDue depth read fields nodes) (named : Members fields members)
    (whole : Tree.membersAreWhole members = true) :
    (readDocumentMembers depth read members).map DocumentFields.toDocument? =
      nodes.map fun nodes => some { nodes := nodes } := by
  induction named generalizing read with
  | nil =>
    obtain ⟨value, nodesRead, same⟩ := due.nodes.of_nil
    rw [Option.or_none] at nodesRead
    rw [same, readDocumentMembers, Except.map, Except.map, DocumentFields.toDocument?, nodesRead,
      due.symbols.1, due.words.1]
    rfl
  | @cons field member fields members spelled _ ih =>
    obtain ⟨name, tree⟩ := field
    obtain ⟨pieces, value⟩ := member
    obtain ⟨spells, rfl⟩ := spelled
    simp only [Tree.membersAreWhole, Bool.and_eq_true] at whole
    rw [readDocumentMembers_cons spells]
    obtain ⟨next, found, dueNext⟩ | ⟨error, found, failed⟩ := due.step whole.1
    · rw [found]
      exact ih dueNext whole.2
    · rw [found, failed]
      rfl

theorem readDocument_object (depth : Nat) (members : List (List Piece × Tree)) :
    readDocument (depth + 1) (.object members true) =
      (readDocumentMembers depth {} members).map DocumentFields.toDocument? >>= fun document =>
        match document with
        | some document => .ok document
        | none => .error (.mismatch (.missingField "parseStack")) := by
  rw [readDocument]
  cases readDocumentMembers depth {} members with
  | error _ => rfl
  | ok _ => rfl

/-- A template is read from its object if the depth allows it. -/
theorem readDocument_form {nodes : List Node} {tree : Tree} (form : DocumentForm nodes tree)
    (whole : tree.isWhole = true) (depth : Nat) :
    readDocument depth tree = limited (documentNesting nodes) depth { nodes := nodes } := by
  obtain ⟨named, parsed, noSymbols, noWords, nodesForm⟩ := form
  rename_i items fields members
  cases depth with
  | zero => simp [readDocument, limited, documentNesting]
  | succ depth =>
    have membersWhole : Tree.membersAreWhole members = true := whole
    have itemsWhole : Tree.itemsAreWhole items = true :=
      named.isWhole_value membersWhole "parseStack" (.array items true) (by simp [parsed])
    have nodesDue : Due (readNodeList depth) none none (valuesOf "parseStack" fields)
        (limited (childrenNesting (some nodes)) depth nodes) := by
      rw [parsed, ← readNodeList_form nodesForm itemsWhole]
      exact .ahead _
    have due : DocumentDue depth {} fields _ := ⟨nodesDue, ⟨rfl, noSymbols⟩, rfl, noWords⟩
    rw [readDocument_object, due.run named membersWhole, limited_map, documentNesting, limited_succ]
    exact limited_bind rfl

end Interchange

open Interchange

/-- Reading a template gives the nodes that were written, whatever the order of their fields, the
blanks, the escapes and the fields of no use, unless they nest too deep. -/
theorem ofJson_recovers_nodes {nodes : List Node} {tree : Json.Tree} {text : String}
    (form : DocumentForm nodes tree) (written : (Json.Phrase.element tree).WrittenAs text.toList) :
    (documentNesting nodes ≤ 127 → Document.ofJson text = .ok { nodes := nodes }) ∧
    (127 < documentNesting nodes → ∃ error, Document.ofJson text = .error error ∧
      error.diagnostic.stage = .tree) := by
  have read : Document.ofJson text = limited (documentNesting nodes) maxDepth { nodes := nodes } := by
    rw [Document.ofJson, Json.Tree.ofText_of_writtenAs written]
    dsimp only
    rw [readDocument_form form written.isWhole maxDepth]
    exact limited_bind rfl
  constructor
  · intro shallow
    exact read.trans (if_pos shallow)
  · intro deep
    exact ⟨.notJson, read.trans (if_neg (Nat.not_le_of_lt deep)), rfl⟩

/-- The members of an object whose names are written as they are. -/
def plainMembers (fields : Fields) : List (List Json.Piece × Json.Tree) :=
  fields.map fun field => (field.1.toList.map .char, field.2)

theorem members_plainMembers (fields : Fields) : Members fields (plainMembers fields) := by
  have spells : ∀ cs : List Char, Json.Spells cs (cs.map .char) := by
    intro cs
    induction cs with
    | nil => exact .empty
    | cons c cs ih => exact .char c ih
  induction fields with
  | nil => exact .nil
  | cons field fields ih => exact .cons ⟨spells _, rfl⟩ ih

/-- A node whose text is one character of two code units. -/
def smiley : Node := { kind := .literal, text := "😀" }

/-- The fields of the node, which are not in the usual order. -/
def smileyFields : Fields :=
  [("val", .string [.unit 0xD83D, .unit 0xDE00]), ("type", .number ⟨false, [1], [], none⟩)]

/-- The fields of the template, with one of no use before the nodes. -/
def smileyTemplate : Fields :=
  [("x", .array [.array [] true] true),
    ("parseStack", .array [.object (plainMembers smileyFields) true] true)]

theorem smileyTemplate_form : DocumentForm [smiley] (.object (plainMembers smileyTemplate) true) := by
  have text : TextForm "😀" (valuesOf "val" smileyFields) := .string (.pair (by decide) .empty)
  have node : NodeForm smiley (.object (plainMembers smileyFields) true) :=
    .object (members_plainMembers smileyFields) rfl (.digits [1]) text .omitted .omitted
  exact .object (members_plainMembers smileyTemplate) rfl rfl rfl (.cons node .nil)

def smileyText : String :=
  "\x7b\"x\":[[]], \"parseStack\":[\x7b\"val\":\"\\uD83d\\ude00\",\"type\":1\x7d]\x7d"

theorem smileyText_written :
    (Json.Phrase.element (.object (plainMembers smileyTemplate) true)).WrittenAs smileyText.toList := by
  have plain : ∀ cs : List Char, cs.all (fun c => ' ' ≤ c && c != '"' && c != '\\') = true →
      Json.StringText (cs.map .char) cs := by
    intro cs visible
    induction cs with
    | nil => exact .empty
    | cons c cs ih =>
      simp only [List.all_cons, Bool.and_eq_true, decide_eq_true_eq, bne_iff_ne] at visible
      obtain ⟨⟨⟨shown, unquoted⟩, unescaped⟩, rest⟩ := visible
      exact .plain shown unquoted unescaped (ih rest)
  have low : Json.StringText [.unit 0xDE00] "\\ude00".toList :=
    @Json.StringText.long 13 14 0 0 'd' 'e' '0' '0' _ _ (Or.inl rfl) (Or.inl rfl) (Or.inl rfl) (Or.inl rfl)
      .empty
  have units : Json.StringText [.unit 0xD83D, .unit 0xDE00] "\\uD83d\\ude00".toList :=
    @Json.StringText.long 13 8 3 13 'D' '8' '3' 'd' _ _ (Or.inr rfl) (Or.inl rfl) (Or.inl rfl) (Or.inl rfl)
      low
  have tag : Json.NumeralText ⟨false, [1], [], none⟩ ['1'] :=
    .parts ⟨by simp, by simp, rfl⟩ (by simp) .absent .absent
  have unblank : Json.Blank [] := by simp [Json.Blank]
  have blank : Json.Blank [' '] := by simp [Json.Blank]
  have val := Json.Phrase.WrittenAs.member unblank (plain "val".toList (by decide)) unblank
    (Json.Phrase.WrittenAs.string units).bare
  have type := Json.Phrase.WrittenAs.member unblank (plain "type".toList (by decide)) unblank
    (Json.Phrase.WrittenAs.number tag).bare
  have node := Json.Phrase.WrittenAs.object (.field val (.lastField type))
  have nodes := Json.Phrase.WrittenAs.member blank (plain "parseStack".toList (by decide)) unblank
    (Json.Phrase.WrittenAs.array (.lastItem node.bare)).bare
  have useless := Json.Phrase.WrittenAs.member unblank (plain "x".toList (by decide)) unblank
    (Json.Phrase.WrittenAs.array (.lastItem (Json.Phrase.WrittenAs.emptyArray unblank).bare)).bare
  have template := Json.Phrase.WrittenAs.object (.field useless (.lastField nodes))
  exact template.bare

/-- The template is read whatever the order of its fields and the escapes in its text. -/
theorem ofJson_recovers_nodes_escaped :
    DocumentForm [smiley] (.object (plainMembers smileyTemplate) true) ∧
    (Json.Phrase.element (.object (plainMembers smileyTemplate) true)).WrittenAs smileyText.toList ∧
    documentNesting [smiley] = 3 ∧ Document.ofJson smileyText = .ok { nodes := [smiley] } :=
  ⟨smileyTemplate_form, smileyText_written, rfl,
    (ofJson_recovers_nodes smileyTemplate_form smileyText_written).1 (by decide)⟩

end TemplateCompiler
