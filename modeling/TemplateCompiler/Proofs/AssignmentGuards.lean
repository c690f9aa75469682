import TemplateCompiler.Proofs.AssignmentText

namespace TemplateCompiler.Lowering

/-- Something that shows a value stands in the text before its first equals sign. -/
def ValueFirst (text : List Char) : Prop :=
  ∃ v ∈ text.takeWhile (· != '='), ShowsValue v

instance (text : List Char) : Decidable (ValueFirst text) :=
  decidable_of_iff ((text.takeWhile (· != '=')).any showsValue = true) <| by
    simp only [List.any_eq_true, showsValue_iff, ValueFirst]

/-- An equals sign at the start of the text is followed by another one. -/
def NoLoneEquals (text : List Char) : Prop :=
  text.head? = some '=' → text.tail.head? = some '='

instance (text : List Char) : Decidable (NoLoneEquals text) :=
  inferInstanceAs (Decidable (_ → _))

/-- A group in parentheses that is left out of a line shows a value before any equals sign of its own,
and no lone equals sign comes directly after it. -/
def GroupsApart (text : List Char) : Prop :=
  ∀ line ∈ text.splitOn '\n', ['(', ')'].Sublist line →
    ('=' ∈ (line.dropWhile (· != '(')).rdropWhile (· != ')') →
      ValueFirst ((line.dropWhile (· != '(')).rdropWhile (· != ')'))) ∧
    NoLoneEquals (line.rtakeWhile (· != ')'))

instance (text : List Char) : Decidable (GroupsApart text) :=
  inferInstanceAs (Decidable (∀ line ∈ text.splitOn '\n', ['(', ')'].Sublist line → _ ∧ _))

/-- A text and what is left of it when groups are cut out that show a value before any equals sign of
their own and stand directly before no lone one. -/
inductive CutsGroups : List Char → List Char → Prop
  | nil : CutsGroups [] []
  | keep (c : Char) {text left : List Char} : CutsGroups text left → CutsGroups (c :: text) (c :: left)
  | cut {group text left : List Char} : ('=' ∈ group → ValueFirst group) → NoLoneEquals text →
      CutsGroups text left → CutsGroups (group ++ text) left

theorem ValueFirst.left {text : List Char} (shows : ValueFirst text) (rest : List Char) :
    ValueFirst (text ++ rest) := by
  obtain ⟨v, member, value⟩ := shows
  refine ⟨v, ?_, value⟩
  rw [List.takeWhile_append]
  split
  · exact List.mem_append_left _ (List.takeWhile_subset _ member)
  · exact member

theorem ValueFirst.right {text : List Char} (shows : ValueFirst text) {front : List Char}
    (free : '=' ∉ front) : ValueFirst (front ++ text) := by
  obtain ⟨v, member, value⟩ := shows
  refine ⟨v, ?_, value⟩
  rw [List.takeWhile_append_of_pos (forall_bne_of_not_mem free)]
  exact List.mem_append_right _ member

theorem not_valueFirst_equals (rest : List Char) : ¬ ValueFirst ('=' :: rest) := by
  rintro ⟨v, member, _⟩
  rw [List.takeWhile_cons_of_neg (by simp)] at member
  cases member

namespace CutsGroups

theorem kept {text left : List Char} (cuts : CutsGroups text left) (front : List Char) :
    CutsGroups (front ++ text) (front ++ left) := by
  induction front with
  | nil => exact cuts
  | cons c front ih => exact ih.keep c

/-- No group begins with an equals sign. -/
theorem head_equals {text left : List Char} (cuts : CutsGroups text left) (head : text.head? = some '=') :
    left.head? = some '=' := by
  induction cuts with
  | nil => exact head
  | keep c inner ih => exact head
  | @cut group text left first apart inner ih =>
    cases group with
    | nil => exact ih head
    | cons c group =>
      cases head
      exact absurd (first List.mem_cons_self) (not_valueFirst_equals group)

/-- A lone equals sign is not joined to what stands before a group. -/
theorem equals {text left : List Char} (cuts : CutsGroups text ('=' :: left))
    (alone : left.head? ≠ some '=') : ∃ text', text = '=' :: text' ∧ CutsGroups text' left := by
  generalize whole : '=' :: left = right at cuts
  induction cuts with
  | nil => cases whole
  | keep c inner ih =>
    cases whole
    exact ⟨_, rfl, inner⟩
  | cut first apart inner ih =>
    obtain ⟨text', rfl, later⟩ := ih whole
    exact absurd (later.head_equals (apart rfl)) alone

theorem target {text left before rest : List Char} {c : Char} (cuts : CutsGroups text left)
    (split : left = before ++ c :: '=' :: rest) (alone : rest.head? ≠ some '=') :
    ∃ before' rest', text = before' ++ c :: '=' :: rest' ∧ CutsGroups rest' rest := by
  induction cuts generalizing before with
  | nil => simp at split
  | keep d inner ih =>
    cases before with
    | nil =>
      obtain ⟨rfl, rfl⟩ := List.cons.inj split
      obtain ⟨rest', rfl, later⟩ := inner.equals alone
      exact ⟨[], rest', rfl, later⟩
    | cons _ before =>
      obtain ⟨rfl, tail⟩ := List.cons.inj split
      obtain ⟨before', rest', rfl, later⟩ := ih tail
      exact ⟨d :: before', rest', rfl, later⟩
  | @cut group _ _ first apart inner ih =>
    obtain ⟨before', rest', rfl, later⟩ := ih split
    exact ⟨group ++ before', rest', (List.append_assoc ..).symm, later⟩

theorem value {text left : List Char} (cuts : CutsGroups text left) (shows : ValueFirst left) :
    ValueFirst text := by
  induction cuts with
  | nil => exact shows
  | @keep c text left inner ih =>
    by_cases equals : c = '='
    · subst equals
      exact absurd shows (not_valueFirst_equals left)
    · obtain ⟨v, member, value⟩ := shows
      have plain : (c != '=') = true := bne_iff_ne.mpr equals
      rw [List.takeWhile_cons, if_pos plain] at member
      rcases List.mem_cons.mp member with rfl | later
      · refine ⟨v, ?_, value⟩
        rw [List.takeWhile_cons, if_pos plain]
        exact List.mem_cons_self
      · have free : '=' ∉ [c] := by simpa using Ne.symm equals
        exact (ih ⟨v, later, value⟩).right free
  | @cut group text left first apart inner ih =>
    by_cases equals : '=' ∈ group
    · exact (first equals).left text
    · exact (ih shows).right equals

/-- What assigns without its groups assigns with them. -/
theorem assigns {text left : List Char} (cuts : CutsGroups text left) (left_assigns : Assigns left) :
    Assigns text := by
  obtain ⟨before, c, rest, split, ends, shows⟩ := left_assigns
  have alone : rest.head? ≠ some '=' := by
    intro head
    obtain ⟨tail, rfl⟩ := List.head?_eq_some_iff.mp head
    exact not_valueFirst_equals tail shows
  obtain ⟨before', rest', split', later⟩ := cuts.target split alone
  exact ⟨before', c, rest', split', ends, later.value shows⟩

theorem no_equals_or_value {text : List Char} (cuts : CutsGroups text []) :
    '=' ∉ text ∨ ValueFirst text := by
  generalize empty : [] = left at cuts
  induction cuts with
  | nil => exact .inl List.not_mem_nil
  | keep => cases empty
  | @cut group text left first apart inner ih =>
    by_cases equals : '=' ∈ group
    · exact .inr ((first equals).left text)
    · refine (ih empty).imp (fun free => ?_) fun shows => shows.right equals
      rw [List.mem_append, not_or]
      exact ⟨equals, free⟩

/-- What ends assigning without its groups assigns with them if its value shows. -/
theorem assigns_of_trailing {text left : List Char} (cuts : CutsGroups text left)
    (ends : EndsAssigning left)
    (shown : ∃ v ∈ text.rtakeWhile (· != '='), ShowsValue v) : Assigns text := by
  obtain ⟨before, c, split, target⟩ := ends
  obtain ⟨before', rest', rfl, later⟩ := cuts.target split (by simp)
  refine ⟨before', c, rest', rfl, target, ?_⟩
  rcases later.no_equals_or_value with free | shows
  · -- The equals sign is the last one of the text, so that the value that shows comes after it.
    obtain ⟨v, member, value⟩ := shown
    rw [List.append_cons, rtakeWhile_ne_append free] at member
    have whole : rest'.takeWhile (· != '=') = rest' :=
      List.takeWhile_eq_self_iff.mpr (forall_bne_of_not_mem free)
    exact ⟨v, by rwa [whole], value⟩
  · exact shows

end CutsGroups

theorem NoLoneEquals.append {after text : List Char} (apart : NoLoneEquals after)
    (next : text.head? ≠ some '=') : NoLoneEquals (after ++ text) := by
  intro head
  match after, apart with
  | [], _ => exact absurd head next
  | [_], apart => cases apart head
  | _ :: _ :: _, apart => exact apart head

theorem Span.cutsGroups {line before inside after text left : List Char}
    (span : Span '(' ')' line before inside after)
    (first : '=' ∈ '(' :: inside ++ [')'] → ValueFirst ('(' :: inside ++ [')']))
    (apart : NoLoneEquals after) (next : text.head? ≠ some '=') (cuts : CutsGroups text left) :
    CutsGroups (line ++ text) (before ++ after ++ left) := by
  have whole := (CutsGroups.cut first (apart.append next) (cuts.kept after)).kept before
  rw [span.whole]
  simpa using whole

theorem GroupsApart.span {text line before inside after : List Char} (apart : GroupsApart text)
    (member : line ∈ text.splitOn '\n') (span : Span '(' ')' line before inside after) :
    ('=' ∈ '(' :: inside ++ [')'] → ValueFirst ('(' :: inside ++ [')'])) ∧ NoLoneEquals after := by
  have limits := apart line member span.sublist
  have front : line.dropWhile (· != '(') = '(' :: inside ++ ')' :: after := by
    rw [span.whole, List.dropWhile_append_of_pos (forall_bne_of_not_mem span.first),
      List.dropWhile_cons_of_neg (by simp), List.cons_append]
  have back : line.rtakeWhile (· != ')') = after := by
    rw [span.whole, ← List.cons_append, ← List.append_assoc, rtakeWhile_ne_append span.last]
  have group : ('(' :: inside ++ ')' :: after).rdropWhile (· != ')') = '(' :: inside ++ [')'] := by
    have parts := List.rdropWhile_append_rtakeWhile (p := (· != ')')) (l := '(' :: inside ++ ')' :: after)
    rw [rtakeWhile_ne_append span.last] at parts
    exact List.append_cancel_right (parts.trans (List.append_cons ('(' :: inside) ')' after))
  rwa [front, group, back] at limits

theorem cutsGroups_line {line text left : List Char}
    (apart : ∀ before inside after, Span '(' ')' line before inside after →
      ('=' ∈ '(' :: inside ++ [')'] → ValueFirst ('(' :: inside ++ [')'])) ∧ NoLoneEquals after)
    (next : text.head? ≠ some '=') (cuts : CutsGroups text left) :
    CutsGroups (line ++ text) (outsideSpan '(' ')' line ++ left) := by
  by_cases ordered : ['(', ')'].Sublist line
  · obtain ⟨before, inside, after, span⟩ := exists_span ordered
    obtain ⟨first, follows⟩ := apart before inside after span
    rw [span.outsideSpan]
    exact span.cutsGroups first follows next cuts
  · rw [outsideSpan, if_neg ordered]
    exact cuts.kept line

/-- The groups that are left out of a text are cut out of it as they stand. -/
theorem GroupsApart.cutsGroups {text : List Char} (apart : GroupsApart text) :
    CutsGroups text (outsideParentheses text) := by
  induction text using lines_induction with
  | line line single =>
    have alone : line ∈ line.splitOn '\n' := by simp [List.splitOn_eq_singleton single]
    have whole := cutsGroups_line (fun _ _ _ => apart.span alone) (by simp) CutsGroups.nil
    rw [List.append_nil, List.append_nil] at whole
    rwa [outsideParentheses, onLines_line single]
  | cons line rest single ih =>
    have lines := List.splitOn_append_cons_self_of_not_mem single rest
    have apartRest : GroupsApart rest := fun other member =>
      apart other (by rw [lines]; exact List.mem_cons_of_mem _ member)
    rw [outsideParentheses, onLines_cons single]
    exact cutsGroups_line (fun _ _ _ => apart.span (by rw [lines]; exact List.mem_cons_self)) (by simp)
      ((ih apartRest).keep '\n')

/-- What is accepted as an assignment is refused as a condition, if outside its quotes the groups in
parentheses stand apart from the equals signs and the value shows: before the next equals sign outside
of groups, or anywhere after the last equals sign. -/
theorem conditions_refuse_assignments {expression code : String} {position : Nat}
    {emission result : Emission}
    (accepted : (lowerDirective .assign expression position).run emission = .ok code result)
    (apart : GroupsApart (outsideQuotes expression.toList))
    (shown : Assigns (outsideParentheses (outsideQuotes expression.toList)) ∨
      ∃ v ∈ (outsideQuotes expression.toList).rtakeWhile (· != '='), ShowsValue v)
    {directive : Directive} {here : Emission} (admits : AdmitsCondition directive here)
    (place : Nat) :
    (lowerDirective directive expression place).run here =
      .error ⟨place, .assignmentInCondition directive expression⟩ here := by
  have present := lowerDirective_present accepted
  rw [Directive.takesExpression, Bool.true_and] at present
  have recognised := isAssignment_iff.mp
    ((lowerDirective_assign_run present position emission).1.mp ⟨code, result, accepted⟩)
  refine (admits.run present place).1.mpr (assigns_iff.mpr ?_)
  rcases shown with full | shows
  · exact apart.cutsGroups.assigns full
  · rcases recognised with full | trailing
    · exact apart.cutsGroups.assigns full
    · exact apart.cutsGroups.assigns_of_trailing trailing shows

/-- An assignment of a comparison in which a group holds another one, and an assignment whose whole value
stands in parentheses. -/
theorem conditions_refuse_assignments_grouped :
    GroupsApart (outsideQuotes "rows['a='] = f(b===c)==1".toList) ∧
    Assigns (outsideParentheses (outsideQuotes "rows['a='] = f(b===c)==1".toList)) ∧
    (lowerDirective .ifThen "rows['a='] = f(b===c)==1" 3).run {} =
      .error ⟨3, .assignmentInCondition .ifThen "rows['a='] = f(b===c)==1"⟩ {} ∧
    ¬ Assigns (outsideParentheses (outsideQuotes "x=(f(n))".toList)) ∧
    (lowerDirective .elseIf "x=(f(n))" 9).run { blocks := [⟨.conditional, 3⟩] } =
      .error ⟨9, .assignmentInCondition .elseIf "x=(f(n))"⟩ { blocks := [⟨.conditional, 3⟩] } := by
  have accepted : (lowerDirective .assign "rows['a='] = f(b===c)==1" 0).run {} =
      .ok ("rows['a='] = f(b===c)==1" ++ ";") (Emission.hoistRoot {} "rows['a='] = f(b===c)==1") :=
    Performs.run (.assign (by decide +kernel)) (by decide +kernel)
  have accepted' : (lowerDirective .assign "x=(f(n))" 0).run {} =
      .ok ("x=(f(n))" ++ ";") (Emission.hoistRoot {} "x=(f(n))") :=
    Performs.run (.assign (by decide +kernel)) (by decide +kernel)
  have apart : GroupsApart (outsideQuotes "rows['a='] = f(b===c)==1".toList) := by decide +kernel
  have full : Assigns (outsideParentheses (outsideQuotes "rows['a='] = f(b===c)==1".toList)) := by
    decide +kernel
  refine ⟨apart, full, ?_, by decide +kernel, ?_⟩
  · exact conditions_refuse_assignments accepted apart (.inl full) (.inl rfl) 3
  · have value : 'f' ∈ (outsideQuotes "x=(f(n))".toList).rtakeWhile (· != '=') := by decide +kernel
    exact conditions_refuse_assignments accepted' (by decide +kernel) (.inr ⟨'f', value, by decide⟩)
      (.inr ⟨rfl, rfl⟩) 9

/-- The same expression as an assignment and as the condition of two arms. -/
def assignedAndTested (expression : String) : List Node :=
  [.directive "set" (some [.verbatim expression]), .directive "if" (some [.verbatim expression]),
    .directive "elseif" (some [.verbatim expression]), .directive "end" none]

/-- An assignment to a group and an assignment without a value are accepted as conditions too. -/
theorem conditions_accept_loose_assignments :
    programOf {} (assignedAndTested "f(a)=1") =
      .ok ⟨["f"], false, false, "f(a)=1;if(f(a)=1)\x7b\x7delse if(f(a)=1)\x7b\x7d"⟩ ∧
    programOf {} (assignedAndTested "a=") =
      .ok ⟨["a"], false, false, "a=;if(a=)\x7b\x7delse if(a=)\x7b\x7d"⟩ := by
  decide +kernel

end TemplateCompiler.Lowering
