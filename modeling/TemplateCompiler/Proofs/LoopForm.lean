import Mathlib.Data.List.Basic
import TemplateCompiler.Proofs.Outcomes
import TemplateCompiler.Proofs.PatternMatches

namespace TemplateCompiler

namespace Text

theorem head?_dropLeadingSpace (cs : List Char) :
    ∀ c ∈ (dropLeadingSpace cs).head?, isWhiteSpace c = false := by
  intro c first
  have stopped := List.head?_dropWhile_not isWhiteSpace cs
  rw [dropLeadingSpace] at first
  rwa [Option.mem_def.mp first] at stopped

theorem getLast?_dropTrailingSpace (cs : List Char) :
    ∀ c ∈ (dropTrailingSpace cs).getLast?, isWhiteSpace c = false := by
  rw [dropTrailingSpace, List.getLast?_reverse]
  exact head?_dropLeadingSpace cs.reverse

/-- A trimmed text does not begin with white space. -/
theorem head?_trim (s : String) : ∀ c ∈ (trim s).toList.head?, isWhiteSpace c = false := by
  intro c first
  rw [trim, String.toList_ofList] at first
  have front : dropTrailingSpace (dropLeadingSpace s.toList) <+: dropLeadingSpace s.toList := by
    have back := List.dropWhile_suffix isWhiteSpace (l := (dropLeadingSpace s.toList).reverse)
    rwa [← List.reverse_prefix, List.reverse_reverse] at back
  obtain ⟨trailing, whole⟩ := front
  refine head?_dropLeadingSpace s.toList c ?_
  rw [← whole, List.head?_append, Option.mem_def.mp first]
  rfl

/-- A trimmed text does not end with white space. -/
theorem getLast?_trim (s : String) : ∀ c ∈ (trim s).toList.getLast?, isWhiteSpace c = false := by
  rw [trim, String.toList_ofList]
  exact getLast?_dropTrailingSpace _

end Text

namespace Lowering

open Text (Pattern PatternPart isWhiteSpace)

/-- White space, and some of it. -/
structure IsSpace (cs : List Char) : Prop where
  nonempty : cs ≠ []
  white : ∀ c ∈ cs, isWhiteSpace c = true

/-- The text holds the word `in` between white space. -/
def HasSeparator (text : List Char) : Prop :=
  ∃ before first second after, text = before ++ first ++ ['i', 'n'] ++ second ++ after ∧
    IsSpace first ∧ IsSpace second

instance (cs : List Char) : Decidable (IsSpace cs) :=
  decidable_of_iff (cs ≠ [] ∧ cs.all isWhiteSpace = true)
    ⟨fun ⟨nonempty, white⟩ => ⟨nonempty, List.all_eq_true.mp white⟩,
      fun ⟨nonempty, white⟩ => ⟨nonempty, List.all_eq_true.mpr white⟩⟩

/-- A loop's expression cut at the word `in`, with the white space around the word. -/
structure LoopCut where
  key : List Char
  first : List Char
  second : List Char
  collection : List Char
  deriving DecidableEq

/-- The text is the key, the word `in` between white space, and the collection, and there is no other
place at which it could be cut before or after that one. -/
structure LoopCut.Divides (cut : LoopCut) (text : List Char) : Prop where
  whole : text = cut.key ++ cut.first ++ ['i', 'n'] ++ cut.second ++ cut.collection
  first : IsSpace cut.first
  second : IsSpace cut.second
  key_nonempty : cut.key ≠ []
  key_last : ∀ c ∈ cut.key.getLast?, isWhiteSpace c = false
  key_free : ¬ HasSeparator (cut.key ++ [' '])
  collection_nonempty : cut.collection ≠ []
  collection_head : ∀ c ∈ cut.collection.head?, isWhiteSpace c = false
  collection_free : ¬ HasSeparator cut.collection

/-- White space before other text is what the text begins with. -/
theorem takeWhile_space {space rest : List Char} (white : ∀ c ∈ space, isWhiteSpace c = true)
    (stops : ∀ c ∈ rest.head?, isWhiteSpace c = false) :
    (space ++ rest).takeWhile isWhiteSpace = space := by
  rw [List.takeWhile_append_of_pos white]
  cases rest with
  | nil => exact List.append_nil space
  | cons c rest => rw [List.takeWhile_cons_of_neg (Bool.eq_false_iff.mp (stops c rfl)), List.append_nil]

theorem dropWhile_space {space rest : List Char} (white : ∀ c ∈ space, isWhiteSpace c = true)
    (stops : ∀ c ∈ rest.head?, isWhiteSpace c = false) :
    (space ++ rest).dropWhile isWhiteSpace = rest := by
  have whole := List.takeWhile_append_dropWhile (p := isWhiteSpace) (l := space ++ rest)
  rw [takeWhile_space white stops] at whole
  exact List.append_cancel_left whole

theorem isSpace_cons {c : Char} {cs : List Char} (here : isWhiteSpace c = true)
    (white : ∀ c ∈ cs, isWhiteSpace c = true) : IsSpace (c :: cs) :=
  ⟨List.cons_ne_nil _ _, List.forall_mem_cons.mpr ⟨here, white⟩⟩

/-- A separator is matched with all the white space around the word. -/
theorem loopSeparator_rest?_eq_some_iff {cs rest : List Char} :
    loopSeparator.rest? cs = some rest ↔
      ∃ first second, cs = first ++ ['i', 'n'] ++ second ++ rest ∧ IsSpace first ∧ IsSpace second ∧
        ∀ c ∈ rest.head?, isWhiteSpace c = false := by
  have word : ∀ c cs, isWhiteSpace c = true →
      PatternPart.rest? [.one (· == 'i'), .one (· == 'n'), .one isWhiteSpace, .many isWhiteSpace]
        (c :: cs) = none := by
    intro c cs space
    refine if_neg fun letter => ?_
    rw [eq_of_beq letter] at space
    exact absurd space (by decide)
  have run : ∀ cs, PatternPart.rest? loopSeparator.parts cs = PatternPart.rest?
      [.one (· == 'i'), .one (· == 'n'), .one isWhiteSpace, .many isWhiteSpace]
      (cs.dropWhile isWhiteSpace) := fun cs => PatternPart.greedy_eq_dropWhile word cs
  have last : ∀ cs, PatternPart.rest? [.many isWhiteSpace] cs = some (cs.dropWhile isWhiteSpace) :=
    PatternPart.greedy_some isWhiteSpace
  simp only [Pattern.rest?_eq_some_iff, run, PatternPart.rest?_one_eq_some_iff, last, beq_iff_eq,
    Option.some.injEq]
  constructor
  · rintro ⟨c, tail, rfl, space, _, _, spaces, rfl, _, _, rfl, rfl, d, more, rfl, space', rfl⟩
    refine ⟨c :: tail.takeWhile isWhiteSpace, d :: more.takeWhile isWhiteSpace, ?_,
      isSpace_cons space (List.all_eq_true.mp List.all_takeWhile),
      isSpace_cons space' (List.all_eq_true.mp List.all_takeWhile),
      Text.head?_dropLeadingSpace more⟩
    have whole := List.takeWhile_append_dropWhile (p := isWhiteSpace) (l := tail)
    have whole' := List.takeWhile_append_dropWhile (p := isWhiteSpace) (l := more)
    rw [spaces, ← whole'] at whole
    simp only [List.cons_append, List.append_assoc, List.nil_append] at whole ⊢
    rw [whole]
  · rintro ⟨first, second, rfl, space, space', stops⟩
    obtain ⟨c, first, rfl⟩ := List.exists_cons_of_ne_nil space.nonempty
    obtain ⟨d, second, rfl⟩ := List.exists_cons_of_ne_nil space'.nonempty
    obtain ⟨here, white⟩ := List.forall_mem_cons.mp space.white
    obtain ⟨here', white'⟩ := List.forall_mem_cons.mp space'.white
    have stopsWord : ∀ c ∈ ('i' :: 'n' :: d :: (second ++ rest)).head?, isWhiteSpace c = false := by
      simp only [List.head?_cons, Option.mem_some_iff]
      rintro _ rfl
      decide
    refine ⟨c, first ++ 'i' :: 'n' :: d :: (second ++ rest), by simp, here, 'i', _,
      dropWhile_space white stopsWord, rfl, 'n', _, rfl, rfl, d, _, rfl, here', ?_⟩
    exact dropWhile_space white' stops

/-- A separator stands at the start of the text. -/
def StartsSeparator (text : List Char) : Prop :=
  ∃ first c rest, text = first ++ ['i', 'n'] ++ c :: rest ∧ IsSpace first ∧ isWhiteSpace c = true

theorem StartsSeparator.length_le {text : List Char} (starts : StartsSeparator text) : 4 ≤ text.length := by
  obtain ⟨first, c, rest, rfl, space, _⟩ := starts
  have some := List.length_pos_iff.mpr space.nonempty
  simp only [List.length_append, List.length_cons, List.length_nil]
  omega

theorem loopSeparator_rest?_eq_none_iff {cs : List Char} :
    loopSeparator.rest? cs = none ↔ ¬ StartsSeparator cs := by
  rw [Option.eq_none_iff_forall_ne_some]
  constructor
  · rintro refused ⟨first, c, rest, rfl, space, white⟩
    have whole := List.takeWhile_append_dropWhile (p := isWhiteSpace) (l := rest)
    refine refused (rest.dropWhile isWhiteSpace) (loopSeparator_rest?_eq_some_iff.mpr
      ⟨first, c :: rest.takeWhile isWhiteSpace, ?_, space,
        isSpace_cons white (List.all_eq_true.mp List.all_takeWhile), Text.head?_dropLeadingSpace rest⟩)
    rw [List.append_assoc _ (c :: _), List.cons_append, whole]
  · intro starts rest found
    obtain ⟨first, second, rfl, space, space', _⟩ := loopSeparator_rest?_eq_some_iff.mp found
    obtain ⟨c, second, rfl⟩ := List.exists_cons_of_ne_nil space'.nonempty
    exact starts ⟨first, c, second ++ rest, by simp, space, space'.white c List.mem_cons_self⟩

theorem hasSeparator_iff {text : List Char} :
    HasSeparator text ↔ ∃ before after, text = before ++ after ∧ StartsSeparator after := by
  constructor
  · rintro ⟨before, first, second, after, rfl, space, space'⟩
    obtain ⟨c, second, rfl⟩ := List.exists_cons_of_ne_nil space'.nonempty
    exact ⟨before, first ++ ['i', 'n'] ++ c :: (second ++ after), by simp,
      first, c, second ++ after, rfl, space, space'.white c List.mem_cons_self⟩
  · rintro ⟨before, _, rfl, first, c, rest, rfl, space, white⟩
    exact ⟨before, first, [c], rest, by simp, space, isSpace_cons white nofun⟩

theorem find?_loopSeparator_eq_none_iff {text : List Char} :
    loopSeparator.find? text = none ↔ ¬ HasSeparator text := by
  simp only [Pattern.find?_eq_none_iff, loopSeparator_rest?_eq_none_iff, hasSeparator_iff]
  exact ⟨fun free ⟨before, after, split, starts⟩ => free before after split starts,
    fun free before after split starts => free ⟨before, after, split, starts⟩⟩

instance (text : List Char) : Decidable (HasSeparator text) :=
  decidable_of_iff (¬ loopSeparator.find? text = none)
    ((not_congr find?_loopSeparator_eq_none_iff).trans Classical.not_not)

/-- Of what follows a text that does not end with white space, only the first character can be part of
a separator that starts in the text. -/
theorem StartsSeparator.transfer {text rest rest' : List Char} {c d : Char} (present : text ≠ [])
    (last : ∀ c ∈ text.getLast?, isWhiteSpace c = false) (white : isWhiteSpace c = true)
    (white' : isWhiteSpace d = true) (starts : StartsSeparator (text ++ c :: rest)) :
    StartsSeparator (text ++ d :: rest') := by
  obtain ⟨first, e, tail, split, space, white''⟩ := starts
  have other : ¬ ∀ c ∈ text, isWhiteSpace c = true := by
    intro all
    have black := last _ (List.getLast?_eq_some_getLast present)
    rw [all _ (List.getLast_mem present)] at black
    cases black
  rw [List.append_assoc] at split
  rcases List.append_eq_append_iff.mp split with ⟨more, rfl, _⟩ | ⟨inner, rfl, later⟩
  · exact absurd (fun c member => space.white c (List.mem_append_left more member)) other
  · match inner, later with
    | [], _ => exact absurd (by simpa using space.white) other
    | [_], later =>
      cases later
      exact absurd white (by decide)
    | [_, _], later =>
      cases later
      exact ⟨first, d, rest', rfl, space, white'⟩
    | _ :: _ :: _ :: inner, later =>
      cases later
      exact ⟨first, e, inner ++ d :: rest', by simp, space, white''⟩

/-- The first separator of a text stands where the text before it does not end with white space and
holds none, not even one that would end with the white space after it. -/
theorem find?_loopSeparator_eq_some_iff {text key rest : List Char} :
    loopSeparator.find? text = some (key, rest) ↔
      ∃ first second, text = key ++ first ++ ['i', 'n'] ++ second ++ rest ∧ IsSpace first ∧
        IsSpace second ∧ (∀ c ∈ rest.head?, isWhiteSpace c = false) ∧
        (∀ c ∈ key.getLast?, isWhiteSpace c = false) ∧ ¬ HasSeparator (key ++ [' ']) := by
  simp only [Pattern.find?_eq_some_iff, loopSeparator_rest?_eq_some_iff, loopSeparator_rest?_eq_none_iff]
  constructor
  · rintro ⟨after, rfl, ⟨first, second, whole, space, space', stops⟩, leftmost⟩
    obtain ⟨c, first', rfl⟩ := List.exists_cons_of_ne_nil space.nonempty
    obtain ⟨d, second', rfl⟩ := List.exists_cons_of_ne_nil space'.nonempty
    have white := space.white c List.mem_cons_self
    have white' := space'.white d List.mem_cons_self
    have last : ∀ c ∈ key.getLast?, isWhiteSpace c = false := by
      -- White space at the end of the key would have been the start of an earlier match.
      intro e final
      refine Bool.eq_false_iff.mpr fun white'' => ?_
      obtain ⟨front, rfl⟩ := List.getLast?_eq_some_iff.mp final
      refine leftmost front [e] rfl (List.cons_ne_nil _ _) ⟨e :: c :: first', d, second' ++ rest, ?_,
        isSpace_cons white'' space.white, white'⟩
      rw [whole]
      simp
    refine ⟨c :: first', d :: second', by rw [whole]; simp, space, space', stops, last, fun separator => ?_⟩
    obtain ⟨before, text, split, starts⟩ := hasSeparator_iff.mp separator
    have long := starts.length_le
    rcases List.append_eq_append_iff.mp split with ⟨more, _, blank⟩ | ⟨inner, rfl, rfl⟩
    · have short := congrArg List.length blank
      rw [List.length_append, List.length_singleton] at short
      omega
    · have present : inner ≠ [] := by
        rintro rfl
        rw [List.nil_append, List.length_singleton] at long
        omega
      rw [List.getLast?_append_of_ne_nil _ present] at last
      refine leftmost before inner rfl present ?_
      rw [whole]
      exact starts.transfer present last (by decide) white
  · rintro ⟨first, second, rfl, space, space', stops, last, free⟩
    refine ⟨first ++ ['i', 'n'] ++ second ++ rest, by simp only [List.append_assoc],
      ⟨first, second, rfl, space, space', stops⟩, fun left right split present starts => free ?_⟩
    subst split
    rw [List.getLast?_append_of_ne_nil _ present] at last
    obtain ⟨c, first, rfl⟩ := List.exists_cons_of_ne_nil space.nonempty
    have white := space.white c List.mem_cons_self
    have alone : StartsSeparator (right ++ [' ']) := starts.transfer present last white (by decide)
    exact hasSeparator_iff.mpr ⟨left, right ++ [' '], List.append_assoc .., alone⟩

theorem LoopCut.Divides.split {cut : LoopCut} {text : List Char} (divides : cut.Divides text) :
    loopSeparator.split text = [cut.key, cut.collection] := by
  refine Pattern.split_eq_pair_iff.mpr ⟨find?_loopSeparator_eq_some_iff.mpr ⟨cut.first, cut.second,
    divides.whole, divides.first, divides.second, divides.collection_head, divides.key_last,
    divides.key_free⟩, find?_loopSeparator_eq_none_iff.mpr divides.collection_free⟩

/-- Two pieces of a text without white space at its ends come from a cut: neither of them is empty,
since the separator that divides them begins and ends with white space. -/
theorem exists_cut_of_split {text key collection : List Char}
    (head : ∀ c ∈ text.head?, isWhiteSpace c = false) (last : ∀ c ∈ text.getLast?, isWhiteSpace c = false)
    (pieces : loopSeparator.split text = [key, collection]) :
    ∃ first second, LoopCut.Divides ⟨key, first, second, collection⟩ text := by
  obtain ⟨found, free⟩ := Pattern.split_eq_pair_iff.mp pieces
  obtain ⟨first, second, rfl, space, space', stops, keyLast, keyFree⟩ :=
    find?_loopSeparator_eq_some_iff.mp found
  refine ⟨first, second, rfl, space, space', ?_, keyLast, keyFree, ?_, stops,
    find?_loopSeparator_eq_none_iff.mp free⟩
  · rintro rfl
    obtain ⟨c, first, rfl⟩ := List.exists_cons_of_ne_nil space.nonempty
    have white := space.white c List.mem_cons_self
    rw [head c rfl] at white
    cases white
  · rintro rfl
    have white := space'.white _ (List.getLast_mem space'.nonempty)
    rw [List.append_nil, List.getLast?_append_of_ne_nil _ space'.nonempty,
      List.getLast?_eq_some_getLast space'.nonempty] at last
    rw [last _ rfl] at white
    cases white

/-- A text is cut in one way only. -/
theorem LoopCut.Divides.unique {cut other : LoopCut} {text : List Char} (divides : cut.Divides text)
    (also : other.Divides text) : other = cut := by
  obtain ⟨key, first, second, collection⟩ := cut
  obtain ⟨key', first', second', collection'⟩ := other
  have pieces := also.split.symm.trans divides.split
  obtain ⟨rfl, rfl⟩ : key' = key ∧ collection' = collection := by simpa using pieces
  have whole := also.whole.symm.trans divides.whole
  simp only [List.append_assoc, List.append_cancel_left_eq] at whole
  have word : ∀ rest : List Char, ∀ c ∈ (['i', 'n'] ++ rest).head?, isWhiteSpace c = false := by
    intro rest c start
    cases start
    decide
  have same : first' = first := by
    have spaces := congrArg (List.takeWhile isWhiteSpace) whole
    rwa [takeWhile_space also.first.white (word _), takeWhile_space divides.first.white (word _)] at spaces
  subst same
  have same' : second' = second := by simpa using whole
  rw [same']

theorem LoopCut.Divides.loopParts? {cut : LoopCut} {text : String} (divides : cut.Divides text.toList) :
    loopParts? text = some (String.ofList cut.key, String.ofList cut.collection) := by
  rw [Lowering.loopParts?, divides.split]
  simp [divides.key_nonempty, divides.collection_nonempty]

theorem exists_cut_of_loopParts? {expression : String} {parts : String × String}
    (found : loopParts? (Text.trim expression) = some parts) :
    ∃ cut : LoopCut, cut.Divides (Text.trim expression).toList := by
  rw [loopParts?] at found
  split at found
  · rename_i key collection pieces
    obtain ⟨first, second, divides⟩ :=
      exists_cut_of_split (Text.head?_trim expression) (Text.getLast?_trim expression) pieces
    exact ⟨_, divides⟩
  · cases found

/-- A loop is lowered exactly if its trimmed expression can be cut into a key and a collection at a
separator that comes after none and before none. There is then one such cut, a block is opened, and the
code is that of a loop of the key over the collection. Otherwise the expression is refused and nothing
changes. Pieces that are empty are never met. -/
theorem lowerForEach_cuts_once (expression : String) (position : Nat) (emission : Emission) :
    ((∃ code result, (lowerForEach expression position).run emission = .ok code result) ↔
      ∃ cut : LoopCut, cut.Divides (Text.trim expression).toList) ∧
    (∀ cut : LoopCut, cut.Divides (Text.trim expression).toList →
      (∀ other : LoopCut, other.Divides (Text.trim expression).toList → other = cut) ∧
      (lowerForEach expression position).run emission =
        .ok (Script.openLoop (String.ofList cut.key) (String.ofList cut.collection))
          { emission with blocks := ⟨.loop, position⟩ :: emission.blocks }) ∧
    ((¬ ∃ cut : LoopCut, cut.Divides (Text.trim expression).toList) →
      (lowerForEach expression position).run emission =
        .error ⟨position, .malformedLoop (Text.trim expression)⟩ emission) ∧
    ∀ key collection, loopSeparator.split (Text.trim expression).toList = [key, collection] →
      key ≠ [] ∧ collection ≠ [] := by
  have lowers : ∀ cut : LoopCut, cut.Divides (Text.trim expression).toList →
      (lowerForEach expression position).run emission =
        .ok (Script.openLoop (String.ofList cut.key) (String.ofList cut.collection))
          (emission.openBlock .loop position) := by
    intro cut divides
    rw [lowerForEach_run, divides.loopParts?]
  have refuses : (¬ ∃ cut : LoopCut, cut.Divides (Text.trim expression).toList) →
      (lowerForEach expression position).run emission =
        .error ⟨position, .malformedLoop (Text.trim expression)⟩ emission := by
    intro uncut
    have none : loopParts? (Text.trim expression) = none :=
      Option.eq_none_iff_forall_ne_some.mpr fun _ found => uncut (exists_cut_of_loopParts? found)
    rw [lowerForEach_run, none]
  refine ⟨⟨?_, fun ⟨cut, divides⟩ => ⟨_, _, lowers cut divides⟩⟩,
    fun cut divides => ⟨fun _ also => divides.unique also, lowers cut divides⟩, refuses, ?_⟩
  · rintro ⟨code, result, run⟩
    by_contra uncut
    cases (refuses uncut).symm.trans run
  · intro key collection pieces
    obtain ⟨_, _, divides⟩ :=
      exists_cut_of_split (Text.head?_trim expression) (Text.getLast?_trim expression) pieces
    exact ⟨divides.key_nonempty, divides.collection_nonempty⟩

/-- The white space between the two words `in` belongs to the first of them alone. -/
def sharedSpace : LoopCut :=
  ⟨"in(x)".toList, " \t".toList, "\u2003".toList, "in rows".toList⟩

theorem lowerForEach_cuts_once_shared :
    sharedSpace.Divides (Text.trim " in(x) \tin\u2003in rows\n").toList ∧
    (lowerForEach " in(x) \tin\u2003in rows\n" 7).run {} =
      .ok (Script.openLoop "in(x)" "in rows") { blocks := [⟨.loop, 7⟩] } ∧
    (lowerForEach "a in b in c" 7).run {} = .error ⟨7, .malformedLoop "a in b in c"⟩ {} := by
  have divides : sharedSpace.Divides (Text.trim " in(x) \tin\u2003in rows\n").toList := by
    have last : sharedSpace.key.getLast? = some ')' := by decide +kernel
    have head : sharedSpace.collection.head? = some 'i' := by decide +kernel
    constructor
    case key_last =>
      rw [last]
      rintro _ ⟨⟩
      decide
    case collection_head =>
      rw [head]
      rintro _ ⟨⟩
      decide
    all_goals decide +kernel
  have thrice : loopSeparator.split (Text.trim "a in b in c").toList = [['a'], ['b'], ['c']] := by
    decide +kernel
  have uncut : ¬ ∃ cut : LoopCut, cut.Divides (Text.trim "a in b in c").toList := by
    rintro ⟨cut, divides⟩
    simpa using thrice.symm.trans divides.split
  exact ⟨divides, ((lowerForEach_cuts_once _ 7 {}).2.1 _ divides).2,
    (lowerForEach_cuts_once "a in b in c" 7 {}).2.2.1 uncut⟩

end Lowering

end TemplateCompiler
