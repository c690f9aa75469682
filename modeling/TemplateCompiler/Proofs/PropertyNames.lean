import Mathlib.Data.List.Forall2
import TemplateCompiler.Proofs.AccessGrammar

namespace TemplateCompiler.Script

/-- A link of an access chain. -/
inductive Link where
  | member (name : PropertyName)
  | index (inner : Expression)
  | call (arguments : List Expression)

namespace Link

/-- The text of a link in a style of its own; `inner` is the style of the links in its brackets. -/
def spell (style inner : LinkStyle) : Link → List Char
  | member name => style.start '.' ++ name.chars
  | index expression => style.start '[' ++ expression.spell inner ++ [']']
  | call arguments => style.start '(' ++ spellArguments inner arguments ++ [')']

/-- Whether the reader takes what the link ends with for a value. The name of a property has to stand
for one without the dot as well. -/
def denotes : Link → Bool
  | member name => name.denotes
  | index _ | call _ => true

/-- Links that are the same but for the name of a property. -/
inductive Renames : Link → Link → Prop
  | member (name other : PropertyName) : Renames (member name) (member other)
  | index (inner : Expression) : Renames (index inner) (index inner)
  | call (arguments : List Expression) : Renames (call arguments) (call arguments)

end Link

/-- The styles in which links are written after something that is taken for a value or not. -/
def linkStyles (value : Bool) : List Link → List LinkStyle
  | [] => []
  | link :: links => .after value :: linkStyles link.denotes links

/-- The text of links in the given styles. -/
def spellLinks : List LinkStyle → List Link → List Char
  | style :: styles, link :: links => link.spell style .optional ++ spellLinks styles links
  | _, _ => []

/-- One link: it is optional if the reader is on a value, and the next one depends on how it ends. -/
theorem Link.rewrites (value : Bool) (link : Link) :
    Rewrites (Reader.AfterLink value) (link.spell .direct .direct) (link.spell (.after value) .optional)
      (Reader.AfterLink link.denotes) := by
  cases link with
  | member name => exact name.rewrites_link value
  -- A closing bracket is taken for a value whatever stands before it.
  | index inner =>
    have opened := (rewrites_openLink (.inl rfl) value).append inner.rewrites
    exact (opened.append (rewrites_closing (.inr rfl))).weaken (fun _ after => after)
      fun _ target => target.afterLink
  | call arguments =>
    have opened := (rewrites_openLink (.inr rfl) value).append (rewrites_arguments arguments)
    exact (opened.append (rewrites_closing (.inl rfl))).weaken (fun _ after => after)
      fun _ target => target.afterLink

theorem rewrites_links (value : Bool) (links : List Link) :
    Rewrites (Reader.AfterLink value) (links.flatMap (Link.spell .direct .direct))
      (spellLinks (linkStyles value links) links) Reader.IsOutside := by
  induction links generalizing value with
  | nil => exact .empty fun _ after => after.outside
  | cons link links ih => exact (link.rewrites value).append (ih link.denotes)

/-- Of the links of a chain those with the optional style are the ones that are made optional. -/
def Marks (root : AccessName) (links : List Link) (styles : List LinkStyle) : Prop :=
  styles.length = links.length ∧
    safeNavigation (String.ofList (root.chars ++ links.flatMap (Link.spell .direct .direct))) =
      String.ofList (root.chars ++ spellLinks styles links)

theorem linkStyles_length (value : Bool) (links : List Link) :
    (linkStyles value links).length = links.length := by
  induction links generalizing value with
  | nil => rfl
  | cons link links ih => rw [linkStyles, List.length_cons, ih, List.length_cons]

theorem marks_linkStyles (root : AccessName) (links : List Link) :
    Marks root links (linkStyles true links) := by
  have rooted := (rewrites_name root).weaken (fun _ ready => ready) fun _ target => target.afterLink
  obtain ⟨after, _, read⟩ := (rooted.append (rewrites_links true links)) {} Reader.ready_initial
  have whole := read []
  rw [List.append_nil, Reader.navigate, List.append_nil] at whole
  refine ⟨linkStyles_length true links, ?_⟩
  rw [safeNavigation, String.toList_ofList, whole]

/-- A link shows its style by its first character. -/
theorem Link.eq_of_spell_append {style other inner : LinkStyle} (link : Link) {rest later : List Char}
    (same : link.spell style inner ++ rest = link.spell other inner ++ later) : style = other := by
  cases style <;> cases other
  · rfl
  · cases link <;> simp [spell, LinkStyle.start, accessMark] at same
  · cases link <;> simp [spell, LinkStyle.start, accessMark] at same
  · rfl

theorem eq_of_spellLinks {links : List Link} {styles others : List LinkStyle}
    (length : styles.length = links.length) (length' : others.length = links.length)
    (same : spellLinks styles links = spellLinks others links) : styles = others := by
  induction links generalizing styles others with
  | nil => rw [List.length_eq_zero_iff.mp length, List.length_eq_zero_iff.mp length']
  | cons link links ih =>
    obtain ⟨style, styles, rfl⟩ := List.exists_cons_of_length_eq_add_one length
    obtain ⟨other, others, rfl⟩ := List.exists_cons_of_length_eq_add_one length'
    rw [spellLinks, spellLinks] at same
    obtain rfl := link.eq_of_spell_append same
    rw [ih (Nat.succ.inj length) (Nat.succ.inj length') (List.append_cancel_left same)]

theorem marks_iff {root : AccessName} {links : List Link} {styles : List LinkStyle} :
    Marks root links styles ↔ styles = linkStyles true links := by
  constructor
  · rintro ⟨length, marked⟩
    have written := marked.symm.trans (marks_linkStyles root links).2
    have same := List.append_cancel_left (String.ofList_injective written)
    exact eq_of_spellLinks length (linkStyles_length true links) same
  · rintro rfl
    exact marks_linkStyles root links

theorem LinkStyle.after_injective : Function.Injective LinkStyle.after := by
  intro value other same
  cases value <;> cases other <;> simp [LinkStyle.after] at same ⊢

/-- Each link but the last decides the style of the next one. -/
theorem linkStyles_cons (value : Bool) (link : Link) (links : List Link) :
    linkStyles value (link :: links) =
      .after value :: ((link :: links).dropLast.map Link.denotes).map .after := by
  induction links generalizing value link with
  | nil => rfl
  | cons next links ih => rw [linkStyles, ih, List.dropLast_cons_cons, List.map_cons, List.map_cons]

theorem linkStyles_eq_iff {links others : List Link} (renamed : List.Forall₂ Link.Renames links others)
    (value : Bool) : linkStyles value links = linkStyles value others ↔
      links.dropLast.map Link.denotes = others.dropLast.map Link.denotes := by
  cases renamed with
  | nil => exact iff_of_true rfl rfl
  | cons first rest =>
    rw [linkStyles_cons, linkStyles_cons, List.cons.injEq, LinkStyle.after_injective.list_map.eq_iff]
    exact and_iff_right rfl

theorem linkStyles_optional_iff (links : List Link) :
    List.replicate links.length .optional = linkStyles true links ↔
      ∀ link ∈ links.dropLast, link.denotes = true := by
  have optional : ∀ value, LinkStyle.after value = .optional ↔ value = true :=
    fun value => LinkStyle.after_injective.eq_iff' rfl
  rw [eq_comm, List.eq_replicate_iff, and_iff_right (linkStyles_length true links)]
  cases links with
  | nil => simp [linkStyles]
  | cons link links =>
    rw [linkStyles_cons, List.forall_mem_cons, List.forall_mem_map, List.forall_mem_map]
    simp only [optional, true_and]

theorem Link.forall_denotes_iff {links : List Link} :
    (∀ link ∈ links, link.denotes = true) ↔ ∀ name, member name ∈ links → name.denotes = true := by
  refine ⟨fun all name found => all _ found, fun names link found => ?_⟩
  cases link with
  | member name => exact names name found
  | index inner => rfl
  | call arguments => rfl

/-- A link is made optional unless it follows a property whose name is a reserved word that stands for
no value. So replacing names of properties leaves the marks as they are exactly if each name that
a link follows stays or stays not such a word, and every link is marked exactly if none is. -/
theorem safeNavigation_reads_property_names (root : AccessName) (links : List Link) :
    (∀ styles, Marks root links styles ↔ styles = linkStyles true links) ∧
    (∀ others, List.Forall₂ Link.Renames links others →
      ((∃ styles, Marks root links styles ∧ Marks root others styles) ↔
        links.dropLast.map Link.denotes = others.dropLast.map Link.denotes)) ∧
    (Marks root links (List.replicate links.length .optional) ↔
      ∀ name, Link.member name ∈ links.dropLast → name.denotes = true) := by
  refine ⟨fun styles => marks_iff, fun others renamed => ?_, ?_⟩
  · rw [← linkStyles_eq_iff renamed true]
    simp only [marks_iff, exists_eq_left]
  · rw [marks_iff, linkStyles_optional_iff, Link.forall_denotes_iff]

def variableName : AccessName :=
  ⟨'a', [], .inr (.inr (by decide)), by simp, .inl (by decide)⟩

def plainName : PropertyName :=
  ⟨'n', ['a', 'm', 'e'], .inr (.inr (by decide)), List.all_eq_true.mp (by decide)⟩

/-- A reserved word that stands for a value. -/
def valueName : PropertyName :=
  ⟨'t', ['h', 'i', 's'], .inr (.inr (by decide)), List.all_eq_true.mp (by decide)⟩

/-- A reserved word that stands for none. -/
def keywordName : PropertyName :=
  ⟨'c', ['l', 'a', 's', 's'], .inr (.inr (by decide)), List.all_eq_true.mp (by decide)⟩

/-- A property, what is called on it, and a property of the result. -/
def propertyCall (name last : PropertyName) : List Link :=
  [.member name, .call [.chain (.name variableName)], .member last]

theorem safeNavigation_reads_property_names_renamed :
    List.Forall₂ Link.Renames (propertyCall plainName plainName) (propertyCall valueName keywordName) ∧
    (∃ styles, Marks variableName (propertyCall plainName plainName) styles ∧
      Marks variableName (propertyCall valueName keywordName) styles) ∧
    Marks variableName (propertyCall valueName keywordName) (List.replicate 3 .optional) ∧
    safeNavigation "a.this(a).class" = "a?.this?.(a)?.class" := by
  have renamed : List.Forall₂ Link.Renames (propertyCall plainName plainName)
      (propertyCall valueName keywordName) :=
    .cons (.member ..) (.cons (.call _) (.cons (.member ..) .nil))
  have ⟨_, kept, _⟩ := safeNavigation_reads_property_names variableName (propertyCall plainName plainName)
  have ⟨_, _, all⟩ := safeNavigation_reads_property_names variableName (propertyCall valueName keywordName)
  have values : ∀ name, Link.member name ∈ (propertyCall valueName keywordName).dropLast →
      name.denotes = true := by
    intro name found
    have same : name = valueName := by simpa [propertyCall] using found
    rw [same]
    decide
  exact ⟨renamed, (kept _ renamed).mpr (by decide), all.mpr values, by decide +kernel⟩

/-- The link after a property named by a keyword is not made optional. -/
theorem safeNavigation_misses_link_after_keyword :
    List.Forall₂ Link.Renames (propertyCall plainName plainName) (propertyCall keywordName plainName) ∧
    (¬ ∃ styles, Marks variableName (propertyCall plainName plainName) styles ∧
      Marks variableName (propertyCall keywordName plainName) styles) ∧
    ¬ Marks variableName (propertyCall keywordName plainName) (List.replicate 3 .optional) ∧
    safeNavigation "a.name(a).name" = "a?.name?.(a)?.name" ∧
    safeNavigation "a.class(a).name" = "a?.class(a)?.name" := by
  have renamed : List.Forall₂ Link.Renames (propertyCall plainName plainName)
      (propertyCall keywordName plainName) :=
    .cons (.member ..) (.cons (.call _) (.cons (.member ..) .nil))
  refine ⟨renamed, ?_, ?_, by decide +kernel, by decide +kernel⟩
  · rintro ⟨styles, marked, marked'⟩
    have same := (marks_iff.mp marked).symm.trans (marks_iff.mp marked')
    exact absurd ((linkStyles_eq_iff renamed true).mp same) (by decide)
  · rw [marks_iff]
    intro all
    have denotes := (linkStyles_optional_iff (propertyCall keywordName plainName)).mp all
    exact absurd (denotes (.member keywordName) List.mem_cons_self) (by decide)

end TemplateCompiler.Script
