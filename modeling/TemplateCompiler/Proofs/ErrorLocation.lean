import Mathlib.Algebra.Ring.Int.Defs
import TemplateCompiler.Proofs.LoweredText

namespace TemplateCompiler

/-- A directive or a reference. Lowering refuses no other nodes. -/
def Node.CanFail (node : Node) : Prop :=
  node.kind = .directive ∨ node.kind = .reference ∨ node.kind = .quietReference

/-- An action that fails does so at the position of one of the visits. -/
def FailsAtVisit (visits : List Visit) (action : Lowering String) : Prop :=
  ∀ emission failure result, action.run emission = .error failure result →
    ∃ visit ∈ visits, visit.node.CanFail ∧ visit.node.position = failure.position

theorem failsAtVisit_closed : WalkClosed FailsAtVisit where
  text code := by
    intro emission failure result run
    cases run
  sequence := by
    intro first second action next holds later emission failure result run
    rcases Lowering.run_bind_eq_error run with start | ⟨code, between, _, rest⟩
    · obtain ⟨visit, member, blamed⟩ := holds _ _ _ start
      exact ⟨visit, List.mem_append_left second member, blamed⟩
    · obtain ⟨visit, member, blamed⟩ := later code _ _ _ rest
      exact ⟨visit, List.mem_append_right first member, blamed⟩
  reference := by
    intro config visit expression kind emission failure result run
    rw [Lowering.lowerReference_run] at run
    split at run <;> cases run
    exact ⟨visit, List.mem_cons_self, .inr kind, rfl⟩
  directive := by
    intro visit directive expression command emission failure result run
    obtain ⟨place, _⟩ := Lowering.lowerDirective_refuses run
    exact ⟨visit, List.mem_cons_self, .inl (Node.kind_of_command command), place.symm⟩
  unknown := by
    intro visit kind _ emission failure result run
    cases run
    exact ⟨visit, List.mem_cons_self, .inl kind, rfl⟩

theorem Lowering.lowerSequence_error_position {config : Config} {nodes : List Node} {failure : Failure}
    {emission result : Emission}
    (run : (lowerSequence config 0 nodes).run emission = .error failure result) :
    ∃ node ∈ subtrees nodes, node.CanFail ∧ node.position = failure.position := by
  obtain ⟨visit, member, blamed⟩ := failsAtVisit_closed.siblings config 0 none "" nodes _ _ _ run
  exact ⟨visit.node, siblingVisits_subset 0 none nodes member, blamed⟩

theorem Fault.stage_ne_config (fault : Fault) : fault.stage ≠ .config := by
  cases fault <;> exact nofun

def BlockMove.rise : BlockMove → Int
  | .opens _ => 1
  | .continues => 0
  | .closes => -1

def riseOf (events : List BlockEvent) : Int :=
  (events.map (·.move.rise)).sum

/-- One of the events closes the block that was opened just before them: up to it, more blocks are
closed than opened. -/
def ClosesOuter (events : List BlockEvent) : Prop :=
  ∃ inner, inner <+: events ∧ riseOf inner < 0

/-- The block is the innermost one that the events leave open: it is opened by one of them, no later
event closes it, and all blocks that are opened later are closed. -/
def InnermostUnclosed (events : List BlockEvent) (block : OpenBlock) : Prop :=
  ∃ earlier later, events = earlier ++ ⟨.opens block.kind, block.position⟩ :: later ∧
    ¬ ClosesOuter later ∧
    ∀ between kind position rest, later = between ++ ⟨.opens kind, position⟩ :: rest → ClosesOuter rest

theorem riseOf_cons (event : BlockEvent) (events : List BlockEvent) :
    riseOf (event :: events) = event.move.rise + riseOf events := by
  rw [riseOf, List.map_cons, List.sum_cons, riseOf]

theorem riseOf_append (first second : List BlockEvent) :
    riseOf (first ++ second) = riseOf first + riseOf second := by
  rw [riseOf, List.map_append, List.sum_append, riseOf, riseOf]

/-- The events close exactly `count` of the blocks that are open before them, and no more than these
on the way. -/
structure ClosesCount (count : Nat) (events : List BlockEvent) : Prop where
  total : riseOf events = -count
  bound : ∀ inner, inner <+: events → -count ≤ riseOf inner

namespace ClosesCount

theorem nil : ClosesCount 0 [] where
  total := rfl
  bound inner before := by rw [List.prefix_nil.mp before]; decide

theorem cons {count less : Nat} {event : BlockEvent} {events : List BlockEvent}
    (rest : ClosesCount count events) (change : (less : Int) = count - event.move.rise) :
    ClosesCount less (event :: events) where
  total := by
    have total := rest.total
    rw [riseOf_cons]
    omega
  bound inner before := by
    rcases List.prefix_cons_iff.mp before with rfl | ⟨tail, rfl, within⟩
    · change -(less : Int) ≤ 0
      omega
    · have bound := rest.bound tail within
      rw [riseOf_cons]
      omega

theorem not_closesOuter {events : List BlockEvent} (level : ClosesCount 0 events) :
    ¬ ClosesOuter events := by
  rintro ⟨inner, before, below⟩
  have bound := level.bound inner before
  omega

theorem closesOuter_after_opener {earlier later : List BlockEvent} {kind : BlockKind} {position : Nat}
    (level : ClosesCount 0 (earlier ++ ⟨.opens kind, position⟩ :: later)) : ClosesOuter later := by
  have total := level.total
  have bound := level.bound earlier (List.prefix_append earlier _)
  rw [riseOf_append, riseOf_cons, BlockMove.rise] at total
  exact ⟨later, List.prefix_rfl, by omega⟩

end ClosesCount

theorem BlockEvent.step_cases {event : BlockEvent} {blocks next : List OpenBlock}
    (step : event.step blocks = .ok next) :
    (∃ kind, event.move = .opens kind ∧ next = ⟨kind, event.position⟩ :: blocks) ∨
    (event.move = .continues ∧ next = blocks) ∨
    (event.move = .closes ∧ ∃ block, blocks = block :: next) := by
  unfold BlockEvent.step at step
  split at step
  · rename_i kind move
    exact .inl ⟨kind, move, (Except.ok.inj step).symm⟩
  · rename_i move
    split at step <;> cases step
    exact .inr (.inl ⟨move, rfl⟩)
  · rename_i move
    split at step <;> cases step
    exact .inr (.inr ⟨move, _, rfl⟩)

/-- The innermost block that is open after a run was opened by one of the events and kept by all
later ones, or it was open before and the events close what was inside it. -/
theorem runBlocks_innermost {events : List BlockEvent} {start outer : List OpenBlock} {block : OpenBlock}
    (run : runBlocks start events = .ok (block :: outer)) :
    (∃ earlier later, events = earlier ++ ⟨.opens block.kind, block.position⟩ :: later ∧
      ClosesCount 0 later) ∨
    ∃ inside, start = inside ++ block :: outer ∧ ClosesCount inside.length events := by
  induction events generalizing start with
  | nil => exact .inr ⟨[], Except.ok.inj run, .nil⟩
  | cons event events ih =>
    rw [runBlocks_cons] at run
    cases step : event.step start with
    | error reported =>
      rw [step] at run
      cases run
    | ok next =>
      rw [step] at run
      rcases ih run with ⟨earlier, later, split, level⟩ | ⟨inside, split, closes⟩
      · exact .inl ⟨event :: earlier, later, congrArg (event :: ·) split, level⟩
      -- The block was open after the event: the event opened it, or it lay deeper already.
      · rcases BlockEvent.step_cases step with ⟨kind, move, opened⟩ | ⟨move, kept⟩ |
          ⟨move, closed, top⟩
        · have change : event.move.rise = 1 := by rw [move, BlockMove.rise]
          cases inside with
          | nil =>
            obtain ⟨rfl, _⟩ := List.cons.inj (opened.symm.trans split)
            obtain ⟨_, position⟩ := event
            cases move
            exact .inl ⟨[], events, rfl, closes⟩
          | cons first inside =>
            obtain ⟨_, rest⟩ := List.cons.inj (opened.symm.trans split)
            exact .inr ⟨inside, rest, closes.cons (by rw [change, List.length_cons]; omega)⟩
        · have change : event.move.rise = 0 := by rw [move, BlockMove.rise]
          exact .inr ⟨inside, kept.symm.trans split, closes.cons (by omega)⟩
        · have change : event.move.rise = -1 := by rw [move, BlockMove.rise]
          refine .inr ⟨closed :: inside, by rw [top, split]; rfl, closes.cons ?_⟩
          rw [change, List.length_cons]
          omega

theorem innermostUnclosed_of_runBlocks {events : List BlockEvent} {block : OpenBlock}
    {outer : List OpenBlock} (run : runBlocks [] events = .ok (block :: outer)) :
    InnermostUnclosed events block := by
  rcases runBlocks_innermost run with ⟨earlier, later, split, level⟩ | ⟨inside, split, _⟩
  · refine ⟨earlier, later, split, level.not_closesOuter, fun between kind position rest inner => ?_⟩
    rw [inner] at level
    exact level.closesOuter_after_opener
  · cases inside <;> cases split

/-- The diagnostic says that the template ends inside a block of the kind. -/
def Diagnostic.ReportsUnclosed (diagnostic : Diagnostic) (kind : BlockKind) : Prop :=
  diagnostic.stage = .blocks ∧
    diagnostic.message = "Unclosed " ++ kind.opener.name ++ " block, expected a matching end"

instance (diagnostic : Diagnostic) (kind : BlockKind) : Decidable (diagnostic.ReportsUnclosed kind) :=
  inferInstanceAs (Decidable (_ ∧ _))

theorem Rejection.not_reportsUnclosed_faulty (failure : Failure) (lines : LineLookup) (kind : BlockKind) :
    ¬ ((faulty failure).diagnostic lines).ReportsUnclosed kind := by
  obtain ⟨position, fault⟩ := failure
  rintro ⟨stage, message⟩
  change fault.message = _ at message
  cases fault with
  | elseIfOutsideConditional => revert message; cases kind <;> decide
  | elseOutsideConditional => revert message; cases kind <;> decide
  | strayEnd => revert message; cases kind <;> decide
  | _ => cases stage

theorem Rejection.reportsUnclosed_unclosed {block : OpenBlock} {lines : LineLookup} {kind : BlockKind} :
    ((unclosed block).diagnostic lines).ReportsUnclosed kind ↔ kind = block.kind := by
  obtain ⟨opened, position⟩ := block
  change _ ∧ "Unclosed " ++ opened.opener.name ++ " block, expected a matching end" = _ ↔ _
  constructor
  · rintro ⟨_, message⟩
    change kind = opened
    revert message
    cases opened <;> cases kind <;> decide
  · rintro rfl
    exact ⟨rfl, rfl⟩

/-- Every error of a compilation is located. It lies on the line of a directive or a reference of the
template, or at the end of the input. The latter is so exactly for an unclosed block, and then the
diagnostic names the kind of the innermost such block and the line on which it was opened. -/
theorem compile_locates_errors {config : Config} {lines : LineLookup} {nodes : List Node}
    {diagnostic : Diagnostic} (refused : compile config lines nodes = .error diagnostic) :
    diagnostic.stage ≠ .config ∧
    ((∃ node ∈ subtrees nodes, node.CanFail ∧
        diagnostic.location = .line node.position (lines node.position)) ∨
      diagnostic.location = .endOfInput) ∧
    (diagnostic.location = .endOfInput ↔ ∃ kind, diagnostic.ReportsUnclosed kind) ∧
    ∀ kind, diagnostic.ReportsUnclosed kind →
      ∃ position, InnermostUnclosed (blockTrace (templateVisits nodes)) ⟨kind, position⟩ ∧
        diagnostic.details.get? .directive = some kind.opener.name ∧
        diagnostic.details.get? .openedOnLine = some (toString (lines position)) := by
  rcases compile_eq_error refused with ⟨failure, emission, run, rfl⟩ |
    ⟨body, emission, block, outer, run, left, rfl⟩
  · obtain ⟨node, member, kind, place⟩ := Lowering.lowerSequence_error_position run
    have other := Rejection.not_reportsUnclosed_faulty failure lines
    refine ⟨failure.fault.stage_ne_config, .inl ⟨node, member, kind, by rw [place]; rfl⟩,
      ⟨nofun, fun ⟨kind, reports⟩ => absurd reports (other kind)⟩,
      fun kind reports => absurd reports (other kind)⟩
  · have moves := (followsBlocks_template config nodes).moves run
    rw [left] at moves
    refine ⟨nofun, .inr rfl, ⟨fun _ => ⟨block.kind, Rejection.reportsUnclosed_unclosed.mpr rfl⟩,
      fun _ => rfl⟩, fun kind reports => ?_⟩
    cases Rejection.reportsUnclosed_unclosed.mp reports
    exact ⟨block.position, innermostUnclosed_of_runBlocks moves, rfl, rfl⟩

/-- A loop and a conditional that are never closed, around a conditional that is. -/
def unclosedBlocks : List Node :=
  [(Node.directive "foreach" (some [.verbatim "x in xs"])).movedTo 2,
    (Node.directive "if" (some [.verbatim "x"])).movedTo 7,
    (Node.directive "if" (some [.verbatim "y"])).movedTo 12, .directive "else" none,
    .directive "end" none]

theorem compile_locates_errors_unclosed :
    ∃ diagnostic, compile {} (· / 5 + 1) unclosedBlocks = .error diagnostic ∧
      diagnostic.location = .endOfInput ∧ diagnostic.ReportsUnclosed .conditional ∧
      diagnostic.details.get? .openedOnLine = some "2" ∧
      ∃ position, InnermostUnclosed (blockTrace (templateVisits unclosedBlocks)) ⟨.conditional, position⟩ ∧
        diagnostic.details.get? .directive = some "if" ∧
        diagnostic.details.get? .openedOnLine = some (toString (position / 5 + 1)) := by
  have refused : compile {} (· / 5 + 1) unclosedBlocks =
      .error ((Rejection.unclosed ⟨.conditional, 7⟩).diagnostic (· / 5 + 1)) := by decide +kernel
  obtain ⟨_, _, ended, opened⟩ := compile_locates_errors refused
  have reports : ((Rejection.unclosed ⟨.conditional, 7⟩).diagnostic (· / 5 + 1)).ReportsUnclosed
      .conditional := by decide +kernel
  exact ⟨_, refused, ended.mpr ⟨_, reports⟩, reports, by decide +kernel, opened _ reports⟩

end TemplateCompiler
