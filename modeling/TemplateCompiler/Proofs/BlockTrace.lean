import TemplateCompiler.Proofs.Outcomes
import TemplateCompiler.Proofs.Walk

namespace TemplateCompiler

/-- What a directive does to the open blocks. -/
inductive BlockMove where
  | opens (kind : BlockKind)
  /-- Goes on with the innermost block, which has to be a conditional. -/
  | continues
  | closes
  deriving DecidableEq, Repr

def Directive.blockMove? : Directive → Option BlockMove
  | ifThen => some (.opens .conditional)
  | forEach => some (.opens .loop)
  | elseIf | orElse => some .continues
  | endBlock => some .closes
  | stop | assign => none

/-- A move and the position of the directive that makes it. -/
structure BlockEvent where
  move : BlockMove
  position : Nat
  deriving DecidableEq, Repr

/-- The blocks that are open after an event, or the event itself if it is stuck. -/
def BlockEvent.step (event : BlockEvent) (blocks : List OpenBlock) :
    Except BlockEvent (List OpenBlock) :=
  match event.move with
  | .opens kind => .ok (⟨kind, event.position⟩ :: blocks)
  | .continues =>
    if blocks.head?.map OpenBlock.kind = some .conditional then .ok blocks else .error event
  | .closes =>
    match blocks with
    | [] => .error event
    | _ :: outer => .ok outer

/-- The blocks that are open after a sequence of events, or the first event that is stuck. -/
def runBlocks (blocks : List OpenBlock) (events : List BlockEvent) :
    Except BlockEvent (List OpenBlock) :=
  events.foldlM (fun current event => event.step current) blocks

def Node.blockMove? (node : Node) : Option BlockMove :=
  node.command?.bind Directive.blockMove?

def Node.blockEvent? (node : Node) : Option BlockEvent :=
  node.blockMove?.map (⟨·, node.position⟩)

/-- The directives among the visits that open, continue or close a block. -/
def blockTrace (visits : List Visit) : List BlockEvent :=
  visits.filterMap (·.node.blockEvent?)

theorem BlockEvent.eq_of_step_eq_error {event reported : BlockEvent} {blocks : List OpenBlock}
    (stuck : event.step blocks = .error reported) : event = reported := by
  unfold step at stuck
  split at stuck
  · cases stuck
  · split at stuck <;> cases stuck
    rfl
  · split at stuck <;> cases stuck
    rfl

@[simp] theorem runBlocks_nil (blocks : List OpenBlock) : runBlocks blocks [] = .ok blocks := rfl

theorem runBlocks_cons (blocks : List OpenBlock) (event : BlockEvent) (events : List BlockEvent) :
    runBlocks blocks (event :: events) = event.step blocks >>= fun next => runBlocks next events :=
  List.foldlM_cons

theorem runBlocks_append (blocks : List OpenBlock) (first second : List BlockEvent) :
    runBlocks blocks (first ++ second) =
      runBlocks blocks first >>= fun between => runBlocks between second :=
  List.foldlM_append ..

theorem runBlocks_singleton (blocks : List OpenBlock) (event : BlockEvent) :
    runBlocks blocks [event] = event.step blocks := by
  cases result : event.step blocks <;> simp [runBlocks, result]

/-- The event that a run reports is stuck on the blocks that all events before it leave open. -/
theorem runBlocks_eq_error {blocks : List OpenBlock} {events : List BlockEvent} {event : BlockEvent}
    (stuck : runBlocks blocks events = .error event) :
    ∃ earlier later between, events = earlier ++ event :: later ∧
      runBlocks blocks earlier = .ok between ∧ event.step between = .error event := by
  induction events generalizing blocks with
  | nil => cases stuck
  | cons first events ih =>
    have whole := runBlocks_append blocks [first] events
    rw [List.singleton_append, runBlocks_singleton, stuck] at whole
    cases step : first.step blocks with
    | error reported =>
      rw [step] at whole
      cases whole
      cases BlockEvent.eq_of_step_eq_error step
      exact ⟨[], events, blocks, rfl, rfl, step⟩
    | ok next =>
      rw [step] at whole
      obtain ⟨earlier, later, between, split, run, last⟩ := ih whole.symm
      refine ⟨first :: earlier, later, between, by rw [split]; rfl, ?_, last⟩
      rw [← List.singleton_append, runBlocks_append, runBlocks_singleton, step]
      exact run

theorem blockTrace_append (first second : List Visit) :
    blockTrace (first ++ second) = blockTrace first ++ blockTrace second :=
  List.filterMap_append

theorem Node.blockMove?_of_command {node : Node} {directive : Directive}
    (command : node.command? = some directive) : node.blockMove? = directive.blockMove? := by
  rw [blockMove?, command, Option.bind_some]

theorem Node.blockMove?_of_kind {node : Node} (other : node.kind ≠ .directive) :
    node.blockMove? = none := by
  rw [blockMove?, command?, if_neg other, Option.bind_none]

theorem blockTrace_singleton (visit : Visit) :
    blockTrace [visit] = (visit.node.blockMove?.map (BlockEvent.mk · visit.node.position)).toList := by
  rw [blockTrace, List.filterMap_cons, Node.blockEvent?]
  cases visit.node.blockMove? <;> rfl

namespace Lowering

/-- A directive that is lowered makes its move on the open blocks. -/
theorem Performs.moves {directive : Directive} {expression code : String} {position : Nat}
    {emission result : Emission}
    (performs : Performs expression position emission directive code result) :
    runBlocks emission.blocks (directive.blockMove?.map (BlockEvent.mk · position)).toList =
      .ok result.blocks := by
  cases performs with
  | ifThen => rfl
  | forEach => rfl
  | stop => rfl
  | assign => simp [Directive.blockMove?]
  | elseIf innermost => exact (runBlocks_singleton ..).trans (if_pos innermost)
  | orElse innermost => exact (runBlocks_singleton ..).trans (if_pos innermost)
  | endBlock top =>
    rw [top]
    rfl

/-- A directive that is blamed on the open blocks is stuck on them. -/
theorem lowerDirective_stuck_event {directive : Directive} {expression : String} {position : Nat}
    {emission result : Emission} {failure : Failure}
    (run : (lowerDirective directive expression position).run emission = .error failure result)
    (blocks : failure.fault.stage = .blocks) :
    ∃ event, runBlocks emission.blocks (directive.blockMove?.map (BlockEvent.mk · position)).toList =
      .error event ∧ event.position = failure.position := by
  obtain ⟨place, ⟨continuing, outside⟩ | ⟨ending, empty⟩⟩ := lowerDirective_stuck run blocks
  · have move : directive.blockMove? = some .continues := by
      rcases continuing with rfl | rfl <;> rfl
    rw [move]
    exact ⟨⟨.continues, position⟩, (runBlocks_singleton ..).trans (if_neg outside), place.symm⟩
  · rw [ending, empty]
    exact ⟨⟨.closes, position⟩, rfl, place.symm⟩

end Lowering

/-- The block moves of an action are those of the visits: after a success the open blocks are the
ones that the trace leaves, and a failure of the block structure is at the first stuck event. -/
structure FollowsBlocks (visits : List Visit) (action : Lowering String) : Prop where
  moves : ∀ {emission code result}, action.run emission = .ok code result →
    runBlocks emission.blocks (blockTrace visits) = .ok result.blocks
  stuck : ∀ {emission failure result}, action.run emission = .error failure result →
    failure.fault.stage = .blocks → ∃ event,
      runBlocks emission.blocks (blockTrace visits) = .error event ∧ event.position = failure.position

theorem FollowsBlocks.sequence {first second : List Visit} {action : Lowering String}
    {next : String → Lowering String} (holds : FollowsBlocks first action)
    (later : ∀ code, FollowsBlocks second (next code)) :
    FollowsBlocks (first ++ second) (action >>= next) where
  moves run := by
    obtain ⟨code, between, start, rest⟩ := Lowering.run_bind_eq_ok run
    rw [blockTrace_append, runBlocks_append, holds.moves start]
    exact (later code).moves rest
  stuck run blocks := by
    rw [blockTrace_append, runBlocks_append]
    rcases Lowering.run_bind_eq_error run with start | ⟨code, between, start, rest⟩
    · obtain ⟨event, stuck, place⟩ := holds.stuck start blocks
      exact ⟨event, by rw [stuck]; rfl, place⟩
    · obtain ⟨event, stuck, place⟩ := (later code).stuck rest blocks
      exact ⟨event, by rw [holds.moves start]; exact stuck, place⟩

theorem followsBlocks_closed : WalkClosed FollowsBlocks where
  text code := { moves := fun run => by cases run; rfl, stuck := fun run => by cases run }
  sequence := FollowsBlocks.sequence
  reference config visit expression kind := {
    moves := fun run => by
      rw [Lowering.lowerReference_run] at run
      split at run <;> cases run
      have other : visit.node.kind ≠ .directive := by
        rcases kind with kind | kind <;> rw [kind] <;> decide
      rw [blockTrace_singleton, Node.blockMove?_of_kind other, Lowering.referenceCode_blocks]
      rfl
    stuck := fun run blocks => by
      rw [Lowering.lowerReference_run] at run
      split at run <;> cases run
      cases blocks }
  directive visit directive expression command := {
    moves := fun run => by
      rw [blockTrace_singleton, Node.blockMove?_of_command command]
      exact (Lowering.lowerDirective_performs run).moves
    stuck := fun run blocks => by
      rw [blockTrace_singleton, Node.blockMove?_of_command command]
      exact Lowering.lowerDirective_stuck_event run blocks }
  unknown visit _ _ := {
    moves := fun run => by cases run
    stuck := fun run blocks => by cases run; cases blocks }

/-- Lowering a template follows its trace from its first block to its last. -/
theorem followsBlocks_template (config : Config) (nodes : List Node) :
    FollowsBlocks (templateVisits nodes) (Lowering.lowerSequence config 0 nodes) :=
  followsBlocks_closed.siblings config 0 none "" nodes

/-- The block structure of a template is decided exactly. A template whose trace leaves no block
open is never refused for its blocks, one whose trace is stuck or leaves a block open is never
compiled, and a refusal for the blocks that names a line is at the first stuck directive. -/
theorem compile_decides_blocks (config : Config) (lines : LineLookup) (nodes : List Node) :
    (runBlocks [] (blockTrace (templateVisits nodes)) = .ok [] →
      ∀ diagnostic, compile config lines nodes = .error diagnostic → diagnostic.stage ≠ .blocks) ∧
    (runBlocks [] (blockTrace (templateVisits nodes)) ≠ .ok [] →
      ∀ compiled, compile config lines nodes ≠ .ok compiled) ∧
    ∀ diagnostic position line, compile config lines nodes = .error diagnostic →
      diagnostic.stage = .blocks → diagnostic.location = .line position line →
      ∃ earlier event later blocks,
        blockTrace (templateVisits nodes) = earlier ++ event :: later ∧
        runBlocks [] earlier = .ok blocks ∧ event.step blocks = .error event ∧
        event.position = position := by
  have follows := followsBlocks_template config nodes
  refine ⟨fun balanced diagnostic refused blocks => ?_, fun unbalanced compiled accepted => ?_,
    fun diagnostic position line refused blocks located => ?_⟩
  · rcases compile_eq_error refused with ⟨failure, emission, run, rfl⟩ |
      ⟨body, emission, block, outer, run, left, rfl⟩
    · obtain ⟨event, stuck, _⟩ := follows.stuck run blocks
      cases stuck.symm.trans balanced
    · have finished := (follows.moves run).symm.trans balanced
      rw [left] at finished
      cases finished
  · obtain ⟨body, emission, run, empty, _⟩ := compile_eq_ok accepted
    exact unbalanced ((follows.moves run).trans (congrArg Except.ok empty))
  · rcases compile_eq_error refused with ⟨failure, emission, run, rfl⟩ |
      ⟨body, emission, block, outer, run, left, rfl⟩
    · obtain ⟨event, stuck, place⟩ := follows.stuck run blocks
      obtain ⟨earlier, later, between, split, reached, last⟩ := runBlocks_eq_error stuck
      cases located
      exact ⟨earlier, event, later, between, split, reached, last, place⟩
    · cases located

/-- A conditional whose second arm stands inside a loop. -/
def misplacedArm : List Node :=
  [.directive "if" (some [.verbatim "a"]), .directive "foreach" (some [.verbatim "x in xs"]),
    (Node.directive "else" none).movedTo 9, .directive "end" none, .directive "end" none]

theorem compile_decides_blocks_misplaced :
    (∀ compiled, compile {} (fun _ => 1) misplacedArm ≠ .ok compiled) ∧
    ∃ diagnostic, compile {} (fun _ => 1) misplacedArm = .error diagnostic ∧ diagnostic.stage = .blocks ∧
      ∃ earlier event later blocks,
        blockTrace (templateVisits misplacedArm) = earlier ++ event :: later ∧
        runBlocks [] earlier = .ok blocks ∧ event.step blocks = .error event ∧ event.position = 9 := by
  obtain ⟨_, unbalanced, blamed⟩ := compile_decides_blocks {} (fun _ => 1) misplacedArm
  have refused : compile {} (fun _ => 1) misplacedArm =
      .error ((Rejection.faulty ⟨9, .elseOutsideConditional⟩).diagnostic fun _ => 1) := by decide +kernel
  exact ⟨unbalanced (by decide +kernel), _, refused, rfl, blamed _ 9 1 refused rfl rfl⟩

end TemplateCompiler
