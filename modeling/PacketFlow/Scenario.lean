import PacketFlow.Scenario.Plan

/-! Scenarios: commands performed in order on a fresh world.

A command that needs a stream goes on with the answer of its script, after the commands inside the
call have been performed. Each command of a scenario is performed at most once, because the calls of
a stream are counted, and each call needs a command that sends or queues an event. So the number of
commands bounds the depth of the recursion here.
-/

set_option autoImplicit false

namespace PacketFlow.Scenario

mutual

/-- Perform commands in order. -/
def performAll : Nat → World → List Command → List Response × World
  | 0, world, _ => ([], world)
  | _ + 1, world, [] => ([], world)
  | depth + 1, world, command :: commands =>
    let (response, world) := perform depth world command
    let (responses, world) := performAll depth world commands
    (response :: responses, world)

def perform : Nat → World → Command → Response × World
  | 0, world, _ => (.mk .stuck [] [], world)
  | depth + 1, world, command =>
    match world.plan command with
    | .done answer world notices => (.mk answer [] notices, world)
    | .act world notices action finish =>
      let step := world.pipeline.step action
      serve depth { world with pipeline := step.state } step.reply [] (notices ++ step.notices)
        finish

/-- Go on with the reply to an action: let the stream answer a call, or finish. Calls made before
are held in reverse. -/
def serve : Nat → World → Reply → List (CallView × List Response) → List Notice →
    (Reply → World → Answer × World) → Response × World
  | 0, world, _, calls, notices, _ => (.mk .stuck calls.reverse notices, world)
  | depth + 1, world, reply, calls, notices, finish =>
    match reply with
    | .calling call =>
      match world.scripts[call.stream]? with
      | none => (.mk .stuck calls.reverse notices, world)
      | some script =>
        let counted := world.scripts.setIfInBounds call.stream
          { script with calls := script.calls + 1 }
        let (inner, world) := performAll depth { world with scripts := counted }
          (script.commandsAt script.calls)
        let outcome := script.outcomeAt script.calls
        let step := world.pipeline.step (.answer outcome)
        serve depth { world with pipeline := step.state } step.reply
          ((⟨script.name, call, outcome⟩, inner) :: calls) (notices ++ step.notices) finish
    | reply =>
      let (answer, world) := finish reply world
      (.mk answer calls.reverse notices, world)

end

/-- Perform a scenario while the clock shows one time. -/
def run (clock : UInt64) (commands : List Command) : List Response :=
  (performAll (8 * (commandsSize commands + 1)) { clock := clock } commands).1

end PacketFlow.Scenario
