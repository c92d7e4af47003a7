import StandIn.Controller

/-!
What can be asked of a controller from outside. A caller may ask for one step after another, also
after a step that failed.
-/

set_option autoImplicit false

namespace StandIn

inductive Step where
  | run (lines : List String)
  | execute (command : Command)
  | finish
deriving DecidableEq

namespace Controller

/-- A whole script answers with the counters, the other steps with nothing. -/
def take : Step → Action (Option Stats)
  | .run lines => some <$> run lines
  | .execute command => do
    execute command
    return none
  | .finish => do
    finish
    return none

def converse (controller : Controller) (step : Step) :
    Conversation (Except Fault (Option Stats) × Controller) :=
  (take step).run.run controller

end Controller
end StandIn
