import ConsoleKeeper.Shell.Tools.File
import ConsoleKeeper.Shell.Tools.Line
import ConsoleKeeper.Shell.Tools.Say
import ConsoleKeeper.Shell.Tools.Stretch

/-!
# `ConsoleKeeper.Shell.Tools`: the tools of the system

The tools here are those that scripts commonly use; each knows its common options.
-/

set_option autoImplicit false

namespace ConsoleKeeper.Shell.Tools

/-- The tools that need nothing but a session, by their names. -/
def all : List (String × Tool) :=
  [("[", bracket), ("basename", basename), ("cat", cat), ("chmod", chmod),
    ("cp", copy "cp" false), ("cut", cut), ("dirname", dirname), ("echo", plainEcho),
    ("false", fun _ => pure 1), ("grep", grep), ("head", head), ("ls", ls), ("mkdir", mkdir),
    ("mv", copy "mv" true), ("printenv", printenv), ("printf", printf), ("pwd", pwd), ("rm", rm),
    ("rmdir", rmdir), ("seq", seq), ("sleep", sleep), ("sort", sort), ("tail", tail), ("tee", tee),
    ("test", test), ("touch", touch), ("tr", tr), ("true", fun _ => pure 0), ("uniq", uniq),
    ("wc", wc), ("yes", yes)]

end ConsoleKeeper.Shell.Tools
