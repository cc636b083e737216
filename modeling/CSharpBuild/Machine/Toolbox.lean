/-
The programs that are installed on every machine, by name: tools, and programs that run others.
-/
import CSharpBuild.Machine.Launching.Awk
import CSharpBuild.Machine.Launching.Batch
import CSharpBuild.Machine.Launching.Find
import CSharpBuild.Machine.Tool.Columns
import CSharpBuild.Machine.Tool.Dumping
import CSharpBuild.Machine.Tool.Expr
import CSharpBuild.Machine.Tool.Grep
import CSharpBuild.Machine.Tool.Order
import CSharpBuild.Machine.Tool.Sed
import CSharpBuild.Machine.Tool.Translation

namespace CSharpBuild.Machine.Toolbox

open Tool

/-- The tools. -/
def tools : List (String × Tool) :=
  [("true", ends 0), ("false", ends 1), ("echo", echo), ("printf", printf), ("yes", yes),
    ("test", fun c => test c.args c), ("[", bracket), ("basename", basename),
    ("dirname", dirname), ("printenv", printenv), ("pwd", pwd), ("uname", uname),
    ("whoami", whoami), ("id", identity), ("which", which), ("sleep", sleep), ("seq", seq),
    ("factor", factor), ("expr", Expr.expr), ("cat", cat), ("tee", tee), ("head", head),
    ("tail", tail), ("tac", tac), ("rev", rev), ("cut", cut), ("paste", paste), ("fold", fold),
    ("expand", expand), ("unexpand", unexpand), ("nl", nl), ("wc", wc), ("sort", sort),
    ("uniq", uniq), ("comm", comm), ("cmp", cmp), ("diff", diff), ("tr", Translation.tr),
    ("od", od), ("base64", base64), ("mkdir", mkdir), ("touch", touch), ("chmod", chmod),
    ("rm", rm), ("rmdir", rmdir), ("link", link), ("unlink", unlink), ("cp", cp), ("mv", mv), ("ln", ln),
    ("readlink", readlink), ("realpath", realpath), ("ls", ls), ("dir", ls), ("stat", stat),
    ("truncate", truncate), ("mktemp", mktemp), ("grep", Grep.grep), ("egrep", Grep.egrep),
    ("fgrep", Grep.fgrep), ("sed", Sed.sed), ("sync", ends 0),
    ("arch", writes fun _ => "x86_64\n"), ("nproc", writes fun _ => "4\n"),
    ("tty", fun c => { (Effect.nothing c).line "not a tty" with status := 1 }),
    ("groups", writes fun _ => "root\n")]

/-- The tool of a name. -/
def tool? (name : String) : Option Tool := tools.lookup name

/-- The programs that run others. -/
def launchers : List (String × (Call → Launching)) :=
  [("env", Launching.env), ("timeout", Launching.timeout), ("nice", Launching.nice),
    ("nohup", Launching.nohup), ("stdbuf", Launching.stdbuf), ("setsid", Launching.setsid),
    ("xargs", Launching.xargs), ("find", Launching.Find.find), ("awk", Launching.awk),
    ("mawk", Launching.awk)]

/-- The program of a name that runs others. -/
def launcher? (name : String) : Option (Call → Launching) := launchers.lookup name

/-- The names of all programs that are installed. -/
def names : List String :=
  ["sh", "dash", "bash"] ++ tools.map Prod.fst ++ launchers.map Prod.fst

end CSharpBuild.Machine.Toolbox
