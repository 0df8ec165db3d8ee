import Retrace.Unix.Utility.Arguments
import Retrace.Unix.Utility.Blocks
import Retrace.Unix.Utility.Columns
import Retrace.Unix.Utility.Comparing
import Retrace.Unix.Utility.Copying
import Retrace.Unix.Utility.Digests
import Retrace.Unix.Utility.Dump
import Retrace.Unix.Utility.Editing
import Retrace.Unix.Utility.Ends
import Retrace.Unix.Utility.Expression
import Retrace.Unix.Utility.Facts
import Retrace.Unix.Utility.Finding
import Retrace.Unix.Utility.Lines
import Retrace.Unix.Utility.Listing
import Retrace.Unix.Utility.Names
import Retrace.Unix.Utility.Numbers
import Retrace.Unix.Utility.Pieces
import Retrace.Unix.Utility.Programs
import Retrace.Unix.Utility.Records
import Retrace.Unix.Utility.Search
import Retrace.Unix.Utility.Sorting
import Retrace.Unix.Utility.Translating

/-!
# The utilities

The programs that are there, by their names.
-/

namespace Retrace.Unix.Utility

/-- The utilities. -/
def table : List (String × Utility) := [
  ("[", test), ("arch", saying "x86_64"), ("awk", awk), ("b2sum", digests "blake2b"), ("base32", base32),
  ("base64", base64), ("basename", basename), ("basenc", basenc), ("cat", cat), ("chgrp", chown),
  ("chmod", chmod), ("chown", chown), ("cksum", cksum), ("cmp", cmp), ("comm", comm), ("cp", cp),
  ("csplit", csplit), ("cut", cut), ("date", date), ("dd", dd), ("diff", diff), ("dir", dir),
  ("dirname", dirname), ("echo", echo), ("egrep", egrep), ("env", env), ("expand", expand), ("expr", expr),
  ("factor", factor), ("false", nothing 1), ("fgrep", fgrep), ("find", find), ("fold", fold), ("grep", grep),
  ("groups", groupsOfUsers), ("head", head), ("hostid", saying "007f0100"), ("hostname", saying "localhost"),
  ("id", identity), ("install", install), ("join", join), ("link", link), ("ln", ln), ("logname", logname),
  ("ls", ls), ("mawk", awk), ("md5sum", digests "md5"), ("mkdir", mkdir), ("mkfifo", mkfifo),
  ("mktemp", mktemp), ("mv", mv), ("nawk", awk), ("nice", nice), ("nl", nl), ("nohup", nohup),
  ("nproc", saying "4"), ("numfmt", numfmt), ("od", od), ("paste", paste), ("printenv", printenv),
  ("printf", printf), ("pwd", pwd), ("readlink", readlink), ("realpath", realpath), ("rev", rev), ("rm", rm),
  ("rmdir", rmdir), ("sed", sed), ("seq", seq), ("setsid", setsid), ("sha1sum", digests "sha1"),
  ("sha224sum", digests "sha224"), ("sha256sum", digests "sha256"), ("sha384sum", digests "sha384"),
  ("sha512sum", digests "sha512"), ("shuf", shuf), ("sleep", sleep), ("sort", sort), ("split", split),
  ("stat", stat), ("stdbuf", stdbuf), ("sum", sum), ("sync", sync), ("tac", tac), ("tail", tail), ("tee", tee),
  ("test", test), ("timeout", timeout), ("touch", touch), ("tr", tr), ("true", nothing 0),
  ("truncate", truncate), ("tsort", tsort), ("tty", tty), ("uname", uname), ("unexpand", unexpand),
  ("uniq", uniq), ("unlink", unlink), ("users", nothing 0), ("vdir", vdir), ("wc", wc), ("which", which),
  ("who", nothing 0), ("whoami", saying "root"), ("xargs", xargs), ("yes", yes)]

/-- The utility of a name. -/
def find? (name : String) : Option Utility := table.lookup name

/-- The names of the utilities. -/
def names : List String := table.map (·.1)

end Retrace.Unix.Utility
