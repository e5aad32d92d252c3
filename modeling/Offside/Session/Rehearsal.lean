import Offside.Session

namespace Offside.Rehearsal

def unwords : List Text → Text
  | [] => []
  | [word] => word
  | word :: more => word ++ ' ' :: unwords more

/-- A program that prints its arguments on a line, then its input, and then ends as given. -/
def echo (ending : Ending) : Program where
  respond arguments input := ("args: ".toList ++ unwords arguments ++ '\n' :: input, ending)
  complain _ _ := []

/-- The programs to rehearse a session with. -/
def programs (name : Text) : Option Program :=
  if name = "python".toList || name = "fakepy".toList then some (echo (.exited 0))
  else if name = "fakefail".toList then some (echo (.exited 3))
  else if name = "fakekill".toList then some (echo (.killed 9 "SIGKILL"))
  else none

end Offside.Rehearsal
