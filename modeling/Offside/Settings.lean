import Offside.Fault

namespace Offside.Settings

def defaultInterpreter : Text := "python".toList

/-- From the option, else from the variable unless that is blank, else the default. The value is not trimmed. -/
def interpreter (option env : Option Text) : Text :=
  (option <|> env.filter (!Text.isBlank ·)).getD defaultInterpreter

/-- The pause between lines in milliseconds: from the option, else from the variable, else none. -/
def delay (option : Option Nat) (env : Option Text) : Except Fault Nat :=
  match option, env with
  | some ms, _ => return ms
  | none, some value => (Numeral.read (Text.trim value)).mapError (.badDelay value)
  | none, none => return 0

end Offside.Settings
