import Offside.Run
import Offside.Settings

/-!
Arguments are byte strings and are read from left to right; the first thing that stops the reading decides.
An argument that begins with a dash is an option, a lone dash excepted, and after `--` nothing is an option
any more. An option has its value after an equals sign or in the next argument, which then may not look like
an option. Nothing may be given twice.
-/

namespace Offside.CommandLine

open Utf8 (Bytes)

inductive Pick where
  /-- The block of a line, counted from one. -/
  | line (number : Nat)
  /-- A span of lines that is still to be read. -/
  | select (spec : Text)
  deriving DecidableEq, Repr

/-- What arguments that are accepted ask for. -/
structure Options where
  file : Bytes
  pick : Pick
  send : Bool
  interpreter : Option Text
  delay : Option Nat
  innermost : Bool
  verbose : Bool
  deriving DecidableEq, Repr

/-- Why arguments do not lead to a run. -/
inductive Stop where
  | refusal
  | help
  | version
  deriving DecidableEq, Repr

/-- An argument by its form. -/
inductive Token where
  | word (bytes : Bytes)
  | wordsOnly
  /-- Two dashes and a name, and perhaps a value after the first equals sign. -/
  | named (name : Bytes) (value : Option Bytes)
  /-- One dash and letters, of which the first decides. -/
  | lettered (letter : UInt8)
  deriving DecidableEq, Repr

def bytesOf (s : String) : Bytes := Utf8.encode s.toList

def dash : UInt8 := 0x2D

def equals : UInt8 := 0x3D

def Token.ofBytes : Bytes → Token
  | [] => .word []
  | [b] => .word [b]
  | b :: c :: rest =>
    if b ≠ dash then .word (b :: c :: rest)
    else if c ≠ dash then .lettered c
    else if rest = [] then .wordsOnly
    else match rest.dropWhile (· ≠ equals) with
      | [] => .named rest none
      | _ :: value => .named (rest.takeWhile (· ≠ equals)) (some value)

/-- The options that take a value. -/
inductive Valued where
  | line
  | select
  | interpreter
  | delay
  deriving DecidableEq, Repr

/-- The options that take none. -/
inductive Switch where
  | send
  | innermost
  | verbose
  deriving DecidableEq, Repr

/-- What a name stands for. -/
inductive Meaning where
  | valued (v : Valued)
  | switch (s : Switch)
  | stop (s : Stop)
  deriving DecidableEq, Repr

/-- The names of options, which are not abbreviated. -/
def names : List (String × Meaning) :=
  [("line", .valued .line), ("select", .valued .select), ("interpreter", .valued .interpreter),
   ("line-delay-ms", .valued .delay), ("send", .switch .send), ("innermost", .switch .innermost),
   ("verbose", .switch .verbose), ("help", .stop .help), ("version", .stop .version)]

def meaning? (name : Bytes) : Option Meaning :=
  (names.find? fun entry => bytesOf entry.1 = name).map (·.2)

/-- The options read so far. -/
structure Seen where
  file : Option Bytes := none
  line : Option Nat := none
  select : Option Text := none
  interpreter : Option Text := none
  delay : Option Nat := none
  send : Bool := false
  innermost : Bool := false
  verbose : Bool := false

def once {α : Type} (field : Option α) (value : Except Stop α) : Except Stop (Option α) :=
  if field.isSome then throw .refusal else some <$> value

def textValue (bytes : Bytes) : Except Stop Text :=
  match Utf8.decode? bytes with
  | some t => return t
  | none => throw .refusal

/-- A numeral for a number of at least `least`. -/
def numberValue (least : Nat) (bytes : Bytes) : Except Stop Nat := do
  match Numeral.read (← textValue bytes) with
  | .ok n => if least ≤ n then return n else throw .refusal
  | .error _ => throw .refusal

namespace Seen

/-- The name of the file has at least one character. -/
def setFile (seen : Seen) (bytes : Bytes) : Except Stop Seen := do
  let value := if bytes = [] then throw .refusal else pure bytes
  return { seen with file := ← once seen.file value }

def setValue (seen : Seen) (bytes : Bytes) : Valued → Except Stop Seen
  | .line => return { seen with line := ← once seen.line (numberValue 1 bytes) }
  | .select => return { seen with select := ← once seen.select (textValue bytes) }
  | .interpreter => return { seen with interpreter := ← once seen.interpreter (textValue bytes) }
  | .delay => return { seen with delay := ← once seen.delay (numberValue 0 bytes) }

def setSwitch (seen : Seen) : Switch → Except Stop Seen
  | .send => if seen.send then throw .refusal else return { seen with send := true }
  | .innermost => if seen.innermost then throw .refusal else return { seen with innermost := true }
  | .verbose => if seen.verbose then throw .refusal else return { seen with verbose := true }

/-- A file is needed, and a line or a span of lines but not both. -/
def finish (seen : Seen) : Except Stop Options :=
  let options (file : Bytes) (pick : Pick) : Options :=
    ⟨file, pick, seen.send, seen.interpreter, seen.delay, seen.innermost, seen.verbose⟩
  match seen.file, seen.line, seen.select with
  | some file, some line, none => return options file (.line line)
  | some file, none, some spec => return options file (.select spec)
  | _, _, _ => throw .refusal

end Seen

def lettered (letter : UInt8) : Stop :=
  if [letter] = bytesOf "h" then .help else if [letter] = bytesOf "V" then .version else .refusal

/-- Reads arguments after those that were read already. -/
def read (seen : Seen) : List Bytes → Except Stop Seen
  | [] => return seen
  | argument :: rest =>
    match Token.ofBytes argument with
    | .word bytes => do read (← seen.setFile bytes) rest
    | .wordsOnly => rest.foldlM Seen.setFile seen
    | .lettered letter => throw (lettered letter)
    | .named name value =>
      match meaning? name, value with
      | some (.stop stop), none => throw stop
      | some (.switch switch), none => do read (← seen.setSwitch switch) rest
      | some (.valued valued), some value => do read (← seen.setValue value valued) rest
      | some (.valued valued), none =>
        match rest with
        | [] => throw .refusal
        | next :: rest =>
          match Token.ofBytes next with
          | .word value => do read (← seen.setValue value valued) rest
          | _ => throw .refusal
      | _, _ => throw .refusal

def parse (arguments : List Bytes) : Except Stop Options := do
  (← read {} arguments).finish

end Offside.CommandLine
