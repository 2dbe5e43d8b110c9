import ClusterAgent.Text.Blank
import ClusterAgent.World
namespace ClusterAgent
namespace Programs

/-! ## Programs -/

/-- How a program ended. -/
inductive Ending
  | status (code : Nat)
  | signal (number : Nat)
  deriving DecidableEq, Repr

/-- The names of the signals from one on. -/
def signalNames : List String :=
  ["HUP", "INT", "QUIT", "ILL", "TRAP", "ABRT", "BUS", "FPE", "KILL", "USR1", "SEGV", "USR2",
    "PIPE", "ALRM", "TERM", "STKFLT", "CHLD", "CONT", "STOP", "TSTP", "TTIN", "TTOU", "URG",
    "XCPU", "XFSZ", "VTALRM", "PROF", "WINCH", "IO", "PWR", "SYS"]

def signalName (number : Nat) : String :=
  match if number = 0 then none else signalNames[number - 1]? with
  | some name => s!" (SIG{name})"
  | none => ""

def Ending.message : Ending → String
  | .status code => s!"exit status: {code}"
  | .signal number => s!"signal: {number}{signalName number}"

/-- What a program does when it runs. -/
structure Program where
  ending : Ending
  output : ByteArray
  complaint : ByteArray

/-- What is found under the name of a program. -/
abbrev Table := String → Except IoError Program

open World

/-- Runs the first of the candidates that is found. -/
def runFirst (table : Table) (arguments : List String) : List String → Activity String Unit
  | [] => throw "no matching program found"
  | name :: others =>
      match table name with
      | .error .notFound => runFirst table arguments others
      | .error error => throw s!"spawn {name}: {error.message}"
      | .ok program => do
          call (.program (name :: arguments))
          if program.ending = .status 0 then pure ()
          else throw s!"{name} exited with {program.ending.message}"

/-- The text that a program prints. -/
def outputOf (table : Table) (name : String) (arguments : List String) :
    Activity String String := do
  match table name with
  | .error error => throw s!"spawn {name}: {error.message}"
  | .ok program =>
      call (.program (name :: arguments))
      if program.ending = .status 0 then
        match Utf8.decode program.output with
        | .ok text => return text
        | .error _ => throw s!"{name} printed invalid utf-8"
      else
        let complaint := String.ofList (Text.trim (Utf8.lossy program.complaint.toList))
        throw s!"{name} exited with {program.ending.message}: {complaint}"

end Programs
end ClusterAgent
