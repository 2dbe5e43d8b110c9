import ClusterAgent.Text.Report
import ClusterAgent.Text.Utf8
namespace ClusterAgent

/-! ## File errors -/

/-- Why a file operation was refused. -/
inductive IoError
  | notFound
  | notDirectory
  | isDirectory
  | occupied
  | notText
  | other (text : String)
  deriving DecidableEq, Repr

def IoError.message : IoError → String
  | .notFound => "No such file or directory (os error 2)"
  | .notDirectory => "Not a directory (os error 20)"
  | .isDirectory => "Is a directory (os error 21)"
  | .occupied => "File exists (os error 17)"
  | .notText => "stream did not contain valid UTF-8"
  | .other text => text

/-- A refused file operation together with what it was needed for. -/
inductive FileError
  | reading (path : String) (cause : IoError)
  | creating (path : String) (cause : IoError)
  | writing (path : String) (cause : IoError)
  | notText (path : String) (cause : Utf8.Fault)
  deriving DecidableEq, Repr

def FileError.report : FileError → Report
  | .reading path cause => ⟨s!"read {path}", [cause.message]⟩
  | .creating path cause => ⟨s!"create {path}", [cause.message]⟩
  | .writing path cause => ⟨s!"write {path}", [cause.message]⟩
  | .notText path cause => ⟨s!"{path} is not valid utf-8", [cause.message]⟩

end ClusterAgent
