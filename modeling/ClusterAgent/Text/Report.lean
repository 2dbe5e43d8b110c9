namespace ClusterAgent

/-! ## Reports of failures -/

/-- What failed, and the causes that led to it, the nearest first. -/
structure Report where
  summary : String
  causes : List String
  deriving DecidableEq, Repr

namespace Report

/-- The same failure, seen as the cause of a larger one. -/
def within (summary : String) (report : Report) : Report :=
  ⟨summary, report.summary :: report.causes⟩

/-- The report on one line. -/
def line (report : Report) : String :=
  ": ".intercalate (report.summary :: report.causes)

/-- A cause on lines of its own; lines after its first are indented by `margin`. -/
def block (first margin cause : String) : String :=
  "\n" ++ first ++ ("\n" ++ margin).intercalate ((cause.toList.splitOn '\n').map String.ofList)

/-- The number of a cause, which stands in the margin. -/
def label (index : Nat) : String :=
  let text := toString index ++ ": "
  "".pushn ' ' (7 - text.length) ++ text

/-- Several causes are counted from `index`. -/
def countedBlocks : (index : Nat) → List String → String
  | _, [] => ""
  | index, cause :: rest => block (label index) "       " cause ++ countedBlocks (index + 1) rest

/-- The report with every cause on a line of its own. -/
def paragraphs (report : Report) : String :=
  match report.causes with
  | [] => report.summary
  | [cause] => report.summary ++ "\n\nCaused by:" ++ block "    " "    " cause
  | causes => report.summary ++ "\n\nCaused by:" ++ countedBlocks 0 causes

end Report
end ClusterAgent
