namespace ClusterAgent

/-! ## Errors of collaborating services -/

/-- A service was not restarted. -/
structure RestartError where
  program : String
  details : String
  deriving DecidableEq, Repr

def RestartError.message (error : RestartError) : String :=
  s!"{error.program}: {error.details}"

/-- The cluster's API did not answer. -/
structure KubeError where
  details : String
  deriving DecidableEq, Repr

def KubeError.message (error : KubeError) : String :=
  s!"kubectl: {error.details}"

end ClusterAgent
