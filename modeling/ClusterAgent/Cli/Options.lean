import ClusterAgent.Cli.Grammar
import ClusterAgent.Join.Protocol
import ClusterAgent.Services.Kubectl
import ClusterAgent.Services.Supervisor
namespace ClusterAgent
namespace Cli

/-! ## Settings -/

inductive RestartMode
  | none
  | systemd
  | openrc
  deriving DecidableEq, Repr

def RestartMode.name : RestartMode → String
  | .none => "None"
  | .systemd => "Systemd"
  | .openrc => "Openrc"

def RestartMode.ofText : String → RestartMode
  | "none" => .none
  | "openrc" => .openrc
  | _ => .systemd

/-- The settings of an agent; times are in milliseconds. -/
structure Config where
  bind : SocketAddress
  dataDirectory : String
  pollInterval : Nat
  waitTimeout : Nat
  joinTimeout : Nat
  restartMode : RestartMode
  unitStart : String
  restartTimeout : Nat
  storageService : String
  kubectl : String
  controlPlaneLabel : String
  deriving DecidableEq, Repr

def Config.supervisor (config : Config) : Supervisor :=
  match config.restartMode with
  | .none => .external
  | .systemd => .systemd config.unitStart
  | .openrc => .openrc config.unitStart

def Config.cluster (config : Config) : Kubectl :=
  ⟨config.kubectl, config.controlPlaneLabel⟩

/-- What an agent is asked to do. -/
inductive Command
  | run
  | addNode (token : Option String) (lifetime : Nat)
  | join (peer token : String) (worker : Bool) (protocol : Join.Protocol)
      (hostname : Option String)
  deriving DecidableEq, Repr

/-- A command line as it was understood; without a command the agent runs. -/
structure Invocation where
  command : Option Command
  config : Config
  deriving DecidableEq, Repr

/-! ## The command line -/

def setting (name : String) (form : Form) (environmentName : String) : Argument :=
  ⟨name, form, some ("CLUSTERD_" ++ environmentName)⟩

/-- The options that every command accepts. -/
def settings : List Argument :=
  [setting "bind" .socket "BIND",
    setting "data-dir" .path "DATA_DIR",
    setting "membership-poll-interval-ms" (.number 10 60000) "MEMBERSHIP_POLL_INTERVAL_MS",
    setting "membership-wait-timeout-secs" (.number 1 600) "MEMBERSHIP_WAIT_TIMEOUT_SECS",
    setting "join-timeout-secs" (.number 1 900) "JOIN_TIMEOUT_SECS",
    setting "restart-mode" (.choice ["none", "systemd", "openrc"]) "RESTART_MODE",
    setting "service-unit-prefix" .text "SERVICE_UNIT_PREFIX",
    setting "restart-timeout-secs" (.number 1 300) "RESTART_TIMEOUT_SECS",
    setting "storage-service" .text "STORAGE_SERVICE",
    setting "kubectl" .text "KUBECTL",
    setting "control-plane-label" .text "CONTROL_PLANE_LABEL"]

def topLevel : Level where
  options := settings
  flags := []
  positional := none
  required := []
  commands := ["run", "add-node", "join"]
  hasVersion := true

def plain (name : String) (form : Form) : Argument := ⟨name, form, none⟩

/-- What the commands accept. -/
def levelOf : String → Level
  | "add-node" =>
      { topLevel with
        options := [plain "token" .text, plain "ttl-secs" (.number 60 31536000)] ++ settings
        commands := []
        hasVersion := false }
  | "join" =>
      { topLevel with
        options :=
          [plain "token" .text, plain "api" (.choice ["legacy", "dqlite", "etcd"]),
            plain "hostname" .text] ++ settings
        flags := ["worker"]
        positional := some (plain "peer" .text)
        required := ["peer", "token"]
        commands := []
        hasVersion := false }
  | _ => { topLevel with commands := [], hasVersion := false }

def protocolOf : String → Join.Protocol
  | "legacy" => .legacy
  | "etcd" => .etcdHa
  | _ => .replicatedStore

/-- The values given to a command, and what they ask for. -/
def commandOf (name : String) (values : Values) : Command :=
  match name with
  | "add-node" =>
      .addNode (values.lookup "token") (((values.lookup "ttl-secs").bind readNumber).getD 3600)
  | "join" =>
      .join ((values.lookup "peer").getD "") ((values.lookup "token").getD "")
        (values.lookup "worker").isSome (protocolOf ((values.lookup "api").getD "dqlite"))
        (values.lookup "hostname")
  | _ => .run

def anyAddress (port : Nat) : SocketAddress := ⟨.v4 0, port, 0⟩

/-- The settings that values make, where the first value of a name counts. -/
def configOf (values : Values) : Config :=
  let text := fun (name fallback : String) => (values.lookup name).getD fallback
  let number := fun (name : String) (fallback : Nat) =>
    ((values.lookup name).bind readNumber).getD fallback
  { bind := ((values.lookup "bind").bind SocketAddress.ofText?).getD (anyAddress 25000)
    dataDirectory := text "data-dir" "/var/snap/clusterd/current"
    pollInterval := number "membership-poll-interval-ms" 1000
    waitTimeout := 1000 * number "membership-wait-timeout-secs" 60
    joinTimeout := 1000 * number "join-timeout-secs" 120
    restartMode := RestartMode.ofText (text "restart-mode" "systemd")
    unitStart := text "service-unit-prefix" "snap.clusterd.daemon-"
    restartTimeout := 1000 * number "restart-timeout-secs" 30
    storageService := text "storage-service" "k8s-dqlite"
    kubectl := text "kubectl" "kubectl"
    controlPlaneLabel := text "control-plane-label" "node.kubernetes.io/control-plane" }

/-- Reads a command line. A setting may be given before and after the command, and the later
one counts; what is given counts more than the environment. -/
def parse (environment : Values) (arguments : List String) : Except Error Invocation := do
  let outcome ← topLevel.read [] none false arguments
  match outcome.command with
  | none =>
      let (given, inherited) ← topLevel.finish environment outcome
      return ⟨none, configOf (given ++ inherited)⟩
  | some (name, rest) =>
      let level := levelOf name
      let (own, ownInherited) ← level.finish environment (← level.read [] none false rest)
      let (given, inherited) ← topLevel.finish environment outcome
      return ⟨some (commandOf name own), configOf (own ++ given ++ ownInherited ++ inherited)⟩

end Cli
end ClusterAgent
