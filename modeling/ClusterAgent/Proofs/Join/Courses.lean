import ClusterAgent.Proofs.Join.Footprint
namespace ClusterAgent
namespace Join

open Running World

/-! ## Courses -/

/-- What an agent does for a join, cut into pieces between which others may act. The call for the
own callback token stands apart, whose answer is not the join's alone, and so does the wait for the
store, which ends by what others do. -/
inductive Course (α : Type) : Type 1
  | done (result : Except Error α)
  | act {β : Type} (piece : Activity Error β) (next : β → Course α)
  | own (next : String → Course α)
  | await (next : Membership.Snapshot → Course α)

/-- A call for the own callback token. -/
def callOwn (surroundings : Surroundings) : Activity Error String := do
  let fresh ← surroundings.drawToken
  onTokens (Tokens.ownCallback fresh)

namespace Course

def bind {α β : Type} : Course α → (α → Course β) → Course β
  | .done (.ok value), next => next value
  | .done (.error error), _ => .done (.error error)
  | .act piece rest, next => .act piece fun value => (rest value).bind next
  | .own rest, next => .own fun token => (rest token).bind next
  | .await rest, next => .await fun snapshot => (rest snapshot).bind next

instance : Monad Course where
  pure := fun value => .done (.ok value)
  bind := bind

section Running

variable {α β : Type} (surroundings : Surroundings) (patience : Patience)

/-- A course of one piece. -/
def step (piece : Activity Error α) : Course α :=
  .act piece pure

def refuse (error : Error) : Course α :=
  .done (.error error)

/-- What a course does if nobody else acts. -/
def run : Course α → Activity Error α
  | .done result => ExceptT.mk (pure result)
  | .act piece next => do
      let value ← piece
      (next value).run
  | .own next => do
      let token ← callOwn surroundings
      (next token).run
  | .await next => do
      let moved ← awaitMove surroundings patience
      (next moved).run

@[simp] theorem run_pure (value : α) :
    (pure value : Course α).run surroundings patience = pure value :=
  rfl

@[simp] theorem run_done (result : Except Error α) :
    (Course.done result).run surroundings patience = ExceptT.mk (pure result) :=
  rfl

@[simp] theorem run_step (piece : Activity Error α) :
    (step piece).run surroundings patience = piece :=
  bind_pure piece

@[simp] theorem run_own : (Course.own pure).run surroundings patience = callOwn surroundings :=
  bind_pure (callOwn surroundings)

@[simp] theorem run_await :
    (Course.await pure).run surroundings patience = awaitMove surroundings patience :=
  bind_pure (awaitMove surroundings patience)

@[simp] theorem run_bind (course : Course α) (next : α → Course β) :
    (course >>= next).run surroundings patience = (do
      let value ← course.run surroundings patience
      (next value).run surroundings patience) := by
  change (course.bind next).run surroundings patience = _
  induction course with
  | done result =>
      cases result with
      | ok value => exact (pure_bind value fun value => (next value).run surroundings patience).symm
      | error error => rfl
  | act piece rest inductionHypothesis =>
      simp only [bind, run, inductionHypothesis, bind_assoc]
  | own rest inductionHypothesis =>
      simp only [bind, run, inductionHypothesis, bind_assoc]
  | await rest inductionHypothesis =>
      simp only [bind, run, inductionHypothesis, bind_assoc]

end Running

/-! ## Pieces of a join -/

/-- Spends the token of a join. -/
def spend (request : Request) : Activity Error Bool := do
  let world ← get
  onTokens (Tokens.consume .cluster request.token world.seconds)

/-- A check of the data directory. -/
def judge {α : Type} (view : Disk → Except Error α) : Activity Error α := do
  ExceptT.mk (pure (view (← get).disk))

/-- A look at the data directory. -/
def look {α : Type} (view : Disk → α) : Activity Error α :=
  judge fun disk => .ok (view disk)

/-- Patches the network manifest; whether it changed. A failure counts as no change. -/
def patchPiece (host : String) : Activity Error Bool := fun world =>
  let (result, after) := (onDisk (Autodetection.patchFile host)).run world
  (.ok (result.toOption.getD false), after)

/-- Hands the network manifest to the cluster, which may fail. -/
def applyPiece (surroundings : Surroundings) : Activity Error Unit := do
  let disk := (← get).disk
  tolerate (surroundings.applyManifest (disk.shown Layout.networkManifest))

/-! ## The course of a join -/

section Parts

variable (surroundings : Surroundings) (patience : Patience) (protocol : Protocol)
  (request : Request) (remote : IpAddress)

def checkBackend (disk : Disk) : Except Error Unit :=
  let backend := NodeState.backend disk
  if backend ≠ protocol.requiredBackend then .error (.backendMismatch protocol backend)
  else .ok ()

def checkPort (disk : Disk) : Except Error Unit :=
  let expected := agentPort disk
  if expected ≠ request.port then .error (.portMismatch expected request.port)
  else .ok ()

def checks : Course IpAddress := do
  step (judge (checkBackend protocol))
  step (judge (checkPort request))
  Course.done (remoteAddress request)

def moveStore (host : String) : Course Unit := do
  let snapshot ← step (ExceptT.adapt Error.ofMembership (onDisk Membership.read))
  let address ← Course.done ((snapshot.movedTo host).mapError Error.ofMembership)
  step (ExceptT.adapt Error.ofMembership (onDisk (Membership.writeUpdate address)))
  step (ExceptT.adapt Error.ofMembership (ExceptT.adapt MembershipError.restart
    (surroundings.restartService surroundings.storageService)))

def toStore : Course Admitted := do
  step (holdMembership patience)
  let snapshot ← step (ExceptT.adapt Error.ofMembership (onDisk Membership.read))
  if snapshot.containsHost remote.toText then refuse (.alreadyMember remote.toText)
  else if snapshot.isBootstrap then
    match surroundings.interfaces.bindAddress request.contacted with
    | .error cause => refuse (.bindAddress cause)
    | .ok host => do
        moveStore surroundings host
        let moved ← Course.await pure
        return ⟨some moved.voters, none⟩
  else return ⟨some snapshot.voters, none⟩

def toEtcd : Course Admitted := do
  step (holdMembership patience)
  let servers ← step (look etcdServers)
  if remote.toText ∈ Endpoints.hosts servers then refuse (.alreadyMember remote.toText)
  else return ⟨none, nonempty? servers⟩

def legacy : Course Admitted := do
  match request.callbackToken.bind nonempty? with
  | none => pure ()
  | some token =>
      step (onTokens
        (Tokens.storeCallback (HostPort.join remote.toText (toString request.port)) token))
  let servers ← step (look etcdServers)
  return ⟨none, nonempty? servers⟩

def admission : Course Admitted :=
  match protocol with
  | .replicatedStore => toStore surroundings patience request remote
  | .etcdHa => toEtcd patience remote
  | .legacy => legacy request remote

/-- Issues the tokens of a worker, one for each role. -/
def issueEach (base : String) : List String → Course Unit
  | [] => pure ()
  | role :: roles => do
      step (onTokens (Tokens.issue .certificateRequest (Tokens.workerToken base role) none))
      issueEach base roles

def forWorker : Course Credentials := do
  issueEach request.token Tokens.workerRoles
  let nodes ← step (ExceptT.adapt Error.controlPlaneNodes surroundings.controlPlaneNodes)
  return .worker nodes

def forMember (admitted : Admitted) : Course Credentials := do
  let certificate ← step (onState (Disk.readWhole (certificatePlace protocol.requiredBackend)))
  let key ← step (onState (Disk.readWhole (keyPlace protocol.requiredBackend)))
  let serviceAccountKey ← step (onState (Disk.readWhole Layout.serviceAccountKey))
  let adminToken ←
    step (ExceptT.adapt (fun cause => Error.state cause.report) (onDisk NodeState.adminToken))
  let authorityKey ← step (onState (Disk.readWhole Layout.authorityKey))
  return .member
    { voters := admitted.voters
      serviceAccountKey := serviceAccountKey
      adminToken := adminToken
      authorityKey := authorityKey
      clusterCertificate := certificate
      clusterKey := key
      etcdServers := admitted.etcdServers }

def credentials (admitted : Admitted) : Course Credentials :=
  if request.worker then forWorker surroundings request else forMember protocol admitted

def patching (host : String) : Course Unit := do
  let changed ← step (patchPiece host)
  if changed then step (applyPiece surroundings) else pure ()

def completion (override : Option String) (admitted : Admitted) : Course Response := do
  let callbackToken ← Course.own pure
  let authority ← step (onState (Disk.readWhole Layout.authorityCertificate))
  let kubeletFlags ← step (onState (Disk.readWhole (Layout.flags "kubelet")))
  let apiPort ← step (look fun disk =>
    nonemptyOr "16443" (Flags.lookup "kube-apiserver" "--secure-port" disk))
  let authorizationMode ← step (look fun disk =>
    nonemptyOr "AlwaysAllow" (Flags.lookup "kube-apiserver" "--authorization-mode" disk))
  patching surroundings remote.toText
  step (tolerate (onDisk NodeState.markNoReissue))
  let credentials ← credentials surroundings protocol request admitted
  return {
    authority := authority
    callbackToken := callbackToken
    apiPort := apiPort
    authorizationMode := authorizationMode
    kubeletFlags := kubeletFlags
    hostnameOverride := override
    credentials := credentials }

def granting : Course Response := do
  let remote ← checks protocol request
  let override ←
    Course.done (hostnameOverride surroundings.resolve request.hostname remote)
  let admitted ← admission surroundings patience protocol request remote
  completion surroundings protocol request remote override admitted

/-- The course of a whole join. -/
def ofJoin : Course Response := do
  let accepted ← step (spend request)
  if accepted then granting surroundings patience protocol request else refuse .invalidToken

end Parts

/-! ## A course that nobody interrupts -/

section Whole

variable (surroundings : Surroundings) (patience : Patience) (protocol : Protocol)
  (request : Request) (remote : IpAddress)

theorem onTokens_bind {α β : Type} (first : Disk.Step TokenError α)
    (next : α → Disk.Step TokenError β) :
    onTokens (first >>= next) = onTokens first >>= fun value => onTokens (next value) := by
  rw [onTokens, onDisk_bind, adapt_bind]
  rfl

theorem onState_bind {α β : Type} (first : Disk.Step FileError α)
    (next : α → Disk.Step FileError β) :
    onState (first >>= next) = onState first >>= fun value => onState (next value) := by
  rw [onState, onDisk_bind, adapt_bind]
  rfl

theorem run_judge {α : Type} (view : Disk → Except Error α) (world : World) :
    (judge view).run world = (view world.disk, world) := by
  rw [judge, Running.run_bind, run_get]
  rfl

theorem judge_bind {α β : Type} (first : Disk → Except Error α)
    (next : α → Disk → Except Error β) :
    (judge first >>= fun value => judge (next value)) =
      judge fun disk => first disk >>= fun value => next value disk := by
  funext world
  change (judge first >>= fun value => judge (next value)).run world =
    (judge fun disk => first disk >>= fun value => next value disk).run world
  rw [Running.run_bind, run_judge, run_judge]
  cases first world.disk with
  | error error => rfl
  | ok value => exact run_judge (next value) world

theorem look_bind {α β : Type} (view : Disk → α) (next : α → Activity Error β) :
    look view >>= next = (do
      let world ← get
      next (view world.disk)) := by
  rw [look, judge, bind_assoc]
  rfl

theorem check_eq (disk : Disk) :
    check protocol request disk = (do
      checkBackend protocol disk
      checkPort request disk
      remoteAddress request) := by
  unfold check checkBackend checkPort
  dsimp only
  split
  · rfl
  · split <;> rfl

theorem run_checks :
    (checks protocol request).run surroundings patience = judge (check protocol request) := by
  simp only [funext (check_eq protocol request), ← judge_bind, checks, run_bind, run_step,
    run_done]
  rfl

theorem run_moveStore (host : String) :
    (moveStore surroundings host).run surroundings patience =
      ExceptT.adapt Error.ofMembership (Membership.moveBootstrap surroundings host) := by
  simp only [moveStore, Membership.moveBootstrap, run_bind, run_step, run_done, adapt_bind]
  rfl

theorem run_toStore :
    (toStore surroundings patience request remote).run surroundings patience =
      Join.admitToStore surroundings patience request remote := by
  simp only [admitToStore_eq, toStore, run_bind, run_step]
  refine bind_congr fun _ => bind_congr fun snapshot => ?_
  unfold admitAsSeen
  split
  · rfl
  · split
    · cases surroundings.interfaces.bindAddress request.contacted with
      | error cause => rfl
      | ok host => simp only [run_bind, run_moveStore, run_await, run_pure]
    · rfl

theorem run_toEtcd :
    (toEtcd patience remote).run surroundings patience = admitToEtcd patience remote := by
  simp only [toEtcd, admitToEtcd, run_bind, run_step, look_bind]
  refine bind_congr fun _ => bind_congr fun world => ?_
  split <;> rfl

theorem run_legacy :
    (legacy request remote).run surroundings patience = admitLegacy request remote := by
  rw [legacy, admitLegacy]
  cases request.callbackToken.bind nonempty? with
  | none => simp only [run_bind, run_step, run_pure, look_bind]
  | some token => simp only [run_bind, run_step, run_pure, look_bind]

theorem run_admission :
    (admission surroundings patience protocol request remote).run surroundings patience =
      admitBy surroundings patience protocol request remote := by
  cases protocol with
  | replicatedStore => exact run_toStore surroundings patience request remote
  | etcdHa => exact run_toEtcd surroundings patience remote
  | legacy => exact run_legacy surroundings patience request remote

theorem run_issueEach (base : String) (roles : List String) :
    (issueEach base roles).run surroundings patience =
      onTokens (do
        let _ ← roles.mapM fun role => do
          Tokens.issue .certificateRequest (Tokens.workerToken base role) none
          return Tokens.workerToken base role) := by
  induction roles with
  | nil => rfl
  | cons role roles inductionHypothesis =>
      simp only [issueEach, run_bind, run_step, inductionHypothesis, List.mapM_cons, bind_assoc,
        pure_bind, onTokens_bind]

theorem run_forWorker :
    (forWorker surroundings request).run surroundings patience =
      workerCredentials surroundings request := by
  simp only [forWorker, workerCredentials, run_bind, run_step, run_pure, run_issueEach,
    onTokens_bind, bind_assoc]
  rfl

theorem run_forMember (admitted : Admitted) :
    (forMember protocol admitted).run surroundings patience =
      memberCredentials protocol admitted := by
  simp only [forMember, memberCredentials, clusterKeyPair_eq, NodeState.readKeyPair, run_bind,
    run_step, run_pure, onState_bind, bind_assoc]
  rfl

theorem run_patchPiece (host : String) (world : World) :
    (patchPiece host).run world =
      (.ok (((onDisk (Autodetection.patchFile host)).run world).1.toOption.getD false),
        ((onDisk (Autodetection.patchFile host)).run world).2) :=
  rfl

theorem run_patching (host : String) :
    (patching surroundings host).run surroundings patience =
      tolerate (patchManifest surroundings host true) := by
  funext world
  simp only [patching, run_bind, run_step]
  change (patchPiece host >>= _).run world = (.ok (), ((patchManifest _ _ _).run world).2)
  rw [Running.run_bind, patchManifest, Running.run_bind, run_patchPiece]
  rcases (onDisk (Autodetection.patchFile host)).run world with ⟨error | changed, after⟩
  · rfl
  · cases changed
    · rfl
    · dsimp only [Except.toOption, Option.getD_some]
      simp only [if_true, run_step, applyPiece, Bool.true_and]
      rw [Running.run_bind, Running.run_bind, run_get]
      rfl

theorem run_credentials (admitted : Admitted) :
    (credentials surroundings protocol request admitted).run surroundings patience =
      if request.worker then workerCredentials surroundings request
      else memberCredentials protocol admitted := by
  rw [credentials]
  split
  · exact run_forWorker surroundings patience request
  · exact run_forMember surroundings patience protocol admitted

theorem run_completion (override : Option String) (admitted : Admitted) :
    (completion surroundings protocol request remote override admitted).run surroundings patience =
      complete surroundings protocol request remote override admitted := by
  simp only [completion, complete, run_bind, run_step, run_pure, run_own, callOwn, run_patching,
    run_credentials, bind_assoc]
  refine bind_congr fun fresh => bind_congr fun token => bind_congr fun authority =>
    bind_congr fun flags => ?_
  simp only [look_bind]
  by_cases worker : request.worker = true
  · simp only [if_pos worker]
    rfl
  · simp only [if_neg worker]
    rfl

theorem run_granting :
    (granting surroundings patience protocol request).run surroundings patience =
      grant surroundings patience protocol request := by
  simp only [granting, grant, run_bind, run_done, run_checks, run_admission, run_completion,
    judge, bind_assoc]

/-- A course that nobody interrupts is the join. -/
theorem run_ofJoin :
    (ofJoin surroundings patience protocol request).run surroundings patience =
      join surroundings patience protocol request := by
  simp only [join_eq, ofJoin, spend, run_bind, run_step, bind_assoc]
  refine bind_congr fun _ => bind_congr fun accepted => ?_
  split
  · exact run_granting surroundings patience protocol request
  · rfl

end Whole

/-! ## Courses that keep to a token -/

/-- No piece of the course touches the file of the own token, and only good values come out of
it where the own token is `text`. -/
def Keeps {α : Type} (text : String) (Good : α → Prop) : Course α → Prop
  | .done result => ∀ value, result = .ok value → Good value
  | .act piece next =>
      Within (Spares Layout.callbackToken.names) piece ∧ ∀ value, (next value).Keeps text Good
  | .own next => (next text).Keeps text Good
  | .await next => ∀ snapshot, (next snapshot).Keeps text Good

/-- How a course goes on after its piece has ended, well or not. -/
def goOn {α β : Type} (next : β → Course α) : Except Error β → Course α
  | .ok value => next value
  | .error error => .done (.error error)

section Keeping

variable {α β : Type} {text : String} {Good : α → Prop} {Here : β → Prop}

theorem keeps_pure {value : α} (good : Good value) : (pure value : Course α).Keeps text Good := by
  rintro _ ⟨⟩
  exact good

theorem keeps_refuse (error : Error) : (refuse error : Course α).Keeps text Good :=
  fun _ isOk => (nomatch isOk)

theorem keeps_step {piece : Activity Error α}
    (spares : Within (Spares Layout.callbackToken.names) piece) :
    (step piece).Keeps text fun _ => True :=
  ⟨spares, fun _ => keeps_pure trivial⟩

theorem keeps_own : (Course.own pure).Keeps text fun token => token = text := by
  rintro _ ⟨⟩
  rfl

theorem keeps_done (result : Except Error α) : (Course.done result).Keeps text fun _ => True :=
  fun _ _ => trivial

theorem Keeps.bind {course : Course β} {next : β → Course α} (first : course.Keeps text Here)
    (second : ∀ value, Here value → (next value).Keeps text Good) :
    (course >>= next).Keeps text Good := by
  change (Course.bind course next).Keeps text Good
  induction course with
  | done result =>
      cases result with
      | ok value => exact second value (first value rfl)
      | error error => exact keeps_refuse error
  | act piece rest inductionHypothesis =>
      exact ⟨first.1, fun value => inductionHypothesis value (first.2 value)⟩
  | own rest inductionHypothesis => exact inductionHypothesis text first
  | await rest inductionHypothesis =>
      exact fun snapshot => inductionHypothesis snapshot (first snapshot)

/-- A piece comes first that does not touch the file. -/
theorem keeps_act {piece : Activity Error β} {next : β → Course α}
    (spares : Within (Spares Layout.callbackToken.names) piece)
    (rest : ∀ value, (next value).Keeps text Good) : (step piece >>= next).Keeps text Good :=
  (keeps_step spares).bind fun value _ => rest value

theorem Keeps.own {next : String → Course α} (keeps : (Course.own next).Keeps text Good) :
    (next text).Keeps text Good :=
  keeps

theorem Keeps.goOn {next : β → Course α} (rest : ∀ value, (next value).Keeps text Good)
    (result : Except Error β) : (Course.goOn next result).Keeps text Good := by
  cases result with
  | ok value => exact rest value
  | error error => exact keeps_refuse error

end Keeping

/-! ## The course of a join keeps to the own token -/

section Sparing

variable {surroundings : Surroundings} {text : String} {names : List String} {α : Type}

theorem judge_spares (view : Disk → Except Error α) : Within (Spares names) (judge view) :=
  within_bind within_get fun _ => fun world => spares_refl names world

theorem membershipRead_spares :
    Within (Spares names) (ExceptT.adapt Error.ofMembership (onDisk Membership.read)) :=
  within_adapt (onDisk_still_calm Membership.read_within)

theorem readWhole_spares (place : Place) :
    Within (Spares names) (onState (Disk.readWhole place)) :=
  onState_calm (Disk.readWhole_within place)

theorem checks_keeps (protocol : Protocol) (request : Request) :
    (checks protocol request).Keeps text fun _ => True :=
  keeps_act (judge_spares _) fun _ => keeps_act (judge_spares _) fun _ => keeps_done _

theorem toEtcd_keeps (patience : Patience) (remote : IpAddress) :
    (toEtcd patience remote).Keeps text fun _ => True := by
  refine keeps_act (holdMembership_spares patience) fun _ => ?_
  refine keeps_act (judge_spares _) fun servers => ?_
  split
  · exact keeps_refuse _
  · exact keeps_pure trivial

theorem legacy_keeps (request : Request) (remote : IpAddress) :
    (legacy request remote).Keeps text fun _ => True := by
  have looking : (do
      let servers ← step (look etcdServers)
      return ⟨none, nonempty? servers⟩ : Course Admitted).Keeps text fun _ => True :=
    keeps_act (judge_spares _) fun _ => keeps_pure trivial
  rw [legacy]
  cases request.callbackToken.bind nonempty? with
  | none => exact looking
  | some token =>
      refine keeps_act (onTokens_spares (Tokens.storeCallback_within _ _) ?_) fun _ => looking
      decide

theorem issueEach_keeps (base : String) (roles : List String) :
    (issueEach base roles).Keeps text fun _ => True := by
  induction roles with
  | nil => exact keeps_pure trivial
  | cons role roles inductionHypothesis =>
      exact keeps_act (onTokens_spares Tokens.issue_within (by decide)) fun _ =>
        inductionHypothesis

theorem forMember_keeps (protocol : Protocol) (admitted : Admitted) :
    (forMember protocol admitted).Keeps text fun _ => True := by
  refine keeps_act (readWhole_spares _) fun certificate => ?_
  refine keeps_act (readWhole_spares _) fun key => ?_
  refine keeps_act (readWhole_spares _) fun serviceAccountKey => ?_
  refine keeps_act (within_adapt (onDisk_still_calm NodeState.adminToken_within)) fun _ => ?_
  exact keeps_act (readWhole_spares _) fun authorityKey => keeps_pure trivial

theorem patchPiece_spares (host : String) :
    Within (Spares Layout.callbackToken.names) (patchPiece host) := by
  have patching : Within (Spares Layout.callbackToken.names)
      (onDisk (Autodetection.patchFile host)) :=
    onDisk_calm (Autodetection.patchFile_within host) (clears_spares (by decide))
  exact patching

-- From here on the join also calls for what the surroundings do.
variable (leave : surroundings.LeaveAlone Layout.callbackToken.names)
include leave

theorem moveStore_keeps (host : String) :
    (moveStore surroundings host).Keeps text fun _ => True := by
  refine keeps_act membershipRead_spares fun snapshot => ?_
  refine (keeps_done _).bind fun address _ => ?_
  have telling : Within (Spares Layout.callbackToken.names)
      (onDisk (Membership.writeUpdate address)) :=
    onDisk_calm (Membership.writeUpdate_within address) (clears_spares (by decide))
  refine keeps_act (within_adapt telling) fun _ => ?_
  exact keeps_step (within_adapt (within_adapt (leave.obey.restartService _)))

theorem toStore_keeps (patience : Patience) (request : Request) (remote : IpAddress) :
    (toStore surroundings patience request remote).Keeps text fun _ => True := by
  refine keeps_act (holdMembership_spares patience) fun _ => ?_
  refine keeps_act membershipRead_spares fun snapshot => ?_
  split
  · exact keeps_refuse _
  · split
    · cases surroundings.interfaces.bindAddress request.contacted with
      | error cause => exact keeps_refuse _
      | ok host =>
          refine (moveStore_keeps leave host).bind fun _ _ => ?_
          exact fun snapshot => keeps_pure trivial
    · exact keeps_pure trivial

theorem admission_keeps (patience : Patience) (protocol : Protocol) (request : Request)
    (remote : IpAddress) :
    (admission surroundings patience protocol request remote).Keeps text fun _ => True := by
  cases protocol with
  | replicatedStore => exact toStore_keeps leave patience request remote
  | etcdHa => exact toEtcd_keeps patience remote
  | legacy => exact legacy_keeps request remote

theorem credentials_keeps (protocol : Protocol) (request : Request) (admitted : Admitted) :
    (credentials surroundings protocol request admitted).Keeps text fun _ => True := by
  rw [credentials]
  split
  · refine (issueEach_keeps request.token Tokens.workerRoles).bind fun _ _ => ?_
    exact keeps_act (within_adapt leave.obey.controlPlaneNodes) fun _ => keeps_pure trivial
  · exact forMember_keeps protocol admitted

theorem patching_keeps (host : String) :
    (patching surroundings host).Keeps text fun _ => True := by
  refine keeps_act (patchPiece_spares host) fun changed => ?_
  split
  · refine keeps_step (within_bind within_get fun world => ?_)
    exact within_tolerate (leave.obey.applyManifest _)
  · exact keeps_pure trivial

/-- Once a node is admitted, its response carries the own token. -/
theorem completion_keeps (protocol : Protocol) (request : Request) (remote : IpAddress)
    (override : Option String) (admitted : Admitted) :
    (completion surroundings protocol request remote override admitted).Keeps text fun response =>
      response.callbackToken = text := by
  have touching : Within (Disk.ChangesOnly [Layout.noReissueMarker.names])
      NodeState.markNoReissue :=
    Disk.touch_within List.mem_cons_self
  have marking : Within (Spares Layout.callbackToken.names) (onDisk NodeState.markNoReissue) :=
    onDisk_calm touching (clears_spares (by decide))
  refine keeps_own.bind fun token isText => ?_
  refine keeps_act (readWhole_spares _) fun authority => ?_
  refine keeps_act (readWhole_spares _) fun kubeletFlags => ?_
  refine keeps_act (judge_spares _) fun apiPort => ?_
  refine keeps_act (judge_spares _) fun authorizationMode => ?_
  refine (patching_keeps leave remote.toText).bind fun _ _ => ?_
  refine keeps_act (within_tolerate marking) fun _ => ?_
  refine (credentials_keeps leave protocol request admitted).bind fun given _ => ?_
  exact keeps_pure isText

theorem granting_keeps (patience : Patience) (protocol : Protocol) (request : Request) :
    (granting surroundings patience protocol request).Keeps text fun response =>
      response.callbackToken = text := by
  refine (checks_keeps protocol request).bind fun remote _ => ?_
  refine (keeps_done _).bind fun override _ => ?_
  refine (admission_keeps leave patience protocol request remote).bind fun admitted _ => ?_
  exact completion_keeps leave protocol request remote override admitted

theorem ofJoin_keeps (patience : Patience) (protocol : Protocol) (request : Request) :
    (ofJoin surroundings patience protocol request).Keeps text fun response =>
      response.callbackToken = text := by
  refine keeps_act (within_bind within_get fun world => ?_) fun accepted => ?_
  · exact onTokens_spares Tokens.consume_within (by decide)
  · split
    · exact granting_keeps leave patience protocol request
    · exact keeps_refuse _

end Sparing

end Course
end Join
end ClusterAgent
