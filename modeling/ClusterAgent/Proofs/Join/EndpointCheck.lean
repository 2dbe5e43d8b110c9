import ClusterAgent.Proofs.Join.Handout
import ClusterAgent.Proofs.Join.Refusals
import ClusterAgent.Proofs.Node.EndpointFlag
namespace ClusterAgent
namespace Join

open Running World

/-! ## The check of the endpoints -/

/-- Nothing before the check of the endpoints stands in the way of the join. -/
structure ComesToEndpoints (surroundings : Surroundings) (patience : Patience)
    (request : Request) (before : World) (remote : IpAddress) : Prop where
  token : ∃ spent,
    (Tokens.consume .cluster request.token before.seconds).run before.disk = (.ok true, spent)
  checked : check .etcdHa request before.disk = .ok remote
  named : ∃ override, hostnameOverride surroundings.resolve request.hostname remote = .ok override
  free : ∀ time, patience ≠ .until time true

/-- The join is refused because the cluster knows the node already. -/
def RefusesMember (result : Except Error Response) : Prop :=
  ∃ error, result = .error error ∧ error.code = "already_member"

section Checking

variable {surroundings : Surroundings} {patience : Patience} {request : Request}
  {remote : IpAddress} {before after : World} {result : Except Error Response}

theorem run_admitToEtcd (free : ∀ time, patience ≠ .until time true) (remote : IpAddress)
    (world : World) :
    (admitToEtcd patience remote).run world =
      if remote.toText ∈ Endpoints.hosts (etcdServers world.disk) then
        (.error (.alreadyMember remote.toText), world)
      else (.ok ⟨none, nonempty? (etcdServers world.disk)⟩, world) := by
  have held : holdMembership patience = pure () := by
    rw [holdMembership.eq_def]
    split
    · exact absurd rfl (free _)
    · rfl
  rw [admitToEtcd, held, pure_bind, run_bind, run_get]
  dsimp only
  split
  · rfl
  · rfl

/-- From there on only the endpoints decide whether the node is admitted. -/
theorem run_join_etcd (comes : ComesToEndpoints surroundings patience request before remote) :
    ∃ spent override,
      (join surroundings patience .etcdHa request).run before =
        if remote.toText ∈ Endpoints.hosts (etcdServers before.disk) then
          (.error (.alreadyMember remote.toText), { before with disk := spent })
        else
          (complete surroundings .etcdHa request remote override
            ⟨none, nonempty? (etcdServers before.disk)⟩).run { before with disk := spent } := by
  obtain ⟨spent, consumed⟩ := comes.token
  obtain ⟨override, named⟩ := comes.named
  have changes : Disk.ChangesOnly (Tokens.footprint .cluster) before.disk spent :=
    Tokens.consume_within.reaches consumed
  have servers : etcdServers spent = etcdServers before.disk :=
    Flags.lookup_elsewhere changes _ _ (by decide)
  have checked : check .etcdHa request spent = .ok remote :=
    (check_elsewhere changes _ _).trans comes.checked
  have accepted : (onTokens (Tokens.consume .cluster request.token before.seconds)).run before =
      (.ok true, { before with disk := spent }) := by
    rw [onTokens, run_adapt, run_onDisk, consumed]
    rfl
  refine ⟨spent, override, ?_⟩
  rw [join_eq, run_bind, run_get]
  dsimp only
  rw [run_bind, accepted]
  dsimp only
  rw [if_pos rfl, grant, run_bind, run_get]
  dsimp only
  rw [run_given checked, run_given named, run_bind, admitBy, run_admitToEtcd comes.free, servers]
  by_cases isListed : remote.toText ∈ Endpoints.hosts (etcdServers before.disk)
  · rw [if_pos isListed, if_pos isListed]
  · rw [if_neg isListed, if_neg isListed]

/-- The node is refused as a member exactly if its address is one of the hosts that are read
from the flag. -/
theorem refusesMember_iff (comes : ComesToEndpoints surroundings patience request before remote)
    (ran : (join surroundings patience .etcdHa request).run before = (result, after)) :
    RefusesMember result ↔ remote.toText ∈ Endpoints.hosts (etcdServers before.disk) := by
  obtain ⟨spent, override, runs⟩ := run_join_etcd comes
  rw [runs] at ran
  constructor
  · rintro ⟨error, rfl, isMember⟩
    by_contra notListed
    rw [if_neg notListed] at ran
    have avoids : Avoids (fun error : Error => error.code = "already_member")
        (complete surroundings .etcdHa request remote override
          ⟨none, nonempty? (etcdServers before.disk)⟩) :=
      complete_avoids (by simp [Error.code]) (by simp [Error.code]) (by simp [Error.code])
        _ _ _ _ _ _
    exact avoids _ error after ran isMember
  · intro isListed
    rw [if_pos isListed] at ran
    obtain ⟨rfl, _⟩ := Prod.mk.inj ran
    exact ⟨_, rfl, rfl⟩

theorem handed_servers {response : Response}
    (comes : ComesToEndpoints surroundings patience request before remote)
    (isMember : request.worker = false)
    (ran : (join surroundings patience .etcdHa request).run before = (.ok response, after)) :
    ∃ member, response.credentials = .member member ∧
      member.etcdServers = nonempty? (etcdServers before.disk) := by
  obtain ⟨spent, override, runs⟩ := run_join_etcd comes
  rw [runs] at ran
  split at ran
  · cases ran
  · obtain ⟨_, ⟨worker, _⟩ | ⟨_, member, given, receives⟩⟩ := complete_ok ran
    · rw [isMember] at worker
      cases worker
    · exact ⟨member, given, receives.etcdServers⟩

end Checking

/-! ## Lists of endpoints behind the flag -/

/-- The first line of the API server's flags that names the etcd endpoints is the flag, an equals
sign or a space, and the list. -/
structure ListsEndpoints (disk : Disk) (separator : Char) (listing : Endpoints.Listing) :
    Prop where
  wellFormed : listing.WellFormed
  schemes : ∀ endpoint ∈ listing.endpoints, endpoint.scheme ≠ none
  separates : separator = '=' ∨ separator = ' '
  line : ∃ content front back,
    disk.textOf (Layout.flags "kube-apiserver") = .ok content ∧
      Text.lines content.toList =
          front ++ ("--etcd-servers".toList ++ separator :: listing.text) :: back ∧
        ∀ line ∈ front, Flags.nameOf (Text.trim line) ≠ "--etcd-servers".toList

/-- What of a list counts when a node joins: the part that the reader of the flag sees. Nodes
are compared with its hosts, and it is handed over to a node that is admitted as a member. All of
it is seen when the list is whole, and without equals signs what is seen are the endpoints behind
the last blank. -/
structure ChecksEndpoints (separator : Char) (listing : Endpoints.Listing) (remote : IpAddress)
    (isWorker : Bool) (result : Except Error Response) : Prop where
  refuses : RefusesMember result ↔
    remote.toText ∈ Endpoints.hosts (String.ofList (listing.seen separator))
  refusesWhole : listing.Whole separator →
    (RefusesMember result ↔ remote.toText ∈ Endpoints.hostsOf listing.endpoints)
  refusesLastRun : '=' ∉ listing.text →
    (RefusesMember result ↔ remote.toText ∈ Endpoints.hostsOf listing.lastRun)
  handsOver : ∀ response, result = .ok response → isWorker = false →
    ∃ member, response.credentials = .member member ∧
      member.etcdServers = nonempty? (String.ofList (listing.seen separator)) ∧
        (member.etcdServers = some (String.ofList listing.text) ↔ listing.Whole separator)

section Listings

variable {surroundings : Surroundings} {patience : Patience} {request : Request}
  {remote : IpAddress} {before after : World} {result : Except Error Response}
  {separator : Char} {listing : Endpoints.Listing}

theorem etcdServers_listing {disk : Disk} (lists : ListsEndpoints disk separator listing) :
    etcdServers disk = String.ofList (listing.seen separator) := by
  obtain ⟨content, front, back, read, reads, isFirst⟩ := lists.line
  have separates : Flags.isNameEnd separator = true := by
    rcases lists.separates with rfl | rfl
    · rfl
    · rfl
  rw [etcdServers, Flags.lookup_of_textOf read, Endpoints.value_listing (by decide) (by decide)
    lists.wellFormed lists.schemes separates reads isFirst]

theorem nonempty?_eq_some {seen text : List Char} (nonempty : text ≠ []) :
    nonempty? (String.ofList seen) = some (String.ofList text) ↔ seen = text := by
  rw [nonempty?]
  split
  · rename_i empty
    have seenNothing : seen = [] := by simpa using empty
    simp [seenNothing, nonempty.symm]
  · rw [Option.some_inj, String.ofList_inj]

/-- A node that joins is compared with the endpoints that are seen of the list, and it is told
of these. -/
theorem listed_endpoints_checked
    (comes : ComesToEndpoints surroundings patience request before remote)
    (lists : ListsEndpoints before.disk separator listing)
    (ran : (join surroundings patience .etcdHa request).run before = (result, after)) :
    ChecksEndpoints separator listing remote request.worker result := by
  have servers := etcdServers_listing lists
  have refuses := refusesMember_iff comes ran
  rw [servers] at refuses
  refine ⟨refuses, fun whole => ?_, fun noSign => ?_, ?_⟩
  · rw [refuses, (Endpoints.seen_eq_text lists.wellFormed).mpr whole,
      Endpoints.hosts_listing lists.wellFormed]
  · rw [refuses, Endpoints.hosts_seen lists.wellFormed noSign]
  · rintro response rfl isMember
    obtain ⟨member, given, handed⟩ := handed_servers comes isMember ran
    rw [servers] at handed
    refine ⟨member, given, handed, ?_⟩
    rw [handed, nonempty?_eq_some (Endpoints.listing_ne_nil lists.wellFormed),
      Endpoints.seen_eq_text lists.wellFormed]

end Listings

/-! ## A list with a blank in it -/

def listedEndpoint (host : String) : Endpoints.Endpoint where
  scheme := some "https".toList
  host := host.toList
  bracketed := false
  port := some "12379".toList
  slashes := 0

/-- Two endpoints with a comma and a blank between them. -/
def spacedListing : Endpoints.Listing where
  first := listedEndpoint "10.0.0.1"
  others := [([' '], listedEndpoint "10.0.0.2")]

def spacedFlags : String :=
  "--v=2\n--etcd-servers=https://10.0.0.1:12379, https://10.0.0.2:12379\n"

def spacedNode : World :=
  etcdNode "--v=2\n" spacedFlags

theorem spacedNode_lists : ListsEndpoints spacedNode.disk '=' spacedListing where
  wellFormed := by decide
  schemes := by decide
  separates := Or.inl rfl
  line := ⟨spacedFlags, ["--v=2".toList], [], by decide +kernel, by decide +kernel, by decide⟩

theorem spacedNode_comes :
    ComesToEndpoints Rehearsal.quiet .endless (memberCalling "10.0.0.3:25001" "10.0.0.1")
      spacedNode (.v4 0x0A000001) where
  token := ⟨_, run_of_toOption (by decide +kernel)⟩
  checked := by decide +kernel
  named := ⟨_, rfl⟩
  free := by simp

/-- The node behind the first endpoint is not recognised, and it is told of the second only. -/
theorem spacedNode_admits :
    (join Rehearsal.quiet .endless .etcdHa (memberCalling "10.0.0.3:25001" "10.0.0.1")).run
        spacedNode =
      (.ok (etcdResponse "--v=2\n" (some "10.0.0.1") (some "https://10.0.0.2:12379")),
        ((join Rehearsal.quiet .endless .etcdHa
          (memberCalling "10.0.0.3:25001" "10.0.0.1")).run spacedNode).2) :=
  run_of_toOption (by decide +kernel)

theorem spacedNode_endpoints_checked :
    ChecksEndpoints '=' spacedListing (.v4 0x0A000001) false
      (.ok (etcdResponse "--v=2\n" (some "10.0.0.1") (some "https://10.0.0.2:12379"))) :=
  listed_endpoints_checked spacedNode_comes spacedNode_lists spacedNode_admits

/-- A list is not always checked as a whole: behind a blank in it, what stands before is lost. -/
theorem listed_member_may_join :
    ¬∀ (surroundings : Surroundings) (patience : Patience) (request : Request)
        (remote : IpAddress) (before after : World) (result : Except Error Response)
        (separator : Char) (listing : Endpoints.Listing),
      ComesToEndpoints surroundings patience request before remote →
        ListsEndpoints before.disk separator listing →
          (join surroundings patience .etcdHa request).run before = (result, after) →
            (RefusesMember result ↔ remote.toText ∈ Endpoints.hostsOf listing.endpoints) ∧
              ∀ response member, result = .ok response → response.credentials = .member member →
                member.etcdServers = some (String.ofList listing.text) := by
  intro claim
  obtain ⟨refuses, _⟩ := claim _ _ _ _ _ _ _ _ _ spacedNode_comes spacedNode_lists
    spacedNode_admits
  have isListed : (IpAddress.v4 0x0A000001).toText ∈
      Endpoints.hostsOf spacedListing.endpoints := by
    decide +kernel
  obtain ⟨_, impossible, _⟩ := refuses.mpr isListed
  cases impossible

end Join
end ClusterAgent
