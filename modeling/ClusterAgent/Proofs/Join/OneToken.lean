import Mathlib.Logic.Function.Basic
import Mathlib.Logic.Relation
import ClusterAgent.Proofs.Join.Courses
import ClusterAgent.Proofs.Join.Stages
import ClusterAgent.Proofs.Tokens.Endings
namespace ClusterAgent
namespace Join

open Running World

/-! ## Joins and calls on one node -/

/-- A node on which joins are under way: its world, the rest of the course of each join, and what
the calls for the own callback token have returned so far, those of the joins among them. -/
structure Crowd (Joiner : Type) where
  world : World
  course : Joiner → Course Response
  answers : List String

/-- The file that keeps the own callback token. -/
def tokenFile? (disk : Disk) : Option (ByteArray × Bool) :=
  disk.fileAt? Layout.callbackToken.names

theorem run_callOwn (surroundings : Surroundings) (world : World) :
    (callOwn surroundings).run world =
      let owned := (Tokens.ownCallback (surroundings.token world.drawn)).run world.disk
      (owned.1.mapError Error.token,
        { world with disk := owned.2, drawn := world.drawn + 1 }) :=
  rfl

namespace Crowd

variable {Joiner : Type} [DecidableEq Joiner]

/-- The crowd after one join has come to a point of its course. -/
def going (state : Crowd Joiner) (joiner : Joiner) (world : World) (course : Course Response)
    (answers : List String) : Crowd Joiner :=
  ⟨world, Function.update state.course joiner course, answers⟩

@[simp] theorem course_going (state : Crowd Joiner) (joiner : Joiner) (world : World)
    (course : Course Response) (answers : List String) :
    (state.going joiner world course answers).course joiner = course :=
  Function.update_self ..

@[simp] theorem world_going (state : Crowd Joiner) (joiner : Joiner) (world : World)
    (course : Course Response) (answers : List String) :
    (state.going joiner world course answers).world = world :=
  rfl

theorem course_going_of_ne (state : Crowd Joiner) {joiner other : Joiner}
    (different : other ≠ joiner) (world : World) (course : Course Response)
    (answers : List String) :
    (state.going joiner world course answers).course other = state.course other :=
  Function.update_of_ne different ..

@[simp] theorem going_going (state : Crowd Joiner) (joiner : Joiner) (world later : World)
    (course next : Course Response) (answers more : List String) :
    (state.going joiner world course answers).going joiner later next more =
      state.going joiner later next more := by
  rw [going, going, Function.update_idem]
  rfl

theorem going_self (state : Crowd Joiner) (joiner : Joiner) :
    state.going joiner state.world (state.course joiner) state.answers = state := by
  rw [going, Function.update_eq_self]

/-- One step of one join, of a call on the tokens, or of anything else. A call on the tokens is one
step, since it holds their lock from its first read to its last write. A join may be given up at
any point, and what does not act on the tokens leaves the file of the own token alone. -/
inductive Step (surroundings : Surroundings) : Crowd Joiner → Crowd Joiner → Prop
  | act {state : Crowd Joiner} {joiner : Joiner} {β : Type} {piece : Activity Error β}
      {next : β → Course Response} {result : Except Error β} {after : World}
      (here : state.course joiner = .act piece next)
      (ran : piece.run state.world = (result, after)) :
      Step surroundings state (state.going joiner after (Course.goOn next result) state.answers)
  | own {state : Crowd Joiner} {joiner : Joiner} {next : String → Course Response}
      {result : Except Error String} {after : World}
      (here : state.course joiner = .own next)
      (ran : (callOwn surroundings).run state.world = (result, after)) :
      Step surroundings state (state.going joiner after (Course.goOn next result)
        (state.answers ++ result.toOption.toList))
  | await {state : Crowd Joiner} {joiner : Joiner}
      {next : Membership.Snapshot → Course Response} {snapshot : Membership.Snapshot}
      (here : state.course joiner = .await next)
      (listed : Membership.membersOn state.world.disk = .ok snapshot)
      (moved : snapshot.hasMoved = true) :
      Step surroundings state (state.going joiner state.world (next snapshot) state.answers)
  | giveUp {state : Crowd Joiner} {joiner : Joiner} (error : Error)
      (unfinished : ∀ result, state.course joiner ≠ .done result) :
      Step surroundings state
        (state.going joiner state.world (.done (.error error)) state.answers)
  | call {state : Crowd Joiner} {result : Except Error String} {after : World}
      (ran : (callOwn surroundings).run state.world = (result, after)) :
      Step surroundings state
        { state with
          world := after
          answers := state.answers ++ result.toOption.toList }
  | use {state : Crowd Joiner} {call : Tokens.Call} {result : Except TokenError Unit}
      {after : World} (other : ∀ fresh, call ≠ .own fresh)
      (ran : (onDisk call.perform).run state.world = (result, after)) :
      Step surroundings state { state with world := after }
  | meanwhile {state : Crowd Joiner} {after : World}
      (spares : Spares Layout.callbackToken.names state.world after) :
      Step surroundings state { state with world := after }

/-- No join has begun and nobody has called, and no other process is going to write the file of
the own token. -/
structure Begins (surroundings : Surroundings) (patience : Joiner → Patience)
    (protocol : Joiner → Protocol) (request : Joiner → Request) (state : Crowd Joiner) :
    Prop where
  course : ∀ joiner, state.course joiner =
    .ofJoin surroundings (patience joiner) (protocol joiner) (request joiner)
  answers : state.answers = []
  noneDue : NoneDue Layout.callbackToken.names state.world

/-- No other token than `text` is kept on the disk. -/
def Fits (disk : Disk) (text : String) : Prop :=
  ∀ kept, Tokens.ownToken? disk = some kept → kept = text

/-- Every join of the crowd goes by the token `text`. -/
def GoesBy (state : Crowd Joiner) (text : String) : Prop :=
  ∀ joiner, (state.course joiner).Keeps text fun response => response.callbackToken = text

/-- What holds of a crowd that began on the disk `start`: its answers are the token that is kept,
and the joins go by it. -/
structure Sound (start : Disk) (state : Crowd Joiner) : Prop where
  noneDue : NoneDue Layout.callbackToken.names state.world
  started : ∀ text, Tokens.ownToken? start = some text →
    Tokens.ownToken? state.world.disk = some text
  answers : ∀ answer ∈ state.answers, Tokens.ownToken? state.world.disk = some answer
  goesBy : ∀ text, Fits state.world.disk text → state.GoesBy text

end Crowd

/-! ## Calls on the tokens and the file -/

section Calling

variable {surroundings : Surroundings} {before after : World} {token : String}

theorem callOwn_ran {result : Except Error String}
    (ran : (callOwn surroundings).run before = (result, after)) :
    after.pending = before.pending ∧
      ∃ owned, (Tokens.ownCallback (surroundings.token before.drawn)).run before.disk =
          (owned, after.disk) ∧ result = owned.mapError Error.token := by
  rw [run_callOwn] at ran
  cases ran
  exact ⟨rfl, _, rfl, rfl⟩

theorem noneDue_of_callOwn {names : List String} {result : Except Error String}
    (noneDue : NoneDue names before)
    (ran : (callOwn surroundings).run before = (result, after)) : NoneDue names after := by
  rw [NoneDue, (callOwn_ran ran).1]
  exact noneDue

theorem callOwn_failed {error : Error}
    (ran : (callOwn surroundings).run before = (.error error, after)) :
    tokenFile? after.disk = tokenFile? before.disk := by
  obtain ⟨_, owned, asked, isError⟩ := callOwn_ran ran
  cases owned with
  | ok token => cases isError
  | error cause => exact Tokens.ownCallback_failed asked

/-- A call that succeeds answers with the token that is kept, which is a fresh one if there was
none. -/
theorem callOwn_ok (generated : ∀ index, Tokens.IsGenerated (surroundings.token index))
    (ran : (callOwn surroundings).run before = (.ok token, after)) :
    Tokens.ownToken? after.disk = some token ∧
      ((Tokens.ownToken? before.disk = some token ∧
          tokenFile? after.disk = tokenFile? before.disk) ∨
        Tokens.ownToken? before.disk = none ∧
          tokenFile? after.disk = some (token.toUTF8, true)) := by
  obtain ⟨_, owned, asked, isOk⟩ := callOwn_ran ran
  cases owned with
  | error cause => cases isOk
  | ok answer =>
      cases isOk
      rcases Tokens.ownCallback_cases asked with ⟨kept, file⟩ | ⟨blank, isFresh, file⟩
      · exact ⟨(Tokens.ownToken?_congr file).trans kept, .inl ⟨kept, file⟩⟩
      · rw [← isFresh] at file
        have fresh : Tokens.IsGenerated token := isFresh ▸ generated before.drawn
        exact ⟨Tokens.ownToken?_of_generated fresh file, .inr ⟨blank, file⟩⟩

theorem use_spares {call : Tokens.Call} (other : ∀ fresh, call ≠ .own fresh) :
    Within (Spares Layout.callbackToken.names) (onDisk call.perform) := by
  obtain ⟨touched, apart, changes⟩ := Tokens.perform_within other
  exact onDisk_calm changes (clears_spares apart)

end Calling

namespace Crowd

section Soundness

variable {Joiner : Type} {surroundings : Surroundings} {start : Disk} {state later : Crowd Joiner}

/-- What a step can do: it leaves the file alone, or gives the answer of a call. -/
inductive Effect (surroundings : Surroundings) (state later : Crowd Joiner) : Prop
  | still (answers : later.answers = state.answers)
      (noneDue : NoneDue Layout.callbackToken.names later.world)
      (file : tokenFile? later.world.disk = tokenFile? state.world.disk)
      (goesBy : ∀ text, state.GoesBy text → later.GoesBy text)
  | answered {token : String} (answers : later.answers = state.answers ++ [token])
      (ran : (callOwn surroundings).run state.world = (.ok token, later.world))
      (goesBy : state.GoesBy token → later.GoesBy token)

theorem GoesBy.rest {text : String} (goesBy : state.GoesBy text) {joiner : Joiner}
    {course : Course Response} (here : state.course joiner = course) :
    course.Keeps text fun response => response.callbackToken = text :=
  here ▸ goesBy joiner

/-- Some token is the only one that can be kept on the disk. -/
theorem exists_fits (disk : Disk) :
    ∃ text, Fits disk text ∧ text ≠ "" ∧ Text.Trimmed text.toList := by
  cases kept : Tokens.ownToken? disk with
  | none =>
      have isToken : Tokens.tokenOf? "a" = some "a" := by decide
      refine ⟨"a", fun other isKept => ?_, Tokens.trimmed_of_tokenOf? isToken⟩
      rw [kept] at isKept
      cases isKept
  | some text =>
      exact ⟨text, fun other isKept => Option.some.inj (isKept.symm.trans kept),
        Tokens.trimmed_of_ownToken? kept⟩

theorem Sound.answered {token : String}
    (generated : ∀ index, Tokens.IsGenerated (surroundings.token index))
    (sound : Sound start state) (answers : later.answers = state.answers ++ [token])
    (ran : (callOwn surroundings).run state.world = (.ok token, later.world))
    (goesBy : state.GoesBy token → later.GoesBy token) : Sound start later := by
  obtain ⟨isKept, before⟩ := callOwn_ok generated ran
  have fits : Fits state.world.disk token := by
    intro old isOld
    rcases before with ⟨kept, _⟩ | ⟨blank, _⟩
    · exact Option.some.inj (isOld.symm.trans kept)
    · rw [blank] at isOld
      cases isOld
  have keeps {text : String} (stood : Tokens.ownToken? state.world.disk = some text) :
      Tokens.ownToken? later.world.disk = some text := by
    rw [fits text stood]
    exact isKept
  refine ⟨noneDue_of_callOwn sound.noneDue ran, ?_, ?_, ?_⟩
  · exact fun text isText => keeps (sound.started text isText)
  · intro answer isAnswer
    rw [answers] at isAnswer
    rcases List.mem_append.mp isAnswer with earlier | isNew
    · exact keeps (sound.answers answer earlier)
    · rw [List.mem_singleton.mp isNew]
      exact isKept
  · intro text fitsAfter
    obtain rfl := fitsAfter token isKept
    exact goesBy (sound.goesBy _ fits)

theorem sound_of_begins {patience : Joiner → Patience} {protocol : Joiner → Protocol}
    {request : Joiner → Request} (leave : surroundings.LeaveAlone Layout.callbackToken.names)
    (begins : Begins surroundings patience protocol request state) :
    Sound state.world.disk state := by
  refine ⟨begins.noneDue, fun _ => id, ?_, fun text _ joiner => ?_⟩
  · rw [begins.answers]
    exact fun _ isAnswer => (nomatch isAnswer)
  · rw [begins.course joiner]
    exact Course.ofJoin_keeps leave _ _ _

end Soundness

section Preserving

variable {Joiner : Type} [DecidableEq Joiner] {surroundings : Surroundings} {start : Disk}
  {state later : Crowd Joiner}

theorem GoesBy.goingOn {text : String} (goesBy : state.GoesBy text) {joiner : Joiner}
    {course : Course Response}
    (here : course.Keeps text fun response => response.callbackToken = text) (after : World)
    (answers : List String) : (state.going joiner after course answers).GoesBy text := by
  intro other
  by_cases same : other = joiner
  · subst same
    rw [course_going]
    exact here
  · rw [course_going_of_ne state same]
    exact goesBy other

theorem effect_of_step (sound : Sound start state) (step : Step surroundings state later) :
    Effect surroundings state later := by
  have untouched {after : World} (spares : Spares Layout.callbackToken.names state.world after) :
      NoneDue Layout.callbackToken.names after ∧
        tokenFile? after.disk = tokenFile? state.world.disk :=
    ⟨(spares sound.noneDue).noneDue, (spares sound.noneDue).file⟩
  cases step with
  | @act joiner _ piece next result after here ran =>
      -- Whatever the token is, the course has the same pieces; so any that fits will do.
      obtain ⟨text, fits, _⟩ := exists_fits state.world.disk
      have keeps := (sound.goesBy text fits).rest here
      obtain ⟨noneDue, file⟩ := untouched (keeps.1.reaches ran)
      refine .still rfl noneDue file fun text goesBy => goesBy.goingOn ?_ _ _
      exact Course.Keeps.goOn (goesBy.rest here).2 result
  | @own joiner next result after here ran =>
      cases result with
      | error error =>
          refine .still (List.append_nil _) (noneDue_of_callOwn sound.noneDue ran)
            (callOwn_failed ran) fun text goesBy => ?_
          exact goesBy.goingOn (Course.keeps_refuse error) _ _
      | ok token =>
          exact .answered rfl ran fun goesBy => goesBy.goingOn (goesBy.rest here).own _ _
  | @await joiner next snapshot here listed moved =>
      refine .still rfl sound.noneDue rfl fun text goesBy => ?_
      exact goesBy.goingOn (goesBy.rest here snapshot) _ _
  | giveUp error unfinished =>
      refine .still rfl sound.noneDue rfl fun text goesBy => ?_
      exact goesBy.goingOn (Course.keeps_refuse error) _ _
  | @call result after ran =>
      cases result with
      | error error =>
          exact .still (List.append_nil _) (noneDue_of_callOwn sound.noneDue ran)
            (callOwn_failed ran) fun text goesBy => goesBy
      | ok token => exact .answered rfl ran id
  | use other ran =>
      obtain ⟨noneDue, file⟩ := untouched ((use_spares other).reaches ran)
      exact .still rfl noneDue file fun text goesBy => goesBy
  | meanwhile spares =>
      obtain ⟨noneDue, file⟩ := untouched spares
      exact .still rfl noneDue file fun text goesBy => goesBy

theorem sound_step (generated : ∀ index, Tokens.IsGenerated (surroundings.token index))
    (sound : Sound start state) (step : Step surroundings state later) : Sound start later := by
  cases effect_of_step sound step with
  | still answers noneDue file goesBy =>
      have same : Tokens.ownToken? later.world.disk = Tokens.ownToken? state.world.disk :=
        Tokens.ownToken?_congr file
      refine ⟨noneDue, ?_, ?_, ?_⟩
      · rw [same]
        exact sound.started
      · rw [same, answers]
        exact sound.answers
      · intro text fits
        have fitted : Fits state.world.disk text := fun kept isKept => fits kept (same.trans isKept)
        exact goesBy text (sound.goesBy text fitted)
  | answered answers ran goesBy => exact sound.answered generated answers ran goesBy

/-- The file of the own token changes when a call finds none in it, for the first time and to keep
the answer; every other step leaves it as it is. -/
theorem file_of_step (generated : ∀ index, Tokens.IsGenerated (surroundings.token index))
    (sound : Sound start state) (step : Step surroundings state later) :
    tokenFile? later.world.disk = tokenFile? state.world.disk ∨
      (Tokens.ownToken? state.world.disk = none ∧ state.answers = [] ∧
        ∃ token, later.answers = [token] ∧
          tokenFile? later.world.disk = some (token.toUTF8, true)) := by
  cases effect_of_step sound step with
  | still answers noneDue file goesBy => exact .inl file
  | @answered token answers ran goesBy =>
      obtain ⟨_, ⟨kept, file⟩ | ⟨blank, file⟩⟩ := callOwn_ok generated ran
      · exact .inl file
      · have noneYet : state.answers = [] := by
          apply List.eq_nil_iff_forall_not_mem.mpr
          intro answer isAnswer
          have kept := sound.answers answer isAnswer
          rw [blank] at kept
          cases kept
        rw [noneYet] at answers
        exact .inr ⟨blank, noneYet, token, answers, file⟩

theorem sound_of_run {first last : Crowd Joiner}
    (generated : ∀ index, Tokens.IsGenerated (surroundings.token index))
    (sound : Sound start first) (run : Relation.ReflTransGen (Step surroundings) first last) :
    Sound start last := by
  induction run with
  | refl => exact sound
  | tail _ step inductionHypothesis => exact sound_step generated inductionHypothesis step

/-- The own callback token of a node is `text` from the first state of a run to the last. Calls
return it and joins hand it over, and it is what stood in its file at first unless the file was
blank. The file changes only when a call finds no token in it, the first that succeeds. -/
structure OneToken (surroundings : Surroundings) (first last : Crowd Joiner) (text : String) :
    Prop where
  nonempty : text ≠ ""
  trimmed : Text.Trimmed text.toList
  answers : ∀ answer ∈ last.answers, answer = text
  responses : ∀ joiner response, last.course joiner = .done (.ok response) →
    response.callbackToken = text
  initial : ∀ octets isPrivate content,
    tokenFile? first.world.disk = some (octets, isPrivate) → Utf8.decode octets = .ok content →
      Text.trim content.toList ≠ [] → text.toList = Text.trim content.toList
  file : ∀ later, Step surroundings last later →
    tokenFile? later.world.disk = tokenFile? last.world.disk ∨
      (Tokens.ownToken? last.world.disk = none ∧ last.answers = [] ∧
        ∃ token, later.answers = [token] ∧
          tokenFile? later.world.disk = some (token.toUTF8, true))

/-- A node has one own callback token for life, however its joins and the calls on its tokens come
one after another and whatever is drawn at random. -/
theorem one_token_for_life {patience : Joiner → Patience} {protocol : Joiner → Protocol}
    {request : Joiner → Request} {first last : Crowd Joiner}
    (generated : ∀ index, Tokens.IsGenerated (surroundings.token index))
    (leave : surroundings.LeaveAlone Layout.callbackToken.names)
    (begins : Begins surroundings patience protocol request first)
    (run : Relation.ReflTransGen (Step surroundings) first last) :
    ∃ text, OneToken surroundings first last text := by
  have sound := sound_of_run generated (sound_of_begins leave begins) run
  obtain ⟨text, fits, nonempty, trimmed⟩ := exists_fits last.world.disk
  refine ⟨text, nonempty, trimmed, ?_, ?_, ?_, fun later => file_of_step generated sound⟩
  · exact fun answer isAnswer => fits answer (sound.answers answer isAnswer)
  · exact fun joiner response done => (sound.goesBy text fits).rest done response rfl
  · intro octets isPrivate content stood decoded notBlank
    have kept := Tokens.ownToken?_of_file stood decoded notBlank
    rw [← fits _ (sound.started _ kept), String.toList_ofList]

end Preserving

/-! ## A join that nobody interrupts -/

section Alone

variable {Joiner : Type} [DecidableEq Joiner] {surroundings : Surroundings} {patience : Patience}
  {response : Response} {before after : World}

/-- A course that nobody interrupts is a run of its own. -/
theorem run_of_course {course : Course Response}
    (ran : (course.run surroundings patience).run before = (.ok response, after))
    (state : Crowd Joiner) (joiner : Joiner) (answers : List String) :
    ∃ more, Relation.ReflTransGen (Step surroundings) (state.going joiner before course answers)
      (state.going joiner after (.done (.ok response)) (answers ++ more)) := by
  induction course generalizing before answers with
  | done result =>
      cases ran
      refine ⟨[], ?_⟩
      rw [List.append_nil]
  | act piece next inductionHypothesis =>
      obtain ⟨value, middle, here, ran⟩ := bind_ok ran
      obtain ⟨more, rest⟩ := inductionHypothesis value ran answers
      have step : Step surroundings _ _ :=
        .act (course_going state joiner before (.act piece next) answers) here
      rw [going_going] at step
      exact ⟨more, .head step rest⟩
  | own next inductionHypothesis =>
      obtain ⟨token, middle, here, ran⟩ := bind_ok ran
      obtain ⟨more, rest⟩ := inductionHypothesis token ran (answers ++ [token])
      have step : Step surroundings _ _ :=
        .own (course_going state joiner before (.own next) answers) here
      rw [going_going] at step
      rw [List.append_assoc] at rest
      exact ⟨[token] ++ more, .head step rest⟩
  | await next inductionHypothesis =>
      obtain ⟨snapshot, middle, here, ran⟩ := bind_ok ran
      obtain ⟨more, rest⟩ := inductionHypothesis snapshot ran answers
      obtain ⟨⟨time, rfl⟩, listed, moved⟩ := awaitMove_listed here
      have waiting : Step surroundings (state.going joiner before (.await next) answers)
          (state.going joiner (before.settle time) (.await next) answers) :=
        .meanwhile (spares_settle before time)
      have step : Step surroundings _ _ :=
        .await (course_going state joiner (before.settle time) (.await next) answers) listed moved
      rw [going_going] at step
      exact ⟨more, .head waiting (.head step rest)⟩

/-- What is left of a course runs to its end if nobody interrupts it. -/
theorem run_of_rest {course : Course Response} {state : Crowd Joiner} {joiner : Joiner}
    (here : state.course joiner = course)
    (ran : (course.run surroundings patience).run state.world = (.ok response, after)) :
    ∃ more, Relation.ReflTransGen (Step surroundings) state
      (state.going joiner after (.done (.ok response)) (state.answers ++ more)) := by
  have run := run_of_course ran state joiner state.answers
  rwa [← here, going_self] at run

theorem run_of_join {protocol : Protocol} {request : Request} {state : Crowd Joiner}
    {joiner : Joiner} (here : state.course joiner = .ofJoin surroundings patience protocol request)
    (ran : (join surroundings patience protocol request).run state.world = (.ok response, after)) :
    ∃ more, Relation.ReflTransGen (Step surroundings) state
      (state.going joiner after (.done (.ok response)) (state.answers ++ more)) := by
  rw [← Course.run_ofJoin] at ran
  exact run_of_rest here ran

end Alone

/-! ## Two joins and a call -/

/-- Surroundings whose generator draws one token first and another ever after. -/
def generating : Surroundings :=
  { Rehearsal.quiet with
    token := fun index =>
      Tokens.ofRandom (List.replicate Tokens.length (if index = 0 then 0 else 1)) }

theorem generating_generates (index : Nat) : Tokens.IsGenerated (generating.token index) := by
  refine ⟨_, rfl, ?_⟩
  dsimp only [generating]
  split
  · decide
  · decide

theorem generating_leaveAlone : generating.LeaveAlone Layout.callbackToken.names := by
  have leave : Rehearsal.quiet.LeaveAlone Layout.callbackToken.names :=
    Surroundings.rehearsal_leaveAlone (by decide) _ _
  exact ⟨leave.restart, leave.apply, leave.listNodes⟩

/-- Two workers that join, one of which begins before the other and ends after it. -/
inductive Newcomer
  | slow
  | quick
  deriving DecidableEq, Repr

def requestWith (token remote : String) : Request where
  token := token
  hostname := ""
  port := 25000
  worker := true
  callbackToken := none
  contacted := "10.0.0.1:25000"
  remote := remote

def requestOf : Newcomer → Request
  | .slow => requestWith "abc" "10.0.0.2"
  | .quick => requestWith "def" "10.0.0.3"

/-- The file of the own token holds nothing but blanks. -/
def opening : Crowd Newcomer where
  world :=
    { disk :=
        { Disk.empty "/data" with
          entries :=
            [(["credentials"], .directory),
              (["credentials", "cluster-tokens.txt"], .file "abc\ndef\n".toUTF8 true),
              (Layout.callbackToken.names, .file " \n".toUTF8 true),
              (["certs"], .directory), (["certs", "ca.crt"], .file "CA CERT".toUTF8 false),
              (["args"], .directory), (["args", "kubelet"], .file "--v=2".toUTF8 false)] }
      clock := 1000
      pending := []
      calls := []
      drawn := 0
      shutdownAt := none }
  course := fun joiner => .ofJoin generating .endless .legacy (requestOf joiner)
  answers := []

theorem opening_begins :
    Begins generating (fun _ => .endless) (fun _ => .legacy) requestOf opening :=
  ⟨fun _ => rfl, rfl, fun _ member => absurd member List.not_mem_nil⟩

def welcome (joiner : Newcomer) : Response where
  authority := "CA CERT"
  callbackToken := generating.token 0
  apiPort := "16443"
  authorizationMode := "AlwaysAllow"
  kubeletFlags := "--v=2"
  hostnameOverride := some (requestOf joiner).remote
  credentials := .worker ["10.0.0.1"]

/-- The slow join has spent its token. -/
def afterSpending : World :=
  ((Course.spend (requestOf .slow)).run opening.world).2

/-- The quick join has come and gone. -/
def afterQuick : World :=
  ((join generating .endless .legacy (requestOf .quick)).run afterSpending).2

/-- The slow join has gone on to its end. -/
def afterSlow : World :=
  ((grant generating .endless .legacy (requestOf .slow)).run afterQuick).2

def spent : Crowd Newcomer :=
  opening.going .slow afterSpending (.granting generating .endless .legacy (requestOf .slow)) []

theorem opening_to_spent : Step generating opening spent := by
  have accepted : (Course.spend (requestOf .slow)).run opening.world = (.ok true, afterSpending) :=
    run_of_toOption (by decide +kernel)
  exact .act rfl accepted

/-- The quick join is done, and the slow one has yet to go on. -/
theorem exists_afterQuick : ∃ state : Crowd Newcomer,
    Relation.ReflTransGen (Step generating) opening state ∧ state.world = afterQuick ∧
      state.course .quick = .done (.ok (welcome .quick)) ∧
        state.course .slow = .granting generating .endless .legacy (requestOf .slow) := by
  have joined : (join generating .endless .legacy (requestOf .quick)).run spent.world =
      (.ok (welcome .quick), afterQuick) := by
    rw [spent, world_going]
    exact run_of_toOption (by decide +kernel)
  have fresh : spent.course .quick = .ofJoin generating .endless .legacy (requestOf .quick) := rfl
  obtain ⟨more, run⟩ := run_of_join fresh joined
  refine ⟨_, .head opening_to_spent run, world_going .., course_going .., ?_⟩
  rw [course_going_of_ne spent (by decide), spent, course_going]

/-- Once both joins are done, somebody calls for the token. -/
theorem exists_closing : ∃ last : Crowd Newcomer,
    Relation.ReflTransGen (Step generating) opening last ∧
      (∀ joiner, last.course joiner = .done (.ok (welcome joiner))) ∧ last.answers ≠ [] := by
  obtain ⟨state, run, world, done, waiting⟩ := exists_afterQuick
  have granted : ((Course.granting generating .endless .legacy (requestOf .slow)).run generating
      .endless).run state.world = (.ok (welcome .slow), afterSlow) := by
    rw [world, Course.run_granting]
    exact run_of_toOption (by decide +kernel)
  obtain ⟨more, goesOn⟩ := run_of_rest waiting granted
  have called : (callOwn generating).run
      (state.going .slow afterSlow (.done (.ok (welcome .slow))) (state.answers ++ more)).world =
        (.ok (generating.token 0), ((callOwn generating).run afterSlow).2) := by
    rw [world_going]
    exact run_of_toOption (by decide +kernel)
  refine ⟨_, (run.trans goesOn).tail (.call called), ?_, ?_⟩
  · intro joiner
    cases joiner with
    | slow => exact course_going ..
    | quick => exact (course_going_of_ne state (by decide) ..).trans done
  · exact List.append_ne_nil_of_right_ne_nil _ (List.cons_ne_nil _ _)

/-- Both joins hand over the token that was drawn first, and the call returns it. -/
theorem newcomers_share_token : ∃ last : Crowd Newcomer,
    (∀ joiner, last.course joiner = .done (.ok (welcome joiner))) ∧ last.answers ≠ [] ∧
      OneToken generating opening last (generating.token 0) := by
  obtain ⟨last, run, done, answered⟩ := exists_closing
  obtain ⟨text, oneToken⟩ :=
    one_token_for_life generating_generates generating_leaveAlone opening_begins run
  obtain rfl : generating.token 0 = text := oneToken.responses .slow _ (done .slow)
  exact ⟨last, done, answered, oneToken⟩

end Crowd
end Join
end ClusterAgent
