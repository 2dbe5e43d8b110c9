import Mathlib.Algebra.Order.Floor.Div
import ClusterAgent.Proofs.Membership.Store
namespace ClusterAgent
namespace Membership
namespace Wait

/-! ## The times of the reads -/

/-- The times at which a wait reads if nothing ends it before: after every interval, and once
more when the time is up. -/
def polls (interval timeout : Nat) : List Nat :=
  (List.range (timeout ⌈/⌉ interval)).map (· * interval) ++ [timeout]

/-- The time of one read, where the last pause may be shorter than the others. -/
def moment (interval timeout count : Nat) : Nat :=
  min (count * interval) timeout

/-- The reads from the one with the number `first` on. -/
def pollsFrom (interval timeout first count : Nat) : List Nat :=
  (List.range' first count).map (moment interval timeout)

section Times

variable {interval timeout count first : Nat}

theorem lt_ceilDiv_iff (positive : 0 < interval) :
    count < timeout ⌈/⌉ interval ↔ count * interval < timeout := by
  rw [← not_le, ← not_le, ceilDiv_le_iff_le_mul positive, Nat.mul_comm]

theorem moment_of_lt (positive : 0 < interval) (early : count < timeout ⌈/⌉ interval) :
    moment interval timeout count = count * interval :=
  Nat.min_eq_left ((lt_ceilDiv_iff positive).mp early).le

theorem moment_of_le (positive : 0 < interval) (late : timeout ⌈/⌉ interval ≤ count) :
    moment interval timeout count = timeout := by
  apply Nat.min_eq_right
  rw [Nat.mul_comm]
  exact (ceilDiv_le_iff_le_mul positive).mp late

theorem moment_lt (positive : 0 < interval) (early : count < timeout ⌈/⌉ interval) :
    moment interval timeout count < timeout := by
  rw [moment_of_lt positive early]
  exact (lt_ceilDiv_iff positive).mp early

theorem moment_mono (interval timeout : Nat) : Monotone (moment interval timeout) := by
  intro first second earlier
  exact min_le_min_right timeout (Nat.mul_le_mul_right interval earlier)

/-- One pause leads from a read to the next. -/
theorem moment_succ (positive : 0 < interval) (early : count < timeout ⌈/⌉ interval) :
    moment interval timeout count +
        min (max interval 1) (timeout - moment interval timeout count) =
      moment interval timeout (count + 1) := by
  have before := (lt_ceilDiv_iff positive).mp early
  rw [moment_of_lt positive early, moment, Nat.add_mul, Nat.one_mul]
  omega

theorem moment_lt_succ (positive : 0 < interval) (early : count < timeout ⌈/⌉ interval) :
    moment interval timeout count < moment interval timeout (count + 1) := by
  have before := moment_lt positive early
  rw [← moment_succ positive early]
  omega

theorem polls_eq (positive : 0 < interval) :
    polls interval timeout =
      pollsFrom interval timeout 0 (timeout ⌈/⌉ interval + 1) := by
  rw [polls, pollsFrom, ← List.range_eq_range', List.range_succ, List.map_append,
    List.map_singleton, moment_of_le positive le_rfl]
  congr 1
  apply List.map_congr_left
  intro count member
  exact (moment_of_lt positive (List.mem_range.mp member)).symm

theorem length_polls (interval timeout : Nat) :
    (polls interval timeout).length = timeout ⌈/⌉ interval + 1 := by
  simp [polls]

theorem pollsFrom_succ (interval timeout first count : Nat) :
    pollsFrom interval timeout first (count + 1) =
      moment interval timeout first :: pollsFrom interval timeout (first + 1) count := by
  rw [pollsFrom, List.range'_succ, List.map_cons, pollsFrom]

theorem le_of_mem_pollsFrom {time : Nat} (member : time ∈ pollsFrom interval timeout first count) :
    moment interval timeout first ≤ time := by
  obtain ⟨later, inRange, rfl⟩ := List.mem_map.mp member
  exact moment_mono interval timeout (List.mem_range'_1.mp inRange).1

end Times

/-! ## How a wait ends -/

/-- A read at this time gives a snapshot that is waited for. -/
def Shows (history : History) (wanted : Snapshot → Bool) (time : Nat) (snapshot : Snapshot) :
    Prop :=
  history time = .ok snapshot ∧ wanted snapshot = true

/-- How a wait ends that reads at these times: as it is cancelled at its start or between two
reads, with the first read that gives what is waited for, or when its time is up. A read that
fails is one that does not give it. -/
inductive Ends (history : History) (wanted : Snapshot → Bool) (times : List Nat) (timeout : Nat)
    (cancelAt : Option Nat) : Result → Prop
  | atEntry (cancels : cancelAt = some 0) :
      Ends history wanted times timeout cancelAt ⟨.cancelled, 0, []⟩
  | converged {time : Nat} {snapshot : Snapshot} (scheduled : time ∈ times)
      (shown : Shows history wanted time snapshot)
      (first : ∀ earlier ∈ times, earlier < time → ∀ other, ¬Shows history wanted earlier other)
      (inTime : ∀ cancelled ∈ cancelAt, time < cancelled) :
      Ends history wanted times timeout cancelAt
        ⟨.converged snapshot, time, times.filter (· ≤ time)⟩
  | cancelled {time : Nat} (cancels : cancelAt = some time) (inTime : time < timeout)
      (notYet : ∀ earlier ∈ times, earlier < time → ∀ other, ¬Shows history wanted earlier other) :
      Ends history wanted times timeout cancelAt ⟨.cancelled, time, times.filter (· < time)⟩
  | timedOut (never : ∀ time ∈ times, ∀ snapshot, ¬Shows history wanted time snapshot)
      (uncancelled : ∀ time ∈ cancelAt, timeout < time) :
      Ends history wanted times timeout cancelAt ⟨.timedOut, timeout, times⟩

section Ending

variable {history : History} {wanted : Snapshot → Bool} {times : List Nat}
  {interval timeout time : Nat} {cancelAt : Option Nat} {snapshot : Snapshot} {result : Result}

theorem wanted?_eq_some_iff :
    wanted? history wanted time = some snapshot ↔ Shows history wanted time snapshot := by
  constructor
  · exact wanted?_eq_some
  · rintro ⟨read, isWanted⟩
    rw [wanted?, read]
    exact if_pos isWanted

theorem not_shows_of_wanted? (missing : wanted? history wanted time = none)
    (snapshot : Snapshot) : ¬Shows history wanted time snapshot := by
  intro shown
  rw [wanted?_eq_some_iff.mpr shown] at missing
  cases missing

/-- A read that gives nothing comes before the others. -/
theorem Ends.cons (ends : Ends history wanted times timeout cancelAt result)
    (later : ∀ other ∈ times, time < other) (inTime : time ≤ timeout)
    (missing : ∀ snapshot, ¬Shows history wanted time snapshot)
    (uncancelled : ∀ cancelled ∈ cancelAt, time < cancelled) :
    Ends history wanted (time :: times) timeout cancelAt
      { result with reads := time :: result.reads } := by
  cases ends with
  | atEntry cancels => exact absurd (uncancelled 0 cancels) (Nat.not_lt_zero time)
  | @converged last snapshot scheduled shown first before =>
      have earlier := later last scheduled
      have reads : (time :: times).filter (· ≤ last) = time :: times.filter (· ≤ last) :=
        List.filter_cons_of_pos (by simpa using earlier.le)
      rw [← reads]
      apply Ends.converged (List.mem_cons_of_mem time scheduled) shown _ before
      intro other member isEarlier
      rcases List.mem_cons.mp member with rfl | member
      · exact missing
      · exact first other member isEarlier
  | @cancelled last cancels before notYet =>
      have earlier := uncancelled last cancels
      have reads : (time :: times).filter (· < last) = time :: times.filter (· < last) :=
        List.filter_cons_of_pos (by simpa using earlier)
      rw [← reads]
      apply Ends.cancelled cancels before
      intro other member isEarlier
      rcases List.mem_cons.mp member with rfl | member
      · exact missing
      · exact notYet other member isEarlier
  | timedOut never late =>
      apply Ends.timedOut _ late
      intro other member
      rcases List.mem_cons.mp member with rfl | member
      · exact missing
      · exact never other member

/-- The first read gives what is waited for. -/
theorem Ends.atOnce (later : ∀ other ∈ times, time < other)
    (shown : Shows history wanted time snapshot)
    (uncancelled : ∀ cancelled ∈ cancelAt, time < cancelled) :
    Ends history wanted (time :: times) timeout cancelAt
      ⟨.converged snapshot, time, [time]⟩ := by
  have reads : (time :: times).filter (· ≤ time) = [time] := by
    rw [List.filter_cons_of_pos (by simp)]
    congr 1
    rw [List.filter_eq_nil_iff]
    intro other member
    simpa using later other member
  rw [← reads]
  apply Ends.converged List.mem_cons_self shown _ uncancelled
  intro other member isEarlier
  rcases List.mem_cons.mp member with rfl | member
  · exact absurd isEarlier (lt_irrefl other)
  · exact absurd isEarlier (later other member).not_gt

/-- The wait is cancelled between its first read and the next. -/
theorem Ends.cutShort {cancelled : Nat} (cancels : cancelAt = some cancelled)
    (earlier : time < cancelled) (later : ∀ other ∈ times, cancelled < other)
    (inTime : cancelled < timeout) (missing : ∀ snapshot, ¬Shows history wanted time snapshot) :
    Ends history wanted (time :: times) timeout cancelAt ⟨.cancelled, cancelled, [time]⟩ := by
  have reads : (time :: times).filter (· < cancelled) = [time] := by
    rw [List.filter_cons_of_pos (by simpa using earlier)]
    congr 1
    rw [List.filter_eq_nil_iff]
    intro other member
    simpa using (later other member).le
  rw [← reads]
  apply Ends.cancelled cancels inTime
  intro other member isEarlier
  rcases List.mem_cons.mp member with rfl | member
  · exact missing
  · exact absurd isEarlier (later other member).not_gt

/-- What is left of a wait ends as its remaining reads say. -/
theorem ends_of_pollFrom (positive : 0 < interval) {first count : Nat}
    (last : first + count = timeout ⌈/⌉ interval)
    (uncancelled : ∀ cancelled ∈ cancelAt, moment interval timeout first < cancelled)
    (apart : ∀ cancelled ∈ cancelAt, cancelled ∉ pollsFrom interval timeout first (count + 1)) :
    Ends history wanted (pollsFrom interval timeout first (count + 1)) timeout cancelAt
      (pollFrom history wanted interval timeout cancelAt (moment interval timeout first)) := by
  -- The induction is on the number of reads that may follow the next one.
  induction count generalizing first with
  | zero =>
      have isLast : moment interval timeout first = timeout :=
        moment_of_le positive (by omega)
      have only : pollsFrom interval timeout first (0 + 1) = [timeout] := by
        rw [pollsFrom_succ, isLast]
        rfl
      rw [isLast] at uncancelled ⊢
      rw [only, pollFrom]
      split
      · rename_i snapshot found
        exact Ends.atOnce (by simp) (wanted?_eq_some_iff.mp found) uncancelled
      · rename_i missing
        rw [if_pos le_rfl]
        apply Ends.timedOut _ uncancelled
        intro time member
        rw [List.mem_singleton.mp member]
        exact not_shows_of_wanted? missing
  | succ count inductionHypothesis =>
      have early : first < timeout ⌈/⌉ interval := by omega
      have inTime := moment_lt positive early
      have next := moment_lt_succ positive early
      have later : ∀ other ∈ pollsFrom interval timeout (first + 1) (count + 1),
          moment interval timeout (first + 1) ≤ other :=
        fun other member => le_of_mem_pollsFrom member
      rw [pollsFrom_succ] at apart ⊢
      rw [pollFrom]
      split
      · rename_i snapshot found
        exact Ends.atOnce (fun other member => next.trans_le (later other member))
          (wanted?_eq_some_iff.mp found) uncancelled
      · rename_i missing
        have notShown := not_shows_of_wanted? missing
        rw [if_neg (by omega), moment_succ positive early]
        dsimp only
        split
        · rename_i time cancels
          obtain ⟨isCancel, bound⟩ := Option.filter_eq_some_iff.mp cancels
          have after := uncancelled time isCancel
          have notNext : time ≠ moment interval timeout (first + 1) := by
            rintro rfl
            apply apart _ isCancel
            rw [pollsFrom_succ]
            simp
          have before : time < moment interval timeout (first + 1) :=
            lt_of_le_of_ne (by simpa using bound) notNext
          rw [Nat.max_eq_right after.le]
          apply Ends.cutShort isCancel after _ _ notShown
          · exact fun other member => before.trans_le (later other member)
          · exact before.trans_le (Nat.min_le_right _ _)
        · rename_i goesOn
          have uncancelledNext : ∀ cancelled ∈ cancelAt,
              moment interval timeout (first + 1) < cancelled := by
            intro cancelled isCancel
            by_contra bound
            apply Option.some_ne_none cancelled
            rw [← goesOn, eq_comm, Option.filter_eq_some_iff]
            exact ⟨isCancel, by simpa using bound⟩
          have ends := inductionHypothesis (by omega) uncancelledNext
            fun cancelled isCancel member =>
              apart cancelled isCancel (List.mem_cons_of_mem _ member)
          exact ends.cons (fun other member => next.trans_le (later other member)) inTime.le
            notShown uncancelled

/-- A wait can end in one way only. -/
theorem Ends.unique {other : Result} (ends : Ends history wanted times timeout cancelAt result)
    (also : Ends history wanted times timeout cancelAt other) : result = other := by
  cases ends with
  | atEntry cancels =>
      cases also with
      | atEntry => rfl
      | converged _ _ _ inTime => exact absurd (inTime 0 cancels) (Nat.not_lt_zero _)
      | cancelled cancelsToo =>
          cases cancels.symm.trans cancelsToo
          simp
      | timedOut _ uncancelled => exact absurd (uncancelled 0 cancels) (Nat.not_lt_zero _)
  | @converged time snapshot scheduled shown first inTime =>
      cases also with
      | atEntry cancels => exact absurd (inTime 0 cancels) (Nat.not_lt_zero _)
      | @converged timeToo snapshotToo scheduledToo shownToo firstToo =>
          rcases lt_trichotomy time timeToo with earlier | rfl | later
          · exact absurd shown (firstToo time scheduled earlier snapshot)
          · cases shown.1.symm.trans shownToo.1
            rfl
          · exact absurd shownToo (first timeToo scheduledToo later snapshotToo)
      | cancelled cancels _ notYet =>
          exact absurd shown (notYet time scheduled (inTime _ cancels) snapshot)
      | timedOut never => exact absurd shown (never time scheduled snapshot)
  | @cancelled time cancels inTime notYet =>
      cases also with
      | atEntry cancelsToo =>
          cases cancels.symm.trans cancelsToo
          simp
      | @converged timeToo snapshot scheduled shown _ before =>
          exact absurd shown (notYet timeToo scheduled (before _ cancels) snapshot)
      | cancelled cancelsToo =>
          cases cancels.symm.trans cancelsToo
          rfl
      | timedOut _ uncancelled => exact absurd (uncancelled _ cancels) inTime.not_gt
  | timedOut never uncancelled =>
      cases also with
      | atEntry cancels => exact absurd (uncancelled 0 cancels) (Nat.not_lt_zero _)
      | @converged time snapshot scheduled shown => exact absurd shown (never time scheduled _)
      | cancelled cancels inTime => exact absurd (uncancelled _ cancels) inTime.not_gt
      | timedOut => rfl

theorem ends_of_poll (positive : 0 < interval)
    (apart : ∀ cancelled ∈ cancelAt, cancelled ≠ 0 → cancelled ∉ polls interval timeout) :
    Ends history wanted (polls interval timeout) timeout cancelAt
      (poll history wanted interval timeout cancelAt) := by
  rw [poll]
  split
  · rename_i atStart
    exact .atEntry atStart
  · rename_i notAtStart
    have started : moment interval timeout 0 = 0 := by simp [moment]
    have later : ∀ cancelled ∈ cancelAt, cancelled ≠ 0 := by
      rintro cancelled isCancel rfl
      exact notAtStart isCancel
    rw [polls_eq positive] at apart ⊢
    have ends : Ends history wanted (pollsFrom interval timeout 0 (timeout ⌈/⌉ interval + 1))
        timeout cancelAt
        (pollFrom history wanted interval timeout cancelAt (moment interval timeout 0)) := by
      apply ends_of_pollFrom positive (Nat.zero_add _)
      · intro cancelled isCancel
        rw [started]
        exact Nat.pos_of_ne_zero (later cancelled isCancel)
      · exact fun cancelled isCancel => apart cancelled isCancel (later cancelled isCancel)
    rwa [started] at ends

/-- A wait reads at its times and at no others. -/
theorem Ends.reads_sublist (ends : Ends history wanted times timeout cancelAt result) :
    result.reads.Sublist times := by
  cases ends with
  | atEntry => exact List.nil_sublist _
  | converged => exact List.filter_sublist
  | cancelled => exact List.filter_sublist
  | timedOut => exact List.Sublist.refl _

theorem Ends.error (ends : Ends history wanted times timeout cancelAt result)
    {error : MembershipError} (failed : result.answer = .error error) :
    error = .cancelled ∨ error = .timeout timeout := by
  cases ends with
  | atEntry => exact Or.inl (Except.error.inj failed).symm
  | converged => cases failed
  | cancelled => exact Or.inl (Except.error.inj failed).symm
  | timedOut => exact Or.inr (Except.error.inj failed).symm

/-- A wait is exact and bounded: whatever the membership file holds over time, the wait reads
after every interval and when its time is up, at most so often, and it ends as these reads and the
time of a cancellation say. Reads that fail never end it. A wait on a node reads the membership
file so, and the clock shows the end of the wait afterwards. -/
theorem wait_ends_exactly (positive : 0 < interval)
    (apart : ∀ cancelled ∈ cancelAt, cancelled ≠ 0 → cancelled ∉ polls interval timeout) :
    (poll history wanted interval timeout cancelAt = result ↔
        Ends history wanted (polls interval timeout) timeout cancelAt result) ∧
      (poll history wanted interval timeout cancelAt).reads.Sublist (polls interval timeout) ∧
      (poll history wanted interval timeout cancelAt).reads.length ≤
          timeout ⌈/⌉ interval + 1 ∧
      (∀ error, (poll history wanted interval timeout cancelAt).answer = .error error →
        error = .cancelled ∨ error = .timeout timeout) ∧
      ∀ (surroundings : Surroundings) (stop : Option Nat) (world : World),
        surroundings.pollInterval = interval → surroundings.waitTimeout = timeout →
        historyFrom world = history → stop.map (timeUntil world) = cancelAt →
          (waitUntil surroundings stop wanted).run world =
            ((poll history wanted interval timeout cancelAt).answer,
              world.settle (world.clock +
                (poll history wanted interval timeout cancelAt).elapsed)) := by
  have ends : Ends history wanted (polls interval timeout) timeout cancelAt
      (poll history wanted interval timeout cancelAt) := ends_of_poll positive apart
  refine ⟨⟨?_, ends.unique⟩, ends.reads_sublist, ?_, fun error failed => ends.error failed, ?_⟩
  · rintro rfl
    exact ends
  · rw [← length_polls]
    exact ends.reads_sublist.length_le
  · rintro surroundings stop world rfl rfl rfl rfl
    rfl

end Ending

/-! ## A store that moves in the last interval -/

def lateMember : Member :=
  ⟨"10.0.0.1:19001", 1, .voter⟩

/-- A file that cannot be read at first, then lists nothing, and the store at last. -/
def lateHistory : History := fun time =>
  if time < 5 then .error (.parse "cluster.yaml")
  else if time < 11 then .ok ⟨[]⟩
  else .ok ⟨[lateMember]⟩

theorem lateHistory_read_at_last :
    0 < 5 ∧ (∀ cancelled ∈ some 14, cancelled ≠ 0 → cancelled ∉ polls 5 12) ∧
      poll lateHistory Snapshot.hasMoved 5 12 (some 14) =
        ⟨.converged ⟨[lateMember]⟩, 12, [0, 5, 10, 12]⟩ := by
  have apart : ∀ cancelled ∈ some 14, cancelled ≠ 0 → cancelled ∉ polls 5 12 := by decide
  refine ⟨by decide, apart, (wait_ends_exactly (by decide) apart).1.mpr ?_⟩
  have reads : [0, 5, 10, 12] = (polls 5 12).filter (· ≤ 12) := by decide
  rw [reads]
  apply Ends.converged (by decide) ⟨rfl, by decide +kernel⟩
  · rintro earlier member isEarlier other ⟨read, moved⟩
    have scheduled : earlier ∈ [0, 5, 10, 12] := member
    simp only [List.mem_cons, List.not_mem_nil, or_false] at scheduled
    rcases scheduled with rfl | rfl | rfl | rfl
    · cases read
    · cases read
      cases moved
    · cases read
      cases moved
    · exact absurd isEarlier (lt_irrefl 12)
  · decide

end Wait
end Membership
end ClusterAgent
