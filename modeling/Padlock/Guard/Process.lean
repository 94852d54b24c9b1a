/-
This file puts the guard into a system where processes come and go. An entry
keeps the number of a thread group, not a process, and the guard is not told
when a process exits: its device has no callback but the ioctl. So a session
belongs to the number. It outlives the process that began it, and the next
process under the same number has it.
-/

import Padlock.Guard.Session

namespace Padlock.Guard

/-! ### Processes -/

/-- The guard, and the processes in the order of their creation: the number of each that runs. -/
structure System where
  guard : State
  processes : List (Option Tgid)

/-- What happens in the system. -/
inductive Happening where
  | spawn (tgid : Tgid)
  | exit (process : Nat)
  | call (process : Nat) (call : Call)

namespace System

variable (hash : UInt64 → Bucket)

def start : System where
  guard := State.initial
  processes := []

/-- A process runs under a number. -/
def Runs (system : System) (process : Nat) (tgid : Tgid) : Prop :=
  system.processes[process]? = some (some tgid)

instance (system : System) (process : Nat) (tgid : Tgid) :
    Decidable (system.Runs process tgid) :=
  inferInstanceAs (Decidable (_ = _))

/-- One happening. A number goes to a new process only when no running process has it; a process
exits or calls only while it runs, and calls under its number. -/
def step (system : System) : Happening → Option System
  | .spawn tgid =>
    if some tgid ∈ system.processes then none
    else some { system with processes := system.processes ++ [some tgid] }
  | .exit process =>
    if (system.processes[process]?.join).isSome then
      some { system with processes := system.processes.set process none }
    else none
  | .call process call =>
    if system.Runs process call.current then
      some { system with guard := (ioctl hash system.guard call).2 }
    else none

/-- The system after some happenings; `none` when they cannot happen in this order. -/
def run (happenings : List Happening) : Option System :=
  happenings.foldlM (step hash) start

end System

/-- The calls among happenings. -/
def calls : List Happening → List Call
  | [] => []
  | .call _ call :: rest => call :: calls rest
  | .spawn _ :: rest => calls rest
  | .exit _ :: rest => calls rest

theorem calls_append (front back : List Happening) :
    calls (front ++ back) = calls front ++ calls back := by
  induction front with
  | nil => rfl
  | cons happening rest inductionHypothesis =>
    cases happening with
    | spawn tgid => exact inductionHypothesis
    | exit process => exact inductionHypothesis
    | call process call => exact congrArg (call :: ·) inductionHypothesis

/-- A call among happenings is one of them. -/
theorem calls_eq_append {happenings : List Happening} {before between : List Call} {first : Call}
    (split : calls happenings = before ++ first :: between) :
    ∃ early process late, happenings = early ++ .call process first :: late ∧
      calls early = before ∧ calls late = between := by
  induction happenings generalizing before with
  | nil => cases (List.append_eq_nil_iff.mp split.symm).2
  | cons happening rest inductionHypothesis =>
    cases happening with
    | spawn tgid =>
      obtain ⟨early, process, late, rfl, same, others⟩ := inductionHypothesis split
      exact ⟨.spawn tgid :: early, process, late, rfl, same, others⟩
    | exit exited =>
      obtain ⟨early, process, late, rfl, same, others⟩ := inductionHypothesis split
      exact ⟨.exit exited :: early, process, late, rfl, same, others⟩
    | call caller call =>
      cases before with
      | nil =>
        obtain ⟨rfl, others⟩ := List.cons.inj split
        exact ⟨[], caller, rest, rfl, rfl, others⟩
      | cons earlier before =>
        obtain ⟨rfl, remaining⟩ := List.cons.inj split
        obtain ⟨early, process, late, rfl, same, others⟩ := inductionHypothesis remaining
        exact ⟨.call caller call :: early, process, late, rfl, congrArg (call :: ·) same, others⟩

/-- Processes come and go without the guard. -/
theorem guard_step {hash : UInt64 → Bucket} {system next : System} {happening : Happening}
    (stepped : system.step hash happening = some next) :
    next.guard = (Machine.run (ioctl hash) system.guard (calls [happening])).2 := by
  cases happening with
  | spawn tgid =>
    rw [System.step] at stepped
    split at stepped
    · cases stepped
    · obtain rfl := Option.some.inj stepped
      rfl
  | exit process =>
    rw [System.step] at stepped
    split at stepped
    · obtain rfl := Option.some.inj stepped
      rfl
    · cases stepped
  | call process call =>
    rw [System.step] at stepped
    split at stepped
    · obtain rfl := Option.some.inj stepped
      rfl
    · cases stepped

theorem guard_foldlM {hash : UInt64 → Bucket} {system final : System}
    {happenings : List Happening}
    (ran : happenings.foldlM (System.step hash) system = some final) :
    final.guard = (Machine.run (ioctl hash) system.guard (calls happenings)).2 := by
  induction happenings generalizing system with
  | nil =>
    obtain rfl := Option.some.inj ran
    rfl
  | cons happening rest inductionHypothesis =>
    rw [List.foldlM_cons, Option.bind_eq_bind, Option.bind_eq_some_iff] at ran
    obtain ⟨next, stepped, later⟩ := ran
    have split : calls (happening :: rest) = calls [happening] ++ calls rest :=
      calls_append [happening] rest
    rw [inductionHypothesis later, guard_step stepped, split, Machine.run_append]

/-- The guard of a system is the guard after its calls. -/
theorem guard_eq_stateAfter {hash : UInt64 → Bucket} {happenings : List Happening}
    {system : System} (ran : System.run hash happenings = some system) :
    system.guard = stateAfter hash (calls happenings) :=
  guard_foldlM ran

/-! ### Sessions belong to numbers -/

/-- A process has begun a session on an inode under a number, and no event since has ended it. -/
def OpenSession (hash : UInt64 → Bucket) (happenings : List Happening) (inode : Inode)
    (process : Nat) (tgid : Tgid) : Prop :=
  ∃ early call late token, happenings = early ++ .call process call :: late ∧
    begunToken tgid inode (call, replyTo hash (calls early) call) = some token ∧
    ¬ SessionEnds tgid inode token (eventsAfter hash (calls early ++ [call]) (calls late))

section Numbers

variable {hash : UInt64 → Bucket} {inode : Inode} {tgid : Tgid}

/-- An event at the end of others ends a session, or one of the others has. -/
theorem sessionEnds_concat {token : UInt64} {events : List Event} {event : Event}
    (ends : SessionEnds tgid inode token (events ++ [event])) :
    SessionEnds tgid inode token events ∨ Registers inode event ∨
      ∃ last, Ends tgid inode last event := by
  induction events generalizing token with
  | nil =>
    obtain ended | registered | impossible := ends
    · exact .inr (.inr ⟨token, ended⟩)
    · exact .inr (.inl registered)
    · cases impossible
  | cons first rest inductionHypothesis =>
    obtain ended | registered | later := ends
    · exact .inl (.inl ended)
    · exact .inl (.inr (.inl registered))
    · obtain earlier | atLast := inductionHypothesis later
      · exact .inl (.inr (.inr earlier))
      · exact .inr atLast

/-- Every session of a run was begun by a call that succeeded, and has not been ended since. -/
theorem begun_of_session (hash : UInt64 → Bucket) {all : List Call}
    (copies : CopiesBack hash [] tgid inode all)
    {latest : UInt64} (session : (registryAfter all).session inode = some (tgid, latest)) :
    ∃ before first between token, all = before ++ first :: between ∧
      begunToken tgid inode (first, replyTo hash before first) = some token ∧
      ¬ SessionEnds tgid inode token (eventsAfter hash (before ++ [first]) between) := by
  induction all using List.reverseRecOn generalizing latest with
  | nil => cases session
  | append_singleton earlier call inductionHypothesis =>
    rw [registryAfter_concat] at session
    cases effect (registryAfter earlier) call inode with
    | registration names command after reply =>
      rw [after] at session
      cases session
    | ended request names command received owned after reply =>
      rw [after] at session
      cases session
    | begun request granted after reply =>
      rw [after, Option.some.injEq, Prod.mk.injEq] at session
      rw [copies earlier call [] rfl session.1 (granted_of_grants granted), if_pos rfl] at reply
      refine ⟨earlier, call, [], call.token, rfl, ?_, not_false⟩
      rw [replyTo_eq, reply, begunToken, if_pos ⟨session.1, granted.command, granted.names, rfl⟩]
      rfl
    | idle after refused =>
      rw [Registry.session, after] at session
      have copiesEarlier : CopiesBack hash [] tgid inode earlier := by
        intro early other late parts
        refine copies early other (late ++ [call]) ?_
        rw [parts, List.append_assoc, List.cons_append]
      obtain ⟨before, first, between, token, rfl, begun, lasts⟩ :=
        inductionHypothesis copiesEarlier session
      refine ⟨before, first, between ++ [call], token, ?_, begun, fun ends => ?_⟩
      · rw [List.append_assoc, List.cons_append]
      · rw [eventsAfter_concat] at ends
        obtain earlier | ⟨command, names, succeeded⟩ | ⟨last, -, command, names, -, succeeded⟩ :=
          sessionEnds_concat ends
        · exact lasts earlier
        · rw [List.append_assoc, List.singleton_append, replyTo_eq] at succeeded
          refine refused names ?_ succeeded
          obtain isRegister | isUnregister := command
          · rw [isRegister]
            decide
          · rw [isUnregister]
            decide
        · rw [List.append_assoc, List.singleton_append, replyTo_eq] at succeeded
          exact refused names (by rw [command]; decide) succeeded

/-- Whether a begin is refused as busy depends on the session alone. -/
theorem Registry.busy_iff (registry : Registry) {call : Call} {request : Request}
    (isBegin : call.command = some .beginWrite) (received : call.copyFromUser = some request)
    (resolves : call.target request = some inode) :
    (registry.ioctl call).1.result = -ebusy ↔
      request.path.toList.getD 0 0 ≠ 0 ∧
        ∃ session, registry.session inode = some session ∧ session.1 ≠ call.current := by
  rw [registry.ioctl_of_command isBegin received, Registry.perform, Registry.named]
  by_cases empty : request.path.toList.getD 0 0 = 0
  · rw [if_pos empty]
    exact iff_of_false (by dsimp only; decide) fun nonempty => nonempty.1 empty
  rw [if_neg empty, resolves]
  dsimp only
  unfold Registry.session
  cases found : registry.lookup inode with
  | none =>
    refine iff_of_false (by dsimp only; decide) ?_
    rintro ⟨-, session, missing, -⟩
    cases missing
  | some record =>
    dsimp only
    by_cases busy : ∃ owner ∈ record.session, owner.1 ≠ call.current
    · rw [if_pos busy]
      exact ⟨fun _ => ⟨empty, busy⟩, fun _ => rfl⟩
    · rw [if_neg busy]
      refine ⟨fun impossible => ?_, fun other => absurd other.2 busy⟩
      cases copied : call.copyToUser <;> rw [copied] at impossible <;> cases impossible

/-- A number has a session exactly when some process has begun one under it that is still open. -/
theorem session_iff_open {happenings : List Happening}
    (copies : CopiesBack hash [] tgid inode (calls happenings)) :
    (∃ latest, (registryAfter (calls happenings)).session inode = some (tgid, latest)) ↔
      ∃ opener, OpenSession hash happenings inode opener tgid := by
  constructor
  · rintro ⟨latest, session⟩
    obtain ⟨before, first, between, token, split, begun, lasts⟩ :=
      begun_of_session hash copies session
    obtain ⟨early, opener, late, rfl, rfl, rfl⟩ := calls_eq_append split
    exact ⟨opener, early, first, late, token, rfl, begun, lasts⟩
  · rintro ⟨opener, early, first, late, token, rfl, begun, lasts⟩
    have split : calls (early ++ .call opener first :: late) = calls early ++ first :: calls late :=
      calls_append early (.call opener first :: late)
    rw [split] at copies ⊢
    refine session_lasts begun (fun front call back parts own granted => ?_) lasts
    refine copies (calls early ++ first :: front) call back ?_ own ?_
    · rw [parts, List.append_assoc, List.cons_append]
    · rw [List.append_assoc, List.singleton_append] at granted
      exact granted

end Numbers

/-- Sessions belong to numbers. In every run of the system in which the begins on an inode that the
guard grants get their answers copied back, a probe on the inode, if it is registered, lets a
running process pass exactly when a session was begun under its number, by itself or by an earlier
process, and has not been ended since; and a begin is refused as busy exactly while such a session
of another number is open, whether the process that began it still runs or not. -/
theorem sessions_belong_to_numbers (hash : UInt64 → Bucket) {happenings : List Happening}
    {system : System} (ran : System.run hash happenings = some system) (inode : Inode)
    (copies : ∀ owner, CopiesBack hash [] owner inode (calls happenings)) :
    (∀ process tgid, system.Runs process tgid → ∀ hook : Hook, hook.inspects = some inode →
      findLocked hash system.guard inode ≠ none → ∀ returnAddress, returnAddress ≠ 0 →
      (¬ hook.denied hash system.guard tgid returnAddress ↔
        ∃ opener, OpenSession hash happenings inode opener tgid)) ∧
    ∀ process call request, system.Runs process call.current → call.command = some .beginWrite →
      call.copyFromUser = some request → call.target request = some inode →
      ((ioctl hash system.guard call).1.result = -ebusy ↔
        request.path.toList.getD 0 0 ≠ 0 ∧ ∃ opener owner, owner ≠ call.current ∧
          OpenSession hash happenings inode opener owner) := by
  have represents := represents_after hash (calls happenings)
  rw [guard_eq_stateAfter ran]
  constructor
  · intro process tgid _ hook inspects registered returnAddress called
    rw [← session_iff_open (copies tgid), represents.denied_iff, Registry.Denies, inspects]
    have member := (registered_iff (calls happenings) inode).mp registered
    simp only [Option.some.injEq, exists_eq_left', ne_eq, called, not_false_eq_true, true_and,
      member, not_not, Registry.Holds, Registry.session, Option.bind_eq_some_iff]
    exact exists_comm
  · intro process call request _ isBegin received resolves
    rw [← replyTo, replyTo_eq, Registry.busy_iff _ isBegin received resolves]
    refine and_congr_right fun _ => ?_
    constructor
    · rintro ⟨⟨owner, latest⟩, session, other⟩
      obtain ⟨opener, opened⟩ := (session_iff_open (copies owner)).mp ⟨latest, session⟩
      exact ⟨opener, owner, other, opened⟩
    · rintro ⟨opener, owner, other, opened⟩
      obtain ⟨latest, session⟩ := (session_iff_open (copies owner)).mpr ⟨opener, opened⟩
      exact ⟨(owner, latest), session, other⟩

/-- A process begins a session and exits, another one gets its number, and a third one another
number. -/
def sampleHappenings : List Happening :=
  [.spawn 100, .call 0 (sampleRegister 100), .call 0 (sampleBegin 100 firstToken true), .exit 0,
    .spawn 100, .spawn 200]

def sampleSystem : System where
  guard := stateAfter sampleHash [sampleRegister 100, sampleBegin 100 firstToken true]
  processes := [none, some 100, some 200]

theorem run_sampleHappenings : System.run sampleHash sampleHappenings = some sampleSystem := by
  have processes : (System.run sampleHash sampleHappenings).map System.processes =
      some sampleSystem.processes := by decide +kernel
  obtain ⟨⟨guard, running⟩, ran, same⟩ := Option.map_eq_some_iff.mp processes
  have guardEq := guard_eq_stateAfter ran
  have calledEq : calls sampleHappenings = [sampleRegister 100, sampleBegin 100 firstToken true] :=
    rfl
  rw [calledEq] at guardEq
  dsimp only at guardEq same
  rw [ran, guardEq, same, sampleSystem]

theorem sessions_belong_to_numbers_sample :
    ∃ opener, OpenSession sampleHash sampleHappenings sampleInode opener 100 := by
  have copies (owner : Tgid) :
      CopiesBack sampleHash [] owner sampleInode (calls sampleHappenings) := by
    have all : ∀ call ∈ calls sampleHappenings, call.copyToUser = true := by decide +kernel
    intro early call late split _ _
    refine all call ?_
    rw [split]
    exact List.mem_append_right _ List.mem_cons_self
  exact ((sessions_belong_to_numbers sampleHash run_sampleHappenings sampleInode copies).1
    1 100 (by decide) (.pathUnlink (some (some sampleInode))) rfl (by decide +kernel) 1
    (by decide)).mp (by unfold Hook.denied; decide +kernel)

/-- The process that has the number now is let pass although it has never begun a session, and the
process that began the session has exited and still keeps others from beginning one. -/
theorem session_outlives_process :
    System.run sampleHash sampleHappenings = some sampleSystem ∧
      sampleSystem.Runs 1 100 ∧ findLocked sampleHash sampleSystem.guard sampleInode ≠ none ∧
      ¬ (Hook.pathUnlink (some (some sampleInode))).denied sampleHash sampleSystem.guard 100 1 ∧
      ¬ OpenSession sampleHash sampleHappenings sampleInode 1 100 ∧
      sampleSystem.processes[0]? = some none ∧ sampleSystem.Runs 2 200 ∧
      (ioctl sampleHash sampleSystem.guard (sampleBegin 200 secondToken true)).1.result =
        -ebusy := by
  refine ⟨run_sampleHappenings, by decide, by decide +kernel, ?_, ?_, rfl, by decide,
    by decide +kernel⟩
  · unfold Hook.denied
    decide +kernel
  · rintro ⟨early, call, late, token, split, -⟩
    have member : Happening.call 1 call ∈ sampleHappenings := by
      rw [split]
      exact List.mem_append_right _ List.mem_cons_self
    simp [sampleHappenings] at member

end Padlock.Guard
