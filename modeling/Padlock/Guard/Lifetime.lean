/-
This file models the loading and the unloading of the guard. Loading registers
the device and then one probe after another; where a registration fails, what was
registered before is taken back. A probe may be missing where the kernel does not
have its function, all but one.

A life is the kernel and the guard over any order of loads, unloads, openings of
the device and calls to it. In every life the guard is there with its device and
its probes and decides as the calls since its load say, or nothing of it is
there; and a guard that has taken a reference to itself stays.
-/

import Padlock.Library.Program
import Padlock.Guard.Session

namespace Padlock.Guard

open Interaction Program

/-! ### The kernel -/

/-- The variables of type `struct kprobe`. -/
inductive Probe where
  | filePermission
  | fileTruncate
  | pathUnlink
  | pathRename
  | pathTruncate
  deriving DecidableEq

inductive Handler where
  | kprobeFilePermission
  | kprobeFileTruncate
  | kprobePathUnlink
  | kprobePathRename
  | kprobePathTruncate
  deriving DecidableEq

/-- What is registered under a probe. -/
structure Kprobe where
  symbolName : String
  preHandler : Handler
  deriving DecidableEq

inductive KernelRequest where
  | miscRegister
  | miscDeregister
  | registerKprobe (probe : Probe) (kprobe : Kprobe)
  | unregisterKprobe (probe : Probe)
  | tryModuleGet
  | modulePut

abbrev KernelResponse : KernelRequest → Type
  | .miscRegister => Int
  | .miscDeregister => Unit
  | .registerKprobe _ _ => Int
  | .unregisterKprobe _ => Unit
  | .tryModuleGet => Bool
  | .modulePut => Unit

abbrev OnKernel (Result : Type) := Program KernelRequest KernelResponse Result

/-- What the kernel has of the guard. -/
structure Kernel where
  device : Bool
  probes : Probe → Option Kprobe
  /-- How often the module is in use. -/
  references : Nat

namespace Kernel

def empty : Kernel where
  device := false
  probes := fun _ => none
  references := 0

def setProbe (kernel : Kernel) (probe : Probe) (kprobe : Option Kprobe) : Kernel :=
  { kernel with probes := Function.update kernel.probes probe kprobe }

/-- A registration takes place, or fails with a negative number. That a function is not there is
said only of those that are absent. Taking back what is not registered does nothing. -/
def answers (absent : String → Prop) : Surroundings KernelRequest KernelResponse Kernel
  | .miscRegister, kernel, result, next =>
    result = 0 ∧ next = { kernel with device := true } ∨ result < 0 ∧ next = kernel
  | .miscDeregister, kernel, _, next => next = { kernel with device := false }
  | .registerKprobe probe kprobe, kernel, result, next =>
    result = 0 ∧ next = kernel.setProbe probe (some kprobe) ∨
      result < 0 ∧ (result = -enoent → absent kprobe.symbolName) ∧ next = kernel
  | .unregisterKprobe probe, kernel, _, next => next = kernel.setProbe probe none
  | .tryModuleGet, kernel, taken, next =>
    taken = true ∧ next = { kernel with references := kernel.references + 1 } ∨
      taken = false ∧ next = kernel
  | .modulePut, kernel, _, next => next = { kernel with references := kernel.references - 1 }

end Kernel

/-! ### Loading and unloading -/

abbrev kernel (asked : KernelRequest) : OnKernel (KernelResponse asked) := request asked

def registerProbe (probe : Probe) (symbol : String) (handler : Handler) : OnKernel Int :=
  kernel (.registerKprobe probe ⟨symbol, handler⟩)

def registerOptionalProbe (probe : Probe) (symbol : String) (handler : Handler) :
    OnKernel Int := do
  let result ← registerProbe probe symbol handler
  return if result = -enoent then 0 else result

section Config

-- CONFIG_SECURITY_PATH
variable (securityPath : Bool)

def unregisterAllProbes : OnKernel Unit := do
  kernel (.unregisterKprobe .filePermission)
  kernel (.unregisterKprobe .fileTruncate)
  if securityPath then
    kernel (.unregisterKprobe .pathUnlink)
    kernel (.unregisterKprobe .pathRename)
    kernel (.unregisterKprobe .pathTruncate)

/-- From `fail_misc` on. -/
def failMisc (result : Int) : OnKernel (Except Int Bool) := do
  kernel .miscDeregister
  return .error result

/-- From `fail_probes` on. -/
def failProbes (result : Int) : OnKernel (Except Int Bool) := do
  unregisterAllProbes securityPath
  failMisc result

/-- An optional probe, and on; or to `fail_probes`. -/
def orFailProbes (probe : Probe) (symbol : String) (handler : Handler)
    (next : OnKernel (Except Int Bool)) : OnKernel (Except Int Bool) := do
  let result ← registerOptionalProbe probe symbol handler
  if result ≠ 0 then failProbes securityPath result
  else next

/-- The end of `padlock_guard_init`. -/
def pin : OnKernel (Except Int Bool) := do
  let pinned : Bool ← kernel .tryModuleGet
  return .ok pinned

/-- `padlock_guard_init`: the error, or `padlock_guard_pinned`. -/
def init : OnKernel (Except Int Bool) := do
  let result : Int ← kernel .miscRegister
  if result ≠ 0 then return .error result
  else
    let result ← registerProbe .filePermission "security_file_permission" .kprobeFilePermission
    if result ≠ 0 then failMisc result
    else
      orFailProbes securityPath .fileTruncate "security_file_truncate" .kprobeFileTruncate <|
        if securityPath then
          orFailProbes securityPath .pathUnlink "security_path_unlink" .kprobePathUnlink <|
          orFailProbes securityPath .pathRename "security_path_rename" .kprobePathRename <|
          orFailProbes securityPath .pathTruncate "security_path_truncate" .kprobePathTruncate pin
        else pin

/-- `padlock_guard_exit`. -/
def exit (pinned : Bool) : OnKernel Unit := do
  if pinned then
    kernel .modulePut
  unregisterAllProbes securityPath
  kernel .miscDeregister

end Config

/-! ### What is to be registered -/

/-- The function and the handler of a probe. -/
def Probe.kprobe : Probe → Kprobe
  | .filePermission => ⟨"security_file_permission", .kprobeFilePermission⟩
  | .fileTruncate => ⟨"security_file_truncate", .kprobeFileTruncate⟩
  | .pathUnlink => ⟨"security_path_unlink", .kprobePathUnlink⟩
  | .pathRename => ⟨"security_path_rename", .kprobePathRename⟩
  | .pathTruncate => ⟨"security_path_truncate", .kprobePathTruncate⟩

theorem Probe.kprobe_injective : Function.Injective Probe.kprobe := by
  intro first second same
  have handlers := congrArg Kprobe.preHandler same
  revert handlers
  cases first <;> cases second <;> decide

/-- The probes that are compiled in. -/
def compiled (securityPath : Bool) : List Probe :=
  if securityPath then [.filePermission, .fileTruncate, .pathUnlink, .pathRename, .pathTruncate]
  else [.filePermission, .fileTruncate]

section Loading

variable {absent : String → Prop} {securityPath : Bool}

/-- The device is there. Each of these probes is at its function with its handler, or its function
is absent and it is not the one that is required; and no other probe is there. -/
structure Registered (absent : String → Prop) (tried : List Probe) (held : Nat) (kernel : Kernel) :
    Prop where
  device : kernel.device = true
  references : kernel.references = held
  attempted : ∀ probe ∈ tried, kernel.probes probe = some probe.kprobe ∨
    kernel.probes probe = none ∧ probe ≠ .filePermission ∧ absent probe.kprobe.symbolName
  untried : ∀ probe ∉ tried, kernel.probes probe = none

/-- Loading either leaves all this, or nothing. -/
def Loads (absent : String → Prop) (securityPath : Bool) : Except Int Bool → Kernel → Prop
  | .ok pinned, kernel => Registered absent (compiled securityPath) pinned.toNat kernel
  | .error code, kernel => code ≠ 0 ∧ kernel = Kernel.empty

theorem ensures_unregisterAllProbes (kernel : Kernel) :
    Ensures (Kernel.answers absent) (unregisterAllProbes securityPath) kernel fun _ final =>
      final = { kernel with
        probes := fun probe =>
          if probe ∈ compiled securityPath then none
          else kernel.probes probe } := by
  refine ensures_request.mpr ?_
  rintro _ _ rfl
  refine ensures_request.mpr ?_
  rintro _ _ rfl
  cases securityPath with
  | false =>
    refine ensures_done.mpr (congrArg (Kernel.mk _ · _) ?_)
    funext probe
    cases probe <;> rfl
  | true =>
    refine ensures_request.mpr ?_
    rintro _ _ rfl
    refine ensures_request.mpr ?_
    rintro _ _ rfl
    refine ensures_request.mpr ?_
    rintro _ _ rfl
    refine ensures_done.mpr (congrArg (Kernel.mk _ · _) ?_)
    funext probe
    cases probe <;> rfl

/-- Taking back all that is compiled in leaves no probe. -/
theorem Registered.noneLeft {tried : List Probe} {held : Nat} {kernel : Kernel}
    (state : Registered absent tried held kernel)
    (inside : ∀ probe ∈ tried, probe ∈ compiled securityPath) :
    (fun probe => if probe ∈ compiled securityPath then none else kernel.probes probe) =
      fun _ => none := by
  funext probe
  split
  · rfl
  next outside => exact state.untried probe fun member => outside (inside probe member)

theorem Registered.ensures_failProbes {tried : List Probe} {start : Kernel}
    (state : Registered absent tried 0 start)
    (inside : ∀ probe ∈ tried, probe ∈ compiled securityPath) (code : Int) :
    Ensures (Kernel.answers absent) (failProbes securityPath code) start fun result final =>
      result = .error code ∧ final = Kernel.empty := by
  refine (ensures_unregisterAllProbes start).bind ?_
  rintro _ _ rfl
  refine ensures_request.mpr ?_
  rintro _ _ rfl
  refine ensures_done.mpr ⟨rfl, ?_⟩
  show Kernel.mk false _ start.references = Kernel.mk false _ 0
  rw [state.noneLeft inside, state.references]

theorem Registered.register {tried : List Probe} {start : Kernel}
    (state : Registered absent tried 0 start) (probe : Probe) :
    Registered absent (probe :: tried) 0 (start.setProbe probe (some probe.kprobe)) := by
  refine ⟨state.device, state.references, ?_, ?_⟩
  · intro other member
    by_cases same : other = probe
    · rw [same]
      exact .inl (Function.update_self _ _ _)
    · have kept : (start.setProbe probe (some probe.kprobe)).probes other = start.probes other :=
        Function.update_of_ne same _ _
      rw [kept]
      exact state.attempted other (List.mem_of_ne_of_mem same member)
  · intro other notTried
    rw [List.mem_cons, not_or] at notTried
    exact (Function.update_of_ne notTried.1 _ _).trans (state.untried other notTried.2)

/-- A probe whose function is not there. -/
theorem Registered.skip {tried : List Probe} {start : Kernel}
    (state : Registered absent tried 0 start) {probe : Probe} (new : probe ∉ tried)
    (optional : probe ≠ .filePermission)
    (missing : absent probe.kprobe.symbolName) : Registered absent (probe :: tried) 0 start := by
  refine ⟨state.device, state.references, ?_, ?_⟩
  · intro other member
    rcases List.mem_cons.mp member with rfl | earlier
    · exact .inr ⟨state.untried _ new, optional, missing⟩
    · exact state.attempted other earlier
  · exact fun other notTried => state.untried other fun member =>
      notTried (List.mem_cons_of_mem _ member)

/-- The step of loading: the probe is registered, or skipped, or all is taken back. -/
theorem Registered.ensures_orFailProbes {tried : List Probe} {start : Kernel}
    (state : Registered absent tried 0 start)
    (inside : ∀ probe ∈ tried, probe ∈ compiled securityPath) {probe : Probe}
    (new : probe ∉ tried) (optional : probe ≠ .filePermission) {symbol : String}
    {handler : Handler} (fits : ⟨symbol, handler⟩ = probe.kprobe)
    {next : OnKernel (Except Int Bool)}
    (rest : ∀ later, Registered absent (probe :: tried) 0 later →
      Ensures (Kernel.answers absent) next later (Loads absent securityPath)) :
    Ensures (Kernel.answers absent) (orFailProbes securityPath probe symbol handler next) start
      (Loads absent securityPath) := by
  refine ensures_request.mpr fun result middle registered => ?_
  rw [fits] at registered
  show Ensures _ (if (if result = -enoent then 0 else result) ≠ 0 then _ else _) _ _
  obtain ⟨rfl, rfl⟩ | ⟨negative, missing, rfl⟩ := registered
  · exact rest _ (state.register probe)
  by_cases unknown : result = -enoent
  · rw [if_pos unknown, if_neg (not_not.mpr rfl)]
    exact rest _ (state.skip new optional (missing unknown))
  · rw [if_neg unknown, if_pos negative.ne]
    refine (state.ensures_failProbes inside result).imp ?_
    rintro _ _ ⟨rfl, rfl⟩
    exact ⟨negative.ne, rfl⟩

/-- When all that is compiled in has been tried, the module takes a reference to itself. -/
theorem Registered.ensures_pin {tried : List Probe} {start : Kernel}
    (state : Registered absent tried 0 start)
    (same : ∀ probe, probe ∈ tried ↔ probe ∈ compiled securityPath) :
    Ensures (Kernel.answers absent) pin start (Loads absent securityPath) := by
  refine ensures_request.mpr fun taken final pinned => ensures_done.mpr ?_
  have attempted := fun probe member => state.attempted probe ((same probe).mpr member)
  have untried := fun probe outside => state.untried probe (mt (same probe).mp outside)
  obtain ⟨rfl, rfl⟩ | ⟨rfl, rfl⟩ := pinned
  · exact ⟨state.device, congrArg (· + 1) state.references, attempted, untried⟩
  · exact ⟨state.device, state.references, attempted, untried⟩

theorem ensures_init :
    Ensures (Kernel.answers absent) (init securityPath) Kernel.empty
      (Loads absent securityPath) := by
  refine ensures_request.mpr fun result middle registered => ?_
  show Ensures _ (if result ≠ 0 then _ else _) _ _
  obtain ⟨rfl, rfl⟩ | ⟨negative, rfl⟩ := registered
  case inr =>
    rw [if_pos negative.ne]
    exact ensures_done.mpr ⟨negative.ne, rfl⟩
  rw [if_neg (not_not.mpr rfl)]
  have start : Registered absent [] 0 { Kernel.empty with device := true } :=
    ⟨rfl, rfl, fun _ member => absurd member List.not_mem_nil, fun _ _ => rfl⟩
  refine ensures_request.mpr fun result middle registered => ?_
  show Ensures _ (if result ≠ 0 then _ else _) _ _
  obtain ⟨rfl, rfl⟩ | ⟨negative, -, rfl⟩ := registered
  case inr =>
    rw [if_pos negative.ne]
    refine ensures_request.mpr ?_
    rintro _ _ rfl
    exact ensures_done.mpr ⟨negative.ne, rfl⟩
  rw [if_neg (not_not.mpr rfl)]
  have first := start.register .filePermission
  cases securityPath with
  | false =>
    refine first.ensures_orFailProbes (by decide) (by decide) (by decide) rfl fun later second => ?_
    exact second.ensures_pin fun probe => by cases probe <;> decide
  | true =>
    refine first.ensures_orFailProbes (by decide) (by decide) (by decide) rfl fun later second => ?_
    refine second.ensures_orFailProbes (by decide) (by decide) (by decide) rfl fun later third => ?_
    refine third.ensures_orFailProbes (by decide) (by decide) (by decide) rfl fun later fourth => ?_
    refine fourth.ensures_orFailProbes (by decide) (by decide) (by decide) rfl fun later fifth => ?_
    exact fifth.ensures_pin fun probe => by cases probe <;> decide

/-- The probe on permission checks is never missing. -/
theorem Registered.required {held : Nat} {kernel : Kernel}
    (state : Registered absent (compiled securityPath) held kernel) :
    kernel.probes .filePermission = some Probe.filePermission.kprobe := by
  have member : Probe.filePermission ∈ compiled securityPath := by
    cases securityPath <;> decide
  rcases state.attempted .filePermission member with there | ⟨-, optional, -⟩
  · exact there
  · exact absurd rfl optional

/-- Unloading a guard that has no reference to itself leaves nothing. -/
theorem Registered.ensures_exit {start : Kernel}
    (state : Registered absent (compiled securityPath) 0 start) :
    Ensures (Kernel.answers absent) (exit securityPath false) start fun _ final =>
      final = Kernel.empty := by
  refine (ensures_unregisterAllProbes start).bind ?_
  rintro _ _ rfl
  refine ensures_request.mpr ?_
  rintro _ _ rfl
  refine ensures_done.mpr ?_
  show Kernel.mk false _ start.references = Kernel.mk false _ 0
  rw [state.noneLeft fun _ => id, state.references]

end Loading

/-! ### Lives -/

/-- A guard that is loaded: whether it holds a reference to itself, how often its device is open,
and its entries. -/
structure Loaded where
  pinned : Bool
  opened : Nat
  state : State

structure Life where
  kernel : Kernel
  guard : Option Loaded

inductive Moment where
  | load
  | unload
  | openDevice
  | closeDevice
  | ioctl (call : Call)

def Moment.call : Moment → Option Call
  | .ioctl call => some call
  | _ => none

/-- The calls among some moments. -/
def ioctlCalls (moments : List Moment) : List Call := moments.filterMap Moment.call

/-- The probe on the function that is called. -/
def Hook.probe : Hook → Probe
  | .filePermission _ _ => .filePermission
  | .fileTruncate _ => .fileTruncate
  | .pathUnlink _ => .pathUnlink
  | .pathRename _ _ => .pathRename
  | .pathTruncate _ => .pathTruncate

namespace Life

def fresh : Life where
  kernel := Kernel.empty
  guard := none

/-- The handler of this function is registered at it, and denies the call. -/
def Denies (hash : UInt64 → Bucket) (life : Life) (current : Tgid) (returnAddress : UInt64)
    (hook : Hook) : Prop :=
  ∃ guard probe, life.guard = some guard ∧ life.kernel.probes probe = some hook.probe.kprobe ∧
    hook.denied hash guard.state current returnAddress

section Steps

variable (hash : UInt64 → Bucket) (absent : String → Prop) (securityPath : Bool)

/-- What may happen. The kernel loads a module once, and unloads it only when it is not in use; an
open device uses it. Loading and unloading are single steps. -/
inductive Step : Life → Moment → Life → Prop
  | load {kernel next : Kernel} {pinned : Bool}
      (ran : Exec (Kernel.answers absent) (init securityPath) kernel (.ok pinned) next) :
      Step ⟨kernel, none⟩ .load ⟨next, some ⟨pinned, 0, State.initial⟩⟩
  | loadFails {kernel next : Kernel} {code : Int}
      (ran : Exec (Kernel.answers absent) (init securityPath) kernel (.error code) next) :
      Step ⟨kernel, none⟩ .load ⟨next, none⟩
  | loadRefused {kernel : Kernel} {guard : Loaded} :
      Step ⟨kernel, some guard⟩ .load ⟨kernel, some guard⟩
  | unload {kernel next : Kernel} {guard : Loaded} (unused : kernel.references = 0)
      (ran : Exec (Kernel.answers absent) (exit securityPath guard.pinned) kernel () next) :
      Step ⟨kernel, some guard⟩ .unload ⟨next, none⟩
  | unloadRefused {kernel : Kernel} {guard : Loaded} (used : kernel.references ≠ 0) :
      Step ⟨kernel, some guard⟩ .unload ⟨kernel, some guard⟩
  | openDevice {kernel : Kernel} {guard : Loaded} (device : kernel.device = true) :
      Step ⟨kernel, some guard⟩ .openDevice
        ⟨{ kernel with references := kernel.references + 1 },
          some { guard with opened := guard.opened + 1 }⟩
  | closeDevice {kernel : Kernel} {guard : Loaded} (isOpen : 0 < guard.opened) :
      Step ⟨kernel, some guard⟩ .closeDevice
        ⟨{ kernel with references := kernel.references - 1 },
          some { guard with opened := guard.opened - 1 }⟩
  | ioctl {kernel : Kernel} {guard : Loaded} (isOpen : 0 < guard.opened) (call : Call) :
      Step ⟨kernel, some guard⟩ (.ioctl call)
        ⟨kernel, some { guard with state := (Guard.ioctl hash guard.state call).2 }⟩

/-- A life from one point to another. -/
def Runs : Life → List Moment → Life → Prop
  | life, [], final => final = life
  | life, moment :: rest, final =>
    ∃ next, Step hash absent securityPath life moment next ∧ Runs next rest final

/-- A life in which the guard is there all along. -/
def RunsLoaded : Life → List Moment → Life → Prop
  | life, [], final => life.guard ≠ none ∧ final = life
  | life, moment :: rest, final =>
    life.guard ≠ none ∧
      ∃ next, Step hash absent securityPath life moment next ∧ RunsLoaded next rest final

/-- The guard was loaded before the last of these moments and has been there ever since. -/
def LoadedSince (moments later : List Moment) (life : Life) : Prop :=
  ∃ before unloaded loaded, moments = before ++ .load :: later ∧
    Runs hash absent securityPath fresh before unloaded ∧ unloaded.guard = none ∧
    Step hash absent securityPath unloaded .load loaded ∧
    RunsLoaded hash absent securityPath loaded later life

/-- All of the guard is there, or nothing is there. -/
def Sound (life : Life) : Prop :=
  match life.guard with
  | none => life.kernel = Kernel.empty
  | some guard =>
    Registered absent (compiled securityPath) (guard.opened + guard.pinned.toNat) life.kernel

end Steps

section Sound

variable {hash : UInt64 → Bucket} {absent : String → Prop} {securityPath : Bool}

theorem Sound.registered {life : Life} (sound : life.Sound absent securityPath) {guard : Loaded}
    (loaded : life.guard = some guard) :
    Registered absent (compiled securityPath) (guard.opened + guard.pinned.toNat)
      life.kernel := by
  unfold Sound at sound
  rw [loaded] at sound
  exact sound

theorem Step.sound {life next : Life} {moment : Moment}
    (step : Step hash absent securityPath life moment next)
    (sound : life.Sound absent securityPath) : next.Sound absent securityPath := by
  cases step with
  | @load kernel next pinned ran =>
    obtain rfl := sound
    have registered : Registered .. := ensures_init _ _ ran
    rw [← Nat.zero_add pinned.toNat] at registered
    exact registered
  | loadFails ran =>
    obtain rfl := sound
    exact (ensures_init _ _ ran).2
  | loadRefused => exact sound
  | @unload kernel next guard unused ran =>
    have registered := sound.registered rfl
    have idle : guard.opened + guard.pinned.toNat = 0 := registered.references.symm.trans unused
    have free : guard.pinned = false := by
      cases held : guard.pinned with
      | false => rfl
      | true => simp [held] at idle
    rw [idle] at registered
    rw [free] at ran
    exact registered.ensures_exit _ _ ran
  | unloadRefused used => exact sound
  | openDevice device =>
    have registered := sound.registered rfl
    refine ⟨registered.device, ?_, registered.attempted, registered.untried⟩
    have references := registered.references
    dsimp only at references ⊢
    omega
  | closeDevice isOpen =>
    have registered := sound.registered rfl
    refine ⟨registered.device, ?_, registered.attempted, registered.untried⟩
    have references := registered.references
    dsimp only at references ⊢
    omega
  | ioctl isOpen call => exact sound

theorem Runs.sound {moments : List Moment} {life final : Life}
    (runs : Runs hash absent securityPath life moments final)
    (sound : life.Sound absent securityPath) : final.Sound absent securityPath := by
  induction moments generalizing life with
  | nil =>
    obtain rfl := runs
    exact sound
  | cons moment rest inductionHypothesis =>
    obtain ⟨next, step, later⟩ := runs
    exact inductionHypothesis later (step.sound sound)

theorem Runs.concat {moments : List Moment} {moment : Moment} {life final : Life}
    (runs : Runs hash absent securityPath life (moments ++ [moment]) final) :
    ∃ before, Runs hash absent securityPath life moments before ∧
      Step hash absent securityPath before moment final := by
  induction moments generalizing life with
  | nil =>
    obtain ⟨next, step, rfl⟩ := runs
    exact ⟨life, rfl, step⟩
  | cons first rest inductionHypothesis =>
    obtain ⟨next, step, later⟩ := runs
    obtain ⟨before, front, last⟩ := inductionHypothesis later
    exact ⟨before, ⟨next, step, front⟩, last⟩

theorem RunsLoaded.concat {moments : List Moment} {moment : Moment} {life before final : Life}
    (runs : RunsLoaded hash absent securityPath life moments before)
    (step : Step hash absent securityPath before moment final) (loaded : final.guard ≠ none) :
    RunsLoaded hash absent securityPath life (moments ++ [moment]) final := by
  induction moments generalizing life with
  | nil =>
    obtain ⟨there, rfl⟩ := runs
    exact ⟨there, final, step, loaded, rfl⟩
  | cons first rest inductionHypothesis =>
    obtain ⟨there, next, firstStep, later⟩ := runs
    exact ⟨there, next, firstStep, inductionHypothesis later⟩

theorem LoadedSince.concat {moments later : List Moment} {moment : Moment} {life final : Life}
    (since : LoadedSince hash absent securityPath moments later life)
    (step : Step hash absent securityPath life moment final) (loaded : final.guard ≠ none) :
    LoadedSince hash absent securityPath (moments ++ [moment]) (later ++ [moment]) final := by
  obtain ⟨before, unloaded, first, rfl, reached, absentBefore, load, runs⟩ := since
  refine ⟨before, unloaded, first, ?_, reached, absentBefore, load, runs.concat step loaded⟩
  rw [List.append_assoc, List.cons_append]

theorem ioctlCalls_concat (moments : List Moment) (moment : Moment) :
    ioctlCalls (moments ++ [moment]) = ioctlCalls moments ++ ioctlCalls [moment] :=
  List.filterMap_append

/-- A step that begins and ends with the guard there serves the calls in it. -/
theorem Step.state {life next : Life} {moment : Moment}
    (step : Step hash absent securityPath life moment next) {guard last : Loaded}
    (loaded : life.guard = some guard) (still : next.guard = some last) :
    last.state = (Machine.run (Guard.ioctl hash) guard.state (ioctlCalls [moment])).2 := by
  cases step with
  | load ran => cases loaded
  | loadFails ran => cases loaded
  | unload unused ran => cases still
  | loadRefused =>
    obtain rfl := Option.some.inj (loaded.symm.trans still)
    rfl
  | unloadRefused used =>
    obtain rfl := Option.some.inj (loaded.symm.trans still)
    rfl
  | openDevice device =>
    obtain rfl := Option.some.inj loaded
    obtain rfl := Option.some.inj still
    rfl
  | closeDevice isOpen =>
    obtain rfl := Option.some.inj loaded
    obtain rfl := Option.some.inj still
    rfl
  | ioctl isOpen call =>
    obtain rfl := Option.some.inj loaded
    obtain rfl := Option.some.inj still
    rfl

/-- The entries of a guard are those of the calls since its load. -/
theorem Runs.loadedSince {moments : List Moment} {life : Life}
    (runs : Runs hash absent securityPath fresh moments life) {guard : Loaded}
    (loaded : life.guard = some guard) :
    ∃ later, LoadedSince hash absent securityPath moments later life ∧
      guard.state = stateAfter hash (ioctlCalls later) := by
  induction moments using List.reverseRecOn generalizing life guard with
  | nil =>
    obtain rfl := runs
    cases loaded
  | append_singleton moments moment inductionHypothesis =>
    obtain ⟨before, front, step⟩ := runs.concat
    have there : life.guard ≠ none := by
      rw [loaded]
      exact Option.some_ne_none _
    cases earlier : before.guard with
    | none =>
      -- the guard is there after this step and not before it: the step has loaded it
      cases step with
      | load ran =>
        obtain rfl := Option.some.inj loaded
        exact ⟨[], ⟨moments, _, _, rfl, front, rfl, .load ran, there, rfl⟩, rfl⟩
      | loadFails ran => cases loaded
      | loadRefused => cases earlier
      | unload unused ran => cases earlier
      | unloadRefused used => cases earlier
      | openDevice device => cases earlier
      | closeDevice isOpen => cases earlier
      | ioctl isOpen call => cases earlier
    | some guardBefore =>
      obtain ⟨later, since, state⟩ := inductionHypothesis front earlier
      refine ⟨later ++ [moment], since.concat step there, ?_⟩
      rw [step.state earlier loaded, state, ioctlCalls_concat, stateAfter, stateAfter,
        Machine.run_append]

/-- A probe decides for the functions it is registered at. -/
theorem denies_iff {life : Life} {guard : Loaded} (loaded : life.guard = some guard)
    {held : Nat} (registered : Registered absent (compiled securityPath) held life.kernel)
    {calls : List Call} (state : guard.state = stateAfter hash calls) (current : Tgid)
    (returnAddress : UInt64) (hook : Hook) :
    life.Denies hash current returnAddress hook ↔
      life.kernel.probes hook.probe ≠ none ∧ returnAddress ≠ 0 ∧
        (registryAfter calls).Denies current hook := by
  have own (probe : Probe) {kprobe : Kprobe} (there : life.kernel.probes probe = some kprobe) :
      kprobe = probe.kprobe := by
    by_cases member : probe ∈ compiled securityPath
    · rcases registered.attempted probe member with its | ⟨missing, -⟩
      · exact Option.some.inj (there.symm.trans its)
      · cases there.symm.trans missing
    · cases there.symm.trans (registered.untried probe member)
  have verdict := (represents_after hash calls).denied_iff current returnAddress hook
  rw [← state] at verdict
  rw [← verdict]
  constructor
  · rintro ⟨other, probe, otherLoaded, there, denied⟩
    obtain rfl := Option.some.inj (loaded.symm.trans otherLoaded)
    have same : hook.probe = probe := Probe.kprobe_injective (own probe there)
    rw [same, there]
    exact ⟨Option.some_ne_none _, denied⟩
  · rintro ⟨there, denied⟩
    obtain ⟨kprobe, registeredThere⟩ := Option.ne_none_iff_exists'.mp there
    refine ⟨guard, hook.probe, loaded, ?_, denied⟩
    rw [registeredThere, own hook.probe registeredThere]

/-- A kernel without the function that truncates open files. -/
def sampleAbsent (symbol : String) : Prop := symbol = "security_file_truncate"

def sampleKernel : Server KernelRequest KernelResponse Kernel
  | .miscRegister, kernel => (0, { kernel with device := true })
  | .miscDeregister, kernel => ((), { kernel with device := false })
  | .registerKprobe probe kprobe, kernel =>
    if kprobe.symbolName = "security_file_truncate" then (-enoent, kernel)
    else (0, kernel.setProbe probe (some kprobe))
  | .unregisterKprobe probe, kernel => ((), kernel.setProbe probe none)
  | .tryModuleGet, kernel => (true, { kernel with references := kernel.references + 1 })
  | .modulePut, kernel => ((), { kernel with references := kernel.references - 1 })

theorem sampleKernel_answers (asked : KernelRequest) (kernel : Kernel) :
    Kernel.answers sampleAbsent asked kernel (sampleKernel asked kernel).1
      (sampleKernel asked kernel).2 := by
  cases asked with
  | miscRegister => exact .inl ⟨rfl, rfl⟩
  | miscDeregister => rfl
  | registerKprobe probe kprobe =>
    unfold sampleKernel
    dsimp only
    split
    next missing =>
      have negative : -enoent < 0 := by decide
      exact .inr ⟨negative, fun _ => missing, rfl⟩
    · exact .inl ⟨rfl, rfl⟩
  | unregisterKprobe probe => rfl
  | tryModuleGet => exact .inl ⟨rfl, rfl⟩
  | modulePut => rfl

theorem sample_load :
    ∃ kernel, Step sampleHash sampleAbsent true fresh .load
      ⟨kernel, some ⟨true, 0, State.initial⟩⟩ :=
  ⟨_, .load (exec_of_run sampleKernel_answers rfl)⟩

/-- Over every life: the guard is there as a whole or not at all; and a call of a function is denied
just where a probe is registered and the map of the calls since the load denies it. -/
theorem guard_whole_or_absent {moments : List Moment} {life : Life}
    (runs : Runs hash absent securityPath fresh moments life) :
    match life.guard with
    | none => life.kernel = Kernel.empty ∧
        ∀ current returnAddress hook, ¬life.Denies hash current returnAddress hook
    | some guard =>
      Registered absent (compiled securityPath) (guard.opened + guard.pinned.toNat) life.kernel ∧
        ∃ later, LoadedSince hash absent securityPath moments later life ∧
          guard.state = stateAfter hash (ioctlCalls later) ∧
          ∀ current returnAddress hook, life.Denies hash current returnAddress hook ↔
            life.kernel.probes hook.probe ≠ none ∧ returnAddress ≠ 0 ∧
              (registryAfter (ioctlCalls later)).Denies current hook := by
  have sound : life.Sound absent securityPath := runs.sound rfl
  obtain ⟨kernel, guard⟩ := life
  cases guard with
  | none =>
    refine ⟨sound, ?_⟩
    rintro current returnAddress hook ⟨guard, probe, loaded, -⟩
    cases loaded
  | some guard =>
    obtain ⟨later, since, state⟩ := runs.loadedSince rfl
    exact ⟨sound, later, since, state, denies_iff rfl sound state⟩

/-- A load. -/
theorem guard_whole_or_absent_sample :
    ∃ kernel, Runs sampleHash sampleAbsent true fresh [.load]
        ⟨kernel, some ⟨true, 0, State.initial⟩⟩ ∧
      Registered sampleAbsent (compiled true) 1 kernel := by
  obtain ⟨kernel, load⟩ := sample_load
  have runs : Runs sampleHash sampleAbsent true fresh [.load]
      ⟨kernel, some ⟨true, 0, State.initial⟩⟩ := ⟨_, load, rfl⟩
  exact ⟨kernel, runs, (guard_whole_or_absent runs).1⟩

/-! ### A guard that stays -/

/-- The guard is still there, and its entries have seen these calls. -/
structure Stays (hash : UInt64 → Bucket) (life : Life) (guard : Loaded) (calls : List Call)
    (final : Life) (last : Loaded) : Prop where
  loaded : final.guard = some last
  pinned : last.pinned = true
  probes : final.kernel.probes = life.kernel.probes
  state : last.state = (Machine.run (Guard.ioctl hash) guard.state calls).2

theorem Step.stays {life next : Life} {moment : Moment}
    (step : Step hash absent securityPath life moment next)
    (sound : life.Sound absent securityPath) {guard : Loaded}
    (loaded : life.guard = some guard) (pinned : guard.pinned = true) :
    ∃ last, Stays hash life guard (ioctlCalls [moment]) next last := by
  cases step with
  | load ran => cases loaded
  | loadFails ran => cases loaded
  | loadRefused => exact ⟨guard, loaded, pinned, rfl, rfl⟩
  | unload unused ran =>
    obtain rfl := Option.some.inj loaded
    have references := (sound.registered rfl).references.symm.trans unused
    rw [pinned] at references
    cases references
  | unloadRefused used => exact ⟨guard, loaded, pinned, rfl, rfl⟩
  | openDevice device =>
    obtain rfl := Option.some.inj loaded
    exact ⟨_, rfl, pinned, rfl, rfl⟩
  | closeDevice isOpen =>
    obtain rfl := Option.some.inj loaded
    exact ⟨_, rfl, pinned, rfl, rfl⟩
  | ioctl isOpen call =>
    obtain rfl := Option.some.inj loaded
    exact ⟨_, rfl, pinned, rfl, rfl⟩

theorem Runs.stays {later : List Moment} {life final : Life}
    (runs : Runs hash absent securityPath life later final)
    (sound : life.Sound absent securityPath) {guard : Loaded}
    (loaded : life.guard = some guard) (pinned : guard.pinned = true) :
    ∃ last, Stays hash life guard (ioctlCalls later) final last := by
  induction later generalizing life guard with
  | nil =>
    obtain rfl := runs
    exact ⟨guard, loaded, pinned, rfl, rfl⟩
  | cons moment rest inductionHypothesis =>
    obtain ⟨next, step, laterRuns⟩ := runs
    obtain ⟨middle, first⟩ := step.stays sound loaded pinned
    obtain ⟨last, second⟩ :=
      inductionHypothesis laterRuns (step.sound sound) first.loaded first.pinned
    refine ⟨last, second.loaded, second.pinned, second.probes.trans first.probes, ?_⟩
    have calls : ioctlCalls (moment :: rest) = ioctlCalls [moment] ++ ioctlCalls rest := by
      rw [ioctlCalls, ← List.singleton_append, List.filterMap_append]
      rfl
    rw [calls, Machine.run_append, ← first.state]
    exact second.state

/-- Once a guard with a reference to itself is loaded, nothing takes it away: whatever is tried
later, its probes stay, and a call of a function with a probe is denied just where the map of all
calls since the load denies it. -/
theorem pinned_guard_stays {before later : List Moment} {life loadedLife final : Life}
    {guard : Loaded} (reached : Runs hash absent securityPath fresh before life)
    (load : Step hash absent securityPath life .load loadedLife)
    (notBefore : life.guard = none) (loaded : loadedLife.guard = some guard)
    (pinned : guard.pinned = true) (runs : Runs hash absent securityPath loadedLife later final) :
    (∃ last, final.guard = some last ∧ last.state = stateAfter hash (ioctlCalls later)) ∧
      final.kernel.device = true ∧ final.kernel.probes = loadedLife.kernel.probes ∧
      final.kernel.probes .filePermission = some Probe.filePermission.kprobe ∧
      ∀ current returnAddress hook, final.Denies hash current returnAddress hook ↔
        loadedLife.kernel.probes hook.probe ≠ none ∧ returnAddress ≠ 0 ∧
          (registryAfter (ioctlCalls later)).Denies current hook := by
  have sound : loadedLife.Sound absent securityPath := load.sound (reached.sound rfl)
  have new : guard.state = State.initial := by
    cases load with
    | load ran => exact (congrArg Loaded.state (Option.some.inj loaded)).symm
    | loadFails ran => cases loaded
    | loadRefused => cases notBefore
  obtain ⟨last, stays⟩ := runs.stays sound loaded pinned
  have state : last.state = stateAfter hash (ioctlCalls later) := by
    rw [stays.state, new]
    rfl
  have registered := (runs.sound sound).registered stays.loaded
  refine ⟨⟨last, stays.loaded, state⟩, registered.device, stays.probes, registered.required, ?_⟩
  rw [← stays.probes]
  exact denies_iff stays.loaded registered state

/-- A load, and an attempt to unload. -/
theorem pinned_guard_stays_sample :
    ∃ kernel final, Runs sampleHash sampleAbsent true
        ⟨kernel, some ⟨true, 0, State.initial⟩⟩ [.unload] final ∧
      final.kernel.device = true := by
  obtain ⟨kernel, load⟩ := sample_load
  have used : kernel.references ≠ 0 := by
    have sound : Sound sampleAbsent true ⟨kernel, some ⟨true, 0, State.initial⟩⟩ :=
      load.sound rfl
    rw [(sound.registered rfl).references]
    decide
  have runs : Runs sampleHash sampleAbsent true ⟨kernel, some ⟨true, 0, State.initial⟩⟩ [.unload]
      ⟨kernel, some ⟨true, 0, State.initial⟩⟩ := ⟨_, .unloadRefused used, rfl⟩
  have reached : Runs sampleHash sampleAbsent true fresh [] fresh := rfl
  exact ⟨kernel, _, runs, (pinned_guard_stays reached load rfl rfl rfl runs).2.1⟩

end Sound

end Life

end Padlock.Guard
