/-
This file is about the directories the library makes: `ensure_directory_tree`,
which walks over every part of a path, and the file system around it and around
`ensure_parent_directory`.

Both calls take an answer `EEXIST` of `mkdir` for success and then set the mode,
so a directory that was there already gets the mode too. Whether a call leaves
the older directories alone is therefore a question about the tree before it:
every directory that a part of the path leads to, and whose mode the caller may
set, must have had the mode already.
-/

import Padlock.Store.Allocate

namespace Padlock

open Interaction Program

/-! ### The walk -/

def slash : UInt8 := 0x2f

/-- The walk of `ensure_directory_tree` from a cursor on: `front` stands before the cursor. -/
def walkDirectories (front : List UInt8) : List UInt8 → System Int
  | [] => do
    let made : MkdirResult ← call (.mkdir front 0o700)
    if made = .failed then
      return -1
    let _ : Bool ← call (.chmod front 0o700)
    return 0
  | byte :: rest =>
    if byte ≠ slash then walkDirectories (front ++ [byte]) rest
    else do
      let made : MkdirResult ← call (.mkdir front 0o700)
      if made = .failed then
        return -1
      let _ : Bool ← call (.chmod front 0o700)
      walkDirectories (front ++ [byte]) rest

/-- The cursor starts behind the first byte, so a slash in the first place ends no part. -/
def ensureDirectoryTree (path : Option CString) : System Int := do
  let some path := path | return -1
  if path.bytes.length = 0 ∨ path.bytes.length ≥ pathMax then
    return -1
  walkDirectories (path.bytes.take 1) (path.bytes.drop 1)

/-! ### The file system -/

structure Node where
  directory : Bool
  mode : Nat
  deriving DecidableEq

/-- The files and directories that are there. The numbers stand for places: a directory that can
still be made has its number before it is. -/
abbrev Tree := Nat → Option Node

def Tree.HasDirectory (tree : Tree) (number mode : Nat) : Prop :=
  tree number = some { directory := true, mode }

/-- What a call does not change: the place each path leads to, links followed, if there is one;
and the places whose modes the caller may set. -/
structure Setting where
  leads : List UInt8 → Option Nat
  permits : Nat → Bool

/-- The file system around the calls: every request may fail. A `mkdir` that does not fail makes a
directory where nothing was or finds something, be it a link to nowhere; a `chmod` that does not
fail sets one mode, and the caller may set it. -/
def fileSystem (setting : Setting) : Surroundings SystemRequest SystemResponse Tree
  | .mkdir path _, tree, made, next =>
    match made with
    | .created => ∃ number given, setting.leads path = some number ∧ tree number = none ∧
        next = Function.update tree number (some { directory := true, mode := given })
    | .present => (∀ number, setting.leads path = some number → tree number ≠ none) ∧ next = tree
    | .failed => next = tree
  | .chmod path mode, tree, changed, next =>
    if changed then ∃ number node, setting.leads path = some number ∧ tree number = some node ∧
      setting.permits number = true ∧ next = Function.update tree number (some { node with mode })
    else next = tree
  | _, tree, _, next => next = tree

/-- Every directory of the tree before is one afterwards, with the mode it had. -/
def KeepsModes (before after : Tree) : Prop :=
  ∀ number mode, before.HasDirectory number mode → after.HasDirectory number mode

/-- What a path leads to is no directory, or has the mode 0700, or is out of the caller's reach. -/
def PrivateAlready (setting : Setting) (tree : Tree) (path : List UInt8) : Prop :=
  ∀ number mode, setting.leads path = some number → tree.HasDirectory number mode →
    setting.permits number = true → mode = 0o700

/-- The parts of a path that the walk comes to: what stands before a slash, and the whole path. -/
def IsPart (path part : List UInt8) : Prop := part ≠ [] ∧ (part ++ [slash] <+: path ∨ part = path)

/-! ### One directory after another -/

/-- Make some directories, each as the walk does. -/
def makeEach : List (List UInt8) → System Int
  | [] => .done 0
  | part :: rest => do
    let made : MkdirResult ← call (.mkdir part 0o700)
    if made = .failed then
      return -1
    let _ : Bool ← call (.chmod part 0o700)
    makeEach rest

/-- The parts of a path from a cursor on. -/
def partsFrom (front : List UInt8) : List UInt8 → List (List UInt8)
  | [] => [front]
  | byte :: rest =>
    if byte ≠ slash then partsFrom (front ++ [byte]) rest
    else front :: partsFrom (front ++ [byte]) rest

theorem walkDirectories_eq (front rest : List UInt8) :
    walkDirectories front rest = makeEach (partsFrom front rest) := by
  induction rest generalizing front with
  | nil => rfl
  | cons byte rest inductionHypothesis =>
    rw [walkDirectories, partsFrom]
    split
    · exact inductionHypothesis _
    · rw [makeEach, inductionHypothesis]

/-- A part that begins with what stands before the cursor ends at the cursor, or goes past it. -/
theorem part_cases {front rest part : List UInt8} {byte : UInt8} (begins : front <+: part)
    (ends : part ++ [slash] <+: front ++ byte :: rest ∨ part = front ++ byte :: rest) :
    (part = front ∧ byte = slash) ∨ front ++ [byte] <+: part := by
  obtain ⟨more, rfl⟩ := begins
  rw [List.append_assoc, List.prefix_append_right_inj, List.append_cancel_left_eq] at ends
  cases more with
  | nil =>
    rcases ends with slashed | whole
    · rw [List.nil_append, List.cons_prefix_cons] at slashed
      exact .inl ⟨List.append_nil _, slashed.1.symm⟩
    · cases whole
  | cons head more =>
    have same : head = byte := by
      rcases ends with slashed | whole
      · rw [List.cons_append, List.cons_prefix_cons] at slashed
        exact slashed.1
      · exact (List.cons.inj whole).1
    subst same
    refine .inr ?_
    rw [List.prefix_append_right_inj, List.cons_prefix_cons]
    exact ⟨rfl, List.nil_prefix⟩

theorem mem_partsFrom {front rest part : List UInt8} :
    part ∈ partsFrom front rest ↔
      front <+: part ∧ (part ++ [slash] <+: front ++ rest ∨ part = front ++ rest) := by
  induction rest generalizing front with
  | nil =>
    rw [partsFrom, List.mem_singleton, List.append_nil]
    constructor
    · rintro rfl
      exact ⟨List.prefix_refl _, .inr rfl⟩
    · rintro ⟨begins, slashed | whole⟩
      · have shorter := begins.length_le
        have longer := slashed.length_le
        rw [List.length_append, List.length_singleton] at longer
        omega
      · exact whole
  | cons byte rest inductionHypothesis =>
    have further : part ∈ partsFrom (front ++ [byte]) rest ↔ front ++ [byte] <+: part ∧
        (part ++ [slash] <+: front ++ byte :: rest ∨ part = front ++ byte :: rest) := by
      rw [inductionHypothesis, List.append_assoc, List.singleton_append]
    have begins (longer : front ++ [byte] <+: part) : front <+: part :=
      (List.prefix_append front [byte]).trans longer
    rw [partsFrom]
    split
    · rename_i plain
      rw [further]
      constructor
      · rintro ⟨longer, ends⟩
        exact ⟨begins longer, ends⟩
      · rintro ⟨shorter, ends⟩
        rcases part_cases shorter ends with ⟨-, same⟩ | longer
        · exact absurd same plain
        · exact ⟨longer, ends⟩
    · rename_i same
      obtain rfl : byte = slash := not_not.mp same
      rw [List.mem_cons, further]
      constructor
      · rintro (rfl | ⟨longer, ends⟩)
        · refine ⟨List.prefix_refl _, .inl ?_⟩
          rw [List.prefix_append_right_inj, List.cons_prefix_cons]
          exact ⟨rfl, List.nil_prefix⟩
        · exact ⟨begins longer, ends⟩
      · rintro ⟨shorter, ends⟩
        rcases part_cases shorter ends with ⟨whole, -⟩ | longer
        · exact .inl whole
        · exact .inr ⟨longer, ends⟩

theorem mem_partsFrom_take {path part : List UInt8} (nonempty : path ≠ []) :
    part ∈ partsFrom (path.take 1) (path.drop 1) ↔ IsPart path part := by
  rw [mem_partsFrom, List.take_append_drop, IsPart]
  refine and_congr_left fun ends => ?_
  obtain ⟨first, rest, rfl⟩ := List.exists_cons_of_ne_nil nonempty
  rw [List.take_succ_cons, List.take_zero]
  constructor
  · rintro begins rfl
    cases List.prefix_nil.mp begins
  · intro present
    obtain ⟨head, more, rfl⟩ := List.exists_cons_of_ne_nil present
    rw [List.cons_prefix_cons]
    refine ⟨?_, List.nil_prefix⟩
    rcases ends with slashed | whole
    · rw [List.cons_append, List.cons_prefix_cons] at slashed
      exact slashed.1.symm
    · exact (List.cons.inj whole).1.symm

theorem not_isPart_nil {part : List UInt8} : ¬ IsPart [] part := by
  rintro ⟨present, slashed | whole⟩
  · exact present (List.append_eq_nil_iff.mp (List.prefix_nil.mp slashed)).1
  · exact present whole

/-! ### When the modes are kept -/

section Modes

variable {setting : Setting} {before tree next : Tree} {parts : List (List UInt8)}

/-- What is asked for when some directories are made. -/
def Makes (parts : List (List UInt8)) : SystemRequest → Prop
  | .mkdir part _ => part ∈ parts
  | .chmod part mode => part ∈ parts ∧ mode = 0o700
  | _ => False

theorem asks_makeEach (parts : List (List UInt8)) : (makeEach parts).Asks (Makes parts) := by
  induction parts with
  | nil => trivial
  | cons part rest inductionHypothesis =>
    have later : (makeEach rest).Asks (Makes (part :: rest)) := by
      refine inductionHypothesis.imp fun asked makes => ?_
      cases asked with
      | mkdir other mode => exact List.mem_cons_of_mem _ makes
      | chmod other mode => exact ⟨List.mem_cons_of_mem _ makes.1, makes.2⟩
      | _ => cases makes
    refine ⟨List.mem_cons_self, fun made => ?_⟩
    cases made with
    | failed => trivial
    | created => exact ⟨⟨List.mem_cons_self, rfl⟩, fun _ => later⟩
    | present => exact ⟨⟨List.mem_cons_self, rfl⟩, fun _ => later⟩

/-- A new directory stands where nothing was. -/
theorem keepsModes_update {number : Nat} (empty : tree number = none) (node : Node) :
    KeepsModes tree (Function.update tree number (some node)) := by
  intro other mode directory
  have different : other ≠ number := by
    rintro rfl
    rw [Tree.HasDirectory, empty] at directory
    cases directory
  rw [Tree.HasDirectory, Function.update_of_ne different]
  exact directory

theorem keepsModes_step {asked : SystemRequest} {response : SystemResponse asked}
    (already : ∀ part ∈ parts, PrivateAlready setting before part) (makes : Makes parts asked)
    (keeps : KeepsModes before tree) (answered : fileSystem setting asked tree response next) :
    KeepsModes before next := by
  cases asked with
  | mkdir part mode =>
    cases response with
    | created =>
      obtain ⟨number, given, -, empty, rfl⟩ := answered
      intro other mode directory
      exact keepsModes_update empty _ other mode (keeps other mode directory)
    | present =>
      obtain ⟨-, rfl⟩ := answered
      exact keeps
    | failed =>
      obtain rfl : next = tree := answered
      exact keeps
  | chmod part mode =>
    obtain ⟨member, rfl⟩ := makes
    cases response with
    | false =>
      obtain rfl : next = tree := answered
      exact keeps
    | true =>
      obtain ⟨number, node, leads, found, permitted, rfl⟩ := answered
      intro other mode directory
      by_cases same : other = number
      · subst same
        have node_eq : tree other = some { directory := true, mode } := keeps other mode directory
        rw [found, Option.some.injEq] at node_eq
        rw [Tree.HasDirectory, Function.update_self, node_eq,
          already part member other mode leads directory permitted]
      · rw [Tree.HasDirectory, Function.update_of_ne same]
        exact keeps other mode directory
  | _ => cases makes

/-- A `mkdir` need not fail for want of anything in the tree. -/
theorem exists_mkdir (setting : Setting) (tree : Tree) (path : List UInt8) :
    ∃ (made : MkdirResult) (next : Tree), made ≠ .failed ∧
      fileSystem setting (.mkdir path 0o700) tree made next ∧ KeepsModes tree next := by
  by_cases empty : ∃ number, setting.leads path = some number ∧ tree number = none
  · obtain ⟨number, leads, nothing⟩ := empty
    exact ⟨.created, _, by decide, ⟨number, 0o700, leads, nothing, rfl⟩,
      keepsModes_update nothing _⟩
  · push Not at empty
    exact ⟨.present, tree, by decide, ⟨empty, rfl⟩, fun number mode directory => directory⟩

theorem exec_makeEach_refused (setting : Setting) (tree : Tree) (parts : List (List UInt8)) :
    ∃ result, Exec (fileSystem setting) (makeEach parts) tree result tree := by
  cases parts with
  | nil => exact ⟨0, .done _ _⟩
  | cons part rest =>
    have failed : fileSystem setting (.mkdir part 0o700) tree MkdirResult.failed tree := rfl
    exact ⟨-1, .ask failed (.done _ _)⟩

/-- The requests for one directory, none of which fails but perhaps the `chmod`. -/
theorem exec_makeEach_cons {part : List UInt8} {rest : List (List UInt8)} {made : MkdirResult}
    {changed : Bool} {middle after : Tree} {result : Int} (granted : made ≠ .failed)
    (first : fileSystem setting (.mkdir part 0o700) tree made middle)
    (second : fileSystem setting (.chmod part 0o700) middle changed next)
    (others : Exec (fileSystem setting) (makeEach rest) next result after) :
    Exec (fileSystem setting) (makeEach (part :: rest)) tree result after := by
  refine .ask first ?_
  cases made with
  | failed => exact absurd rfl granted
  | created => exact .ask second others
  | present => exact .ask second others

/-- A part that leads to a directory, and a caller who may set its mode. -/
theorem exec_makeEach_present {part : List UInt8} {rest : List (List UInt8)} {number mode : Nat}
    {result : Int} {after : Tree} (leads : setting.leads part = some number)
    (directory : tree.HasDirectory number mode) (permitted : setting.permits number = true)
    (others : Exec (fileSystem setting) (makeEach rest)
      (Function.update tree number (some { directory := true, mode := 0o700 })) result after) :
    Exec (fileSystem setting) (makeEach (part :: rest)) tree result after := by
  have found : fileSystem setting (.mkdir part 0o700) tree MkdirResult.present tree := by
    refine ⟨fun other same => ?_, rfl⟩
    obtain rfl : number = other := Option.some.inj (leads.symm.trans same)
    rw [show tree number = _ from directory]
    exact Option.some_ne_none _
  have carried : fileSystem setting (.chmod part 0o700) tree true
      (Function.update tree number (some { directory := true, mode := 0o700 })) :=
    ⟨number, _, leads, directory, permitted, rfl⟩
  exact exec_makeEach_cons (by decide) found carried others

/-- A directory that one of the parts leads to may end up with the mode 0700. -/
theorem exists_changed {part : List UInt8} (member : part ∈ parts) {number mode : Nat}
    (leads : setting.leads part = some number) (directory : tree.HasDirectory number mode)
    (permitted : setting.permits number = true) :
    ∃ result after, Exec (fileSystem setting) (makeEach parts) tree result after ∧
      after.HasDirectory number 0o700 := by
  induction parts generalizing tree with
  | nil => cases member
  | cons first rest inductionHypothesis =>
    -- up to the part, no `mkdir` fails and every `chmod` does; after it, the walk may give up
    by_cases here : part = first
    · subst here
      obtain ⟨result, refused⟩ := exec_makeEach_refused setting
        (Function.update tree number (some { directory := true, mode := 0o700 })) rest
      exact ⟨result, _, exec_makeEach_present leads directory permitted refused,
        Function.update_self ..⟩
    · have inRest : part ∈ rest := (List.mem_cons.mp member).resolve_left here
      obtain ⟨made, middle, granted, answered, keeps⟩ := exists_mkdir setting tree first
      obtain ⟨result, after, execution, changed⟩ :=
        inductionHypothesis inRest (keeps number mode directory)
      have refused : fileSystem setting (.chmod first 0o700) middle false middle := rfl
      exact ⟨result, after, exec_makeEach_cons granted answered refused execution, changed⟩

/-- Making some directories keeps the modes of the older ones in every run exactly when no part
leads to a directory of another mode. -/
theorem makeEach_keepsModes_iff (setting : Setting) (before : Tree) (parts : List (List UInt8)) :
    (∀ result after, Exec (fileSystem setting) (makeEach parts) before result after →
      KeepsModes before after) ↔ ∀ part ∈ parts, PrivateAlready setting before part := by
  constructor
  · intro keeps part member number mode leads directory permitted
    obtain ⟨result, after, execution, changed⟩ :=
      exists_changed member leads directory permitted
    have kept := keeps result after execution number mode directory
    rw [Tree.HasDirectory, changed, Option.some.injEq, Node.mk.injEq] at kept
    exact kept.2.symm
  · intro already result after execution
    have steps : ∀ asked tree response next, Makes parts asked → KeepsModes before tree →
        fileSystem setting asked tree response next → KeepsModes before next :=
      fun _ _ _ _ makes keeps answered => keepsModes_step already makes keeps answered
    exact (asks_makeEach parts).ensures steps (fun number mode directory => directory) result after
      execution

/-- A call that asks for nothing changes nothing. -/
theorem done_keepsModes (setting : Setting) (before : Tree) (returned : Int) :
    ∀ result after, Exec (fileSystem setting) (.done returned) before result after →
      KeepsModes before after := by
  rintro result after ⟨⟩ number mode directory
  exact directory

theorem tree_keepsModes_iff (setting : Setting) (before : Tree) (path : Option CString) :
    (∀ result after, Exec (fileSystem setting) (ensureDirectoryTree path) before result after →
      KeepsModes before after) ↔
      ∀ given part, path = some given → given.bytes.length < pathMax → IsPart given.bytes part →
        PrivateAlready setting before part := by
  unfold ensureDirectoryTree
  cases path with
  | none =>
    refine iff_of_true (done_keepsModes setting before (-1)) ?_
    rintro given part ⟨⟩
  | some path =>
    dsimp only
    split
    · rename_i refused
      refine iff_of_true (done_keepsModes setting before (-1)) ?_
      rintro given part ⟨⟩ short isPart
      rcases refused with empty | long
      · rw [List.length_eq_zero_iff.mp empty] at isPart
        exact absurd isPart not_isPart_nil
      · omega
    · rename_i taken
      rw [not_or, Nat.not_le] at taken
      have nonempty : path.bytes ≠ [] := fun empty => taken.1 (congrArg List.length empty)
      rw [walkDirectories_eq, makeEach_keepsModes_iff]
      constructor
      · rintro already given part ⟨⟩ - isPart
        exact already part ((mem_partsFrom_take nonempty).mpr isPart)
      · intro already part member
        exact already path part rfl taken.2 ((mem_partsFrom_take nonempty).mp member)

theorem parent_keepsModes_iff (setting : Setting) (before : Tree) (path : CString) :
    (∀ result after, Exec (fileSystem setting) (ensureParentDirectory path) before result after →
      KeepsModes before after) ↔
      ∀ part, path.bytes.length < pathMax → parentOf path.bytes = some part →
        PrivateAlready setting before part := by
  unfold ensureParentDirectory
  split
  · rename_i long
    refine iff_of_true (done_keepsModes setting before (-1)) fun part short => ?_
    omega
  · rename_i short
    cases parentOf path.bytes with
    | none =>
      refine iff_of_true (done_keepsModes setting before 0) ?_
      rintro part - ⟨⟩
    | some parent =>
      refine (makeEach_keepsModes_iff setting before [parent]).trans ?_
      rw [List.forall_mem_singleton]
      constructor
      · rintro already part - ⟨⟩
        exact already
      · intro already
        exact already parent (Nat.not_le.mp short) rfl

end Modes

/-- `"/enclave"` -/
def enclaveHome : List UInt8 := [0x2f, 0x65, 0x6e, 0x63, 0x6c, 0x61, 0x76, 0x65]

/-- `"/enclave/.padlock"` -/
def enclavePadlock : List UInt8 :=
  enclaveHome ++ [0x2f, 0x2e, 0x70, 0x61, 0x64, 0x6c, 0x6f, 0x63, 0x6b]

/-- `"/enclave/.padlock/tpm"` -/
def enclaveTpm : CString where
  bytes := enclavePadlock ++ [0x2f, 0x74, 0x70, 0x6d]
  nulFree := by decide

/-- `"/enclave/store.plk"` -/
def enclaveStore : CString where
  bytes := enclaveHome ++ [0x2f, 0x73, 0x74, 0x6f, 0x72, 0x65, 0x2e, 0x70, 0x6c, 0x6b]
  nulFree := by decide

/-- The places of these paths, for a caller who owns the home. -/
def enclaveSetting : Setting where
  leads path :=
    if path = enclaveHome then some 1
    else if path = enclavePadlock then some 2
    else if path = enclaveTpm.bytes then some 3
    else none
  permits _ := true

/-- A home of some mode, and the directories of the library in it. -/
def enclaveTree (home : Nat) : Tree :=
  Function.update (fun number =>
    if number = 2 ∨ number = 3 then some { directory := true, mode := 0o700 } else none)
    1 (some { directory := true, mode := home })

/-- The way to the sealed key, where nothing fails. -/
theorem exec_enclaveTpm (home : Nat) :
    Exec (fileSystem enclaveSetting) (ensureDirectoryTree (some enclaveTpm)) (enclaveTree home) 0
      (enclaveTree 0o700) := by
  have walked : ensureDirectoryTree (some enclaveTpm) =
      makeEach [enclaveHome, enclavePadlock, enclaveTpm.bytes] :=
    walkDirectories_eq (enclaveTpm.bytes.take 1) (enclaveTpm.bytes.drop 1)
  have padlock : (enclaveTree 0o700).HasDirectory 2 0o700 := rfl
  have tpm : (enclaveTree 0o700).HasDirectory 3 0o700 := rfl
  rw [walked]
  apply exec_makeEach_present rfl (show (enclaveTree home).HasDirectory 1 home from rfl) rfl
  rw [enclaveTree, Function.update_idem, ← enclaveTree]
  apply exec_makeEach_present rfl padlock rfl
  rw [Function.update_eq_self_iff.mpr padlock.symm]
  apply exec_makeEach_present rfl tpm rfl
  rw [Function.update_eq_self_iff.mpr tpm.symm]
  exact .done _ _

/-- The parent of a store in the home, where nothing fails. -/
theorem exec_enclaveStore (home : Nat) :
    Exec (fileSystem enclaveSetting) (ensureParentDirectory enclaveStore) (enclaveTree home) 0
      (enclaveTree 0o700) := by
  have made : ensureParentDirectory enclaveStore = makeEach [enclaveHome] := rfl
  rw [made]
  apply exec_makeEach_present rfl (show (enclaveTree home).HasDirectory 1 home from rfl) rfl
  rw [enclaveTree, Function.update_idem, ← enclaveTree]
  exact .done _ _

end Padlock
