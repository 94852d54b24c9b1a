/-
This file models the state of the kernel guard and how it looks things up: the
array of entries, the hash table that indexes them by inode, and the decision of
the probes whether a process may write, truncate, unlink or rename a file.

The hash function of the table is a parameter, as nothing depends on which
bucket a key goes to. All the guard does happens under one mutex, so a look-up
and a whole ioctl are single steps.
-/

import Padlock.Library.SlotTable
import Padlock.Store.Format

namespace Padlock.Guard

/-! ### Numbers of the kernel -/

def eperm : Int := 1
def enoent : Int := 2
def efault : Int := 14
def ebusy : Int := 16
def einval : Int := 22
def enotty : Int := 25
def enospc : Int := 28
def enametoolong : Int := 36

def mayWrite : UInt32 := 2

/-! ### Entries -/

def pathMax : Nat := 4096
def hashBits : Nat := 8
def maxEntries : Nat := 64

/-- What identifies an inode: the device of its file system and its number on it. -/
structure Inode where
  dev : UInt32
  ino : UInt64
  deriving DecidableEq

/-- The thread group a process is known by. -/
abbrev Tgid := Int32

structure Entry where
  inUse : Bool
  dev : UInt32
  ino : UInt64
  path : Bytes pathMax
  start : UInt64
  length : UInt64
  token : UInt64
  writerTgid : Tgid
  locked : Bool
  sessionActive : Bool
  sessionDirty : Bool

namespace Entry

/-- An entry of zeros. -/
def cleared : Entry where
  inUse := false
  dev := 0
  ino := 0
  path := Bytes.cleared pathMax
  start := 0
  length := 0
  token := 0
  writerTgid := 0
  locked := false
  sessionActive := false
  sessionDirty := false

def inode (entry : Entry) : Inode where
  dev := entry.dev
  ino := entry.ino

end Entry

abbrev Slot := Fin maxEntries
abbrev Bucket := Fin (2 ^ hashBits)

/-- The entries, and the hash table with the slots of each bucket. -/
structure State where
  entries : Slot → Entry
  table : SlotTable.Index Slot Bucket

namespace State

/-- The guard when the module is loaded. -/
def initial : State where
  entries _ := Entry.cleared
  table _ := []

def setEntry (state : State) (slot : Slot) (entry : Entry) : State :=
  { state with entries := Function.update state.entries slot entry }

@[simp] theorem entries_setEntry (state : State) (slot : Slot) (entry : Entry) :
    (state.setEntry slot entry).entries = Function.update state.entries slot entry := rfl

end State

/-- The key of the hash table. Different inodes may have one key. -/
def key (inode : Inode) : UInt64 :=
  (inode.dev.toUInt64 <<< 32) ^^^ inode.ino

/-- Copy a path into an entry, up to its NUL or the last byte of the buffer; what stands behind
it in the buffer stays. -/
def copyPath (dst src : Bytes pathMax) : Bytes pathMax :=
  let length := ((src.toList.take (pathMax - 1)).takeWhile (· ≠ 0)).length
  ⟨src.toList.take length ++ 0 :: dst.toList.drop (length + 1), by
    have within : length ≤ pathMax - 1 :=
      (List.takeWhile_sublist _).length_le.trans (List.length_take_le ..)
    have size : pathMax = 4096 := rfl
    rw [List.length_append, List.length_cons, List.length_take, List.length_drop, src.lengthEq,
      dst.lengthEq]
    omega⟩

/-- What `kern_path` says of a path at some moment: an error, or the dentry it leads to, with or
without an inode. -/
abbrev KernPath := List UInt8 → Option (Option Inode)

/-- `kern_path` on a path array. An array without a NUL holds more than the longest path, which
`kern_path` refuses. -/
def KernPath.lookup (kernPath : KernPath) (path : Bytes pathMax) : Option (Option Inode) :=
  if 0 ∈ path.toList then kernPath (path.toList.takeWhile (· ≠ 0)) else none

section Lookup

variable (hash : UInt64 → Bucket)

def bucketOf (inode : Inode) : Bucket := hash (key inode)

def findLocked (state : State) (inode : Inode) : Option Slot :=
  SlotTable.find (bucketOf hash) (fun slot => (state.entries slot).inode) state.table inode

def findInodeLocked (state : State) (inode : Option Inode) : Option Slot :=
  match inode with
  | none => none
  | some inode => findLocked hash state inode

def findPathLocked (state : State) (kernPath : KernPath) (path : Bytes pathMax) : Option Slot :=
  match kernPath.lookup path with
  | none => none
  | some none => none
  | some (some inode) => findLocked hash state inode

/-! ### The probes -/

def isAuthorized (entry : Entry) (current : Tgid) : Bool :=
  entry.sessionActive && entry.writerTgid == current

/-- A pointer to a file or a dentry: null, or one with or without an inode. -/
abbrev Object := Option (Option Inode)

/-- The decision about an object; files and dentries are treated alike. -/
def denyObject (state : State) (current : Tgid) (object : Object) : Bool :=
  match object with
  | none => false
  | some none => false
  | some (some inode) =>
    match findInodeLocked hash state (some inode) with
    | none => false
    | some slot =>
      if !(state.entries slot).locked || isAuthorized (state.entries slot) current then false
      else true

def denyFile (state : State) (current : Tgid) (file : Object) : Bool :=
  denyObject hash state current file

def denyDentry (state : State) (current : Tgid) (dentry : Object) : Bool :=
  denyObject hash state current dentry

/-- The verdict of a handler: -EPERM, or `none` to let the probed function go on, also when there is
no return address. How the handler then sets the registers is not modelled; on x86_64 it leaves the
return address on the stack. -/
def kprobeDeny (returnAddress : UInt64) : Option Int :=
  if returnAddress = 0 then none else some (-eperm)

def kprobeFilePermission (state : State) (current : Tgid) (file : Object) (mask : UInt32)
    (returnAddress : UInt64) : Option Int :=
  if mask &&& mayWrite = 0 then none
  else if !denyFile hash state current file then none
  else kprobeDeny returnAddress

def kprobeFileTruncate (state : State) (current : Tgid) (file : Object) (returnAddress : UInt64) :
    Option Int :=
  if !denyFile hash state current file then none else kprobeDeny returnAddress

/-- The probes on dentries. -/
def kprobeDentry (state : State) (current : Tgid) (dentry : Object) (returnAddress : UInt64) :
    Option Int :=
  if !denyDentry hash state current dentry then none else kprobeDeny returnAddress

def kprobePathUnlink (state : State) (current : Tgid) (dentry : Object) (returnAddress : UInt64) :
    Option Int :=
  kprobeDentry hash state current dentry returnAddress

/-- Of the two dentries of a rename only the renamed one is looked at. -/
def kprobePathRename (state : State) (current : Tgid) (oldDentry _newDentry : Object)
    (returnAddress : UInt64) : Option Int :=
  kprobeDentry hash state current oldDentry returnAddress

def kprobePathTruncate (state : State) (current : Tgid) (path : Option Object)
    (returnAddress : UInt64) : Option Int :=
  let dentry := match path with
    | some dentry => dentry
    | none => none
  kprobeDentry hash state current dentry returnAddress

/-- A call of one of the probed functions. -/
inductive Hook where
  | filePermission (file : Object) (mask : UInt32)
  | fileTruncate (file : Object)
  | pathUnlink (dentry : Object)
  | pathRename (oldDentry newDentry : Object)
  | pathTruncate (path : Option Object)

/-- What a probe does to a call. -/
def Hook.verdict (state : State) (current : Tgid) (returnAddress : UInt64) : Hook → Option Int
  | .filePermission file mask => kprobeFilePermission hash state current file mask returnAddress
  | .fileTruncate file => kprobeFileTruncate hash state current file returnAddress
  | .pathUnlink dentry => kprobePathUnlink hash state current dentry returnAddress
  | .pathRename oldDentry newDentry =>
    kprobePathRename hash state current oldDentry newDentry returnAddress
  | .pathTruncate path => kprobePathTruncate hash state current path returnAddress

/-- The inode a hook inspects: of a permission check only one for writing, of a rename the
renamed file. -/
def Hook.inspects : Hook → Option Inode
  | .filePermission file mask => if mask &&& mayWrite = 0 then none else file.join
  | .fileTruncate file => file.join
  | .pathUnlink dentry => dentry.join
  | .pathRename oldDentry _ => oldDentry.join
  | .pathTruncate path => path.join.join

/-- A call is denied. -/
def Hook.denied (state : State) (current : Tgid) (returnAddress : UInt64) (hook : Hook) : Prop :=
  hook.verdict hash state current returnAddress = some (-eperm)

end Lookup

end Padlock.Guard
