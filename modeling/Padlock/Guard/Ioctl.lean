/-
This file models the requests to the guard device. What a request depends on
besides the guard's state is given with it: the calling thread group, the bytes
at the user's address or the failure to copy them, what `kern_path` says at that
moment, the token drawn, and whether the answer can be copied back.
-/

import Padlock.Guard.Entry

namespace Padlock.Guard

/-! ### Requests -/

structure Request where
  path : Bytes pathMax
  start : UInt64
  length : UInt64
  token : UInt64
  flags : UInt32
  reserved : UInt32
  deriving DecidableEq

/-- The size of a request in memory. -/
def requestSize : UInt32 := 4128

def flagLocked : UInt32 := 1
def flagSession : UInt32 := 2

/-- A command number: direction, size, type and number of a request. -/
def ioc (direction type number size : UInt32) : UInt32 :=
  direction <<< 30 ||| size <<< 16 ||| type <<< 8 ||| number

def iocDirection (cmd : UInt32) : UInt32 := cmd >>> 30
def iocType (cmd : UInt32) : UInt32 := cmd >>> 8 &&& 255

def iocWrite : UInt32 := 1
def iocRead : UInt32 := 2

def ioctlMagic : UInt32 := 80

def ioctlRegister : UInt32 := ioc iocWrite ioctlMagic 1 requestSize
def ioctlUnregister : UInt32 := ioc iocWrite ioctlMagic 2 requestSize
def ioctlBeginWrite : UInt32 := ioc (iocRead ||| iocWrite) ioctlMagic 3 requestSize
def ioctlEndWrite : UInt32 := ioc iocWrite ioctlMagic 4 requestSize
def ioctlQuery : UInt32 := ioc (iocRead ||| iocWrite) ioctlMagic 5 requestSize

/-- A call of the device with all it depends on. -/
structure Call where
  current : Tgid
  cmd : UInt32
  copyFromUser : Option Request
  kernPath : KernPath
  /-- The first of the random tokens that is not 0 -/
  token : { token : UInt64 // token ≠ 0 }
  copyToUser : Bool

/-- What a call returns, and what it has copied back. -/
structure Reply where
  result : Int
  response : Option Request
  deriving DecidableEq

/-! ### The commands -/

section Commands

variable (hash : UInt64 → Bucket)

/-- The first slot that is not in use. -/
def firstFree (state : State) : Option Slot :=
  (List.finRange maxEntries).find? fun slot => !(state.entries slot).inUse

/-- Take a slot into use for an inode. -/
def State.take (state : State) (slot : Slot) (inode : Inode) : State where
  entries := Function.update state.entries slot
    { Entry.cleared with inUse := true, dev := inode.dev, ino := inode.ino }
  table := SlotTable.add state.table (bucketOf hash inode) slot

@[simp] theorem State.entries_take_self (state : State) (slot : Slot) (inode : Inode) :
    (state.take hash slot inode).entries slot =
      { Entry.cleared with inUse := true, dev := inode.dev, ino := inode.ino } :=
  Function.update_self ..

/-- Give a slot back. The entry keeps what it held. -/
def State.giveBack (state : State) (slot : Slot) : State where
  entries := Function.update state.entries slot { state.entries slot with inUse := false }
  table := SlotTable.remove state.table slot

@[simp] theorem State.entries_giveBack (state : State) (slot : Slot) :
    (state.giveBack slot).entries =
      Function.update state.entries slot { state.entries slot with inUse := false } := rfl

/-- Fill in an entry that is in use. -/
def Entry.reset (entry : Entry) (path : Bytes pathMax) (start length : UInt64) : Entry :=
  { entry with
    path := copyPath entry.path path
    start
    length
    locked := true
    sessionActive := false
    sessionDirty := false
    writerTgid := 0
    token := 0 }

def registerEntry (state : State) (kernPath : KernPath) (path : Bytes pathMax)
    (start length : UInt64) : Int × State :=
  match kernPath.lookup path with
  | none => (-enoent, state)
  | some none => (-enoent, state)
  | some (some inode) =>
    match findInodeLocked hash state (some inode) with
    | some slot => (0, state.setEntry slot ((state.entries slot).reset path start length))
    | none =>
      match firstFree state with
      | none => (-enospc, state)
      | some slot =>
        let taken := state.take hash slot inode
        (0, taken.setEntry slot ((taken.entries slot).reset path start length))

def unregisterEntry (state : State) (kernPath : KernPath) (path : Bytes pathMax) : State :=
  match kernPath.lookup path with
  | none => state
  | some none => state
  | some (some inode) =>
    match findInodeLocked hash state (some inode) with
    | none => state
    | some slot => state.giveBack slot

/-- The entry of the inode a request names, for the commands that refuse an empty path. -/
def requestedSlot (state : State) (kernPath : KernPath) (request : Request) : Except Int Slot :=
  if request.path.toList.getD 0 0 = 0 then .error (-einval)
  else
    match findPathLocked hash state kernPath request.path with
    | none => .error (-enoent)
    | some slot => .ok slot

def beginSession (state : State) (call : Call) (request : Request) : Int × Request × State :=
  match requestedSlot hash state call.kernPath request with
  | .error result => (result, request, state)
  | .ok slot =>
    let entry := state.entries slot
    if entry.sessionActive && entry.writerTgid != call.current then (-ebusy, request, state)
    else
      (0,
        { request with token := call.token, flags := flagLocked ||| flagSession },
        state.setEntry slot { entry with
          sessionActive := true
          writerTgid := call.current
          sessionDirty := true
          token := call.token })

def endSession (state : State) (call : Call) (request : Request) : Int × Request × State :=
  match requestedSlot hash state call.kernPath request with
  | .error result => (result, request, state)
  | .ok slot =>
    let entry := state.entries slot
    if !entry.sessionActive || entry.writerTgid != call.current || entry.token != request.token then
      (-eperm, request, state)
    else
      (0,
        { request with flags := flagLocked },
        state.setEntry slot { entry with
          sessionActive := false
          writerTgid := 0
          sessionDirty := false
          token := 0 })

def query (state : State) (call : Call) (request : Request) : Int × Request × State :=
  match requestedSlot hash state call.kernPath request with
  | .error result => (result, request, state)
  | .ok slot =>
    let entry := state.entries slot
    (0,
      { request with
        start := entry.start
        length := entry.length
        token := entry.token
        flags := (if entry.locked then flagLocked else 0) |||
          (if entry.sessionActive then flagSession else 0) },
      state)

/-- The switch of the device: the result, the request as it was filled in, and the state. The
inner `none` is a return out of the switch, which copies nothing back. -/
def dispatch (state : State) (call : Call) (request : Request) : Int × Option Request × State :=
  if call.cmd = ioctlRegister then
    if request.path.toList.getD (pathMax - 1) 0 ≠ 0 then (-enametoolong, none, state)
    else
      let (result, next) :=
        registerEntry hash state call.kernPath request.path request.start request.length
      (result, some { request with flags := if result = 0 then flagLocked else 0 }, next)
  else if call.cmd = ioctlUnregister then
    (0, some request, unregisterEntry hash state call.kernPath request.path)
  else if call.cmd = ioctlBeginWrite then
    let (result, filled, next) := beginSession hash state call request
    (result, some filled, next)
  else if call.cmd = ioctlEndWrite then
    let (result, filled, next) := endSession hash state call request
    (result, some filled, next)
  else if call.cmd = ioctlQuery then
    let (result, filled, next) := query hash state call request
    (result, some filled, next)
  else (-enotty, none, state)

def ioctl (state : State) (call : Call) : Reply × State :=
  if iocType call.cmd ≠ ioctlMagic then (⟨-enotty, none⟩, state)
  else
    match call.copyFromUser with
    | none => (⟨-efault, none⟩, state)
    | some request =>
      match dispatch hash state call request with
      | (result, none, next) => (⟨result, none⟩, next)
      | (result, some filled, next) =>
        if result ≠ 0 then (⟨result, none⟩, next)
        else if iocDirection call.cmd &&& iocRead ≠ 0 then
          if call.copyToUser then (⟨0, some filled⟩, next) else (⟨-efault, none⟩, next)
        else (⟨0, none⟩, next)

end Commands

end Padlock.Guard
