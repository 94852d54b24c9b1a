/-
This file models the conversation functions that the tool hands to PAM. PAM comes
with a list of messages and wants an array from the heap in which every prompt has
a copy of the password of its own. On the way memory can run out and a message can
be of an unknown style, and then everything taken so far has to be given back.

The heap is a map from addresses to blocks. It breaks where a block is used that
is not there, or past its end. Whatever the messages are and whichever allocation
is refused, it does not break; and after a failure it holds exactly what it held
before.
-/

import Mathlib.Data.List.Forall2
import Padlock.Cli.Process

namespace Padlock

open Interaction Program

/-! ### The heap -/

abbrev Address := Nat

/-- `struct pam_response`. -/
structure PamResponse where
  resp : Option Address
  respRetcode : Int
  deriving DecidableEq

/-- As `calloc` leaves it. -/
def PamResponse.zero : PamResponse := ⟨none, 0⟩

/-- A block of the heap. Bytes that were never written are `none`. -/
inductive HeapBlock where
  | responses (items : List PamResponse)
  | text (bytes : List (Option UInt8))
  deriving DecidableEq

inductive HeapRequest where
  /-- `calloc` of so many `struct pam_response` -/
  | calloc (count : Nat)
  | malloc (size : Nat)
  | free (block : Option Address)
  | memcpy (block : Address) (bytes : List UInt8)
  /-- `responses[index].resp = resp` -/
  | setResp (responses : Address) (index : Nat) (resp : Option Address)
  /-- `responses[index].resp` -/
  | getResp (responses : Address) (index : Nat)

abbrev HeapResponse : HeapRequest → Type
  | .calloc _ => Option Address
  | .malloc _ => Option Address
  | .free _ => Unit
  | .memcpy _ _ => Unit
  | .setResp _ _ _ => Unit
  | .getResp _ _ => Option Address

abbrev OnHeap (Result : Type) := Program HeapRequest HeapResponse Result

structure Heap where
  blocks : Address → Option HeapBlock
  /-- An allocation was refused. -/
  refused : Bool := false
  /-- A block was used that was not there, or past its end. -/
  broken : Bool := false

namespace Heap

def put (heap : Heap) (address : Address) (block : Option HeapBlock) : Heap :=
  { heap with blocks := Function.update heap.blocks address block }

def breaks (heap : Heap) : Heap := { heap with broken := true }

/-- An allocation is refused, or finds room where nothing is. -/
def Allocates (heap : Heap) (block : HeapBlock) : Option Address → Heap → Prop
  | none, next => next = { heap with refused := true }
  | some address, next => heap.blocks address = none ∧ next = heap.put address (some block)

def answers : Surroundings HeapRequest HeapResponse Heap
  | .calloc count, heap, array, next =>
    heap.Allocates (.responses (List.replicate count .zero)) array next
  | .malloc size, heap, block, next => heap.Allocates (.text (List.replicate size none)) block next
  | .free none, heap, _, next => next = heap
  | .free (some block), heap, _, next =>
    next = if (heap.blocks block).isSome then heap.put block none else heap.breaks
  | .memcpy block bytes, heap, _, next =>
    next = match heap.blocks block with
      | some (.text old) =>
        if bytes.length ≤ old.length then
          heap.put block (some (.text (bytes.map some ++ old.drop bytes.length)))
        else heap.breaks
      | _ => heap.breaks
  | .setResp responses index resp, heap, _, next =>
    next = match heap.blocks responses with
      | some (.responses items) =>
        match items[index]? with
        | some item =>
          heap.put responses (some (.responses (items.set index { item with resp })))
        | none => heap.breaks
      | _ => heap.breaks
  | .getResp responses index, heap, resp, next =>
    match heap.blocks responses with
    | some (.responses items) =>
      match items[index]? with
      | some item => resp = item.resp ∧ next = heap
      | none => next = heap.breaks
    | _ => next = heap.breaks

end Heap

/-! ### The conversation -/

namespace Process

def pamBufErr : Int := 5
def pamConvErr : Int := 19

def pamPromptEchoOff : Int := 1
def pamPromptEchoOn : Int := 2
def pamErrorMsg : Int := 3
def pamTextInfo : Int := 4

/-- `struct pam_password_state`. -/
structure PamPasswordState where
  password : Option CString

abbrev heap (asked : HeapRequest) : OnHeap (HeapResponse asked) := request asked

/-- `free(responses[cleanup].resp)` for so many more. -/
def releaseAnswers (responses : Address) : Nat → Nat → OnHeap Unit
  | 0, _ => pure ()
  | remaining + 1, cleanup => do
    let resp : Option Address ← heap (.getResp responses cleanup)
    heap (.free resp)
    releaseAnswers responses remaining (cleanup + 1)

/-- The answers before this one, and the array, are given back. -/
def giveUp (responses : Address) (index : Nat) (code : Int) : OnHeap (Int × Option Address) := do
  releaseAnswers responses index 0
  heap (.free (some responses))
  return (code, none)

/-- The loop over the messages; `msg[index]` has to be there. -/
def answerMessages (password : CString) (msg : List Int) (responses : Address) :
    Nat → Nat → OnHeap (Int × Option Address)
  | 0, _ => pure (pamSuccess, some responses)
  | remaining + 1, index => do
    let style ← bounded msg[index]?
    if style = pamPromptEchoOff ∨ style = pamPromptEchoOn then
      let resp : Option Address ← heap (.malloc (password.bytes.length + 1))
      heap (.setResp responses index resp)
      match resp with
      | none => giveUp responses index pamBufErr
      | some resp =>
        heap (.memcpy resp (password.bytes ++ [0]))
        answerMessages password msg responses remaining (index + 1)
    else if style = pamErrorMsg ∨ style = pamTextInfo then
      heap (.setResp responses index none)
      answerMessages password msg responses remaining (index + 1)
    else giveUp responses index pamConvErr

/-- `pam_password_conversation`: the code, and the array where `*resp` is set. Of the messages only
the styles are looked at. -/
def pamPasswordConversation (numMsg : Int) (msg : Option (List Int)) (resp : Bool)
    (state : Option PamPasswordState) : OnHeap (Int × Option Address) :=
  match msg, state with
  | some msg, some ⟨some password⟩ =>
    if numMsg ≤ 0 ∨ resp = false then pure (pamConvErr, none)
    else do
      let responses : Option Address ← heap (.calloc numMsg.toNat)
      match responses with
      | none => return (pamBufErr, none)
      | some responses => answerMessages password msg responses numMsg.toNat 0
  | _, _ => pure (pamConvErr, none)

/-- `pam_no_prompt_conversation`. -/
def pamNoPromptConversation : OnHeap (Int × Option Address) := pure (pamConvErr, none)

/-- The conversation that `converse` hands to `pam_start`. -/
def pamConversation (conversation : Option CString) (numMsg : Int) (msg : Option (List Int))
    (resp : Bool) : OnHeap (Int × Option Address) :=
  match conversation with
  | none => pamNoPromptConversation
  | some password => pamPasswordConversation numMsg msg resp (some ⟨some password⟩)

/-! ### What is owed to PAM -/

def Prompts (style : Int) : Prop := style = pamPromptEchoOff ∨ style = pamPromptEchoOn

def Tells (style : Int) : Prop := style = pamErrorMsg ∨ style = pamTextInfo

instance (style : Int) : Decidable (Prompts style) := inferInstanceAs (Decidable (_ ∨ _))
instance (style : Int) : Decidable (Tells style) := inferInstanceAs (Decidable (_ ∨ _))

/-- The arguments are there. -/
structure Given (numMsg : Int) (msg : Option (List Int)) (resp : Bool)
    (state : Option PamPasswordState) (styles : List Int) (password : CString) : Prop where
  positive : 0 < numMsg
  messages : msg = some styles
  place : resp = true
  known : state = some ⟨some password⟩

/-- A prompt is answered with a block, and what only tells something with none. -/
def AnswerTo (style : Int) (answer : PamResponse) : Prop :=
  (Prompts style ∧ answer.resp.isSome ∨ Tells style ∧ answer.resp = none) ∧ answer.respRetcode = 0

/-- The blocks that an array points to. -/
def copies (items : List PamResponse) : List Address := items.filterMap PamResponse.resp

theorem copies_cons (item : PamResponse) (items : List PamResponse) :
    copies (item :: items) = item.resp.toList ++ copies items := by
  rw [copies, List.filterMap_cons]
  cases item.resp <;> rfl

/-- The heap holds the blocks it held, the array, and the text in each of these blocks. -/
structure Owned (blocks : Address → Option HeapBlock) (array : Address)
    (items : List PamResponse) (owned : List Address) (text : List UInt8) (heap : Heap) :
    Prop where
  whole : heap.broken = false
  holds : heap.blocks array = some (.responses items)
  new : blocks array = none
  copied : ∀ block ∈ owned, heap.blocks block = some (.text (text.map some))
  apart : ∀ block ∈ owned, blocks block = none ∧ block ≠ array
  distinct : owned.Nodup
  others : ∀ block, block ≠ array → block ∉ owned → heap.blocks block = blocks block

/-- How the function may end for these messages and this password. -/
inductive Answers (blocks : Address → Option HeapBlock) (styles : List Int) (password : CString) :
    Int × Option Address → Heap → Prop
  | answered {array : Address} {items : List PamResponse} {final : Heap}
      (answers : List.Forall₂ AnswerTo styles items)
      (owned : Owned blocks array items (copies items) (password.bytes ++ [0]) final)
      (granted : final.refused = false) :
      Answers blocks styles password (pamSuccess, some array) final
  | refused {final : Heap} (same : final = { blocks, refused := true }) :
      Answers blocks styles password (pamBufErr, none) final
  | unknown {style : Int} {final : Heap} (member : style ∈ styles)
      (unknown : ¬Prompts style ∧ ¬Tells style) (same : final = { blocks }) :
      Answers blocks styles password (pamConvErr, none) final

/-! ### Giving back -/

section Loops

variable {blocks : Address → Option HeapBlock} {array : Address} {items : List PamResponse}
  {owned : List Address} {text : List UInt8} {start : Heap}

theorem Owned.ensures_getResp (state : Owned blocks array items owned text start) {index : Nat}
    {item : PamResponse} (there : items[index]? = some item) {Result : Type}
    {next : Option Address → OnHeap Result} {condition : Result → Heap → Prop}
    (rest : Ensures Heap.answers (next item.resp) start condition) :
    Ensures Heap.answers (heap (.getResp array index) >>= next) start condition := by
  refine ensures_request.mpr fun resp middle answered => ?_
  simp only [Heap.answers, state.holds, there] at answered
  obtain ⟨rfl, rfl⟩ := answered
  exact rest

theorem Owned.free {block : Address}
    (state : Owned blocks array items (block :: owned) text start) :
    Owned blocks array items owned text (start.put block none) := by
  obtain ⟨unlisted, distinct⟩ := List.nodup_cons.mp state.distinct
  have new := state.apart block List.mem_cons_self
  refine ⟨state.whole, ?_, state.new, ?_, ?_, distinct, ?_⟩
  · exact (Function.update_of_ne (Ne.symm new.2) _ _).trans state.holds
  · intro other member
    have different : other ≠ block := by
      rintro rfl
      exact unlisted member
    exact (Function.update_of_ne different _ _).trans
      (state.copied other (List.mem_cons_of_mem _ member))
  · exact fun other member => state.apart other (List.mem_cons_of_mem _ member)
  · intro other apart notOwned
    by_cases same : other = block
    · rw [same, new.1]
      exact Function.update_self _ _ _
    · refine (Function.update_of_ne same _ _).trans (state.others other apart ?_)
      exact List.not_mem_cons_of_ne_of_not_mem same notOwned

theorem Owned.ensures_free {resp : Option Address}
    (state : Owned blocks array items (resp.toList ++ owned) text start) {Result : Type}
    {next : Unit → OnHeap Result} {condition : Result → Heap → Prop}
    (rest : ∀ later, Owned blocks array items owned text later → later.refused = start.refused →
      Ensures Heap.answers (next ()) later condition) :
    Ensures Heap.answers (heap (.free resp) >>= next) start condition := by
  refine ensures_request.mpr fun response middle answered => ?_
  cases resp with
  | none =>
    obtain rfl : middle = start := answered
    exact rest middle state rfl
  | some block =>
    have there : start.blocks block = some (.text (text.map some)) :=
      state.copied block List.mem_cons_self
    simp only [Heap.answers, there, Option.isSome_some, if_true] at answered
    subst answered
    exact rest _ state.free rfl

/-- The loops that clean up free what stands in this part of the array. -/
theorem ensures_releaseAnswers (remaining cleanup : Nat) {start : Heap}
    (inside : cleanup + remaining ≤ items.length)
    (state : Owned blocks array items (copies ((items.drop cleanup).take remaining)) text start) :
    Ensures Heap.answers (releaseAnswers array remaining cleanup) start fun _ final =>
      Owned blocks array items [] text final ∧ final.refused = start.refused := by
  induction remaining generalizing cleanup start with
  | zero => exact ensures_done.mpr ⟨state, rfl⟩
  | succ remaining inductionHypothesis =>
    have there : cleanup < items.length := by omega
    refine state.ensures_getResp (List.getElem?_eq_getElem there) ?_
    rw [List.drop_eq_getElem_cons there, List.take_succ_cons, copies_cons] at state
    refine state.ensures_free fun later released refused => ?_
    rw [← refused]
    exact inductionHypothesis (cleanup + 1) (by omega) released

/-- The items where these messages are answered and so many are left. -/
def itemsAfter (answered : List PamResponse) (remaining : Nat) : List PamResponse :=
  answered ++ List.replicate remaining .zero

theorem getElem?_itemsAfter (answered : List PamResponse) (remaining : Nat) :
    (itemsAfter answered (remaining + 1))[answered.length]? = some .zero := by
  rw [itemsAfter, List.getElem?_append_right le_rfl, Nat.sub_self, List.replicate_succ]
  rfl

/-- An answer without a block is what the array held before. -/
theorem itemsAfter_zero (answered : List PamResponse) (remaining : Nat) :
    itemsAfter (answered ++ [.zero]) remaining = itemsAfter answered (remaining + 1) := by
  rw [itemsAfter, List.append_assoc]
  rfl

theorem set_itemsAfter (answered : List PamResponse) (remaining : Nat) (item : PamResponse) :
    (itemsAfter answered (remaining + 1)).set answered.length item =
      itemsAfter (answered ++ [item]) remaining := by
  rw [itemsAfter, List.set_append_right _ _ le_rfl, Nat.sub_self, List.replicate_succ,
    List.set_cons_zero, itemsAfter, List.append_assoc]
  rfl

theorem take_itemsAfter (answered : List PamResponse) (remaining : Nat) :
    (itemsAfter answered remaining).take answered.length = answered := by
  rw [itemsAfter]
  exact List.take_left

theorem le_length_itemsAfter (answered : List PamResponse) (remaining : Nat) :
    answered.length ≤ (itemsAfter answered remaining).length := by
  rw [itemsAfter, List.length_append]
  exact Nat.le_add_right _ _

/-- Giving up leaves the blocks there were. -/
theorem Owned.ensures_giveUp {answered : List PamResponse} {remaining : Nat}
    (state : Owned blocks array (itemsAfter answered remaining) (copies answered) text start)
    (code : Int) :
    Ensures Heap.answers (giveUp array answered.length code) start fun result final =>
      result = (code, none) ∧ final = { blocks, refused := start.refused } := by
  have inside : 0 + answered.length ≤ (itemsAfter answered remaining).length := by
    rw [Nat.zero_add]
    exact le_length_itemsAfter answered remaining
  have listed : Owned blocks array (itemsAfter answered remaining)
      (copies (((itemsAfter answered remaining).drop 0).take answered.length)) text start := by
    rw [List.drop_zero, take_itemsAfter]
    exact state
  refine (ensures_releaseAnswers answered.length 0 inside listed).bind ?_
  rintro _ middle ⟨released, refused⟩
  refine ensures_request.mpr fun response final answered => ensures_done.mpr ⟨rfl, ?_⟩
  simp only [Heap.answers, released.holds, Option.isSome_some, if_true] at answered
  subst answered
  have same : Function.update middle.blocks array none = blocks := by
    funext block
    by_cases here : block = array
    · rw [here, Function.update_self, released.new]
    · rw [Function.update_of_ne here]
      exact released.others block here List.not_mem_nil
  show Heap.mk _ _ _ = _
  rw [same, refused, released.whole]

/-! ### Answering -/

/-- Writing to the array. -/
theorem Owned.store (state : Owned blocks array items owned text start)
    (later : List PamResponse) :
    Owned blocks array later owned text (start.put array (some (.responses later))) := by
  refine ⟨state.whole, Function.update_self _ _ _, state.new, ?_, state.apart, state.distinct, ?_⟩
  · intro block member
    exact (Function.update_of_ne (state.apart block member).2 _ _).trans (state.copied block member)
  · intro block apart notOwned
    exact (Function.update_of_ne apart _ _).trans (state.others block apart notOwned)

theorem ensures_setResp {answered : List PamResponse} {remaining : Nat} {resp : Option Address}
    (holds : start.blocks array = some (.responses (itemsAfter answered (remaining + 1))))
    {Result : Type} {next : Unit → OnHeap Result} {condition : Result → Heap → Prop}
    (rest : Ensures Heap.answers (next ())
      (start.put array (some (.responses (itemsAfter (answered ++ [⟨resp, 0⟩]) remaining))))
      condition) :
    Ensures Heap.answers (heap (.setResp array answered.length resp) >>= next) start condition := by
  refine ensures_request.mpr fun (_ : Unit) middle written => ?_
  simp only [Heap.answers, holds, getElem?_itemsAfter, set_itemsAfter] at written
  subst written
  exact rest

/-- No block is put where there was none. -/
theorem Owned.ensures_setNone {answered : List PamResponse} {remaining : Nat}
    (state : Owned blocks array (itemsAfter answered (remaining + 1)) owned text start)
    {Result : Type} {next : Unit → OnHeap Result} {condition : Result → Heap → Prop}
    (rest : ∀ later, Owned blocks array (itemsAfter answered (remaining + 1)) owned text later →
      later.refused = start.refused → Ensures Heap.answers (next ()) later condition) :
    Ensures Heap.answers (heap (.setResp array answered.length none) >>= next) start condition := by
  refine ensures_setResp state.holds (rest _ ?_ rfl)
  have same : itemsAfter (answered ++ [⟨none, 0⟩]) remaining =
      itemsAfter answered (remaining + 1) := itemsAfter_zero answered remaining
  rw [same]
  exact state.store _

/-- A prompt: the new block stands in the array, and the text in the block. -/
theorem Owned.copy {block : Address} {fresh : HeapBlock} {later : List PamResponse}
    (state : Owned blocks array items owned text start) (free : start.blocks block = none) :
    Owned blocks array later (owned ++ [block]) text
      (((start.put block (some fresh)).put array (some (.responses later))).put block
        (some (.text (text.map some)))) := by
  have apart : block ≠ array := by
    rintro rfl
    rw [state.holds] at free
    cases free
  have unlisted : block ∉ owned := by
    intro member
    rw [state.copied block member] at free
    cases free
  have new : blocks block = none := (state.others block apart unlisted).symm.trans free
  refine ⟨state.whole, ?_, state.new, ?_, ?_, ?_, ?_⟩
  · exact (Function.update_of_ne apart.symm _ _).trans (Function.update_self _ _ _)
  · intro other member
    rcases List.mem_append.mp member with old | added
    · have different : other ≠ block := by
        rintro rfl
        exact unlisted old
      refine (Function.update_of_ne different _ _).trans ?_
      refine (Function.update_of_ne (state.apart other old).2 _ _).trans ?_
      exact (Function.update_of_ne different _ _).trans (state.copied other old)
    · rw [List.mem_singleton.mp added]
      exact Function.update_self _ _ _
  · intro other member
    rcases List.mem_append.mp member with old | added
    · exact state.apart other old
    · rw [List.mem_singleton.mp added]
      exact ⟨new, apart⟩
  · refine List.nodup_append.mpr ⟨state.distinct, List.pairwise_singleton _ _, ?_⟩
    intro old member other added same
    rw [same, List.mem_singleton.mp added] at member
    exact unlisted member
  · intro other aside notOwned
    rw [List.mem_append, not_or, List.mem_singleton] at notOwned
    refine (Function.update_of_ne notOwned.2 _ _).trans ?_
    refine (Function.update_of_ne aside _ _).trans ?_
    exact (Function.update_of_ne notOwned.2 _ _).trans (state.others other aside notOwned.1)

/-- What becomes of a prompt once there is memory for its answer. -/
theorem Owned.ensures_copy {answered : List PamResponse} {remaining : Nat} {block : Address}
    (state : Owned blocks array (itemsAfter answered (remaining + 1)) owned text start)
    (free : start.blocks block = none) {Result : Type} {next : Unit → OnHeap Result}
    {condition : Result → Heap → Prop}
    (rest : ∀ final, Owned blocks array (itemsAfter (answered ++ [⟨some block, 0⟩]) remaining)
      (owned ++ [block]) text final → final.refused = start.refused →
        Ensures Heap.answers (next ()) final condition) :
    Ensures Heap.answers (heap (.setResp array answered.length (some block)) >>= fun _ =>
        heap (.memcpy block text) >>= next)
      (start.put block (some (.text (List.replicate text.length none)))) condition := by
  have apart : block ≠ array := by
    rintro rfl
    rw [state.holds] at free
    cases free
  have holds := (Function.update_of_ne apart.symm
    (some (HeapBlock.text (List.replicate text.length none))) start.blocks).trans state.holds
  refine ensures_setResp holds ?_
  generalize itemsAfter (answered ++ [⟨some block, 0⟩]) remaining = later at rest ⊢
  have there : ((start.put block (some (.text (List.replicate text.length none)))).put array
      (some (.responses later))).blocks block =
        some (.text (List.replicate text.length none)) :=
    (Function.update_of_ne apart _ _).trans (Function.update_self _ _ _)
  refine ensures_request.mpr fun response final written => ?_
  have full : (List.replicate text.length (none : Option UInt8)).drop text.length = [] :=
    List.drop_eq_nil_of_le (le_of_eq List.length_replicate)
  simp only [Heap.answers, there, List.length_replicate, le_refl, if_true, full,
    List.append_nil] at written
  subst written
  exact rest _ (state.copy free) rfl

/-- A memory that was refused breaks nothing of what is owned. -/
theorem Owned.refuse (state : Owned blocks array items owned text start) :
    Owned blocks array items owned text { start with refused := true } :=
  ⟨state.whole, state.holds, state.new, state.copied, state.apart, state.distinct, state.others⟩

theorem copies_append (answered : List PamResponse) (item : PamResponse) :
    copies (answered ++ [item]) = copies answered ++ item.resp.toList := by
  have last : copies [item] = item.resp.toList := (copies_cons item []).trans (List.append_nil _)
  rw [← last]
  exact List.filterMap_append

/-- By induction on the messages that are left: what was answered so far is owned. -/
theorem ensures_answerMessages {styles : List Int} {password : CString} {count : Nat}
    (remaining : Nat) (answered : List PamResponse) {start : Heap}
    (total : answered.length + remaining = count)
    (answers : List.Forall₂ AnswerTo (styles.take answered.length) answered)
    (state : Owned blocks array (itemsAfter answered remaining) (copies answered)
      (password.bytes ++ [0]) start) (granted : start.refused = false) :
    Ensures Heap.answers (answerMessages password styles array remaining answered.length) start
      (Answers blocks (styles.take count) password) := by
  induction remaining generalizing answered start with
  | zero =>
    rw [← total]
    rw [itemsAfter, List.replicate_zero, List.append_nil] at state
    exact ensures_done.mpr (.answered answers state granted)
  | succ remaining inductionHypothesis =>
    refine ensures_bounded fun style there => ?_
    have taken : styles.take (answered.length + 1) = styles.take answered.length ++ [style] := by
      rw [List.take_add_one, there]
      rfl
    have member : style ∈ styles.take count := by
      refine List.mem_of_getElem? (i := answered.length) ?_
      rw [List.getElem?_take_of_lt (by omega), there]
    have later (item : PamResponse) (answer : AnswerTo style item) {final : Heap}
        (owned : Owned blocks array (itemsAfter (answered ++ [item]) remaining)
          (copies (answered ++ [item])) (password.bytes ++ [0]) final)
        (still : final.refused = false) :
        Ensures Heap.answers
          (answerMessages password styles array remaining (answered.length + 1)) final
          (Answers blocks (styles.take count) password) := by
      have length : (answered ++ [item]).length = answered.length + 1 := List.length_append
      rw [← length]
      refine inductionHypothesis (answered ++ [item]) (by omega) ?_ owned still
      rw [length, taken]
      exact List.rel_append answers (.cons answer .nil)
    by_cases prompts : Prompts style
    case pos =>
      show Ensures _ (if Prompts style then _ else _) _ _
      rw [if_pos prompts]
      refine ensures_request.mpr fun resp middle allocated => ?_
      cases resp with
      | none =>
        obtain rfl : middle = { start with refused := true } := allocated
        refine state.refuse.ensures_setNone fun later owned refused => ?_
        refine (owned.ensures_giveUp pamBufErr).imp ?_
        rintro result final ⟨rfl, same⟩
        rw [refused] at same
        exact .refused same
      | some block =>
        obtain ⟨free, rfl⟩ := allocated
        have size : password.bytes.length + 1 = (password.bytes ++ [0]).length := by
          rw [List.length_append]
          rfl
        rw [size]
        refine state.ensures_copy free fun final owned refused => ?_
        have listed : copies (answered ++ [⟨some block, 0⟩]) = copies answered ++ [block] :=
          copies_append answered _
        rw [← listed] at owned
        exact later ⟨some block, 0⟩ ⟨.inl ⟨prompts, rfl⟩, rfl⟩ owned (refused.trans granted)
    case neg =>
      show Ensures _ (if Prompts style then _ else if Tells style then _ else _) _ _
      rw [if_neg prompts]
      by_cases tells : Tells style
      · rw [if_pos tells]
        refine state.ensures_setNone fun final owned refused => ?_
        have listed : copies (answered ++ [.zero]) = copies answered :=
          (copies_append answered _).trans (List.append_nil _)
        rw [← itemsAfter_zero, ← listed] at owned
        exact later .zero ⟨.inr ⟨tells, rfl⟩, rfl⟩ owned (refused.trans granted)
      · rw [if_neg tells]
        refine (state.ensures_giveUp pamConvErr).imp ?_
        rintro result final ⟨rfl, same⟩
        rw [granted] at same
        exact .unknown member ⟨prompts, tells⟩ same

end Loops

/-! ### The conversation as a whole -/

theorem safe_releaseAnswers (responses : Address) (remaining cleanup : Nat) :
    (releaseAnswers responses remaining cleanup).Safe := by
  induction remaining generalizing cleanup with
  | zero => trivial
  | succ remaining inductionHypothesis =>
    exact fun resp response => inductionHypothesis (cleanup + 1)

theorem safe_giveUp (responses : Address) (index : Nat) (code : Int) :
    (giveUp responses index code).Safe :=
  (safe_releaseAnswers responses index 0).bind fun _ _ => trivial

/-- No message is read that is not there. -/
theorem safe_answerMessages (password : CString) {msg : List Int} (responses : Address)
    (remaining index : Nat) (long : index + remaining ≤ msg.length) :
    (answerMessages password msg responses remaining index).Safe := by
  induction remaining generalizing index with
  | zero => trivial
  | succ remaining inductionHypothesis =>
    have there : index < msg.length := by omega
    have later := inductionHypothesis (index + 1) (by omega)
    unfold answerMessages
    rw [List.getElem?_eq_getElem there, bounded_some, done_bind]
    split
    · refine fun resp response => ?_
      cases resp with
      | none => exact safe_giveUp responses index pamBufErr
      | some block => exact fun response => later
    split
    · exact fun response => later
    · exact safe_giveUp responses index pamConvErr

/-- How the function may end. -/
def Ends (blocks : Address → Option HeapBlock) (numMsg : Int) (msg : Option (List Int))
    (resp : Bool) (state : Option PamPasswordState) (result : Int × Option Address)
    (final : Heap) : Prop :=
  (∃ styles password, Given numMsg msg resp state styles password ∧
      Answers blocks (styles.take numMsg.toNat) password result final) ∨
    (¬∃ styles password, Given numMsg msg resp state styles password) ∧
      result = (pamConvErr, none) ∧ final = { blocks }

theorem ensures_pamPasswordConversation (blocks : Address → Option HeapBlock) (numMsg : Int)
    (msg : Option (List Int)) (resp : Bool) (state : Option PamPasswordState) :
    Ensures Heap.answers (pamPasswordConversation numMsg msg resp state) { blocks }
      (Ends blocks numMsg msg resp state) := by
  by_cases given : ∃ styles password, Given numMsg msg resp state styles password
  case neg =>
    have refused : pamPasswordConversation numMsg msg resp state = pure (pamConvErr, none) := by
      unfold pamPasswordConversation
      split
      next styles password =>
        refine if_pos ?_
        by_contra there
        rw [not_or, not_le, Bool.not_eq_false] at there
        exact given ⟨styles, password, there.1, rfl, there.2, rfl⟩
      · rfl
    rw [refused]
    exact ensures_done.mpr (.inr ⟨given, rfl, rfl⟩)
  case pos =>
    obtain ⟨styles, password, isGiven⟩ := given
    obtain ⟨positive, rfl, rfl, rfl⟩ := isGiven
    have conclude {result : Int × Option Address} {final : Heap}
        (answers : Answers blocks (styles.take numMsg.toNat) password result final) :
        Ends blocks numMsg (some styles) true (some ⟨some password⟩) result final :=
      .inl ⟨styles, password, ⟨positive, rfl, rfl, rfl⟩, answers⟩
    unfold pamPasswordConversation
    dsimp only
    rw [if_neg (by simp [positive])]
    refine ensures_request.mpr fun array middle allocated => ?_
    cases array with
    | none =>
      obtain rfl : middle = { blocks, refused := true } := allocated
      exact ensures_done.mpr (conclude (.refused rfl))
    | some array =>
      obtain ⟨free, rfl⟩ := allocated
      have state : Owned blocks array (itemsAfter [] numMsg.toNat) (copies [])
          (password.bytes ++ [0])
          (Heap.put { blocks } array (some (.responses (List.replicate numMsg.toNat .zero)))) := by
        refine ⟨rfl, Function.update_self _ _ _, free, ?_, ?_, List.nodup_nil, ?_⟩
        · exact fun block member => absurd member List.not_mem_nil
        · exact fun block member => absurd member List.not_mem_nil
        · exact fun block apart _ => Function.update_of_ne apart _ _
      refine (ensures_answerMessages numMsg.toNat [] (Nat.zero_add _) ?_ state rfl).imp ?_
      · exact .nil
      · exact fun result final answers => conclude answers

/-- No message is read that is not there. -/
theorem safe_pamPasswordConversation {numMsg : Int} {msg : Option (List Int)} {resp : Bool}
    {state : Option PamPasswordState}
    (long : ∀ styles, msg = some styles → numMsg.toNat ≤ styles.length) :
    (pamPasswordConversation numMsg msg resp state).Safe := by
  unfold pamPasswordConversation
  split
  next styles password =>
    split
    · trivial
    intro responses
    cases responses with
    | none => trivial
    | some responses =>
      refine safe_answerMessages password responses numMsg.toNat 0 ?_
      rw [Nat.zero_add]
      exact long styles rfl
  · trivial

/-- What `appdata_ptr` points to. -/
def conversationState (conversation : Option CString) : Option PamPasswordState :=
  conversation.map fun password => ⟨some password⟩

/-- Whatever PAM asks, and whichever allocation is refused: the conversation reads only messages
that are there; it sets `*resp` just when it succeeds, to an array that answers every prompt with a
copy of the password of its own and everything else with nothing; and otherwise the heap is as it
was. -/
theorem conversation_answers (blocks : Address → Option HeapBlock) (conversation : Option CString)
    (numMsg : Int) (msg : Option (List Int)) (resp : Bool)
    (long : ∀ styles, msg = some styles → numMsg.toNat ≤ styles.length) :
    (pamConversation conversation numMsg msg resp).Safe ∧
      Ensures Heap.answers (pamConversation conversation numMsg msg resp) { blocks }
        (Ends blocks numMsg msg resp (conversationState conversation)) := by
  cases conversation with
  | none =>
    refine ⟨trivial, ensures_done.mpr (.inr ⟨?_, rfl, rfl⟩)⟩
    rintro ⟨styles, password, given⟩
    cases given.known
  | some password =>
    exact ⟨safe_pamPasswordConversation long,
      ensures_pamPasswordConversation blocks numMsg msg resp _⟩

/-- A prompt between two messages. -/
theorem conversation_answers_sample :
    (pamConversation (some ⟨[97], by decide⟩) 3 (some [3, 1, 4]) true).Safe ∧
      Ensures Heap.answers (pamConversation (some ⟨[97], by decide⟩) 3 (some [3, 1, 4]) true)
        { blocks := fun _ => none }
        (Ends (fun _ => none) 3 (some [3, 1, 4]) true
          (conversationState (some ⟨[97], by decide⟩))) := by
  refine conversation_answers _ _ 3 _ true fun styles given => ?_
  rw [← Option.some.inj given]
  decide

end Process

end Padlock
