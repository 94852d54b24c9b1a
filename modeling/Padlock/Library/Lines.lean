/-
This file reads text through a buffer of fixed room. A bounded read takes items
up to and including the next newline, but never more than the buffer has room
for, so a long line arrives in several pieces and nothing in a piece says
whether it is a whole line.

A test that a reader makes of every piece is therefore a test of the chunks of
every line: the pieces of a text are, line by line, the chunks of that line, and
only the last of them ends in the newline. For a test that does not look at a
trailing newline the two readings agree.
-/

import Mathlib.Data.List.DropRight
import Mathlib.Tactic.Common

namespace Lines

variable {Item : Type}

/-! ### Cutting one line to the room of the buffer -/

/-- A line cut into parts of `room` items, the last of them possibly shorter. -/
def chunks (room : Nat) (line : List Item) : List (List Item) :=
  if line = [] ∨ room = 0 then [] else line.take room :: chunks room (line.drop room)
termination_by line.length
decreasing_by
  rename_i something
  rw [not_or] at something
  have shown := List.length_pos_of_ne_nil something.1
  rw [List.length_drop]
  omega

@[simp] theorem chunks_nil (room : Nat) : chunks room ([] : List Item) = [] := by
  rw [chunks, if_pos (.inl rfl)]

theorem chunks_of_long {room : Nat} {line : List Item} (positive : 0 < room)
    (shown : line ≠ []) :
    chunks room line = line.take room :: chunks room (line.drop room) := by
  rw [chunks, if_neg (not_or.mpr ⟨shown, positive.ne'⟩)]

/-- A line that fits the buffer is its own only chunk. -/
theorem chunks_of_fits {room : Nat} {line : List Item} (shown : line ≠ [])
    (fits : line.length ≤ room) : chunks room line = [line] := by
  have positive : 0 < room := (List.length_pos_of_ne_nil shown).trans_le fits
  rw [chunks_of_long positive shown, List.take_of_length_le fits, List.drop_of_length_le fits,
    chunks_nil]

/-- A test that a trailing newline does not change holds of the chunks of a line with its
newline exactly when it holds of the chunks of the line. -/
theorem forall_chunks_append_newline {newline : Item} {room : Nat} {accepts : List Item → Prop}
    (positive : 0 < room) (trailing : ∀ line, accepts (line ++ [newline]) ↔ accepts line)
    (blank : accepts []) (line : List Item) :
    (∀ chunk ∈ chunks room (line ++ [newline]), accepts chunk) ↔
      ∀ chunk ∈ chunks room line, accepts chunk := by
  have something : line ++ [newline] ≠ [] := List.append_ne_nil_of_right_ne_nil _ (by simp)
  by_cases fits : line.length < room
  case pos =>
    have whole : (line ++ [newline]).length ≤ room := by
      rw [List.length_append, List.length_singleton]
      omega
    rw [chunks_of_fits something whole, List.forall_mem_singleton, trailing]
    rcases eq_or_ne line [] with rfl | shown
    · simpa using blank
    · rw [chunks_of_fits shown fits.le, List.forall_mem_singleton]
  case neg =>
    have long : room ≤ line.length := Nat.not_lt.mp fits
    have shown : line ≠ [] := List.ne_nil_of_length_pos (positive.trans_le long)
    have shorter : (line.drop room).length < line.length := by
      rw [List.length_drop]
      omega
    rw [chunks_of_long positive something, chunks_of_long positive shown,
      List.forall_mem_cons, List.forall_mem_cons, List.take_append_of_le_length long,
      List.drop_append_of_le_length long,
      forall_chunks_append_newline positive trailing blank (line.drop room)]
termination_by line.length

/-! ### Trimming -/

/-- A line without the space at its two ends. -/
def trim (isSpace : Item → Bool) (line : List Item) : List Item :=
  (line.dropWhile isSpace).rdropWhile isSpace

theorem trim_append_space {isSpace : Item → Bool} {item : Item} (space : isSpace item)
    (line : List Item) : trim isSpace (line ++ [item]) = trim isSpace line := by
  unfold trim
  rw [List.dropWhile_append]
  split
  case isTrue blank =>
    rw [List.isEmpty_iff.mp blank, List.dropWhile_cons_of_pos space, List.dropWhile_nil]
  case isFalse => exact List.rdropWhile_concat_pos _ _ _ space

/-- A line that neither starts nor ends with space is trimmed already. -/
theorem trim_eq_self {isSpace : Item → Bool} {item : Item} {rest : List Item}
    (starts : ¬ isSpace item)
    (ends : ∀ something, ¬ isSpace ((item :: rest).getLast something)) :
    trim isSpace (item :: rest) = item :: rest := by
  rw [trim, List.dropWhile_cons_of_neg starts]
  exact List.rdropWhile_eq_self_iff.mpr ends

theorem mem_dropWhile_of_not_space {isSpace : Item → Bool} {item : Item} {line : List Item}
    (member : item ∈ line) (visible : ¬ isSpace item) : item ∈ line.dropWhile isSpace := by
  rw [← List.takeWhile_append_dropWhile (p := isSpace) (l := line), List.mem_append] at member
  exact member.resolve_left fun leading => visible (List.mem_takeWhile_imp leading)

/-- Trimming keeps everything that is not space. -/
theorem mem_trim_of_not_space {isSpace : Item → Bool} {item : Item} {line : List Item}
    (member : item ∈ line) (visible : ¬ isSpace item) : item ∈ trim isSpace line := by
  have kept := mem_dropWhile_of_not_space member visible
  unfold trim List.rdropWhile
  rw [List.mem_reverse]
  exact mem_dropWhile_of_not_space (List.mem_reverse.mpr kept) visible

/-! ### The longest run of a kind of items -/

theorem takeWhile_append_of_stop {isKind : Item → Bool} {front rest : List Item}
    (kind : ∀ item ∈ front, isKind item = true) (stop : ∀ item ∈ rest.head?, isKind item = false) :
    (front ++ rest).takeWhile isKind = front := by
  rw [List.takeWhile_append_of_pos kind]
  cases rest with
  | nil => rw [List.takeWhile_nil, List.append_nil]
  | cons item rest =>
    rw [List.takeWhile_cons_of_neg (by rw [stop item rfl]; exact Bool.false_ne_true),
      List.append_nil]

theorem dropWhile_append_of_stop {isKind : Item → Bool} {front rest : List Item}
    (kind : ∀ item ∈ front, isKind item = true) (stop : ∀ item ∈ rest.head?, isKind item = false) :
    (front ++ rest).dropWhile isKind = rest := by
  rw [List.dropWhile_append_of_pos kind]
  cases rest with
  | nil => rw [List.dropWhile_nil]
  | cons item rest =>
    rw [List.dropWhile_cons_of_neg (by rw [stop item rfl]; exact Bool.false_ne_true)]

/-- Behind the longest run of a kind stands no item of the kind. -/
theorem head?_dropWhile {isKind : Item → Bool} {items : List Item} :
    ∀ item ∈ (items.dropWhile isKind).head?, isKind item = false := by
  induction items with
  | nil => nofun
  | cons first rest inductionHypothesis =>
    by_cases kind : isKind first = true
    · rw [List.dropWhile_cons_of_pos kind]
      exact inductionHypothesis
    · rw [List.dropWhile_cons_of_neg kind]
      rintro item ⟨⟩
      exact Bool.eq_false_iff.mpr kind

/-! ### Reading by pieces -/

variable [DecidableEq Item]

/-- What one read takes: at most `room` items, and nothing after the first newline. -/
def piece (newline : Item) : Nat → List Item → List Item
  | 0, _ => []
  | _ + 1, [] => []
  | room + 1, item :: rest =>
    if item = newline then [item] else item :: piece newline room rest

/-- One read, with what is left to read; `none` at the end of the text. -/
def next (newline : Item) (room : Nat) (text : List Item) : Option (List Item × List Item) :=
  if piece newline room text = [] then none
  else some (piece newline room text, text.drop (piece newline room text).length)

theorem next_shorter {newline : Item} {room : Nat} {text taken rest : List Item}
    (read : next newline room text = some (taken, rest)) : rest.length < text.length := by
  unfold next at read
  split at read
  case isTrue => cases read
  case isFalse something =>
    obtain ⟨rfl, rfl⟩ := Prod.mk.inj (Option.some.inj read)
    have taken := List.length_pos_of_ne_nil something
    have shown : 0 < text.length := by
      rcases text with _ | ⟨item, rest⟩
      · rcases room with _ | room <;> exact absurd rfl something
      · exact Nat.succ_pos _
    rw [List.length_drop]
    omega

/-- The pieces a text is read in. -/
def pieces (newline : Item) (room : Nat) (text : List Item) : List (List Item) :=
  match _read : next newline room text with
  | none => []
  | some (taken, rest) => taken :: pieces newline room rest
termination_by text.length
decreasing_by exact next_shorter _read

theorem pieces_of_none {newline : Item} {room : Nat} {text : List Item}
    (ended : next newline room text = none) : pieces newline room text = [] := by
  unfold pieces
  split
  case h_1 => rfl
  case h_2 taken rest read => rw [ended] at read; cases read

theorem pieces_of_some {newline : Item} {room : Nat} {text taken rest : List Item}
    (read : next newline room text = some (taken, rest)) :
    pieces newline room text = taken :: pieces newline room rest := by
  rw [pieces]
  split
  case h_1 ended => rw [read] at ended; cases ended
  case h_2 first left again =>
    rw [read] at again
    obtain ⟨rfl, rfl⟩ := Prod.mk.inj (Option.some.inj again)
    rfl

section Reading

variable {newline : Item} {room : Nat}

theorem piece_line {line : List Item} (plain : newline ∉ line) :
    piece newline room line = line.take room := by
  induction line generalizing room with
  | nil =>
    rcases room with _ | room <;> rfl
  | cons item rest inductionHypothesis =>
    rcases room with _ | room
    · rfl
    · rw [List.mem_cons, not_or] at plain
      rw [piece, if_neg (Ne.symm plain.1), inductionHypothesis plain.2, List.take_succ_cons]

/-- Up to its newline a text reads as the line with its newline, cut to the room. -/
theorem piece_append {line : List Item} (plain : newline ∉ line) (rest : List Item) :
    piece newline room (line ++ newline :: rest) = (line ++ [newline]).take room := by
  induction line generalizing room with
  | nil =>
    rcases room with _ | room
    · rfl
    · rw [List.nil_append, List.nil_append, piece, if_pos rfl, List.take_succ_cons, List.take_nil]
  | cons item line inductionHypothesis =>
    rcases room with _ | room
    · rfl
    · rw [List.mem_cons, not_or] at plain
      rw [List.cons_append, List.cons_append, piece, if_neg (Ne.symm plain.1),
        inductionHypothesis plain.2, List.take_succ_cons]

/-- One read that takes the items of a longer list the buffer has room for. -/
theorem next_of_take {text whole : List Item} (positive : 0 < room) (something : whole ≠ [])
    (read : piece newline room text = whole.take room) :
    next newline room text = some (whole.take room, text.drop (whole.take room).length) := by
  have taken : whole.take room ≠ [] := by
    rw [Ne, List.take_eq_nil_iff, not_or]
    exact ⟨positive.ne', something⟩
  rw [next, read, if_neg taken]

/-- The last line of a text, with no newline after it, is read in its chunks. -/
theorem pieces_line {line : List Item} (positive : 0 < room) (plain : newline ∉ line) :
    pieces newline room line = chunks room line := by
  fun_induction chunks room line with
  | case1 line nothing =>
    obtain rfl := nothing.resolve_right positive.ne'
    refine pieces_of_none ?_
    rw [next, piece_line plain, List.take_nil, if_pos rfl]
  | case2 line something inductionHypothesis =>
    rw [not_or] at something
    have rest := inductionHypothesis fun member => plain (List.mem_of_mem_drop member)
    have dropped : line.drop (line.take room).length = line.drop room := by
      rw [List.length_take, ← List.drop_eq_drop_min]
    rw [pieces_of_some (next_of_take positive something.1 (piece_line plain)), dropped, rest]

/-- A line with a newline after it is read in the chunks of the line and its newline, and the
rest of the text after them. -/
theorem pieces_append {line : List Item} (positive : 0 < room) (plain : newline ∉ line)
    (rest : List Item) :
    pieces newline room (line ++ newline :: rest) =
      chunks room (line ++ [newline]) ++ pieces newline room rest := by
  have ended : line ++ newline :: rest = (line ++ [newline]) ++ rest :=
    (List.append_cons line newline rest)
  have something : line ++ [newline] ≠ [] := List.append_ne_nil_of_right_ne_nil _ (by simp)
  rw [pieces_of_some (next_of_take positive something (piece_append plain rest))]
  by_cases fits : line.length < room
  case pos =>
    -- The newline is in the first piece.
    have whole : (line ++ [newline]).length ≤ room := by
      rw [List.length_append, List.length_singleton]
      omega
    rw [chunks_of_fits something whole, List.take_of_length_le whole, ended, List.drop_left,
      List.singleton_append]
  case neg =>
    have long : room ≤ line.length := Nat.not_lt.mp fits
    have shorter : (line.drop room).length < line.length := by
      rw [List.length_drop]
      omega
    have later := pieces_append positive
      (fun member => plain (List.mem_of_mem_drop member) : newline ∉ line.drop room) rest
    have length : ((line ++ [newline]).take room).length = room := by
      rw [List.length_take, List.length_append]
      omega
    rw [chunks_of_long positive something, List.drop_append_of_le_length long,
      List.cons_append, ← later, length, List.drop_append_of_le_length long]
termination_by line.length

/-- What a reader tests of every piece it reads, it tests of every chunk of every line. -/
theorem forall_pieces {accepts : List Item → Prop} (positive : 0 < room)
    (trailing : ∀ line, accepts (line ++ [newline]) ↔ accepts line) (blank : accepts [])
    (text : List Item) :
    (∀ read ∈ pieces newline room text, accepts read) ↔
      ∀ line ∈ text.splitOn newline, ∀ chunk ∈ chunks room line, accepts chunk := by
  by_cases ends : newline ∈ text
  case neg =>
    rw [pieces_line positive ends, List.splitOn_eq_singleton ends, List.forall_mem_singleton]
  case pos =>
    -- Induction on the text after its first line.
    obtain ⟨line, rest, rfl, plain⟩ := List.eq_append_cons_of_mem ends
    have shorter : rest.length < (line ++ newline :: rest).length := by
      rw [List.length_append, List.length_cons]
      omega
    rw [pieces_append positive plain, List.splitOn_append_cons_self_of_not_mem plain,
      List.forall_mem_append, List.forall_mem_cons, forall_pieces positive trailing blank rest,
      forall_chunks_append_newline positive trailing blank]
termination_by text.length

end Reading

end Lines
