/-
This file is about watching a program from outside. A watcher keeps a note of
its own, looks at each request together with its response, writes the next note,
and may object. A program obeys the watcher when it gives no cause for an
objection whatever the responses are, and ends with a note that suits its
result.

Rules of use are of this kind: what is opened is closed once, nothing is used
after it was given back, one step is not taken before another has succeeded. The
note is what the rule has to remember. Nothing is said of a program that has
gone wrong.
-/

import Padlock.Library.Program

namespace Interaction

/-- The note after a request and its response; `none` is an objection. -/
abbrev Watcher (Request : Type) (Response : Request → Type) (Note : Type) :=
  (request : Request) → Response request → Note → Option Note

namespace Program

variable {Request : Type} {Response : Request → Type} {Result Outcome Note : Type}
  {watch : Watcher Request Response Note}

/-- Whatever the responses, the watcher never objects, and the note at the end suits the result. -/
def Obeys (watch : Watcher Request Response Note) :
    Program Request Response Result → Note → (Result → Note → Prop) → Prop
  | .done result, note, suits => suits result note
  | .ask asked next, note, suits => ∀ response, ∃ later, watch asked response note = some later ∧
      (next response).Obeys watch later suits
  | .wrong, _, _ => True

theorem obeys_request {asked : Request} {next : Response asked → Program Request Response Result}
    {note : Note} {suits : Result → Note → Prop} :
    (request asked >>= next).Obeys watch note suits ↔
      ∀ response, ∃ later, watch asked response note = some later ∧
        (next response).Obeys watch later suits :=
  Iff.rfl

theorem Obeys.imp {program : Program Request Response Result} {note : Note}
    {suits weaker : Result → Note → Prop} (obeys : program.Obeys watch note suits)
    (implies : ∀ result last, suits result last → weaker result last) :
    program.Obeys watch note weaker := by
  induction program generalizing note with
  | done result => exact implies result note obeys
  | ask asked rest inductionHypothesis =>
    intro response
    obtain ⟨later, noted, restObeys⟩ := obeys response
    exact ⟨later, noted, inductionHypothesis response restObeys⟩
  | wrong => trivial

theorem Obeys.bind {program : Program Request Response Result}
    {next : Result → Program Request Response Outcome} {note : Note}
    {between : Result → Note → Prop} {suits : Outcome → Note → Prop}
    (first : program.Obeys watch note between)
    (second : ∀ result middle, between result middle → (next result).Obeys watch middle suits) :
    (program >>= next).Obeys watch note suits := by
  induction program generalizing note with
  | done result => exact second result note first
  | ask asked rest inductionHypothesis =>
    intro response
    obtain ⟨later, noted, restObeys⟩ := first response
    exact ⟨later, noted, inductionHypothesis response restObeys⟩
  | wrong => trivial

/-- What each note hands on to the next is still so in the end. -/
theorem Obeys.kept {kept : Note → Prop}
    (hands : ∀ asked response note later, watch asked response note = some later → kept note →
      kept later)
    {program : Program Request Response Result} {note : Note} {suits : Result → Note → Prop}
    (obeys : program.Obeys watch note suits) :
    program.Obeys watch note fun result last => suits result last ∧ (kept note → kept last) := by
  induction program generalizing note with
  | done result => exact ⟨obeys, id⟩
  | ask asked rest inductionHypothesis =>
    intro response
    obtain ⟨later, noted, restObeys⟩ := obeys response
    refine ⟨later, noted, (inductionHypothesis response restObeys).imp fun result last ends => ?_⟩
    exact ⟨ends.1, fun start => ends.2 (hands asked response note later noted start)⟩
  | wrong => trivial

theorem obeys_bounded {bound : Option Result} {next : Result → Program Request Response Outcome}
    {note : Note} {suits : Outcome → Note → Prop}
    (inside : ∀ result, bound = some result → (next result).Obeys watch note suits) :
    (bounded bound >>= next).Obeys watch note suits := by
  cases bound with
  | none => trivial
  | some result => exact inside result rfl

/-- A program that only asks what the watcher ignores leaves the note alone. -/
theorem Asks.obeys {allowed : Request → Prop} {program : Program Request Response Result}
    (asks : program.Asks allowed) {note : Note}
    (ignored : ∀ asked response, allowed asked → watch asked response note = some note) :
    program.Obeys watch note fun _ last => last = note := by
  induction program with
  | done result => rfl
  | ask asked rest inductionHypothesis =>
    intro response
    exact ⟨note, ignored asked response asks.1, inductionHypothesis response (asks.2 response)⟩
  | wrong => trivial

/-- A program whose requests are served by other programs: where the outer watcher does not object,
each of these has to keep to its own watcher and to end with the note of the outer one. -/
theorem Obeys.relay {Inner : Type} {Reply : Inner → Type} {inner : Watcher Inner Reply Note}
    {serve : (asked : Request) → Program Inner Reply (Response asked)}
    (serves : ∀ asked note, (∀ response, ∃ later, watch asked response note = some later) →
      (serve asked).Obeys inner note fun response last => watch asked response note = some last)
    {program : Program Request Response Result} {note : Note} {suits : Result → Note → Prop}
    (obeys : program.Obeys watch note suits) : (program.relay serve).Obeys inner note suits := by
  induction program generalizing note with
  | done result => exact obeys
  | ask asked rest inductionHypothesis =>
    have allowed (response : Response asked) : ∃ later, watch asked response note = some later := by
      obtain ⟨later, noted, -⟩ := obeys response
      exact ⟨later, noted⟩
    refine (serves asked note allowed).bind fun response last served => ?_
    obtain ⟨later, noted, restObeys⟩ := obeys response
    obtain rfl := Option.some.inj (served.symm.trans noted)
    exact inductionHypothesis response restObeys
  | wrong => trivial

/-- Two servers that answer alike as long as the watcher does not object give an obedient program
the same result. -/
theorem Obeys.run_alike {State Twin : Type} {server : Server Request Response State}
    {other : Server Request Response Twin} {alike : Note → State → Twin → Prop}
    (answers : ∀ asked note later state twin, alike note state twin →
      watch asked (server asked state).1 note = some later →
        (server asked state).1 = (other asked twin).1 ∧
          alike later (server asked state).2 (other asked twin).2)
    {program : Program Request Response Result} {note : Note} {suits : Result → Note → Prop}
    (obeys : program.Obeys watch note suits) {state final : State} {twin : Twin}
    (start : alike note state twin) {result : Result}
    (ran : program.run server state = some (result, final)) :
    ∃ last finalTwin, program.run other twin = some (result, finalTwin) ∧ suits result last ∧
      alike last final finalTwin := by
  induction program generalizing note state twin with
  | done returned =>
    obtain ⟨rfl, rfl⟩ := Prod.mk.inj (Option.some.inj ran)
    exact ⟨note, twin, rfl, obeys, start⟩
  | ask asked rest inductionHypothesis =>
    obtain ⟨later, noted, restObeys⟩ := obeys (server asked state).1
    obtain ⟨same, still⟩ := answers asked note later state twin start noted
    rw [run_ask, ← same]
    exact inductionHypothesis _ restObeys still ran
  | wrong => cases ran

end Program

end Interaction
