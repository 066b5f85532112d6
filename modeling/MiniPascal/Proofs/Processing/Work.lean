/-
This file compares pieces of work by what they write apart from views.
-/

import MiniPascal.Processing

namespace MiniPascal

/-- The passages that are written whatever is shown. -/
def essence (passages : List Passage) : List Passage := passages.filter (!·.topic.isView)

theorem essence_append (passages more : List Passage) :
    essence (passages ++ more) = essence passages ++ essence more := List.filter_append ..

namespace Work

variable {α β : Type}

/-- Work that only shows something: it comes to its end and writes views alone. -/
def Shows (work : Work Unit) : Prop :=
  ∀ desk, (work.on desk).1 = .ok () ∧
    essence (work.on desk).2.passages = essence desk.passages

/-- Two pieces of work that end in the same way and write the same apart from views, behind passages
that are the same apart from views. -/
def Agree (first second : Work α) : Prop :=
  ∀ desk other, essence other.passages = essence desk.passages →
    (second.on other).1 = (first.on desk).1 ∧
      essence (second.on other).2.passages = essence (first.on desk).2.passages

namespace Shows

theorem nothing : Shows (pure ()) := fun _ => ⟨rfl, rfl⟩

/-- What shows something first leaves the same passages apart from views. -/
theorem on_bind {work : Work Unit} (shows : Shows work) (next : Unit → Work α) (desk : Desk) :
    ∃ after, (work >>= next).on desk = (next ()).on after ∧
      essence after.passages = essence desk.passages := by
  obtain ⟨ended, same⟩ := shows desk
  refine ⟨(work.on desk).2, ?_, same⟩
  rw [Work.on_bind]
  generalize work.on desk = outcome at ended
  obtain ⟨result, after⟩ := outcome
  obtain rfl : result = .ok () := ended
  rfl

theorem bind {work : Work Unit} {next : Unit → Work Unit} (shows : Shows work)
    (goesOn : Shows (next ())) : Shows (work >>= next) := by
  intro desk
  obtain ⟨after, same, essences⟩ := shows.on_bind next desk
  rw [same, ← essences]
  exact goesOn after

theorem writeLine {topic : Topic} (view : topic.isView = true) (text : String) :
    Shows (writeLine topic text) := by
  intro desk
  refine ⟨rfl, ?_⟩
  change essence (desk.passages ++ [⟨topic, text ++ "\n"⟩]) = _
  have none : essence [⟨topic, text ++ "\n"⟩] = [] := by simp [essence, view]
  rw [essence_append, none, List.append_nil]

theorem forM {members : List α} {work : α → Work Unit}
    (each : ∀ member ∈ members, Shows (work member)) : Shows (members.forM work) := by
  induction members with
  | nil => exact nothing
  | cons member members inductionHypothesis =>
      obtain ⟨first, others⟩ := List.forall_mem_cons.mp each
      exact first.bind (inductionHypothesis others)

theorem optionForM {member : Option α} {work : α → Work Unit}
    (each : ∀ found ∈ member, Shows (work found)) : Shows (member.forM work) := by
  cases member with
  | none => exact nothing
  | some found => exact each found rfl

end Shows

namespace Agree

theorem pure (value : α) : Agree (Pure.pure value) (Pure.pure value) := fun _ _ same => ⟨rfl, same⟩

theorem throw (interruption : Interruption) :
    Agree (throw interruption : Work α) (throw interruption) := fun _ _ same => ⟨rfl, same⟩

theorem write (topic : Topic) (text : String) : Agree (write topic text) (write topic text) := by
  intro desk other same
  refine ⟨rfl, ?_⟩
  rw [on_write, on_write, essence_append, essence_append, same]

/-- The second pieces of work go on with a value that the first one finds. -/
theorem bind {first second : Work α} {next copy : α → Work β} (agree : Agree first second)
    (goesOn : ∀ value desk, (first.on desk).1 = .ok value → Agree (next value) (copy value)) :
    Agree (first >>= next) (second >>= copy) := by
  intro desk other same
  obtain ⟨results, essences⟩ := agree desk other same
  have after := fun value => goesOn value desk
  rw [on_bind, on_bind]
  generalize first.on desk = outcome at results essences after
  generalize second.on other = outcomeCopy at results essences
  obtain ⟨result, desk⟩ := outcome
  obtain ⟨resultCopy, other⟩ := outcomeCopy
  obtain rfl : resultCopy = result := results
  cases resultCopy with
  | error interruption => exact ⟨rfl, essences⟩
  | ok value => exact after value rfl desk other essences

/-- Each side may show something first. -/
theorem view {work copy : Work Unit} {next nextCopy : Unit → Work α} (shows : Shows work)
    (showsCopy : Shows copy) (goesOn : Agree (next ()) (nextCopy ())) :
    Agree (work >>= next) (copy >>= nextCopy) := by
  intro desk other same
  obtain ⟨after, step, essences⟩ := shows.on_bind next desk
  obtain ⟨afterCopy, stepCopy, essencesCopy⟩ := showsCopy.on_bind nextCopy other
  rw [step, stepCopy]
  exact goesOn after afterCopy (essencesCopy.trans (same.trans essences.symm))

end Agree

end Work

end MiniPascal
