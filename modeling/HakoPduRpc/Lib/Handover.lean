import HakoPduRpc.Lib.Machine

/-!
# Events handed over one at a time

A source produces events, and a caller takes them one at a time in the form that
`view` gives them.  `Follows` is what a faithful hand-over looks like from the
outside: an event that has been produced is the next one to be taken, the caller
may be refused any number of times before it takes it, and nothing else is
produced meanwhile.  What has been produced and not yet taken is at most one
event.
-/

namespace HakoPduRpc
namespace Handover

/-- What can be seen of a hand-over: an event is produced, the caller takes one,
the caller is refused the one that waits, or there is none to take. -/
inductive Obs (ε υ : Type*)
  | produced (event : ε)
  | taken (seen : υ)
  | refused
  | nothing

variable {ε υ : Type*} {view : ε → υ}

/-- The events that were produced. -/
def produced (obs : List (Obs ε υ)) : List ε :=
  obs.filterMap fun
    | .produced event => some event
    | _ => none

/-- What the caller took. -/
def taken (obs : List (Obs ε υ)) : List υ :=
  obs.filterMap fun
    | .taken seen => some seen
    | _ => none

theorem produced_append (obs obs' : List (Obs ε υ)) :
    produced (obs ++ obs') = produced obs ++ produced obs' :=
  List.filterMap_append

theorem taken_append (obs obs' : List (Obs ε υ)) :
    taken (obs ++ obs') = taken obs ++ taken obs' :=
  List.filterMap_append

/-- A faithful hand-over, from the event that waits at its beginning to the one
that waits at its end. -/
inductive Follows (view : ε → υ) :
    Option ε → List (Obs ε υ) → Option ε → Prop
  | nil (held : Option ε) : Follows view held [] held
  | produced {event : ε} {obs : List (Obs ε υ)} {held : Option ε} :
      Follows view (some event) obs held →
      Follows view none (.produced event :: obs) held
  | taken {event : ε} {obs : List (Obs ε υ)} {held : Option ε} :
      Follows view none obs held →
      Follows view (some event) (.taken (view event) :: obs) held
  | refused {event : ε} {obs : List (Obs ε υ)} {held : Option ε} :
      Follows view (some event) obs held →
      Follows view (some event) (.refused :: obs) held
  | nothing {obs : List (Obs ε υ)} {held : Option ε} :
      Follows view none obs held → Follows view none (.nothing :: obs) held

namespace Follows

theorem append {held held' held'' : Option ε} {obs obs' : List (Obs ε υ)}
    (h : Follows view held obs held') (h' : Follows view held' obs' held'') :
    Follows view held (obs ++ obs') held'' := by
  induction h with
  | nil held => exact h'
  | produced _ ih => exact .produced (ih h')
  | taken _ ih => exact .taken (ih h')
  | refused _ ih => exact .refused (ih h')
  | nothing _ ih => exact .nothing (ih h')

/-- What was produced is what was given away, in the same order, and the event
that still waits. -/
theorem exists_given {held held' : Option ε} {obs : List (Obs ε υ)}
    (h : Follows view held obs held') :
    ∃ given, held.toList ++ Handover.produced obs = given ++ held'.toList ∧
      Handover.taken obs = given.map view := by
  induction h with
  | nil held =>
      exact ⟨[], by simp [Handover.produced], by simp [Handover.taken]⟩
  | produced _ ih =>
      simpa [Handover.produced, Handover.taken] using ih
  | @taken event obs held _ ih =>
      obtain ⟨given, hproduced, htaken⟩ := ih
      refine ⟨event :: given, ?_, ?_⟩
      · simpa [Handover.produced] using hproduced
      · simpa [Handover.taken] using htaken
  | refused _ ih =>
      simpa [Handover.produced, Handover.taken] using ih
  | nothing _ ih =>
      simpa [Handover.produced, Handover.taken] using ih

theorem accounted {held held' : Option ε} {obs : List (Obs ε υ)}
    (h : Follows view held obs held') :
    (held.toList ++ Handover.produced obs).map view =
      Handover.taken obs ++ held'.toList.map view := by
  obtain ⟨given, hproduced, htaken⟩ := h.exists_given
  rw [hproduced, htaken, List.map_append]

/-- A machine whose steps hand over faithfully does so in its runs. -/
theorem run {State Input : Type*} {M : Machine State Input (Obs ε υ)}
    {held : State → Option ε} {C : State → Input → Prop}
    (hstep : ∀ s i, C s i →
      Follows view (held s) (M.step s i).2 (held (M.step s i).1))
    {s : State} {is : List Input} (h : M.Along C s is) :
    Follows view (held s) (M.trace s is) (held (M.run s is)) := by
  induction is generalizing s with
  | nil => exact .nil _
  | cons i is ih =>
      obtain ⟨hi, hrest⟩ := (M.along_cons C s i is).mp h
      exact (hstep s i hi).append (ih hrest)

end Follows

end Handover
end HakoPduRpc
