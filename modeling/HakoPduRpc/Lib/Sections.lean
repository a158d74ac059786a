import Mathlib.Data.List.Basic

/-!
# Logs divided into sections

Some entries of a log open a new section; every other entry belongs to the
section that is open when it is made.  Sections are kept with the newest first.
An entry made before any section was opened gets a section without a marker, so
that nothing of a log is lost.

`Continues` compares the contents of the sections at two moments.
-/

namespace HakoPduRpc

/-- A section of a log: the marker that opened it and its entries, oldest
first. -/
structure Section (σ α : Type*) where
  marker : Option σ
  entries : List α

namespace Section

variable {σ α : Type*} (start : α → Option σ)

/-- The section with more entries. -/
def push (s : Section σ α) (es : List α) : Section σ α :=
  { s with entries := s.entries ++ es }

@[simp] theorem marker_push (s : Section σ α) (es : List α) :
    (s.push es).marker = s.marker := rfl

@[simp] theorem entries_push (s : Section σ α) (es : List α) :
    (s.push es).entries = s.entries ++ es := rfl

@[simp] theorem push_nil (s : Section σ α) : s.push [] = s := by
  simp [push]

theorem push_push (s : Section σ α) (es es' : List α) :
    (s.push es).push es' = s.push (es ++ es') := by
  simp [push]

/-- Enter one entry; `start` tells which entries open a section. -/
def enter (sections : List (Section σ α)) (e : α) : List (Section σ α) :=
  match start e with
  | some m => { marker := some m, entries := [] } :: sections
  | none =>
      match sections with
      | [] => [{ marker := none, entries := [e] }]
      | s :: rest => s.push [e] :: rest

/-- The sections of a log, newest first. -/
def divide (log : List α) : List (Section σ α) := log.foldl (enter start) []

@[simp] theorem divide_nil : divide start ([] : List α) = [] := rfl

theorem divide_append (log log' : List α) :
    divide start (log ++ log') =
      log'.foldl (enter start) (divide start log) := by
  simp [divide]

variable {start}

/-- Entries that open no section go to the newest one. -/
theorem foldl_enter {es : List α} (hes : ∀ e ∈ es, start e = none)
    (s : Section σ α) (rest : List (Section σ α)) :
    es.foldl (enter start) (s :: rest) = s.push es :: rest := by
  induction es generalizing s with
  | nil => simp
  | cons e es ih =>
      have hopen : enter start (s :: rest) e = s.push [e] :: rest := by
        simp [enter, hes e (by simp)]
      rw [List.foldl_cons, hopen, ih fun e' he' => hes e' (by simp [he']),
        push_push]
      rfl

end Section

/-! ## The contents of the sections -/

/-- Contents of sections, the newest first: `later` has the sections of `l`, of
which the newest may have got longer, and perhaps newer ones. -/
def Continues {α : Type*} (l later : List (List α)) : Prop :=
  l = [] ∨ ∃ s rest more newer, l = s :: rest ∧
    later = newer ++ (s ++ more) :: rest

namespace Continues

variable {α : Type*} {l l' l'' : List (List α)}

theorem nil (l : List (List α)) : Continues [] l := Or.inl rfl

theorem refl (l : List (List α)) : Continues l l := by
  cases l with
  | nil => exact nil []
  | cons s rest => exact Or.inr ⟨s, rest, [], [], rfl, by simp⟩

theorem opened (h : Continues l l') (s : List α) : Continues l (s :: l') := by
  obtain rfl | ⟨s', rest, more, newer, rfl, rfl⟩ := h
  · exact nil _
  · exact Or.inr ⟨s', rest, more, s :: newer, rfl, rfl⟩

theorem pushed {s : List α} {rest : List (List α)}
    (h : Continues l (s :: rest)) (more : List α) :
    Continues l ((s ++ more) :: rest) := by
  obtain rfl | ⟨s', rest', more', newer, rfl, hlater⟩ := h
  · exact nil _
  · cases newer with
    | nil =>
        obtain ⟨rfl, rfl⟩ := List.cons.inj hlater
        exact Or.inr ⟨s', rest, more' ++ more, [], rfl, by simp⟩
    | cons s'' newer =>
        obtain ⟨rfl, rfl⟩ := List.cons.inj hlater
        exact Or.inr ⟨s', rest', more', (s ++ more) :: newer, rfl, rfl⟩

/-- No section loses anything. -/
theorem getElem_prefix (h : Continues l l') (k : ℕ) :
    l.reverse[k]?.getD [] <+: l'.reverse[k]?.getD [] := by
  obtain rfl | ⟨s, rest, more, newer, rfl, rfl⟩ := h
  · simp
  · have hlater : (newer ++ (s ++ more) :: rest).reverse =
        rest.reverse ++ ((s ++ more) :: newer.reverse) := by simp
    rw [hlater, List.reverse_cons, List.getElem?_append, List.getElem?_append]
    split_ifs with hk
    · exact List.prefix_rfl
    · cases k - rest.reverse.length with
      | zero => simp
      | succ k => simp

theorem length_flatten_le (h : Continues l l') :
    l.flatten.length ≤ l'.flatten.length := by
  obtain rfl | ⟨s, rest, more, newer, rfl, rfl⟩ := h
  · simp
  · simp only [List.flatten_cons, List.flatten_append, List.length_append]
    omega

/-- When the newest section is known in part, and everything known is at least
as much as there was, then nothing of what there was is missing. -/
theorem of_prefix {s c : List α} {rest : List (List α)}
    (h : Continues l (s :: rest)) (hc : c <+: s)
    (hlength : l.flatten.length ≤ (c :: rest).flatten.length) :
    Continues l (c :: rest) := by
  obtain rfl | ⟨s', rest', more, newer, rfl, hlater⟩ := h
  · exact nil _
  · cases newer with
    | nil =>
        obtain ⟨rfl, rfl⟩ := List.cons.inj hlater
        have hle : s'.length ≤ c.length := by simpa using hlength
        obtain ⟨known, rfl⟩ := List.prefix_of_prefix_length_le
          (List.prefix_append s' more) hc hle
        exact Or.inr ⟨s', rest, known, [], rfl, rfl⟩
    | cons s'' newer =>
        obtain ⟨rfl, rfl⟩ := List.cons.inj hlater
        exact Or.inr ⟨s', rest', more, c :: newer, rfl, rfl⟩

end Continues

end HakoPduRpc
