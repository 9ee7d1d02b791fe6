/-!
# Splitting text

Cutting a text at the first of a character, which both parts lack, at each of it, and
into lines.
-/

namespace DeviceRpc.Text

/-- What stands before and after the first `c`, `none` where there is no `c`. -/
def splitFirst? (c : Char) : List Char → Option (List Char × List Char)
  | [] => none
  | d :: rest =>
    if d = c then some ([], rest)
    else (splitFirst? c rest).map fun (before, after) => (d :: before, after)

theorem splitFirst?_eq_some {c : Char} {s before after : List Char}
    (h : splitFirst? c s = some (before, after)) :
    s = before ++ c :: after ∧ c ∉ before := by
  induction s generalizing before after with
  | nil => simp [splitFirst?] at h
  | cons d rest ih =>
    unfold splitFirst? at h
    split at h
    · next hd => simp at h; obtain ⟨rfl, rfl⟩ := h; simp [hd]
    · next hd =>
      obtain ⟨⟨b, a⟩, hb, heq⟩ := Option.map_eq_some_iff.1 h
      simp only [Prod.mk.injEq] at heq
      obtain ⟨rfl, rfl⟩ := heq
      obtain ⟨rfl, hmem⟩ := ih hb
      exact ⟨rfl, by simp [hmem, Ne.symm hd]⟩

theorem splitFirst?_append {c : Char} {before after : List Char} (h : c ∉ before) :
    splitFirst? c (before ++ c :: after) = some (before, after) := by
  induction before with
  | nil => simp [splitFirst?]
  | cons d before ih =>
    simp only [List.mem_cons, not_or] at h
    rw [List.cons_append, splitFirst?, if_neg (Ne.symm h.1), ih h.2]
    rfl

theorem splitFirst?_eq_none_iff {c : Char} {s : List Char} : splitFirst? c s = none ↔ c ∉ s := by
  induction s with
  | nil => simp [splitFirst?]
  | cons d s ih =>
    by_cases same : d = c
    · simp [splitFirst?, same]
    · simp [splitFirst?, same, ih, Ne.symm same]

/-- The parts between the `c`s of a text, one more than there are `c`s. -/
def splitAll (c : Char) : List Char → List (List Char)
  | [] => [[]]
  | d :: rest =>
    if d = c then [] :: splitAll c rest
    else match splitAll c rest with
      | [] => [[d]]
      | part :: parts => (d :: part) :: parts

/-- A line without the carriage return at its end. -/
def withoutReturn (line : List Char) : List Char :=
  if line.getLast? = some '\r' then line.dropLast else line

/-- The lines of a text, between its line feeds. -/
def lines (s : String) : List String :=
  (splitAll '\n' s.toList).map fun line => String.ofList (withoutReturn line)

end DeviceRpc.Text
