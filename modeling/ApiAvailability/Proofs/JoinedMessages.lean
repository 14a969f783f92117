/-
What updates make of a message, in closed form.

An update either takes the place of the message or is put behind it, after a
semicolon. So a run of updates forgets everything before the last one that takes the
place, and from there on it only joins texts: after it stands the text of that update
and then those that were appended later, and where nothing took the place of the
message, the one at the start and then all that were appended (`foldl_after_eq`).

The message counts as a list of texts that are joined, empty where there is none. An
empty text is a text: it is joined like any other, and a message of which nothing else
is known is present.
-/
import ApiAvailability.Proofs.Gathering
import Mathlib.Data.List.Induction

set_option autoImplicit false

namespace ApiAvailability

namespace MessageUpdate

/-! ## Joined texts -/

/-- The texts as one message; none where there is no text. -/
def joined : List String → Option String
  | [] => none
  | text :: texts => some ("; ".intercalate (text :: texts))

theorem joined_of_ne_nil {texts : List String} (h : texts ≠ []) :
    joined texts = some ("; ".intercalate texts) := by
  cases texts with
  | nil => exact absurd rfl h
  | cons text texts => rfl

theorem joined_eq_none_iff (texts : List String) : joined texts = none ↔ texts = [] := by
  cases texts with
  | nil => simp [joined]
  | cons text texts => simp [joined]

/-- A message that is there is joined from itself. -/
@[simp] theorem joined_toList (message : Option String) : joined message.toList = message := by
  cases message with
  | none => rfl
  | some text => exact congrArg some String.intercalate_singleton

/-! ## Runs of updates -/

/-- To append is to join one text more. -/
theorem after_joined (texts : List String) (text : String) :
    (append text).after (joined texts) = joined (texts ++ [text]) := by
  cases texts with
  | nil => exact congrArg some String.intercalate_singleton.symm
  | cons first rest =>
    rw [joined_of_ne_nil (List.append_ne_nil_of_right_ne_nil _ (by simp)),
      String.intercalate_append_of_ne_nil (by simp) (by simp), String.intercalate_singleton]
    rfl

theorem foldl_after_append (texts later : List String) :
    (later.map append).foldl after (joined texts) = joined (texts ++ later) := by
  induction later generalizing texts with
  | nil => rw [List.append_nil]; rfl
  | cons text later ih =>
    rw [List.map_cons, List.foldl_cons, after_joined, ih, List.append_assoc, List.singleton_append]

/-- What comes before an update that takes the place of the message is forgotten. -/
theorem foldl_after_replace (message : Option String) (before : List MessageUpdate) (text : String)
    (later : List String) : (before ++ replace text :: later.map append).foldl after message =
      joined (text :: later) := by
  have hreplaced : (replace text).after (before.foldl after message) = joined [text] :=
    congrArg some String.intercalate_singleton.symm
  rw [List.foldl_append, List.foldl_cons, hreplaced, foldl_after_append, List.singleton_append]

/-- Updates end with the last one that takes the place of the message and texts that
are appended after it, or they are nothing but texts that are appended. -/
theorem exists_last_replace_or (updates : List MessageUpdate) :
    (∃ before text later, updates = before ++ replace text :: List.map append later) ∨
      ∃ texts, updates = List.map append texts := by
  -- From the right: an update at the end that takes the place is the last such one.
  induction updates using List.reverseRecOn with
  | nil => exact Or.inr ⟨[], rfl⟩
  | append_singleton updates update ih =>
    cases update with
    | replace text => exact Or.inl ⟨updates, text, [], rfl⟩
    | append text =>
      rcases ih with ⟨before, first, later, rfl⟩ | ⟨texts, rfl⟩
      · exact Or.inl ⟨before, first, later ++ [text], by simp⟩
      · exact Or.inr ⟨texts ++ [text], by simp⟩

/-- **What stands after updates.** -/
theorem foldl_after_eq (message : Option String) (updates : List MessageUpdate) :
    (∃ before text later, updates = before ++ replace text :: List.map append later ∧
        updates.foldl after message = joined (text :: later)) ∨
      ∃ texts, updates = List.map append texts ∧
        updates.foldl after message = joined (message.toList ++ texts) := by
  rcases exists_last_replace_or updates with ⟨before, text, later, rfl⟩ | ⟨texts, rfl⟩
  · exact Or.inl ⟨before, text, later, rfl, foldl_after_replace message before text later⟩
  · refine Or.inr ⟨texts, rfl, ?_⟩
    have hjoined := foldl_after_append message.toList texts
    rwa [joined_toList] at hjoined

/-- Once there is a message, or an update, there is a message. -/
theorem foldl_after_eq_none_iff (message : Option String) (updates : List MessageUpdate) :
    updates.foldl after message = none ↔ message = none ∧ updates = [] := by
  rcases foldl_after_eq message updates with ⟨before, text, later, rfl, h⟩ | ⟨texts, rfl, h⟩
  · rw [h, joined_eq_none_iff]
    simp
  · rw [h, joined_eq_none_iff, List.append_eq_nil_iff, Option.toList_eq_nil_iff,
      List.map_eq_nil_iff]

end MessageUpdate

end ApiAvailability
