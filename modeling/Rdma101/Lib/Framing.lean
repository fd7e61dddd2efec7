/-
Module: Rdma101.Lib.Framing
Purpose: Messages that are sent one after the other over an ordered stream of items, without marks
  between them: a receiver that takes pieces of the right lengths gets the messages.
Trusted boundary: none
Main exports: prefix_of_flatten, prefix_of_take_append
-/
import Mathlib.Data.List.Basic

namespace Framing

variable {Item : Type*}

/-- Pieces of the right lengths, taken from a stream that begins as the messages do, are the first
messages. -/
theorem prefix_of_flatten {pieces messages : List (List Item)}
    (stream : pieces.flatten <+: messages.flatten)
    (lengths : pieces.map List.length <+: messages.map List.length) : pieces <+: messages := by
  induction pieces generalizing messages with
  | nil => exact List.nil_prefix
  | cons piece rest inductionHypothesis =>
      cases messages with
      | nil => cases List.prefix_nil.mp lengths
      | cons message later =>
          obtain ⟨sameLength, lengths'⟩ := List.cons_prefix_cons.mp lengths
          rw [List.flatten_cons, List.flatten_cons] at stream
          obtain ⟨beyond, whole⟩ := stream
          rw [List.append_assoc] at whole
          obtain ⟨rfl, tail⟩ := List.append_inj whole sameLength
          exact List.cons_prefix_cons.mpr
            ⟨rfl, inductionHypothesis ⟨beyond, tail⟩ lengths'⟩

/-- What a piece may go on with: items up to its length that come next in the stream. -/
theorem prefix_of_take_append {taken stream : List Item} (within : taken <+: stream)
    (count : Nat) : taken ++ (stream.drop taken.length).take count <+: stream := by
  obtain ⟨rest, rfl⟩ := within
  rw [List.drop_left]
  exact (List.prefix_append_right_inj taken).mpr (List.take_prefix count rest)

end Framing
