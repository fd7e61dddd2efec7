/-
Module: Rdma101.Lib.Splice
Purpose: Slice assignment on lists, and sequences of slice assignments that agree wherever they
  overlap: the result then depends neither on their order nor on how they are cut.
Trusted boundary: none
Main exports: splice, Piece, splices, getElem?_splices_of_uncovered, getElem?_splices_of_agree
-/
import Mathlib.Data.List.Basic

variable {α : Type*}

/-- `bytes[start:stop] = data`. -/
def splice (bytes : List α) (start stop : Nat) (data : List α) : List α :=
  bytes.take start ++ data ++ bytes.drop stop

/-- A slice assignment that does not change the length. -/
structure Piece (α : Type*) where
  start : Nat
  data : List α

namespace Piece

def stop (piece : Piece α) : Nat := piece.start + piece.data.length

/-- The piece assigns this position. -/
def Covers (piece : Piece α) (position : Nat) : Prop :=
  piece.start ≤ position ∧ position < piece.stop

instance (piece : Piece α) (position : Nat) : Decidable (piece.Covers position) :=
  inferInstanceAs (Decidable (_ ∧ _))

def assign (piece : Piece α) (bytes : List α) : List α :=
  splice bytes piece.start piece.stop piece.data

theorem length_assign {piece : Piece α} {bytes : List α} (fits : piece.stop ≤ bytes.length) :
    (piece.assign bytes).length = bytes.length := by
  simp only [stop] at fits
  simp only [assign, splice, stop, List.length_append, List.length_take, List.length_drop]
  omega

theorem getElem?_assign {piece : Piece α} {bytes : List α} (fits : piece.stop ≤ bytes.length)
    (position : Nat) : (piece.assign bytes)[position]? =
      if piece.Covers position then piece.data[position - piece.start]? else bytes[position]? := by
  simp only [stop] at fits
  have front : (bytes.take piece.start).length = piece.start := by
    rw [List.length_take]
    omega
  simp only [assign, splice, stop, List.append_assoc]
  rcases Nat.lt_or_ge position piece.start with before | after
  · rw [if_neg fun covers => Nat.not_le_of_lt before covers.1,
      List.getElem?_append_left (by omega), List.getElem?_take_of_lt before]
  · rw [List.getElem?_append_right (by omega), front]
    rcases Nat.lt_or_ge position (piece.start + piece.data.length) with inside | beyond
    · rw [if_pos ⟨after, inside⟩, List.getElem?_append_left (by omega)]
    · rw [if_neg fun covers => Nat.not_le_of_lt covers.2 beyond,
        List.getElem?_append_right (by omega), List.getElem?_drop]
      congr 1
      omega

end Piece

/-- The pieces are assigned one after the other. -/
def splices (bytes : List α) (pieces : List (Piece α)) : List α :=
  pieces.foldl (fun bytes piece => piece.assign bytes) bytes

section Splices

variable {bytes : List α} {pieces : List (Piece α)} {position : Nat}

theorem length_splices (fits : ∀ piece ∈ pieces, piece.stop ≤ bytes.length) :
    (splices bytes pieces).length = bytes.length := by
  induction pieces generalizing bytes with
  | nil => rfl
  | cons piece rest inductionHypothesis =>
      have same := Piece.length_assign (fits piece (.head rest))
      exact (inductionHypothesis fun other member =>
        same ▸ fits other (.tail piece member)).trans same

/-- A position that no piece covers keeps its value. -/
theorem getElem?_splices_of_uncovered (fits : ∀ piece ∈ pieces, piece.stop ≤ bytes.length)
    (uncovered : ∀ piece ∈ pieces, ¬piece.Covers position) :
    (splices bytes pieces)[position]? = bytes[position]? := by
  induction pieces generalizing bytes with
  | nil => rfl
  | cons piece rest inductionHypothesis =>
      have same := Piece.length_assign (fits piece (.head rest))
      have later := inductionHypothesis (fun other member => same ▸ fits other (.tail piece member))
        fun other member => uncovered other (.tail piece member)
      rw [splices, List.foldl_cons]
      apply later.trans
      rw [Piece.getElem?_assign (fits piece (.head rest)), if_neg (uncovered piece (.head rest))]

/-- Where all pieces agree, a position has the value that they give it. -/
theorem getElem?_splices_of_agree {value : α}
    (fits : ∀ piece ∈ pieces, piece.stop ≤ bytes.length)
    (agree : ∀ piece ∈ pieces, piece.Covers position →
      piece.data[position - piece.start]? = some value)
    (given : (∃ piece ∈ pieces, piece.Covers position) ∨ bytes[position]? = some value) :
    (splices bytes pieces)[position]? = some value := by
  induction pieces generalizing bytes with
  | nil =>
      rcases given with ⟨piece, member, -⟩ | given
      · exact absurd member List.not_mem_nil
      · exact given
  | cons piece rest inductionHypothesis =>
      have same := Piece.length_assign (fits piece (.head rest))
      rw [splices, List.foldl_cons]
      refine inductionHypothesis (fun other member => same ▸ fits other (.tail piece member))
        (fun other member => agree other (.tail piece member)) ?_
      rw [Piece.getElem?_assign (fits piece (.head rest))]
      by_cases covers : piece.Covers position
      · rw [if_pos covers]
        exact .inr (agree piece (.head rest) covers)
      · rw [if_neg covers]
        rcases given with ⟨other, member, covers'⟩ | given
        · rcases List.mem_cons.mp member with rfl | member
          · exact absurd covers' covers
          · exact .inl ⟨other, member, covers'⟩
        · exact .inr given

end Splices
