/-
Module: Rdma101.Oracle.Layout
Purpose: The buffer layouts that the transfer tests check against: where the ranges of a batch lie
  in a buffer and what the buffer contains, for either order of placing the ranges.
Trusted boundary: human-reviewed translation of tests/engine/helpers.py
Main exports: makeLayout, makeBufferContents, Guarded, makeLayout_guarded, makeLayout_size,
  contents_inside, contents_outside
-/
import Rdma101.Types
import Rdma101.Lib.Splice
import Mathlib.Algebra.GroupWithZero.Nat
import Mathlib.Data.List.Nodup

namespace Rdma101.Oracle

def GUARD : Nat := 64

def FILL : UInt8 := 0xa5

/-- The loop of `make_layout`, over the indices that are left. -/
def placeRanges (lengths : List Nat) : List Nat → List Nat × Nat → List Nat × Nat
  | [], placed => placed
  | index :: rest, (offsets, cursor) =>
      placeRanges lengths rest
        (offsets.set index cursor, cursor + (lengths.getD index 0 + 2 * GUARD + index % 17))

/-- The order in which the ranges are placed. -/
def placingOrder (count : Nat) (reverse : Bool) : List Nat :=
  if reverse then (List.range count).reverse else List.range count

/-- The offsets and the size of the buffer. -/
def makeLayout (lengths : List Nat) (reverse : Bool) : List Nat × Nat :=
  let (offsets, cursor) := placeRanges lengths (placingOrder lengths.length reverse)
    (List.replicate lengths.length 0, GUARD)
  (offsets, cursor + GUARD)

/-- The contents of a buffer, without the ranges when there is no seed.  `patternBytes` gives the
bytes of one range, from its length and a seed. -/
def makeBufferContents (patternBytes : Nat → Int → Bytes) (offsets lengths : List Nat) (size : Nat)
    (seed : Option Int) : Bytes :=
  match seed with
  | none => List.replicate size FILL
  | some seed =>
      (offsets.zip lengths).zipIdx.foldl (fun data range =>
        splice data range.1.1 (range.1.1 + range.1.2) (patternBytes range.1.2 (seed + range.2)))
        (List.replicate size FILL)

/-! ### The ranges of a layout

By induction on the indices that are left to place, with the cursor as the accumulator.  The
order is a parameter, so both orders of the tests are covered, and the size is a sum that does
not depend on it. -/

/-- The space that a range takes, with its guards. -/
def stride (lengths : List Nat) (index : Nat) : Nat :=
  lengths.getD index 0 + 2 * GUARD + index % 17

/-- Where the ranges of `order` were placed, from one cursor to the next. -/
structure Placed (lengths order : List Nat) (first last : Nat) (offsets : List Nat) : Prop where
  inside : ∀ index ∈ order, ∃ offset, offsets[index]? = some offset ∧ first ≤ offset ∧
    offset + stride lengths index ≤ last
  apart : ∀ index ∈ order, ∀ other ∈ order, index ≠ other → ∀ offset offset',
    offsets[index]? = some offset → offsets[other]? = some offset' →
      offset + stride lengths index ≤ offset' ∨ offset' + stride lengths other ≤ offset

/-- The loop leaves the other offsets alone and moves the cursor past all ranges. -/
theorem placeRanges_frame (lengths order offsets : List Nat) (cursor : Nat) :
    (placeRanges lengths order (offsets, cursor)).1.length = offsets.length ∧
      (placeRanges lengths order (offsets, cursor)).2 =
        cursor + (order.map (stride lengths)).sum ∧
      ∀ index, index ∉ order →
        (placeRanges lengths order (offsets, cursor)).1[index]? = offsets[index]? := by
  induction order generalizing offsets cursor with
  | nil => exact ⟨rfl, rfl, fun _ _ => rfl⟩
  | cons index rest inductionHypothesis =>
      obtain ⟨length, last, others⟩ :=
        inductionHypothesis (offsets.set index cursor) (cursor + stride lengths index)
      refine ⟨length.trans List.length_set, ?_, fun other notIn => ?_⟩
      · rw [List.map_cons, List.sum_cons, ← Nat.add_assoc]
        exact last
      · rw [List.mem_cons, not_or] at notIn
        exact (others other notIn.2).trans (List.getElem?_set_ne (Ne.symm notIn.1))

theorem placeRanges_placed {lengths order offsets : List Nat} {cursor : Nat} (nodup : order.Nodup)
    (bound : ∀ index ∈ order, index < offsets.length) :
    Placed lengths order cursor (placeRanges lengths order (offsets, cursor)).2
      (placeRanges lengths order (offsets, cursor)).1 := by
  induction order generalizing offsets cursor with
  | nil =>
      exact ⟨fun _ member => absurd member List.not_mem_nil,
        fun _ member => absurd member List.not_mem_nil⟩
  | cons index rest inductionHypothesis =>
      obtain ⟨notIn, nodup'⟩ := List.nodup_cons.mp nodup
      have unfolded : placeRanges lengths (index :: rest) (offsets, cursor) =
          placeRanges lengths rest (offsets.set index cursor, cursor + stride lengths index) := rfl
      have bound' : ∀ other ∈ rest, other < (offsets.set index cursor).length := by
        intro other member
        rw [List.length_set]
        exact bound other (.tail index member)
      have later : Placed lengths rest (cursor + stride lengths index) _ _ :=
        inductionHypothesis nodup' bound'
      obtain ⟨-, last, others⟩ := placeRanges_frame lengths rest (offsets.set index cursor)
        (cursor + stride lengths index)
      have own := others index notIn
      rw [List.getElem?_set_self (bound index (.head rest))] at own
      rw [unfolded]
      generalize placeRanges lengths rest (offsets.set index cursor, cursor + stride lengths index) =
        placed at later last own
      refine ⟨fun other member => ?_,
        fun one inOrder two inOrder' differ offset offset' at_ at' => ?_⟩
      · rcases List.mem_cons.mp member with rfl | member
        · exact ⟨cursor, own, Nat.le_refl cursor, last ▸ Nat.le_add_right _ _⟩
        · obtain ⟨offset, at_, after, before⟩ := later.inside other member
          exact ⟨offset, at_, by omega, before⟩
      · rcases List.mem_cons.mp inOrder with rfl | member <;>
          rcases List.mem_cons.mp inOrder' with rfl | member'
        · exact absurd rfl differ
        · obtain ⟨_, found, after, -⟩ := later.inside two member'
          obtain rfl := Option.some.inj (own.symm.trans at_)
          obtain rfl := Option.some.inj (found.symm.trans at')
          exact .inl after
        · obtain ⟨_, found, after, -⟩ := later.inside one member
          obtain rfl := Option.some.inj (own.symm.trans at')
          obtain rfl := Option.some.inj (found.symm.trans at_)
          exact .inr after
        · exact later.apart one member two member' differ offset offset' at_ at'

/-- The ranges lie inside the buffer and apart from each other, with guards around them. -/
structure Guarded (lengths offsets : List Nat) (size : Nat) : Prop where
  length : offsets.length = lengths.length
  inside : ∀ (index : Nat) offset length, offsets[index]? = some offset →
    lengths[index]? = some length → GUARD ≤ offset ∧ offset + length + GUARD ≤ size
  apart : ∀ (index other : Nat) offset offset' length length', index ≠ other →
    offsets[index]? = some offset → offsets[other]? = some offset' →
    lengths[index]? = some length → lengths[other]? = some length' →
      offset + length + GUARD ≤ offset' ∨ offset' + length' + GUARD ≤ offset

theorem mem_placingOrder {count index : Nat} (reverse : Bool) :
    index ∈ placingOrder count reverse ↔ index < count := by
  cases reverse <;> simp [placingOrder]

theorem nodup_placingOrder (count : Nat) (reverse : Bool) : (placingOrder count reverse).Nodup := by
  cases reverse
  · exact List.nodup_range
  · exact List.nodup_reverse.mpr List.nodup_range

theorem makeLayout_guarded (lengths : List Nat) (reverse : Bool) :
    Guarded lengths (makeLayout lengths reverse).1 (makeLayout lengths reverse).2 := by
  have bound : ∀ index ∈ placingOrder lengths.length reverse,
      index < (List.replicate lengths.length 0).length := by
    intro index member
    rw [List.length_replicate]
    exact (mem_placingOrder reverse).mp member
  have placed : Placed lengths (placingOrder lengths.length reverse) GUARD _ _ :=
    placeRanges_placed (nodup_placingOrder lengths.length reverse) bound
  have ordered : ∀ {index length : Nat}, lengths[index]? = some length →
      index ∈ placingOrder lengths.length reverse := fun found =>
    (mem_placingOrder reverse).mpr (List.getElem?_eq_some_iff.mp found).1
  have room : ∀ {index length : Nat}, lengths[index]? = some length →
      length + 2 * GUARD ≤ stride lengths index := by
    intro index length found
    rw [stride, List.getD_eq_getElem?_getD, found, Option.getD_some]
    exact Nat.le_add_right _ _
  refine ⟨?_, fun index offset length at_ found => ?_,
    fun index other offset offset' length length' differ at_ at' found found' => ?_⟩
  · exact (placeRanges_frame _ _ _ _).1.trans List.length_replicate
  · obtain ⟨_, same, after, before⟩ := placed.inside index (ordered found)
    obtain rfl := Option.some.inj (same.symm.trans at_)
    have wide := room found
    refine ⟨after, Nat.add_le_add_right (Nat.le_trans ?_ before) GUARD⟩
    omega
  · have wide := room found
    have wide' := room found'
    rcases placed.apart index (ordered found) other (ordered found') differ offset offset' at_ at'
      with before | after
    · exact .inl (by omega)
    · exact .inr (by omega)

/-- The size does not depend on the order. -/
theorem makeLayout_size (lengths : List Nat) (reverse : Bool) :
    (makeLayout lengths reverse).2 =
      GUARD + ((List.range lengths.length).map (stride lengths)).sum + GUARD := by
  obtain ⟨-, last, -⟩ := placeRanges_frame lengths (placingOrder lengths.length reverse)
    (List.replicate lengths.length 0) GUARD
  have sameSum : ((placingOrder lengths.length reverse).map (stride lengths)).sum =
      ((List.range lengths.length).map (stride lengths)).sum := by
    cases reverse
    · rfl
    · rw [placingOrder, if_pos rfl, List.map_reverse, List.sum_reverse]
  rw [sameSum] at last
  exact congrArg (· + GUARD) last

/-! ### The contents of a buffer

The contents are the filler with one assignment for each range.  Ranges are apart, so the order
of the assignments does not matter. -/

section Contents

variable {patternBytes : Nat → Int → Bytes} {offsets lengths : List Nat} {size : Nat} {seed : Int}

/-- A position lies in one of the ranges. -/
def InRange (offsets lengths : List Nat) (position : Nat) : Prop :=
  ∃ (index : Nat) (offset length : Nat), offsets[index]? = some offset ∧
    lengths[index]? = some length ∧ offset ≤ position ∧ position < offset + length

/-- The assignments that fill the ranges. -/
def rangePieces (patternBytes : Nat → Int → Bytes) (offsets lengths : List Nat) (seed : Int) :
    List (Piece UInt8) :=
  (offsets.zip lengths).zipIdx.map fun range =>
    ⟨range.1.1, patternBytes range.1.2 (seed + range.2)⟩

theorem mem_rangePieces {piece : Piece UInt8} :
    piece ∈ rangePieces patternBytes offsets lengths seed ↔
      ∃ (index : Nat) (offset length : Nat), offsets[index]? = some offset ∧
        lengths[index]? = some length ∧ piece = ⟨offset, patternBytes length (seed + index)⟩ := by
  simp only [rangePieces, List.mem_map, Prod.exists, List.mem_zipIdx_iff_getElem?,
    List.getElem?_zip_eq_some]
  constructor
  · rintro ⟨offset, length, index, ⟨at_, found⟩, rfl⟩
    exact ⟨index, offset, length, at_, found, rfl⟩
  · rintro ⟨index, offset, length, at_, found, rfl⟩
    exact ⟨offset, length, index, ⟨at_, found⟩, rfl⟩

theorem makeBufferContents_eq (sized : ∀ length seed, (patternBytes length seed).length = length) :
    makeBufferContents patternBytes offsets lengths size (some seed) =
      splices (List.replicate size FILL) (rangePieces patternBytes offsets lengths seed) := by
  rw [makeBufferContents, splices, rangePieces, List.foldl_map]
  simp only [Piece.assign, Piece.stop, sized]

theorem rangePieces_fit (sized : ∀ length seed, (patternBytes length seed).length = length)
    (guarded : Guarded lengths offsets size) :
    ∀ piece ∈ rangePieces patternBytes offsets lengths seed,
      piece.stop ≤ (List.replicate size FILL).length := by
  intro piece member
  obtain ⟨index, offset, length, at_, found, rfl⟩ := mem_rangePieces.mp member
  have inside := (guarded.inside index offset length at_ found).2
  simp only [List.length_replicate, Piece.stop, sized]
  omega

theorem length_makeBufferContents
    (sized : ∀ length seed, (patternBytes length seed).length = length)
    (guarded : Guarded lengths offsets size) (seed : Option Int) :
    (makeBufferContents patternBytes offsets lengths size seed).length = size := by
  cases seed with
  | none => exact List.length_replicate
  | some seed =>
      rw [makeBufferContents_eq sized, length_splices (rangePieces_fit sized guarded)]
      exact List.length_replicate

/-- The bytes of a range are those of its pattern. -/
theorem contents_inside (sized : ∀ length seed, (patternBytes length seed).length = length)
    (guarded : Guarded lengths offsets size) {index offset length position : Nat}
    (at_ : offsets[index]? = some offset) (found : lengths[index]? = some length)
    (below : position < length) :
    (makeBufferContents patternBytes offsets lengths size (some seed))[offset + position]? =
      (patternBytes length (seed + index))[position]? := by
  have inPattern : position < (patternBytes length (seed + index)).length := by rwa [sized]
  rw [makeBufferContents_eq sized, List.getElem?_eq_getElem inPattern]
  refine getElem?_splices_of_agree (rangePieces_fit sized guarded) ?_ (.inl ?_)
  · -- No other range covers the position.
    intro piece member covers
    obtain ⟨other, offset', length', at', found', rfl⟩ := mem_rangePieces.mp member
    simp only [Piece.Covers, Piece.stop, sized] at covers
    by_cases same : other = index
    · subst same
      obtain rfl := Option.some.inj (at_.symm.trans at')
      obtain rfl := Option.some.inj (found.symm.trans found')
      rw [Nat.add_sub_cancel_left, List.getElem?_eq_getElem inPattern]
    · have apart :=
        guarded.apart other index offset' offset length' length same at' at_ found' found
      omega
  · refine ⟨_, mem_rangePieces.mpr ⟨index, offset, length, at_, found, rfl⟩, ?_⟩
    simp only [Piece.Covers, Piece.stop, sized]
    omega

/-- Outside the ranges there is filler. -/
theorem contents_outside (sized : ∀ length seed, (patternBytes length seed).length = length)
    (guarded : Guarded lengths offsets size) (seed : Option Int) {position : Nat}
    (below : position < size) (outside : ¬InRange offsets lengths position) :
    (makeBufferContents patternBytes offsets lengths size seed)[position]? = some FILL := by
  have filler : (List.replicate size FILL)[position]? = some FILL := by simp [below]
  cases seed with
  | none => exact filler
  | some seed =>
      rw [makeBufferContents_eq sized]
      refine (getElem?_splices_of_uncovered (rangePieces_fit sized guarded) ?_).trans filler
      intro piece member covers
      obtain ⟨index, offset, length, at_, found, rfl⟩ := mem_rangePieces.mp member
      rw [Piece.Covers, Piece.stop, sized] at covers
      exact outside ⟨index, offset, length, at_, found, covers⟩

end Contents

end Rdma101.Oracle
