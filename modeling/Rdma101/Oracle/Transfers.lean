/-
Module: Rdma101.Oracle.Transfers
Purpose: The one-way transfers of the tests and what they expect of both buffers, against the
  execution of the requests as byte copies between the two buffers.
Trusted boundary: human-reviewed translation of tests/engine/helpers.py
Main exports: setupTransfer, Buffer, copySlice, Cuts, transfer_oracle_correct
-/
import Rdma101.Abi.Values
import Rdma101.Oracle.Layout

namespace Rdma101.Oracle

open Abi (Operation Request)

/-- What a test knows of its transfer. -/
structure Transfer where
  requests : List Request
  before : Bytes
  expected : Bytes
  offsets : List Nat
  lengths : List Nat
  peer : Int
  remoteAddress : Int
  remoteSize : Int
deriving DecidableEq

/-- What the control plane and the allocator give a rank: the handle of its peer, the address of
its own memory, and the address and the size of the other rank's memory. -/
structure Connection where
  peer : Int
  address : Int
  remoteAddress : Int
  remoteSize : Int

/-- The list comprehension of `setup_transfer`. -/
def Connection.requests (connection : Connection) (read : Bool)
    (localOffsets remoteOffsets lengths : List Nat) : List Request :=
  (localOffsets.zip (remoteOffsets.zip lengths)).map fun range =>
    { peer := connection.peer
      localAddress := connection.address + range.1
      length := range.2.2
      operation :=
        if read then .read (connection.remoteAddress + range.2.1)
        else .write (connection.remoteAddress + range.2.1) }

def setupTransfer (patternBytes : Nat → Int → Bytes) (rank : Nat) (connection : Connection)
    (lengths : List Nat) (read : Bool) (seed : Int) : Transfer :=
  let (localOffsets, size) := makeLayout lengths (rank != 0)
  let (remoteOffsets, _) := makeLayout lengths (!(rank != 0))
  let source := rank == if read then 1 else 0
  let before := makeBufferContents patternBytes localOffsets lengths size
    (if source then some seed else none)
  let expected := makeBufferContents patternBytes localOffsets lengths size (some seed)
  { requests := connection.requests read localOffsets remoteOffsets lengths
    before := before
    expected := expected
    offsets := localOffsets
    lengths := lengths
    peer := connection.peer
    remoteAddress := connection.remoteAddress
    remoteSize := connection.remoteSize }

/-! ### Requests as byte copies

What the tests do not know is how the hardware cuts the requests and in which order the pieces
are copied.  `Cuts` allows every way, also with overlaps. -/

/-- The memory of a rank. -/
structure Buffer where
  address : Int
  bytes : Bytes

def Buffer.offset (buffer : Buffer) (address : Int) : Nat := (address - buffer.address).toNat

def Buffer.read (buffer : Buffer) (address : Int) (length : Nat) : Bytes :=
  (buffer.bytes.drop (buffer.offset address)).take length

def Buffer.write (buffer : Buffer) (address : Int) (data : Bytes) : Buffer :=
  { buffer with bytes := Piece.assign ⟨buffer.offset address, data⟩ buffer.bytes }

/-- A part of the request with this index. -/
structure Slice where
  index : Nat
  start : Nat
  length : Nat

/-- The hardware of the rank that submitted the requests copies one slice, between the buffer of
that rank and the one of its peer. -/
def copySlice (requests : List Request) (buffers : Buffer × Buffer) (slice : Slice) :
    Buffer × Buffer :=
  match requests[slice.index]? with
  | none => buffers
  | some request =>
      match request.operation with
      | .write remoteAddress _ =>
          (buffers.1, buffers.2.write (remoteAddress + slice.start)
            (buffers.1.read (request.localAddress + slice.start) slice.length))
      | .read remoteAddress =>
          (buffers.1.write (request.localAddress + slice.start)
            (buffers.2.read (remoteAddress + slice.start) slice.length), buffers.2)
      | _ => buffers

/-- Slices that lie in their requests. -/
def Within (requests : List Request) (slices : List Slice) : Prop :=
  ∀ slice ∈ slices, ∃ request, requests[slice.index]? = some request ∧
    (slice.start + slice.length : Int) ≤ request.length

/-- The slices cut the requests into pieces, in any order: every byte is in some slice. -/
structure Cuts (requests : List Request) (slices : List Slice) : Prop where
  within : Within requests slices
  covers : ∀ (index : Nat) request, requests[index]? = some request →
    ∀ position : Nat, position < request.length →
      ∃ slice ∈ slices, slice.index = index ∧ slice.start ≤ position ∧
        position < slice.start + slice.length

/-! ### Slices as assignments to the destination

A copied slice is an assignment of bytes of the source to the destination.  The source is never
assigned to, so every slice brings the bytes that are expected, however often and in whatever
order. -/

/-- What a slice assigns, between a source and a destination with these offsets. -/
def slicePiece (source : Bytes) (sourceOffsets destOffsets : List Nat) (slice : Slice) :
    Piece UInt8 :=
  ⟨destOffsets.getD slice.index 0 + slice.start,
    (source.drop (sourceOffsets.getD slice.index 0 + slice.start)).take slice.length⟩

/-- The slice lies in the range with its index. -/
def Slice.Fits (lengths : List Nat) (slice : Slice) : Prop :=
  ∃ length, lengths[slice.index]? = some length ∧ slice.start + slice.length ≤ length

/-- The two ends of a transfer: the contents of the source, and what the destination is expected
to contain, for two layouts of the same ranges. -/
structure Ends (patternBytes : Nat → Int → Bytes) (lengths : List Nat) (size : Nat) (seed : Int)
    (sourceOffsets destOffsets : List Nat) (source expected : Bytes) : Prop where
  sized : ∀ length seed, (patternBytes length seed).length = length
  guardedSource : Guarded lengths sourceOffsets size
  guardedDest : Guarded lengths destOffsets size
  source : source = makeBufferContents patternBytes sourceOffsets lengths size (some seed)
  expected : expected = makeBufferContents patternBytes destOffsets lengths size (some seed)

namespace Ends

variable {patternBytes : Nat → Int → Bytes} {sourceOffsets destOffsets lengths : List Nat}
  {size : Nat} {seed : Int} {source expected dest : Bytes} {slice : Slice} {slices : List Slice}
  {position : Nat}
  (ends : Ends patternBytes lengths size seed sourceOffsets destOffsets source expected)

include ends

/-- The range of a slice, at both ends. -/
theorem ranges (fits : slice.Fits lengths) : ∃ offset target length,
    sourceOffsets[slice.index]? = some offset ∧ destOffsets[slice.index]? = some target ∧
    lengths[slice.index]? = some length ∧ slice.start + slice.length ≤ length := by
  obtain ⟨length, found, within⟩ := fits
  have bound := (List.getElem?_eq_some_iff.mp found).1
  exact ⟨_, _, length, List.getElem?_eq_getElem (ends.guardedSource.length ▸ bound),
    List.getElem?_eq_getElem (ends.guardedDest.length ▸ bound), found, within⟩

theorem length_slicePiece (fits : slice.Fits lengths) :
    (slicePiece source sourceOffsets destOffsets slice).data.length = slice.length := by
  obtain ⟨offset, target, length, at_, -, found, within⟩ := ends.ranges fits
  have inside := (ends.guardedSource.inside slice.index offset length at_ found).2
  simp only [slicePiece, List.getD_eq_getElem?_getD, at_, Option.getD_some, List.length_take,
    List.length_drop, ends.source, length_makeBufferContents ends.sized ends.guardedSource]
  omega

theorem slicePiece_fits (fits : slice.Fits lengths) :
    (slicePiece source sourceOffsets destOffsets slice).stop ≤ size := by
  obtain ⟨offset, target, length, -, at_, found, within⟩ := ends.ranges fits
  have inside := (ends.guardedDest.inside slice.index target length at_ found).2
  rw [Piece.stop, ends.length_slicePiece fits]
  simp only [slicePiece, List.getD_eq_getElem?_getD, at_, Option.getD_some]
  omega

/-- A slice assigns bytes of its range only, and what the destination is expected to contain. -/
theorem slicePiece_agrees (fits : slice.Fits lengths)
    (covers : (slicePiece source sourceOffsets destOffsets slice).Covers position) :
    InRange destOffsets lengths position ∧
      (slicePiece source sourceOffsets destOffsets slice).data[position -
        (slicePiece source sourceOffsets destOffsets slice).start]? = expected[position]? := by
  obtain ⟨offset, target, length, at_, at', found, within⟩ := ends.ranges fits
  rw [Piece.Covers, Piece.stop, ends.length_slicePiece fits] at covers
  simp only [slicePiece, List.getD_eq_getElem?_getD, at_, at', Option.getD_some] at covers ⊢
  obtain ⟨inside, rfl⟩ : ∃ inside, position = target + (slice.start + inside) :=
    ⟨position - target - slice.start, by omega⟩
  have below : slice.start + inside < length := by omega
  refine ⟨⟨slice.index, target, length, at', found, by omega, by omega⟩, ?_⟩
  have shift : target + (slice.start + inside) - (target + slice.start) = inside := by omega
  rw [shift, List.getElem?_take_of_lt (by omega), List.getElem?_drop, Nat.add_assoc, ends.source,
    ends.expected, contents_inside ends.sized ends.guardedSource at_ found below,
    contents_inside ends.sized ends.guardedDest at' found below]

/-- Slices that lie in their ranges assign nothing outside the ranges. -/
theorem splices_outside (fits : ∀ slice ∈ slices, slice.Fits lengths) (length : dest.length = size)
    (outside : ¬InRange destOffsets lengths position) :
    (splices dest (slices.map (slicePiece source sourceOffsets destOffsets)))[position]? =
      dest[position]? := by
  refine getElem?_splices_of_uncovered ?_ ?_
  · intro piece member
    obtain ⟨slice, inSlices, rfl⟩ := List.mem_map.mp member
    exact length ▸ ends.slicePiece_fits (fits slice inSlices)
  · intro piece member covers
    obtain ⟨slice, inSlices, rfl⟩ := List.mem_map.mp member
    exact outside (ends.slicePiece_agrees (fits slice inSlices) covers).1

/-- Slices that cover all ranges turn the filler of the destination into what is expected. -/
theorem splices_eq (fits : ∀ slice ∈ slices, slice.Fits lengths)
    (covers : ∀ (index : Nat) length, lengths[index]? = some length → ∀ position < length,
      ∃ slice ∈ slices, slice.index = index ∧ slice.start ≤ position ∧
        position < slice.start + slice.length)
    (filler : dest = makeBufferContents patternBytes destOffsets lengths size none) :
    splices dest (slices.map (slicePiece source sourceOffsets destOffsets)) = expected := by
  have length : dest.length = size :=
    filler ▸ length_makeBufferContents ends.sized ends.guardedDest none
  have length' : expected.length = size :=
    ends.expected ▸ length_makeBufferContents ends.sized ends.guardedDest (some seed)
  have pieces : ∀ piece ∈ slices.map (slicePiece source sourceOffsets destOffsets),
      piece.stop ≤ dest.length := by
    intro piece member
    obtain ⟨slice, inSlices, rfl⟩ := List.mem_map.mp member
    exact length ▸ ends.slicePiece_fits (fits slice inSlices)
  refine List.ext_getElem? fun position => ?_
  rcases Nat.lt_or_ge position size with below | beyond
  · by_cases inRange : InRange destOffsets lengths position
    · obtain ⟨index, target, length, at', found, after, before⟩ := inRange
      have inExpected : position < expected.length := by omega
      rw [List.getElem?_eq_getElem inExpected]
      refine getElem?_splices_of_agree pieces ?_ (.inl ?_)
      · intro piece member covered
        obtain ⟨slice, inSlices, rfl⟩ := List.mem_map.mp member
        rw [(ends.slicePiece_agrees (fits slice inSlices) covered).2,
          List.getElem?_eq_getElem inExpected]
      · obtain ⟨slice, inSlices, rfl, from_, upTo⟩ :=
          covers index length found (position - target) (by omega)
        refine ⟨_, List.mem_map_of_mem inSlices, ?_⟩
        rw [Piece.Covers, Piece.stop, ends.length_slicePiece (fits slice inSlices)]
        simp only [slicePiece, List.getD_eq_getElem?_getD, at', Option.getD_some]
        omega
    · rw [ends.splices_outside fits length inRange, filler, ends.expected,
        contents_outside ends.sized ends.guardedDest none below inRange,
        contents_outside ends.sized ends.guardedDest (some seed) below inRange]
  · rw [List.getElem?_eq_none (by rw [length_splices pieces]; omega),
      List.getElem?_eq_none (by omega)]

end Ends

section Execution

variable {connection : Connection} {offsets targets lengths : List Nat} {slice : Slice}
  {slices : List Slice}

theorem getElem?_requests {read : Bool} {index : Nat} {request : Request} :
    (connection.requests read offsets targets lengths)[index]? = some request ↔
      ∃ offset target length, offsets[index]? = some offset ∧ targets[index]? = some target ∧
        lengths[index]? = some length ∧ request =
          { peer := connection.peer
            localAddress := connection.address + offset
            length := length
            operation :=
              if read then .read (connection.remoteAddress + target)
              else .write (connection.remoteAddress + target) } := by
  simp only [Connection.requests, List.getElem?_map, Option.map_eq_some_iff, Prod.exists,
    List.getElem?_zip_eq_some]
  constructor
  · rintro ⟨offset, target, length, ⟨at_, at', found⟩, rfl⟩
    exact ⟨offset, target, length, at_, at', found, rfl⟩
  · rintro ⟨offset, target, length, at_, at', found, rfl⟩
    exact ⟨offset, target, length, ⟨at_, at', found⟩, rfl⟩

/-- A slice of a request is a slice of its range. -/
theorem fits_of_within {read : Bool}
    (within : Within (connection.requests read offsets targets lengths) slices) :
    ∀ slice ∈ slices, ∃ offset target length, offsets[slice.index]? = some offset ∧
      targets[slice.index]? = some target ∧ lengths[slice.index]? = some length ∧
      slice.start + slice.length ≤ length := by
  intro slice member
  obtain ⟨request, planned, inside⟩ := within slice member
  obtain ⟨offset, target, length, at_, at', found, rfl⟩ := getElem?_requests.mp planned
  have inside' : (slice.start + slice.length : Int) ≤ length := inside
  exact ⟨offset, target, length, at_, at', found, by omega⟩

theorem offset_add (address : Int) (bytes : Bytes) (offset start : Nat) :
    Buffer.offset ⟨address, bytes⟩ (address + offset + start) = offset + start := by
  simp only [Buffer.offset]
  omega

/-- The slices of WRITE requests assign to the remote buffer. -/
theorem copySlices_write {source dest : Bytes}
    (within : Within (connection.requests false offsets targets lengths) slices) :
    slices.foldl (copySlice (connection.requests false offsets targets lengths))
        (⟨connection.address, source⟩, ⟨connection.remoteAddress, dest⟩) =
      (⟨connection.address, source⟩,
        ⟨connection.remoteAddress,
          splices dest (slices.map (slicePiece source offsets targets))⟩) := by
  induction slices generalizing dest with
  | nil => rfl
  | cons slice rest inductionHypothesis =>
      obtain ⟨offset, target, length, at_, at', found, -⟩ :=
        fits_of_within within slice (.head rest)
      have request : (connection.requests false offsets targets lengths)[slice.index]? = some _ :=
        getElem?_requests.mpr ⟨offset, target, length, at_, at', found, rfl⟩
      have first : copySlice (connection.requests false offsets targets lengths)
          (⟨connection.address, source⟩, ⟨connection.remoteAddress, dest⟩) slice =
          (⟨connection.address, source⟩, ⟨connection.remoteAddress,
            (slicePiece source offsets targets slice).assign dest⟩) := by
        simp [copySlice, request, Buffer.write, Buffer.read, offset_add, slicePiece,
          List.getD_eq_getElem?_getD, at_, at']
      rw [List.foldl_cons, first]
      exact inductionHypothesis fun other member => within other (.tail slice member)

/-- The slices of READ requests assign to the local buffer. -/
theorem copySlices_read {source dest : Bytes}
    (within : Within (connection.requests true offsets targets lengths) slices) :
    slices.foldl (copySlice (connection.requests true offsets targets lengths))
        (⟨connection.address, dest⟩, ⟨connection.remoteAddress, source⟩) =
      (⟨connection.address, splices dest (slices.map (slicePiece source targets offsets))⟩,
        ⟨connection.remoteAddress, source⟩) := by
  induction slices generalizing dest with
  | nil => rfl
  | cons slice rest inductionHypothesis =>
      obtain ⟨offset, target, length, at_, at', found, -⟩ :=
        fits_of_within within slice (.head rest)
      have request : (connection.requests true offsets targets lengths)[slice.index]? = some _ :=
        getElem?_requests.mpr ⟨offset, target, length, at_, at', found, rfl⟩
      have first : copySlice (connection.requests true offsets targets lengths)
          (⟨connection.address, dest⟩, ⟨connection.remoteAddress, source⟩) slice =
          (⟨connection.address, (slicePiece source targets offsets slice).assign dest⟩,
            ⟨connection.remoteAddress, source⟩) := by
        simp [copySlice, request, Buffer.write, Buffer.read, offset_add, slicePiece,
          List.getD_eq_getElem?_getD, at_, at']
      rw [List.foldl_cons, first]
      exact inductionHypothesis fun other member => within other (.tail slice member)

/-- Slices that cut the requests fit the ranges and cover them. -/
theorem Cuts.fits {read : Bool}
    (cuts : Cuts (connection.requests read offsets targets lengths) slices)
    (sameLength : offsets.length = lengths.length) (sameLength' : targets.length = lengths.length) :
    (∀ slice ∈ slices, slice.Fits lengths) ∧
      ∀ (index : Nat) length, lengths[index]? = some length → ∀ position < length,
        ∃ slice ∈ slices, slice.index = index ∧ slice.start ≤ position ∧
          position < slice.start + slice.length := by
  refine ⟨fun slice member => ?_, fun index length found position below => ?_⟩
  · obtain ⟨_, _, length, -, -, found, within⟩ := fits_of_within cuts.within slice member
    exact ⟨length, found, within⟩
  · have bound := (List.getElem?_eq_some_iff.mp found).1
    have planned : (connection.requests read offsets targets lengths)[index]? = some _ :=
      getElem?_requests.mpr ⟨_, _, length, List.getElem?_eq_getElem (sameLength ▸ bound),
        List.getElem?_eq_getElem (sameLength' ▸ bound), found, rfl⟩
    exact cuts.covers index _ planned position (Int.ofNat_lt.mpr below)

theorem fits_of_slices {read : Bool}
    (within : Within (connection.requests read offsets targets lengths) slices) :
    ∀ slice ∈ slices, slice.Fits lengths := by
  intro slice member
  obtain ⟨_, _, length, -, -, found, inside⟩ := fits_of_within within slice member
  exact ⟨length, found, inside⟩

variable {patternBytes : Nat → Int → Bytes} {size : Nat} {seed : Int}
  {source expected dest : Bytes}

/-- WRITE requests change nothing but the ranges of the remote buffer. -/
theorem Ends.write (connection : Connection)
    (ends : Ends patternBytes lengths size seed offsets targets source expected)
    (filler : dest = makeBufferContents patternBytes targets lengths size none) :
    (∀ slices, Within (connection.requests false offsets targets lengths) slices → ∃ after,
      slices.foldl (copySlice (connection.requests false offsets targets lengths))
        (⟨connection.address, source⟩, ⟨connection.remoteAddress, dest⟩) =
          (⟨connection.address, source⟩, ⟨connection.remoteAddress, after⟩) ∧
      ∀ position, ¬InRange targets lengths position → after[position]? = dest[position]?) ∧
    ∀ slices, Cuts (connection.requests false offsets targets lengths) slices →
      slices.foldl (copySlice (connection.requests false offsets targets lengths))
        (⟨connection.address, source⟩, ⟨connection.remoteAddress, dest⟩) =
          (⟨connection.address, source⟩, ⟨connection.remoteAddress, expected⟩) := by
  have length : dest.length = size :=
    filler ▸ length_makeBufferContents ends.sized ends.guardedDest none
  refine ⟨fun slices within => ⟨_, copySlices_write within, fun position outside =>
    ends.splices_outside (fits_of_slices within) length outside⟩, fun slices cuts => ?_⟩
  obtain ⟨fits, covers⟩ := cuts.fits ends.guardedSource.length ends.guardedDest.length
  rw [copySlices_write cuts.within, ends.splices_eq fits covers filler]

/-- READ requests change nothing but the ranges of the local buffer. -/
theorem Ends.read (connection : Connection)
    (ends : Ends patternBytes lengths size seed targets offsets source expected)
    (filler : dest = makeBufferContents patternBytes offsets lengths size none) :
    (∀ slices, Within (connection.requests true offsets targets lengths) slices → ∃ after,
      slices.foldl (copySlice (connection.requests true offsets targets lengths))
        (⟨connection.address, dest⟩, ⟨connection.remoteAddress, source⟩) =
          (⟨connection.address, after⟩, ⟨connection.remoteAddress, source⟩) ∧
      ∀ position, ¬InRange offsets lengths position → after[position]? = dest[position]?) ∧
    ∀ slices, Cuts (connection.requests true offsets targets lengths) slices →
      slices.foldl (copySlice (connection.requests true offsets targets lengths))
        (⟨connection.address, dest⟩, ⟨connection.remoteAddress, source⟩) =
          (⟨connection.address, expected⟩, ⟨connection.remoteAddress, source⟩) := by
  have length : dest.length = size :=
    filler ▸ length_makeBufferContents ends.sized ends.guardedDest none
  refine ⟨fun slices within => ⟨_, copySlices_read within, fun position outside =>
    ends.splices_outside (fits_of_slices within) length outside⟩, fun slices cuts => ?_⟩
  obtain ⟨fits, covers⟩ := cuts.fits ends.guardedDest.length ends.guardedSource.length
  rw [copySlices_read cuts.within, ends.splices_eq fits covers filler]

theorem sameSize (lengths : List Nat) :
    (makeLayout lengths true).2 = (makeLayout lengths false).2 := by
  rw [makeLayout_size, makeLayout_size]

/-- The first rank places its ranges forwards. -/
theorem setupTransfer_first (connection : Connection) (read : Bool) :
    setupTransfer patternBytes 0 connection lengths read seed =
      { requests := connection.requests read (makeLayout lengths false).1
          (makeLayout lengths true).1 lengths
        before := makeBufferContents patternBytes (makeLayout lengths false).1 lengths
          (makeLayout lengths false).2 (if read then none else some seed)
        expected := makeBufferContents patternBytes (makeLayout lengths false).1 lengths
          (makeLayout lengths false).2 (some seed)
        offsets := (makeLayout lengths false).1
        lengths := lengths
        peer := connection.peer
        remoteAddress := connection.remoteAddress
        remoteSize := connection.remoteSize } := by
  cases read <;> rfl

/-- The second rank places them backwards, in a buffer of the same size. -/
theorem setupTransfer_second (connection : Connection) (read : Bool) :
    setupTransfer patternBytes 1 connection lengths read seed =
      { requests := connection.requests read (makeLayout lengths true).1
          (makeLayout lengths false).1 lengths
        before := makeBufferContents patternBytes (makeLayout lengths true).1 lengths
          (makeLayout lengths false).2 (if read then some seed else none)
        expected := makeBufferContents patternBytes (makeLayout lengths true).1 lengths
          (makeLayout lengths false).2 (some seed)
        offsets := (makeLayout lengths true).1
        lengths := lengths
        peer := connection.peer
        remoteAddress := connection.remoteAddress
        remoteSize := connection.remoteSize } := by
  rw [← sameSize]
  cases read <;> rfl

end Execution

/-- The oracle of the transfer tests, for every list of lengths, both directions and every pattern.
The two layouts have one size, guarded ranges and filler around them; the targets of the requests
are the other rank's ranges; and slices of the requests, in any order, change nothing but the
destination's ranges and leave the expected buffers once they cover all requests. -/
theorem transfer_oracle_correct (patternBytes : Nat → Int → Bytes)
    (sized : ∀ length seed, (patternBytes length seed).length = length) (lengths : List Nat)
    (read : Bool) (seed : Int) (peer peer' address address' size size' : Int) :
    (makeLayout lengths false).2 = (makeLayout lengths true).2 ∧
    (∀ reverse, Guarded lengths (makeLayout lengths reverse).1 (makeLayout lengths reverse).2 ∧
      ∀ seed position, position < (makeLayout lengths reverse).2 →
        ¬InRange (makeLayout lengths reverse).1 lengths position →
        (makeBufferContents patternBytes (makeLayout lengths reverse).1 lengths
          (makeLayout lengths reverse).2 seed)[position]? = some FILL) ∧
    ∀ mine theirs,
      mine = setupTransfer patternBytes 0 ⟨peer, address, address', size'⟩ lengths read seed →
      theirs = setupTransfer patternBytes 1 ⟨peer', address', address, size⟩ lengths read seed →
      (mine.requests.length = lengths.length ∧
        ∀ (index : Nat) request, mine.requests[index]? = some request →
          ∃ offset target length, mine.offsets[index]? = some offset ∧
            theirs.offsets[index]? = some target ∧ lengths[index]? = some length ∧
            request = ⟨peer, address + offset, length,
              if read then .read (address' + target) else .write (address' + target)⟩) ∧
      (∀ slices, Within mine.requests slices → ∃ first second,
        slices.foldl (copySlice mine.requests) (⟨address, mine.before⟩, ⟨address', theirs.before⟩) =
          (⟨address, first⟩, ⟨address', second⟩) ∧
        (if read then second = theirs.before ∧ ∀ position, ¬InRange mine.offsets lengths position →
            first[position]? = mine.before[position]?
        else first = mine.before ∧ ∀ position, ¬InRange theirs.offsets lengths position →
            second[position]? = theirs.before[position]?)) ∧
      ∀ slices, Cuts mine.requests slices →
        slices.foldl (copySlice mine.requests) (⟨address, mine.before⟩, ⟨address', theirs.before⟩) =
          (⟨address, mine.expected⟩, ⟨address', theirs.expected⟩) := by
  have guarded := makeLayout_guarded lengths
  refine ⟨(sameSize lengths).symm,
    fun reverse => ⟨guarded reverse, fun seed position below outside =>
    contents_outside sized (guarded reverse) seed below outside⟩, ?_⟩
  rintro mine theirs rfl rfl
  rw [setupTransfer_first, setupTransfer_second]
  refine ⟨⟨?_, fun index request planned => ?_⟩, ?_⟩
  · have first := (guarded false).length
    have second := (guarded true).length
    simp [Connection.requests, first, second]
  · obtain ⟨offset, target, length, at_, at', found, same⟩ := getElem?_requests.mp planned
    exact ⟨offset, target, length, at_, at', found, same⟩
  · have guarded' : Guarded lengths (makeLayout lengths true).1 (makeLayout lengths false).2 :=
      sameSize lengths ▸ guarded true
    cases read with
    | false =>
        obtain ⟨within, cuts⟩ := Ends.write ⟨peer, address, address', size'⟩
          ⟨sized, guarded false, guarded', rfl, rfl⟩ rfl
        refine ⟨fun slices inside => ?_, cuts⟩
        obtain ⟨after, run, outside⟩ := within slices inside
        exact ⟨_, after, run, rfl, outside⟩
    | true =>
        obtain ⟨within, cuts⟩ := Ends.read ⟨peer, address, address', size'⟩
          ⟨sized, guarded', guarded false, rfl, rfl⟩ rfl
        refine ⟨fun slices inside => ?_, cuts⟩
        obtain ⟨after, run, outside⟩ := within slices inside
        exact ⟨after, _, run, rfl, outside⟩

/-! ### Two ranges, the second one cut in two -/

def samplePattern (length : Nat) (seed : Int) : Bytes :=
  List.replicate length (UInt8.ofNat seed.toNat)

def sampleTransfer (rank : Nat) : Transfer :=
  setupTransfer samplePattern rank ⟨1, if rank = 0 then 4096 else 8192,
    if rank = 0 then 8192 else 4096, 400⟩ [3, 5] false 17

def sampleSlices : List Slice := [⟨1, 2, 3⟩, ⟨0, 0, 3⟩, ⟨1, 0, 2⟩]

theorem sampleSlices_cut : Cuts (sampleTransfer 0).requests sampleSlices := by
  have requests : (sampleTransfer 0).requests =
      [⟨1, 4096 + 64, 3, .write (8192 + 198)⟩, ⟨1, 4096 + 195, 5, .write (8192 + 64)⟩] := by decide
  rw [requests]
  refine ⟨fun slice member => ?_, fun index request planned position below => ?_⟩
  · simp only [sampleSlices, List.mem_cons, List.not_mem_nil, or_false] at member
    rcases member with rfl | rfl | rfl <;> exact ⟨_, rfl, by decide⟩
  · rcases index with _ | _ | index
    · cases planned
      have below' : position < 3 := Int.ofNat_lt.mp below
      exact ⟨⟨0, 0, 3⟩, by simp [sampleSlices], rfl, Nat.zero_le _, below'⟩
    · cases planned
      have below' : position < 5 := Int.ofNat_lt.mp below
      rcases Nat.lt_or_ge position 2 with front | back
      · exact ⟨⟨1, 0, 2⟩, by simp [sampleSlices], rfl, Nat.zero_le _, front⟩
      · exact ⟨⟨1, 2, 3⟩, by simp [sampleSlices], rfl, back, below'⟩
    · simp at planned

theorem transfer_oracle_correct_sample :
    sampleSlices.foldl (copySlice (sampleTransfer 0).requests)
      (⟨4096, (sampleTransfer 0).before⟩, ⟨8192, (sampleTransfer 1).before⟩) =
        (⟨4096, (sampleTransfer 0).expected⟩, ⟨8192, (sampleTransfer 1).expected⟩) :=
  ((transfer_oracle_correct samplePattern (fun _ _ => List.length_replicate) [3, 5] false 17 1 1
    4096 8192 400 400).2.2 (sampleTransfer 0) (sampleTransfer 1) rfl rfl).2.2 sampleSlices
      sampleSlices_cut

end Rdma101.Oracle
