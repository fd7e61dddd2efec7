/-
Module: Rdma101.Control.Trace
Purpose: What the C API allows of a trace of native calls on peers, read off the trace alone:
  a handle is made once, connected at most once while it lives, imported into only while it
  lives and is connected, and destroyed at most once.
Trusted boundary: human-reviewed reading of the peer contracts of transfer_engine.h
Main exports: Trace.Live, Trace.Connected, Trace.Legal, Trace.Disciplined,
  Disciplined.destroyed_at_most_once, Disciplined.connected_at_most_once,
  Disciplined.connected_unique
-/
import Rdma101.Control.Native

namespace Rdma101

/-- The handle a call is about. -/
def NativeCall.peer : NativeCall → Handle
  | .createPeer peer _ => peer
  | .connectPeer peer _ _ => peer
  | .importRemoteMemory peer _ _ => peer
  | .destroyPeer peer _ => peer

namespace Trace

/-- The handle was made and has not been destroyed.  Handles are never made twice. -/
def Live (calls : List NativeCall) (peer : Handle) : Prop :=
  (∃ metadata, .createPeer peer metadata ∈ calls) ∧ .destroyPeer peer true ∉ calls

/-- A call of `connect_peer` on the handle has succeeded. -/
def Connected (calls : List NativeCall) (peer : Handle) : Prop :=
  ∃ metadata, .connectPeer peer metadata true ∈ calls

/-- The call may follow the calls of the trace. -/
def Legal (calls : List NativeCall) : NativeCall → Prop
  | .createPeer peer _ => ∀ call ∈ calls, call.peer ≠ peer
  | .connectPeer peer _ _ => Live calls peer ∧ ¬Connected calls peer
  | .importRemoteMemory peer _ _ => Live calls peer ∧ Connected calls peer
  | .destroyPeer peer _ => Live calls peer

/-- Every call of the trace was legal when it was made. -/
inductive Disciplined : List NativeCall → Prop where
  | nil : Disciplined []
  | snoc {calls : List NativeCall} {call : NativeCall} (before : Disciplined calls)
      (legal : Legal calls call) : Disciplined (calls ++ [call])

@[simp] theorem live_snoc_createPeer {calls : List NativeCall} {peer other : Handle}
    {metadata : Bytes} :
    Live (calls ++ [.createPeer peer metadata]) other ↔
      (other = peer ∨ ∃ m, .createPeer other m ∈ calls) ∧ .destroyPeer other true ∉ calls := by
  simp only [Live, List.mem_append, List.mem_singleton, NativeCall.createPeer.injEq,
    reduceCtorEq, or_false]
  constructor
  · rintro ⟨⟨m, member | ⟨rfl, _⟩⟩, kept⟩
    · exact ⟨.inr ⟨m, member⟩, kept⟩
    · exact ⟨.inl rfl, kept⟩
  · rintro ⟨rfl | ⟨m, member⟩, kept⟩
    · exact ⟨⟨metadata, .inr ⟨rfl, rfl⟩⟩, kept⟩
    · exact ⟨⟨m, .inl member⟩, kept⟩

@[simp] theorem live_snoc_connectPeer {calls : List NativeCall} {peer other : Handle}
    {metadata : Bytes} {ok : Bool} :
    Live (calls ++ [.connectPeer peer metadata ok]) other ↔ Live calls other := by
  simp [Live]

@[simp] theorem live_snoc_importRemoteMemory {calls : List NativeCall} {peer other : Handle}
    {metadata : Bytes} {ok : Bool} :
    Live (calls ++ [.importRemoteMemory peer metadata ok]) other ↔ Live calls other := by
  simp [Live]

@[simp] theorem live_snoc_destroyPeer {calls : List NativeCall} {peer other : Handle}
    {ok : Bool} :
    Live (calls ++ [.destroyPeer peer ok]) other ↔
      Live calls other ∧ ¬(other = peer ∧ ok = true) := by
  simp only [Live, List.mem_append, List.mem_singleton, reduceCtorEq, or_false,
    NativeCall.destroyPeer.injEq]
  tauto

@[simp] theorem connected_snoc_connectPeer {calls : List NativeCall} {peer other : Handle}
    {metadata : Bytes} {ok : Bool} :
    Connected (calls ++ [.connectPeer peer metadata ok]) other ↔
      Connected calls other ∨ (other = peer ∧ ok = true) := by
  simp only [Connected, List.mem_append, List.mem_singleton, NativeCall.connectPeer.injEq]
  constructor
  · rintro ⟨m, member | ⟨rfl, rfl, rfl⟩⟩
    · exact .inl ⟨m, member⟩
    · exact .inr ⟨rfl, rfl⟩
  · rintro (⟨m, member⟩ | ⟨rfl, rfl⟩)
    · exact ⟨m, .inl member⟩
    · exact ⟨metadata, .inr ⟨rfl, rfl, rfl⟩⟩

@[simp] theorem connected_snoc_createPeer {calls : List NativeCall} {peer other : Handle}
    {metadata : Bytes} :
    Connected (calls ++ [.createPeer peer metadata]) other ↔ Connected calls other := by
  simp [Connected]

@[simp] theorem connected_snoc_importRemoteMemory {calls : List NativeCall}
    {peer other : Handle} {metadata : Bytes} {ok : Bool} :
    Connected (calls ++ [.importRemoteMemory peer metadata ok]) other ↔
      Connected calls other := by
  simp [Connected]

@[simp] theorem connected_snoc_destroyPeer {calls : List NativeCall} {peer other : Handle}
    {ok : Bool} :
    Connected (calls ++ [.destroyPeer peer ok]) other ↔ Connected calls other := by
  simp [Connected]

namespace Disciplined

/-- In a disciplined trace no handle is destroyed twice. -/
theorem destroyed_at_most_once {calls : List NativeCall} (disciplined : Disciplined calls)
    (peer : Handle) : calls.count (.destroyPeer peer true) ≤ 1 := by
  induction disciplined with
  | nil => simp
  | @snoc calls call before legal inductionHypothesis =>
      rw [List.count_append, List.count_singleton]
      by_cases same : call = .destroyPeer peer true
      · subst same
        -- The handle was still live, so the trace so far does not destroy it.
        have absent : calls.count (.destroyPeer peer true) = 0 :=
          List.count_eq_zero.mpr legal.2
        simp [absent]
      · simpa [same] using inductionHypothesis

/-- In a disciplined trace `connect_peer` succeeds at most once on a handle with one metadata. -/
theorem connected_at_most_once {calls : List NativeCall} (disciplined : Disciplined calls)
    (peer : Handle) (metadata : Bytes) : calls.count (.connectPeer peer metadata true) ≤ 1 := by
  induction disciplined with
  | nil => simp
  | @snoc calls call before legal inductionHypothesis =>
      rw [List.count_append, List.count_singleton]
      by_cases same : call = .connectPeer peer metadata true
      · subst same
        have absent : calls.count (.connectPeer peer metadata true) = 0 :=
          List.count_eq_zero.mpr fun member => legal.2 ⟨metadata, member⟩
        simp [absent]
      · simpa [same] using inductionHypothesis

/-- In a disciplined trace all metadata that a handle was connected to are the same. -/
theorem connected_unique {calls : List NativeCall} (disciplined : Disciplined calls)
    {peer : Handle} {first second : Bytes} (firstMember : .connectPeer peer first true ∈ calls)
    (secondMember : .connectPeer peer second true ∈ calls) : first = second := by
  induction disciplined with
  | nil => simp at firstMember
  | @snoc calls call before legal inductionHypothesis =>
      rcases List.mem_append.mp firstMember with firstOld | firstNew <;>
        rcases List.mem_append.mp secondMember with secondOld | secondNew
      · exact inductionHypothesis firstOld secondOld
      · rw [List.mem_singleton] at secondNew
        subst secondNew
        exact absurd ⟨first, firstOld⟩ legal.2
      · rw [List.mem_singleton] at firstNew
        subst firstNew
        exact absurd ⟨second, secondOld⟩ legal.2
      · rw [List.mem_singleton] at firstNew secondNew
        subst firstNew
        simpa using secondNew.symm

end Disciplined

end Trace

end Rdma101
