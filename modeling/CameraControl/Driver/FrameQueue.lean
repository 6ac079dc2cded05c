/-
  Queues of frame buffers.

  A queue gives out its frames in the order in which they were added. It keeps those added last in
  a list of their own, the latest first, and turns that list over when the others are used up, so
  that neither end of a long queue is ever far away. `toList` is the view through which everything
  else is described: see `toList_push` and `toList_of_pop?`.
-/

namespace CameraControl

/-- A frame buffer: its address and its size. -/
structure Frame where
  address : UInt64
  size : Int32
  deriving DecidableEq, Repr

/-- A queue of frames. -/
structure FrameQueue where
  /-- The frames to be given out first, the oldest first. -/
  front : List Frame
  /-- The frames added after those, the latest first. -/
  back : List Frame
  deriving DecidableEq, Repr

namespace FrameQueue

/-- The queue without frames. -/
def empty : FrameQueue := ⟨[], []⟩

/-- The frames of a queue, the oldest first. -/
def toList (q : FrameQueue) : List Frame := q.front ++ q.back.reverse

/-- How many frames a queue has. -/
def length (q : FrameQueue) : Nat := q.front.length + q.back.length

/-- Adds a frame. -/
def push (q : FrameQueue) (frame : Frame) : FrameQueue := ⟨q.front, frame :: q.back⟩

/-- The oldest frame and the queue without it, if there is a frame. -/
def pop? (q : FrameQueue) : Option (Frame × FrameQueue) :=
  match q.front with
  | frame :: rest => some (frame, ⟨rest, q.back⟩)
  | [] =>
    match q.back.reverse with
    | frame :: rest => some (frame, ⟨rest, []⟩)
    | [] => none

/-! ## Laws -/

theorem toList_empty : empty.toList = [] := rfl

theorem length_toList (q : FrameQueue) : q.toList.length = q.length := by
  simp [toList, length]

/-- A frame is added behind all others. -/
theorem toList_push (q : FrameQueue) (frame : Frame) :
    (q.push frame).toList = q.toList ++ [frame] := by
  simp [toList, push]

/-- The frame given out is the first one, and the others stay. -/
theorem toList_of_pop? {q q' : FrameQueue} {frame : Frame} (h : q.pop? = some (frame, q')) :
    q.toList = frame :: q'.toList := by
  obtain ⟨front, back⟩ := q
  cases front with
  | cons first rest =>
    simp only [pop?, Option.some.injEq, Prod.mk.injEq] at h
    obtain ⟨rfl, rfl⟩ := h
    rfl
  | nil =>
    cases hback : back.reverse with
    | nil => simp [pop?, hback] at h
    | cons first rest =>
      simp only [pop?, hback, Option.some.injEq, Prod.mk.injEq] at h
      obtain ⟨rfl, rfl⟩ := h
      simp [toList, hback]

/-- Nothing is given out exactly when there is no frame. -/
theorem pop?_eq_none_iff (q : FrameQueue) : q.pop? = none ↔ q.toList = [] := by
  obtain ⟨front, back⟩ := q
  cases front with
  | cons first rest => simp [pop?, toList]
  | nil =>
    cases hback : back.reverse with
    | nil => simp [pop?, toList, hback]
    | cons first rest => simp [pop?, toList, hback]

end FrameQueue

end CameraControl
