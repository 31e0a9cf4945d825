/-!
# Queues of bytes

Bytes arrive at one end of a `ByteQueue` and are taken from the other. What has been taken is
skipped rather than removed, so that taking costs no more than what is taken.
-/

namespace FileShare

/-- A queue of bytes. -/
structure ByteQueue where
  /-- All bytes that ever arrived. -/
  bytes : ByteArray
  /-- How many of them have been taken. -/
  taken : Nat
  deriving Inhabited

namespace ByteQueue

/-- The queue without any bytes. -/
def empty : ByteQueue :=
  ⟨ByteArray.empty, 0⟩

/-- The bytes that have not been taken. -/
def toList (q : ByteQueue) : List UInt8 :=
  q.bytes.data.toList.drop q.taken

/-- How many bytes have not been taken. -/
def size (q : ByteQueue) : Nat :=
  q.bytes.size - q.taken

/-- Bytes arrive. -/
def push (q : ByteQueue) (data : ByteArray) : ByteQueue :=
  { q with bytes := q.bytes ++ data }

/-- At most so many bytes at the front. -/
def front (q : ByteQueue) (count : Nat) : ByteArray :=
  q.bytes.extract q.taken (q.taken + count)

/-- Take so many bytes. -/
def drop (q : ByteQueue) (count : Nat) : ByteQueue :=
  { q with taken := q.taken + count }

theorem toList_front (q : ByteQueue) (count : Nat) :
    (q.front count).data.toList = q.toList.take count := by
  simp [front, toList, List.extract_eq_take_drop]

theorem size_front_le (q : ByteQueue) (count : Nat) : (q.front count).size ≤ count := by
  rw [front, ByteArray.size_extract]
  omega

theorem front_prefix (q : ByteQueue) (count : Nat) : (q.front count).data.toList <+: q.toList := by
  rw [toList_front]
  exact List.take_prefix _ _

theorem toList_drop (q : ByteQueue) (count : Nat) :
    (q.drop count).toList = q.toList.drop count := by
  simp [drop, toList, List.drop_drop]

/-- What is at the front and what is left after taking it are all that was there. -/
theorem front_append_drop (q : ByteQueue) (count : Nat) :
    (q.front count).data.toList ++ (q.drop (q.front count).size).toList = q.toList := by
  have length : (q.front count).size = (q.toList.take count).length := by
    rw [← toList_front, Array.length_toList]
    rfl
  rw [toList_front, toList_drop, length, List.length_take]
  rw [List.take_eq_take_min]
  exact List.take_append_drop _ _

end ByteQueue

end FileShare
