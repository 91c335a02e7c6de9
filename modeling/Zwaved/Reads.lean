import Zwaved.Bytes

/-!
# Reads past the end

`Bytes.byte` and its like are zero past the end of a span. Where it matters whether the source reads
there, a function is written with the reads of this module, which fail there, each in the place
where the source makes it.
-/

namespace Zwaved

/-- A read past the end of a span. -/
structure PastEnd where
  /-- The index that is read. -/
  index : ℕ
  /-- The length of the span. -/
  size : ℕ
  deriving DecidableEq, Repr

/-- What is computed from spans, or the first read past the end of one. -/
abbrev Read := Except PastEnd

/-- After a read that succeeds, what follows goes on with its value. -/
@[simp] theorem Read.ok_bind {α β : Type} (a : α) (f : α → Read β) :
    ((Except.ok a : Read α) >>= f) = f a := rfl

/-- A read past the end ends all that follows. -/
@[simp] theorem Read.error_bind {α β : Type} (e : PastEnd) (f : α → Read β) :
    ((Except.error e : Read α) >>= f) = .error e := rfl

/-- A value is a read that succeeds with it. -/
@[simp] theorem Read.pure_eq_ok {α : Type} (a : α) : (pure a : Read α) = .ok a := rfl

namespace Bytes

/-- `data[i]`. -/
def readAt (data : Bytes) (i : ℕ) : Read UInt8 :=
  if i < data.length then .ok (data.byte i) else .error ⟨i, data.length⟩

/-- `data.subspan(offset)`. -/
def readFrom (data : Bytes) (offset : ℕ) : Read Bytes :=
  if offset ≤ data.length then .ok (data.drop offset) else .error ⟨offset, data.length⟩

/-- `data.subspan(offset, count)`. -/
def readSpan (data : Bytes) (offset count : ℕ) : Read Bytes :=
  if offset + count ≤ data.length then .ok (data.subspan offset count)
  else .error ⟨offset + count - 1, data.length⟩

/-- `std::copy_n(data.begin() + offset, n, array.begin())`. -/
def readN (data : Bytes) (offset n : ℕ) : Read (Vector UInt8 n) :=
  if offset + n ≤ data.length then .ok (data.copyN offset n)
  else .error ⟨offset + n - 1, data.length⟩

variable {data : Bytes} {i offset count n : ℕ}

/-- Reading a byte inside the data gives the byte that is there. -/
theorem readAt_of_lt (h : i < data.length) : data.readAt i = .ok (data.byte i) := if_pos h

/-- A read behind the beginning of a span is one in the rest of it. -/
theorem readAt_append (before : Bytes) {tail : Bytes} (h : i < tail.length) :
    readAt (before ++ tail) (before.length + i) = .ok (tail.byte i) := by
  rw [readAt_of_lt (by rw [List.length_append]; omega), byte_append_right]

/-- Reading the rest from an offset inside the data gives the rest. -/
theorem readFrom_of_le (h : offset ≤ data.length) : data.readFrom offset = .ok (data.drop offset) :=
  if_pos h

/-- Reading a span that lies inside the data gives the span. -/
theorem readSpan_of_le (h : offset + count ≤ data.length) :
    data.readSpan offset count = .ok (data.subspan offset count) := if_pos h

/-- Copying bytes that lie inside the data gives those bytes. -/
theorem readN_of_le (h : offset + n ≤ data.length) :
    data.readN offset n = .ok (data.copyN offset n) := if_pos h

end Bytes

end Zwaved
