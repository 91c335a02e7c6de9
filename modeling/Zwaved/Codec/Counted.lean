import Zwaved.Codec.Reader
import Zwaved.Reads

/-!
# Blobs with a version and a count

The stores keep lists in blobs of one kind: a byte for the version, a byte for the count, and the
elements one after the other. `readCounted` reads such a blob with a reader of the elements. What it
reads stands in the blob (`readCounted_cases`), and of a list that is laid down it reads as many
elements as the count says, which is one byte (`readCounted_writeCounted`).
-/

namespace Zwaved

variable {α β : Type}

/-- The elements of a blob: none unless the version is right and the blob long enough. -/
def readCounted (version : UInt8) (read : Codec.Reader PastEnd UInt8 α) (blob : Bytes) :
    Read (Option (List α)) :=
  if blob.length < 2 then return none
  else do
    if (← blob.readAt 0) ≠ version then return none
    else
      let count ← blob.readAt 1
      return (← Codec.times read count.toNat blob 2).map Prod.fst

/-- A list laid down behind a version and its count. -/
def writeCounted (version : UInt8) (write : α → Bytes) (l : List α) : Bytes :=
  [version, l.length.toUInt8] ++ l.flatMap write

variable {version : UInt8} {read : Codec.Reader PastEnd UInt8 α} {As : α → Bytes → Prop}

/-- What is left of `readCounted` behind the version and the count. -/
theorem readCounted_cons (first count : UInt8) (body : Bytes) :
    readCounted version read (first :: count :: body) =
      if first ≠ version then .ok none
      else (Codec.times read count.toNat (first :: count :: body) 2).map (Option.map Prod.fst) := by
  have hversion : Bytes.readAt (first :: count :: body) 0 = .ok first :=
    Bytes.readAt_of_lt (by simp)
  have hcount : Bytes.readAt (first :: count :: body) 1 = .ok count :=
    Bytes.readAt_of_lt (by simp)
  rw [readCounted, if_neg (by simp), hversion]
  simp only [Read.ok_bind, hcount, Read.pure_eq_ok]
  split
  · rfl
  · cases Codec.times read count.toNat (first :: count :: body) 2 <;> rfl

/-- Reading counted elements through another view of them is the view of what is read. -/
theorem readCounted_map (f : α → β) (blob : Bytes) :
    readCounted version (read.map f) blob =
      (readCounted version read blob).map (Option.map (List.map f)) := by
  match blob with
  | [] => rfl
  | [first] => rfl
  | first :: count :: body =>
    rw [readCounted_cons, readCounted_cons, Codec.times_map]
    split
    · rfl
    · unfold Codec.Reader.map
      rcases Codec.times read count.toNat (first :: count :: body) 2 with e | _ | read <;> rfl

/-- A blob whose elements stand in their forms is read, whatever follows it. -/
theorem readCounted_form (hread : Codec.Parses read As) {l : List α} {count : UInt8} {form : Bytes}
    (h : Codec.Counted As count.toNat l form) (after : Bytes) :
    readCounted version read (version :: count :: (form ++ after)) = .ok (some l) := by
  have htimes := (hread.times count.toNat).complete l form h [version, count] after
  rw [readCounted_cons, if_neg (by simp)]
  exact congrArg (Except.map (Option.map Prod.fst)) htimes

/-- There is no read past the end, and what is read stands in the blob element by element. -/
theorem readCounted_cases (hread : Codec.Parses read As) (blob : Bytes) :
    readCounted version read blob = .ok none ∨
      ∃ count l form after, blob = version :: count :: (form ++ after) ∧
        Codec.Counted As count.toNat l form ∧ readCounted version read blob = .ok (some l) := by
  match blob with
  | [] => exact Or.inl rfl
  | [first] => exact Or.inl rfl
  | first :: count :: body =>
    rw [readCounted_cons]
    by_cases hversion : first = version
    · subst hversion
      rw [if_neg (by simp)]
      rcases (hread.times count.toNat).sound [first, count] body with
        hnone | ⟨l, form, after, rfl, hform, hread⟩
      · exact Or.inl (congrArg (Except.map (Option.map Prod.fst)) hnone)
      · exact Or.inr ⟨count, l, form, after, rfl, hform,
          congrArg (Except.map (Option.map Prod.fst)) hread⟩
    · exact Or.inl (if_pos hversion)

/-- A list that is laid down is read back as far as the count goes. -/
theorem readCounted_writeCounted (hread : Codec.Parses read As) {write : α → Bytes} {l : List α}
    (hforms : ∀ x ∈ l, As x (write x)) :
    readCounted version read (writeCounted version write l) =
      .ok (some (l.take (l.length % 256))) := by
  have hcount : l.length.toUInt8.toNat = l.length % 256 := by
    rw [Nat.toUInt8_eq, UInt8.toNat_ofNat']
  have hle : l.length % 256 ≤ l.length := Nat.mod_le _ _
  have htaken : List.Forall₂ As (l.take (l.length % 256))
      ((l.take (l.length % 256)).map write) := by
    rw [List.forall₂_map_right_iff, List.forall₂_same]
    exact fun x hx => hforms x (List.mem_of_mem_take hx)
  have hform : Codec.Counted As l.length.toUInt8.toNat (l.take (l.length % 256))
      ((l.take (l.length % 256)).flatMap write) :=
    ⟨by rw [hcount, List.length_take, Nat.min_eq_left hle], _, htaken, List.flatMap_def⟩
  rw [writeCounted, ← List.take_append_drop (l.length % 256) l, List.flatMap_append,
    List.take_append_drop]
  exact readCounted_form hread hform _

/-- Every element of a list whose elements stand in forms has a form. -/
theorem exists_form {l : List α} {forms : List Bytes} {x : α} (h : List.Forall₂ As l forms)
    (hx : x ∈ l) : ∃ form, As x form := by
  induction h with
  | nil => cases hx
  | @cons first form l forms hform _ ih =>
    rcases List.mem_cons.mp hx with rfl | hrest
    · exact ⟨form, hform⟩
    · exact ih hrest

/-- What is read has no more elements than a byte can count, and each has a form. -/
theorem forms_of_readCounted (hread : Codec.Parses read As) {blob : Bytes} {l : List α}
    (h : readCounted version read blob = .ok (some l)) :
    l.length ≤ 255 ∧ ∀ x ∈ l, ∃ form, As x form := by
  rcases readCounted_cases hread blob with
    hnone | ⟨count, found, form, after, -, hform, hfound⟩
  · exact absurd (hnone.symm.trans h) (by simp)
  · obtain rfl := Option.some.inj (Except.ok.inj (hfound.symm.trans h))
    obtain ⟨hlength, forms, hforms, -⟩ := hform
    refine ⟨?_, fun x hx => exists_form hforms hx⟩
    rw [hlength]
    exact Nat.le_of_lt_succ count.toNat_lt

end Zwaved
