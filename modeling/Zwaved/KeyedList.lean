import Mathlib.Data.Finset.Card
import Mathlib.Data.List.Induction

/-!
# Lists with keys

A list of elements that each have a key, in which a key may occur more than once and the last
element of a key is the one that counts (`last`): it is what is left when the elements are applied
one after the other (`settle`). `place` puts an element in the place of the first of its key, or at
the end. When the elements of a second list are placed one by one, each key keeps what it had
behind its first place (`under_placeAll`), and the list grows by the keys that are new to it
(`length_placeAll`).
-/

namespace KeyedList

variable {α κ : Type*} [DecidableEq κ] (key : α → κ)

/-- The elements of a key. -/
def under (k : κ) (l : List α) : List α := l.filter fun x => decide (key x = k)

/-- The last element of a key. -/
def last (k : κ) (l : List α) : Option α := (under key k l).getLast?

/-- The elements applied one after the other, each to what its key holds. -/
def settle (held : κ → Option α) (l : List α) : κ → Option α :=
  l.foldl (fun held x => Function.update held (key x) (some x)) held

/-- An element in the place of the first of its key, or at the end. -/
def place (x : α) : List α → List α
  | [] => [x]
  | y :: l => if key y = key x then x :: l else y :: place x l

/-- The elements of a list placed one after the other. -/
def placeAll (l xs : List α) : List α := xs.foldl (fun l x => place key x l) l

variable {key} {k : κ} {x : α}

/-- An element added at the end comes last among those of its key. -/
theorem under_concat_self (l : List α) (x : α) :
    under key (key x) (l ++ [x]) = under key (key x) l ++ [x] := by
  simp [under]

/-- An element added at the end is none of another key's. -/
theorem under_concat_of_ne (l : List α) (h : key x ≠ k) :
    under key k (l ++ [x]) = under key k l := by
  simp [under, h]

/-- An element added at the end is the last of its key. -/
theorem last_concat_self (l : List α) (x : α) : last key (key x) (l ++ [x]) = some x := by
  rw [last, under_concat_self, List.getLast?_concat]

/-- An element added at the end leaves the last one of every other key. -/
theorem last_concat_of_ne (l : List α) (h : key x ≠ k) :
    last key k (l ++ [x]) = last key k l := by
  rw [last, last, under_concat_of_ne l h]

/-- A key has no last element exactly when the list has none of it. -/
theorem last_eq_none_iff {l : List α} : last key k l = none ↔ k ∉ l.map key := by
  rw [last, List.getLast?_eq_none_iff, under, List.filter_eq_nil_iff, List.mem_map]
  simp

/-- A key that occurs has a last element. -/
theorem exists_last {l : List α} (h : k ∈ l.map key) : ∃ x, last key k l = some x := by
  cases hlast : last key k l with
  | none => exact absurd h (last_eq_none_iff.mp hlast)
  | some x => exact ⟨x, rfl⟩

/-- What is left of a list that is applied is the last element of each key. -/
theorem settle_eq (held : κ → Option α) (l : List α) (k : κ) :
    settle key held l k = (last key k l).or (held k) := by
  induction l using List.reverseRecOn with
  | nil => rfl
  | append_singleton l x ih =>
    have hstep : settle key held (l ++ [x]) =
        Function.update (settle key held l) (key x) (some x) := List.foldl_concat ..
    rw [hstep]
    by_cases hk : key x = k
    · subst hk
      rw [Function.update_self, last_concat_self, Option.some_or]
    · rw [Function.update_of_ne (Ne.symm hk), ih, last_concat_of_ne l hk]

/-! ## Placing -/

/-- A placed element replaces the first of its key, or is the only one. -/
theorem under_place_self (x : α) (l : List α) :
    under key (key x) (place key x l) = x :: (under key (key x) l).tail := by
  induction l with
  | nil => simp [place, under]
  | cons y l ih =>
    by_cases hy : key y = key x
    · simp [place, under, hy]
    · rw [place, if_neg hy]
      simpa [under, hy] using ih

/-- A placed element leaves those of every other key. -/
theorem under_place_of_ne (l : List α) (h : key x ≠ k) :
    under key k (place key x l) = under key k l := by
  induction l with
  | nil => simp [place, under, h]
  | cons y l ih =>
    by_cases hy : key y = key x
    · have hyk : key y ≠ k := fun heq => h (hy.symm.trans heq)
      simp [place, under, hy, h]
    · rw [place, if_neg hy]
      by_cases hyk : key y = k
      · simpa [under, hyk] using ih
      · simpa [under, hyk] using ih

/-- Placing an element adds its key and takes none away. -/
theorem mem_keys_place (l : List α) :
    k ∈ (place key x l).map key ↔ k = key x ∨ k ∈ l.map key := by
  induction l with
  | nil => simp [place]
  | cons y l ih =>
    by_cases hy : key y = key x
    · rw [place, if_pos hy, List.map_cons, List.map_cons, List.mem_cons, List.mem_cons, hy]
      tauto
    · simp only [place, if_neg hy, List.map_cons, List.mem_cons, ih]
      tauto

/-- What is in a list after placing is the placed element or was there before. -/
theorem mem_of_mem_place {y : α} {l : List α} (h : y ∈ place key x l) : y = x ∨ y ∈ l := by
  induction l with
  | nil => exact Or.inl (List.mem_singleton.mp h)
  | cons z l ih =>
    rw [place] at h
    split at h
    · rcases List.mem_cons.mp h with rfl | hl
      · exact Or.inl rfl
      · exact Or.inr (List.mem_cons_of_mem _ hl)
    · rcases List.mem_cons.mp h with rfl | hl
      · exact Or.inr List.mem_cons_self
      · exact (ih hl).imp_right (List.mem_cons_of_mem _)

/-- Placing an element makes the list longer only if its key is new. -/
theorem length_place (x : α) (l : List α) : (place key x l).length =
    if key x ∈ l.map key then l.length else l.length + 1 := by
  induction l with
  | nil => rfl
  | cons y l ih =>
    by_cases hy : key y = key x
    · rw [place, if_pos hy, if_pos (by simp [hy]), List.length_cons, List.length_cons]
    · have hmem : key x ∈ (y :: l).map key ↔ key x ∈ l.map key := by
        simp [Ne.symm hy]
      rw [place, if_neg hy, List.length_cons, ih, List.length_cons]
      simp only [hmem]
      split <;> rfl

/-- Of the elements placed one after the other, the last is placed last. -/
theorem placeAll_concat (l xs : List α) (x : α) :
    placeAll key l (xs ++ [x]) = place key x (placeAll key l xs) := List.foldl_concat ..

/-- What is in a list after placing was there before or has been placed. -/
theorem mem_of_mem_placeAll {y : α} {l xs : List α} (h : y ∈ placeAll key l xs) :
    y ∈ l ∨ y ∈ xs := by
  induction xs using List.reverseRecOn with
  | nil => exact Or.inl h
  | append_singleton xs x ih =>
    rw [placeAll_concat] at h
    rcases mem_of_mem_place h with rfl | hl
    · exact Or.inr (List.mem_append_right _ (List.mem_singleton_self y))
    · exact (ih hl).imp_right (List.mem_append_left _)

/-- The last element that is placed for a key takes the first place of the key, and what is behind
that place stays. -/
theorem under_placeAll (l xs : List α) (k : κ) : under key k (placeAll key l xs) =
    match last key k xs with
    | none => under key k l
    | some x => x :: (under key k l).tail := by
  induction xs using List.reverseRecOn with
  | nil => rfl
  | append_singleton xs x ih =>
    rw [placeAll_concat]
    by_cases hk : key x = k
    · subst hk
      rw [under_place_self, ih, last_concat_self]
      cases last key (key x) xs with
      | none => rfl
      | some y => rfl
    · rw [under_place_of_ne _ hk, ih, last_concat_of_ne xs hk]

/-- A key that nothing is placed for keeps its last element. -/
theorem last_placeAll_of_none {l xs : List α} (h : last key k xs = none) :
    last key k (placeAll key l xs) = last key k l := by
  rw [last, under_placeAll, h, last]

/-- What is placed for a key comes last, unless the key had more than one place. -/
theorem last_placeAll_of_some {l xs : List α} (h : last key k xs = some x) :
    last key k (placeAll key l xs) =
      if (under key k l).length ≤ 1 then some x else last key k l := by
  rw [last, under_placeAll, h, last]
  rcases under key k l with _ | ⟨y, _ | ⟨z, rest⟩⟩
  · rfl
  · rfl
  · rw [if_neg (by simp)]
    rfl

/-- After placing, the last element of the key is the placed one, unless there were several of it:
then only the first was replaced. -/
theorem last_place_self (x : α) (l : List α) : last key (key x) (place key x l) =
    if (under key (key x) l).length ≤ 1 then some x else last key (key x) l :=
  last_placeAll_of_some (last_concat_self [] x)

/-- A placed element leaves the last one of every other key. -/
theorem last_place_of_ne (l : List α) (h : key x ≠ k) :
    last key k (place key x l) = last key k l := by
  rw [last, under_place_of_ne l h, last]

/-- The keys after placing are those there were and those placed. -/
theorem mem_keys_placeAll (l xs : List α) :
    k ∈ (placeAll key l xs).map key ↔ k ∈ l.map key ∨ k ∈ xs.map key := by
  induction xs using List.reverseRecOn with
  | nil => simp [placeAll]
  | append_singleton xs x ih =>
    rw [placeAll_concat, mem_keys_place, ih, List.map_append, List.mem_append, List.map_singleton,
      List.mem_singleton]
    tauto

/-- The list grows by one for each key that is new to it. -/
theorem length_placeAll (l xs : List α) : (placeAll key l xs).length =
    l.length + ((xs.map key).toFinset \ (l.map key).toFinset).card := by
  induction xs using List.reverseRecOn with
  | nil => simp [placeAll]
  | append_singleton xs x ih =>
    have hkeys : ((xs ++ [x]).map key).toFinset = insert (key x) (xs.map key).toFinset := by
      ext k
      simp
    rw [placeAll_concat, length_place, ih, hkeys]
    simp only [mem_keys_placeAll]
    by_cases hold : key x ∈ l.map key
    · rw [if_pos (Or.inl hold), Finset.insert_sdiff_of_mem _ (List.mem_toFinset.mpr hold)]
    · rw [Finset.insert_sdiff_of_notMem _ (fun hmem => hold (List.mem_toFinset.mp hmem))]
      by_cases hnew : key x ∈ xs.map key
      · rw [if_pos (Or.inr hnew), Finset.insert_eq_of_mem
          (Finset.mem_sdiff.mpr ⟨List.mem_toFinset.mpr hnew, fun hmem =>
            hold (List.mem_toFinset.mp hmem)⟩)]
      · rw [if_neg (fun hor => hor.elim hold hnew), Finset.card_insert_of_notMem
          (fun hmem => hnew (List.mem_toFinset.mp (Finset.mem_sdiff.mp hmem).1)), Nat.add_assoc]

end KeyedList
