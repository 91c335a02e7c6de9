import Zwaved.Bytes
import Zwaved.Concurrency.RelyGuarantee

/-!
# Concurrent first starts over one key file

`S0::NetworkKey::loadOrGenerate` and the `loadOrGenerateOne` of `S2::NetworkKeys` read the key from
a file, or draw one and store it in a file that they create exclusively. Any number of them may run
on one path at a time, and any call of theirs may fail. Here they are processes over the file
system.

A path names an inode, and a file that is open stays the one that was opened. `creator` is not read
by any call; it says in the proofs who may still write a file or remove it. Each process guarantees
that it touches no file that another has created and none with sixteen bytes (`Guarantee`). So a
file that is still short belongs to its creator alone, and one with a whole key is settled for ever.
-/

namespace Zwaved.KeyFile

open Concurrency

/-- `Crypto::Key`, of S0 and of S2. -/
abbrev Key := Vector UInt8 16

/-- The file system around one path. -/
structure Files (ι : Type) where
  /-- The inode that the path names. -/
  path : Option ℕ
  /-- The bytes of an inode. -/
  content : ℕ → Bytes
  /-- The process that created an inode. -/
  creator : ℕ → Option ι
  /-- The next inode. -/
  next : ℕ

/-- The calls of `readKeyFile`, `writeKeyFileExclusive` and their callers. A descriptor is the inode
that it was opened on; `close` changes nothing and is left out. -/
inductive Call : Type → Type
  /-- `std::filesystem::file_size`. -/
  | fileSize : Call (Option ℕ)
  /-- `open` with `O_RDONLY`. -/
  | openRead : Call (Option ℕ)
  /-- `read` of `out.size()` bytes. -/
  | read (keyFd : ℕ) : Call (Option Bytes)
  /-- `std::filesystem::create_directories`. -/
  | createDirectories : Call Bool
  /-- `RAND_bytes`. -/
  | randBytes : Call (Option Key)
  /-- `open` with `O_WRONLY | O_CREAT | O_EXCL`. -/
  | openExclusive : Call (Option ℕ)
  /-- `write`. -/
  | write (keyFd : ℕ) (data : Bytes) : Call (Option ℕ)
  /-- `std::filesystem::remove`. -/
  | remove : Call Unit

/-- What the environment chooses for a call. -/
structure Choice where
  /-- It fails. -/
  fails : Bool := false
  /-- How many bytes are read or written at most. -/
  count : ℕ := 16
  /-- The bytes that are drawn. -/
  random : Key := Vector.replicate 16 0

namespace Files

variable {ι : Type}

/-- The bytes of the file at the path. -/
def file (s : Files ι) : Option Bytes := s.path.map s.content

/-- The files before the first process starts. -/
def initially (file : Option Bytes) : Files ι :=
  { path := file.map fun _ => 0
    content := fun _ => file.getD []
    creator := fun _ => none
    next := 1 }

/-- An empty file at the path. -/
def create (s : Files ι) (process : ι) : Files ι :=
  { path := some s.next
    content := Function.update s.content s.next []
    creator := Function.update s.creator s.next (some process)
    next := s.next + 1 }

/-- The data over the start of a file. -/
def overwrite (s : Files ι) (keyFd : ℕ) (data : Bytes) : Files ι :=
  { s with
    content :=
      Function.update s.content keyFd (data ++ (s.content keyFd).drop data.length) }

end Files

/-- How a call is performed. Each is atomic; a `write` makes what it writes visible at once. -/
def perform {ι : Type} (ρ : Type) (process : ι) :
    Call ρ → Choice → Files ι → ρ × Files ι
  | .fileSize, choice, s => (if choice.fails then none else s.file.map List.length, s)
  | .openRead, choice, s => (if choice.fails then none else s.path, s)
  | .read keyFd, choice, s =>
    (if choice.fails then none else some ((s.content keyFd).take (min choice.count 16)), s)
  | .createDirectories, choice, s => (!choice.fails, s)
  | .randBytes, choice, s => (if choice.fails then none else some choice.random, s)
  | .openExclusive, choice, s =>
    if choice.fails ∨ s.path ≠ none then (none, s) else (some s.next, s.create process)
  | .write keyFd data, choice, s =>
    if choice.fails then (none, s)
    else
      let written := data.take choice.count
      (some written.length, s.overwrite keyFd written)
  | .remove, choice, s => ((), if choice.fails then s else { s with path := none })

/-! ## The processes -/

/-- Exactly one key from the file. -/
def readExactly : Process Call (Option Key) := do
  let size ← .ask .fileSize
  if size ≠ some 16 then
    return none
  match ← .ask .openRead with
  | none => return none
  | some keyFd =>
    match ← .ask (.read keyFd) with
    | none => return none
    | some got => return if got.length = 16 then some (Bytes.copyN got 0 16) else none

/-- A key to a file that is created for it; a truncated one is not left behind. -/
def writeExclusively (key : Key) : Process Call Bool := do
  match ← .ask .openExclusive with
  | none => return false
  | some keyFd =>
    let put ← .ask (.write keyFd key.toList)
    if put ≠ some 16 then
      let _ ← .ask .remove
      return false
    return true

/-- `Loaded` of S0, `OneKey` of S2. -/
structure Loaded where
  /-- `key`. -/
  key : Key
  /-- `generated`. -/
  generated : Bool
  deriving DecidableEq

/-- The key of the file, or after `prepare` one that is drawn and stored. -/
def loadOrStore (prepare : Process Call Bool) : Process Call (Option Loaded) := do
  match ← readExactly with
  | some key => return some { key, generated := false }
  | none =>
    if ¬ (← prepare) then
      return none
    match ← .ask .randBytes with
    | none => return none
    | some key =>
      if ¬ (← writeExclusively key) then
        match ← readExactly with
        | some raced => return some { key := raced, generated := false }
        | none => return none
      return some { key, generated := true }

/-- `readKeyFile` of S0. -/
def readKeyFile : Process Call (Option Key) := readExactly

/-- `writeKeyFileExclusive` of S0. -/
def writeKeyFileExclusive (key : Key) : Process Call Bool := writeExclusively key

/-- `S0::NetworkKey::loadOrGenerate`, which makes the directory first. -/
def loadOrGenerate : Process Call (Option Loaded) := loadOrStore (.ask .createDirectories)

/-- `readKey` of S2. -/
def readKey : Process Call (Option Key) := readExactly

/-- `writeKeyExclusive` of S2. -/
def writeKeyExclusive (key : Key) : Process Call Bool := writeExclusively key

/-- `loadOrGenerateOne` of S2. -/
def loadOrGenerateOne : Process Call (Option Loaded) := loadOrStore (.done true)

/-! ## What a process leaves alone -/

section Guarantee

variable {ι : Type}

/-- What the process does to the file at the path: nothing to one with sixteen bytes or one that it
has not created, and a file that comes there is its own. -/
structure Guarantee (process : ι) (s s' : Files ι) : Prop where
  /-- The file stays. -/
  kept : ∀ inode, s.path = some inode →
    (s.content inode).length = 16 ∨ s.creator inode ≠ some process →
      s'.path = some inode ∧ s'.content inode = s.content inode
  /-- A file stays its creator's. -/
  creator : ∀ inode, s.path = some inode → s'.creator inode = s.creator inode
  /-- A new file is the process's. -/
  created : ∀ inode, s'.path = some inode → s.path ≠ some inode → s'.creator inode = some process

/-- A process that leaves the files keeps to its guarantee. -/
theorem Guarantee.refl (process : ι) (s : Files ι) : Guarantee process s s :=
  ⟨fun _ hpath _ => ⟨hpath, rfl⟩, fun _ _ => rfl, fun _ hpath hnew => absurd hpath hnew⟩

/-- A process that creates the file where there is none keeps to its guarantee: the inode is new. -/
theorem Guarantee.create (process : ι) {s : Files ι} (hpath : s.path = none) :
    Guarantee process s (s.create process) := by
  refine ⟨?_, ?_, ?_⟩
  · intro inode hinode _
    exact absurd (hpath.symm.trans hinode) (by simp)
  · intro inode hinode
    exact absurd (hpath.symm.trans hinode) (by simp)
  · intro inode hinode _
    obtain rfl := Option.some.inj hinode
    exact Function.update_self ..

/-- The process holds the file at the path, with these bytes. -/
structure Owns (process : ι) (inode : ℕ) (data : Bytes) (s : Files ι) : Prop where
  /-- The path names it. -/
  path : s.path = some inode
  /-- The process has created it. -/
  creator : s.creator inode = some process
  /-- Its bytes. -/
  content : s.content inode = data

/-- A process that writes its own short file keeps to its guarantee, since that file is neither
another's nor whole. -/
theorem Owns.guarantee_overwrite {process : ι} {inode : ℕ} {data : Bytes} {s : Files ι}
    (h : Owns process inode data s) (hshort : data.length ≠ 16) (written : Bytes) :
    Guarantee process s (s.overwrite inode written) := by
  refine ⟨?_, fun _ _ => rfl, fun _ hpath hnew => absurd hpath hnew⟩
  intro other hother hkept
  obtain rfl := Option.some.inj (hother.symm.trans h.path)
  rw [h.content, h.creator] at hkept
  exact (hkept.elim hshort fun hne => hne rfl).elim

/-- A process that removes its own short file keeps to its guarantee. -/
theorem Owns.guarantee_remove {process : ι} {inode : ℕ} {data : Bytes} {s : Files ι}
    (h : Owns process inode data s) (hshort : data.length ≠ 16) :
    Guarantee process s { s with path := none } := by
  refine ⟨?_, fun _ _ => rfl, fun _ hpath _ => absurd hpath (by simp)⟩
  intro other hother hkept
  obtain rfl := Option.some.inj (hother.symm.trans h.path)
  rw [h.content, h.creator] at hkept
  exact (hkept.elim hshort fun hne => hne rfl).elim

/-! ## Assertions that the others keep -/

/-- The file at the path holds the key. -/
def Holds (key : Key) (s : Files ι) : Prop := s.file = some key.toList

/-- The file at the path, if there is one, was not created by the process. -/
def Foreign (process : ι) (s : Files ι) : Prop :=
  ∀ inode, s.path = some inode → s.creator inode ≠ some process

/-- The file at the path is an inode with sixteen bytes. -/
def Settled (inode : ℕ) (s : Files ι) : Prop :=
  s.path = some inode ∧ (s.content inode).length = 16

/-- A whole key at the path stays there through what any process does within its guarantee. -/
theorem Guarantee.file {process : ι} {s s' : Files ι} (h : Guarantee process s s') {data : Bytes}
    (hdata : data.length = 16) (hs : s.file = some data) : s'.file = some data := by
  obtain ⟨inode, hpath, hcontent⟩ := Option.map_eq_some_iff.mp hs
  obtain ⟨hpath', hcontent'⟩ := h.kept inode hpath (Or.inl (by rw [hcontent, hdata]))
  rw [Files.file, hpath', Option.map_some, hcontent', hcontent]

variable {process : ι}

/-- The others leave a whole key at the path. -/
theorem stable_holds (key : Key) : Stable (Guarantee (ι := ι)) process (Holds key) := by
  rintro s s' ⟨other, -, h⟩ hs
  exact h.file key.length_toList hs

/-- The others leave a whole file at its inode. -/
theorem stable_settled (inode : ℕ) : Stable (Guarantee (ι := ι)) process (Settled inode) := by
  rintro s s' ⟨other, -, h⟩ ⟨hpath, hlength⟩
  obtain ⟨hpath', hcontent'⟩ := h.kept inode hpath (Or.inl hlength)
  exact ⟨hpath', hcontent' ▸ hlength⟩

/-- The others leave a file that the process has created, at its inode and with its bytes. -/
theorem stable_owns (inode : ℕ) (data : Bytes) :
    Stable (Guarantee (ι := ι)) process (Owns process inode data) := by
  rintro s s' ⟨other, hne, h⟩ hs
  have hforeign : s.creator inode ≠ some other := by
    rw [hs.creator]
    exact fun heq => hne (Option.some.inj heq).symm
  obtain ⟨hpath', hcontent'⟩ := h.kept inode hs.path (Or.inr hforeign)
  exact ⟨hpath', (h.creator inode hs.path).trans hs.creator, hcontent'.trans hs.content⟩

/-- A file at the path that the process has not created does not become one of its own through the
others. -/
theorem stable_foreign : Stable (Guarantee (ι := ι)) process (Foreign process) := by
  rintro s s' ⟨other, hne, h⟩ hs inode hpath'
  by_cases hpath : s.path = some inode
  · rw [h.creator inode hpath]
    exact hs inode hpath
  · rw [h.created inode hpath' hpath]
    exact fun heq => hne (Option.some.inj heq)

/-- What is read from a settled file is all of it, or too short. -/
theorem stable_read (data : Bytes) :
    Stable (Guarantee (ι := ι)) process fun s => data.length = 16 → s.file = some data :=
  Stable.imp fun hdata _ _ hothers hs => hothers.elim fun _ h => h.2.file hdata hs

/-! ## The specifications -/

section Specification

variable {P : Files ι → Prop}

/-- If the file is found to have sixteen bytes, it is settled at its inode. -/
theorem fileSize_spec (hP : Stable Guarantee process P) :
    Triple perform Guarantee process P (.ask .fileSize) fun size s =>
      P s ∧ (size = some 16 → ∃ inode, Settled inode s) := by
  refine Triple.look hP (fun size => Stable.imp fun _ => Stable.exists stable_settled)
    (Guarantee.refl process) (fun _ _ => rfl) ?_
  intro s choice _ hsize
  dsimp only [perform] at hsize
  split at hsize
  · cases hsize
  · obtain ⟨data, hfile, hlength⟩ := Option.map_eq_some_iff.mp hsize
    obtain ⟨inode, hpath, rfl⟩ := Option.map_eq_some_iff.mp hfile
    exact ⟨inode, hpath, hlength⟩

/-- If the file is settled, opening it gives the inode of a settled file. -/
theorem openRead_spec (hP : Stable Guarantee process P) :
    Triple perform Guarantee process (fun s => P s ∧ ∃ inode, Settled inode s) (.ask .openRead)
      fun keyFd s => P s ∧ ∀ inode, keyFd = some inode → Settled inode s := by
  have hlook : Triple perform Guarantee process (fun s => P s ∧ ∃ inode, Settled inode s)
      (.ask .openRead) fun keyFd s => (P s ∧ ∃ inode, Settled inode s) ∧
        ∀ inode, keyFd = some inode → Settled inode s := by
    refine Triple.look (hP.and (Stable.exists stable_settled))
      (fun keyFd => Stable.forall fun inode => Stable.imp fun _ => stable_settled inode)
      (Guarantee.refl process) (fun _ _ => rfl) ?_
    rintro s choice ⟨-, settled, hpath, hlength⟩ inode hopened
    dsimp only [perform] at hopened
    split at hopened
    · cases hopened
    · obtain rfl := Option.some.inj (hpath.symm.trans hopened)
      exact ⟨hpath, hlength⟩
  exact hlook.consequence (fun _ hs => hs) fun _ _ hs => ⟨hs.1.1, hs.2⟩

/-- Sixteen bytes read from a settled file are all of it. -/
theorem read_spec (hP : Stable Guarantee process P) (keyFd : ℕ) :
    Triple perform Guarantee process (fun s => P s ∧ Settled keyFd s) (.ask (.read keyFd))
      fun got s => P s ∧ ∀ data, got = some data → data.length = 16 → s.file = some data := by
  have hlook : Triple perform Guarantee process (fun s => P s ∧ Settled keyFd s)
      (.ask (.read keyFd)) fun got s => (P s ∧ Settled keyFd s) ∧
        ∀ data, got = some data → data.length = 16 → s.file = some data := by
    refine Triple.look (hP.and (stable_settled keyFd))
      (fun got => Stable.forall fun data => Stable.imp fun _ => stable_read data)
      (Guarantee.refl process) (fun _ _ => rfl) ?_
    rintro s choice ⟨-, hpath, hlength⟩ data hgot hdata
    dsimp only [perform] at hgot
    split at hgot
    · cases hgot
    · obtain rfl := Option.some.inj hgot
      rw [List.length_take] at hdata
      rw [Files.file, hpath, Option.map_some, List.take_of_length_le (by omega)]
  exact hlook.consequence (fun _ hs => hs) fun _ _ hs => ⟨hs.1.1, hs.2⟩

/-- Returning no key proves nothing about the file and needs nothing of it. -/
theorem none_spec (hP : Stable Guarantee process P) :
    Triple perform Guarantee process P (pure none) fun (r : Option Key) s =>
      P s ∧ ∀ key, r = some key → Holds key s := by
  refine Triple.pure hP fun s hs => ⟨hs, ?_⟩
  intro key hkey
  cases hkey

/-- What is returned as a key is the content of the file. -/
theorem readExactly_spec (hP : Stable Guarantee process P) :
    Triple perform Guarantee process P readExactly fun r s =>
      P s ∧ ∀ key, r = some key → Holds key s := by
  unfold readExactly
  -- Each call is followed by its own rule; whatever the other processes do between two calls keeps
  -- what it says.
  refine (fileSize_spec hP).bind fun size => ?_
  split
  · exact (none_spec hP).consequence (fun _ hs => hs.1) fun _ _ hs => hs
  next hsize =>
  refine ((openRead_spec hP).consequence (fun s hs => ⟨hs.1, hs.2 (not_not.mp hsize)⟩)
    fun _ _ hs => hs).bind fun opened => ?_
  -- The file could not be opened, and nothing has been read.
  split
  · exact (none_spec hP).consequence (fun _ hs => hs.1) fun _ _ hs => hs
  next keyFd =>
  refine ((read_spec hP keyFd).consequence (fun s hs => ⟨hs.1, hs.2 keyFd rfl⟩)
    fun _ _ hs => hs).bind fun got => ?_
  split
  · exact (none_spec hP).consequence (fun _ hs => hs.1) fun _ _ hs => hs
  next data =>
  split
  -- Sixteen bytes were read, which are the whole file.
  next hdata =>
    have hkey : (Bytes.copyN data 0 16).toList = data := by
      rw [← hdata, Bytes.toList_copyN]
    refine Triple.pure (hP.and (Stable.forall fun data => Stable.imp fun _ => stable_read data))
      fun s hs => ⟨hs.1, ?_⟩
    intro key hreturned
    obtain rfl := Option.some.inj hreturned
    rw [Holds, hkey]
    exact hs.2 data rfl hdata
  next => exact (none_spec hP).consequence (fun _ hs => hs.1) fun _ _ hs => hs

end Specification

/-- A file that the process creates where it has none is its own and empty. -/
theorem openExclusive_spec : Triple perform Guarantee process (Foreign process)
    (.ask .openExclusive) fun keyFd s => ∀ inode, keyFd = some inode → Owns process inode [] s := by
  refine Triple.ask stable_foreign
    (fun keyFd => Stable.forall fun inode => Stable.imp fun _ => stable_owns inode []) ?_
  intro s choice _
  dsimp only [perform]
  split
  next =>
    refine ⟨Guarantee.refl process s, ?_⟩
    intro inode hopened
    cases hopened
  next h =>
    have hpath : s.path = none := by
      by_contra hpath
      exact h (Or.inr hpath)
    refine ⟨Guarantee.create process hpath, ?_⟩
    intro inode hopened
    obtain rfl := Option.some.inj hopened
    exact ⟨rfl, Function.update_self .., Function.update_self ..⟩

/-- A key is written whole, or the file of the process stays short. -/
theorem write_spec (inode : ℕ) (key : Key) :
    Triple perform Guarantee process (Owns process inode [])
    (.ask (.write inode key.toList)) fun put s =>
      ∃ data, Owns process inode data s ∧
        ((put = some 16 → data = key.toList) ∧ (put ≠ some 16 → data.length ≠ 16)) := by
  refine Triple.ask (stable_owns inode [])
    (fun put => Stable.exists fun data => (stable_owns inode data).and (Stable.const _)) ?_
  intro s choice hs
  dsimp only [perform]
  split
  -- The write failed, and the file is as empty as it was opened.
  next =>
    refine ⟨Guarantee.refl process s, [], hs, ?_, ?_⟩
    · intro hput
      cases hput
    · intro _
      simp
  -- A part of the key has been written, which is all of it if the count says so.
  next =>
    have hwritten : (s.overwrite inode (key.toList.take choice.count)).content inode =
        key.toList.take choice.count := by
      dsimp only [Files.overwrite]
      rw [Function.update_self, hs.content, List.drop_nil, List.append_nil]
    refine ⟨hs.guarantee_overwrite (by simp) _, key.toList.take choice.count,
      ⟨hs.path, hs.creator, hwritten⟩, ?_, ?_⟩
    · intro hput
      have hlength : key.toList.length = 16 := key.length_toList
      have htake := Option.some.inj hput
      rw [List.length_take] at htake
      exact List.take_of_length_le (by omega)
    · exact fun hput hlength => hput (congrArg some hlength)

/-- A key that is stored is the content of the file. -/
theorem writeExclusively_spec (key : Key) : Triple perform Guarantee process (Foreign process)
    (writeExclusively key) fun ok s => ok = true → Holds key s := by
  have hfalse : ∀ P : Files ι → Prop, Stable Guarantee process P →
      Triple perform Guarantee process P (pure false) fun ok s => ok = true → Holds key s := by
    intro P hP
    refine Triple.pure hP fun s _ hok => ?_
    cases hok
  unfold writeExclusively
  refine openExclusive_spec.bind fun opened => ?_
  -- The file is there already.
  split
  · exact hfalse _ (Stable.forall fun inode => Stable.imp fun _ => stable_owns inode [])
  next inode =>
  refine ((write_spec inode key).consequence (fun s hs => hs inode rfl) fun _ _ hs => hs).bind
    fun put => ?_
  -- Nobody else writes to a file that this process has created.
  have howns : Stable (Guarantee (ι := ι)) process fun s => ∃ data, Owns process inode data s ∧
      ((put = some 16 → data = key.toList) ∧ (put ≠ some 16 → data.length ≠ 16)) :=
    Stable.exists fun data => (stable_owns inode data).and (Stable.const _)
  split
  -- A file with a part of the key is removed again, and may be left behind if that fails.
  next hput =>
    refine Triple.bind (Q := fun _ _ => True) ?_ fun _ => hfalse _ (Stable.const True)
    refine Triple.ask howns (fun _ => Stable.const True) ?_
    rintro s choice ⟨data, hs, -, hshort⟩
    dsimp only [perform]
    split
    · exact ⟨Guarantee.refl process s, trivial⟩
    · exact ⟨hs.guarantee_remove (hshort hput), trivial⟩
  -- The whole key has been written, and the path leads to it.
  next hput =>
    refine Triple.pure howns ?_
    rintro s ⟨data, hs, hwhole, -⟩ -
    rw [Holds, Files.file, hs.path, Option.map_some, hs.content, hwhole (not_not.mp hput)]

/-- What a process returns is the content of the file. -/
theorem loadOrStore_spec {prepare : Process Call Bool}
    (hprepare : Triple perform Guarantee process (Foreign process) prepare
      fun _ s => Foreign process s) :
    Triple perform Guarantee process (Foreign process) (loadOrStore prepare) fun r s =>
      ∀ loaded, r = some loaded → Holds loaded.key s := by
  have hnone : ∀ P : Files ι → Prop, Stable Guarantee process P →
      Triple perform Guarantee process P (pure none) fun (r : Option Loaded) s =>
        ∀ loaded, r = some loaded → Holds loaded.key s := by
    intro P hP
    refine Triple.pure hP fun s _ loaded hloaded => ?_
    cases hloaded
  have hsome : ∀ key generated, Triple perform Guarantee process (Holds key)
      (pure (some { key, generated })) fun (r : Option Loaded) s =>
        ∀ loaded, r = some loaded → Holds loaded.key s := by
    intro key generated
    refine Triple.pure (stable_holds key) fun s hs loaded hloaded => ?_
    rwa [← Option.some.inj hloaded]
  unfold loadOrStore
  -- First the file is read as it may be.
  refine (readExactly_spec stable_foreign).bind fun found => ?_
  split
  next key => exact (hsome key false).consequence (fun s hs => hs.2 key rfl) fun _ _ hs => hs
  -- There is no key yet: the directory is prepared and a key is drawn.
  next =>
  refine (hprepare.consequence (fun s hs => hs.1) fun _ _ hs => hs).bind fun prepared => ?_
  split
  · exact hnone _ stable_foreign
  refine Triple.bind (Triple.look (M := fun _ _ => True) stable_foreign (fun _ => Stable.const True)
    (Guarantee.refl process) (fun _ _ => rfl) fun _ _ _ => trivial) fun drawn => ?_
  split
  · exact hnone _ (stable_foreign.and (Stable.const True))
  next key =>
  refine ((writeExclusively_spec key).consequence (fun s hs => hs.1) fun _ _ hs => hs).bind
    fun ok => ?_
  have hwritten : Stable (Guarantee (ι := ι)) process fun s => ok = true → Holds key s :=
    Stable.imp fun _ => stable_holds key
  -- Another process has created the file first, so its key is read.
  split
  · refine (readExactly_spec hwritten).bind fun raced => ?_
    split
    next key' => exact (hsome key' false).consequence (fun s hs => hs.2 key' rfl) fun _ _ hs => hs
    next => exact (hnone _ hwritten).consequence (fun s hs => hs.1) fun _ _ hs => hs
  -- The key drawn is the one in the file.
  next hok =>
    exact (hsome key true).consequence (fun s hs => hs (not_not.mp hok)) fun _ _ hs => hs

end Guarantee

/-! ## First starts -/

/-- The function that a process runs. -/
inductive Start
  /-- `loadOrGenerate` of S0. -/
  | s0
  /-- `loadOrGenerateOne` of S2. -/
  | s2

/-- The process of a start. -/
def Start.process : Start → Process Call (Option Loaded)
  | .s0 => loadOrGenerate
  | .s2 => loadOrGenerateOne

variable {ι : Type}

/-- Starts on one path, before the first has made a call. -/
def system (start : ι → Start) (file : Option Bytes) : System Call ι (Files ι) (Option Loaded) :=
  { shared := Files.initially file, processes := fun process => (start process).process }

/-- No process has created the file that is there at first. -/
theorem foreign_initially (process : ι) (file : Option Bytes) :
    Foreign process (Files.initially file) := fun _ _ => (Option.some_ne_none process).symm

/-- What a start returns is the content of the file. -/
theorem process_spec (process : ι) (start : Start) :
    Triple perform Guarantee process (Foreign process) start.process fun r s =>
      ∀ loaded, r = some loaded → Holds loaded.key s := by
  cases start with
  | s0 =>
    refine loadOrStore_spec ?_
    refine (Triple.look (M := fun _ _ => True) stable_foreign (fun _ => Stable.const True)
      (Guarantee.refl process) (fun _ _ => rfl) fun _ _ _ => trivial).consequence
      (fun _ hs => hs) fun _ _ hs => hs.1
  | s2 => exact loadOrStore_spec (Triple.done stable_foreign fun _ hs => hs)

/-- Every process, from its start, keeps to its guarantee and holds the key that it returns,
whatever the others do. -/
theorem safe_system (start : ι → Start) (file : Option Bytes) (process : ι) :
    Safe perform Guarantee process (fun r s => ∀ loaded, r = some loaded → Holds loaded.key s)
      ((system start file).processes process) (system start file).shared :=
  process_spec process (start process) _ (foreign_initially process file)

/-- However any number of starts on one path interleave and fail, those that return a key return the
same one, which is what the file holds; and a file with sixteen bytes stays as it is. -/
theorem starts_agree [DecidableEq ι] (start : ι → Start) (file : Option Bytes)
    (schedule : List (ι × Choice)) :
    let s := (system start file).run perform schedule
    (∀ i j loaded loaded', s.processes i = .done (some loaded) →
      s.processes j = .done (some loaded') → loaded.key = loaded'.key) ∧
    (∀ i loaded, s.processes i = .done (some loaded) → s.shared.file = some loaded.key.toList) ∧
    ∀ data, s.shared.file = some data → data.length = 16 →
      ∀ later, (s.run perform later).shared.file = some data := by
  intro s
  have hsafe := safe_run (safe_system start file) schedule
  have hholds : ∀ i loaded, s.processes i = .done (some loaded) → Holds loaded.key s.shared := by
    intro i loaded hdone
    have hi := hsafe i
    rw [show ((system start file).run perform schedule).processes i = _ from hdone] at hi
    exact hi.post loaded rfl
  refine ⟨?_, hholds, ?_⟩
  · intro i j loaded loaded' hi hj
    have hsame := (hholds i loaded hi).symm.trans (hholds j loaded' hj)
    exact Vector.toList_inj.mp (Option.some.inj hsame)
  · intro data hdata hlength later
    exact guarantee_run hsafe (fun _ _ _ h hs => h.file hlength hs) hdata later

/-- Two starts that find no file; the second draws a key as well, finds the file of the first and
reads it. -/
theorem starts_agree_raced :
    let s := (system (fun first : Bool => if first then .s0 else .s2) none).run perform
      [(true, {}), (false, {}), (true, {}), (false, { random := Vector.replicate 16 1 }),
        (true, {}), (true, {}), (false, {}), (true, {}), (false, {}), (false, {}), (false, {})]
    s.processes true = .done (some ⟨Vector.replicate 16 0, true⟩) ∧
      s.processes false = .done (some ⟨Vector.replicate 16 0, false⟩) ∧
      s.shared.file = some (Vector.replicate 16 0).toList :=
  ⟨rfl, rfl, (starts_agree (fun first : Bool => if first then .s0 else .s2) none
    [(true, {}), (false, {}), (true, {}), (false, { random := Vector.replicate 16 1 }), (true, {}),
      (true, {}), (false, {}), (true, {}), (false, {}), (false, {}), (false, {})]).2.1 true _ rfl⟩

end Zwaved.KeyFile
