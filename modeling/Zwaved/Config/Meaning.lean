import Zwaved.Config.Format

/-!
# The text of a file tells what it says

A documented line says no more than its text: `sayingOf` reads a line with the comment behind its
value cut off, and gives back what the line was made of (`sayingOf_text`). So files of documented
lines with the same text configure the same (`documented_of_text`), and `documented` is about files,
not about how they are taken apart into lines.
-/

namespace Zwaved.Config

open Codec

/-- What a line says. -/
inductive Saying
  /-- Nothing. -/
  | nothing
  /-- The section that the next entries stand in. -/
  | heading (name : Text)
  /-- A key and its value. -/
  | entry (key value : Text)
  deriving DecidableEq, Repr

/-- What a documented line says. -/
def Line.saying : Line → Saying
  | .blank _ | .comment _ _ => .nothing
  | .heading _ name _ => .heading name.text
  | .entry e => .entry e.key.text e.value.text

/-! ## Reading with comments -/

/-- A comment starts here: blanks and a semicolon. -/
def startsComment (text : Text) : Bool :=
  text.head?.any isBlank && (text.dropWhile isBlank).head? == some ';'

/-- The text up to the blank before a semicolon. -/
def cutPlain : Text → Text
  | [] => []
  | c :: rest => if isBlank c ∧ rest.head? = some ';' then [] else c :: cutPlain rest

/-- The text up to the quote that closes it: nothing comes behind it, or a comment. -/
def cutQuoted : Text → Text
  | [] => []
  | c :: rest =>
    if c = '"' ∧ (rest.all isTrailing ∨ startsComment rest) then [] else c :: cutQuoted rest

/-- The value of what stands behind the equals sign. -/
def readValue (behind : Text) : Text :=
  match behind.dropWhile isBlank with
  | '"' :: rest => cutQuoted rest
  | _ => trim (cutPlain behind)

/-- What a text on a line says. -/
def sayingOf (text : Text) : Saying :=
  let trimmed := trim text
  if trimmed = [] ∨ trimmed.head? = some '#' then .nothing
  else if trimmed.head? = some '[' then .heading ((trimmed.drop 1).take (trimmed.length - 2))
  else
    let text := text.dropWhile isBlank
    match text.idxOf? '=' with
    | none => .nothing
    | some equalsPos => .entry (trim (text.take equalsPos)) (readValue (text.drop (equalsPos + 1)))

section Cut

variable {text rest : Text}

/-- Nothing is cut where no blank comes before a semicolon. -/
theorem cutPlain_append (h : ∀ before c after, isBlank c = true → text ≠ before ++ c :: ';' :: after)
    (hrest : rest.head? ≠ some ';') : cutPlain (text ++ rest) = text ++ cutPlain rest := by
  induction text with
  | nil => rfl
  | cons c text ih =>
    have htext : ∀ before b after, isBlank b = true → text ≠ before ++ b :: ';' :: after := by
      intro before b after hb heq
      exact h (c :: before) b after hb (by rw [heq]; rfl)
    have hkeep : ¬ (isBlank c = true ∧ (text ++ rest).head? = some ';') := by
      rintro ⟨hc, hhead⟩
      cases text with
      | nil => exact hrest hhead
      | cons b text =>
        cases hhead
        exact h [] c text hc rfl
    rw [List.cons_append, cutPlain, if_neg hkeep, ih htext]
    rfl

/-- A text without a semicolon is not cut. -/
theorem cutPlain_of_notMem (h : ';' ∉ text) : cutPlain text = text := by
  have hclear : ∀ before c after, isBlank c = true → text ≠ before ++ c :: ';' :: after := by
    intro before c after _ heq
    exact h (by rw [heq]; simp)
  have happend := cutPlain_append hclear (show ([] : Text).head? ≠ some ';' by decide)
  rwa [List.append_nil, cutPlain, List.append_nil] at happend

/-- Of the blanks before a comment the last one is cut, with the comment. -/
theorem cutPlain_blanks (hblank : ∀ c ∈ text, isBlank c = true) (hne : text ≠ []) (rest : Text) :
    cutPlain (text ++ ';' :: rest) = text.dropLast := by
  induction text with
  | nil => exact absurd rfl hne
  | cons c text ih =>
    obtain ⟨hc, htext⟩ := List.forall_mem_cons.mp hblank
    cases text with
    | nil => exact if_pos ⟨hc, rfl⟩
    | cons b text =>
      have hb : isBlank b = true := htext b List.mem_cons_self
      have hkeep : ¬ (isBlank c = true ∧ (b :: text ++ ';' :: rest).head? = some ';') := by
        rintro ⟨-, hhead⟩
        cases hhead
        exact absurd hb (by decide)
      rw [List.cons_append, cutPlain, if_neg hkeep, ih htext (List.cons_ne_nil _ _)]
      rfl

/-- A trailing comment starts with at least one blank and a semicolon. -/
theorem startsComment_iff : startsComment text = true ↔
    ∃ blanks rest, blanks ≠ [] ∧ (∀ c ∈ blanks, isBlank c = true) ∧ text = blanks ++ ';' :: rest := by
  unfold startsComment
  rw [Bool.and_eq_true, beq_iff_eq]
  constructor
  · rintro ⟨hfront, hhead⟩
    obtain ⟨rest, hrest⟩ := List.head?_eq_some_iff.mp hhead
    refine ⟨text.takeWhile isBlank, rest, ?_, fun c => List.mem_takeWhile_imp, ?_⟩
    · cases text with
      | nil => cases hfront
      | cons c text =>
        rw [List.takeWhile_cons_of_pos (by simpa using hfront)]
        exact List.cons_ne_nil _ _
    · rw [← hrest, List.takeWhile_append_dropWhile]
  · rintro ⟨blanks, rest, hne, hblank, rfl⟩
    obtain ⟨c, blanks, rfl⟩ := List.exists_cons_of_ne_nil hne
    refine ⟨?_, ?_⟩
    · simpa using hblank c List.mem_cons_self
    · rw [List.dropWhile_append_of_pos hblank]
      rfl

/-- A value in quotes is cut at its closing quote, if what follows is blank or a comment and no
earlier quote could close it. -/
theorem cutQuoted_append (h : ∀ before blanks after, blanks ≠ [] →
      (∀ c ∈ blanks, isBlank c = true) → text ≠ before ++ '"' :: (blanks ++ ';' :: after))
    (hrest : rest.all isTrailing = true ∨ startsComment rest = true) :
    cutQuoted (text ++ '"' :: rest) = text := by
  -- The text is searched for a quote that closes it; none of its own does.
  induction text with
  | nil => exact if_pos ⟨rfl, hrest⟩
  | cons c text ih =>
    have htext : ∀ before blanks after, blanks ≠ [] → (∀ c ∈ blanks, isBlank c = true) →
        text ≠ before ++ '"' :: (blanks ++ ';' :: after) := by
      intro before blanks after hne hblank heq
      exact h (c :: before) blanks after hne hblank (by rw [heq]; rfl)
    -- A quote of the text is followed by something, which is not a comment.
    have hkeep : ¬ (c = '"' ∧ ((text ++ '"' :: rest).all isTrailing = true ∨
        startsComment (text ++ '"' :: rest) = true)) := by
      rintro ⟨rfl, hall | hcomment⟩
      · have hquote := List.all_eq_true.mp hall '"' (by simp)
        exact absurd hquote (by decide)
      · obtain ⟨blanks, after, hne, hblank, heq⟩ := startsComment_iff.mp hcomment
        rcases List.append_eq_append_iff.mp heq with ⟨mid, hmid, hquote⟩ | ⟨mid, hmid, hquote⟩
        · -- The closing quote is not among the blanks, nor is it the semicolon.
          cases mid with
          | nil => cases hquote
          | cons b mid =>
            obtain ⟨rfl, -⟩ := List.cons.inj hquote
            exact absurd (hblank '"' (by rw [hmid]; simp)) (by decide)
        · cases mid with
          | nil => cases hquote
          | cons b mid =>
            obtain ⟨rfl, -⟩ := List.cons.inj hquote
            exact h [] blanks mid hne hblank (by rw [hmid]; rfl)
    rw [List.cons_append, cutQuoted, if_neg hkeep, ih htext]

end Cut

/-! ## What is read is what was written -/

section Entry

variable {e : Entry}

/-- Before a plain value and its comment there is no quote. -/
theorem dropWhile_plain {value : Plain} (hvalue : e.value = .plain value) (rest : Text) :
    (e.padding.text ++ (e.behind ++ e.trail.text)).dropWhile isBlank ≠ '"' :: rest := by
  intro heq
  rw [List.dropWhile_append_of_pos e.padding.blank, Entry.behind, hvalue, Value.raw] at heq
  cases htext : value.text with
  | cons c text =>
    obtain ⟨hblank, hquote⟩ := value.front c (by rw [htext]; rfl)
    rw [htext, List.cons_append, List.cons_append,
      List.dropWhile_cons_of_neg (by simp [hblank])] at heq
    exact hquote (List.cons.inj heq).1
  | nil =>
    rw [htext, List.nil_append] at heq
    cases hcomment : e.comment with
    | none =>
      rw [hcomment, commentText, List.nil_append] at heq
      have hmem : '"' ∈ e.trail.text :=
        (List.dropWhile_suffix isBlank).subset (by rw [heq]; exact List.mem_cons_self)
      exact absurd (e.trail.blank _ hmem) (by decide)
    | some comment =>
      -- Behind the blanks of a comment stands its semicolon.
      rw [hcomment, commentText, List.append_assoc,
        List.dropWhile_append_of_pos comment.blanks.blank] at heq
      cases heq

/-- A plain value is what is left when the comment is cut off. -/
theorem trim_cutPlain {value : Plain} (hvalue : e.value = .plain value) :
    trim (cutPlain (e.padding.text ++ (e.behind ++ e.trail.text))) = value.text := by
  have hclear : ∀ before c after, isBlank c = true →
      e.padding.text ++ value.text ≠ before ++ c :: ';' :: after := by
    have h := e.clear
    rw [hvalue] at h
    exact h
  have hbare : trim value.text = value.text :=
    strip_bare (fun c hc => (value.front c hc).1) value.back
  -- Before the value stands its padding, and behind it a comment or none.
  rw [Entry.behind, hvalue, Value.raw, List.append_assoc, ← List.append_assoc e.padding.text]
  cases hcomment : e.comment with
  -- There is no semicolon behind the value, so nothing is cut.
  | none =>
    have hnot : ';' ∉ e.trail.text := fun hmem => absurd (e.trail.blank _ hmem) (by decide)
    have hhead : e.trail.text.head? ≠ some ';' := fun hhead => hnot (List.mem_of_head? hhead)
    rw [commentText, List.nil_append, cutPlain_append hclear hhead, cutPlain_of_notMem hnot,
      trim_append_right, trim_append, hbare]
  -- The comment is cut off from its semicolon on, and the blanks before it are trimmed.
  | some comment =>
    have hblank : ∀ c ∈ comment.blanks.text.dropLast, isTrailing c = true := fun c hc =>
      isTrailing_of_isBlank (comment.blanks.blank c (List.dropLast_subset _ hc))
    have hhead : (comment.blanks.text ++ ';' :: (comment.text.text ++ e.trail.text)).head? ≠
        some ';' := by
      obtain ⟨c, blanks, hcons⟩ := List.exists_cons_of_ne_nil comment.blanks_ne_nil
      have hc := comment.blanks.blank c (by rw [hcons]; exact List.mem_cons_self)
      rw [hcons]
      rintro ⟨⟩
      exact absurd hc (by decide)
    have hbehind : comment.blanks.text ++ ';' :: comment.text.text ++ e.trail.text =
        comment.blanks.text ++ ';' :: (comment.text.text ++ e.trail.text) := by simp
    rw [commentText, hbehind, cutPlain_append hclear hhead, cutPlain_blanks comment.blanks.blank
      comment.blanks_ne_nil, trim, strip_append_right hblank, ← trim, trim_append, hbare]

/-- What is cut at the closing quote of an entry's value is the value, with a comment behind it or
without. -/
theorem cutQuoted_behind {text : OneLine} (hvalue : e.value = .quoted text) :
    cutQuoted (text.text ++ '"' :: (commentText e.comment ++ e.trail.text)) = text.text := by
  have hclear := e.clear
  rw [hvalue] at hclear
  refine cutQuoted_append hclear ?_
  cases hcomment : e.comment with
  | none => exact .inl (List.all_eq_true.mpr e.trail.blank)
  | some comment =>
    refine .inr (startsComment_iff.mpr ⟨comment.blanks.text, comment.text.text ++ e.trail.text,
      comment.blanks_ne_nil, comment.blanks.blank, ?_⟩)
    rw [commentText, List.append_assoc, List.cons_append]

/-- What stands behind the equals sign of an entry reads as its value, its trailing comment cut
off. -/
theorem readValue_behind (e : Entry) :
    readValue (e.padding.text ++ (e.behind ++ e.trail.text)) = e.value.text := by
  unfold readValue
  cases hvalue : e.value with
  | plain value =>
    split
    · next rest heq => exact absurd heq (dropWhile_plain hvalue rest)
    · exact trim_cutPlain hvalue
  | quoted text =>
    have hdrop : (e.padding.text ++ (e.behind ++ e.trail.text)).dropWhile isBlank =
        '"' :: (text.text ++ '"' :: (commentText e.comment ++ e.trail.text)) := by
      rw [List.dropWhile_append_of_pos e.padding.blank, Entry.behind, hvalue, Value.raw]
      simp [isBlank]
    rw [hdrop]
    exact cutQuoted_behind hvalue

end Entry

/-- What is read of a documented line is what it says. -/
theorem sayingOf_text (l : Line) : sayingOf l.text = l.saying := by
  unfold sayingOf
  -- Each kind of line is told by the first character of its text.
  cases l with
  | blank text =>
    dsimp only [Line.text]
    rw [trim_blank, if_pos (.inl rfl)]
    rfl
  | comment lead text =>
    dsimp only [Line.text]
    rw [trim_cons_front lead (by decide) (by decide), if_pos (.inr rfl)]
    rfl
  | heading lead name trail =>
    have hfront : ('[' :: name.text ++ [']']).head? = some '[' := rfl
    dsimp only [Line.text]
    rw [trim_heading, if_neg (by simp), if_pos hfront]
    simp [Line.saying]
  -- An entry starts neither a comment nor a heading, and is cut at its first equals sign.
  | entry e =>
    obtain ⟨c, hhead, hcomment, hheading⟩ := e.head_trim
    dsimp only [Line.text]
    rw [if_neg (by rw [hhead]; simp [e.trim_ne_nil, hcomment]),
      if_neg (by rw [hhead]; simp [hheading]), e.dropWhile_text,
      idxOf?_append_cons e.equals_notMem]
    dsimp only
    rw [List.take_left, e.drop_key, e.trim_key, readValue_behind]
    rfl

/-! ## Whole files -/

/-- The entries of what the lines say, with the sections that they stand in. -/
def entriesSaid (sectionName : Text) : List Saying → List (Text × Text × Text)
  | [] => []
  | .nothing :: sayings => entriesSaid sectionName sayings
  | .heading name :: sayings => entriesSaid name sayings
  | .entry key value :: sayings => (sectionName, key, value) :: entriesSaid sectionName sayings

/-- The documented meaning of the lines gives a section its entries, each with its key and its
value. -/
theorem entriesSaid_saying (sectionName : Text) (lines : List Line) :
    entriesSaid sectionName (lines.map Line.saying) =
      (entriesOf sectionName lines).map fun entry =>
        (entry.1, entry.2.key.text, entry.2.value.text) := by
  induction lines generalizing sectionName with
  | nil => rfl
  | cons l lines ih =>
    cases l with
    | blank | comment => exact ih sectionName
    | heading lead name trail => exact ih name.text
    | entry e => exact congrArg (List.cons _) (ih sectionName)

/-- A line that says nothing adds no entry. -/
theorem entriesSaid_concat_nothing (sectionName : Text) (sayings : List Saying) :
    entriesSaid sectionName (sayings ++ [.nothing]) = entriesSaid sectionName sayings := by
  induction sayings generalizing sectionName with
  | nil => rfl
  | cons saying sayings ih =>
    cases saying with
    | nothing => exact ih sectionName
    | heading name => exact ih name
    | entry key value => exact congrArg (List.cons _) (ih sectionName)

/-- What the format makes of the text of a file is what its lines say. -/
theorem entriesSaid_getLines (terminated : Bool) (sectionName : Text) (lines : List Line) :
    entriesSaid sectionName ((getLines (fileText terminated lines)).map sayingOf) =
      entriesSaid sectionName (lines.map Line.saying) := by
  have hmap (lines : List Line) : (lines.map Line.text).map sayingOf = lines.map Line.saying := by
    rw [List.map_map]
    exact List.map_congr_left fun l _ => sayingOf_text l
  rcases getLines_fileText terminated lines with hread | ⟨before, l, rfl, hnil, hread⟩
  · rw [hread, hmap]
  · -- The empty line that is not read says nothing.
    have hnothing : l.saying = .nothing := by
      rw [← sayingOf_text, hnil]
      rfl
    rw [hread, hmap, List.map_append, List.map_singleton, hnothing, entriesSaid_concat_nothing]

/-- The documented values of a key are those that the lines say of it, in their order. -/
theorem map_occurrences (lines : List Line) (sectionName key : Text) :
    (occurrences lines sectionName key).map (fun e => e.value.text) =
      ((entriesSaid [] (lines.map Line.saying)).filter fun entry =>
        entry.1 = sectionName ∧ entry.2.1 = key).map fun entry => entry.2.2 := by
  rw [entriesSaid_saying, List.filter_map, List.map_map, occurrences, List.map_map]
  rfl

/-- What is published depends only on the values that are looked up: two files that agree on these
publish the same. -/
theorem published_congr {read : Entry → Text} {lines lines' : List Line}
    (h : ∀ sectionName key, (occurrences lines sectionName key).map read =
      (occurrences lines' sectionName key).map read) :
    published read lines = published read lines' := by
  have hfirst (sectionName key : Text) : (occurrences lines sectionName key).head?.map read =
      (occurrences lines' sectionName key).head?.map read := by
    rw [← List.head?_map, h, List.head?_map]
  have haccept (sectionName key : Text) :
      (occurrences lines sectionName key).filterMap (fun e => parseAccept (read e)) =
        (occurrences lines' sectionName key).filterMap fun e => parseAccept (read e) := by
    have hmap := congrArg (List.filterMap parseAccept) (h sectionName key)
    rwa [List.filterMap_map, List.filterMap_map] at hmap
  unfold published
  simp only [hfirst, haccept]

/-- Files of documented lines with the same text configure the same, however they are taken apart.
-/
theorem documented_of_text {terminated terminated' : Bool} {lines lines' : List Line}
    (h : fileText terminated lines = fileText terminated' lines') :
    documented lines = documented lines' := by
  refine published_congr fun sectionName key => ?_
  rw [map_occurrences, map_occurrences, ← entriesSaid_getLines terminated, h, entriesSaid_getLines]

end Zwaved.Config
