import Mathlib.Data.List.Count
import Zwaved.Config.Parser

/-!
# The documented format

The configuration file as the README and the comment over `parseFile` describe it: blank lines,
comments, headings, and lines of a key and a value, where the value may stand in double quotes and,
as in the README's example, a comment may stand behind it, after blanks and a semicolon. `Line` says
what such a line may look like, and `documented` what a file of such lines configures.

The parser knows no comment behind a value (`Parsing.line_text`): it takes it for a part of the
value. What it publishes is what is documented exactly if that makes no difference (`Harmless`,
`load_documented_iff`).
-/

namespace Zwaved.Config

open Codec

/-! ## Lines as they are written -/

/-- Spaces and tabs. -/
structure Blanks where
  /-- The text. -/
  text : Text
  /-- It is blank. -/
  blank : ∀ c ∈ text, isBlank c = true

/-- What may stand at the end of a line: blanks, and a carriage return. -/
structure Trailing where
  /-- The text. -/
  text : Text
  /-- It is blank. -/
  blank : ∀ c ∈ text, isTrailing c = true

/-- A text without an end of line. -/
structure OneLine where
  /-- The text. -/
  text : Text
  /-- It is on one line. -/
  oneLine : '\n' ∉ text

/-- A key: neither a comment nor a heading starts with it. -/
structure Key extends OneLine where
  /-- It has no equals sign. -/
  noEquals : '=' ∉ text
  /-- Its first character. -/
  front : ∃ c, text.head? = some c ∧ isBlank c = false ∧ c ≠ '#' ∧ c ≠ '['
  /-- There are no blanks at its end. -/
  back : ∀ c, text.getLast? = some c → isTrailing c = false

/-- A value without quotes around it, and without the blanks around it. -/
structure Plain extends OneLine where
  /-- It starts neither with a blank nor as a value in quotes does. -/
  front : ∀ c, text.head? = some c → isBlank c = false ∧ c ≠ '"'
  /-- There are no blanks at its end. -/
  back : ∀ c, text.getLast? = some c → isTrailing c = false

/-- A value as it is written. -/
inductive Value
  /-- As it is. -/
  | plain (text : Plain)
  /-- In double quotes. -/
  | quoted (text : OneLine)

/-- The value. -/
def Value.text : Value → Text
  | .plain text => text.text
  | .quoted text => text.text

/-- What is written. -/
def Value.raw : Value → Text
  | .plain text => text.text
  | .quoted text => '"' :: text.text ++ ['"']

/-- No comment starts within the value: behind the equals sign no blank comes before a semicolon, or
no quote, blanks and a semicolon come within the quotes. -/
def Value.Clear (padding : Text) : Value → Prop
  | .plain text => ∀ before c after, isBlank c = true →
    padding ++ text.text ≠ before ++ c :: ';' :: after
  | .quoted text => ∀ before blanks after, blanks ≠ [] → (∀ c ∈ blanks, isBlank c = true) →
    text.text ≠ before ++ '"' :: (blanks ++ ';' :: after)

/-- A comment behind a value. -/
structure TrailingComment where
  /-- The blanks that introduce it. -/
  blanks : Blanks
  /-- There are some. -/
  blanks_ne_nil : blanks.text ≠ []
  /-- What stands behind the semicolon. -/
  text : OneLine

/-- The comment as it is written, or nothing. -/
def commentText : Option TrailingComment → Text
  | none => []
  | some comment => comment.blanks.text ++ ';' :: comment.text.text

/-- A line of a key and a value. -/
structure Entry where
  /-- The blanks before the key. -/
  lead : Blanks
  /-- The key. -/
  key : Key
  /-- The blanks behind it. -/
  afterKey : Blanks
  /-- The blanks behind the equals sign. -/
  padding : Blanks
  /-- The value. -/
  value : Value
  /-- The comment behind it. -/
  comment : Option TrailingComment
  /-- The end of the line. -/
  trail : Trailing
  /-- The value is told from a comment. -/
  clear : value.Clear padding.text

/-- The value as it is written, and the comment. -/
def Entry.behind (e : Entry) : Text := e.value.raw ++ commentText e.comment

/-- The line. -/
def Entry.text (e : Entry) : Text :=
  e.lead.text ++ (e.key.text ++ e.afterKey.text ++
    '=' :: (e.padding.text ++ (e.behind ++ e.trail.text)))

/-- A documented line. -/
inductive Line
  /-- A blank line. -/
  | blank (text : Trailing)
  /-- A comment. -/
  | comment (lead : Blanks) (text : OneLine)
  /-- `[section]`. -/
  | heading (lead : Blanks) (name : OneLine) (trail : Trailing)
  /-- `key = value`. -/
  | entry (entry : Entry)

/-- The line as it is written. -/
def Line.text : Line → Text
  | .blank text => text.text
  | .comment lead text => lead.text ++ '#' :: text.text
  | .heading lead name trail => lead.text ++ ('[' :: name.text ++ [']'] ++ trail.text)
  | .entry e => e.text

/-- A file of such lines, with or without an end of line behind the last one. -/
def fileText (terminated : Bool) : List Line → Text
  | [] => []
  | [line] => line.text ++ if terminated then ['\n'] else []
  | line :: lines => line.text ++ '\n' :: fileText terminated lines

/-! ## What they say -/

/-- The entries with the sections that they stand in. -/
def entriesOf (sectionName : Text) : List Line → List (Text × Entry)
  | [] => []
  | .heading _ name _ :: lines => entriesOf name.text lines
  | .entry e :: lines => (sectionName, e) :: entriesOf sectionName lines
  | .blank _ :: lines | .comment _ _ :: lines => entriesOf sectionName lines

/-- The entries of a key in a section, in file order. -/
def occurrences (lines : List Line) (sectionName key : Text) : List Entry :=
  ((entriesOf [] lines).filter fun entry =>
    entry.1 = sectionName ∧ entry.2.key.text = key).map Prod.snd

/-- What is published if the entries are read by `read`: of each key the first occurrence, and all
occurrences of `accept`, and a default where there is none or its value is not valid. -/
def published (read : Entry → Text) (lines : List Line) : List ConfigEvent :=
  let first (sectionName key : String) : Option Text :=
    (occurrences lines sectionName.toList key.toList).head?.map read
  let accepted := (occurrences lines "dongles".toList "accept".toList).filterMap fun entry =>
    parseAccept (read entry)
  [.logger { minLevel := ((first "logger" "min_level").bind parseLevel).getD levelInfo },
    .storage { stateDir := (first "storage" "state_dir").getD [] },
    .security
      { s0KeyFile := (first "security" "s0_key_file").getD []
        s2KeyDir := (first "security" "s2_key_dir").getD [] },
    .dongles { accept := if accepted = [] then [defaultDongle] else accepted },
    .behavior
      { autoLifeline := ((first "behavior" "auto_lifeline").bind parseBool).getD true }]

/-- What a file of documented lines configures. -/
def documented (lines : List Line) : List ConfigEvent :=
  published (fun entry => entry.value.text) lines

/-! ## What the parser reads -/

/-- The value that the parser reads. -/
def Entry.read (e : Entry) : Text := unquote (trim e.behind)

/-- Blanks in front of a text are trimmed away. -/
theorem trim_append (lead : Blanks) (text : Text) : trim (lead.text ++ text) = trim text :=
  strip_append lead.blank

/-- Blanks and carriage returns behind a text are trimmed away. -/
theorem trim_append_right (text : Text) (trail : Trailing) :
    trim (text ++ trail.text) = trim text :=
  strip_append_right trail.blank

/-- Blanks behind a text are trimmed away. -/
theorem trim_blanks (text : Text) (blanks : Blanks) : trim (text ++ blanks.text) = trim text :=
  strip_append_right fun c hc => isTrailing_of_isBlank (blanks.blank c hc)

/-- A blank line is trimmed to nothing. -/
theorem trim_blank (text : Trailing) : trim text.text = [] :=
  (strip_eq_nil_iff fun _ => isTrailing_of_isBlank).mpr text.blank

/-- What is trimmed starts with its first character that is not blank. -/
theorem trim_cons_front (lead : Blanks) {c : Char} (hc : isBlank c = false)
    (hc' : isTrailing c = false) (rest : Text) :
    trim (lead.text ++ c :: rest) = c :: rest.rdropWhile isTrailing := by
  rw [trim_append, trim, strip, List.dropWhile_cons_of_neg (by simp [hc])]
  change ([] ++ c :: rest).rdropWhile isTrailing = [] ++ c :: rest.rdropWhile isTrailing
  exact rdropWhile_append_cons hc'

/-- A heading line is trimmed to its brackets and the name between them. -/
theorem trim_heading (lead : Blanks) (name : OneLine) (trail : Trailing) :
    trim (lead.text ++ ('[' :: name.text ++ [']'] ++ trail.text)) = '[' :: name.text ++ [']'] := by
  rw [trim_append, trim_append_right]
  refine strip_bare (fun c hc => ?_) fun c hc => ?_
  · cases hc
    decide
  · rw [List.getLast?_concat] at hc
    cases hc
    decide

section Key

variable (e : Entry)

/-- Without its leading blanks the line of an entry is the key, the blanks behind it, the equals
sign and the rest. -/
theorem Entry.dropWhile_text : e.text.dropWhile isBlank = e.key.text ++ e.afterKey.text ++
    '=' :: (e.padding.text ++ (e.behind ++ e.trail.text)) := by
  obtain ⟨c, hfront, hblank, -, -⟩ := e.key.front
  obtain ⟨rest, hkey⟩ := List.head?_eq_some_iff.mp hfront
  rw [Entry.text, List.dropWhile_append_of_pos e.lead.blank, hkey, List.cons_append,
    List.cons_append, List.dropWhile_cons_of_neg (by simp [hblank])]

/-- The line of an entry is trimmed to the key, the blanks, the equals sign, and the rest up to its
last character that is not blank. -/
theorem Entry.trim_text : trim e.text = e.key.text ++ e.afterKey.text ++
    '=' :: (e.padding.text ++ (e.behind ++ e.trail.text)).rdropWhile isTrailing := by
  rw [trim, strip, e.dropWhile_text]
  exact rdropWhile_append_cons (by decide)

/-- An entry is neither blank nor a comment nor a heading. -/
theorem Entry.head_trim : ∃ c, (trim e.text).head? = some c ∧ c ≠ '#' ∧ c ≠ '[' := by
  obtain ⟨c, hfront, -, hcomment, hheading⟩ := e.key.front
  obtain ⟨rest, hkey⟩ := List.head?_eq_some_iff.mp hfront
  refine ⟨c, ?_, hcomment, hheading⟩
  rw [e.trim_text, hkey]
  rfl

/-- The line of an entry is not blank, as it holds an equals sign. -/
theorem Entry.trim_ne_nil : trim e.text ≠ [] := by
  obtain ⟨c, hhead, -⟩ := e.head_trim
  intro hnil
  rw [hnil] at hhead
  cases hhead

/-- There is no equals sign in front of the entry's own: a key has none, and neither have blanks. -/
theorem Entry.equals_notMem : '=' ∉ e.key.text ++ e.afterKey.text := by
  intro hmem
  rcases List.mem_append.mp hmem with hmem | hmem
  · exact e.key.noEquals hmem
  · exact absurd (e.afterKey.blank _ hmem) (by decide)

/-- What stands in front of the equals sign is trimmed to the key. -/
theorem Entry.trim_key : trim (e.key.text ++ e.afterKey.text) = e.key.text := by
  obtain ⟨c, hfront, hblank, -, -⟩ := e.key.front
  rw [trim_blanks]
  refine strip_bare (fun b hb => ?_) e.key.back
  rw [hfront] at hb
  cases hb
  exact hblank

/-- Dropping the key, the blanks and the equals sign leaves what stands behind it. -/
theorem Entry.drop_key (behind : Text) : (e.key.text ++ e.afterKey.text ++ '=' :: behind).drop
    ((e.key.text ++ e.afterKey.text).length + 1) = behind := by
  rw [← List.drop_drop, List.drop_left]
  rfl

end Key

/-- What a line does. -/
def Parsing.step (p : Parsing) : Line → Parsing
  | .blank _ | .comment _ _ => p
  | .heading _ name _ => { p with sectionName := name.text }
  | .entry e => p.emplace e.key.text e.read

/-- The line of an entry adds its key, with the value that the code reads behind the equals sign, to
the current section. -/
theorem Parsing.line_entry (p : Parsing) (e : Entry) :
    p.line e.text = p.emplace e.key.text e.read := by
  obtain ⟨c, hhead, hcomment, hheading⟩ := e.head_trim
  have hread : trim ((e.padding.text ++ (e.behind ++ e.trail.text)).rdropWhile isTrailing) =
      trim e.behind := by
    rw [trim, strip_rdropWhile, ← trim, trim_append, trim_append_right]
  unfold Parsing.line
  dsimp only
  rw [if_neg (by rw [hhead]; simp [e.trim_ne_nil, hcomment]),
    if_neg (by rw [hhead]; simp [hheading]), e.trim_text, idxOf?_append_cons e.equals_notMem]
  dsimp only
  rw [List.take_left, e.drop_key, e.trim_key, hread]
  rfl

/-- The parser does with a documented line what it should, but for what it reads as the value. -/
theorem Parsing.line_text (p : Parsing) (l : Line) : p.line l.text = p.step l := by
  cases l with
  | blank text =>
    unfold Parsing.line
    dsimp only [Line.text]
    rw [trim_blank, if_pos (.inl rfl)]
    rfl
  | comment lead text =>
    unfold Parsing.line
    dsimp only [Line.text]
    rw [trim_cons_front lead (by decide) (by decide), if_pos (.inr rfl)]
    rfl
  | heading lead name trail =>
    have hback : ('[' :: name.text ++ [']']).getLast? = some ']' := List.getLast?_concat ..
    unfold Parsing.line
    dsimp only [Line.text]
    rw [trim_heading, if_neg (by simp), if_pos ⟨by simp, rfl, hback⟩]
    simp [Parsing.step]
  | entry e => exact p.line_entry e

/-! ## Whole files -/

/-- There is no newline among blanks. -/
theorem notMem_blanks (blanks : Blanks) : '\n' ∉ blanks.text := fun h =>
  absurd (blanks.blank _ h) (by decide)

/-- There is no newline among the blanks and carriage returns behind a line. -/
theorem notMem_trailing (trail : Trailing) : '\n' ∉ trail.text := fun h =>
  absurd (trail.blank _ h) (by decide)

/-- There is no newline in a value, with its quotes or without. -/
theorem notMem_raw (value : Value) : '\n' ∉ value.raw := by
  cases value with
  | plain text => exact text.oneLine
  | quoted text => simp [Value.raw, text.oneLine]

/-- There is no newline in a trailing comment. -/
theorem notMem_commentText (comment : Option TrailingComment) : '\n' ∉ commentText comment := by
  cases comment with
  | none => exact List.not_mem_nil
  | some comment => simp [commentText, notMem_blanks, comment.text.oneLine]

/-- There is no newline in the text of a line. -/
theorem Line.oneLine (l : Line) : '\n' ∉ l.text := by
  cases l with
  | blank text => exact notMem_trailing text
  | comment lead text => simp [Line.text, notMem_blanks, text.oneLine]
  | heading lead name trail =>
    simp [Line.text, notMem_blanks, notMem_trailing, name.oneLine]
  | entry e =>
    simp [Line.text, Entry.text, Entry.behind, notMem_blanks, notMem_trailing, notMem_raw,
      notMem_commentText, e.key.oneLine]

/-- The lines of a file are read as they were written, but for an empty one that nothing ends. -/
theorem getLines_fileText (terminated : Bool) (lines : List Line) :
    getLines (fileText terminated lines) = lines.map Line.text ∨
      ∃ before l, lines = before ++ [l] ∧ l.text = [] ∧
        getLines (fileText terminated lines) = before.map Line.text := by
  -- The lines are read back one by one. Only the last one may have no newline, and be lost if it is
  -- empty.
  induction lines with
  | nil => exact .inl rfl
  | cons l lines ih =>
    cases lines with
    | nil =>
      cases terminated with
      | true =>
        have htext : fileText true [l] = l.text ++ '\n' :: [] := rfl
        rw [htext, getLines_append_newline l.oneLine]
        exact .inl rfl
      | false =>
        have htext : fileText false [l] = l.text := List.append_nil _
        -- An empty last line without a newline is no line of its own.
        rw [htext]
        by_cases hnil : l.text = []
        · exact .inr ⟨[], l, rfl, hnil, by rw [hnil]; rfl⟩
        · exact .inl (getLines_of_notMem l.oneLine hnil)
    -- The newline behind the first line is there in any case.
    | cons l' lines =>
      have htext : fileText terminated (l :: l' :: lines) =
          l.text ++ '\n' :: fileText terminated (l' :: lines) := rfl
      rw [htext, getLines_append_newline l.oneLine]
      rcases ih with hread | ⟨before, last, heq, hnil, hread⟩
      · exact .inl (congrArg (List.cons _) hread)
      · exact .inr ⟨l :: before, last, by rw [heq]; rfl, hnil, congrArg (List.cons _) hread⟩

/-- Parsing the text of a file takes its lines one by one, whether the last one is terminated or
not. -/
theorem foldl_fileText (terminated : Bool) (lines : List Line) (p : Parsing) :
    (getLines (fileText terminated lines)).foldl Parsing.line p = lines.foldl Parsing.step p := by
  have hfold (lines : List Line) :
      (lines.map Line.text).foldl Parsing.line p = lines.foldl Parsing.step p := by
    simp only [List.foldl_map, Parsing.line_text]
  rcases getLines_fileText terminated lines with hread | ⟨before, l, rfl, hnil, hread⟩
  · rw [hread, hfold]
  · -- Nothing is read of an empty line at the end, and nothing is lost.
    rw [hread, hfold, List.foldl_concat, ← Parsing.line_text, hnil]
    rfl

/-- The entries of a section. -/
def Parsing.entries (p : Parsing) (sectionName : Text) : Section :=
  (p.result sectionName).getD []

/-- An entry is added behind those of the current section, and to no other section. -/
theorem Parsing.entries_emplace (p : Parsing) (key value sectionName : Text) :
    (p.emplace key value).entries sectionName =
      p.entries sectionName ++ if sectionName = p.sectionName then [(key, value)] else [] := by
  unfold Parsing.entries Parsing.emplace
  dsimp only
  by_cases h : sectionName = p.sectionName
  · rw [h, Function.update_self, if_pos rfl]
    rfl
  · rw [Function.update_of_ne h, if_neg h, List.append_nil]

/-- A run of lines adds to each section the entries that stand under it, with their keys and with
what the code reads as their values. -/
theorem Parsing.entries_foldl (lines : List Line) (p : Parsing) (sectionName : Text) :
    (lines.foldl Parsing.step p).entries sectionName = p.entries sectionName ++
      ((entriesOf p.sectionName lines).filter fun entry => entry.1 = sectionName).map
        fun entry => (entry.2.key.text, entry.2.read) := by
  induction lines generalizing p with
  | nil => simp [entriesOf]
  | cons l lines ih =>
    rw [List.foldl_cons, ih]
    cases l with
    | blank | comment | heading => rfl
    | entry e =>
      dsimp only [Parsing.step, entriesOf]
      rw [Parsing.entries_emplace, List.append_assoc, List.filter_cons]
      by_cases h : sectionName = p.sectionName
      · rw [if_pos h, if_pos (by simp [h])]
        rfl
      · rw [if_neg h, if_neg (by simpa using Ne.symm h)]
        rfl

/-- The values of a key are those of the section's entries with that key, in the order of the
file. -/
theorem allValues_entries (p : Parsing) (sectionName key : Text) :
    allValues p.result sectionName key =
      ((p.entries sectionName).filter fun entry => entry.1 = key).map Prod.snd := by
  unfold allValues Parsing.entries
  cases p.result sectionName <;> rfl

/-- `firstValue` is the first of `allValues`. -/
theorem firstValue_eq_head? (file : ParsedFile) (sectionName key : Text) :
    firstValue file sectionName key = (allValues file sectionName key).head? := by
  unfold firstValue allValues
  cases file sectionName with
  | none => rfl
  | some entries => exact (congrArg _ List.head?_filter.symm).trans List.head?_map.symm

section File

variable (terminated : Bool) (lines : List Line)

/-- What the lookups find in a file of documented lines. -/
theorem allValues_fileText (sectionName key : Text) :
    allValues (parseFile (fileText terminated lines)) sectionName key =
      (occurrences lines sectionName key).map Entry.read := by
  have hstart : Parsing.entries {} sectionName = [] := rfl
  rw [parseFile, allValues_entries, foldl_fileText, Parsing.entries_foldl, hstart, List.nil_append,
    List.filter_map, List.filter_filter, List.map_map, occurrences, List.map_map]
  refine congrArg₂ _ rfl (List.filter_congr fun entry _ => ?_)
  rw [Bool.decide_and, Bool.and_comm]
  rfl

/-- In a documented file, the first value of a key is what the code reads of its first
occurrence. -/
theorem firstValue_fileText (sectionName key : Text) :
    firstValue (parseFile (fileText terminated lines)) sectionName key =
      (occurrences lines sectionName key).head?.map Entry.read := by
  rw [firstValue_eq_head?, allValues_fileText, List.head?_map]

/-- What is loaded from a documented file is what is published of its lines, with the values as the
code reads them. -/
theorem load_fileText {env : Option Text} {files : Text → ConfigFile}
    (hfile : files (resolvePath env) = .readable (fileText terminated lines)) :
    load env files = published Entry.read lines := by
  unfold load published
  dsimp only
  rw [hfile]
  dsimp only
  rw [loadLoggerSection_eq, loadStorageSection_eq, loadSecuritySection_eq, loadDonglesSection_eq,
    loadBehaviorSection_eq]
  simp only [firstValue_fileText, allValues_fileText, List.filterMap_map]
  rfl

end File

/-! ## Where a comment is taken for a part of the value -/

section Entry

variable {e : Entry} {comment : TrailingComment}

/-- A value as it is written starts with no blank, so trimming stops at it. -/
theorem Value.raw_front (value : Value) {c : Char} (h : value.raw.head? = some c) :
    isBlank c = false := by
  cases value with
  | plain text => exact (text.front c h).1
  | quoted text =>
    cases h
    decide

/-- A value as it is written ends in no blank and in no carriage return, so trimming stops at it. -/
theorem Value.raw_back (value : Value) {c : Char} (h : value.raw.getLast? = some c) :
    isTrailing c = false := by
  cases value with
  | plain text => exact text.back c h
  | quoted text =>
    rw [Value.raw, List.getLast?_concat] at h
    cases h
    decide

/-- Quotes add no semicolon to a value. -/
theorem Value.count_raw (value : Value) : value.raw.count ';' = value.text.count ';' := by
  cases value with
  | plain text => rfl
  | quoted text => simp [Value.raw, Value.text]

/-- An entry without a trailing comment is read as its value, quotes taken off. -/
theorem Entry.read_of_none (h : e.comment = none) : e.read = e.value.text := by
  have hbehind : e.behind = e.value.raw := by
    rw [Entry.behind, h, commentText, List.append_nil]
  have htrim : trim e.value.raw = e.value.raw :=
    strip_bare (fun _ => e.value.raw_front) fun _ => e.value.raw_back
  rw [Entry.read, hbehind, htrim]
  cases e.value with
  | plain text => exact unquote_of_front fun hfront => (text.front _ hfront).2 rfl
  | quoted text => exact unquote_quoted text.text

/-- Behind the equals sign of an entry with a trailing comment stand its value, the blanks, the
semicolon and the comment. -/
theorem Entry.behind_of_some (h : e.comment = some comment) :
    e.behind = e.value.raw ++ (comment.blanks.text ++ ';' :: comment.text.text) := by
  rw [Entry.behind, h, commentText]

/-- With a comment more semicolons are read than the value has. -/
theorem Entry.count_lt (h : e.comment = some comment) :
    e.value.text.count ';' < e.read.count ';' := by
  have hread : e.read.count ';' = e.behind.count ';' := by
    rw [Entry.read, count_unquote (by decide), trim, count_strip (by decide) (by decide)]
  rw [hread, e.behind_of_some h, List.count_append, List.count_append, List.count_cons_self,
    e.value.count_raw]
  omega

/-- An entry with a trailing comment is not read as its value: the code reads one more semicolon
than the value holds. -/
theorem Entry.read_ne (h : e.comment = some comment) : e.read ≠ e.value.text := fun heq =>
  absurd (e.count_lt h) (by rw [heq]; exact Nat.lt_irrefl _)

/-- What is read of an entry with a trailing comment holds a semicolon. -/
theorem Entry.semicolon_mem (h : e.comment = some comment) : ';' ∈ e.read :=
  List.count_pos_iff.mp (Nat.zero_lt_of_lt (e.count_lt h))

/-- The value is still there, but for a quote before it and whatever behind it. -/
theorem Entry.exists_read (h : e.comment = some comment) (hne : e.value.text ≠ []) :
    ∃ quote rest, ':' ∉ quote ∧ e.read = quote ++ (e.value.text ++ rest) := by
  -- The value is written down as something, with or without quotes.
  have hraw : e.value.raw ≠ [] := by
    cases hvalue : e.value with
    | plain text =>
      rw [hvalue] at hne
      exact hne
    | quoted text => exact List.cons_ne_nil _ _
  -- What is trimmed is what is behind the comment, as its semicolon stays.
  have htrim : trim e.behind = e.value.raw ++
      (comment.blanks.text ++ ';' :: comment.text.text.rdropWhile isTrailing) := by
    obtain ⟨c, rest, hcons⟩ := List.exists_cons_of_ne_nil hraw
    have hfront : isBlank c = false := e.value.raw_front (by rw [hcons]; rfl)
    rw [e.behind_of_some h, trim, strip, hcons, List.cons_append,
      List.dropWhile_cons_of_neg (by simp [hfront]), ← List.cons_append, ← List.append_assoc,
      ← List.append_assoc]
    exact rdropWhile_append_cons (by decide)
  have htail : comment.blanks.text ++ ';' :: comment.text.text.rdropWhile isTrailing ≠ [] :=
    List.append_ne_nil_of_right_ne_nil _ (List.cons_ne_nil _ _)
  generalize comment.blanks.text ++ ';' :: comment.text.text.rdropWhile isTrailing = tail
    at htrim htail
  rw [Entry.read, htrim]
  -- A plain value is read with the comment behind it, as nothing is unquoted.
  cases hvalue : e.value with
  | plain text =>
    refine ⟨[], tail, List.not_mem_nil, unquote_of_front fun hfront => ?_⟩
    rw [hvalue] at hraw
    rw [List.head?_append_of_ne_nil _ hraw] at hfront
    exact (text.front _ hfront).2 rfl
  -- A quoted value is taken out of its quotes, unless what is behind it hides the closing one.
  | quoted text =>
    have happend : '"' :: text.text ++ ['"'] ++ tail = '"' :: (text.text ++ '"' :: tail) := by simp
    dsimp only [Value.raw, Value.text]
    rw [happend]
    rcases unquote_cases ('"' :: (text.text ++ '"' :: tail)) with heq | ⟨inner, hinner, heq⟩
    · exact ⟨['"'], '"' :: tail, by decide, heq⟩
    · -- The comment ends in a quote, which is taken for the closing one.
      have hbehind : text.text ++ '"' :: tail = inner ++ ['"'] := (List.cons.inj hinner).2
      have hlast := congrArg List.dropLast hbehind
      rw [List.dropLast_append_of_ne_nil (List.cons_ne_nil _ _), List.dropLast_concat] at hlast
      exact ⟨[], ('"' :: tail).dropLast, List.not_mem_nil, heq.trans hlast.symm⟩

/-- A device address that is accepted without the trailing comment is accepted with it, as only its
beginning is parsed. -/
theorem Entry.parseAccept_isSome (h : e.comment = some comment)
    (hvalue : (parseAccept e.value.text).isSome) : (parseAccept e.read).isSome := by
  have hne : e.value.text ≠ [] := fun hnil => by
    rw [hnil] at hvalue
    cases hvalue
  obtain ⟨quote, rest, hquote, hread⟩ := e.exists_read h hne
  rw [hread]
  exact parseAccept_append hquote hvalue

/-- What is accepted with the comment is not what is accepted without it. -/
theorem Entry.parseAccept_ne (h : e.comment = some comment) {accepted : AcceptedDongle}
    (hread : parseAccept e.read = some accepted) : parseAccept e.value.text ≠ some accepted := by
  intro hvalue
  have hlt := e.count_lt h
  rw [← count_parseAccept hread, ← count_parseAccept hvalue] at hlt
  exact Nat.lt_irrefl _ hlt

/-- A row that is read with its comment has a semicolon, which the default has not. -/
theorem Entry.parseAccept_ne_default (h : e.comment = some comment) :
    parseAccept e.read ≠ some defaultDongle := by
  intro haccept
  have hlt := e.count_lt h
  have hdefault : defaultDongle.vid.count ';' + defaultDongle.pid.count ';' +
      defaultDongle.name.count ';' = 0 := by decide
  rw [← count_parseAccept haccept, hdefault] at hlt
  exact Nat.not_lt_zero _ hlt

end Entry

/-- The comments behind the values that are looked up make no difference: the value is the default
or not valid anyway, a path has no comment, and a row of `accept` cannot be read with its comment.
-/
structure Harmless (lines : List Line) : Prop where
  /-- `logger.min_level`. -/
  minLevel : ∀ e, (occurrences lines "logger".toList "min_level".toList).head? = some e →
    e.comment ≠ none → (parseLevel e.value.text).getD levelInfo = levelInfo
  /-- `storage.state_dir`. -/
  stateDir : ∀ e, (occurrences lines "storage".toList "state_dir".toList).head? = some e →
    e.comment = none
  /-- `security.s0_key_file`. -/
  s0KeyFile : ∀ e, (occurrences lines "security".toList "s0_key_file".toList).head? = some e →
    e.comment = none
  /-- `security.s2_key_dir`. -/
  s2KeyDir : ∀ e, (occurrences lines "security".toList "s2_key_dir".toList).head? = some e →
    e.comment = none
  /-- `dongles.accept`. -/
  accept : ∀ e ∈ occurrences lines "dongles".toList "accept".toList,
    e.comment ≠ none → parseAccept (unquote (trim e.behind)) = none
  /-- `behavior.auto_lifeline`. -/
  autoLifeline : ∀ e, (occurrences lines "behavior".toList "auto_lifeline".toList).head? = some e →
    e.comment ≠ none → (parseBool e.value.text).getD true = true

section Harmless

/-- A value that is looked up in a table without semicolons. -/
theorem getD_read_iff {β : Type} {parse : Text → Option β}
    (hparse : ∀ {text}, ';' ∈ text → parse text = none) (value : β) (first : Option Entry) :
    ((first.map Entry.read).bind parse).getD value =
        ((first.map fun e => e.value.text).bind parse).getD value ↔
      ∀ e, first = some e → e.comment ≠ none → (parse e.value.text).getD value = value := by
  cases first with
  | none => exact iff_of_true rfl fun e h => by cases h
  | some e =>
    simp only [Option.map_some, Option.bind_some, Option.some.injEq, forall_eq']
    cases hcomment : e.comment with
    | none =>
      rw [e.read_of_none hcomment]
      exact iff_of_true rfl fun h => absurd rfl h
    | some comment =>
      rw [hparse (e.semicolon_mem hcomment), Option.getD_none]
      exact ⟨fun h _ => h.symm, fun h => (h (Option.some_ne_none _)).symm⟩

/-- A path that is taken as it is read is the documented one exactly when its entry has no trailing
comment. -/
theorem getD_path_iff (first : Option Entry) :
    (first.map Entry.read).getD [] = (first.map fun e => e.value.text).getD [] ↔
      ∀ e, first = some e → e.comment = none := by
  cases first with
  | none => exact iff_of_true rfl fun e h => by cases h
  | some e =>
    simp only [Option.map_some, Option.getD_some, Option.some.injEq, forall_eq']
    cases hcomment : e.comment with
    | none => exact iff_of_true (e.read_of_none hcomment) rfl
    | some comment => exact iff_of_false (e.read_ne hcomment) (Option.some_ne_none _)

/-- A filter that keeps more keeps at least as many. -/
theorem length_filterMap_le {β γ : Type} {f g : β → Option γ} {l : List β}
    (h : ∀ a ∈ l, (f a).isSome → (g a).isSome) :
    (l.filterMap f).length ≤ (l.filterMap g).length := by
  induction l with
  | nil => exact Nat.le_refl _
  | cons a l ih =>
    obtain ⟨ha, hl⟩ := List.forall_mem_cons.mp h
    have hrest := ih hl
    cases hf : f a with
    | none =>
      rw [List.filterMap_cons_none hf]
      exact Nat.le_trans hrest ((List.sublist_cons_self a l).filterMap g).length_le
    | some b =>
      obtain ⟨c, hg⟩ := Option.isSome_iff_exists.mp (ha (by rw [hf]; rfl))
      rw [List.filterMap_cons_some hf, List.filterMap_cons_some hg]
      exact Nat.succ_le_succ hrest

/-- Where `g` is defined wherever `f` is, the lists of their values agree only if they do. -/
theorem filterMap_eq_iff {β γ : Type} {f g : β → Option γ} {l : List β}
    (h : ∀ a ∈ l, (f a).isSome → (g a).isSome) :
    l.filterMap g = l.filterMap f ↔ ∀ a ∈ l, g a = f a := by
  refine ⟨fun heq => ?_, fun heq => List.filterMap_congr heq⟩
  induction l with
  | nil => exact fun a ha => absurd ha List.not_mem_nil
  | cons a l ih =>
    obtain ⟨ha, hl⟩ := List.forall_mem_cons.mp h
    rw [List.forall_mem_cons]
    cases hf : f a with
    | none =>
      rw [List.filterMap_cons_none hf] at heq
      cases hg : g a with
      | none =>
        rw [List.filterMap_cons_none hg] at heq
        exact ⟨rfl, ih hl heq⟩
      | some c =>
        -- One value more cannot be made up for behind it.
        rw [List.filterMap_cons_some hg] at heq
        have hlength := congrArg List.length heq
        have hle := length_filterMap_le hl
        rw [List.length_cons] at hlength
        omega
    | some b =>
      obtain ⟨c, hg⟩ := Option.isSome_iff_exists.mp (ha (by rw [hf]; rfl))
      rw [List.filterMap_cons_some hf, List.filterMap_cons_some hg] at heq
      obtain ⟨rfl, hrest⟩ := List.cons.inj heq
      exact ⟨hg, ih hl hrest⟩

/-- The accepted dongles are the documented ones exactly when no `accept` value with a trailing
comment would be one of them. -/
theorem accept_iff (rows : List Entry) :
    (if rows.filterMap (fun e => parseAccept e.read) = [] then [defaultDongle]
      else rows.filterMap fun e => parseAccept e.read) =
        (if rows.filterMap (fun e => parseAccept e.value.text) = [] then [defaultDongle]
          else rows.filterMap fun e => parseAccept e.value.text) ↔
      ∀ e ∈ rows, e.comment ≠ none → parseAccept (unquote (trim e.behind)) = none := by
  have hsome : ∀ e ∈ rows, (parseAccept e.value.text).isSome → (parseAccept e.read).isSome := by
    intro e _ hvalue
    cases hcomment : e.comment with
    | none => rwa [e.read_of_none hcomment]
    | some comment => exact e.parseAccept_isSome hcomment hvalue
  -- Line by line, the rows are read alike only where a comment keeps them from being read.
  have hrow : (∀ e ∈ rows, parseAccept e.read = parseAccept e.value.text) ↔
      ∀ e ∈ rows, e.comment ≠ none → parseAccept (unquote (trim e.behind)) = none := by
    refine forall₂_congr fun e he => ?_
    cases hcomment : e.comment with
    | none =>
      rw [e.read_of_none hcomment]
      exact iff_of_true rfl fun h => absurd rfl h
    | some comment =>
      have hread : parseAccept e.read = parseAccept e.value.text ↔ parseAccept e.read = none := by
        cases haccept : parseAccept e.read with
        | none =>
          refine iff_of_true (Option.not_isSome_iff_eq_none.mp fun hvalue => ?_).symm rfl
          have hboth := hsome e he hvalue
          rw [haccept] at hboth
          cases hboth
        | some accepted =>
          exact iff_of_false (Ne.symm (e.parseAccept_ne hcomment haccept))
            (Option.some_ne_none _)
      exact ⟨fun h _ => hread.mp h, fun h => hread.mpr (h (Option.some_ne_none _))⟩
  rw [← hrow, ← filterMap_eq_iff hsome]
  -- Only where no row is valid does the default come in, on one side or on both.
  have hlength := length_filterMap_le hsome
  by_cases hread : rows.filterMap (fun e => parseAccept e.read) = []
  · have hvalue : rows.filterMap (fun e => parseAccept e.value.text) = [] := by
      rw [hread] at hlength
      exact List.length_eq_zero_iff.mp (Nat.le_zero.mp hlength)
    rw [hread, hvalue]
    exact iff_of_true rfl rfl
  · by_cases hvalue : rows.filterMap (fun e => parseAccept e.value.text) = []
    · rw [if_neg hread, if_pos hvalue, hvalue]
      refine iff_of_false (fun heq => ?_) hread
      have hmem : defaultDongle ∈ rows.filterMap fun e => parseAccept e.read := by
        rw [heq]
        exact List.mem_singleton_self _
      obtain ⟨e, he, haccept⟩ := List.mem_filterMap.mp hmem
      cases hcomment : e.comment with
      | none =>
        rw [e.read_of_none hcomment] at haccept
        have hboth : defaultDongle ∈ rows.filterMap fun e => parseAccept e.value.text :=
          List.mem_filterMap.mpr ⟨e, he, haccept⟩
        rw [hvalue] at hboth
        exact List.not_mem_nil hboth
      | some comment => exact e.parseAccept_ne_default hcomment haccept
    · rw [if_neg hread, if_neg hvalue]

/-- What is published is what the format documents exactly when every trailing comment is
harmless. -/
theorem published_read_iff (lines : List Line) :
    published Entry.read lines = documented lines ↔ Harmless lines := by
  simp only [documented, published, List.cons.injEq, ConfigEvent.logger.injEq,
    LoggerConfig.mk.injEq, ConfigEvent.storage.injEq, StorageConfig.mk.injEq,
    ConfigEvent.security.injEq, SecurityConfig.mk.injEq, ConfigEvent.dongles.injEq,
    DonglesConfig.mk.injEq, ConfigEvent.behavior.injEq, BehaviorConfig.mk.injEq, and_true]
  rw [getD_read_iff parseLevel_of_mem, getD_path_iff, getD_path_iff, getD_path_iff, accept_iff,
    getD_read_iff parseBool_of_mem]
  exact ⟨fun ⟨hlevel, hdir, ⟨hs0, hs2⟩, haccept, hlifeline⟩ =>
      ⟨hlevel, hdir, hs0, hs2, haccept, hlifeline⟩,
    fun h => ⟨h.minLevel, h.stateDir, ⟨h.s0KeyFile, h.s2KeyDir⟩, h.accept, h.autoLifeline⟩⟩

/-- Of a file of documented lines the documented configuration is published exactly if the comments
behind the values that are looked up make no difference. -/
theorem load_documented_iff {env : Option Text} {files : Text → ConfigFile} {terminated : Bool}
    {lines : List Line} (hfile : files (resolvePath env) = .readable (fileText terminated lines)) :
    load env files = documented lines ↔ Harmless lines := by
  rw [load_fileText terminated lines hfile]
  exact published_read_iff lines

/-- The line of the README's example that sets `auto_lifeline`, with another value and a comment. -/
def lifelineEntry (value : Plain) (h : ';' ∉ value.text) : Entry where
  lead := ⟨[], List.forall_mem_nil _⟩
  key :=
    { text := "auto_lifeline".toList
      oneLine := by decide
      noEquals := by decide
      front := ⟨'a', by decide⟩
      back := fun c hc => by cases hc; decide }
  afterKey := ⟨" ".toList, List.all_eq_true.mp (by decide)⟩
  padding := ⟨" ".toList, List.all_eq_true.mp (by decide)⟩
  value := .plain value
  comment := some
    { blanks := ⟨"   ".toList, List.all_eq_true.mp (by decide)⟩
      blanks_ne_nil := by decide
      text := ⟨" auto-populate group 1".toList, by decide⟩ }
  trail := ⟨[], List.forall_mem_nil _⟩
  clear := fun before c after _ heq => by
    have hmem : ';' ∈ " ".toList ++ value.text := by
      rw [heq]
      simp
    rcases List.mem_append.mp hmem with hmem | hmem
    · exact absurd hmem (by decide)
    · exact h hmem

/-- A file with this line in its section. -/
def lifelineLines (value : Plain) (h : ';' ∉ value.text) : List Line :=
  [.heading ⟨[], List.forall_mem_nil _⟩ ⟨"behavior".toList, by decide⟩ ⟨[], List.forall_mem_nil _⟩,
    .entry (lifelineEntry value h)]

/-- `true`. -/
def plainTrue : Plain where
  text := "true".toList
  oneLine := by decide
  front := fun c hc => by cases hc; decide
  back := fun c hc => by cases hc; decide

/-- `false`. -/
def plainFalse : Plain where
  text := "false".toList
  oneLine := by decide
  front := fun c hc => by cases hc; decide
  back := fun c hc => by cases hc; decide

/-- With the README's own value nothing is lost: it is the default. -/
theorem load_documented_iff_readme :
    (load none fun _ => .readable (fileText true (lifelineLines plainTrue (by decide)))) =
      documented (lifelineLines plainTrue (by decide)) := by
  have hiff : (load none fun _ => .readable (fileText true (lifelineLines plainTrue (by decide)))) =
      documented (lifelineLines plainTrue (by decide)) ↔
        Harmless (lifelineLines plainTrue (by decide)) := load_documented_iff rfl
  refine hiff.mpr ⟨?_, ?_, ?_, ?_, ?_, ?_⟩
  · exact fun e he => by cases he
  · exact fun e he => by cases he
  · exact fun e he => by cases he
  · exact fun e he => by cases he
  · exact fun e he => by cases he
  · intro e he _
    cases he
    decide

/-- The comment behind `false` makes it no value, and the lifeline is set automatically. -/
theorem not_load_documented_false :
    fileText true (lifelineLines plainFalse (by decide)) =
      "[behavior]\nauto_lifeline = false   ; auto-populate group 1\n".toList ∧
    ConfigEvent.behavior { autoLifeline := true } ∈
      load none (fun _ => .readable (fileText true (lifelineLines plainFalse (by decide)))) ∧
    (load none fun _ => .readable (fileText true (lifelineLines plainFalse (by decide)))) ≠
      documented (lifelineLines plainFalse (by decide)) := by
  decide

end Harmless

end Zwaved.Config
