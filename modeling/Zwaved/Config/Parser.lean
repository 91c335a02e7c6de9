import Mathlib.Logic.Function.Basic
import Zwaved.Codec.Strip

/-!
# The configuration file

`Config.cpp`: the file is read line by line into sections of keys and values, and what the sections
say is published as five retained events, with defaults for what they do not say.

A `std::string` is a list of characters, one for each byte. What the parser writes to the log is
left out.
-/

namespace Zwaved.Config

open Codec

/-- A `std::string`. -/
abbrev Text := List Char

/-- `DEFAULT_PATH`. -/
def defaultPath : Text := "/etc/zwaved/zwaved.conf".toList

/-- `LEVEL_DEBUG`. -/
def levelDebug : UInt8 := 0

/-- `LEVEL_INFO`. -/
def levelInfo : UInt8 := 1

/-- `LEVEL_WARN`. -/
def levelWarn : UInt8 := 2

/-- `LEVEL_ERROR`. -/
def levelError : UInt8 := 3

/-- `SEVERITY_WARN`. -/
def severityWarn : UInt8 := 2

/-- `CODE_CONFIG_LOAD_FAILED`. -/
def codeConfigLoadFailed : UInt8 := 0x40

/-- What `trim` takes away at the front. -/
def isBlank (c : Char) : Bool := c == ' ' || c == '\t'

/-- What `trim` takes away at the back. -/
def isTrailing (c : Char) : Bool := c == ' ' || c == '\t' || c == '\r'

/-- `trim`. -/
def trim (text : Text) : Text := strip isBlank isTrailing text

/-- A blank is one of the characters that are trimmed from the end. -/
theorem isTrailing_of_isBlank {c : Char} (h : isBlank c = true) : isTrailing c = true := by
  unfold isTrailing
  rw [show (c == ' ' || c == '\t') = true from h, Bool.true_or]

/-! ## Lines -/

/-- `Section`: the entries of a section in file order; a key may be repeated. -/
abbrev Section := List (Text × Text)

/-- `ParsedFile`. -/
abbrev ParsedFile := Text → Option Section

/-- What `std::getline` reads one after the other. An end of line at the end of the file starts no
further line. -/
def getLines : Text → List Text
  | [] => []
  | '\n' :: rest => [] :: getLines rest
  | c :: rest =>
    match getLines rest with
    | [] => [[c]]
    | line :: lines => (c :: line) :: lines

/-- A text up to its first newline is the first line. -/
theorem getLines_append_newline {line : Text} (h : '\n' ∉ line) (rest : Text) :
    getLines (line ++ '\n' :: rest) = line :: getLines rest := by
  induction line with
  | nil => rfl
  | cons c line ih =>
    rw [List.cons_append, getLines, ih (List.not_mem_of_not_mem_cons h)]
    exact fun heq => List.ne_of_not_mem_cons h heq.symm

/-- A text without a newline that is not empty is one line. -/
theorem getLines_of_notMem {line : Text} (h : '\n' ∉ line) (hne : line ≠ []) :
    getLines line = [line] := by
  induction line with
  | nil => exact absurd rfl hne
  | cons c line ih =>
    rw [getLines]
    · by_cases hnil : line = []
      · rw [hnil]
        rfl
      · rw [ih (List.not_mem_of_not_mem_cons h) hnil]
    · exact fun heq => List.ne_of_not_mem_cons h heq.symm

/-- A value without the double quotes around it. -/
def unquote (value : Text) : Text :=
  if 2 ≤ value.length ∧ value.head? = some '"' ∧ value.getLast? = some '"' then
    (value.drop 1).take (value.length - 2)
  else value

/-- A text in quotes is unquoted to itself, whatever it holds. -/
theorem unquote_quoted (text : Text) : unquote ('"' :: text ++ ['"']) = text := by
  have hback : ('"' :: text ++ ['"']).getLast? = some '"' := List.getLast?_concat ..
  rw [unquote, if_pos ⟨by simp, rfl, hback⟩]
  simp

/-- A text that does not start with a quote is left as it is. -/
theorem unquote_of_front {value : Text} (h : value.head? ≠ some '"') : unquote value = value :=
  if_neg fun hquoted => h hquoted.2.1

/-- A text that is unquoted has a double quote at both ends. -/
theorem unquote_cases (value : Text) : unquote value = value ∨
    ∃ text, value = '"' :: text ++ ['"'] ∧ unquote value = text := by
  by_cases hquoted : 2 ≤ value.length ∧ value.head? = some '"' ∧ value.getLast? = some '"'
  · right
    obtain ⟨hlength, hfront, hback⟩ := hquoted
    obtain ⟨rest, rfl⟩ := List.head?_eq_some_iff.mp hfront
    have hrest : rest ≠ [] := fun hnil => by
      rw [hnil] at hlength
      exact absurd hlength (by decide)
    have hlast : rest.getLast? = some '"' := by
      rwa [List.getLast?_cons_of_ne_nil hrest] at hback
    obtain ⟨text, rfl⟩ := List.getLast?_eq_some_iff.mp hlast
    exact ⟨text, rfl, unquote_quoted text⟩
  · exact .inl (if_neg hquoted)

/-- Unquoting takes away nothing but double quotes. -/
theorem count_unquote {c : Char} (h : c ≠ '"') (value : Text) :
    (unquote value).count c = value.count c := by
  rcases unquote_cases value with heq | ⟨text, rfl, heq⟩
  · rw [heq]
  · rw [heq, List.cons_append, List.count_cons_of_ne h.symm, List.count_append,
      List.count_eq_zero.mpr (by simp [h] : c ∉ ['"']), Nat.add_zero]

/-- The locals of `parseFile`. -/
structure Parsing where
  /-- `result`. -/
  result : ParsedFile := fun _ => none
  /-- `section`. -/
  sectionName : Text := []

/-- `result[section].emplace_back(key, value)`. -/
def Parsing.emplace (p : Parsing) (key value : Text) : Parsing :=
  { p with
    result := Function.update p.result p.sectionName
      (some ((p.result p.sectionName).getD [] ++ [(key, value)])) }

/-- The body of the loop of `parseFile`. -/
def Parsing.line (p : Parsing) (line : Text) : Parsing :=
  let trimmed := trim line
  if trimmed = [] ∨ trimmed.head? = some '#' then p
  else if 2 ≤ trimmed.length ∧ trimmed.head? = some '[' ∧ trimmed.getLast? = some ']' then
    { p with sectionName := (trimmed.drop 1).take (trimmed.length - 2) }
  else
    match trimmed.idxOf? '=' with
    | none => p
    | some equalsPos =>
      let key := trim (trimmed.take equalsPos)
      -- Nothing is cut off behind the value: a comment there is a part of it.
      let value := trim (trimmed.drop (equalsPos + 1))
      p.emplace key (unquote value)

/-- `parseFile`, of a file that can be opened. -/
def parseFile (contents : Text) : ParsedFile :=
  ((getLines contents).foldl Parsing.line {}).result

/-- `firstValue`. -/
def firstValue (file : ParsedFile) (sectionName key : Text) : Option Text :=
  match file sectionName with
  | none => none
  | some entries => (entries.find? fun entry => entry.1 = key).map Prod.snd

/-- `allValues`. -/
def allValues (file : ParsedFile) (sectionName key : Text) : List Text :=
  match file sectionName with
  | none => []
  | some entries => (entries.filter fun entry => entry.1 = key).map Prod.snd

/-! ## Values -/

/-- `parseLevel`. -/
def parseLevel (text : Text) : Option UInt8 :=
  if text = "debug".toList then some levelDebug
  else if text = "info".toList then some levelInfo
  else if text = "warn".toList then some levelWarn
  else if text = "error".toList then some levelError
  else none

/-- `parseBool`. -/
def parseBool (text : Text) : Option Bool :=
  if text = "true".toList ∨ text = "yes".toList ∨ text = "1".toList then some true
  else if text = "false".toList ∨ text = "no".toList ∨ text = "0".toList then some false
  else none

/-- `AcceptedDongleConfig`. -/
structure AcceptedDongle where
  /-- `vid`. -/
  vid : Text
  /-- `pid`. -/
  pid : Text
  /-- `name`. -/
  name : Text
  deriving DecidableEq, Repr

/-- `parseAccept`: only the first two colons separate. -/
def parseAccept (text : Text) : Option AcceptedDongle :=
  match text.idxOf? ':' with
  | none => none
  | some first =>
    match (text.drop (first + 1)).idxOf? ':' with
    | none => none
    | some offset =>
      let second := first + 1 + offset
      let accepted : AcceptedDongle :=
        { vid := trim (text.take first)
          pid := trim ((text.drop (first + 1)).take (second - first - 1))
          name := trim (text.drop (second + 1)) }
      if accepted.vid = [] ∨ accepted.pid = [] then none else some accepted

/-- Three texts with colons between them parse to the three trimmed, unless one of the first two is
blank. -/
theorem parseAccept_fields {vid pid : Text} (hvid : ':' ∉ vid) (hpid : ':' ∉ pid) (name : Text) :
    parseAccept (vid ++ ':' :: (pid ++ ':' :: name)) =
      if trim vid = [] ∨ trim pid = [] then none else some ⟨trim vid, trim pid, trim name⟩ := by
  have hbehind : (vid ++ ':' :: (pid ++ ':' :: name)).drop (vid.length + 1) = pid ++ ':' :: name := by
    simp
  have hname : (vid ++ ':' :: (pid ++ ':' :: name)).drop (vid.length + 1 + pid.length + 1) =
      name := by
    rw [Nat.add_assoc (vid.length + 1), ← List.drop_drop, hbehind]
    simp
  have hlength : vid.length + 1 + pid.length - vid.length - 1 = pid.length := by omega
  unfold parseAccept
  rw [idxOf?_append_cons hvid]
  dsimp only
  rw [hbehind, idxOf?_append_cons hpid]
  dsimp only
  rw [hname, hlength, List.take_left, List.take_left]

/-- What is accepted has three fields, and the first two are not blank. -/
theorem parseAccept_eq_some_iff {text : Text} {accepted : AcceptedDongle} :
    parseAccept text = some accepted ↔ ∃ vid pid name, ':' ∉ vid ∧ ':' ∉ pid ∧
      text = vid ++ ':' :: (pid ++ ':' :: name) ∧ ¬ (trim vid = [] ∨ trim pid = []) ∧
      accepted = ⟨trim vid, trim pid, trim name⟩ := by
  constructor
  -- There are two colons, or nothing is accepted.
  · intro h
    have hfields : ∃ vid pid name, ':' ∉ vid ∧ ':' ∉ pid ∧
        text = vid ++ ':' :: (pid ++ ':' :: name) := by
      unfold parseAccept at h
      cases hfirst : text.idxOf? ':' with
      | none =>
        rw [hfirst] at h
        cases h
      | some first =>
        obtain ⟨vid, behind, hvid, rfl, rfl⟩ := exists_of_idxOf? hfirst
        have hbehind : (vid ++ ':' :: behind).drop (vid.length + 1) = behind := by simp
        rw [hfirst] at h
        dsimp only at h
        rw [hbehind] at h
        cases hsecond : behind.idxOf? ':' with
        | none =>
          rw [hsecond] at h
          cases h
        | some offset =>
          obtain ⟨pid, name, hpid, -, rfl⟩ := exists_of_idxOf? hsecond
          exact ⟨vid, pid, name, hvid, hpid, rfl⟩
    obtain ⟨vid, pid, name, hvid, hpid, rfl⟩ := hfields
    -- The fields between them are trimmed, and the first two must not be blank.
    rw [parseAccept_fields hvid hpid] at h
    split at h
    · cases h
    · next hblank =>
      exact ⟨vid, pid, name, hvid, hpid, rfl, hblank, (Option.some.inj h).symm⟩
  · rintro ⟨vid, pid, name, hvid, hpid, rfl, hblank, rfl⟩
    rw [parseAccept_fields hvid hpid, if_neg hblank]

/-- Every semicolon of an accepted device's value is in one of its three fields. -/
theorem count_parseAccept {text : Text} {accepted : AcceptedDongle}
    (h : parseAccept text = some accepted) :
    accepted.vid.count ';' + accepted.pid.count ';' + accepted.name.count ';' = text.count ';' := by
  have htrim (field : Text) : (trim field).count ';' = field.count ';' :=
    count_strip (by decide) (by decide) field
  obtain ⟨vid, pid, name, -, -, rfl, -, rfl⟩ := parseAccept_eq_some_iff.mp h
  simp only [htrim, List.count_append, List.count_cons_of_ne (show ':' ≠ ';' by decide)]
  omega

/-- Something before the first field or behind the last one does not make a value malformed. -/
theorem parseAccept_append {before text rest : Text} (hbefore : ':' ∉ before)
    (h : (parseAccept text).isSome) : (parseAccept (before ++ (text ++ rest))).isSome := by
  obtain ⟨accepted, haccepted⟩ := Option.isSome_iff_exists.mp h
  obtain ⟨vid, pid, name, hvid, hpid, rfl, hblank, -⟩ := parseAccept_eq_some_iff.mp haccepted
  obtain ⟨hvid', hpid'⟩ := not_or.mp hblank
  have hfields : before ++ (vid ++ ':' :: (pid ++ ':' :: name) ++ rest) =
      (before ++ vid) ++ ':' :: (pid ++ ':' :: (name ++ rest)) := by simp
  have hnot : ':' ∉ before ++ vid := by
    rw [List.mem_append]
    exact not_or.mpr ⟨hbefore, hvid⟩
  -- What comes before a field that is not blank does not make it blank.
  have hkept : ¬ trim (before ++ vid) = [] := by
    intro hnil
    have hall := (strip_eq_nil_iff fun _ => isTrailing_of_isBlank).mp hnil
    exact hvid' ((strip_eq_nil_iff fun _ => isTrailing_of_isBlank).mpr fun c hc =>
      hall c (List.mem_append_right _ hc))
  rw [hfields, parseAccept_fields hnot hpid, if_neg (not_or.mpr ⟨hkept, hpid'⟩)]
  rfl

/-- No level has a semicolon in its name. -/
theorem parseLevel_of_mem {text : Text} (h : ';' ∈ text) : parseLevel text = none := by
  have hne (name : Text) (hname : ';' ∉ name) : text ≠ name := fun heq => hname (heq ▸ h)
  unfold parseLevel
  rw [if_neg (hne _ (by decide)), if_neg (hne _ (by decide)), if_neg (hne _ (by decide)),
    if_neg (hne _ (by decide))]

/-- A text with a semicolon in it is no boolean. -/
theorem parseBool_of_mem {text : Text} (h : ';' ∈ text) : parseBool text = none := by
  have hne (name : Text) (hname : ';' ∉ name) : text ≠ name := fun heq => hname (heq ▸ h)
  unfold parseBool
  rw [if_neg, if_neg]
  · exact not_or.mpr ⟨hne _ (by decide), not_or.mpr ⟨hne _ (by decide), hne _ (by decide)⟩⟩
  · exact not_or.mpr ⟨hne _ (by decide), not_or.mpr ⟨hne _ (by decide), hne _ (by decide)⟩⟩

/-! ## Loading -/

/-- `LoggerConfig`. -/
structure LoggerConfig where
  /-- `minLevel`. -/
  minLevel : UInt8
  deriving DecidableEq, Repr

/-- `StorageConfig`. -/
structure StorageConfig where
  /-- `stateDir`. -/
  stateDir : Text := []
  deriving DecidableEq, Repr

/-- `SecurityConfig`. -/
structure SecurityConfig where
  /-- `s0KeyFile`. -/
  s0KeyFile : Text := []
  /-- `s2KeyDir`. -/
  s2KeyDir : Text := []
  deriving DecidableEq, Repr

/-- `DonglesConfig`. -/
structure DonglesConfig where
  /-- `accept`. -/
  accept : List AcceptedDongle
  deriving DecidableEq, Repr

/-- `BehaviorConfig`. -/
structure BehaviorConfig where
  /-- `autoLifeline`. -/
  autoLifeline : Bool
  deriving DecidableEq, Repr

/-- What `Config::load` publishes. -/
inductive ConfigEvent
  /-- `DaemonError`. -/
  | daemonError (severity : UInt8) (source : Text) (code : UInt8) (message : Text)
  /-- `LoggerConfig`. -/
  | logger (config : LoggerConfig)
  /-- `StorageConfig`. -/
  | storage (config : StorageConfig)
  /-- `SecurityConfig`. -/
  | security (config : SecurityConfig)
  /-- `DonglesConfig`. -/
  | dongles (config : DonglesConfig)
  /-- `BehaviorConfig`. -/
  | behavior (config : BehaviorConfig)
  deriving DecidableEq, Repr

/-- `loadLoggerSection`. -/
def loadLoggerSection (file : ParsedFile) (logger : LoggerConfig) : LoggerConfig :=
  match firstValue file "logger".toList "min_level".toList with
  | none => logger
  | some value =>
    match parseLevel value with
    | some level => { minLevel := level }
    | none => logger

/-- The logger's section sets the level to the first value of its key if that is a level, and leaves
it otherwise. -/
theorem loadLoggerSection_eq (file : ParsedFile) (logger : LoggerConfig) :
    loadLoggerSection file logger =
      { minLevel := ((firstValue file "logger".toList "min_level".toList).bind parseLevel).getD
          logger.minLevel } := by
  unfold loadLoggerSection
  cases firstValue file "logger".toList "min_level".toList with
  | none => rfl
  | some value =>
    rw [Option.bind_some]
    dsimp only
    cases parseLevel value <;> rfl

/-- `loadStorageSection`. -/
def loadStorageSection (file : ParsedFile) (storage : StorageConfig) : StorageConfig :=
  match firstValue file "storage".toList "state_dir".toList with
  | some value => { stateDir := value }
  | none => storage

/-- The storage section sets the state directory to the first value of its key, and leaves it if
there is none. -/
theorem loadStorageSection_eq (file : ParsedFile) (storage : StorageConfig) :
    loadStorageSection file storage =
      { stateDir := (firstValue file "storage".toList "state_dir".toList).getD storage.stateDir } := by
  unfold loadStorageSection
  cases firstValue file "storage".toList "state_dir".toList <;> rfl

/-- `loadSecuritySection`. -/
def loadSecuritySection (file : ParsedFile) (security : SecurityConfig) : SecurityConfig :=
  let security :=
    match firstValue file "security".toList "s0_key_file".toList with
    | some value => { security with s0KeyFile := value }
    | none => security
  match firstValue file "security".toList "s2_key_dir".toList with
  | some value => { security with s2KeyDir := value }
  | none => security

/-- The security section sets each key file to the first value of its key, and leaves it if there is
none. -/
theorem loadSecuritySection_eq (file : ParsedFile) (security : SecurityConfig) :
    loadSecuritySection file security =
      { s0KeyFile := (firstValue file "security".toList "s0_key_file".toList).getD security.s0KeyFile
        s2KeyDir := (firstValue file "security".toList "s2_key_dir".toList).getD
          security.s2KeyDir } := by
  unfold loadSecuritySection
  cases firstValue file "security".toList "s0_key_file".toList <;>
    cases firstValue file "security".toList "s2_key_dir".toList <;> rfl

/-- `loadDonglesSection`. -/
def loadDonglesSection (file : ParsedFile) (dongles : DonglesConfig) : DonglesConfig :=
  let entries := allValues file "dongles".toList "accept".toList
  if entries = [] then dongles
  else
    let parsedList := entries.filterMap parseAccept
    if parsedList ≠ [] then { accept := parsedList } else dongles

/-- The dongles' section replaces the accepted ones by those of its `accept` values that parse, and
leaves them if there are none. -/
theorem loadDonglesSection_eq (file : ParsedFile) (dongles : DonglesConfig) :
    loadDonglesSection file dongles =
      { accept :=
          if (allValues file "dongles".toList "accept".toList).filterMap parseAccept = [] then
            dongles.accept
          else (allValues file "dongles".toList "accept".toList).filterMap parseAccept } := by
  unfold loadDonglesSection
  generalize allValues file "dongles".toList "accept".toList = entries
  dsimp only
  by_cases hnil : entries = []
  · rw [if_pos hnil, hnil]
    rfl
  · rw [if_neg hnil, ite_not]
    split <;> rfl

/-- `loadBehaviorSection`. -/
def loadBehaviorSection (file : ParsedFile) (behavior : BehaviorConfig) : BehaviorConfig :=
  match firstValue file "behavior".toList "auto_lifeline".toList with
  | none => behavior
  | some value =>
    match parseBool value with
    | some flag => { autoLifeline := flag }
    | none => behavior

/-- The behaviour section sets each switch to the first value of its key if that is a boolean, and
leaves it otherwise. -/
theorem loadBehaviorSection_eq (file : ParsedFile) (behavior : BehaviorConfig) :
    loadBehaviorSection file behavior =
      { autoLifeline :=
          ((firstValue file "behavior".toList "auto_lifeline".toList).bind parseBool).getD
            behavior.autoLifeline } := by
  unfold loadBehaviorSection
  cases firstValue file "behavior".toList "auto_lifeline".toList with
  | none => rfl
  | some value =>
    rw [Option.bind_some]
    dsimp only
    cases parseBool value <;> rfl

/-- The dongle that is accepted where the file names none. -/
def defaultDongle : AcceptedDongle where
  vid := "0658".toList
  pid := "0200".toList
  name := "Aeotec Z-Stick Gen5".toList

/-- What is found at a path. -/
inductive ConfigFile
  /-- There is no file. -/
  | missing
  /-- It cannot be opened. -/
  | unreadable
  /-- It has this text. -/
  | readable (contents : Text)

/-- `resolvePath`, with the value of `ZWAVED_CONFIG` if it is set. -/
def resolvePath (env : Option Text) : Text :=
  match env with
  | some path => if path ≠ [] then path else defaultPath
  | none => defaultPath

/-- `Config::load`: what it publishes, in order. -/
def load (env : Option Text) (files : Text → ConfigFile) : List ConfigEvent :=
  let logger : LoggerConfig := { minLevel := levelInfo }
  let storage : StorageConfig := {}
  let dongles : DonglesConfig := { accept := [defaultDongle] }
  let behavior : BehaviorConfig := { autoLifeline := true }
  let security : SecurityConfig := {}
  let path := resolvePath env
  match files path with
  | .missing =>
    [.logger logger, .storage storage, .security security, .dongles dongles, .behavior behavior]
  | .unreadable =>
    -- It starts all the same, with the defaults.
    [.daemonError severityWarn "config".toList codeConfigLoadFailed
        ("failed to open config file ".toList ++ path ++ "; using defaults".toList),
      .logger logger, .storage storage, .security security, .dongles dongles, .behavior behavior]
  | .readable contents =>
    let file := parseFile contents
    [.logger (loadLoggerSection file logger), .storage (loadStorageSection file storage),
      .security (loadSecuritySection file security), .dongles (loadDonglesSection file dongles),
      .behavior (loadBehaviorSection file behavior)]

end Zwaved.Config
