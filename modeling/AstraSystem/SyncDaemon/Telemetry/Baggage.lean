import AstraSystem.Lib.Bytes
import AstraSystem.Lib.CharText
import AstraSystem.Lib.Separated

/-!
# Baggage on the mesh (`telemetry/baggage.rs`)

The baggage of a context is a header string inside a message. Metadata goes in
as it is and segments are trimmed before they are read, so a pair may be lost and
another appear; a long header is cut at a byte.
-/

namespace SyncDaemon.Telemetry

open CharText (byteLen sliceTo trim)

def maxBaggageBytes : ℕ := 4096

/-- What the iterator of a baggage gives. -/
structure Entry where
  key : List Char
  value : List Char
  metadata : List Char
  deriving DecidableEq, Repr

abbrev Pair := List Char × List Char

def Entry.pair (e : Entry) : Pair := (e.key, e.value)

def replace (c : Char) (text s : List Char) : List Char :=
  s.flatMap fun a => if a = c then text else [a]

def percentEncode (s : List Char) : List Char :=
  replace ' ' ['%', '2', '0'] <| replace '=' ['%', '3', 'D'] <| replace ';' ['%', '3', 'B'] <|
    replace ',' ['%', '2', 'C'] <| replace '%' ['%', '2', '5'] s

/-- `u8::from_str_radix(hex, 16)`; a sign may stand before the digits. -/
def u8FromHex (hex : List Char) : Option ℕ :=
  let digits := match hex with
    | '+' :: d :: ds => d :: ds
    | hex => hex
  if digits = [] then none
  else digits.foldlM (fun n c => (Bytes.hexValue c).bind fun d =>
    if 16 * n + d < 256 then some (16 * n + d) else none) 0

/-- The byte as a character, or the text again. -/
def unescape (hex : List Char) : List Char :=
  match u8FromHex hex with
  | some byte => [Char.ofNat byte]
  | none => '%' :: hex

/-- What follows a `%` is taken for two digits, or for what is left. -/
def percentDecode : List Char → List Char
  | [] => []
  | [c] => if c = '%' then unescape [] else [c]
  | [c, a] => if c = '%' then unescape [a] else c :: percentDecode [a]
  | c :: a :: b :: s => if c = '%' then unescape [a, b] ++ percentDecode s else c :: percentDecode (a :: b :: s)

/-- `char::is_whitespace`. -/
def isWhitespace (c : Char) : Bool :=
  (9 ≤ c.toNat && c.toNat ≤ 13) || (8192 ≤ c.toNat && c.toNat ≤ 8202) ||
    [32, 133, 160, 5760, 8232, 8233, 8239, 8287, 12288].contains c.toNat

def encodeEntry (e : Entry) : List Char :=
  if e.metadata ≠ [] then percentEncode e.key ++ '=' :: percentEncode e.value ++ ';' :: e.metadata
  else percentEncode e.key ++ '=' :: percentEncode e.value

/-- The header before it is cut. -/
def wire (baggage : List Entry) : List Char := [','].intercalate (baggage.map encodeEntry)

/-- Nothing if it panics. -/
def encodeBaggage (baggage : List Entry) : Option (List Char) :=
  if baggage = [] then some []
  else if byteLen (wire baggage) > maxBaggageBytes then sliceTo maxBaggageBytes (wire baggage)
  else some (wire baggage)

/-- The body of the loop. -/
def decodePair (pair : List Char) : Option Pair :=
  let pair := trim isWhitespace pair
  if pair = [] then none
  else
    let kv := match Separated.cutFirst ';' pair with
      | some (kv, _) => kv
      | none => pair
    (Separated.cutFirst '=' kv).map fun cut => (percentDecode cut.1, percentDecode cut.2)

/-- What `with_baggage` is given; nothing if the context stays as it is. -/
def decodeBaggage (wire : List Char) : Option (List Pair) :=
  if wire = [] then none else some ((wire.splitOn ',').filterMap decodePair)

/-! ## What the claims of a header are about -/

def Yields (wire : List Char) (p : Pair) : Prop := ∃ pairs ∈ decodeBaggage wire, p ∈ pairs

/-- The header is made, it yields no other pair, and every pair if it was not cut. -/
def Crosses (baggage : List Entry) : Prop :=
  ∃ sent, encodeBaggage baggage = some sent ∧
    (∀ p, Yields sent p → p ∈ baggage.map Entry.pair) ∧
    (byteLen (wire baggage) ≤ maxBaggageBytes → ∀ p ∈ baggage.map Entry.pair, Yields sent p)

/-! ## Escapes -/

/-- What a character becomes. -/
def escape (c : Char) : List Char :=
  if c = '%' then ['%', '2', '5'] else if c = ',' then ['%', '2', 'C'] else if c = ';' then ['%', '3', 'B']
  else if c = '=' then ['%', '3', 'D'] else if c = ' ' then ['%', '2', '0'] else [c]

/-- None of the replacements meets the text of one before it. -/
theorem percentEncode_eq (s : List Char) : percentEncode s = s.flatMap escape := by
  simp only [percentEncode, replace, List.flatMap_assoc]
  refine List.flatMap_congr fun c _ => ?_
  by_cases percent : c = '%'
  · subst percent
    decide
  by_cases comma : c = ','
  · subst comma
    decide
  by_cases semicolon : c = ';'
  · subst semicolon
    decide
  by_cases equals : c = '='
  · subst equals
    decide
  simp [escape, percent, comma, semicolon, equals]

/-- The characters that are escaped. -/
def special : List Char := ['%', ',', ';', '=', ' ']

theorem escape_special {c : Char} (mem : c ∈ special) :
    ∃ a b, escape c = ['%', a, b] ∧ unescape [a, b] = [c] ∧ isWhitespace b = false := by
  simp only [special, List.mem_cons, List.not_mem_nil, or_false] at mem
  rcases mem with rfl | rfl | rfl | rfl | rfl
  · exact ⟨'2', '5', by decide⟩
  · exact ⟨'2', 'C', by decide⟩
  · exact ⟨'3', 'B', by decide⟩
  · exact ⟨'3', 'D', by decide⟩
  · exact ⟨'2', '0', by decide⟩

theorem escape_plain {c : Char} (plain : c ∉ special) : escape c = [c] := by
  simp only [special, List.mem_cons, List.not_mem_nil, or_false, not_or] at plain
  obtain ⟨percent, comma, semicolon, equals, space⟩ := plain
  rw [escape, if_neg percent, if_neg comma, if_neg semicolon, if_neg equals, if_neg space]

theorem percentDecode_cons {c : Char} (plain : c ≠ '%') (s : List Char) :
    percentDecode (c :: s) = c :: percentDecode s := by
  match s with
  | [] => exact if_neg plain
  | [a] => exact if_neg plain
  | a :: b :: s => exact if_neg plain

theorem percentDecode_escape (c : Char) (s : List Char) :
    percentDecode (escape c ++ s) = c :: percentDecode s := by
  by_cases mem : c ∈ special
  · obtain ⟨a, b, escaped, unescaped, -⟩ := escape_special mem
    rw [escaped, List.cons_append, List.cons_append, List.cons_append, List.nil_append, percentDecode,
      if_pos rfl, unescaped, List.singleton_append]
  · have plain : c ≠ '%' := by
      rintro rfl
      exact mem (by decide)
    rw [escape_plain mem, List.singleton_append, percentDecode_cons plain]

/-- Escapes are undone. -/
theorem percentDecode_percentEncode (s : List Char) : percentDecode (percentEncode s) = s := by
  rw [percentEncode_eq]
  induction s with
  | nil => rfl
  | cons c s ih => rw [List.flatMap_cons, percentDecode_escape, ih]

theorem not_mem_percentEncode {c : Char} (sep : c ∈ [',', ';', '=']) (s : List Char) : c ∉ percentEncode s := by
  rw [percentEncode_eq]
  intro mem
  obtain ⟨a, -, mem⟩ := List.mem_flatMap.mp mem
  by_cases escaped : a ∈ special
  · have none : special.all fun a => [',', ';', '='].all fun c => !(escape a).contains c := by decide
    simpa [mem] using List.all_eq_true.mp (List.all_eq_true.mp none a escaped) c sep
  · rw [escape_plain escaped, List.mem_singleton] at mem
    have within : [',', ';', '='].all fun c => special.contains c := by decide
    exact escaped (mem ▸ List.contains_iff_mem.mp (List.all_eq_true.mp within c sep))

/-! ## Whitespace at the ends -/

/-- The space is escaped, so trimming leaves it. -/
def strips (c : Char) : Bool := isWhitespace c && c ≠ ' '

theorem strips_special {c : Char} (mem : c ∈ special) : strips c = false := by
  have none : special.all fun c => !strips c := by decide
  simpa using List.all_eq_true.mp none c mem

theorem strips_plain {c : Char} (plain : c ∉ special) : strips c = isWhitespace c := by
  have space : c ≠ ' ' := by
    rintro rfl
    exact plain (by decide)
  simp [strips, space]

theorem dropWhile_percentEncode (s : List Char) :
    (percentEncode s).dropWhile isWhitespace = percentEncode (s.dropWhile strips) := by
  simp only [percentEncode_eq]
  induction s with
  | nil => rfl
  | cons c s ih =>
    by_cases mem : c ∈ special
    · obtain ⟨a, b, escaped, -⟩ := escape_special mem
      rw [List.dropWhile_cons_of_neg (by simp [strips_special mem]), List.flatMap_cons, escaped]
      exact List.dropWhile_cons_of_neg (by decide)
    · rw [List.flatMap_cons, escape_plain mem, List.singleton_append, List.dropWhile_cons,
        List.dropWhile_cons, ih, strips_plain mem]
      split
      · rfl
      · rw [List.flatMap_cons, escape_plain mem, List.singleton_append]

theorem rdropWhile_percentEncode (s : List Char) :
    (percentEncode s).rdropWhile isWhitespace = percentEncode (s.rdropWhile strips) := by
  simp only [percentEncode_eq]
  induction s using List.reverseRecOn with
  | nil => rfl
  | append_singleton s c ih =>
    rw [List.flatMap_append, List.flatMap_singleton]
    by_cases mem : c ∈ special
    · obtain ⟨a, b, escaped, -, solid⟩ := escape_special mem
      have last : s.flatMap escape ++ escape c = (s.flatMap escape ++ ['%', a]) ++ [b] := by
        rw [escaped, List.append_assoc]
        rfl
      rw [List.rdropWhile_concat_neg _ _ _ (by simp [strips_special mem]), last,
        List.rdropWhile_concat_neg _ _ _ (by simp [solid]), ← last, List.flatMap_append,
        List.flatMap_singleton]
    · rw [escape_plain mem, List.rdropWhile_concat, List.rdropWhile_concat, ih, strips_plain mem]
      split
      · rfl
      · rw [List.flatMap_append, List.flatMap_singleton, escape_plain mem]

/-! ## What a text yields -/

/-- Trimmed, the segment is `key=value` up to its first semicolon. -/
def Spells (segment : List Char) (p : Pair) : Prop :=
  ∃ k v, (trim isWhitespace segment).takeWhile (· ≠ ';') = k ++ '=' :: v ∧ '=' ∉ k ∧
    p = (percentDecode k, percentDecode v)

theorem decodePair_eq_some {segment : List Char} {p : Pair} : decodePair segment = some p ↔ Spells segment p := by
  have front : (match Separated.cutFirst ';' (trim isWhitespace segment) with
      | some (kv, _) => kv
      | none => trim isWhitespace segment) = (trim isWhitespace segment).takeWhile (· ≠ ';') := by
    rw [← Separated.front_cutFirst]
    cases Separated.cutFirst ';' (trim isWhitespace segment) <;> rfl
  unfold decodePair Spells
  dsimp only
  rw [front]
  split
  · rename_i empty
    rw [empty]
    simp
  · rw [Option.map_eq_some_iff]
    constructor
    · rintro ⟨⟨k, v⟩, cut, rfl⟩
      obtain ⟨whole, none⟩ := Separated.cutFirst_eq_some.mp cut
      exact ⟨k, v, whole, none, rfl⟩
    · rintro ⟨k, v, whole, none, rfl⟩
      exact ⟨(k, v), Separated.cutFirst_eq_some.mpr ⟨whole, none⟩, rfl⟩

def readings (text : List Char) : List Pair := (text.splitOn ',').filterMap decodePair

theorem yields_iff {text : List Char} {p : Pair} : Yields text p ↔ p ∈ readings text := by
  unfold Yields decodeBaggage
  split
  · rename_i empty
    subst empty
    have none : readings [] = [] := by decide
    simp [none]
  · simp [readings]

theorem readings_intercalate {texts : List (List Char)} (ne : texts ≠ []) :
    readings ([','].intercalate texts) = texts.flatMap readings := by
  rw [readings, Separated.splitOn_intercalate ne, List.filterMap_flatMap]
  rfl

/-- A comma in the metadata starts a segment of its own. -/
def Stray (metadata : List Char) (p : Pair) : Prop := ∃ segment ∈ (metadata.splitOn ',').tail, Spells segment p

namespace Entry

/-- The pair without the whitespace at its ends; metadata shields the value. -/
def stripped (e : Entry) : Pair :=
  (e.key.dropWhile strips, if e.metadata = [] then e.value.rdropWhile strips else e.value)

/-- What an entry gives rise to. -/
def Means (e : Entry) (p : Pair) : Prop := p = e.stripped ∨ Stray e.metadata p

/-- What the front of an entry's text gives rise to: its pair, with the value cut
short or not, and pairs in the metadata up to there. -/
def Says (e : Entry) (front : List Char) (p : Pair) : Prop :=
  (∃ u, u <+: percentEncode e.value ∧ front = percentEncode e.key ++ '=' :: u ∧
    p = (e.key.dropWhile strips, percentDecode (u.rdropWhile isWhitespace))) ∨
  ∃ m, front = percentEncode e.key ++ '=' :: percentEncode e.value ++ ';' :: m ∧
    (p = (e.key.dropWhile strips, e.value) ∨ Stray m p)

end Entry

theorem not_mem_dropWhile_key {c : Char} (sep : c ∈ [',', ';', '=']) (s : List Char) :
    c ∉ (percentEncode s).dropWhile isWhitespace :=
  fun mem => not_mem_percentEncode sep s ((List.dropWhile_sublist _).mem mem)

/-- Nothing is read where the text ends within the key. -/
theorem readings_key {front s : List Char} (pre : front <+: percentEncode s) : readings front = [] := by
  have comma : ',' ∉ front := fun mem => not_mem_percentEncode (by decide) s (pre.mem mem)
  have equals : '=' ∉ front := fun mem => not_mem_percentEncode (by decide) s (pre.mem mem)
  rw [readings, List.splitOn_eq_singleton comma]
  cases decoded : decodePair front with
  | none => exact List.filterMap_cons_none decoded
  | some p =>
    obtain ⟨k, v, whole, -⟩ := decodePair_eq_some.mp decoded
    have mem : '=' ∈ (trim isWhitespace front).takeWhile (· ≠ ';') :=
      whole ▸ List.mem_append_right _ List.mem_cons_self
    exact absurd (CharText.mem_of_mem_trim ((List.takeWhile_sublist _).mem mem)) equals

/-- The key stripped and the value trimmed, where neither holds a separator. -/
theorem readings_value {s u v : List Char} (pre : u <+: percentEncode v) :
    readings (percentEncode s ++ '=' :: u) = [(s.dropWhile strips, percentDecode (u.rdropWhile isWhitespace))] := by
  have outside (c : Char) (sep : c ∈ [',', ';']) : c ∉ percentEncode s ++ '=' :: u := by
    have ne : c ≠ '=' := by
      rintro rfl
      exact absurd sep (by decide)
    have sep : c ∈ [',', ';', '='] := List.mem_append_left ['='] sep
    simp only [List.mem_append, List.mem_cons, not_or]
    exact ⟨not_mem_percentEncode sep s, ne, fun mem => not_mem_percentEncode sep v (pre.mem mem)⟩
  have solid : isWhitespace '=' = false := by decide
  have trimmed := CharText.trim_append_cons solid (percentEncode s) u
  have spells : Spells (percentEncode s ++ '=' :: u)
      (s.dropWhile strips, percentDecode (u.rdropWhile isWhitespace)) := by
    refine ⟨_, u.rdropWhile isWhitespace, ?_, not_mem_dropWhile_key (by decide) s, ?_⟩
    · rw [List.takeWhile_eq_self_iff.mpr, trimmed]
      intro c mem
      have ne : c ≠ ';' := by
        rintro rfl
        exact outside ';' (by decide) (CharText.mem_of_mem_trim mem)
      simp [ne]
    · rw [dropWhile_percentEncode, percentDecode_percentEncode]
  rw [readings, List.splitOn_eq_singleton (outside ',' (by decide))]
  exact List.filterMap_cons_some (decodePair_eq_some.mpr spells)

/-- Behind a semicolon the value is not trimmed. -/
theorem spells_metadata (s v m : List Char) :
    Spells (percentEncode s ++ '=' :: percentEncode v ++ ';' :: m) (s.dropWhile strips, v) := by
  have trimmed : trim isWhitespace (percentEncode s ++ '=' :: percentEncode v ++ ';' :: m) =
      percentEncode (s.dropWhile strips) ++ '=' :: percentEncode v ++ ';' :: m.rdropWhile isWhitespace := by
    rw [CharText.trim_append_cons (by decide), CharText.dropWhile_append_cons (by decide), dropWhile_percentEncode]
  refine ⟨percentEncode (s.dropWhile strips), percentEncode v, ?_, not_mem_percentEncode (by decide) _, ?_⟩
  · rw [trimmed, List.takeWhile_append_of_pos, List.takeWhile_cons_of_neg (by decide), List.append_nil]
    intro c mem
    have ne : c ≠ ';' := by
      rintro rfl
      simp only [List.mem_append, List.mem_cons] at mem
      obtain mem | same | mem := mem
      · exact not_mem_percentEncode (by decide) _ mem
      · exact absurd same (by decide)
      · exact not_mem_percentEncode (by decide) _ mem
    simp [ne]
  · rw [percentDecode_percentEncode, percentDecode_percentEncode]

/-- The segments behind a comma of the metadata are read. -/
theorem mem_readings_metadata {s v m : List Char} {p : Pair} :
    p ∈ readings (percentEncode s ++ '=' :: percentEncode v ++ ';' :: m) ↔
      p = (s.dropWhile strips, v) ∨ Stray m p := by
  have comma : ',' ∉ percentEncode s ++ '=' :: percentEncode v ++ [';'] := by
    have key := not_mem_percentEncode (c := ',') (by decide) s
    have value := not_mem_percentEncode (c := ',') (by decide) v
    simp [key, value]
  have segments : (percentEncode s ++ '=' :: percentEncode v ++ ';' :: m).splitOn ',' =
      (m.splitOn ',').modifyHead (percentEncode s ++ '=' :: percentEncode v ++ [';'] ++ ·) := by
    rw [← Separated.splitOn_append comma, List.append_assoc _ [';'], List.singleton_append]
  unfold readings Stray
  rw [segments, List.mem_filterMap]
  cases fields : m.splitOn ',' with
  | nil => exact absurd fields (List.splitOn_ne_nil ',' m)
  | cons first rest =>
    have own : percentEncode s ++ '=' :: percentEncode v ++ [';'] ++ first =
        percentEncode s ++ '=' :: percentEncode v ++ ';' :: first := by
      rw [List.append_assoc _ [';'], List.singleton_append]
    have front : decodePair (percentEncode s ++ '=' :: percentEncode v ++ ';' :: first) = some p ↔
        p = (s.dropWhile strips, v) := by
      rw [decodePair_eq_some.mpr (spells_metadata s v first), Option.some_inj, eq_comm]
    simp only [List.modifyHead_cons, own, List.exists_mem_cons_iff, front, List.tail_cons]
    simp only [decodePair_eq_some]

/-- What the front of an entry's text yields. -/
theorem mem_readings_iff {e : Entry} {front : List Char} (pre : front <+: encodeEntry e) {p : Pair} :
    p ∈ readings front ↔ e.Says front p := by
  constructor
  · intro mem
    have text : encodeEntry e = percentEncode e.key ++ '=' :: (percentEncode e.value ++
        if e.metadata ≠ [] then ';' :: e.metadata else []) := by
      unfold encodeEntry
      split <;> simp
    rw [text, Separated.prefix_append_iff] at pre
    obtain within | ⟨rest, rfl, equals⟩ := pre
    · rw [readings_key within] at mem
      cases mem
    obtain rfl | ⟨u, rfl, behind⟩ := List.prefix_cons_iff.mp equals
    · rw [List.append_nil, readings_key List.prefix_rfl] at mem
      cases mem
    obtain within | ⟨tail, rfl, semicolon⟩ := Separated.prefix_append_iff.mp behind
    · rw [readings_value within, List.mem_singleton] at mem
      exact .inl ⟨u, within, rfl, mem⟩
    cases tail with
    | nil =>
      rw [List.append_nil, readings_value List.prefix_rfl, List.mem_singleton] at mem
      exact .inl ⟨_, List.prefix_rfl, by rw [List.append_nil], mem⟩
    | cons c m =>
      obtain rfl : c = ';' := by
        split at semicolon
        · exact (List.cons_prefix_cons.mp semicolon).1
        · cases List.prefix_nil.mp semicolon
      refine .inr ⟨m, by rw [List.append_assoc, List.cons_append], mem_readings_metadata.mp ?_⟩
      rwa [List.append_assoc, List.cons_append]
  · rintro (⟨u, within, rfl, rfl⟩ | ⟨m, rfl, said⟩)
    · rw [readings_value within]
      exact List.mem_singleton_self _
    · exact mem_readings_metadata.mpr said

/-- What the whole text yields. -/
theorem mem_readings_encodeEntry {e : Entry} {p : Pair} : p ∈ readings (encodeEntry e) ↔ e.Means p := by
  unfold encodeEntry Entry.Means Entry.stripped
  split
  · exact mem_readings_metadata
  · rename_i none
    rw [ne_eq, not_not] at none
    have stray : ¬ Stray e.metadata p := by
      rintro ⟨segment, mem, -⟩
      rw [none] at mem
      cases mem
    rw [readings_value List.prefix_rfl, rdropWhile_percentEncode, percentDecode_percentEncode, if_pos none,
      List.mem_singleton, or_iff_left stray]

theorem mem_readings_wire {baggage : List Entry} {p : Pair} :
    p ∈ readings (wire baggage) ↔ ∃ e ∈ baggage, e.Means p := by
  cases baggage with
  | nil =>
    have none : readings (wire []) = [] := by decide
    simp [none]
  | cons e es =>
    rw [wire, readings_intercalate (by simp), List.flatMap_map, List.mem_flatMap]
    simp only [mem_readings_encodeEntry]

/-- What a cut header yields. -/
theorem mem_readings_cut {before : List Entry} {e : Entry} {front : List Char} (pre : front <+: encodeEntry e)
    {p : Pair} : p ∈ readings ([','].intercalate (before.map encodeEntry ++ [front])) ↔
      (∃ d ∈ before, d.Means p) ∨ e.Says front p := by
  rw [readings_intercalate (by simp), List.flatMap_append, List.flatMap_singleton, List.mem_append,
    mem_readings_iff pre, List.flatMap_map, List.mem_flatMap]
  simp only [mem_readings_encodeEntry]

theorem encodeBaggage_of_fits {baggage : List Entry} (fits : byteLen (wire baggage) ≤ maxBaggageBytes) :
    encodeBaggage baggage = some (wire baggage) := by
  unfold encodeBaggage
  split
  · rename_i empty
    rw [empty]
    rfl
  · rw [if_neg (Nat.not_lt_of_le fits)]

/-- A long header is whole entries and the front of one, as far as the limit goes. -/
theorem encodeBaggage_of_long {baggage : List Entry} (long : maxBaggageBytes < byteLen (wire baggage))
    {sent : List Char} : encodeBaggage baggage = some sent ↔
      ∃ before e after front, baggage = before ++ e :: after ∧ front <+: encodeEntry e ∧
        sent = [','].intercalate (before.map encodeEntry ++ [front]) ∧ byteLen sent = maxBaggageBytes := by
  have ne : baggage ≠ [] := by
    rintro rfl
    exact absurd long (by decide)
  rw [encodeBaggage, if_neg ne, if_pos long, CharText.sliceTo_eq_some, wire,
    Separated.prefix_intercalate_iff (by simpa using ne)]
  constructor
  · rintro ⟨⟨texts, text, rest, front, same, pre, rfl⟩, size⟩
    obtain ⟨before, tail, rfl, rfl, behind⟩ := List.map_eq_append_iff.mp same
    obtain ⟨e, after, rfl, rfl, rfl⟩ := List.map_eq_cons_iff.mp behind
    exact ⟨before, e, after, front, rfl, pre, rfl, size⟩
  · rintro ⟨before, e, after, front, rfl, pre, rfl, size⟩
    exact ⟨⟨_, _, _, front, by rw [List.map_append, List.map_cons], pre, rfl⟩, size⟩

/-- The limit falls between two characters of an entry's text, and what is said up
to there are pairs of the baggage. -/
def CutWell (baggage : List Entry) : Prop :=
  ∃ before e after front, baggage = before ++ e :: after ∧ front <+: encodeEntry e ∧
    byteLen ([','].intercalate (before.map encodeEntry ++ [front])) = maxBaggageBytes ∧
    (∀ d ∈ before, ∀ p, d.Means p → p ∈ baggage.map Entry.pair) ∧
    ∀ p, e.Says front p → p ∈ baggage.map Entry.pair

theorem crosses_of_fits {baggage : List Entry} (fits : byteLen (wire baggage) ≤ maxBaggageBytes) :
    Crosses baggage ↔ ∀ p, (∃ e ∈ baggage, e.Means p) ↔ p ∈ baggage.map Entry.pair := by
  simp only [Crosses, yields_iff, encodeBaggage_of_fits fits, Option.some_inj, exists_eq_left', mem_readings_wire]
  constructor
  · rintro ⟨sound, complete⟩ p
    exact ⟨sound p, complete fits p⟩
  · intro same
    exact ⟨fun p => (same p).mp, fun _ p => (same p).mpr⟩

theorem crosses_of_long {baggage : List Entry} (long : maxBaggageBytes < byteLen (wire baggage)) :
    Crosses baggage ↔ CutWell baggage := by
  simp only [Crosses, yields_iff, encodeBaggage_of_long long]
  constructor
  · rintro ⟨_, ⟨before, e, after, front, split, pre, rfl, size⟩, sound, -⟩
    simp only [mem_readings_cut pre] at sound
    exact ⟨before, e, after, front, split, pre, size, fun d mem p means => sound p (.inl ⟨d, mem, means⟩),
      fun p said => sound p (.inr said)⟩
  · rintro ⟨before, e, after, front, split, pre, size, whole, cut⟩
    refine ⟨_, ⟨before, e, after, front, split, pre, rfl, size⟩, ?_, fun fits => ?_⟩
    swap
    · exact absurd fits (Nat.not_le_of_lt long)
    intro p mem
    obtain ⟨d, within, means⟩ | said := (mem_readings_cut pre).mp mem
    · exact whole d within p means
    · exact cut p said

/-- A baggage crosses the mesh exactly when its header fits and its entries give
rise to its pairs and no other, or the header is cut well. -/
theorem crosses_iff (baggage : List Entry) : Crosses baggage ↔
    if byteLen (wire baggage) ≤ maxBaggageBytes then
      ∀ p, (∃ e ∈ baggage, e.Means p) ↔ p ∈ baggage.map Entry.pair
    else CutWell baggage := by
  split
  · rename_i fits
    exact crosses_of_fits fits
  · rename_i long
    exact crosses_of_long (Nat.lt_of_not_le long)

/-- One entry whose metadata has a pair of its own. -/
def stowaway : Entry := ⟨"lane".toList, "7".toList, "note,role=admin".toList⟩

/-- A value that ends in a tab. -/
def tabbed : Entry := ⟨"lane".toList, "7\t".toList, []⟩

/-- A header of 4097 bytes whose last character has two. -/
def accented : Entry := ⟨"k".toList, List.replicate 4093 'a' ++ ['é'], []⟩

theorem wire_accented : wire [accented] = 'k' :: '=' :: List.replicate 4093 'a' ++ 'é' :: [] := by
  have plain : escape 'a' = ['a'] ∧ escape 'é' = ['é'] := by decide
  have key : percentEncode accented.key = ['k'] := by decide
  have value : percentEncode accented.value = accented.value := by
    rw [accented, percentEncode_eq, List.flatMap_append, List.flatMap_replicate, plain.1,
      List.flatten_replicate_singleton, List.flatMap_singleton, plain.2]
  have text : encodeEntry accented = percentEncode accented.key ++ '=' :: percentEncode accented.value :=
    if_neg (not_not_intro rfl)
  rw [wire, List.map_singleton, List.intercalate_singleton, text, key, value, accented, List.singleton_append,
    List.cons_append, List.cons_append]

theorem encodeBaggage_accented : encodeBaggage [accented] = none := by
  have front : byteLen ('k' :: '=' :: List.replicate 4093 'a') = 4095 := by
    rw [CharText.byteLen_cons, CharText.byteLen_cons, CharText.byteLen_replicate]
    rfl
  have size : 'é'.utf8Size = 2 := by decide
  have long : byteLen (wire [accented]) > maxBaggageBytes := by
    rw [wire_accented, CharText.byteLen_append, front, CharText.byteLen_cons, size]
    decide
  rw [encodeBaggage, if_neg (List.cons_ne_nil _ _), if_pos long, wire_accented]
  exact CharText.sliceTo_inside (by rw [front]; decide) (by rw [front, size]; decide)

/-- A pair appears, a pair is lost, and a long header panics. -/
theorem corrupted :
    decodeBaggage (wire [stowaway]) = some [("lane".toList, "7".toList), ("role".toList, "admin".toList)] ∧
    decodeBaggage (wire [tabbed]) = some [("lane".toList, "7".toList)] ∧
    encodeBaggage [accented] = none ∧
    ¬ Crosses [stowaway] ∧ ¬ Crosses [tabbed] ∧ ¬ Crosses [accented] := by
  have appears : decodeBaggage (wire [stowaway]) =
      some [("lane".toList, "7".toList), ("role".toList, "admin".toList)] := by decide
  have lost : decodeBaggage (wire [tabbed]) = some [("lane".toList, "7".toList)] := by decide
  refine ⟨appears, lost, encodeBaggage_accented, ?_, ?_, ?_⟩
  · rintro ⟨sent, encoded, sound, -⟩
    rw [encodeBaggage_of_fits (by decide)] at encoded
    cases encoded
    have within := sound ("role".toList, "admin".toList) ⟨_, appears, by decide⟩
    exact absurd within (by decide)
  · rintro ⟨sent, encoded, -, complete⟩
    rw [encodeBaggage_of_fits (by decide)] at encoded
    cases encoded
    obtain ⟨pairs, decoded, mem⟩ := complete (by decide) tabbed.pair (by decide)
    rw [lost] at decoded
    cases decoded
    exact absurd mem (by decide)
  · rintro ⟨sent, encoded, -⟩
    rw [encodeBaggage_accented] at encoded
    cases encoded

/-- Neither whitespace at the ends nor a comma in the metadata. -/
structure Entry.Plain (e : Entry) : Prop where
  key : e.key.dropWhile strips = e.key
  value : e.value.rdropWhile strips = e.value
  metadata : ',' ∉ e.metadata

theorem Entry.Plain.means {e : Entry} (plain : e.Plain) {p : Pair} : e.Means p ↔ p = e.pair := by
  have stray : ¬ Stray e.metadata p := by
    rintro ⟨segment, mem, -⟩
    rw [List.splitOn_eq_singleton plain.metadata] at mem
    cases mem
  rw [Entry.Means, or_iff_left stray, Entry.stripped, plain.key, plain.value, ite_self, Entry.pair]

/-- A plain baggage whose header fits crosses the mesh. -/
theorem crosses_of_plain {baggage : List Entry} (fits : byteLen (wire baggage) ≤ maxBaggageBytes)
    (plain : ∀ e ∈ baggage, e.Plain) : Crosses baggage := by
  rw [crosses_of_fits fits]
  intro p
  rw [List.mem_map]
  constructor
  · rintro ⟨e, mem, means⟩
    exact ⟨e, mem, ((plain e mem).means.mp means).symm⟩
  · rintro ⟨e, mem, rfl⟩
    exact ⟨e, mem, (plain e mem).means.mpr rfl⟩

end SyncDaemon.Telemetry
