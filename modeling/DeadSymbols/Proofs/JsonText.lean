import DeadSymbols.Proofs.Digits
import DeadSymbols.Proofs.Utf8

/-!
# JSON texts are read to their values

A value has many texts: white space may stand between its parts, and a character of a string may be
written as it is or as an escape. Numbers are whole numbers of 64 bits here.

* `Json.Spells`, `Json.HasText`: the texts of a value.
* `Json.nesting`: how many containers of a value lie inside one another.
* `Json.readString_spelled`: a string is read, whatever its characters.
* `Json.parse_text`, `Json.ofBytes_text`: so is a value.
-/

namespace DeadSymbols

namespace Json

/-! ## Strings -/

/-- The texts of a character inside quotes: the character itself, an escape with a letter, or an
escape with four hexadecimal digits, two of them for a character above 16 bits. -/
inductive SpellsChar : Char → List Char → Prop
  | plain (c : Char) (hquote : c ≠ '\x22') (hslash : c ≠ '\\') (hcontrol : 0x20 ≤ c.toNat) :
    SpellsChar c [c]
  | letter (c e : Char) (he : unescape? e = some c) : SpellsChar c ['\\', e]
  | digits (n : Nat) (a b c d : Char) (hvalue : hexValue4? a b c d = some n)
    (hn : n < 0xD800 ∨ 0xE000 ≤ n) : SpellsChar (Char.ofNat n) ['\\', 'u', a, b, c, d]
  | pair (n m : Nat) (a b c d e f g h : Char) (hfirst : hexValue4? a b c d = some n)
    (hn : 0xD800 ≤ n ∧ n < 0xDC00) (hsecond : hexValue4? e f g h = some m)
    (hm : 0xDC00 ≤ m ∧ m < 0xE000) :
    SpellsChar (Char.ofNat ((n - 0xD800) * 1024 + (m - 0xDC00) + 0x10000))
      ['\\', 'u', a, b, c, d, '\\', 'u', e, f, g, h]

/-- The texts of some characters inside quotes. -/
def SpellsChars : List Char → List Char → Prop
  | [], ts => ts = []
  | c :: cs, ts => ∃ t rest, ts = t ++ rest ∧ SpellsChar c t ∧ SpellsChars cs rest

/-- The texts of a string, from the quote at the start to the quote at the end. -/
def SpellsString (s : String) (ts : List Char) : Prop :=
  ∃ inner, ts = '\x22' :: (inner ++ ['\x22']) ∧ SpellsChars s.toList inner

/-- A character is read from its texts. -/
theorem readStringFrom_char {c : Char} {t : List Char} (h : SpellsChar c t)
    (done rest : List Char) :
    readStringFrom? done (t ++ rest) = readStringFrom? (c :: done) rest := by
  cases h with
  | plain _ hquote hslash hcontrol =>
    rw [List.singleton_append, readStringFrom?.eq_def]
    split
    · rename_i heq; cases heq
    · rename_i heq; exact absurd (List.cons.inj heq).1 hquote
    · rename_i heq; exact absurd (List.cons.inj heq).1 hslash
    · rename_i heq; exact absurd (List.cons.inj heq).1 hslash
    · rename_i heq
      obtain ⟨rfl, rfl⟩ := List.cons.inj heq
      have hcontrol' : ¬ c.toNat < 0x20 := Nat.not_lt.2 hcontrol
      simp [hslash, hcontrol']
  | letter _ e he =>
    have hu : e ≠ 'u' := by
      rintro rfl
      cases he
    rw [List.cons_append, List.singleton_append, readStringFrom?.eq_def]
    split
    · rename_i heq; cases heq
    · rename_i heq; exact absurd (List.cons.inj heq).1 (by decide)
    · rename_i heq; exact absurd (List.cons.inj (List.cons.inj heq).2).1 hu
    · rename_i heq
      obtain ⟨rfl, rfl⟩ := List.cons.inj (List.cons.inj heq).2
      simp only [he]
    · rename_i hno heq
      obtain ⟨rfl, rfl⟩ := List.cons.inj heq
      exact (hno e rest rfl rfl).elim
  | digits n a b c d hvalue hn =>
    -- the four digits are no half of a pair
    have hlow : (decide (0xDC00 ≤ n) && decide (n < 0xE000)) = false := by
      rw [Bool.and_eq_false_iff, decide_eq_false_iff_not, decide_eq_false_iff_not]
      omega
    have hhigh : (decide (0xD800 ≤ n) && decide (n < 0xDC00)) = false := by
      rw [Bool.and_eq_false_iff, decide_eq_false_iff_not, decide_eq_false_iff_not]
      omega
    simp only [List.cons_append, List.nil_append]
    rw [readStringFrom?, hvalue]
    simp only [hlow, hhigh, Bool.false_eq_true, if_false]
  | pair n m a b c d e f g h hfirst hn hsecond hm =>
    have hlow : (decide (0xDC00 ≤ n) && decide (n < 0xE000)) = false := by
      rw [Bool.and_eq_false_iff, decide_eq_false_iff_not]
      omega
    have hhigh : (decide (0xD800 ≤ n) && decide (n < 0xDC00)) = true := by
      rw [Bool.and_eq_true, decide_eq_true_iff, decide_eq_true_iff]
      exact hn
    have hsecond' : (decide (0xDC00 ≤ m) && decide (m < 0xE000)) = true := by
      rw [Bool.and_eq_true, decide_eq_true_iff, decide_eq_true_iff]
      exact hm
    simp only [List.cons_append, List.nil_append]
    rw [readStringFrom?, hfirst]
    simp only [hlow, hhigh, hsecond, hsecond', Bool.false_eq_true, if_false, if_true]

theorem readStringFrom_chars {cs ts : List Char} (h : SpellsChars cs ts) (done rest : List Char) :
    readStringFrom? done (ts ++ rest) = readStringFrom? (cs.reverse ++ done) rest := by
  induction cs generalizing done ts with
  | nil =>
    cases h
    rfl
  | cons c cs ih =>
    obtain ⟨t, more, rfl, hc, hcs⟩ := h
    rw [List.append_assoc, readStringFrom_char hc, ih hcs]
    simp

/-- **A string is read** from its texts. -/
theorem readString_spelled {s : String} {ts : List Char} (h : SpellsString s ts)
    (rest : List Char) :
    ∃ inner, ts ++ rest = '\x22' :: inner ∧ readString? inner = some (s.toList, rest) := by
  obtain ⟨inner, rfl, hinner⟩ := h
  refine ⟨inner ++ '\x22' :: rest, by simp, ?_⟩
  rw [readString?, readStringFrom_chars hinner, List.append_nil, readStringFrom?,
    List.reverse_reverse]

/-! ## Texts of values -/

/-- White space between the parts of a text. -/
def AreBlank (ts : List Char) : Prop := ∀ c ∈ ts, isBlank c = true

theorem AreBlank.nil : AreBlank [] := fun _ hc => absurd hc List.not_mem_nil

mutual

/-- The texts of a value, with any white space between its parts. Numbers are whole numbers of 64
bits. -/
def Spells : Json → List Char → Prop
  | .null, ts => ts = ['n', 'u', 'l', 'l']
  | .bool true, ts => ts = ['t', 'r', 'u', 'e']
  | .bool false, ts => ts = ['f', 'a', 'l', 's', 'e']
  | .integer n, ts => FitsInteger n ∧ ts = integerChars n
  | .real _, _ => False
  | .text s, ts => SpellsString s ts
  | .array vs, ts => ∃ rest, ts = '[' :: rest ∧ SpellsElements vs rest
  | .object ms, ts => ∃ rest, ts = '\x7b' :: rest ∧ SpellsMembers ms rest
termination_by structural v => v

/-- The texts of elements and the closing bracket. -/
def SpellsElements : List Json → List Char → Prop
  | [], ts => ∃ blank, ts = blank ++ [']'] ∧ AreBlank blank
  | v :: vs, ts => ∃ before t after rest, ts = before ++ (t ++ (after ++ rest)) ∧
    AreBlank before ∧ v.Spells t ∧ AreBlank after ∧ SpellsNextElements vs rest
termination_by structural vs => vs

/-- The texts of further elements and the closing bracket. -/
def SpellsNextElements : List Json → List Char → Prop
  | [], ts => ts = [']']
  | v :: vs, ts => ∃ before t after rest, ts = ',' :: (before ++ (t ++ (after ++ rest))) ∧
    AreBlank before ∧ v.Spells t ∧ AreBlank after ∧ SpellsNextElements vs rest
termination_by structural vs => vs

/-- The texts of a member. -/
def SpellsMember : String × Json → List Char → Prop
  | (k, v), ts => ∃ key after before t, ts = key ++ (after ++ ':' :: (before ++ t)) ∧
    SpellsString k key ∧ AreBlank after ∧ AreBlank before ∧ v.Spells t
termination_by structural m => m

/-- The texts of members and the closing brace. -/
def SpellsMembers : List (String × Json) → List Char → Prop
  | [], ts => ∃ blank, ts = blank ++ ['\x7d'] ∧ AreBlank blank
  | m :: ms, ts => ∃ before t after rest, ts = before ++ (t ++ (after ++ rest)) ∧
    AreBlank before ∧ SpellsMember m t ∧ AreBlank after ∧ SpellsNextMembers ms rest
termination_by structural ms => ms

/-- The texts of further members and the closing brace. -/
def SpellsNextMembers : List (String × Json) → List Char → Prop
  | [], ts => ts = ['\x7d']
  | m :: ms, ts => ∃ before t after rest, ts = ',' :: (before ++ (t ++ (after ++ rest))) ∧
    AreBlank before ∧ SpellsMember m t ∧ AreBlank after ∧ SpellsNextMembers ms rest
termination_by structural ms => ms

end

mutual

/-- How many containers lie inside one another, at most. -/
def nesting : Json → Nat
  | .array vs => nestingElements vs + 1
  | .object ms => nestingMembers ms + 1
  | _ => 0
termination_by structural v => v

/-- The greatest nesting of some elements. -/
def nestingElements : List Json → Nat
  | [] => 0
  | v :: rest => max v.nesting (nestingElements rest)
termination_by structural vs => vs

/-- The nesting of a member. -/
def nestingMember : String × Json → Nat
  | (_, v) => v.nesting
termination_by structural m => m

/-- The greatest nesting of some members. -/
def nestingMembers : List (String × Json) → Nat
  | [] => 0
  | m :: rest => max (nestingMember m) (nestingMembers rest)
termination_by structural ms => ms

end

/-! ## Reading values -/

theorem skipBlank_append {blank : List Char} (h : AreBlank blank) (cs : List Char) :
    skipBlank (blank ++ cs) = skipBlank cs := List.dropWhile_append_of_pos h

theorem readValue_blank {blank : List Char} (h : AreBlank blank) (fuel depth : Nat)
    (cs : List Char) : readValue? fuel depth (blank ++ cs) = readValue? fuel depth cs := by
  cases fuel with
  | zero => rfl
  | succ fuel => rw [readValue?, readValue?, skipBlank_append h]

theorem readElements_blank {blank : List Char} (h : AreBlank blank) (fuel depth : Nat)
    (cs : List Char) : readElements? fuel depth (blank ++ cs) = readElements? fuel depth cs := by
  cases fuel with
  | zero => rfl
  | succ fuel => rw [readElements?, readElements?, readValue_blank h]

theorem readMembers_blank {blank : List Char} (h : AreBlank blank) (fuel depth : Nat)
    (cs : List Char) : readMembers? fuel depth (blank ++ cs) = readMembers? fuel depth cs := by
  cases fuel with
  | zero => rfl
  | succ fuel => rw [readMembers?, readMembers?, skipBlank_append h]

/-- A character with which no value and no closing bracket goes wrong: it is no white space and
closes nothing. -/
def StartsValue (cs : List Char) : Prop :=
  ∃ c rest, cs = c :: rest ∧ isBlank c = false ∧ c ≠ ']' ∧ c ≠ '\x7d'

theorem StartsValue.append {cs : List Char} (h : StartsValue cs) (rest : List Char) :
    StartsValue (cs ++ rest) := by
  obtain ⟨c, cs, rfl, hc⟩ := h
  exact ⟨c, cs ++ rest, rfl, hc⟩

theorem skipBlank_of_startsValue {cs : List Char} (h : StartsValue cs) : skipBlank cs = cs := by
  obtain ⟨c, rest, rfl, hc, -⟩ := h
  simp [skipBlank, hc]

/-- The characters with which a number starts. -/
def StartsNumber (c : Char) : Prop := c = '-' ∨ c.isDigit = true

theorem StartsNumber.ne {c d : Char} (h : StartsNumber c) (hd : d ≠ '-' ∧ d.isDigit = false) :
    c ≠ d := by
  rintro rfl
  rcases h with h | h
  · exact hd.1 h
  · rw [hd.2] at h; cases h

theorem integerChars_eq (n : Int) : ∃ c rest, integerChars n = c :: rest ∧ StartsNumber c := by
  cases n with
  | ofNat m =>
    cases hds : Nat.toDigits 10 m with
    | nil => exact absurd hds Nat.toDigits_ne_nil
    | cons d ds =>
      exact ⟨d, ds, hds, .inr (isDigit_toDigits (by rw [hds]; exact List.mem_cons_self))⟩
  | negSucc m => exact ⟨'-', _, rfl, .inl rfl⟩

theorem StartsNumber.isBlank {c : Char} (h : StartsNumber c) : Json.isBlank c = false := by
  have h1 : c ≠ ' ' := h.ne (by decide)
  have h2 : c ≠ '\n' := h.ne (by decide)
  have h3 : c ≠ '\t' := h.ne (by decide)
  have h4 : c ≠ '\r' := h.ne (by decide)
  simp [Json.isBlank, h1, h2, h3, h4]

theorem startsValue_spelled {v : Json} {ts : List Char} (h : v.Spells ts) : StartsValue ts := by
  cases v with
  | null => exact ⟨_, _, h, by decide⟩
  | bool b => cases b <;> exact ⟨_, _, h, by decide⟩
  | integer n =>
    obtain ⟨-, rfl⟩ := h
    obtain ⟨c, rest, hchars, hc⟩ := integerChars_eq n
    exact ⟨c, rest, hchars, hc.isBlank, hc.ne (by decide), hc.ne (by decide)⟩
  | real x => exact absurd h id
  | text s =>
    obtain ⟨inner, rfl, -⟩ := h
    exact ⟨_, _, rfl, by decide⟩
  | array vs =>
    obtain ⟨rest, rfl, -⟩ := h
    exact ⟨_, _, rfl, by decide⟩
  | object ms =>
    obtain ⟨rest, rfl, -⟩ := h
    exact ⟨_, _, rfl, by decide⟩

theorem startsValue_member {m : String × Json} {ts : List Char} (h : SpellsMember m ts) :
    StartsValue ts := by
  obtain ⟨k, v⟩ := m
  obtain ⟨key, after, before, t, rfl, ⟨inner, rfl, -⟩, -⟩ := h
  exact ⟨_, _, rfl, by decide⟩

theorem StartsValue.length_pos {ts : List Char} (h : StartsValue ts) : 0 < ts.length := by
  obtain ⟨c, rest, rfl, -⟩ := h
  exact Nat.succ_pos _

/-- What starts like a number is read as a number. -/
theorem readValue_number (fuel depth : Nat) {c : Char} {rest : List Char} (hc : StartsNumber c) :
    readValue? (fuel + 1) depth (c :: rest) = readNumber? (c :: rest) := by
  have hblank : skipBlank (c :: rest) = c :: rest := by simp [skipBlank, hc.isBlank]
  rw [readValue?, hblank]
  split
  · rename_i heq; exact absurd (List.cons.inj heq).1 (hc.ne (by decide))
  · rename_i heq; exact absurd (List.cons.inj heq).1 (hc.ne (by decide))
  · rename_i heq; exact absurd (List.cons.inj heq).1 (hc.ne (by decide))
  · rename_i heq; exact absurd (List.cons.inj heq).1 (hc.ne (by decide))
  · rename_i heq; exact absurd (List.cons.inj heq).1 (hc.ne (by decide))
  · rename_i heq; exact absurd (List.cons.inj heq).1 (hc.ne (by decide))
  · rfl

/-- A text in which white space is followed by something other than a closing bracket is read as
the elements of an array. -/
theorem readValue_elements (fuel depth : Nat) {blank cs : List Char} (hblank : AreBlank blank)
    (hcs : StartsValue cs) : readValue? (fuel + 1) (depth + 1) ('[' :: (blank ++ cs)) =
      (readElements? fuel depth (blank ++ cs)).map fun (vs, after) => (.array vs, after) := by
  have hskip : skipBlank (blank ++ cs) = cs := by
    rw [skipBlank_append hblank, skipBlank_of_startsValue hcs]
  obtain ⟨c, rest, rfl, -, hclose, -⟩ := hcs
  have hopen : ∀ ts, skipBlank ('[' :: ts) = '[' :: ts := fun ts => rfl
  rw [readElements_blank hblank, readValue?, hopen]
  simp only [hskip]
  split
  · rename_i heq; exact absurd (List.cons.inj heq).1 hclose
  · rfl

/-- Likewise for the members of an object. -/
theorem readValue_members (fuel depth : Nat) {blank cs : List Char} (hblank : AreBlank blank)
    (hcs : StartsValue cs) : readValue? (fuel + 1) (depth + 1) ('\x7b' :: (blank ++ cs)) =
      (readMembers? fuel depth (blank ++ cs)).map fun (ms, after) => (.object ms, after) := by
  have hskip : skipBlank (blank ++ cs) = cs := by
    rw [skipBlank_append hblank, skipBlank_of_startsValue hcs]
  obtain ⟨c, rest, rfl, -, -, hclose⟩ := hcs
  have hopen : ∀ ts, skipBlank ('\x7b' :: ts) = '\x7b' :: ts := fun ts => rfl
  rw [readMembers_blank hblank, readValue?, hopen]
  simp only [hskip]
  split
  · rename_i heq; exact absurd (List.cons.inj heq).1 hclose
  · rfl

/-- White space and what comes after it do not go on with a number. -/
theorem EndsNumber.blank {blank rest : List Char} (hblank : AreBlank blank)
    (hrest : EndsNumber rest) : EndsNumber (blank ++ rest) := by
  cases blank with
  | nil => exact hrest
  | cons c blank =>
    refine .cons ?_
    have hc := hblank c List.mem_cons_self
    simp only [isBlank, Bool.or_eq_true, beq_iff_eq] at hc
    rcases hc with ((rfl | rfl) | rfl) | rfl <;> decide

theorem endsNumber_nextElements {vs : List Json} {ts : List Char} (h : SpellsNextElements vs ts)
    (rest : List Char) : EndsNumber (ts ++ rest) := by
  cases vs with
  | nil =>
    cases h
    exact .cons (by decide)
  | cons v vs =>
    obtain ⟨before, t, after, more, rfl, -⟩ := h
    exact .cons (by decide)

theorem length_nextElements_pos {vs : List Json} {ts : List Char} (h : SpellsNextElements vs ts) :
    0 < ts.length := by
  cases vs with
  | nil =>
    cases h
    exact Nat.one_pos
  | cons v vs =>
    obtain ⟨before, t, after, more, rfl, -⟩ := h
    exact Nat.succ_pos _

theorem endsNumber_nextMembers {ms : List (String × Json)} {ts : List Char}
    (h : SpellsNextMembers ms ts) (rest : List Char) : EndsNumber (ts ++ rest) := by
  cases ms with
  | nil =>
    cases h
    exact .cons (by decide)
  | cons m ms =>
    obtain ⟨before, t, after, more, rfl, -⟩ := h
    exact .cons (by decide)

mutual

/-- A value is read from its texts, with fuel for two steps per character. -/
theorem readValue_spelled : ∀ (v : Json) (ts : List Char) (fuel depth : Nat) (rest : List Char),
    v.Spells ts → v.nesting ≤ depth → 2 * ts.length ≤ fuel + 1 → EndsNumber rest →
    readValue? (fuel + 1) depth (ts ++ rest) = some (v, rest)
  | .null, _, _, _, _, h, _, _, _ => by cases h; rfl
  | .bool true, _, _, _, _, h, _, _, _ => by cases h; rfl
  | .bool false, _, _, _, _, h, _, _, _ => by cases h; rfl
  | .integer n, ts, fuel, depth, rest, h, _, _, hrest => by
    obtain ⟨hfits, rfl⟩ := h
    obtain ⟨c, cs, hchars, hc⟩ := integerChars_eq n
    have hread := readNumber_integer hfits hrest
    rw [hchars] at hread ⊢
    rw [List.cons_append, readValue_number _ _ hc]
    exact hread
  | .real _, _, _, _, _, h, _, _, _ => absurd h id
  | .text s, ts, fuel, depth, rest, h, _, _, _ => by
    obtain ⟨inner, hinner, hread⟩ := readString_spelled h rest
    rw [hinner]
    show (readString? inner).map _ = _
    rw [hread]
    simp only [Option.map_some, String.ofList_toList]
  | .array vs, _, _, 0, _, _, hdepth, _, _ => absurd hdepth (Nat.not_succ_le_zero _)
  | .array [], ts, fuel, depth + 1, rest, h, _, _, _ => by
    obtain ⟨inner, rfl, blank, rfl, hblank⟩ := h
    have hopen : ∀ cs, skipBlank ('[' :: cs) = '[' :: cs := fun cs => rfl
    have hclose : skipBlank (']' :: rest) = ']' :: rest := rfl
    rw [List.cons_append, List.append_assoc, readValue?, hopen]
    simp only [skipBlank_append hblank, List.singleton_append, hclose]
  | .array (v :: vs), ts, fuel, depth + 1, rest, h, hdepth, hfuel, _ => by
    obtain ⟨inner, rfl, helements⟩ := h
    -- the bracket is worth two steps, one of them into the elements
    rw [List.length_cons] at hfuel
    obtain ⟨fuel, rfl⟩ : ∃ f, fuel = f + 1 := Nat.exists_eq_add_one.2 (by omega)
    have hread := readElements_spelled v vs inner fuel depth rest helements
      (Nat.le_of_succ_le_succ hdepth) (by omega)
    obtain ⟨before, t, after, more, rfl, hbefore, ht, -⟩ := helements
    rw [List.append_assoc] at hread
    rw [List.cons_append, List.append_assoc,
      readValue_elements _ _ hbefore ((startsValue_spelled ht).append _ |>.append _), hread]
    rfl
  | .object ms, _, _, 0, _, _, hdepth, _, _ => absurd hdepth (Nat.not_succ_le_zero _)
  | .object [], ts, fuel, depth + 1, rest, h, _, _, _ => by
    obtain ⟨inner, rfl, blank, rfl, hblank⟩ := h
    have hopen : ∀ cs, skipBlank ('\x7b' :: cs) = '\x7b' :: cs := fun cs => rfl
    have hclose : skipBlank ('\x7d' :: rest) = '\x7d' :: rest := rfl
    rw [List.cons_append, List.append_assoc, readValue?, hopen]
    simp only [skipBlank_append hblank, List.singleton_append, hclose]
  | .object (m :: ms), ts, fuel, depth + 1, rest, h, hdepth, hfuel, _ => by
    obtain ⟨inner, rfl, hmembers⟩ := h
    rw [List.length_cons] at hfuel
    obtain ⟨fuel, rfl⟩ : ∃ f, fuel = f + 1 := Nat.exists_eq_add_one.2 (by omega)
    have hread := readMembers_spelled m ms inner fuel depth rest hmembers
      (Nat.le_of_succ_le_succ hdepth) (by omega)
    obtain ⟨before, t, after, more, rfl, hbefore, ht, -⟩ := hmembers
    rw [List.append_assoc] at hread
    rw [List.cons_append, List.append_assoc,
      readValue_members _ _ hbefore ((startsValue_member ht).append _ |>.append _), hread]
    rfl
termination_by v => sizeOf v

/-- The elements of an array are read from their texts. -/
theorem readElements_spelled : ∀ (v : Json) (vs : List Json) (ts : List Char) (fuel depth : Nat)
    (rest : List Char), SpellsElements (v :: vs) ts → nestingElements (v :: vs) ≤ depth →
    2 * ts.length ≤ fuel + 1 →
    readElements? (fuel + 1) depth (ts ++ rest) = some (v :: vs, rest)
  | v, vs, ts, fuel, depth, rest, h, hdepth, hfuel => by
    obtain ⟨before, t, after, next, rfl, hbefore, ht, hafter, hnext⟩ := h
    have hpos := (startsValue_spelled ht).length_pos
    have hend := length_nextElements_pos hnext
    simp only [List.length_append] at hfuel
    obtain ⟨fuel, rfl⟩ : ∃ f, fuel = f + 1 := Nat.exists_eq_add_one.2 (by omega)
    -- what follows the element does not go on with a number
    have hread := readValue_spelled v t fuel depth (after ++ (next ++ rest)) ht
      (Nat.le_trans (Nat.le_max_left _ _) hdepth) (by omega)
      (.blank hafter (endsNumber_nextElements hnext rest))
    simp only [List.append_assoc]
    rw [readElements_blank hbefore, readElements?, hread]
    simp only [skipBlank_append hafter]
    cases vs with
    | nil =>
      cases hnext
      rfl
    | cons w ws =>
      obtain ⟨before', t', after', next', rfl, helements⟩ := hnext
      have hmore := readElements_spelled w ws (before' ++ (t' ++ (after' ++ next'))) fuel depth rest
        ⟨before', t', after', next', rfl, helements⟩
        (Nat.le_trans (Nat.le_max_right _ _) hdepth) (by
          simp only [List.length_append, List.length_cons] at hfuel ⊢
          omega)
      show (readElements? (fuel + 1) depth (before' ++ (t' ++ (after' ++ next')) ++ rest)).map _ = _
      rw [hmore]
      rfl
termination_by v vs => sizeOf (v :: vs)

/-- The members of an object are read from their texts. -/
theorem readMembers_spelled : ∀ (m : String × Json) (ms : List (String × Json)) (ts : List Char)
    (fuel depth : Nat) (rest : List Char), SpellsMembers (m :: ms) ts →
    nestingMembers (m :: ms) ≤ depth → 2 * ts.length ≤ fuel + 1 →
    readMembers? (fuel + 1) depth (ts ++ rest) = some (m :: ms, rest)
  | (k, v), ms, ts, fuel, depth, rest, h, hdepth, hfuel => by
    obtain ⟨before, pair, after, next, rfl, hbefore, hpair, hafter, hnext⟩ := h
    obtain ⟨key, colon, blank, t, rfl, hkey, hcolon, hblank, ht⟩ := hpair
    have hpos := (startsValue_spelled ht).length_pos
    simp only [List.length_append, List.length_cons] at hfuel
    obtain ⟨fuel, rfl⟩ : ∃ f, fuel = f + 1 := Nat.exists_eq_add_one.2 (by omega)
    have hread := readValue_spelled v t fuel depth (after ++ (next ++ rest)) ht
      (Nat.le_trans (Nat.le_max_left _ _) hdepth) (by omega)
      (.blank hafter (endsNumber_nextMembers hnext rest))
    -- the key, its colon and then the value
    obtain ⟨inner, hinner, hstring⟩ := readString_spelled hkey
      (colon ++ ':' :: (blank ++ (t ++ (after ++ (next ++ rest)))))
    have hquote : ∀ cs, skipBlank ('\x22' :: cs) = '\x22' :: cs := fun cs => rfl
    have hskip : ∀ cs, skipBlank (':' :: cs) = ':' :: cs := fun cs => rfl
    simp only [List.append_assoc, List.cons_append]
    rw [readMembers_blank hbefore, hinner, readMembers?, hquote]
    simp only [hstring, skipBlank_append hcolon, hskip, readValue_blank hblank, hread,
      skipBlank_append hafter]
    cases ms with
    | nil =>
      cases hnext
      show some ([(String.ofList k.toList, v)], rest) = some ([(k, v)], rest)
      rw [String.ofList_toList]
    | cons w ws =>
      obtain ⟨before', t', after', next', rfl, hmembers⟩ := hnext
      have hmore := readMembers_spelled w ws (before' ++ (t' ++ (after' ++ next'))) fuel depth rest
        ⟨before', t', after', next', rfl, hmembers⟩
        (Nat.le_trans (Nat.le_max_right _ _) hdepth) (by
          simp only [List.length_append, List.length_cons] at hfuel ⊢
          omega)
      show (readMembers? (fuel + 1) depth (before' ++ (t' ++ (after' ++ next')) ++ rest)).map _ = _
      rw [hmore, Option.map_some, String.ofList_toList]
termination_by m ms => sizeOf (m :: ms)

end

/-- The texts of a value, with white space around it. -/
def HasText (v : Json) (s : String) : Prop :=
  ∃ before ts after, s.toList = before ++ (ts ++ after) ∧ AreBlank before ∧ v.Spells ts ∧
    AreBlank after

/-- **A value is read from its texts** if its containers are nested no deeper than the reader
goes. -/
theorem parse_text {v : Json} {s : String} (h : v.HasText s) (hdepth : v.nesting ≤ maxDepth) :
    parse? s = some v := by
  obtain ⟨before, ts, after, hs, hbefore, hts, hafter⟩ := h
  have hend : EndsNumber after := by
    have hblank := EndsNumber.blank hafter .nil
    rwa [List.append_nil] at hblank
  have hrest : (skipBlank after).isEmpty = true := by
    have hskip := skipBlank_append hafter []
    rw [List.append_nil] at hskip
    rw [hskip]
    rfl
  have hread := readValue_spelled v ts (2 * (before ++ (ts ++ after)).length + 1) maxDepth after hts
    hdepth (by simp only [List.length_append]; omega) hend
  simp only [parse?, parseWithin?, hs, readValue_blank hbefore, hread, hrest, if_true]

/-- The same for the bytes of a text, up to the order of members. -/
theorem ofBytes_text {v : Json} {s : String} (h : v.HasText s) (hdepth : v.nesting ≤ maxDepth) :
    ofBytes? (Text.encode s) = some v.normal := by
  rw [ofBytes?, Text.decode_encode]
  simp only [parse_text h hdepth, Option.map_some]

end Json

end DeadSymbols
