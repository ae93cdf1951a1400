import DeadSymbols.Proofs.Digits
import DeadSymbols.Proofs.Utf8
import DeadSymbols.Wire.Frame

/-!
# Headers

The header of a frame consists of lines, of which the last one that gives a length counts.

* `Frame.GivesLength`: the lines that give a length, and `Frame.lengthOf_trim`: they are understood.
* `Frame.Heading`: the lines of a header, in all the ways that are admitted.
* `Frame.Heading.announces`: after such a header a body of its length is read.
-/

namespace DeadSymbols

namespace Text

/-! ## White space at the ends -/

theorem trimEndChars_append {cs spaces : List Char} (hspaces : ∀ c ∈ spaces, isSpace c = true)
    (hlast : ∀ c, cs.getLast? = some c → isSpace c = false) :
    trimEndChars (cs ++ spaces) = cs := by
  have hdrop : cs.reverse.dropWhile isSpace = cs.reverse := by
    cases hcs : cs.reverse with
    | nil => rfl
    | cons c rest =>
      have hc : cs.getLast? = some c := by rw [← List.head?_reverse, hcs]; rfl
      simp [hlast c hc]
  rw [trimEndChars, List.reverse_append, List.dropWhile_append_of_pos (by simpa using hspaces),
    hdrop, List.reverse_reverse]

/-- White space at the ends is dropped, and nothing else. -/
theorem trimChars_append {front cs spaces : List Char} (hfront : ∀ c ∈ front, isSpace c = true)
    (hspaces : ∀ c ∈ spaces, isSpace c = true)
    (hfirst : ∀ c, cs.head? = some c → isSpace c = false)
    (hlast : ∀ c, cs.getLast? = some c → isSpace c = false) :
    trimChars (front ++ (cs ++ spaces)) = cs := by
  rw [trimChars, List.dropWhile_append_of_pos hfront]
  cases cs with
  | nil =>
    have hall : (spaces ++ []).dropWhile isSpace = [] := by
      rw [List.dropWhile_append_of_pos hspaces]
      rfl
    rw [List.append_nil] at hall
    rw [List.nil_append, hall]
    rfl
  | cons c rest =>
    have hdrop : (c :: rest ++ spaces).dropWhile isSpace = c :: rest ++ spaces := by
      simp [hfirst c rfl]
    rw [hdrop, trimEndChars_append hspaces hlast]

theorem head_dropWhile {cs : List Char} {c : Char} (h : (cs.dropWhile isSpace).head? = some c) :
    isSpace c = false := by
  have hfirst := List.head?_dropWhile_not isSpace cs
  rw [h] at hfirst
  exact hfirst

/-- What stands at the ends is white space, and what is left has none there. -/
theorem exists_trim (cs : List Char) : ∃ front back, cs = front ++ (trimChars cs ++ back) ∧
    (∀ c ∈ front, isSpace c = true) ∧ (∀ c ∈ back, isSpace c = true) ∧
    (∀ c, (trimChars cs).head? = some c → isSpace c = false) ∧
    ∀ c, (trimChars cs).getLast? = some c → isSpace c = false := by
  have hrest : cs.dropWhile isSpace =
      trimChars cs ++ ((cs.dropWhile isSpace).reverse.takeWhile isSpace).reverse := by
    rw [trimChars, trimEndChars, ← List.reverse_append, List.takeWhile_append_dropWhile,
      List.reverse_reverse]
  refine ⟨cs.takeWhile isSpace, ((cs.dropWhile isSpace).reverse.takeWhile isSpace).reverse,
    ?_, ?_, ?_, ?_, ?_⟩
  · rw [← hrest, List.takeWhile_append_dropWhile]
  · exact List.all_eq_true.1 List.all_takeWhile
  · exact fun c hc => List.all_eq_true.1 List.all_takeWhile c (List.mem_reverse.1 hc)
  · intro c hc
    have hhead : (cs.dropWhile isSpace).head? = some c := by
      rw [hrest, List.head?_append, hc]
      rfl
    exact head_dropWhile hhead
  · intro c hc
    rw [trimChars, trimEndChars, List.getLast?_reverse] at hc
    exact head_dropWhile hc

/-- White space is dropped, whatever stands in front of it. -/
theorem trimChars_spaces (cs : List Char) {spaces : List Char}
    (h : ∀ c ∈ spaces, isSpace c = true) : trimChars (cs ++ spaces) = trimChars cs := by
  obtain ⟨front, back, hcs, hfront, hback, hfirst, hlast⟩ := exists_trim cs
  have hmore : ∀ c ∈ back ++ spaces, isSpace c = true :=
    fun c hc => (List.mem_append.1 hc).elim (hback c) (h c)
  have hsplit : cs ++ spaces = front ++ (trimChars cs ++ (back ++ spaces)) := by
    rw [← List.append_assoc (trimChars cs), ← List.append_assoc front, ← hcs]
  rw [hsplit, trimChars_append hfront hmore hfirst hlast]

theorem trimChars_eq_nil {cs : List Char} :
    trimChars cs = [] ↔ ∀ c ∈ cs, isSpace c = true := by
  obtain ⟨front, back, hcs, hfront, hback, -, -⟩ := exists_trim cs
  constructor
  · intro hnil
    rw [hnil, List.nil_append] at hcs
    rw [hcs]
    exact fun c hc => (List.mem_append.1 hc).elim (hfront c) (hback c)
  · intro hall
    have htrim := trimChars_spaces [] hall
    rw [List.nil_append] at htrim
    rw [htrim]
    rfl

theorem isSpace_digit {c : Char} (h : c.isDigit = true) : isSpace c = false := by
  have hrange : 48 ≤ c.toNat ∧ c.toNat ≤ 57 := by
    simpa [Char.isDigit, UInt32.le_iff_toNat_le] using h
  simp only [isSpace, Bool.or_eq_false_iff, Bool.and_eq_false_iff, decide_eq_false_iff_not,
    beq_eq_false_iff_ne]
  omega

/-! ## Numbers -/

/-- Digits of a number of 64 bits, with or without a plus sign in front. -/
def StandsFor (value : List Char) (n : Nat) : Prop :=
  ∃ sign digits : List Char, value = sign ++ digits ∧ (sign = [] ∨ sign = ['+']) ∧ digits ≠ [] ∧
    (∀ d ∈ digits, d.isDigit = true) ∧ decimalValue digits = n ∧ n ≤ maxUInt64

/-- The digits of a number up to a limit, as they are read. -/
theorem natural_digits {limit n : Nat} {digits : List Char} :
    (if digits.isEmpty || !digits.all Char.isDigit then none
      else if decimalValue digits ≤ limit then some (decimalValue digits) else none) = some n ↔
    digits ≠ [] ∧ (∀ d ∈ digits, d.isDigit = true) ∧ decimalValue digits = n ∧ n ≤ limit := by
  constructor
  · intro h
    split at h
    · cases h
    · rename_i hdigits
      split at h
      · rename_i hle
        simp only [Bool.or_eq_true, not_or, List.isEmpty_iff, Bool.not_eq_true',
          Bool.not_eq_false, List.all_eq_true] at hdigits
        have hvalue := Option.some.inj h
        exact ⟨hdigits.1, hdigits.2, hvalue, hvalue ▸ hle⟩
      · cases h
  · rintro ⟨hnil, hall, rfl, hle⟩
    have hdigits : (digits.isEmpty || !digits.all Char.isDigit) = false := by
      rw [List.all_eq_true.2 hall, List.isEmpty_eq_false_iff.2 hnil]
      rfl
    rw [hdigits, if_neg Bool.false_ne_true, if_pos hle]

/-- These are the texts that are read as numbers. -/
theorem natural_eq_some {value : List Char} {n : Nat} :
    natural? maxUInt64 (String.ofList value) = some n ↔ StandsFor value n := by
  unfold natural?
  rw [String.toList_ofList]
  split
  -- a plus sign is no digit, and so it stands in front of the digits
  · rename_i rest
    rw [natural_digits]
    constructor
    · rintro ⟨hnil, hall, hvalue, hle⟩
      exact ⟨['+'], rest, rfl, .inr rfl, hnil, hall, hvalue, hle⟩
    · rintro ⟨sign, digits, hsplit, rfl | rfl, hnil, hall, hvalue, hle⟩
      · rw [List.nil_append] at hsplit
        subst hsplit
        exact absurd (hall '+' List.mem_cons_self) (by decide)
      · cases hsplit
        exact ⟨hnil, hall, hvalue, hle⟩
  · rename_i hplus
    rw [natural_digits]
    constructor
    · rintro ⟨hnil, hall, hvalue, hle⟩
      exact ⟨[], value, rfl, .inl rfl, hnil, hall, hvalue, hle⟩
    · rintro ⟨sign, digits, hsplit, rfl | rfl, hnil, hall, hvalue, hle⟩
      · rw [List.nil_append] at hsplit
        subst hsplit
        exact ⟨hnil, hall, hvalue, hle⟩
      · exact absurd hsplit (hplus digits)

end Text

namespace Frame

/-! ## Lines that give a length -/

/-- A line gives a length: the name of the field in any letter case, a colon and a number, with
white space at the ends of both. -/
def GivesLength (line : String) (n : Nat) : Prop :=
  ∃ front name back front' value back' : List Char,
    line.toList = front ++ (name ++ back ++ ':' :: (front' ++ value) ++ back') ∧
    name.map Char.toLower = "content-length".toList ∧ Text.StandsFor value n ∧
    (∀ c ∈ front, Text.isSpace c = true) ∧ (∀ c ∈ back, Text.isSpace c = true) ∧
    (∀ c ∈ front', Text.isSpace c = true) ∧ ∀ c ∈ back', Text.isSpace c = true

/-- The name of the field has neither white space nor a colon, in whatever case it is written. -/
theorem mem_name {name : List Char} (h : name.map Char.toLower = "content-length".toList) {c : Char}
    (hc : c ∈ name) : Text.isSpace c = false ∧ (c != ':') = true := by
  have hlower : c.toLower ∈ "content-length".toList := h ▸ List.mem_map_of_mem hc
  by_cases hupper : c.toLower = c
  · rw [hupper] at hlower
    have hname : ("content-length".toList.all fun d => !Text.isSpace d && d != ':') = true := by
      decide
    simpa using List.all_eq_true.1 hname c hlower
  -- a character that has another lower case is an upper case letter
  · have hrange : 65 ≤ c.toNat ∧ c.toNat ≤ 90 := by
      unfold Char.toLower at hupper
      split at hupper
      · rename_i hletter
        exact hletter
      · exact absurd rfl hupper
    have hcolon : c ≠ ':' := by
      rintro rfl
      exact absurd hrange (by decide)
    refine ⟨?_, by simpa using hcolon⟩
    simp only [Text.isSpace, Bool.or_eq_false_iff, Bool.and_eq_false_iff,
      decide_eq_false_iff_not, beq_eq_false_iff_ne]
    omega

/-- A number has a digit, and no white space. -/
theorem mem_standsFor {value : List Char} {n : Nat} (h : Text.StandsFor value n) :
    value ≠ [] ∧ ∀ c ∈ value, Text.isSpace c = false := by
  obtain ⟨sign, digits, rfl, hsign, hnil, hall, -⟩ := h
  refine ⟨List.append_ne_nil_of_right_ne_nil sign hnil, fun c hc => ?_⟩
  rcases List.mem_append.1 hc with hc | hc
  · rcases hsign with rfl | rfl
    · exact absurd hc List.not_mem_nil
    · rw [List.mem_singleton.1 hc]
      decide
  · exact Text.isSpace_digit (hall c hc)

/-- What stands between the white space at the ends of a line that gives a length is understood. -/
theorem lengthOf_core {name back front value : List Char} {n : Nat}
    (hname : name.map Char.toLower = "content-length".toList) (hvalue : Text.StandsFor value n)
    (hback : ∀ c ∈ back, Text.isSpace c = true) (hfront : ∀ c ∈ front, Text.isSpace c = true) :
    lengthOf? (name ++ back ++ ':' :: (front ++ value)) = some n := by
  have hnone : ∀ c ∈ ([] : List Char), Text.isSpace c = true := fun c hc => absurd hc List.not_mem_nil
  -- the first colon stands after the name
  have hbefore : ∀ c ∈ name ++ back, (c != ':') = true := by
    intro c hc
    rcases List.mem_append.1 hc with hc | hc
    · exact (mem_name hname hc).2
    · have hspace := hback c hc
      simp only [bne_iff_ne, ne_eq]
      rintro rfl
      exact absurd hspace (by decide)
  have htrimName : Text.trimChars (name ++ back) = name := by
    refine Text.trimChars_append hnone hback ?_ ?_
    · exact fun c hc => (mem_name hname (List.mem_of_head? hc)).1
    · exact fun c hc => (mem_name hname (List.mem_of_getLast? hc)).1
  have htrimValue : Text.trimChars (front ++ value) = value := by
    obtain ⟨-, hspace⟩ := mem_standsFor hvalue
    have htrim := Text.trimChars_append hfront hnone
      (fun c hc => hspace c (List.mem_of_head? hc)) (fun c hc => hspace c (List.mem_of_getLast? hc))
    rwa [List.append_nil] at htrim
  unfold lengthOf?
  rw [List.dropWhile_append_of_pos hbefore, List.takeWhile_append_of_pos hbefore]
  show (if (Text.trimChars (name ++ back ++ [])).map Char.toLower == "content-length".toList then
    Text.natural? Text.maxUInt64 (String.ofList (Text.trimChars (front ++ value))) else none) = _
  rw [List.append_nil, htrimName, hname, htrimValue, if_pos (beq_self_eq_true _)]
  exact Text.natural_eq_some.2 hvalue

/-- Only what gives a length is understood so. -/
theorem givesLength_of_some {line : String} {n : Nat} (h : lengthOf? line.toList = some n) :
    GivesLength line n := by
  have hsplit := List.takeWhile_append_dropWhile (p := (· != ':')) (l := line.toList)
  unfold lengthOf? at h
  split at h
  · rename_i rest hcolon
    rw [hcolon] at hsplit
    simp only at h
    split at h
    · rename_i hname
      -- the white space is what is trimmed in front of the colon and after it
      obtain ⟨front, back, hbefore, hfront, hback, -⟩ :=
        Text.exists_trim (line.toList.takeWhile (· != ':'))
      obtain ⟨front', back', hafter, hfront', hback', -⟩ := Text.exists_trim rest
      refine ⟨front, _, back, front', _, back', ?_, beq_iff_eq.1 hname,
        Text.natural_eq_some.1 h, hfront, hback, hfront', hback'⟩
      have hparts := congr (congrArg (fun xs ys => xs ++ ':' :: ys) hbefore) hafter
      refine (hsplit.symm.trans hparts).trans ?_
      simp only [List.append_assoc, List.cons_append]
    · cases h
  · cases h

/-- **The lines that give a length** are those of which one is understood. -/
theorem lengthOf_trim {line : String} {n : Nat} :
    lengthOf? (Text.trimChars line.toList) = some n ↔ GivesLength line n := by
  constructor
  · intro h
    obtain ⟨front, back, hline, hfront, hback, -⟩ := Text.exists_trim line.toList
    rw [← String.toList_ofList (l := Text.trimChars line.toList)] at h
    obtain ⟨front₁, name, back₁, front', value, back', hcore, hname, hvalue, hfront₁, hback₁,
      hfront', hback'⟩ := givesLength_of_some h
    -- what is trimmed goes to the white space at the ends
    refine ⟨front ++ front₁, name, back₁, front', value, back' ++ back, ?_, hname, hvalue, ?_,
      hback₁, hfront', ?_⟩
    · rw [String.toList_ofList] at hcore
      rw [hcore] at hline
      rw [hline]
      simp only [List.append_assoc, List.cons_append]
    · exact fun c hc => (List.mem_append.1 hc).elim (hfront c) (hfront₁ c)
    · exact fun c hc => (List.mem_append.1 hc).elim (hback' c) (hback c)
  · rintro ⟨front, name, back, front', value, back', hline, hname, hvalue, hfront, hback, hfront',
      hback'⟩
    have hnameNil : name ≠ [] := by
      rintro rfl
      cases hname
    obtain ⟨hvalueNil, hspace⟩ := mem_standsFor hvalue
    have htrim : Text.trimChars line.toList = name ++ back ++ ':' :: (front' ++ value) := by
      rw [hline]
      refine Text.trimChars_append hfront hback' ?_ ?_
      · intro c hc
        obtain ⟨first, rest, rfl⟩ := List.exists_cons_of_ne_nil hnameNil
        cases hc
        exact (mem_name hname List.mem_cons_self).1
      · intro c hc
        have hlast : (name ++ back ++ ':' :: (front' ++ value)).getLast? = value.getLast? := by
          rw [← List.cons_append, ← List.append_assoc, List.getLast?_append,
            List.getLast?_eq_some_getLast hvalueNil]
          rfl
        rw [hlast] at hc
        exact hspace c (List.mem_of_getLast? hc)
    rw [htrim]
    exact lengthOf_core hname hvalue hback hfront'

/-! ## Lines as they are read -/

/-- A line without a line feed is read up to its end. -/
theorem readFrom_line (ended : Bool) (length : Option Nat) (done line rest : List UInt8)
    (hline : 10 ∉ line) :
    readFrom ended length done (line ++ 10 :: rest) =
      match Header.ofLine length (done.reverse ++ line ++ [10]) with
      | .more length => readFrom ended length [] rest
      | .body n => readBody ended n rest
      | .fault cause => some (.fault cause, rest) := by
  induction line generalizing done with
  | nil =>
    have hline : done.reverse ++ [] ++ [10] = (10 :: done).reverse := by simp
    rw [List.nil_append, readFrom, hline]
    exact if_pos (beq_self_eq_true 10)
  | cons b line ih =>
    have hb : b ≠ 10 := fun h => hline (h ▸ List.mem_cons_self)
    rw [List.cons_append, readFrom]
    simp only [beq_iff_eq, hb, if_false]
    rw [ih (b :: done) fun h => hline (List.mem_cons_of_mem _ h)]
    simp

/-- The bytes of a line. -/
def lineBytes (line : String) : List UInt8 := Text.encode (line ++ "\n")

/-- The same for a line that is a text. -/
theorem readFrom_text (ended : Bool) (length : Option Nat) {line : String}
    (hline : '\n' ∉ line.toList) (rest : List UInt8) :
    readFrom ended length [] (lineBytes line ++ rest) =
      match Header.ofLine length (lineBytes line) with
      | .more length => readFrom ended length [] rest
      | .body n => readBody ended n rest
      | .fault cause => some (.fault cause, rest) := by
  have hfeed : Text.encode "\n" = [10] := by decide +kernel
  rw [lineBytes, Text.encode_append, hfeed, List.append_assoc, List.singleton_append]
  exact readFrom_line ended length [] (Text.encode line) rest (Text.not_mem_encode hline)

/-- A line has nothing but white space. -/
def IsBlankLine (line : String) : Prop := ∀ c ∈ line.toList, Text.isSpace c = true

instance (line : String) : Decidable (IsBlankLine line) :=
  decidable_of_iff (line.toList.all Text.isSpace = true) List.all_eq_true

/-- Of a line and its end the same is left as of the line. -/
theorem trimChars_line (line : String) :
    Text.trimChars (line ++ "\n").toList = Text.trimChars line.toList := by
  rw [String.toList_append]
  exact Text.trimChars_spaces _ (List.all_eq_true.1 (by decide))

/-- A blank line ends a header that gave a length, and is passed over before that. -/
theorem ofLine_blank {line : String} (h : IsBlankLine line) (length : Option Nat) :
    Header.ofLine length (lineBytes line) =
      match length with
      | some n => .body n
      | none => .more none := by
  simp only [Header.ofLine, lineBytes, Text.decode_encode, trimChars_line, Text.trimChars_eq_nil.2 h]
  rfl

/-- Any other text may give a length, with or without the end of its line. -/
theorem ofLine_encode {text : String} (h : Text.trimChars text.toList ≠ []) (length : Option Nat) :
    Header.ofLine length (Text.encode text) =
      .more ((lengthOf? (Text.trimChars text.toList)).or length) := by
  have hsome : (Text.trimChars text.toList).isEmpty = false := List.isEmpty_eq_false_iff.2 h
  simp only [Header.ofLine, Text.decode_encode, hsome, Bool.false_eq_true, if_false]

/-- Any other line may give a length. -/
theorem ofLine_other {line : String} (h : ¬ IsBlankLine line) (length : Option Nat) :
    Header.ofLine length (lineBytes line) =
      .more ((lengthOf? (Text.trimChars line.toList)).or length) := by
  have hsome : Text.trimChars (line ++ "\n").toList ≠ [] := by
    rw [trimChars_line]
    exact fun hnil => h (Text.trimChars_eq_nil.1 hnil)
  rw [lineBytes, ofLine_encode hsome, trimChars_line]

/-- A line that gives a length is not blank. -/
theorem GivesLength.not_blank {line : String} {n : Nat} (h : GivesLength line n) :
    ¬ IsBlankLine line := by
  intro hblank
  have hlength := lengthOf_trim.2 h
  rw [Text.trimChars_eq_nil.2 hblank] at hlength
  cases hlength

/-- A line that gives no length. -/
theorem lengthOf_none {line : String} (h : ∀ n, ¬ GivesLength line n) :
    lengthOf? (Text.trimChars line.toList) = none :=
  Option.eq_none_iff_forall_ne_some.2 fun n hn => h n (lengthOf_trim.1 hn)

theorem givesLength_of_none {line : String}
    (h : lengthOf? (Text.trimChars line.toList) = none) (n : Nat) : ¬ GivesLength line n := by
  intro hgives
  rw [lengthOf_trim.2 hgives] at h
  cases h

/-! ## Headers -/

/-- A header after which a body of `n` bytes is read. -/
def Announces (header : List UInt8) (n : Nat) : Prop :=
  ∀ rest, readFrom false none [] (header ++ rest) = readBody false n rest

/-- The lines of a header that gives the length `n`. A line has no line feed but may end in a
carriage return, and may be any text otherwise. -/
structure Heading (n : Nat) where
  /-- Lines that give no length, with blank ones among them. -/
  first : List String
  /-- Lines that may give other lengths. -/
  earlier : List String
  /-- The last line that gives a length. -/
  given : String
  /-- Lines that give no length. -/
  later : List String
  /-- The line that ends the header. -/
  blank : String
  first_lines : ∀ line ∈ first, '\n' ∉ line.toList ∧ ∀ m, ¬ GivesLength line m
  earlier_lines : ∀ line ∈ earlier, '\n' ∉ line.toList ∧ ¬ IsBlankLine line
  given_line : '\n' ∉ given.toList ∧ GivesLength given n
  later_lines : ∀ line ∈ later,
    '\n' ∉ line.toList ∧ ¬ IsBlankLine line ∧ ∀ m, ¬ GivesLength line m
  blank_line : '\n' ∉ blank.toList ∧ IsBlankLine blank

/-- A line that is not blank is read in any header. -/
theorem readFrom_other (length : Option Nat) {line : String} (hline : '\n' ∉ line.toList)
    (hblank : ¬ IsBlankLine line) (rest : List UInt8) :
    readFrom false length [] (lineBytes line ++ rest) =
      readFrom false ((lengthOf? (Text.trimChars line.toList)).or length) [] rest := by
  rw [readFrom_text false length hline, ofLine_other hblank]

section Lines

variable {lines : List String}

/-- As long as no line gives a length, blank lines do not end the header. -/
theorem readFrom_first (h : ∀ line ∈ lines, '\n' ∉ line.toList ∧ ∀ m, ¬ GivesLength line m)
    (rest : List UInt8) :
    readFrom false none [] (lines.flatMap lineBytes ++ rest) = readFrom false none [] rest := by
  induction lines with
  | nil => rfl
  | cons line lines ih =>
    obtain ⟨⟨hline, hgives⟩, hlines⟩ := List.forall_mem_cons.1 h
    rw [List.flatMap_cons, List.append_assoc]
    by_cases hblank : IsBlankLine line
    · rw [readFrom_text false none hline, ofLine_blank hblank]
      exact ih hlines
    · rw [readFrom_other none hline hblank, lengthOf_none hgives]
      exact ih hlines

/-- Lines that are not blank do not end the header either, whatever they give. -/
theorem readFrom_earlier (h : ∀ line ∈ lines, '\n' ∉ line.toList ∧ ¬ IsBlankLine line)
    (length : Option Nat) : ∃ length', ∀ rest,
      readFrom false length [] (lines.flatMap lineBytes ++ rest) =
        readFrom false length' [] rest := by
  induction lines generalizing length with
  | nil => exact ⟨length, fun rest => rfl⟩
  | cons line lines ih =>
    obtain ⟨⟨hline, hblank⟩, hlines⟩ := List.forall_mem_cons.1 h
    obtain ⟨length', hrest⟩ := ih hlines ((lengthOf? (Text.trimChars line.toList)).or length)
    refine ⟨length', fun rest => ?_⟩
    rw [List.flatMap_cons, List.append_assoc, readFrom_other length hline hblank, hrest]

/-- Lines that give no length leave it as it is. -/
theorem readFrom_later
    (h : ∀ line ∈ lines, '\n' ∉ line.toList ∧ ¬ IsBlankLine line ∧ ∀ m, ¬ GivesLength line m)
    (length : Option Nat) (rest : List UInt8) :
    readFrom false length [] (lines.flatMap lineBytes ++ rest) =
      readFrom false length [] rest := by
  induction lines with
  | nil => rfl
  | cons line lines ih =>
    obtain ⟨⟨hline, hblank, hgives⟩, hlines⟩ := List.forall_mem_cons.1 h
    rw [List.flatMap_cons, List.append_assoc, readFrom_other length hline hblank,
      lengthOf_none hgives]
    exact ih hlines

end Lines

namespace Heading

variable {n : Nat}

/-- The bytes of a header. -/
def bytes (heading : Heading n) : List UInt8 :=
  (heading.first ++ heading.earlier ++ heading.given :: heading.later ++ [heading.blank]).flatMap
    lineBytes

/-- **After a header of any kind a body of its length is read.** -/
theorem announces (heading : Heading n) : Announces heading.bytes n := by
  intro rest
  obtain ⟨hgiven, hgives⟩ := heading.given_line
  obtain ⟨hblank, hend⟩ := heading.blank_line
  obtain ⟨length, hearlier⟩ := readFrom_earlier heading.earlier_lines none
  have hbytes : heading.bytes ++ rest = heading.first.flatMap lineBytes ++
      (heading.earlier.flatMap lineBytes ++ (lineBytes heading.given ++
        (heading.later.flatMap lineBytes ++ (lineBytes heading.blank ++ rest)))) := by
    simp [bytes]
  rw [hbytes, readFrom_first heading.first_lines, hearlier,
    readFrom_other length hgiven hgives.not_blank, lengthOf_trim.2 hgives,
    readFrom_later heading.later_lines, readFrom_text false _ hblank, ofLine_blank hend]
  rfl

/-- The header that is written. -/
def written (n : Nat) (hn : n ≤ Text.maxUInt64) : Heading n where
  first := []
  earlier := []
  given := s!"Content-Length: {n}\r"
  later := []
  blank := "\r"
  first_lines := by simp
  earlier_lines := by simp
  given_line := by
    have hline : s!"Content-Length: {n}\r" = "Content-Length: " ++ Nat.repr n ++ "\r" := rfl
    have hchars : s!"Content-Length: {n}\r".toList =
        "Content-Length: ".toList ++ (Nat.toDigits 10 n ++ ['\r']) := by
      rw [hline, String.toList_append, String.toList_append, Nat.toList_repr, List.append_assoc]
      rfl
    have hspaces : ∀ spaces : List Char, spaces.all Text.isSpace = true →
        ∀ c ∈ spaces, Text.isSpace c = true := fun _ => List.all_eq_true.1
    refine ⟨?_, [], "Content-Length".toList, [], [' '], Nat.toDigits 10 n, ['\r'], ?_, rfl,
      Text.natural_eq_some.1 (Text.natural_toDigits hn), hspaces _ rfl, hspaces _ rfl,
      hspaces _ rfl, hspaces _ rfl⟩
    · rw [hchars]
      intro h
      rcases List.mem_append.1 h with h | h
      · exact absurd h (by decide)
      · rcases List.mem_append.1 h with h | h
        · exact absurd (isDigit_toDigits h) (by decide)
        · exact absurd h (by decide)
    · rw [hchars]
      rfl
  later_lines := by simp
  blank_line := ⟨by decide, by decide⟩

theorem bytes_written (hn : n ≤ Text.maxUInt64) :
    (written n hn).bytes = Text.encode s!"Content-Length: {n}\r\n\r\n" := by
  have hline : s!"Content-Length: {n}\r\n\r\n" =
      s!"Content-Length: {n}\r" ++ "\n" ++ ("\r" ++ "\n") := by
    have htail : "\r\n\r\n" = "\r" ++ ("\n" ++ ("\r" ++ "\n")) := by decide
    show "Content-Length: " ++ Nat.repr n ++ "\r\n\r\n" =
      "Content-Length: " ++ Nat.repr n ++ "\r" ++ "\n" ++ ("\r" ++ "\n")
    generalize "Content-Length: " ++ Nat.repr n = line
    rw [htail, String.append_assoc, String.append_assoc]
  rw [hline, Text.encode_append]
  show [s!"Content-Length: {n}\r", "\r"].flatMap lineBytes = _
  simp [lineBytes]

end Heading

/-- **The header that is written announces the body.** -/
theorem announces_header {n : Nat} (hn : n ≤ Text.maxUInt64) :
    Announces (Text.encode s!"Content-Length: {n}\r\n\r\n") n := by
  rw [← Heading.bytes_written hn]
  exact (Heading.written n hn).announces

end Frame

end DeadSymbols
