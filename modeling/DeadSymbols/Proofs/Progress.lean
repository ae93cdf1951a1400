import DeadSymbols.Proofs.Truncation

/-!
# Reads make progress

However malformed a stream is, each read takes whole lines of a header, then at most one body, and
gives one item for them. So every read but those at the end takes a byte, and reads that go on, also
after faults, come to the end of the stream.

* `Frame.readLines`: a read, line by line, which looks at the length again before the body.
* `Frame.readFrom_eq_readLines`: this is the read.
* `Frame.IsHeader`: whole headers, and `Frame.Opened`: the lines of headers that go on.
* `Frame.Takes`: what a read takes off a stream for each item.
* `Frame.readLines_takes`: every read takes so much.
* `Frame.read_progresses`: what single reads take, and where repeated reads end.
-/

namespace DeadSymbols

namespace Text

/-! ## Lines as bytes -/

/-- Bytes that are a text are its bytes. -/
theorem encode_of_decode {bytes : List UInt8} {s : String} (h : decode bytes = .ok s) :
    encode s = bytes := by
  unfold decode at h
  split at h
  · rename_i found hfound
    cases h
    rw [String.fromUTF8?] at hfound
    split at hfound <;> cases hfound
    rfl
  · cases h

theorem encode_newline : encode "\n" = [10] := by decide +kernel

theorem mem_encode {s : String} (h : '\n' ∈ s.toList) : 10 ∈ encode s := by
  rw [encode_eq, List.mem_flatMap]
  exact ⟨'\n', h, by decide⟩

/-- Bytes before a line feed that are a text together with it are a text themselves. -/
theorem exists_of_decode_line {line : List UInt8} {s : String} (hline : 10 ∉ line)
    (h : decode (line ++ [10]) = .ok s) :
    ∃ text : String, s = text ++ "\n" ∧ encode text = line ∧ '\n' ∉ text.toList := by
  have hbytes := encode_of_decode h
  rw [encode_eq] at hbytes
  -- the last character has the last byte, so that it is the line feed
  obtain hnil | ⟨cs, c, hcs⟩ := List.eq_nil_or_concat s.toList
  · rw [hnil] at hbytes
    exact absurd hbytes.symm (by simp)
  · rw [List.concat_eq_append] at hcs
    rw [hcs, List.flatMap_append, List.flatMap_singleton] at hbytes
    have hten : 10 ∈ String.utf8EncodeChar c := by
      have hend := congrArg List.getLast? hbytes
      rw [List.getLast?_append, List.getLast?_concat,
        List.getLast?_eq_some_getLast String.utf8EncodeChar_ne_nil, Option.some_or] at hend
      exact Option.some.inj hend ▸ List.getLast_mem _
    have hnewline : c = '\n' := by
      rw [← Char.ofNat_toNat c, eq_of_mem_utf8EncodeChar (by decide) hten]
      rfl
    subst hnewline
    have htext : encode (String.ofList cs) = line := by
      rw [encode_eq, String.toList_ofList]
      exact (List.append_inj' hbytes rfl).1
    refine ⟨String.ofList cs, ?_, htext, fun hmem => hline (htext ▸ mem_encode hmem)⟩
    apply String.toList_inj.1
    rw [hcs, String.toList_append, String.toList_ofList]
    rfl

end Text

namespace Frame

variable {bytes line header body rest : List UInt8} {length : Option Nat} {n : Nat}

/-! ## Reads line by line -/

/-- The first line of some bytes with its line feed, and the bytes after it. The last line may have
no line feed. -/
def cutLine (bytes : List UInt8) : List UInt8 × List UInt8 :=
  match bytes.dropWhile (· != 10) with
  | [] => (bytes, [])
  | feed :: rest => (bytes.takeWhile (· != 10) ++ [feed], rest)

/-- A first line is closed by a line feed, or it is open and there is nothing after it. -/
theorem cutLine_cases (bytes : List UInt8) :
    (∃ line rest, 10 ∉ line ∧ bytes = line ++ 10 :: rest ∧ cutLine bytes = (line ++ [10], rest)) ∨
      10 ∉ bytes ∧ cutLine bytes = (bytes, []) := by
  have hbefore : 10 ∉ bytes.takeWhile (· != 10) := by
    intro hmem
    have hne := List.all_eq_true.1 List.all_takeWhile _ hmem
    exact absurd hne (by decide)
  have hsplit := List.takeWhile_append_dropWhile (p := (· != (10 : UInt8))) (l := bytes)
  cases hdrop : bytes.dropWhile (· != 10) with
  | nil =>
    rw [hdrop, List.append_nil] at hsplit
    exact .inr ⟨hsplit ▸ hbefore, by rw [cutLine, hdrop]⟩
  | cons feed rest =>
    have hfeed := List.head?_dropWhile_not (· != (10 : UInt8)) bytes
    rw [hdrop] at hfeed
    have hten : feed = 10 := by simpa using hfeed
    subst hten
    refine .inl ⟨_, rest, hbefore, ?_, by rw [cutLine, hdrop]⟩
    rw [← hdrop, hsplit]

theorem length_cutLine (h : bytes ≠ []) : (cutLine bytes).2.length < bytes.length := by
  obtain ⟨line, rest, -, rfl, hcut⟩ | ⟨-, hcut⟩ := cutLine_cases bytes
  · simp only [hcut, List.length_append, List.length_cons]
    omega
  · rw [hcut]
    exact List.length_pos_iff.2 h

theorem length_cutLine_le (bytes : List UInt8) : (cutLine bytes).2.length ≤ bytes.length := by
  by_cases h : bytes = []
  · rw [h]
    exact Nat.le_refl 0
  · exact Nat.le_of_lt (length_cutLine h)

/-- Reads a body of the length that a header gave. -/
def readCounted (length : Option Nat) (rest : List UInt8) : Item × List UInt8 :=
  match length with
  | none => (.fault (.protocol .missingLength), rest)
  | some n =>
    if maxLength < n then (.fault (.protocol (.oversized n maxLength)), rest)
    else if rest.length < n then (.fault (.io .earlyEnd), [])
    else
      match Json.ofBytes? (rest.take n) with
      | some value => (.message value, rest.drop n)
      | none => (.fault .json, rest.drop n)

/-- Reads a frame line by line from a stream that ends after the given bytes; its header so far gave
`length`. -/
def readLines (length : Option Nat) (bytes : List UInt8) : Item × List UInt8 :=
  if _h : bytes = [] then (endOfHeader length, [])
  else
    match Text.decode (cutLine bytes).1 with
    | .error place => (.fault (.io (.badUtf8 place)), (cutLine bytes).2)
    | .ok s =>
      if (Text.trimChars s.toList).isEmpty then
        if length.isSome then readCounted length (cutLine bytes).2
        else readLines length (cutLine bytes).2
      else
        readLines ((lengthOf? (Text.trimChars s.toList)).or length) (cutLine bytes).2
termination_by bytes.length
decreasing_by all_goals exact length_cutLine _h

theorem readBody_eq_readCounted (n : Nat) (rest : List UInt8) :
    readBody true n rest = some (readCounted (some n) rest) := by
  rw [readBody, readCounted]
  split
  · rfl
  · split
    · rfl
    · cases Json.ofBytes? (rest.take n) <;> rfl

/-- A line at a time, closed or open. -/
theorem readFrom_cutLine (length : Option Nat) (h : bytes ≠ []) :
    readFrom true length [] bytes =
      match Header.ofLine length (cutLine bytes).1 with
      | .more length => readFrom true length [] (cutLine bytes).2
      | .body n => readBody true n (cutLine bytes).2
      | .fault cause => some (.fault cause, (cutLine bytes).2) := by
  obtain ⟨line, rest, hline, rfl, hcut⟩ | ⟨hline, hcut⟩ := cutLine_cases bytes
  · rw [hcut, readFrom_line true length [] line rest hline]
    rfl
  · rw [hcut, readFrom_end length h hline]
    rfl

/-- **A read goes line by line**, and always comes to an item. -/
theorem readFrom_eq_readLines (length : Option Nat) (bytes : List UInt8) :
    readFrom true length [] bytes = some (readLines length bytes) := by
  fun_induction readLines length bytes with
  | case1 length => rfl
  | case2 length bytes hnil place hplace =>
    simp only [readFrom_cutLine length hnil, Header.ofLine, hplace]
  | case3 length bytes hnil s hs hblank hsome =>
    obtain ⟨n, rfl⟩ := Option.isSome_iff_exists.1 hsome
    simp only [readFrom_cutLine (some n) hnil, Header.ofLine, hs, hblank, if_true,
      readBody_eq_readCounted]
  | case4 length bytes hnil s hs hblank hnone ih =>
    obtain rfl : length = none := by simpa using hnone
    simp only [readFrom_cutLine none hnil, Header.ofLine, hs, hblank, if_true, ih]
  | case5 length bytes hnil s hs hother ih =>
    simp only [readFrom_cutLine length hnil, Header.ofLine, hs, hother, if_false, ih,
      Bool.false_eq_true]

theorem read_eq_readLines (bytes : List UInt8) : read bytes = readLines none bytes := by
  rw [read, readFrom_eq_readLines]
  rfl

/-! ## Headers of any kind -/

namespace Heading

/-- The lines of a header before the blank one. -/
def lines (heading : Heading n) : List String :=
  heading.first ++ heading.earlier ++ heading.given :: heading.later

theorem bytes_eq (heading : Heading n) :
    heading.bytes = heading.lines.flatMap lineBytes ++ lineBytes heading.blank := by
  simp [bytes, lines]

/-- The same lines with another blank line after them. -/
def endedBy (heading : Heading n) (blank : String) (h : '\n' ∉ blank.toList ∧ IsBlankLine blank) :
    Heading n :=
  { heading with blank := blank, blank_line := h }

/-- A further line may give no length. -/
theorem exists_goOn (heading : Heading n) {line : String} (hline : '\n' ∉ line.toList)
    (hother : ¬ IsBlankLine line) (hnone : ∀ m, ¬ GivesLength line m) :
    ∃ longer : Heading n, longer.lines = heading.lines ++ [line] := by
  have hlater : ∀ l ∈ heading.later ++ [line],
      '\n' ∉ l.toList ∧ ¬ IsBlankLine l ∧ ∀ m, ¬ GivesLength l m :=
    List.forall_mem_append.2
      ⟨heading.later_lines, List.forall_mem_singleton.2 ⟨hline, hother, hnone⟩⟩
  refine ⟨{ heading with later := heading.later ++ [line], later_lines := hlater }, ?_⟩
  simp [lines]

/-- A further line may give another length. -/
theorem exists_giveAgain (heading : Heading n) {m : Nat} {line : String}
    (hline : '\n' ∉ line.toList) (hgives : GivesLength line m) :
    ∃ longer : Heading m, longer.lines = heading.lines ++ [line] := by
  have hearlier : ∀ l ∈ heading.earlier ++ heading.given :: heading.later,
      '\n' ∉ l.toList ∧ ¬ IsBlankLine l := by
    refine List.forall_mem_append.2 ⟨heading.earlier_lines, List.forall_mem_cons.2 ⟨?_, ?_⟩⟩
    · exact ⟨heading.given_line.1, heading.given_line.2.not_blank⟩
    · intro l hl
      exact ⟨(heading.later_lines l hl).1, (heading.later_lines l hl).2.1⟩
  refine ⟨{ heading with
    earlier := heading.earlier ++ heading.given :: heading.later
    given := line
    later := []
    earlier_lines := hearlier
    given_line := ⟨hline, hgives⟩
    later_lines := nofun }, ?_⟩
  simp [lines]

/-- The first line that gives a length may come after any lines that give none. -/
theorem exists_give {first : List String}
    (hfirst : ∀ line ∈ first, '\n' ∉ line.toList ∧ ∀ m, ¬ GivesLength line m)
    {line : String} (hline : '\n' ∉ line.toList) (hgives : GivesLength line n) :
    ∃ heading : Heading n, heading.lines = first ++ [line] := by
  refine ⟨{
    first := first
    earlier := []
    given := line
    later := []
    blank := ""
    first_lines := hfirst
    earlier_lines := nofun
    given_line := ⟨hline, hgives⟩
    later_lines := nofun
    blank_line := ⟨by decide, by decide⟩ }, ?_⟩
  simp [lines]

end Heading

/-- A header that gives the length `n`, up to the end of its blank line; `rest` follows it. If the
stream ends there, the blank line may have no line feed. -/
def IsHeader (header : List UInt8) (n : Nat) (rest : List UInt8) : Prop :=
  ∃ heading : Heading n, header = heading.bytes ∨
    rest = [] ∧ heading.blank ≠ "" ∧ header ++ [10] = heading.bytes

/-- Whole lines of a header that goes on, in which the length so far is `length`. -/
def Opened (length : Option Nat) (header : List UInt8) : Prop :=
  match length with
  | none => ∃ lines : List String, header = lines.flatMap lineBytes ∧
    ∀ line ∈ lines, '\n' ∉ line.toList ∧ ∀ m, ¬ GivesLength line m
  | some n => ∃ heading : Heading n, header = heading.lines.flatMap lineBytes

theorem opened_nil : Opened none [] := ⟨[], rfl, nofun⟩

/-- **A line leaves a header open** unless it is blank and a length is known. If it gives a length,
that one counts. -/
theorem Opened.goOn (h : Opened length header) {line : String} (hline : '\n' ∉ line.toList)
    (hblank : IsBlankLine line → length = none) :
    Opened ((lengthOf? (Text.trimChars line.toList)).or length) (header ++ lineBytes line) := by
  cases hgiven : lengthOf? (Text.trimChars line.toList) with
  | none =>
    have hnone := givesLength_of_none hgiven
    cases length with
    | none =>
      obtain ⟨lines, rfl, hlines⟩ := h
      refine ⟨lines ++ [line], by simp, List.forall_mem_append.2 ⟨hlines, ?_⟩⟩
      exact List.forall_mem_singleton.2 ⟨hline, hnone⟩
    | some n =>
      obtain ⟨heading, rfl⟩ := h
      have hother : ¬ IsBlankLine line := fun hempty => nomatch hblank hempty
      obtain ⟨longer, hlonger⟩ := heading.exists_goOn hline hother hnone
      exact ⟨longer, by simp [hlonger]⟩
  | some m =>
    have hgives := lengthOf_trim.1 hgiven
    cases length with
    | none =>
      obtain ⟨lines, rfl, hlines⟩ := h
      obtain ⟨heading, hheading⟩ := Heading.exists_give hlines hline hgives
      exact ⟨heading, by simp [hheading]⟩
    | some n =>
      obtain ⟨heading, rfl⟩ := h
      obtain ⟨longer, hlonger⟩ := heading.exists_giveAgain hline hgives
      exact ⟨longer, by simp [hlonger]⟩

/-- **A blank line ends a header that gave a length.** -/
theorem Opened.ended (h : Opened (some n) header) {blank : String} (hline : '\n' ∉ blank.toList)
    (hblank : IsBlankLine blank) (rest : List UInt8) :
    IsHeader (header ++ lineBytes blank) n rest := by
  obtain ⟨heading, rfl⟩ := h
  let whole := heading.endedBy blank ⟨hline, hblank⟩
  exact ⟨whole, .inl whole.bytes_eq.symm⟩

/-- So does one without a line feed, at the end of the stream. -/
theorem Opened.cut (h : Opened (some n) header) {blank : String} (hline : '\n' ∉ blank.toList)
    (hblank : IsBlankLine blank) (hsome : blank ≠ "") :
    IsHeader (header ++ Text.encode blank) n [] := by
  obtain ⟨heading, rfl⟩ := h
  refine ⟨heading.endedBy blank ⟨hline, hblank⟩, .inr ⟨rfl, hsome, ?_⟩⟩
  rw [Heading.bytes_eq, List.append_assoc, ← Text.encode_newline, ← Text.encode_append]
  rfl

/-! ## What a read takes -/

/-- What a read gives that takes the lines of `header` and the bytes of `body` off a stream and
leaves `rest`. -/
inductive Takes : (header body rest : List UInt8) → Item → Prop
  /-- The stream ended, and no line gave a length. The last line may have no line feed. -/
  | finish (lines : List String) (last : String)
    (h : ∀ line ∈ lines ++ [last], '\n' ∉ line.toList ∧ ∀ m, ¬ GivesLength line m) :
    Takes (lines.flatMap lineBytes ++ Text.encode last) [] [] .finish
  /-- The stream ended in a header that gave a length. -/
  | closed (header : List UInt8) : Takes header [] [] (.fault .closed)
  /-- The last line of the header is no text. -/
  | garbled (header rest : List UInt8) (place : Text.Utf8Fault) :
    Takes header [] rest (.fault (.io (.badUtf8 place)))
  /-- The header gives a length above the limit. -/
  | oversized (header rest : List UInt8) (n : Nat) (hheader : IsHeader header n rest)
    (hn : maxLength < n) : Takes header [] rest (.fault (.protocol (.oversized n maxLength)))
  /-- The stream ended in the body. -/
  | short (header body : List UInt8) (n : Nat) (hheader : IsHeader header n body)
    (hn : n ≤ maxLength) (hbody : body.length < n) : Takes header body [] (.fault (.io .earlyEnd))
  /-- The body is no JSON text. -/
  | unread (header body rest : List UInt8) (hheader : IsHeader header body.length (body ++ rest))
    (hn : body.length ≤ maxLength) (hbody : Json.ofBytes? body = none) :
    Takes header body rest (.fault .json)
  | message (header body rest : List UInt8) (value : Json)
    (hheader : IsHeader header body.length (body ++ rest)) (hn : body.length ≤ maxLength)
    (hbody : Json.ofBytes? body = some value) : Takes header body rest (.message value)

/-- No read takes more of a body than the limit. -/
theorem Takes.length_le {item : Item} (h : Takes header body rest item) :
    body.length ≤ maxLength := by
  cases h with
  | short _ _ n _ hn hbody => exact Nat.le_of_lt (Nat.lt_of_lt_of_le hbody hn)
  | unread _ _ _ _ hn => exact hn
  | message _ _ _ _ _ hn => exact hn
  | _ => exact Nat.zero_le _

/-- The end of the stream before any length, in a line that may be open. -/
theorem Opened.finished (h : Opened none header) {last : String} (hline : '\n' ∉ last.toList)
    (hnone : ∀ m, ¬ GivesLength last m) : Takes (header ++ Text.encode last) [] [] .finish := by
  obtain ⟨lines, rfl, hlines⟩ := h
  exact .finish lines last
    (List.forall_mem_append.2 ⟨hlines, List.forall_mem_singleton.2 ⟨hline, hnone⟩⟩)

/-- What is taken after a header. -/
theorem readCounted_takes (h : IsHeader header n rest) :
    ∃ body left item, readCounted (some n) rest = (item, left) ∧ rest = body ++ left ∧
      Takes header body left item := by
  rw [readCounted]
  split
  · rename_i hlong
    exact ⟨[], rest, _, rfl, rfl, .oversized header rest n h hlong⟩
  · rename_i hlong
    split
    · rename_i hshort
      exact ⟨rest, [], _, rfl, (List.append_nil rest).symm,
        .short header rest n h (Nat.not_lt.1 hlong) hshort⟩
    · rename_i henough
      have hlength : (rest.take n).length = n := List.length_take_of_le (Nat.not_lt.1 henough)
      have hsplit : rest = rest.take n ++ rest.drop n := (List.take_append_drop n rest).symm
      have hn : (rest.take n).length ≤ maxLength := by rw [hlength]; exact Nat.not_lt.1 hlong
      have hheader : IsHeader header (rest.take n).length (rest.take n ++ rest.drop n) := by
        rwa [hlength, ← hsplit]
      cases hbody : Json.ofBytes? (rest.take n) with
      | none => exact ⟨_, _, _, rfl, hsplit, .unread _ _ _ hheader hn hbody⟩
      | some value => exact ⟨_, _, _, rfl, hsplit, .message _ _ _ _ hheader hn hbody⟩

theorem cutLine_append (bytes : List UInt8) : (cutLine bytes).1 ++ (cutLine bytes).2 = bytes := by
  obtain ⟨line, rest, -, rfl, hcut⟩ | ⟨-, hcut⟩ := cutLine_cases bytes
  · rw [hcut, List.append_assoc]
    rfl
  · rw [hcut, List.append_nil]

/-- A first line that is a text, whole or open. -/
theorem cutLine_text {s : String} (hnil : bytes ≠ []) (hs : Text.decode (cutLine bytes).1 = .ok s) :
    ∃ line : String, '\n' ∉ line.toList ∧ Text.trimChars s.toList = Text.trimChars line.toList ∧
      ((cutLine bytes).1 = lineBytes line ∨
        (cutLine bytes).1 = Text.encode line ∧ line ≠ "" ∧ (cutLine bytes).2 = []) := by
  obtain ⟨line, rest, hline, rfl, hcut⟩ | ⟨hline, hcut⟩ := cutLine_cases bytes
  · rw [hcut] at hs ⊢
    obtain ⟨text, rfl, rfl, htext⟩ := Text.exists_of_decode_line hline hs
    refine ⟨text, htext, trimChars_line text, .inl ?_⟩
    rw [lineBytes, Text.encode_append, Text.encode_newline]
  · rw [hcut] at hs ⊢
    have hbytes : Text.encode s = bytes := Text.encode_of_decode hs
    refine ⟨s, fun hmem => hline ?_, rfl, .inr ⟨hbytes.symm, ?_, rfl⟩⟩
    · exact hbytes ▸ Text.mem_encode hmem
    · rintro rfl
      exact hnil hbytes.symm

/-- The end of the stream in a line of a header. -/
theorem takes_openLine (h : Opened length header) {line : String} (hline : '\n' ∉ line.toList) :
    Takes (header ++ Text.encode line) [] []
      (endOfHeader ((lengthOf? (Text.trimChars line.toList)).or length)) := by
  cases hgiven : lengthOf? (Text.trimChars line.toList) with
  | some m => exact .closed _
  | none =>
    cases length with
    | none => exact h.finished hline (givesLength_of_none hgiven)
    | some n => exact .closed _

/-- What a read of some bytes takes, in a header of which the lines in `header` have come. -/
def TakesFrom (header : List UInt8) (length : Option Nat) (bytes : List UInt8) : Prop :=
  ∃ more body rest item, readLines length bytes = (item, rest) ∧ bytes = more ++ (body ++ rest) ∧
    Takes (header ++ more) body rest item

/-- A line that leaves the header open goes to the header, and one without a line feed is the
last. -/
theorem TakesFrom.goOn (h : Opened length header) {line : String} (hline : '\n' ∉ line.toList)
    (hblank : IsBlankLine line → length = none)
    (hcut : (cutLine bytes).1 = lineBytes line ∨
      (cutLine bytes).1 = Text.encode line ∧ line ≠ "" ∧ (cutLine bytes).2 = [])
    (hrest : ∀ {header}, Opened ((lengthOf? (Text.trimChars line.toList)).or length) header →
      TakesFrom header ((lengthOf? (Text.trimChars line.toList)).or length) (cutLine bytes).2) :
    ∃ more body rest item,
      readLines ((lengthOf? (Text.trimChars line.toList)).or length) (cutLine bytes).2 =
        (item, rest) ∧ bytes = more ++ (body ++ rest) ∧ Takes (header ++ more) body rest item := by
  rcases hcut with hcut | ⟨hcut, -, hend⟩
  · obtain ⟨more, body, rest, item, hread, hsplit, htakes⟩ := hrest (h.goOn hline hblank)
    refine ⟨(cutLine bytes).1 ++ more, body, rest, item, hread, ?_, ?_⟩
    · rw [List.append_assoc, ← hsplit, cutLine_append]
    · rwa [hcut, ← List.append_assoc]
  · refine ⟨(cutLine bytes).1, [], [], _, ?_, ?_, hcut ▸ takes_openLine h hline⟩
    · rw [hend, readLines, dif_pos rfl]
    · rw [List.append_nil, ← hend, cutLine_append]

/-- **What a read takes** in a header that goes on. The induction is on the lines. -/
theorem readLines_takes (length : Option Nat) (bytes : List UInt8) :
    ∀ {header}, Opened length header → TakesFrom header length bytes := by
  unfold TakesFrom
  fun_induction readLines length bytes with
  | case1 length =>
    intro header h
    have hempty : '\n' ∉ "".toList := by decide
    exact ⟨[], [], [], _, rfl, rfl, takes_openLine h hempty⟩
  | case2 length bytes hnil place hplace =>
    intro header h
    exact ⟨(cutLine bytes).1, [], _, _, rfl, (cutLine_append bytes).symm, .garbled _ _ place⟩
  | case3 length bytes hnil s hs hblank hsome =>
    intro header h
    obtain ⟨n, rfl⟩ := Option.isSome_iff_exists.1 hsome
    obtain ⟨line, hline, htrim, hcut⟩ := cutLine_text hnil hs
    have hempty : IsBlankLine line := Text.trimChars_eq_nil.1 (htrim ▸ List.isEmpty_iff.1 hblank)
    have hheader : IsHeader (header ++ (cutLine bytes).1) n (cutLine bytes).2 := by
      rcases hcut with hcut | ⟨hcut, hsome, hrest⟩
      · rw [hcut]
        exact h.ended hline hempty _
      · rw [hcut, hrest]
        exact h.cut hline hempty hsome
    obtain ⟨body, rest, item, hread, hsplit, htakes⟩ := readCounted_takes hheader
    refine ⟨(cutLine bytes).1, body, rest, item, hread, ?_, htakes⟩
    rw [← hsplit, cutLine_append]
  | case4 length bytes hnil s hs hblank hnone ih =>
    intro header h
    obtain rfl : length = none := by simpa using hnone
    obtain ⟨line, hline, htrim, hcut⟩ := cutLine_text hnil hs
    have hempty : Text.trimChars line.toList = [] := htrim ▸ List.isEmpty_iff.1 hblank
    have hgoes := TakesFrom.goOn h hline (fun _ => rfl) hcut
    rw [hempty] at hgoes
    exact hgoes ih
  | case5 length bytes hnil s hs hother ih =>
    intro header h
    obtain ⟨line, hline, htrim, hcut⟩ := cutLine_text hnil hs
    have hempty : ¬ IsBlankLine line := fun hempty =>
      hother (List.isEmpty_iff.2 (htrim.trans (Text.trimChars_eq_nil.2 hempty)))
    rw [htrim] at ih ⊢
    exact TakesFrom.goOn h hline (fun hblank => absurd hblank hempty) hcut ih

/-! ## Progress -/

/-- A read takes the first line at least. -/
theorem length_readLines (length : Option Nat) (bytes : List UInt8) :
    (readLines length bytes).2.length ≤ (cutLine bytes).2.length := by
  fun_induction readLines length bytes with
  | case1 length => exact Nat.zero_le _
  | case2 length bytes hnil place hplace => exact Nat.le_refl _
  | case3 length bytes hnil s hs hblank hsome =>
    obtain ⟨n, rfl⟩ := Option.isSome_iff_exists.1 hsome
    rw [readCounted]
    split
    · exact Nat.le_refl _
    · split
      · exact Nat.zero_le _
      · split <;> exact (List.drop_sublist n _).length_le
  | case4 length bytes hnil s hs hblank hnone ih => exact Nat.le_trans ih (length_cutLine_le _)
  | case5 length bytes hnil s hs hother ih => exact Nat.le_trans ih (length_cutLine_le _)

/-- What one read takes off a stream that ends after the given bytes. -/
structure ReadTakes (bytes header body rest : List UInt8) (item : Item) : Prop where
  read : read bytes = (item, rest)
  /-- The read comes to an item, and so it does if it looks at the length again. -/
  total : readFrom true none [] bytes = some (item, rest)
  checked : readLines none bytes = (item, rest)
  split : bytes = header ++ (body ++ rest)
  takes : Takes header body rest item
  limited : body.length ≤ maxLength
  /-- Only a stream without bytes gives none to a read. -/
  progress : bytes = [] ∧ item = .finish ∨ rest.length < bytes.length
  finished : item = .finish → rest = []
  counted : item ≠ .fault (.protocol .missingLength)

theorem exists_readTakes (bytes : List UInt8) :
    ∃ header body rest item, ReadTakes bytes header body rest item := by
  obtain ⟨header, body, rest, item, hread, hsplit, htakes⟩ := readLines_takes none bytes opened_nil
  refine ⟨header, body, rest, item, ?_⟩
  rw [List.nil_append] at htakes
  have hprogress : bytes = [] ∧ item = .finish ∨ rest.length < bytes.length := by
    by_cases hnil : bytes = []
    · subst hnil
      rw [readLines, dif_pos rfl] at hread
      exact .inl ⟨rfl, (Prod.mk.inj hread).1.symm⟩
    · have hlength := length_readLines none bytes
      rw [hread] at hlength
      exact .inr (Nat.lt_of_le_of_lt hlength (length_cutLine hnil))
  have htotal := readFrom_eq_readLines none bytes
  rw [hread] at htotal
  exact
    { read := (read_eq_readLines bytes).trans hread
      total := htotal
      checked := hread
      split := hsplit
      takes := htakes
      limited := htakes.length_le
      progress := hprogress
      finished := by
        rintro rfl
        cases htakes
        rfl
      counted := by
        rintro rfl
        cases htakes }

theorem readMany_succ {item : Item} (h : read bytes = (item, rest)) (reads : Nat) :
    readMany (reads + 1) bytes = item :: readMany reads rest := by
  rw [readMany, h]

theorem restMany_nil (reads : Nat) : restMany reads [] = [] := by
  induction reads with
  | zero => rfl
  | succ reads ih => exact ih

/-- Repeated reads come to the end of a stream and stay there. The induction is on its bytes, of
which every read before the end takes one. -/
theorem exists_readMany (bytes : List UInt8) :
    ∃ items : List Item, items.length ≤ bytes.length ∧ (∀ item ∈ items, item ≠ .finish) ∧
      ∀ reads, readMany (items.length + reads) bytes = items ++ List.replicate reads .finish ∧
        restMany (items.length + (reads + 1)) bytes = [] := by
  induction hlength : bytes.length using Nat.strongRecOn generalizing bytes with
  | ind size ih =>
    subst hlength
    obtain ⟨header, body, rest, item, h⟩ := exists_readTakes bytes
    by_cases hitem : item = .finish
    · obtain rfl := h.finished hitem
      subst hitem
      refine ⟨[], Nat.zero_le _, nofun, fun reads => ?_⟩
      rw [List.length_nil, Nat.zero_add, Nat.zero_add, restMany, h.read]
      refine ⟨?_, restMany_nil reads⟩
      cases reads with
      | zero => rfl
      | succ reads => rw [readMany_succ h.read, readMany_nil, List.replicate_succ, List.nil_append]
    · have hless : rest.length < bytes.length := h.progress.resolve_left fun hend => hitem hend.2
      obtain ⟨items, hitems, hothers, hreads⟩ := ih rest.length hless rest rfl
      refine ⟨item :: items, Nat.lt_of_le_of_lt hitems hless,
        List.forall_mem_cons.2 ⟨hitem, hothers⟩, fun reads => ?_⟩
      obtain ⟨hread, hrest⟩ := hreads reads
      rw [List.length_cons, Nat.add_right_comm _ 1 reads, Nat.add_right_comm _ 1 (reads + 1),
        readMany_succ h.read, restMany, h.read]
      exact ⟨congrArg (item :: ·) hread, hrest⟩

/-- **Reads make progress on every stream.** A read takes lines of a header and then bytes of a
body, never more of these than the limit. If it gives a message, or finds that the body is no JSON
text, they are a whole header and as many bytes as the header says; if the length is above the
limit, it takes the header alone. A read takes a byte unless there is none, and leaves none if it
finds the end of the stream. It never misses the length after a header. So reads that go on, also
after faults, find the end after at most as many other items as there are bytes, and nothing else
from then on. -/
theorem read_progresses (bytes : List UInt8) :
    (∃ header body rest item, ReadTakes bytes header body rest item) ∧
      ∃ items : List Item, items.length ≤ bytes.length ∧ (∀ item ∈ items, item ≠ .finish) ∧
        ∀ reads, readMany (items.length + reads) bytes = items ++ List.replicate reads .finish ∧
          restMany (items.length + (reads + 1)) bytes = [] :=
  ⟨exists_readTakes bytes, exists_readMany bytes⟩

end Frame

end DeadSymbols
