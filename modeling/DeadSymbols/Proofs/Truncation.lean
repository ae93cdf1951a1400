import DeadSymbols.Proofs.Framing

/-!
# Frames that are cut short

A stream may end inside a frame. The messages in front of that frame are read as ever, and most
often the end is told from one between two frames. It is not if no digit of the length has come:
then nothing tells the header from a line that the reader passes over.

* `Frame.readFrom_end`: the end of the stream ends the line that is open.
* `Frame.cutShort`: what is read of a frame of which only some bytes come.
* `Frame.read_cut`: a frame that is cut short is read so.
* `Frame.readMany_cut`: frames one after another that are cut anywhere.
-/

namespace DeadSymbols

namespace Text

variable {cs : List Char}

/-- Characters of the basic range are one byte each. -/
theorem encode_ascii (h : ∀ c ∈ cs, c.toNat < 128) :
    encode (String.ofList cs) = cs.map fun c => c.val.toUInt8 := by
  rw [encode_eq, String.toList_ofList]
  induction cs with
  | nil => rfl
  | cons c cs ih =>
    obtain ⟨hc, hcs⟩ := List.forall_mem_cons.1 h
    have hsize : c.utf8Size = 1 :=
      Char.utf8Size_eq_one_iff.2 (UInt32.le_iff_toNat_le.2 (Nat.le_of_lt_succ hc))
    rw [List.flatMap_cons, String.utf8EncodeChar_eq_singleton hsize, ih hcs]
    rfl

/-- So they are cut where their bytes are. -/
theorem take_encode (h : ∀ c ∈ cs, c.toNat < 128) (k : Nat) :
    (encode (String.ofList cs)).take k = encode (String.ofList (cs.take k)) := by
  have htake : ∀ c ∈ cs.take k, c.toNat < 128 := fun c hc => h c (List.mem_of_mem_take hc)
  rw [encode_ascii h, encode_ascii htake, List.map_take]

end Text

namespace Frame

/-! ## Lines that are open -/

/-- Bytes without a line feed go on with the line that is open. -/
theorem readFrom_open (ended : Bool) (length : Option Nat) {line : List UInt8} (h : 10 ∉ line) :
    ∀ done, readFrom ended length done line = readFrom ended length (line.reverse ++ done) [] := by
  induction line with
  | nil => exact fun _ => rfl
  | cons b line ih =>
    intro done
    have hb : b ≠ 10 := fun hb => h (hb ▸ List.mem_cons_self)
    have hstep : readFrom ended length done (b :: line) =
        readFrom ended length (b :: done) line := by
      rw [readFrom]
      simp only [beq_iff_eq, hb, if_false]
    rw [hstep, ih (fun hmem => h (List.mem_cons_of_mem _ hmem)), List.reverse_cons,
      List.append_assoc, List.singleton_append]

/-- **The end of the stream ends the line that is open.** -/
theorem readFrom_end (length : Option Nat) {line : List UInt8} (hnil : line ≠ [])
    (h : 10 ∉ line) :
    readFrom true length [] line =
      match Header.ofLine length line with
      | .more length => some (endOfHeader length, [])
      | .body n => readBody true n []
      | .fault cause => some (.fault cause, []) := by
  have hopen : (line.reverse ++ []).isEmpty = false := by simpa using hnil
  rw [readFrom_open true length h, readFrom, hopen]
  simp only [List.append_nil, List.reverse_reverse]
  rfl

/-- If it is not blank, the stream ends in a header with the length that the line gives. -/
theorem read_open {text : String} (hsome : Text.trimChars text.toList ≠ [])
    (hline : '\n' ∉ text.toList) :
    read (Text.encode text) = (endOfHeader (lengthOf? (Text.trimChars text.toList)), []) := by
  have hnil : Text.encode text ≠ [] := by
    intro hnil
    have htext := Text.decode_encode text
    rw [hnil] at htext
    cases htext
    exact hsome rfl
  rw [read, readFrom_end none hnil (Text.not_mem_encode hline), ofLine_encode hsome, Option.or_none]
  rfl

/-! ## Headers that are cut -/

/-- The line of a header that gives the length. -/
def lengthLine (n : Nat) : String := s!"Content-Length: {n}\r"

/-- The first characters of that line, up to the length. -/
def lengthName : List Char := "Content-Length: ".toList

theorem toList_lengthLine (n : Nat) :
    (lengthLine n).toList = lengthName ++ (Nat.toDigits 10 n ++ ['\r']) := by
  have hline : lengthLine n = "Content-Length: " ++ Nat.repr n ++ "\r" := rfl
  rw [hline, String.toList_append, String.toList_append, Nat.toList_repr, List.append_assoc]
  rfl

theorem givesLength_lengthLine {n : Nat} (hn : n ≤ Text.maxUInt64) :
    '\n' ∉ (lengthLine n).toList ∧ GivesLength (lengthLine n) n :=
  (Heading.written n hn).given_line

/-- The first digits of a number are a number. -/
theorem standsFor_take {n k : Nat} (hn : n ≤ Text.maxUInt64) (hk : 0 < k) :
    Text.StandsFor ((Nat.toDigits 10 n).take k)
      (Text.decimalValue ((Nat.toDigits 10 n).take k)) := by
  have hvalue : Text.decimalValue (Nat.toDigits 10 n) = n := by
    rw [Text.decimalValue, foldl_digits, Nat.ofDigitChars_ten_toDigits]
  have hle : Text.decimalValue ((Nat.toDigits 10 n).take k) ≤
      Text.decimalValue (Nat.toDigits 10 n) := by
    conv => rhs; rw [← List.take_append_drop k (Nat.toDigits 10 n)]
    rw [Text.decimalValue, Text.decimalValue, List.foldl_append, foldl_digits _ (List.foldl _ _ _)]
    exact le_ofDigitChars _ _
  obtain ⟨hnil, -⟩ := mem_standsFor (Text.natural_eq_some.1 (Text.natural_toDigits hn))
  refine ⟨[], _, rfl, .inl rfl, ?_, ?_, rfl, by omega⟩
  · rw [Ne, List.take_eq_nil_iff]
    rintro (rfl | h)
    · exact absurd hk (Nat.lt_irrefl 0)
    · exact hnil h
  · exact fun c hc => isDigit_toDigits (List.mem_of_mem_take hc)

/-- If a digit of the length has come, a header that ends in its line has a length, though maybe a
shorter one. -/
theorem givesLength_cut {n k : Nat} (hn : n ≤ Text.maxUInt64) (hk : lengthName.length < k) :
    ∃ m, GivesLength (String.ofList ((lengthLine n).toList.take k)) m := by
  have hspaces : ∀ spaces : List Char, spaces.all Text.isSpace = true →
      ∀ c ∈ spaces, Text.isSpace c = true := fun _ => List.all_eq_true.1
  have htake : (lengthLine n).toList.take k =
      lengthName ++ ((Nat.toDigits 10 n).take (k - lengthName.length) ++
        ['\r'].take (k - lengthName.length - (Nat.toDigits 10 n).length)) := by
    rw [toList_lengthLine, List.take_append, List.take_append,
      List.take_of_length_le (Nat.le_of_lt hk)]
  generalize hend : ['\r'].take (k - lengthName.length - (Nat.toDigits 10 n).length) = spaces
    at htake
  refine ⟨_, [], "Content-Length".toList, [], [' '], _, spaces, ?_, rfl,
    standsFor_take hn (Nat.sub_pos_of_lt hk), hspaces _ rfl, hspaces _ rfl, hspaces _ rfl,
    fun c hc => hspaces ['\r'] rfl c (List.mem_of_mem_take (hend ▸ hc))⟩
  rw [String.toList_ofList, htake]
  rfl

/-- **A header that ends in its first line** is none for the reader until a digit of the length has
come, and one that is not complete from then on. -/
theorem read_cut_line {n k : Nat} (hn : n ≤ Text.maxUInt64) (hpos : 0 < k) :
    read (Text.encode (String.ofList ((lengthLine n).toList.take k))) =
      (if k ≤ lengthName.length then .finish else .fault .closed, []) := by
  have hfeed : '\n' ∉ (String.ofList ((lengthLine n).toList.take k)).toList := by
    rw [String.toList_ofList]
    exact fun hc => (givesLength_lengthLine hn).1 (List.mem_of_mem_take hc)
  by_cases hk : k ≤ lengthName.length
  · have hname : ∀ k < 17, 0 < k → Text.trimChars (lengthName.take k) ≠ [] ∧
        lengthOf? (Text.trimChars (lengthName.take k)) = none := by decide
    obtain ⟨hsome, hnone⟩ := hname k (Nat.lt_succ_of_le hk) hpos
    have htake : (String.ofList ((lengthLine n).toList.take k)).toList = lengthName.take k := by
      rw [String.toList_ofList, toList_lengthLine, List.take_append_of_le_length hk]
    rw [← htake] at hsome hnone
    rw [read_open hsome hfeed, hnone, if_pos hk]
    rfl
  · obtain ⟨m, hgives⟩ := givesLength_cut hn (Nat.lt_of_not_le hk)
    have hsome : Text.trimChars (String.ofList ((lengthLine n).toList.take k)).toList ≠ [] :=
      fun hnil => hgives.not_blank (Text.trimChars_eq_nil.1 hnil)
    rw [read_open hsome hfeed, lengthOf_trim.2 hgives, if_neg hk]
    rfl

/-- A body of which not all bytes come is missed. -/
theorem readBody_missing {n : Nat} (hn : n ≤ maxLength) {rest : List UInt8}
    (hrest : rest.length < n) : readBody true n rest = some (.fault (.io .earlyEnd), []) := by
  rw [readBody, if_neg (Nat.not_lt.2 hn), if_pos hrest]
  rfl

/-- **After the line that gives the length** the header is not complete until its blank line has
begun, and then the body is missed. -/
theorem read_cut_after {body : List UInt8} (hlength : body.length ≤ maxLength) (hsome : body ≠ [])
    {k : Nat} (hk : k < body.length + 2) :
    read (lineBytes (lengthLine body.length) ++ (lineBytes "\r" ++ body).take k) =
      (if k = 0 then .fault .closed else .fault (.io .earlyEnd), []) := by
  have hmax : body.length ≤ Text.maxUInt64 := Nat.le_trans hlength (by decide)
  obtain ⟨hfeed, hgives⟩ := givesLength_lengthLine hmax
  have hblank : '\n' ∉ "\r".toList ∧ IsBlankLine "\r" := ⟨by decide, by decide⟩
  have hline : ∀ rest, readFrom true none [] (lineBytes (lengthLine body.length) ++ rest) =
      readFrom true (some body.length) [] rest := by
    intro rest
    rw [readFrom_text true none hfeed, ofLine_other hgives.not_blank,
      lengthOf_trim.2 hgives]
    rfl
  have hreturn : lineBytes "\r" = [13, 10] := by decide +kernel
  rw [read, hline]
  rcases k with _ | _ | k
  · rfl
  -- the blank line is open, and nothing of the body can have come
  · have hopen : Header.ofLine (some body.length) [13] = .body body.length := by
      have hencoded : Text.encode "\r" = [13] := by decide +kernel
      rw [← hencoded, Header.ofLine, Text.decode_encode]
      rfl
    rw [hreturn]
    show (readFrom true (some body.length) [] [13]).getD _ = _
    rw [readFrom_end _ (by decide) (by decide), hopen]
    show (readBody true body.length []).getD _ = _
    have hmissing : ([] : List UInt8).length < body.length := List.length_pos_iff.2 hsome
    rw [readBody_missing hlength hmissing]
    rfl
  -- the blank line has come
  · have hmissing : (body.take k).length < body.length := by
      rw [List.length_take]
      omega
    have htake : (lineBytes "\r" ++ body).take (k + 2) = lineBytes "\r" ++ body.take k := by
      rw [hreturn]
      rfl
    rw [htake, readFrom_text true _ hblank.1, ofLine_blank hblank.2]
    show (readBody true body.length (body.take k)).getD _ = _
    rw [readBody_missing hlength hmissing]
    rfl

/-! ## Frames that are cut -/

/-- The length of the header of a message. -/
def headerLength (message : Json) : Nat :=
  (Text.encode s!"Content-Length: {(Text.encode message.compact).length}\r\n\r\n").length

/-- What is read of a frame of which only the first `k` bytes come, if its header has `header`
bytes. The first digit of the length has number 17, and the last byte of the header only ends the
blank line. -/
def cutShort (header k : Nat) : Item :=
  if k ≤ 16 then .finish
  else if k + 1 < header then .fault .closed
  else .fault (.io .earlyEnd)

/-- A frame that is cut before the length is taken for the end of the stream. -/
theorem cutShort_eq_finish {header k : Nat} : cutShort header k = .finish ↔ k ≤ 16 := by
  unfold cutShort
  split
  · exact iff_of_true rfl (by assumption)
  · refine iff_of_false ?_ (by assumption)
    split <;> exact Item.noConfusion

/-- One that is cut later is a fault. -/
theorem cutShort_eq_fault {header k : Nat} (hk : 16 < k) :
    ∃ fault, cutShort header k = .fault fault := by
  unfold cutShort
  rw [if_neg (Nat.not_le.2 hk)]
  split
  · exact ⟨_, rfl⟩
  · exact ⟨_, rfl⟩

theorem lengthLine_ascii (n : Nat) : ∀ c ∈ (lengthLine n).toList ++ ['\n'], c.toNat < 128 := by
  have hall : lengthName.all (·.toNat < 128) = true := by decide
  have hname : ∀ c ∈ lengthName, c.toNat < 128 :=
    fun c hc => of_decide_eq_true (List.all_eq_true.1 hall c hc)
  intro c hc
  rw [toList_lengthLine] at hc
  rcases List.mem_append.1 hc with hc | hc
  · rcases List.mem_append.1 hc with hc | hc
    · exact hname c hc
    · rcases List.mem_append.1 hc with hc | hc
      · have hdigit : 48 ≤ c.toNat ∧ c.toNat ≤ 57 := by
          simpa [Char.isDigit, UInt32.le_iff_toNat_le] using isDigit_toDigits hc
        omega
      · rw [List.mem_singleton.1 hc]
        decide
  · rw [List.mem_singleton.1 hc]
    decide

theorem lineBytes_lengthLine (n : Nat) :
    lineBytes (lengthLine n) = Text.encode (String.ofList ((lengthLine n).toList ++ ['\n'])) := by
  rw [lineBytes, ← String.toList_singleton, ← String.toList_append, String.ofList_toList]
  rfl

theorem length_lineBytes (n : Nat) :
    (lineBytes (lengthLine n)).length = (lengthLine n).toList.length + 1 := by
  rw [lineBytes_lengthLine, Text.encode_ascii (lengthLine_ascii n), List.length_map,
    List.length_append]
  rfl

theorem header_eq {n : Nat} (hn : n ≤ Text.maxUInt64) :
    Text.encode s!"Content-Length: {n}\r\n\r\n" = lineBytes (lengthLine n) ++ lineBytes "\r" := by
  rw [← Heading.bytes_written hn]
  show [lengthLine n, "\r"].flatMap lineBytes = _
  simp

/-- A body is never empty. -/
theorem Fits.body_ne_nil {message : Json} (h : Fits message) :
    Text.encode message.compact ≠ [] := by
  intro hnil
  have hread := Json.ofBytes_text (Json.hasText_compact h.whole) h.nesting
  rw [hnil] at hread
  cases hread

/-- **A frame that is cut short** is read as the end of the stream or as a fault. -/
theorem read_cut {message : Json} (h : Fits message) {k : Nat} (hk : k < (bytes message).length) :
    read ((bytes message).take k) = (cutShort (headerLength message) k, []) := by
  have hmax : (Text.encode message.compact).length ≤ Text.maxUInt64 :=
    Nat.le_trans h.length (by decide)
  have hreturn : (lineBytes "\r").length = 2 := by decide +kernel
  have hheader : headerLength message =
      (lengthLine (Text.encode message.compact).length).toList.length + 3 := by
    rw [headerLength, header_eq hmax, List.length_append, length_lineBytes, hreturn]
  have hbytes : bytes message = lineBytes (lengthLine (Text.encode message.compact).length) ++
      (lineBytes "\r" ++ Text.encode message.compact) := by
    rw [bytes, ofBody, header_eq hmax, List.append_assoc]
  have hsome := h.body_ne_nil
  have hmaxLength := h.length
  rw [hheader]
  rw [hbytes] at hk ⊢
  generalize Text.encode message.compact = body at *
  have hlength := length_lineBytes body.length
  have hname : 16 ≤ (lengthLine body.length).toList.length := by
    rw [toList_lengthLine, List.length_append]
    exact Nat.le_add_right 16 _
  rw [List.length_append, List.length_append, hlength, hreturn] at hk
  by_cases hline : k ≤ (lengthLine body.length).toList.length
  -- the cut is in the line that gives the length
  · have htake : (lineBytes (lengthLine body.length) ++ (lineBytes "\r" ++ body)).take k =
        Text.encode (String.ofList ((lengthLine body.length).toList.take k)) := by
      rw [List.take_append_of_le_length (by omega), lineBytes_lengthLine,
        Text.take_encode (lengthLine_ascii _), List.take_append_of_le_length hline]
    rw [htake, cutShort, if_pos (show k + 1 < _ by omega)]
    rcases Nat.eq_zero_or_pos k with rfl | hpos
    · rfl
    · exact read_cut_line hmax hpos
  -- the cut is after that line
  · obtain ⟨j, rfl⟩ : ∃ j, k = (lineBytes (lengthLine body.length)).length + j :=
      ⟨k - (lineBytes (lengthLine body.length)).length, by omega⟩
    rw [hlength] at hk
    rw [List.take_length_add_append, read_cut_after hmaxLength hsome (by omega), hlength, cutShort,
      if_neg (show ¬ _ + j ≤ 16 by omega)]
    rcases Nat.eq_zero_or_pos j with rfl | hpos
    · rw [if_pos rfl, if_pos (by omega)]
    · rw [if_neg (by omega), if_neg (by omega)]

/-- Nothing is left at the end of a stream. -/
theorem readMany_nil (reads : Nat) : readMany reads [] = List.replicate reads .finish := by
  induction reads with
  | zero => rfl
  | succ reads ih => rw [readMany, List.replicate_succ, ← ih]; rfl

/-- A cut of some texts one after another is in one of them, or at its start. -/
theorem exists_cut {α : Type} (f : α → List UInt8) {xs : List α} :
    ∀ {n : Nat}, n < (xs.flatMap f).length → ∃ before x after k, xs = before ++ x :: after ∧
      n = (before.flatMap f).length + k ∧ k < (f x).length := by
  induction xs with
  | nil => exact fun h => absurd h (Nat.not_lt_zero _)
  | cons x xs ih =>
    intro n hn
    rw [List.flatMap_cons, List.length_append] at hn
    by_cases hx : n < (f x).length
    · exact ⟨[], x, xs, n, rfl, (Nat.zero_add n).symm, hx⟩
    · obtain ⟨before, y, after, k, rfl, hk, hlt⟩ := ih (n := n - (f x).length) (by omega)
      refine ⟨x :: before, y, after, k, rfl, ?_, hlt⟩
      rw [List.flatMap_cons, List.length_append]
      omega

/-- **Frames that are cut anywhere.** Let messages be written one after another, and let only the
first `n` bytes of them come. The messages of which the whole frame has come are read. If no frame
was cut, all further reads find the end of the stream. If one was cut after `k` bytes, the next read
finds the end of the stream too as long as `k` is at most 16: nothing of the frame has come, or no
digit of the length. Otherwise it finds a fault: the header is not complete or the body is too
short. After it there is nothing left. -/
theorem readMany_cut {messages : List Json} (hfits : ∀ message ∈ messages, Fits message)
    (n reads : Nat) :
    let stream := messages.flatMap bytes
    (stream.length ≤ n →
      readMany (messages.length + reads) (stream.take n) =
        messages.map Item.message ++ List.replicate reads .finish) ∧
    (n < stream.length → ∃ before next after k, messages = before ++ next :: after ∧
      n = (before.flatMap bytes).length + k ∧ k < (bytes next).length ∧
      readMany (before.length + (reads + 1)) (stream.take n) = before.map Item.message ++
        cutShort (headerLength next) k :: List.replicate reads .finish ∧
      (cutShort (headerLength next) k = .finish ↔ k ≤ 16) ∧
      (16 < k → ∃ fault, cutShort (headerLength next) k = .fault fault)) := by
  intro stream
  refine ⟨fun hn => ?_, fun hn => ?_⟩
  · have hread := readMany_append (fun message hm => (hfits message hm).next) reads []
    rw [List.append_nil, readMany_nil] at hread
    rw [List.take_of_length_le hn]
    exact hread
  · obtain ⟨before, next, after, k, hsplit, rfl, hk⟩ := exists_cut bytes hn
    have hbefore : ∀ message ∈ before, Fits message :=
      fun message hm => hfits message (by rw [hsplit]; exact List.mem_append_left _ hm)
    have hnext : Fits next := hfits next (by rw [hsplit]; simp)
    have hstream : stream = before.flatMap bytes ++ (bytes next ++ after.flatMap bytes) := by
      simp [stream, hsplit]
    have htake : stream.take ((before.flatMap bytes).length + k) =
        before.flatMap bytes ++ (bytes next).take k := by
      rw [hstream, List.take_length_add_append, List.take_append_of_le_length (Nat.le_of_lt hk)]
    refine ⟨before, next, after, k, hsplit, rfl, hk, ?_, cutShort_eq_finish, cutShort_eq_fault⟩
    rw [htake, readMany_append fun message hm => (hbefore message hm).next, readMany,
      read_cut hnext hk]
    simp only [readMany_nil]

/-- The second of two frames is cut after its tenth byte, and its rest is not missed. -/
theorem readMany_cut_name :
    let stream := bytes sampleMessage ++ (bytes sampleMessage).take 10
    readMany 3 stream = [.message sampleMessage, .finish, .finish] ∧
      10 < (bytes sampleMessage).length := by
  intro stream
  have hlong : 10 < (bytes sampleMessage).length := by decide +kernel
  refine ⟨?_, hlong⟩
  have hnext : ∀ message ∈ [sampleMessage], ∀ rest,
      next? (bytes message ++ rest) = some (.message message, rest) :=
    fun message hm => List.mem_singleton.1 hm ▸ fits_sampleMessage.next
  have hread := readMany_append hnext 2 ((bytes sampleMessage).take 10)
  rw [List.flatMap_singleton] at hread
  refine hread.trans ?_
  rw [readMany, read_cut fits_sampleMessage hlong]
  rfl

/-- The second of two frames is cut after its seventeenth byte, and its rest is missed. -/
theorem readMany_cut_digit :
    let messages := [sampleMessage, sampleMessage]
    let n := (bytes sampleMessage).length + 17
    (∀ message ∈ messages, Fits message) ∧ n < (messages.flatMap bytes).length ∧
      readMany 2 ((messages.flatMap bytes).take n) = [.message sampleMessage, .fault .closed] := by
  intro messages n
  have hfits : ∀ message ∈ messages, Fits message := by
    intro message hm
    rw [show message = sampleMessage by simpa [messages] using hm]
    exact fits_sampleMessage
  have hlt : n < (messages.flatMap bytes).length := by decide +kernel
  obtain ⟨before, next, after, k, hsplit, hn, hk, hread, -⟩ := (readMany_cut hfits n 0).2 hlt
  refine ⟨hfits, hlt, ?_⟩
  match before, hsplit with
  | [], hsplit =>
    -- the cut is not in the first frame
    obtain ⟨rfl, -⟩ := List.cons.inj hsplit
    simp only [n, List.flatMap_nil, List.length_nil] at hn
    omega
  | [first], hsplit =>
    obtain ⟨hfirst, hrest⟩ := List.cons.inj hsplit
    obtain ⟨hnext, -⟩ := List.cons.inj hrest
    subst hfirst hnext
    rw [List.flatMap_singleton] at hn
    obtain rfl : k = 17 := (Nat.add_left_cancel hn).symm
    refine hread.trans ?_
    rw [show cutShort (headerLength sampleMessage) 17 = .fault .closed by rfl]
    rfl
  | _ :: _ :: before, hsplit =>
    have hlength := congrArg List.length hsplit
    simp [messages] at hlength

end Frame

end DeadSymbols
