import EnergyModel.Text.Csv

/-!
# Reading back what was written

`Csv.writeRecord` quotes a field that holds a comma, a quote or a line terminator and doubles its
quotes; `Csv.read` undoes that, and then trims every field. So the text of a list of records,
all as long as the first and none of them empty, reads back as those records with their fields
trimmed, without a length mismatch, provided the text does not open with a byte order mark.

The scanner is followed character by character: a field without quotes is a run of ordinary
characters (`scanRecord_plain_run`), a quoted field a run of characters with doubled quotes
(`scanRecord_quoted_run`), and a comma or a line feed after either ends the field. A cursor is
described only by the characters it has left; its line and byte count do not matter here.
-/

namespace EnergyModel.Csv

/-! ## Written fields -/

/-- The characters of a field inside quotes: each quote doubled. -/
def escapeQuotes (cs : List Char) : List Char :=
  cs.flatMap fun c => if c = '"' then ['"', '"'] else [c]

@[simp] theorem escapeQuotes_nil : escapeQuotes [] = [] := rfl

theorem escapeQuotes_cons (c : Char) (cs : List Char) :
    escapeQuotes (c :: cs) = (if c = '"' then ['"', '"'] else [c]) ++ escapeQuotes cs := rfl

/-- A character that ends a field outside quotes, or opens a quoted one. -/
def isSpecial (c : Char) : Bool := c == ',' || c == '"' || c == '\n' || c == '\r'

theorem needsQuotes_eq_false_iff {f : String} :
    needsQuotes f = false ↔ ∀ c ∈ f.toList, isSpecial c = false := by
  simp [needsQuotes, String.any, String.contains_bool_eq, isSpecial]

theorem toList_writeField (f : String) :
    (writeField f).toList =
      if needsQuotes f then '"' :: escapeQuotes f.toList ++ ['"'] else f.toList := by
  unfold writeField
  split
  · have hquote : "\"".toList = ['"'] := rfl
    have hchar (c : Char) :
        (if c == '"' then "\"\"" else c.toString).toList = if c = '"' then ['"', '"'] else [c] := by
      by_cases hc : c = '"'
      · rw [if_pos (beq_iff_eq.mpr hc), if_pos hc]
        rfl
      · rw [if_neg (mt beq_iff_eq.mp hc), if_neg hc, Char.toString_eq_singleton,
          String.toList_singleton]
    simp only [String.toList_append, String.toList_join, List.flatMap_map, hquote, hchar,
      escapeQuotes, List.cons_append, List.nil_append]
  · rfl

/-! ## The scanner -/

section Scanner

variable {field : List Char} {done : List String} {rest : List Char}

/-- The states in which a field is not inside quotes, so that a comma or a line feed ends it. -/
def FieldState.closed : FieldState → Bool
  | .quoted => false
  | _ => true

@[simp] theorem Cursor.rest_advance (cur : Cursor) (c : Char) (rest : List Char) :
    (cur.advance c rest).rest = rest := rfl

/-- A run of ordinary characters is added to an unquoted field. -/
theorem scanRecord_plain_run (field : List Char) (done : List String) (cs : List Char)
    (hcs : ∀ c ∈ cs, isSpecial c = false) {cur : Cursor} (hcur : cur.rest = cs ++ rest) (fuel : Nat) :
    ∃ cur', cur'.rest = rest ∧
      scanRecord .plain field done cur (fuel + cs.length) =
        scanRecord .plain (cs.reverse ++ field) done cur' fuel := by
  induction cs generalizing field cur with
  | nil => exact ⟨cur, hcur, rfl⟩
  | cons c cs ih =>
    have hc : isSpecial c = false := hcs c List.mem_cons_self
    obtain ⟨cur', hrest, hscan⟩ :=
      ih (c :: field) (fun d hd => hcs d (List.mem_cons_of_mem c hd))
        (show (cur.advance c (cs ++ rest)).rest = cs ++ rest from rfl)
    refine ⟨cur', hrest, ?_⟩
    have hcomma : (c == ',') = false := by simp_all [isSpecial]
    have hline : (c == '\n' || c == '\r') = false := by simp_all [isSpecial]
    rw [List.length_cons, ← Nat.add_assoc, scanRecord, hcur, List.cons_append]
    simp only [hcomma, hline, Bool.false_eq_true, if_false]
    rw [hscan, List.reverse_cons, List.append_assoc, List.singleton_append]

/-- A run of characters with doubled quotes is added, undoubled, to a quoted field. -/
theorem scanRecord_quoted_run (field : List Char) (done : List String) (cs : List Char)
    {cur : Cursor}
    (hcur : cur.rest = escapeQuotes cs ++ rest) (fuel : Nat) :
    ∃ cur', cur'.rest = rest ∧
      scanRecord .quoted field done cur (fuel + (escapeQuotes cs).length) =
        scanRecord .quoted (cs.reverse ++ field) done cur' fuel := by
  induction cs generalizing field cur with
  | nil => exact ⟨cur, hcur, rfl⟩
  | cons c cs ih =>
    by_cases hc : c = '"'
    · -- a doubled quote: the first closes the quotes, the second reopens them with a quote
      subst hc
      obtain ⟨cur', hrest, hscan⟩ := ih ('"' :: field)
        (show ((cur.advance '"' ('"' :: (escapeQuotes cs ++ rest))).advance '"'
          (escapeQuotes cs ++ rest)).rest = escapeQuotes cs ++ rest from rfl)
      refine ⟨cur', hrest, ?_⟩
      have hlen : fuel + (escapeQuotes ('"' :: cs)).length =
          fuel + (escapeQuotes cs).length + 1 + 1 := by
        simp [escapeQuotes_cons]
        omega
      rw [hlen, scanRecord, hcur, escapeQuotes_cons, if_pos rfl]
      simp only [List.cons_append, List.nil_append, beq_self_eq_true, if_true]
      rw [scanRecord]
      simp only [Cursor.rest_advance, beq_self_eq_true, if_true]
      rw [hscan, List.reverse_cons, List.append_assoc, List.singleton_append]
    · obtain ⟨cur', hrest, hscan⟩ := ih (c :: field)
        (show (cur.advance c (escapeQuotes cs ++ rest)).rest = escapeQuotes cs ++ rest from rfl)
      refine ⟨cur', hrest, ?_⟩
      have hlen : fuel + (escapeQuotes (c :: cs)).length = fuel + (escapeQuotes cs).length + 1 := by
        simp [escapeQuotes_cons, hc]
        omega
      have hquote : (c == '"') = false := by simpa using hc
      rw [hlen, scanRecord, hcur, escapeQuotes_cons, if_neg hc]
      simp only [List.cons_append, List.nil_append, hquote, Bool.false_eq_true, if_false]
      rw [hscan, List.reverse_cons, List.append_assoc, List.singleton_append]

theorem scanRecord_comma {s : FieldState} (hs : s.closed = true) {cur : Cursor}
    (hcur : cur.rest = ',' :: rest) (fuel : Nat) :
    scanRecord s field done cur (fuel + 1) =
      scanRecord .fresh [] (String.ofList field.reverse :: done) (cur.advance ',' rest) fuel := by
  cases s with
  | quoted => cases hs
  | fresh | plain | afterQuote => simp [scanRecord, hcur]

theorem scanRecord_newline {s : FieldState} (hs : s.closed = true) {cur : Cursor}
    (hcur : cur.rest = '\n' :: rest) (fuel : Nat) :
    scanRecord s field done cur (fuel + 1) =
      ((String.ofList field.reverse :: done).reverse, cur.endRecord '\n' rest) := by
  cases s with
  | quoted => cases hs
  | fresh | plain | afterQuote => simp [scanRecord, hcur]

/-- A field written without quotes is read as it is, and the scanner stays outside quotes. -/
theorem scanRecord_plainField (f : String) (hf : ∀ c ∈ f.toList, isSpecial c = false)
    {cur : Cursor} (hcur : cur.rest = f.toList ++ rest) (fuel : Nat) :
    ∃ s cur', s.closed = true ∧ cur'.rest = rest ∧
      scanRecord .fresh [] done cur (fuel + f.length) = scanRecord s f.toList.reverse done cur' fuel := by
  rw [← String.length_toList]
  cases hcs : f.toList with
  | nil => exact ⟨.fresh, cur, rfl, by rw [hcur, hcs]; rfl, rfl⟩
  | cons c cs =>
    -- the first character opens an unquoted field, and the others run on in it
    rw [hcs] at hf hcur
    have hc : isSpecial c = false := hf c List.mem_cons_self
    obtain ⟨cur', hrest, hscan⟩ := scanRecord_plain_run [c] done cs
      (fun d hd => hf d (List.mem_cons_of_mem c hd))
      (show (cur.advance c (cs ++ rest)).rest = cs ++ rest from rfl) fuel
    refine ⟨.plain, cur', rfl, hrest, ?_⟩
    have hquote : (c == '"') = false := by simp_all [isSpecial]
    have hcomma : (c == ',') = false := by simp_all [isSpecial]
    have hline : (c == '\n' || c == '\r') = false := by simp_all [isSpecial]
    rw [List.length_cons, ← Nat.add_assoc, scanRecord, hcur, List.cons_append]
    simp only [hquote, hcomma, hline, Bool.false_eq_true, if_false]
    rw [hscan, List.reverse_cons]

/-- A field written in quotes is read without them, and the scanner stops just after the
closing quote. -/
theorem scanRecord_quotedField (done : List String) (f : String) {cur : Cursor}
    (hcur : cur.rest = '"' :: escapeQuotes f.toList ++ '"' :: rest) (fuel : Nat) :
    ∃ cur', cur'.rest = rest ∧
      scanRecord .fresh [] done cur (fuel + (escapeQuotes f.toList).length + 1 + 1) =
        scanRecord .afterQuote f.toList.reverse done cur' fuel := by
  obtain ⟨cur₁, hrest₁, hscan⟩ := scanRecord_quoted_run [] done f.toList
    (show (cur.advance '"' (escapeQuotes f.toList ++ '"' :: rest)).rest =
      escapeQuotes f.toList ++ '"' :: rest from rfl) (fuel + 1)
  refine ⟨cur₁.advance '"' rest, rfl, ?_⟩
  rw [scanRecord, hcur, List.cons_append]
  simp only [beq_self_eq_true, if_true]
  rw [Nat.add_right_comm, hscan, List.append_nil, scanRecord, hrest₁]
  simp only [beq_self_eq_true, if_true]

/-- A written field is read back, and the scanner stays outside quotes. -/
theorem scanRecord_writeField (done : List String) (f : String) {cur : Cursor}
    (hcur : cur.rest = (writeField f).toList ++ rest) (fuel : Nat) :
    ∃ s cur', s.closed = true ∧ cur'.rest = rest ∧
      scanRecord .fresh [] done cur (fuel + (writeField f).length) =
        scanRecord s f.toList.reverse done cur' fuel := by
  rw [← String.length_toList, toList_writeField] at *
  cases hq : needsQuotes f with
  | true =>
    simp only [hq, ↓reduceIte] at hcur ⊢
    obtain ⟨cur', hrest, hscan⟩ := scanRecord_quotedField done f
      (show cur.rest = '"' :: escapeQuotes f.toList ++ '"' :: rest by rw [hcur]; simp) fuel
    refine ⟨.afterQuote, cur', rfl, hrest, ?_⟩
    rw [← hscan]
    simp only [List.length_cons, List.length_append, List.length_nil]
    congr 1
  | false =>
    simp only [hq, Bool.false_eq_true, ↓reduceIte] at hcur ⊢
    rw [String.length_toList]
    exact scanRecord_plainField f (needsQuotes_eq_false_iff.mp hq) hcur fuel

/-- The fields of a record joined by commas, then a line feed, are read back. -/
theorem scanRecord_joined (done : List String) (fields : List String) (hne : fields ≠ [])
    {cur : Cursor}
    (hcur : cur.rest = (",".intercalate (fields.map writeField)).toList ++ '\n' :: rest)
    (fuel : Nat) :
    ∃ cur', cur'.rest = rest ∧
      scanRecord .fresh [] done cur (fuel + (",".intercalate (fields.map writeField)).length + 1) =
        (done.reverse ++ fields, cur') := by
  induction fields generalizing done cur with
  | nil => exact absurd rfl hne
  | cons f more ih =>
    cases more with
    | nil =>
      -- the last field, ended by the line feed
      rw [List.map_singleton, String.intercalate_singleton] at hcur ⊢
      obtain ⟨s, cur', hs, hrest, hscan⟩ := scanRecord_writeField done f
        (show cur.rest = (writeField f).toList ++ '\n' :: rest by rw [hcur]) (fuel + 1)
      refine ⟨cur'.endRecord '\n' rest, rfl, ?_⟩
      rw [Nat.add_right_comm, hscan, scanRecord_newline hs hrest, List.reverse_reverse,
        String.ofList_toList, List.reverse_cons]
    | cons g more =>
      -- a field ended by a comma, then the fields after it
      rw [List.map_cons, List.map_cons, String.intercalate_cons_cons] at hcur ⊢
      rw [← List.map_cons] at hcur ⊢
      obtain ⟨joined, hj⟩ : ∃ j, j = ",".intercalate ((g :: more).map writeField) := ⟨_, rfl⟩
      rw [← hj] at hcur ⊢
      obtain ⟨s, cur₁, hs, hrest₁, hscan⟩ := scanRecord_writeField done f
        (show cur.rest = (writeField f).toList ++ ',' :: (joined.toList ++ '\n' :: rest) by
          rw [hcur, String.toList_append, String.toList_append]; simp)
        (fuel + joined.length + 1 + 1)
      obtain ⟨cur', hrest, hjoined⟩ := ih (f :: done) (List.cons_ne_nil g more)
        (show (cur₁.advance ',' (joined.toList ++ '\n' :: rest)).rest =
          (",".intercalate ((g :: more).map writeField)).toList ++ '\n' :: rest by rw [hj]; rfl)
      refine ⟨cur', hrest, ?_⟩
      have hlen : fuel + (writeField f ++ "," ++ joined).length + 1 =
          fuel + joined.length + 1 + 1 + (writeField f).length := by
        simp only [String.length_append]
        have : ",".length = 1 := rfl
        omega
      rw [← hj] at hjoined
      rw [hlen, hscan, scanRecord_comma hs hrest₁, List.reverse_reverse, String.ofList_toList,
        hjoined, List.reverse_cons, List.append_assoc, List.singleton_append]

theorem writeFields_of_ne {fields : List String} (h : fields ≠ [""]) :
    writeFields fields = ",".intercalate (fields.map writeField) := by
  unfold writeFields
  split
  · contradiction
  · rfl

/-- A written record is read back, up to its line feed. -/
theorem scanRecord_writeFields (fields : List String) (hne : fields ≠ []) {cur : Cursor}
    (hcur : cur.rest = (writeFields fields).toList ++ '\n' :: rest) (fuel : Nat) :
    ∃ cur', cur'.rest = rest ∧
      scanRecord .fresh [] [] cur (fuel + (writeFields fields).length + 1) = (fields, cur') := by
  by_cases hempty : fields = [""]
  · -- a record of one empty field is written as a pair of quotes
    subst hempty
    obtain ⟨cur₁, hrest₁, hscan⟩ := scanRecord_quotedField [] ""
      (show cur.rest = '"' :: escapeQuotes "".toList ++ '"' :: '\n' :: rest by rw [hcur]; rfl)
      (fuel + 1)
    refine ⟨cur₁.endRecord '\n' rest, rfl, ?_⟩
    have hlen : fuel + (writeFields [""]).length + 1 =
        fuel + 1 + (escapeQuotes "".toList).length + 1 + 1 := rfl
    rw [hlen, hscan, scanRecord_newline rfl hrest₁]
    rfl
  · rw [writeFields_of_ne hempty] at hcur ⊢
    simpa using scanRecord_joined [] fields hne hcur fuel

/-- A written record starts with a quote, with a comma, or with the first character of its
first field, which is then not special. -/
theorem writeFields_toList_head (fields : List String) (hne : fields ≠ []) :
    ∃ c cs, (writeFields fields).toList = c :: cs ∧
      (c = '"' ∨ c = ',' ∨
        (isSpecial c = false ∧ ∃ f ∈ fields.head?, f.toList.head? = some c)) := by
  by_cases hempty : fields = [""]
  · subst hempty
    exact ⟨'"', ['"'], rfl, .inl rfl⟩
  rw [writeFields_of_ne hempty]
  obtain ⟨f, more, rfl⟩ := List.exists_cons_of_ne_nil hne
  -- the text opens with the first field's text, or with the comma after an empty first field
  have hopen : ∀ tail : List Char, (∃ c cs, (writeField f).toList ++ tail = c :: cs ∧
      (c = '"' ∨ (isSpecial c = false ∧ f.toList.head? = some c))) ∨
      (writeField f).toList ++ tail = tail ∧ f = "" := by
    intro tail
    rw [toList_writeField]
    split
    · exact .inl ⟨'"', _, rfl, .inl rfl⟩
    · rename_i hq
      rw [Bool.not_eq_true] at hq
      cases hcs : f.toList with
      | nil => exact .inr ⟨rfl, String.toList_eq_nil_iff.mp hcs⟩
      | cons c cs =>
        have hc := needsQuotes_eq_false_iff.mp hq c (by rw [hcs]; exact List.mem_cons_self)
        exact .inl ⟨c, cs ++ tail, rfl, .inr ⟨hc, rfl⟩⟩
  cases more with
  | nil =>
    rw [List.map_singleton, String.intercalate_singleton]
    rcases hopen [] with ⟨c, cs, h, hc⟩ | ⟨-, rfl⟩
    · rw [List.append_nil] at h
      refine ⟨c, cs, h, ?_⟩
      rcases hc with hc | ⟨hc, hhead⟩
      · exact .inl hc
      · exact .inr (.inr ⟨hc, f, rfl, hhead⟩)
    · exact absurd rfl hempty
  | cons g more =>
    rw [List.map_cons, List.map_cons, String.intercalate_cons_cons, String.toList_append,
      String.toList_append, List.append_assoc]
    rcases hopen _ with ⟨c, cs, h, hc⟩ | ⟨h, -⟩
    · refine ⟨c, cs, h, ?_⟩
      rcases hc with hc | ⟨hc, hhead⟩
      · exact .inl hc
      · exact .inr (.inr ⟨hc, f, rfl, hhead⟩)
    · exact ⟨',', _, h, .inr (.inl rfl)⟩

theorem skipEmptyLines_of_head {cur : Cursor} {c : Char} {cs : List Char}
    (hcur : cur.rest = c :: cs) (hc : (c == '\n' || c == '\r') = false) (fuel : Nat) :
    skipEmptyLines cur fuel = cur := by
  cases fuel with
  | zero => rfl
  | succ n => simp only [skipEmptyLines, hcur, hc, Bool.false_eq_true, if_false]

/-- A written record is the next record, and the cursor is left after its line feed. -/
theorem nextRecord_writeRecord (fields : List String) (hne : fields ≠ []) {cur : Cursor}
    (hcur : cur.rest = (writeRecord fields).toList ++ rest) :
    ∃ cur', cur'.rest = rest ∧ nextRecord cur = some (fields, cur') := by
  obtain ⟨c, cs, hcs, hc⟩ := writeFields_toList_head fields hne
  have hline : (c == '\n' || c == '\r') = false := by
    rcases hc with rfl | rfl | ⟨hc, -⟩
    · rfl
    · rfl
    · simp_all [isSpecial]
  have hrest : cur.rest = (writeFields fields).toList ++ '\n' :: rest := by
    rw [hcur, writeRecord, String.toList_append, List.append_assoc]
    rfl
  obtain ⟨cur', hrest', hscan⟩ := scanRecord_writeFields fields hne hrest (rest.length + 1)
  refine ⟨cur', hrest', ?_⟩
  have hlen : cur.rest.length + 1 = rest.length + 1 + (writeFields fields).length + 1 := by
    rw [hrest, List.length_append, List.length_cons, String.length_toList]
    omega
  unfold nextRecord
  rw [skipEmptyLines_of_head (by rw [hrest, hcs]; rfl) hline]
  dsimp only
  rw [hlen, hscan, hrest, hcs]
  rfl

theorem nextRecord_of_rest_nil {cur : Cursor} (h : cur.rest = []) : nextRecord cur = none := by
  simp [nextRecord, h, skipEmptyLines]

end Scanner

/-! ## Tables -/

/-- The characters of written records, one after the other. -/
def writtenChars (records : List (List String)) : List Char :=
  records.flatMap fun r => (writeRecord r).toList

theorem length_le_writtenChars (records : List (List String)) :
    records.length ≤ (writtenChars records).length := by
  induction records with
  | nil => exact Nat.le_refl 0
  | cons r records ih =>
    -- every written record ends with a line feed
    have hr : 1 ≤ (writeRecord r).toList.length := by
      rw [writeRecord, String.toList_append, List.length_append]
      exact Nat.le_add_left _ _
    simp only [writtenChars, List.flatMap_cons, List.length_append, List.length_cons] at ih ⊢
    omega

/-- Written records of the header's length are read back, trimmed, with no mismatch. -/
theorem readRecords_written (expected : Nat) (records : List (List String))
    (hrecords : ∀ r ∈ records, r ≠ [] ∧ r.length = expected) {cur : Cursor}
    (hcur : cur.rest = writtenChars records) (index fuel : Nat) (hfuel : records.length < fuel) :
    (readRecords expected index cur fuel).1.map (·.fields) = records.map (·.map trimBlank) ∧
      (readRecords expected index cur fuel).2 = none := by
  induction records generalizing cur index fuel with
  | nil =>
    obtain ⟨n, rfl⟩ : ∃ n, fuel = n + 1 := ⟨fuel - 1, by simp at hfuel; omega⟩
    simp [readRecords, nextRecord_of_rest_nil hcur]
  | cons r records ih =>
    obtain ⟨n, rfl⟩ : ∃ n, fuel = n + 1 := ⟨fuel - 1, by simp at hfuel; omega⟩
    obtain ⟨hne, hlen⟩ := hrecords r List.mem_cons_self
    obtain ⟨next, hnext, hr⟩ := nextRecord_writeRecord r hne
      (show cur.rest = (writeRecord r).toList ++ writtenChars records by rw [hcur]; rfl)
    obtain ⟨hfields, hmismatch⟩ := ih (fun r' hr' => hrecords r' (List.mem_cons_of_mem r hr'))
      hnext (index + 1) n (by simp at hfuel; omega)
    simp only [readRecords, hr, hlen, bne_self_eq_false, Bool.false_eq_true, if_false,
      List.map_cons]
    exact ⟨by rw [hfields], hmismatch⟩

/-- The text of a header and records, all as long as the header and none empty, reads back as
the header and the records, trimmed, when the header's first field does not open with a byte
order mark. -/
theorem read_writeRecords (header : List String) (records : List (List String))
    (hheader : header ≠ []) (hbom : ∀ f ∈ header.head?, f.toList.head? ≠ some '\uFEFF')
    (hrecords : ∀ r ∈ records, r ≠ [] ∧ r.length = header.length) :
    (read (String.join ((header :: records).map writeRecord))).header = header.map trimBlank ∧
      (read (String.join ((header :: records).map writeRecord))).records.map (·.fields) =
        records.map (·.map trimBlank) ∧
      (read (String.join ((header :: records).map writeRecord))).mismatch = none := by
  have htext : (String.join ((header :: records).map writeRecord)).toList =
      (writeRecord header).toList ++ writtenChars records := by
    simp [writtenChars, String.toList_join, List.flatMap_map]
  obtain ⟨c, cs, hcs, hc⟩ := writeFields_toList_head header hheader
  -- the text does not open with a byte order mark
  have hfirst : (writeRecord header).toList = c :: (cs ++ ['\n']) := by
    rw [writeRecord, String.toList_append, hcs]
    rfl
  have hnotBom : c ≠ '\uFEFF' := by
    rcases hc with rfl | rfl | ⟨-, f, hf, hhead⟩
    · decide
    · decide
    · intro hbom'
      exact hbom f hf (hbom' ▸ hhead)
  obtain ⟨next, hnext, hheaderRead⟩ := nextRecord_writeRecord header hheader
    (show (⟨(writeRecord header).toList ++ writtenChars records, 0, 1⟩ : Cursor).rest =
      (writeRecord header).toList ++ writtenChars records from rfl)
  obtain ⟨hfields, hmismatch⟩ := readRecords_written header.length records hrecords hnext 1
    (next.rest.length + 1) (by rw [hnext]; exact Nat.lt_succ_of_le (length_le_writtenChars records))
  unfold read
  dsimp only
  rw [htext, hfirst, List.cons_append]
  -- the first character is no byte order mark, so the header is read from the start
  split
  · rename_i heq
    split at heq
    · rename_i rest hmark
      exact absurd (List.cons.inj hmark).1 hnotBom
    · rw [← List.cons_append, ← hfirst, hheaderRead] at heq
      cases heq
  · rename_i fields next' heq
    split at heq
    · rename_i rest hmark
      exact absurd (List.cons.inj hmark).1 hnotBom
    · rw [← List.cons_append, ← hfirst, hheaderRead, Option.some.injEq, Prod.mk.injEq] at heq
      obtain ⟨rfl, rfl⟩ := heq
      exact ⟨rfl, hfields, hmismatch⟩

theorem read_empty : read "" = ⟨[], [], none⟩ := by
  unfold read
  dsimp only
  rw [nextRecord_of_rest_nil rfl]

theorem writeTable_go_of_lengths (first : List String) (records : List (List String))
    (h : ∀ r ∈ records, r.length = first.length) :
    writeTable.go first records = (String.join (records.map writeRecord), none) := by
  induction records with
  | nil => rfl
  | cons r records ih =>
    have hr : (r.length != first.length) = false := by
      rw [h r List.mem_cons_self, bne_self_eq_false]
    simp only [writeTable.go, hr, Bool.false_eq_true, if_false, List.map_cons, String.join_cons,
      ih fun r' hr' => h r' (List.mem_cons_of_mem r hr')]

/-- Records all as long as the first are written one after the other, each with its line
feed, and nothing stops the writing. -/
theorem writeTable_of_lengths (first : List String) (records : List (List String))
    (h : ∀ r ∈ records, r.length = first.length) :
    writeTable (first :: records) = (String.join ((first :: records).map writeRecord), none) :=
  writeTable_go_of_lengths first (first :: records) fun r hr => by
    rcases List.mem_cons.mp hr with rfl | hr
    · rfl
    · exact h r hr

end EnergyModel.Csv
